import DocEnum.Text.Basic

/-!
# Log records and loggers

**Records.** A record has a level and a message. Records are kept in the order they were made.

**Loggers.** All loggers live under one root; `loggerName` gives the full name of a logger.
`Logger.configure` switches the root logger between debug and warning level and leaves it with
exactly one handler, whatever it had before.
-/

namespace DocEnum

/-- How serious a record is. -/
inductive Level where
  | debug
  | info
  | warning
deriving DecidableEq, Repr

namespace Level

def label : Level → Text
  | debug => "DEBUG"
  | info => "INFO"
  | warning => "WARNING"

def rank : Level → Nat
  | debug => 0
  | info => 1
  | warning => 2

end Level

structure Record where
  level : Level
  message : Text
deriving DecidableEq, Repr

/-! ## Loggers -/

/-- The logger above all others. -/
def rootLogger : Text := "enumgen"

/-- The full name of the logger asked for: the root for no name, the name itself if it already
begins with the root's, else the name under the root. -/
def loggerName : Option Text → Text
  | none => rootLogger
  | some [] => rootLogger
  | some name =>
    if Text.startsWith rootLogger name then name else rootLogger ++ "." ++ name

/-- What a logger does with its records. -/
structure Logger where
  name : Text
  level : Level
  propagate : Bool
  handlers : List Level
deriving DecidableEq, Repr

/-- The level of a run: from debug when verbose, from warning otherwise. -/
def Level.ofVerbose (verbose : Bool) : Level :=
  if verbose then .debug else .warning

namespace Logger

def initial : Logger :=
  ⟨rootLogger, .warning, true, []⟩

/-- One handler of the chosen level, and nothing passed on. -/
def configure (logger : Logger) (verbose : Bool) : Logger :=
  { logger with
    level := Level.ofVerbose verbose
    propagate := false
    handlers := [Level.ofVerbose verbose] }

/-- The logger after each of several configurations in turn. -/
def configureAll (logger : Logger) : List Bool → List Logger
  | [] => []
  | verbose :: rest =>
    let logger := logger.configure verbose
    logger :: logger.configureAll rest

end Logger

end DocEnum
