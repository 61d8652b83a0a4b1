import DocEnum.File.Fault
import DocEnum.Text.Similar
import DocEnum.Text.Width

/-!
# Command-line arguments

**Switches.** A switch has long names (`--output`), short names (`-o`), and either takes a value or
sets a flag. A value follows as the next argument, after `=` for a long name, or directly for
a short one; short names without values can be joined.

**Reading.** `read` splits arguments into settings and positional arguments. Everything after
`--` is positional. Where switches must come first, the first positional argument ends them.
-/

namespace DocEnum.CommandLine

/-- What the user got wrong. -/
inductive UsageFault where
  | missingCommand
  | noSuchCommand (name : Text)
  | noSuchSwitch (name : Text) (similar : List Text)
  | valueMissing (name : Text)
  | valueRefused (name : Text)
  | missingArgument (name : Text)
  | missingSwitch (names : Text)
  | extraArguments (arguments : List Text)
  | invalidValue (reason : Text)
  /-- A path that is refused before any file is looked at. -/
  | invalidPath (parameter : Text) (cause : File.Cause)
  /-- A fault at the place of a command, and the commands that are like what stands there. -/
  | atCommand (fault : UsageFault) (similar : List Text)
deriving DecidableEq, Repr

namespace UsageFault

/-- A text with its control characters written as escapes. -/
def visible (t : Text) : Text :=
  t.flatMap fun c => if Text.isControl c then "\\x" ++ Text.hex 2 c.toNat else [c]

def headline : UsageFault → Text
  | missingCommand => "Missing command."
  | noSuchCommand name => "No such command " ++ Text.quoted name ++ "."
  | noSuchSwitch name _ => "No such option: " ++ visible name
  | valueMissing name => "Option " ++ Text.quoted name ++ " requires an argument."
  | valueRefused name => "Option " ++ Text.quoted name ++ " does not take a value."
  | missingArgument name => "Missing argument '" ++ name ++ "'."
  | missingSwitch names => "Missing option " ++ names ++ "."
  | extraArguments arguments =>
    "Got unexpected extra argument(s) (" ++ visible (Text.joinWith " " arguments) ++ ")"
  | invalidValue reason => "Invalid value: " ++ reason
  | invalidPath parameter cause =>
    "Invalid value for " ++ parameter ++ ": Value error, " ++ cause.wording
  | atCommand fault [] => fault.headline
  | atCommand fault similar =>
    Text.trimEnd (· == .char '.') fault.headline ++ ". Did you mean " ++
      Text.joinWith ", " (similar.map Text.quoted) ++ "?"

def offers : UsageFault → List Text
  | noSuchSwitch _ similar => similar.mergeSort Text.atMost
  | atCommand fault _ => fault.offers
  | _ => []

def message (fault : UsageFault) : Text :=
  match fault.offers with
  | [] => fault.headline
  | offers => fault.headline ++ " (Possible options: " ++ Text.joinWith ", " offers ++ ")"

end UsageFault

/-! ## Switches -/

inductive Key where
  | help
  | completion
  | verbose
  | output
  | typeName
  | package
  | outputDirectory
  | lombok
  | force
  | stdout
  | suffix
  | format
deriving DecidableEq, Repr

structure Switch where
  names : List Text
  key : Key
  /-- The flag it sets; a switch without one takes a value. -/
  flag : Option Bool

inductive Setting where
  | flag (on : Bool)
  | value (t : Text)
deriving DecidableEq, Repr

abbrev Settings := List (Key × Setting)

namespace Settings

/-- The last value given for a key. -/
def value? (settings : Settings) (key : Key) : Option Text :=
  settings.reverse.findSome? fun
    | (k, .value t) => if k = key then some t else none
    | _ => none

/-- The last flag given for a key, or the usual one. -/
def flag (settings : Settings) (key : Key) (usual : Bool) : Bool :=
  (settings.reverse.findSome? fun
    | (k, .flag on) => if k = key then some on else none
    | _ => none).getD usual

end Settings

/-! ## Reading -/

def find? (switches : List Switch) (name : Text) : Option Switch :=
  switches.find? fun switch => switch.names.contains name

/-- The fault of a long name that no switch has; long names like it are offered. -/
def unknownSwitch (switches : List Switch) (name : Text) : UsageFault :=
  let long := (switches.flatMap Switch.names).filter (Text.startsWith "--")
  .noSuchSwitch name (Text.similar name long)

/-- What one argument says: settings, and maybe a switch whose value is the next argument. -/
structure Reading where
  settings : Settings
  pending : Option (Text × Key)

/-- Joined short names, after the settings already read. -/
def readShort (switches : List Switch) (settings : Settings) :
    Text → Except UsageFault Reading
  | [] => .ok ⟨settings, none⟩
  | c :: rest =>
    let name : Text := ['-', c]
    match find? switches name with
    | none => .error (.noSuchSwitch name [])
    | some switch =>
      match switch.flag with
      | some on => readShort switches (settings ++ [(switch.key, .flag on)]) rest
      | none =>
        if rest.isEmpty then .ok ⟨settings, some (name, switch.key)⟩
        else .ok ⟨settings ++ [(switch.key, .value rest)], none⟩

def readSwitch (switches : List Switch) (argument : Text) : Except UsageFault Reading :=
  let name := argument.takeWhile (· != .char '=')
  let explicit := argument.drop (name.length + 1)
  let hasExplicit := name.length < argument.length
  let isLong := Text.startsWith "--" argument
  match if isLong then find? switches name else none with
  | some switch =>
    match switch.flag with
    | some on =>
      if hasExplicit then .error (.valueRefused name) else .ok ⟨[(switch.key, .flag on)], none⟩
    | none =>
      if hasExplicit then .ok ⟨[(switch.key, .value explicit)], none⟩
      else .ok ⟨[], some (name, switch.key)⟩
  | none =>
    if isLong then .error (unknownSwitch switches name) else readShort switches [] argument.tail

/-- Arguments split into settings and positional arguments, in order. -/
def read (switches : List Switch) (switchesFirst : Bool) :
    List Text → Except UsageFault (Settings × List Text)
  | [] => .ok ([], [])
  | argument :: rest =>
    if argument = ("--" : Text) then .ok ([], rest)
    else if argument.head? == some (.char '-') && argument.length != 1 then
      match readSwitch switches argument with
      | .error fault => .error fault
      | .ok ⟨settings, none⟩ =>
        (read switches switchesFirst rest).map fun (more, positional) =>
          (settings ++ more, positional)
      | .ok ⟨settings, some (name, key)⟩ =>
        match rest with
        | [] => .error (.valueMissing name)
        | value :: rest =>
          (read switches switchesFirst rest).map fun (more, positional) =>
            (settings ++ (key, .value value) :: more, positional)
    else if switchesFirst then .ok ([], argument :: rest)
    else
      (read switches switchesFirst rest).map fun (settings, positional) =>
        (settings, argument :: positional)

end DocEnum.CommandLine
