import Mathlib
import DocEnum.Log
import DocEnum.Proofs.Text

/-!
# Loggers under one switch

Which loggers follow the configuration of the root logger.

**Hierarchy** (`IsUnder`). A logger is under another one if its name is that name, or goes on with a
point behind it. A logger has a level and handlers of its own only if it is set up. Otherwise the
nearest logger above it counts that is (`effectiveLevel`), and its records go up to all handlers on
the way, as far as records are passed on (`reached`). At the end of every way is a top logger.

**Configuration** (`Switched`). After any number of calls the root logger has one handler, has the
level of the last call, and passes nothing on (`switched_of_configureAll`).

**Theorem (`switched_or_lookalike`).** The logger for a name is under the root logger, has the level
of the last call and gives each of its records to exactly one handler, unless the name is a
lookalike: it begins with the name of the root logger and goes on with another character than a
point. The logger for a lookalike has nothing to do with the configuration.

A lookalike is taken for a name under the root logger, because it begins like one
(`isUnder_loggerName_iff`). Every other name gets the point it needs.
-/

namespace DocEnum

variable {root top : Logger} {name : Text} {names : List Text}

/-! ## Hierarchy -/

/-- A logger name is another one or goes on with a point behind it. -/
def IsUnder (above name : Text) : Prop :=
  name = above ∨ above ++ [.char '.'] <+: name

instance (above name : Text) : Decidable (IsUnder above name) :=
  inferInstanceAs (Decidable (name = above ∨ above ++ [.char '.'] <+: name))

/-- A logger name and all names it is under, the longest first. -/
def lineage (name : Text) : List Text :=
  name.inits.reverse.filter fun above => IsUnder above name

theorem mem_lineage {above : Text} : above ∈ lineage name ↔ IsUnder above name := by
  simp only [lineage, List.mem_filter, List.mem_reverse, List.mem_inits, decide_eq_true_eq]
  refine ⟨And.right, fun h => ⟨?_, h⟩⟩
  rcases h with rfl | h
  · exact List.prefix_refl name
  · exact (List.prefix_append above _).trans h

/-- The level of a logger: that of the first logger of its lineage that is set up, or else that of
the top logger. -/
def effectiveLevel (top : Logger) (known : Text → Option Logger) : List Text → Level
  | [] => top.level
  | name :: above =>
    match known name with
    | some logger => logger.level
    | none => effectiveLevel top known above

/-- The handlers that a record passes on its way up, given by their levels. -/
def reached (top : Logger) (known : Text → Option Logger) : List Text → List Level
  | [] => top.handlers
  | name :: above =>
    match known name with
    | some logger => logger.handlers ++ if logger.propagate then reached top known above else []
    | none => reached top known above

/-- The handlers that a record of a level ends up with. Neither the logger nor a handler takes a
record below its level. -/
def takers (top : Logger) (known : Text → Option Logger) (name : Text) (level : Level) :
    List Level :=
  if (effectiveLevel top known (lineage name)).rank ≤ level.rank then
    (reached top known (lineage name)).filter fun handler => handler.rank ≤ level.rank
  else []

/-! ## One logger that is set up -/

/-- Only the given logger is set up. -/
def only (logger : Logger) (name : Text) : Option Logger :=
  if name = logger.name then some logger else none

theorem only_self (root : Logger) : only root root.name = some root :=
  if_pos rfl

theorem only_of_ne (h : name ≠ root.name) : only root name = none :=
  if_neg h

theorem effectiveLevel_of_mem (h : root.name ∈ names) :
    effectiveLevel top (only root) names = root.level := by
  induction names with
  | nil => cases h
  | cons name names ih =>
    by_cases hname : name = root.name
    · rw [hname, effectiveLevel, only_self]
    · rw [effectiveLevel, only_of_ne hname, ih ((List.mem_cons.1 h).resolve_left (Ne.symm hname))]

theorem effectiveLevel_of_not_mem (h : root.name ∉ names) :
    effectiveLevel top (only root) names = top.level := by
  induction names with
  | nil => rfl
  | cons name names ih =>
    rw [List.mem_cons, not_or] at h
    rw [effectiveLevel, only_of_ne (Ne.symm h.1), ih h.2]

theorem reached_of_mem (hpropagate : root.propagate = false) (h : root.name ∈ names) :
    reached top (only root) names = root.handlers := by
  induction names with
  | nil => cases h
  | cons name names ih =>
    by_cases hname : name = root.name
    · rw [hname, reached, only_self]
      simp [hpropagate]
    · rw [reached, only_of_ne hname, ih ((List.mem_cons.1 h).resolve_left (Ne.symm hname))]

theorem reached_of_not_mem (h : root.name ∉ names) :
    reached top (only root) names = top.handlers := by
  induction names with
  | nil => rfl
  | cons name names ih =>
    rw [List.mem_cons, not_or] at h
    rw [reached, only_of_ne (Ne.symm h.1), ih h.2]

/-! ## Configuration -/

/-- A logger after a configuration: one handler, its level and the handler's that of the call, and
nothing passed on. -/
structure Switched (verbose : Bool) (logger : Logger) : Prop where
  level : logger.level = Level.ofVerbose verbose
  handlers : logger.handlers = [Level.ofVerbose verbose]
  propagate : logger.propagate = false

theorem switched_configure (logger : Logger) (verbose : Bool) :
    Switched verbose (logger.configure verbose) :=
  ⟨rfl, rfl, rfl⟩

theorem exists_configureAll_concat (logger : Logger) (calls : List Bool) (verbose : Bool) :
    ∃ before : Logger, before.name = logger.name ∧
      logger.configureAll (calls ++ [verbose]) =
        logger.configureAll calls ++ [before.configure verbose] := by
  induction calls generalizing logger with
  | nil => exact ⟨logger, rfl, rfl⟩
  | cons call calls ih =>
    obtain ⟨before, hname, hconcat⟩ := ih (logger.configure call)
    refine ⟨before, hname, ?_⟩
    rw [List.cons_append, Logger.configureAll, hconcat]
    rfl

/-- **After any calls** the last one counts, whatever the logger was before. -/
theorem switched_of_configureAll {logger : Logger} {calls : List Bool} {verbose : Bool}
    (h : (logger.configureAll (calls ++ [verbose])).getLast? = some root) :
    root.name = logger.name ∧ Switched verbose root := by
  obtain ⟨before, hname, hconcat⟩ := exists_configureAll_concat logger calls verbose
  rw [hconcat, List.getLast?_concat, Option.some.injEq] at h
  subst h
  exact ⟨hname, switched_configure before verbose⟩

/-- **A logger under a switched one** has its level and its handler, and no other. -/
theorem Switched.takers_eq {verbose : Bool} (h : Switched verbose root)
    (hunder : IsUnder root.name name) (top : Logger) (level : Level) :
    takers top (only root) name level =
      if (Level.ofVerbose verbose).rank ≤ level.rank then [Level.ofVerbose verbose] else [] := by
  have hmem := mem_lineage.2 hunder
  rw [takers, effectiveLevel_of_mem hmem, reached_of_mem h.propagate hmem, h.level, h.handlers]
  split
  · next hle => simp [hle]
  · rfl

/-! ## Names -/

/-- A name that begins with the name of the root logger and does not go on with a point. -/
def IsLookalike (asked : Option Text) : Prop :=
  ∃ (c : CodePoint) (rest : Text), asked = some (rootLogger ++ c :: rest) ∧ c ≠ '.'

theorem loggerName_cons (c : CodePoint) (rest : Text) :
    loggerName (some (c :: rest)) =
      if Text.startsWith rootLogger (c :: rest) then c :: rest
      else rootLogger ++ [.char '.'] ++ c :: rest := rfl

theorem isUnder_append_cons_iff {above rest : Text} {c : CodePoint} :
    IsUnder above (above ++ c :: rest) ↔ c = '.' := by
  simp [IsUnder, eq_comm]

/-- **The logger for a name** is under the root logger, unless the name is a lookalike. -/
theorem isUnder_loggerName_iff (asked : Option Text) :
    IsUnder rootLogger (loggerName asked) ↔ ¬IsLookalike asked := by
  have hroot : IsUnder rootLogger rootLogger := .inl rfl
  match asked with
  | none => exact iff_of_true hroot fun ⟨_, _, h, _⟩ => by cases h
  | some [] => exact iff_of_true hroot fun ⟨_, _, h, _⟩ => by cases h
  | some (c :: rest) =>
    -- A name that starts with the root's is kept; only a point after it makes it a descendant.
    by_cases hstarts : Text.startsWith rootLogger (c :: rest) = true
    · rw [loggerName_cons, if_pos hstarts]
      obtain ⟨behind, hbehind⟩ := Text.startsWith_iff.1 hstarts
      rw [← hbehind]
      cases behind with
      | nil =>
        rw [List.append_nil]
        exact iff_of_true hroot fun ⟨_, _, h, _⟩ => by simp at h
      | cons d behind =>
        rw [isUnder_append_cons_iff]
        simp [IsLookalike]
    · rw [loggerName_cons, if_neg hstarts]
      refine iff_of_true (.inr (List.prefix_append _ _)) ?_
      rintro ⟨d, behind, h, -⟩
      exact hstarts (Text.startsWith_iff.2 ⟨d :: behind, (Option.some.inj h).symm⟩)

/-- **A logger is under the switch, or its name is a lookalike.** After any calls the root logger
has one handler. The logger for a name that is no lookalike is under it, has the level of the last
call and gives each record that it makes to this handler alone. The logger for a lookalike is not
under it, and has the level and the handlers of the top logger. -/
theorem switched_or_lookalike {logger root : Logger} {calls : List Bool} {verbose : Bool}
    (hname : logger.name = rootLogger)
    (hroot : (logger.configureAll (calls ++ [verbose])).getLast? = some root) (top : Logger)
    (asked : Option Text) :
    root.name = rootLogger ∧ root.handlers.length = 1 ∧
      (¬IsLookalike asked →
        IsUnder rootLogger (loggerName asked) ∧
        effectiveLevel top (only root) (lineage (loggerName asked)) = Level.ofVerbose verbose ∧
        ∀ level, takers top (only root) (loggerName asked) level =
          if (Level.ofVerbose verbose).rank ≤ level.rank then [Level.ofVerbose verbose] else []) ∧
      (IsLookalike asked →
        ¬IsUnder rootLogger (loggerName asked) ∧
        effectiveLevel top (only root) (lineage (loggerName asked)) = top.level ∧
        reached top (only root) (lineage (loggerName asked)) = top.handlers) := by
  obtain ⟨hsame, hswitched⟩ := switched_of_configureAll hroot
  have hrootName : root.name = rootLogger := hsame.trans hname
  have hunder := isUnder_loggerName_iff asked
  have hone : root.handlers.length = 1 := by rw [hswitched.handlers, List.length_singleton]
  refine ⟨hrootName, hone, fun hplain => ?_, fun hlookalike => ?_⟩
  · have habove : IsUnder root.name (loggerName asked) := hrootName ▸ hunder.2 hplain
    refine ⟨hunder.2 hplain, ?_, hswitched.takers_eq habove top⟩
    rw [effectiveLevel_of_mem (mem_lineage.2 habove), hswitched.level]
  · have hnot : ¬IsUnder rootLogger (loggerName asked) := fun h => hunder.1 h hlookalike
    have hmem : root.name ∉ lineage (loggerName asked) := by rwa [mem_lineage, hrootName]
    exact ⟨hnot, effectiveLevel_of_not_mem hmem, reached_of_not_mem hmem⟩

/-- One name that gets a point, and a lookalike whose records go to the top logger. -/
theorem switched_or_lookalike_two :
    let logger : Logger := ⟨rootLogger, .info, true, [.info, .debug]⟩
    let root : Logger := ⟨rootLogger, .debug, false, [.debug]⟩
    let top : Logger := ⟨"root", .warning, true, [.warning]⟩
    logger.name = rootLogger ∧
      (logger.configureAll ([true, false] ++ [true])).getLast? = some root ∧
      root.handlers.length = 1 ∧
      ¬IsLookalike (some "cli") ∧ IsUnder rootLogger "enumgen.cli" ∧
      takers top (only root) "enumgen.cli" .info = [.debug] ∧
      IsLookalike (some "enumgenx") ∧ ¬IsUnder rootLogger "enumgenx" ∧
      reached top (only root) (lineage "enumgenx") = [.warning] := by
  intro logger root top
  have hname : logger.name = rootLogger := rfl
  have hroot : (logger.configureAll ([true, false] ++ [true])).getLast? = some root := by decide
  have hcli : loggerName (some "cli") = "enumgen.cli" := by decide
  have hother : loggerName (some "enumgenx") = "enumgenx" := by decide
  have hplain : ¬IsLookalike (some "cli") := (isUnder_loggerName_iff _).1 (by decide)
  have hlookalike : IsLookalike (some "enumgenx") := ⟨'x', [], rfl, by decide⟩
  obtain ⟨-, hone, hunder, -⟩ := switched_or_lookalike hname hroot top (some "cli")
  obtain ⟨-, -, -, hbeside⟩ := switched_or_lookalike hname hroot top (some "enumgenx")
  rw [hcli] at hunder
  rw [hother] at hbeside
  exact ⟨hname, hroot, hone, hplain, (hunder hplain).1, (hunder hplain).2.2 .info, hlookalike,
    (hbeside hlookalike).1, (hbeside hlookalike).2.2⟩

/-- The logger for the name `enumgenx` is not under the root logger. -/
theorem not_isUnder_loggerName : ¬∀ asked, IsUnder rootLogger (loggerName asked) := by
  intro h
  exact absurd (h (some "enumgenx")) (by decide)

end DocEnum
