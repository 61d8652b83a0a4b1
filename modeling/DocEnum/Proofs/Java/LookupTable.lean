import DocEnum.Proofs.Java.Literals

/-!
# The lookup table of an enum

What the generated members do when they run: the static initializer fills a table with the
constants, and two methods look a code up in it.

**Statements.** The initializer and the two methods are programs in a small language, and their
lines in a source are the printed programs (`bodyLines_eq_members`). Names are taken for what they
are meant to be, so the lookup field and a variable are different places. In the emitted Java that
is so unless the lookup field is named `m`, `e` or `code`: the variable of that name then shadows
it, and what is proved here is about the members as they are meant.

**Execution.** A statement changes the locals and the lookup field, or it leaves the member: with
a value, with an exception, or stuck where an operand is missing or of another kind. A later `put`
replaces an earlier one with the same code.

**Loop** (`exec_forEach`). One turn puts one constant (`exec_put`), and so the loop puts all in
order (`fill`). At each code the table then holds the last constant that has it (`fill_apply`,
`table?_eq`).

Main result: `lookups_find_last`. A lookup gives the last constant of a code. So every constant is
found under its own code exactly if no two constants have the same code. The check of a request asks
for distinct names but not for distinct codes, and an earlier constant of a repeated code is lost.
The codes of a comment are distinct.
-/

namespace DocEnum.Java

/-! ## Statements -/

/-- The locals and parameters of the members. -/
inductive Local where
  | m
  | e
  | argument
deriving DecidableEq, Repr

/-- The spelling of a variable. -/
def Local.name : Local → Text
  | m => "m"
  | e => "e"
  | argument => "code"

/-- The expressions of the members. -/
inductive Expression where
  | read (x : Local)
  | lookupField
  | newMap
  | codeOf (constant : Expression)
  | get (table key : Expression)
  | unmodifiable (table : Expression)
  | ofNullable (value : Expression)

/-- A text for an expression, given the name of the lookup field. -/
def Expression.text (field : Text) : Expression → Text
  | read x => x.name
  | lookupField => field
  | newMap => "new HashMap<>()"
  | codeOf constant => constant.text field ++ ".code"
  | get table key => table.text field ++ ".get(" ++ key.text field ++ ")"
  | unmodifiable table => "Collections.unmodifiableMap(" ++ table.text field ++ ")"
  | ofNullable value => "Optional.ofNullable(" ++ value.text field ++ ")"

section Text

variable (field type : Text) (x : Local) (t key value : Expression)

@[simp] theorem text_read : (Expression.read x).text field = x.name := rfl

@[simp] theorem text_lookupField : Expression.lookupField.text field = field := rfl

@[simp] theorem text_newMap : Expression.newMap.text field = "new HashMap<>()" := rfl

@[simp] theorem text_codeOf : (Expression.codeOf t).text field = t.text field ++ ".code" := rfl

@[simp] theorem text_get : (Expression.get t key).text field =
    t.text field ++ ".get(" ++ key.text field ++ ")" := rfl

@[simp] theorem text_unmodifiable : (Expression.unmodifiable t).text field =
    "Collections.unmodifiableMap(" ++ t.text field ++ ")" := rfl

@[simp] theorem text_ofNullable : (Expression.ofNullable t).text field =
    "Optional.ofNullable(" ++ t.text field ++ ")" := rfl

end Text

/-- The statements of one line. -/
inductive Action where
  | declare (type : Text) (x : Local) (value : Expression)
  | publish (table : Expression)
  | put (table : Local) (key value : Expression)
  | throwUnknown (x : Local)
  | giveBack (value : Expression)

/-- A text for an action. -/
def Action.text (field : Text) : Action → Text
  | declare type x value => type ++ " " ++ x.name ++ " = " ++ value.text field ++ ";"
  | publish table => field ++ " = " ++ table.text field ++ ";"
  | put table key value =>
    table.name ++ ".put(" ++ key.text field ++ ", " ++ value.text field ++ ");"
  | throwUnknown x =>
    "throw new IllegalArgumentException(" ++ literal unknownCode ++ " + " ++ x.name ++ ");"
  | giveBack value => "return " ++ value.text field ++ ";"

section Text

variable (field type : Text) (x : Local) (t key value : Expression)

@[simp] theorem text_declare : (Action.declare type x t).text field =
    type ++ " " ++ x.name ++ " = " ++ t.text field ++ ";" := rfl

@[simp] theorem text_publish :
    (Action.publish t).text field = field ++ " = " ++ t.text field ++ ";" := rfl

@[simp] theorem text_put : (Action.put x key value).text field =
    x.name ++ ".put(" ++ key.text field ++ ", " ++ value.text field ++ ");" := rfl

@[simp] theorem text_throwUnknown : (Action.throwUnknown x).text field =
    "throw new IllegalArgumentException(" ++ literal unknownCode ++ " + " ++ x.name ++ ");" := rfl

@[simp] theorem text_giveBack :
    (Action.giveBack t).text field = "return " ++ t.text field ++ ";" := rfl

end Text

/-- The statements of the members. -/
inductive Statement where
  | single (action : Action)
  | forEach (type : Text) (x : Local) (body : Action)
  | ifNull (x : Local) (body : Action)

/-- The lines of a statement. -/
def Statement.lines (style : Style) : Statement → List Text
  | single action => [style.line 2 (action.text style.lookupField)]
  | forEach type x body => [
    style.line 2 ("for (" ++ type ++ " " ++ x.name ++ " : values()) \x7b"),
    style.line 3 (body.text style.lookupField),
    style.line 2 "\x7d"]
  | ifNull x body => [
    style.line 2 ("if (" ++ x.name ++ " == null) \x7b"),
    style.line 3 (body.text style.lookupField),
    style.line 2 "\x7d"]

/-- Fills a map with all constants and makes it the lookup table. -/
def initializer (typeName : Text) : List Statement := [
  .single (.declare ("Map<Integer, " ++ typeName ++ ">") .m .newMap),
  .forEach typeName .e (.put .m (.codeOf (.read .e)) (.read .e)),
  .single (.publish (.unmodifiable (.read .m)))]

/-- Looks a code up that may be missing. -/
def findBody : List Statement := [
  .single (.giveBack (.ofNullable (.get .lookupField (.read .argument))))]

/-- Looks a code up that must not be missing. -/
def requireBody (typeName : Text) : List Statement := [
  .single (.declare typeName .e (.get .lookupField (.read .argument))),
  .ifNull .e (.throwUnknown .argument),
  .single (.giveBack (.read .e))]

/-- The lines of a member with a body. -/
def memberLines (style : Style) (heading : Text) (body : List Statement) : List Text :=
  style.line 1 (heading ++ " \x7b") :: (body.flatMap (Statement.lines style) ++
    [style.line 1 "\x7d"])

/-- The lines of the fields. -/
def fieldLines (style : Style) (typeName : Text) : List Text := [
  style.line 1 "private final int code;",
  [],
  style.line 1 "private final String description;",
  [],
  style.line 1 ("private static final Map<Integer, " ++ typeName ++ "> " ++
    style.lookupField ++ ";"),
  []]

theorem table_eq (style : Style) (typeName : Text) :
    style.table typeName = fieldLines style typeName ++
      (memberLines style "static" (initializer typeName) ++ [[]]) := by
  simp [Style.table, fieldLines, memberLines, initializer, Statement.lines, Local.name]

theorem lookups_eq_memberLines (style : Style) (typeName : Text) :
    style.lookups typeName =
      memberLines style ("public static Optional<" ++ typeName ++ "> " ++ style.findMethod ++
        "(int code)") findBody ++
      [] :: (memberLines style ("public static " ++ typeName ++ " " ++ style.requireMethod ++
        "(int code)") (requireBody typeName) ++ [[.char '\x7d']]) := by
  have hmessage : literal unknownCode = ("\"Unknown code: \"" : Text) := rfl
  simp [Style.lookups, memberLines, findBody, requireBody, Statement.lines, Local.name, hmessage]

/-- The lines below the constants: the fields, the initializer, what Lombok leaves out, and the two
methods. -/
def members (style : Style) (typeName : Text) : List Text :=
  fieldLines style typeName ++
    (memberLines style "static" (initializer typeName) ++
    [] :: ((if style.lombok then [] else style.accessors typeName) ++
    (memberLines style ("public static Optional<" ++ typeName ++ "> " ++ style.findMethod ++
      "(int code)") findBody ++
    [] :: (memberLines style ("public static " ++ typeName ++ " " ++ style.requireMethod ++
      "(int code)") (requireBody typeName) ++ [[.char '\x7d']]))))

/-- **Below the constants a source holds the printed members.** -/
theorem bodyLines_eq_members (style : Style) (typeName : Text) :
    bodyLines style typeName = members style typeName := by
  rw [bodyLines, members, table_eq, lookups_eq_memberLines]
  simp only [List.append_assoc, List.cons_append, List.nil_append]

/-! ## Execution -/

/-- A map from codes to constants. -/
abbrev Table := Int → Option Entry

/-- The values of the members. -/
inductive Value where
  | int (n : Int)
  | null
  | constant (entry : Entry)
  | table (t : Table)
  | optional (constant? : Option Entry)

/-- What a map gives for a key: `null` if the key is missing. -/
def Value.ofConstant? : Option Entry → Value
  | none => null
  | some entry => constant entry

/-- The variables, and the lookup field once it is assigned. -/
structure State where
  locals : Local → Option Value
  lookupField : Option Table

/-- A state with a variable set. -/
def State.set (s : State) (x : Local) (value : Value) : State :=
  { s with locals := Function.update s.locals x (some value) }

/-- How a member is left. -/
inductive Exit where
  | returned (value : Value)
  | thrown (message : Text)
  | stuck

/-- The value of an expression, if it has one. -/
def Expression.eval (s : State) : Expression → Option Value
  | read x => s.locals x
  | lookupField => s.lookupField.map .table
  | newMap => some (.table fun _ => none)
  | codeOf constant =>
    match constant.eval s with
    | some (.constant entry) => some (.int entry.code)
    | _ => none
  | get table key =>
    match table.eval s, key.eval s with
    | some (.table t), some (.int n) => some (.ofConstant? (t n))
    | _, _ => none
  | unmodifiable table =>
    match table.eval s with
    | some (.table t) => some (.table t)
    | _ => none
  | ofNullable value =>
    match value.eval s with
    | some .null => some (.optional none)
    | some (.constant entry) => some (.optional (some entry))
    | _ => none

/-- A table with a constant put under a code. -/
def Table.put (t : Table) (code : Int) (entry : Entry) : Table :=
  Function.update t code (some entry)

/-- The state after an action, unless it leaves the member. -/
def Action.exec (s : State) : Action → Except Exit State
  | declare _ x value =>
    match value.eval s with
    | some value => .ok (s.set x value)
    | none => .error .stuck
  | publish table =>
    match table.eval s with
    | some (.table t) => .ok { s with lookupField := some t }
    | _ => .error .stuck
  | put table key value =>
    match s.locals table, key.eval s, value.eval s with
    | some (.table t), some (.int n), some (.constant entry) =>
      .ok (s.set table (.table (t.put n entry)))
    | _, _, _ => .error .stuck
  | throwUnknown x =>
    match s.locals x with
    | some (.int n) => .error (.thrown (unknownCode ++ Text.ofInt n))
    | _ => .error .stuck
  | giveBack value =>
    match value.eval s with
    | some value => .error (.returned value)
    | none => .error .stuck

/-- The state after a statement, unless it leaves the member. A loop takes the constants in the
order of their declaration. -/
def Statement.exec (constants : List Entry) (s : State) : Statement → Except Exit State
  | single action => action.exec s
  | forEach _ x body =>
    constants.foldlM (fun s constant => body.exec (s.set x (.constant constant))) s
  | ifNull x body =>
    match s.locals x with
    | some .null => body.exec s
    | some _ => .ok s
    | none => .error .stuck

/-- Runs statements in order. -/
def run (constants : List Entry) (s : State) (body : List Statement) : Except Exit State :=
  body.foldlM (Statement.exec constants) s

namespace Request

variable (request : Request)

/-- The lookup table after the static initializer. -/
def table? : Option Table :=
  match run request.entries ⟨fun _ => none, none⟩ (initializer request.typeName) with
  | .ok s => s.lookupField
  | .error _ => none

/-- The state in which a method with a code starts. -/
def called (code : Int) : State :=
  State.set ⟨fun _ => none, request.table?⟩ .argument (.int code)

/-- Calls a method with a code. -/
def call (body : List Statement) (code : Int) : Exit :=
  match run request.entries (request.called code) body with
  | .ok _ => .stuck
  | .error exit => exit

/-- Calls the method for codes that may be missing. -/
def find (code : Int) : Exit :=
  request.call findBody code

/-- Calls the method for codes that must not be missing. -/
def require (code : Int) : Exit :=
  request.call (requireBody request.typeName) code

end Request

/-! ## The loop -/

/-- A table after putting constants in order. -/
def fill (t : Table) (constants : List Entry) : Table :=
  constants.foldl (fun t constant => t.put constant.code constant) t

/-- The last of some constants that has a code. -/
def lastOf (constants : List Entry) (code : Int) : Option Entry :=
  constants.reverse.find? fun constant => constant.code = code

/-- **The last constant of a code wins.** -/
theorem fill_apply (t : Table) (constants : List Entry) (code : Int) :
    fill t constants code = (lastOf constants code).or (t code) := by
  induction constants generalizing t with
  | nil => rfl
  | cons constant rest ih =>
    have hrest := ih (t.put constant.code constant)
    unfold fill lastOf at hrest ⊢
    rw [List.foldl_cons, hrest, List.reverse_cons, List.find?_append]
    by_cases hcode : constant.code = code
    · subst hcode
      simp [Table.put]
    · simp [Table.put, hcode, Function.update_of_ne (Ne.symm hcode)]

variable {s : State} {t : Table}

/-- One turn of the loop puts one constant. -/
theorem exec_put (hmap : s.locals .m = some (.table t)) (constant : Entry) :
    (Action.put .m (.codeOf (.read .e)) (.read .e)).exec (s.set .e (.constant constant)) =
      .ok ((s.set .e (.constant constant)).set .m (.table (t.put constant.code constant))) := by
  have hm : (s.set .e (.constant constant)).locals .m = some (.table t) := by
    simpa [State.set] using hmap
  have he : (s.set .e (.constant constant)).locals .e = some (.constant constant) := by
    simp [State.set]
  simp only [Action.exec, Expression.eval, hm, he]

/-- **The loop puts all constants in order**, and it leaves the lookup field alone. -/
theorem exec_forEach (hmap : s.locals .m = some (.table t)) (typeName : Text)
    (constants : List Entry) :
    ∃ s', (Statement.forEach typeName .e
        (.put .m (.codeOf (.read .e)) (.read .e))).exec constants s = .ok s' ∧
      s'.locals .m = some (.table (fill t constants)) ∧ s'.lookupField = s.lookupField := by
  simp only [Statement.exec]
  induction constants generalizing s t with
  | nil => exact ⟨s, rfl, hmap, rfl⟩
  | cons constant rest ih =>
    have hmap' : ((s.set .e (.constant constant)).set .m
        (.table (t.put constant.code constant))).locals .m =
          some (.table (t.put constant.code constant)) := by
      simp [State.set]
    obtain ⟨s', hrest, hfilled, hfield⟩ := ih hmap'
    refine ⟨s', ?_, hfilled, hfield⟩
    rw [List.foldlM_cons, exec_put hmap constant]
    exact hrest

/-! ## The lookups -/

section Run

variable {constants : List Entry} {statement : Statement}

theorem run_cons_of_ok {s' : State} (h : statement.exec constants s = .ok s')
    (body : List Statement) : run constants s (statement :: body) = run constants s' body := by
  rw [run, List.foldlM_cons, h]
  rfl

theorem run_cons_of_error {exit : Exit} (h : statement.exec constants s = .error exit)
    (body : List Statement) : run constants s (statement :: body) = .error exit := by
  rw [run, List.foldlM_cons, h]
  rfl

end Run

variable (request : Request)

/-- **The initializer makes a table with the last constant of each code.** -/
theorem table?_eq : request.table? = some (lastOf request.entries) := by
  have hmap : (State.set ⟨fun _ => none, none⟩ .m (.table fun _ => none)).locals .m =
      some (.table fun _ => none) := by
    simp [State.set]
  obtain ⟨s, hloop, hfilled, -⟩ := exec_forEach hmap request.typeName request.entries
  -- The loop leaves the last entry of each code in the table.
  have htable : fill (fun _ => none) request.entries = lastOf request.entries := by
    funext code
    rw [fill_apply, Option.or_none]
  have hpublish : (Statement.single (.publish (.unmodifiable (.read .m)))).exec request.entries s =
      .ok { s with lookupField := some (lastOf request.entries) } := by
    simp only [Statement.exec, Action.exec, Expression.eval, hfilled, htable]
  have hrun : run request.entries ⟨fun _ => none, none⟩ (initializer request.typeName) =
      .ok { s with lookupField := some (lastOf request.entries) } := by
    unfold initializer
    rw [run_cons_of_ok rfl, run_cons_of_ok hloop, run_cons_of_ok hpublish]
    rfl
  rw [Request.table?, hrun]

/-- Both methods begin with the constant of the code. -/
theorem eval_get (code : Int) :
    (Expression.get .lookupField (.read .argument)).eval (request.called code) =
      some (.ofConstant? (lastOf request.entries code)) := by
  have hargument : (request.called code).locals .argument = some (.int code) := by
    simp [Request.called, State.set]
  have hfield : (request.called code).lookupField = some (lastOf request.entries) :=
    table?_eq request
  simp only [Expression.eval, hargument, hfield, Option.map_some]

theorem eval_ofNullable {value : Expression} {constant? : Option Entry}
    (h : value.eval s = some (.ofConstant? constant?)) :
    (Expression.ofNullable value).eval s = some (.optional constant?) := by
  rw [Expression.eval, h]
  cases constant? <;> rfl

theorem exec_declare {constants : List Entry} {value : Expression} {v : Value}
    (h : value.eval s = some v) (type : Text) (x : Local) :
    (Statement.single (.declare type x value)).exec constants s = .ok (s.set x v) := by
  rw [Statement.exec, Action.exec, h]

theorem exec_giveBack {constants : List Entry} {value : Expression} {v : Value}
    (h : value.eval s = some v) :
    (Statement.single (.giveBack value)).exec constants s = .error (.returned v) := by
  rw [Statement.exec, Action.exec, h]

theorem call_of_error {body : List Statement} {code : Int} {exit : Exit}
    (h : run request.entries (request.called code) body = .error exit) :
    request.call body code = exit := by
  rw [Request.call, h]

/-- **The first method gives the last constant of a code**, if there is one. -/
theorem find_eq (code : Int) :
    request.find code = .returned (.optional (lastOf request.entries code)) :=
  call_of_error request (run_cons_of_error (exec_giveBack (eval_ofNullable (eval_get request code)))
    [])

/-- **The second method gives the last constant of a code**, or throws an exception that names the
code. -/
theorem require_eq (code : Int) :
    request.require code = match lastOf request.entries code with
      | some entry => .returned (.constant entry)
      | none => .thrown (unknownCode ++ Text.ofInt code) := by
  refine call_of_error request ?_
  unfold requireBody
  rw [run_cons_of_ok (exec_declare (eval_get request code) request.typeName .e)]
  cases lastOf request.entries code with
  | none =>
    have hthrow : (Statement.ifNull .e (.throwUnknown .argument)).exec request.entries
        ((request.called code).set .e .null) =
          .error (.thrown (unknownCode ++ Text.ofInt code)) := by
      simp [Statement.exec, Action.exec, Request.called, State.set]
    exact run_cons_of_error hthrow _
  | some entry =>
    have hskip : (Statement.ifNull .e (.throwUnknown .argument)).exec request.entries
        ((request.called code).set .e (.constant entry)) =
          .ok ((request.called code).set .e (.constant entry)) := by
      simp [Statement.exec, State.set]
    have hread : (Expression.read .e).eval ((request.called code).set .e (.constant entry)) =
        some (.constant entry) := by
      simp [Expression.eval, State.set]
    exact (run_cons_of_ok hskip _).trans (run_cons_of_error (exec_giveBack hread) [])

/-! ## Lost constants -/

theorem lastOf_eq_some_iff_of_append {before after : List Entry} {entry : Entry}
    (hnew : entry ∉ after) :
    lastOf (before ++ entry :: after) entry.code = some entry ↔
      ∀ later ∈ after, later.code ≠ entry.code := by
  have hsplit : lastOf (before ++ entry :: after) entry.code =
      (lastOf after entry.code).or (some entry) := by
    unfold lastOf
    simp [List.find?_append]
  rw [hsplit]
  -- What the table holds of a code behind the entry hides the entry.
  cases hlast : lastOf after entry.code with
  | none =>
    have hnone := List.find?_eq_none.1 hlast
    simp only [Option.none_or, true_iff]
    intro later hlater
    simpa using hnone later (List.mem_reverse.2 hlater)
  | some last =>
    have hmem : last ∈ after := List.mem_reverse.1 (List.mem_of_find?_eq_some hlast)
    have hcode : last.code = entry.code := by simpa using List.find?_some hlast
    simp only [Option.some_or, Option.some.injEq]
    constructor
    · rintro rfl
      exact absurd hmem hnew
    · intro hlater
      exact absurd hcode (hlater last hmem)

/-- Both methods find an entry under its own code. -/
def Request.Finds (entry : Entry) : Prop :=
  request.find entry.code = .returned (.optional (some entry)) ∧
    request.require entry.code = .returned (.constant entry)

theorem finds_iff (entry : Entry) :
    request.Finds entry ↔ lastOf request.entries entry.code = some entry := by
  rw [Request.Finds, find_eq, require_eq]
  cases lastOf request.entries entry.code with
  | none => simp
  | some last => simp

theorem finds_iff_of_append {before after : List Entry} {entry : Entry}
    (hnames : (request.entries.map Entry.name).Nodup)
    (hentries : request.entries = before ++ entry :: after) :
    request.Finds entry ↔ ∀ later ∈ after, later.code ≠ entry.code := by
  have hnew : entry ∉ after := by
    have hnodup := hnames.of_map
    rw [hentries, List.nodup_append, List.nodup_cons] at hnodup
    exact hnodup.2.1.1
  rw [finds_iff, hentries, lastOf_eq_some_iff_of_append hnew]

/-- All entries are found exactly if their codes are distinct. -/
theorem forall_finds_iff (hnames : (request.entries.map Entry.name).Nodup) :
    (∀ entry ∈ request.entries, request.Finds entry) ↔
      (request.entries.map Entry.code).Nodup := by
  constructor
  · intro hfinds
    rw [List.nodup_map_iff_inj_on hnames.of_map]
    intro entry hentry other hother hcode
    have hfirst := (finds_iff request entry).1 (hfinds entry hentry)
    have hsecond := (finds_iff request other).1 (hfinds other hother)
    rw [hcode, hsecond] at hfirst
    exact (Option.some.inj hfirst).symm
  · intro hcodes entry hentry
    obtain ⟨before, after, hentries⟩ := List.append_of_mem hentry
    rw [finds_iff_of_append request hnames hentries]
    intro later hlater hcode
    rw [hentries, List.map_append, List.map_cons, List.nodup_append, List.nodup_cons] at hcodes
    exact hcodes.2.1.1 (hcode ▸ List.mem_map_of_mem hlater)

theorem lastOf_eq_none {constants : List Entry} {code : Int}
    (h : ∀ constant ∈ constants, constant.code ≠ code) : lastOf constants code = none :=
  List.find?_eq_none.2 fun constant hconstant => by
    simpa using h constant (List.mem_reverse.1 hconstant)

/-- **What the lookups of a source find.** Below its constants, an accepted request has a source
with the printed initializer and methods. Run with their names taken as meant, they find the last
constant of every code; a code that no entry has is absent. So an entry is lost exactly if a later
one has its code, and none is lost exactly if the codes are distinct, as those of every comment are.
A lookup field named `m`, `e` or `code` is shadowed in the emitted Java, where its members do not
run as meant. -/
theorem lookups_find_last {style : Style} {source : Text}
    (hsource : generate style request = .ok source) :
    source = linesText (headerLines style request.package ++ Style.opening request.typeName ::
      [] :: (style.constants request.entries ++ [] :: members style request.typeName)) ∧
    (∀ code, request.find code = .returned (.optional (lastOf request.entries code)) ∧
      request.require code = match lastOf request.entries code with
        | some entry => .returned (.constant entry)
        | none => .thrown (unknownCode ++ Text.ofInt code)) ∧
    (∀ code, (∀ entry ∈ request.entries, entry.code ≠ code) →
      request.find code = .returned (.optional none) ∧
        request.require code = .thrown (unknownCode ++ Text.ofInt code)) ∧
    (∀ before entry after, request.entries = before ++ entry :: after →
      (request.Finds entry ↔ ∀ later ∈ after, later.code ≠ entry.code)) ∧
    ((∀ entry ∈ request.entries, request.Finds entry) ↔
      (request.entries.map Entry.code).Nodup) ∧
    ∀ raw, request.entries = Entry.parse raw → ∀ entry ∈ request.entries, request.Finds entry := by
  obtain ⟨hfault, rfl⟩ := generate_eq_ok_iff.1 hsource
  obtain ⟨-, -, -, -, hconstants⟩ := fault?_eq_none_iff.1 hfault
  have hnames := (constantFault?_eq_none_iff.1 hconstants).2.1
  have hall := forall_finds_iff request hnames
  refine ⟨?_, fun code => ⟨find_eq request code, require_eq request code⟩, fun code hcode => ?_,
    fun before entry after hentries => finds_iff_of_append request hnames hentries, hall,
    fun raw hraw => hall.2 ?_⟩
  · rw [render_eq_linesText, sourceLines_eq, bodyLines_eq_members]
  · have hnone := lastOf_eq_none hcode
    rw [find_eq, require_eq, hnone]
    exact ⟨rfl, rfl⟩
  · rw [hraw]
    exact (Entry.valid_parse raw).codes_nodup

/-- Two constants with distinct codes, in the order of their names, are found. -/
theorem lookups_find_last_two :
    let request : Request := ⟨"", "T", [⟨"A", 7, "a"⟩, ⟨"B", -1, "b"⟩]⟩
    generate {} request = .ok (render {} request) ∧ request.Finds ⟨"A", 7, "a"⟩ ∧
      request.require 3 = .thrown "Unknown code: 3" := by
  intro request
  have hsource : generate {} request = .ok (render {} request) :=
    generate_eq_ok_iff.2 ⟨by decide, rfl⟩
  obtain ⟨-, -, habsent, hfinds, -⟩ := lookups_find_last request hsource
  refine ⟨hsource, (hfinds [] _ _ rfl).2 (by decide), ?_⟩
  exact (habsent 3 (by decide)).2

/-- A request with a repeated code is accepted, and its lookups do not find the first constant. -/
theorem not_finds_repeated :
    let request : Request := ⟨"", "T", [⟨"A", 1, "a"⟩, ⟨"B", 1, "b"⟩]⟩
    generate {} request = .ok (render {} request) ∧ ¬request.Finds ⟨"A", 1, "a"⟩ ∧
      request.find 1 = .returned (.optional (some ⟨"B", 1, "b"⟩)) := by
  intro request
  have hlast : lastOf request.entries 1 = some ⟨"B", 1, "b"⟩ := by decide
  refine ⟨generate_eq_ok_iff.2 ⟨by decide, rfl⟩, ?_, by rw [find_eq, hlast]⟩
  rw [finds_iff, hlast]
  decide

end DocEnum.Java
