import Mathlib
import DocEnum.Proofs.Java.FieldParts
import DocEnum.Proofs.Java.FirstType
import DocEnum.Proofs.Java.ReadBack

/-!
# Parts of a source

A generated source is code and string literals in turn.

**Parts** (`sourceParts`). The literals of a source are its descriptions, in order, and one text in
the method that fails. What stands between them holds no quote and no slash, so no token opens there
(`valid_sourceParts`). Hence blanking puts blanks for the literals and keeps all the rest
(`blank_render`).

**One block** (`oneBlock_render`). The braces of the code are those of the enum, and inside of them
those of its members, which are balanced. Names, numbers and the indent have none.
-/

namespace DocEnum.Java

variable {s t : Text}

/-! ## Parts -/

/-- A part of a source. -/
inductive Part where
  | code (t : Text)
  | string (value : Text)

namespace Part

/-- The text of a part. -/
def text : Part → Text
  | code t => t
  | string value => literal value

/-- The text of a part with blanks for a literal. -/
def blanked : Part → Text
  | code t => t
  | string value => List.replicate (literal value).length (.char ' ')

/-- The text that a literal stands for. -/
def value? : Part → Option Text
  | code _ => none
  | string value => some value

/-- No token opens in code, and a literal ends on its line. -/
def Valid : Part → Prop
  | code t => PlainCode t
  | string value => .char '\n' ∉ value

theorem Valid.settled {part : Part} (h : part.Valid) : Settled part.text := by
  cases part with
  | code t => exact PlainCode.settled h
  | string value => exact (isToken_literal h).settled

end Part

theorem not_mem_escape (h : .char '\n' ∉ t) : .char '\n' ∉ escape t := by
  intro hmem
  obtain ⟨c, hc, hmem⟩ := List.mem_flatMap.1 hmem
  rcases escapeChar_cases c with ⟨-, heq⟩ | ⟨-, heq⟩
  · rw [heq] at hmem
    rcases List.mem_pair.1 hmem with hslash | rfl
    · cases hslash
    · exact h hc
  · rw [heq, List.mem_singleton] at hmem
    exact h (hmem ▸ hc)

theorem not_mem_literal (h : .char '\n' ∉ t) : .char '\n' ∉ literal t := by
  simp [literal, not_mem_escape h]

theorem blank_literal (h : .char '\n' ∉ t) :
    blank (literal t) = List.replicate (literal t).length (.char ' ') := by
  rw [(isToken_literal h).blank_eq, Piece.blanked, List.eq_replicate_iff]
  refine ⟨List.length_map _, ?_⟩
  intro b hb
  obtain ⟨c, hc, rfl⟩ := List.mem_map.1 hb
  rw [if_neg]
  rw [beq_iff_eq]
  rintro rfl
  exact not_mem_literal h hc

theorem Part.Valid.blank_text {part : Part} (h : part.Valid) : blank part.text = part.blanked := by
  cases part with
  | code t => exact PlainCode.blank_eq h
  | string value => exact blank_literal h

/-- **Parts are blanked one by one.** -/
theorem blank_flatMap_text {parts : List Part} (h : ∀ part ∈ parts, part.Valid) :
    blank (parts.flatMap Part.text) = parts.flatMap Part.blanked := by
  induction parts with
  | nil => rfl
  | cons part parts ih =>
    rw [List.forall_mem_cons] at h
    rw [List.flatMap_cons, List.flatMap_cons, h.1.settled.blank_append, h.1.blank_text, ih h.2]

/-! ## Names and numbers -/

theorem isTypeChar_of_isIdentifier (h : isIdentifier t = true) : ∀ c ∈ t, isTypeChar c = true := by
  intro c hc
  exact isTypeChar_of_isNamePart (isNamePart_of_isIdentifierPart (isIdentifierPart_of_mem h hc))

theorem isTypeChar_of_isPackage (h : isPackage t = true) : ∀ c ∈ t, isTypeChar c = true := by
  intro c hc
  rw [isPackage, Bool.or_eq_true, List.isEmpty_iff, List.all_eq_true] at h
  rcases h with rfl | hparts
  · cases hc
  · rcases Text.mem_of_splitOn (· == .char '.') hc with hpoint | ⟨part, hpart, hc⟩
    · obtain rfl : c = '.' := by simpa using hpoint
      decide
    · exact isTypeChar_of_isIdentifier (hparts part hpart) c hc

theorem flat_ofInt (n : Int) : Flat (Text.ofInt n) := by
  have hdigits : ∀ n, Flat (Text.ofNat n) := by
    intro n
    refine flat_of_isTypeChar ?_
    intro c hc
    exact isTypeChar_of_isAlphanum (by simp [CodePoint.isAlphanum, Text.isDigit_of_mem_ofNat hc])
  cases n with
  | ofNat n => exact hdigits n
  | negSucc n =>
    have hsign : Flat [.char '-'] := by decide
    exact flat_append.2 ⟨hsign, hdigits (n + 1)⟩

/-! ## The parts of a source -/

/-- Lines, each with its line feed. -/
def linesText (lines : List Text) : Text :=
  lines.flatMap fun line => line ++ [.char '\n']

theorem linesText_append (lines lines' : List Text) :
    linesText (lines ++ lines') = linesText lines ++ linesText lines' :=
  List.flatMap_append

theorem linesText_cons (line : Text) (lines : List Text) :
    linesText (line :: lines) = line ++ .char '\n' :: linesText lines := by
  simp [linesText]

theorem render_eq_linesText (style : Style) (request : Request) :
    render style request = linesText (style.sourceLines request) := by
  unfold render linesText
  rfl

/-- The parts of the line of a constant. -/
def constantParts (style : Style) (terminator : CodePoint) (entry : Entry) : List Part := [
  .code (style.indent ++
    (entry.name ++ .char '(' :: (Text.ofInt entry.code ++ [.char ',', .char ' ']))),
  .string entry.description,
  .code [')', terminator, '\n']]

/-- The parts of the lines of the constants. -/
def constantsParts (style : Style) : List Entry → List Part
  | [] => []
  | [entry] => constantParts style ';' entry
  | entry :: rest => constantParts style ',' entry ++ constantsParts style rest

/-- The message of the method that fails. -/
def unknownCode : Text := "Unknown code: "

/-- The code between the constants and the message. -/
def codeBefore (style : Style) (typeName : Text) : Text :=
  linesText ([] :: (style.table typeName ++
    ((if style.lombok then [] else style.accessors typeName) ++
      (style.lookups typeName).take 7))) ++
    style.line 3 "throw new IllegalArgumentException("

/-- The code between the message and the end of the enum. -/
def codeBehind (style : Style) (typeName : Text) : Text :=
  " + code);\n" ++ linesText ((style.lookups typeName).drop 8).dropLast

/-- The code before the opening brace of the enum. -/
def codeAbove (style : Style) (request : Request) : Text :=
  linesText (headerLines style request.package) ++
    ("public " ++ ("enum " ++ (request.typeName ++ " ")))

/-- The parts in the braces of the enum. -/
def insideParts (style : Style) (request : Request) : List Part :=
  .code [.char '\n', .char '\n'] :: (constantsParts style request.entries ++
    [.code (codeBefore style request.typeName), .string unknownCode,
      .code (codeBehind style request.typeName)])

/-- The parts of a source. -/
def sourceParts (style : Style) (request : Request) : List Part :=
  .code (codeAbove style request) :: .code [.char '{'] ::
    (insideParts style request ++ [.code [.char '}'], .code [.char '\n']])

variable {style : Style} {request : Request} {typeName : Text}

theorem flatMap_text_constantParts (style : Style) (terminator : CodePoint) (entry : Entry) :
    (constantParts style terminator entry).flatMap Part.text =
      style.constant entry ++ [terminator, '\n'] := by
  simp [constantParts, Part.text, constant_eq]

theorem flatMap_text_constantsParts (style : Style) (entries : List Entry) :
    (constantsParts style entries).flatMap Part.text = linesText (style.constants entries) := by
  fun_induction constantsParts style entries with
  | case1 => rfl
  | case2 entry =>
    rw [flatMap_text_constantParts, Style.constants, linesText_cons]
    simp [linesText]
  | case3 entry rest hrest ih =>
    rw [List.flatMap_append, flatMap_text_constantParts, ih, Style.constants, linesText_cons]
    · simp
    · exact hrest

theorem mem_constantsParts {entries : List Entry} {part : Part}
    (hpart : part ∈ constantsParts style entries) :
    ∃ entry ∈ entries, ∃ terminator : CodePoint, (terminator = ';' ∨ terminator = ',') ∧
      part ∈ constantParts style terminator entry := by
  fun_induction constantsParts style entries with
  | case1 => cases hpart
  | case2 entry => exact ⟨entry, List.mem_cons_self, ';', .inl rfl, hpart⟩
  | case3 entry rest _ ih =>
    rcases List.mem_append.1 hpart with hpart | hpart
    · exact ⟨entry, List.mem_cons_self, ',', .inr rfl, hpart⟩
    · obtain ⟨found, hfound, terminator, hterminator, hpart⟩ := ih hpart
      exact ⟨found, List.mem_cons_of_mem _ hfound, terminator, hterminator, hpart⟩

theorem lookups_eq (style : Style) (typeName : Text) :
    style.lookups typeName = (style.lookups typeName).take 7 ++
      (style.line 3 "throw new IllegalArgumentException(" ++
        (literal unknownCode ++ " + code);")) ::
        (((style.lookups typeName).drop 8).dropLast ++ [[.char '}']]) := by
  have hthrow : style.line 3 "throw new IllegalArgumentException(\"Unknown code: \" + code);" =
      style.line 3 "throw new IllegalArgumentException(" ++
        (literal unknownCode ++ " + code);") := by
    rw [Style.line, Style.line, List.append_assoc]
    rfl
  rw [← hthrow]
  rfl

theorem linesText_lookups (style : Style) (typeName : Text) :
    linesText (style.lookups typeName) = linesText ((style.lookups typeName).take 7) ++
      (style.line 3 "throw new IllegalArgumentException(" ++
        (literal unknownCode ++ (codeBehind style typeName ++ [.char '}', .char '\n']))) := by
  have hmessage : (" + code);\n" : Text) = (" + code);" : Text) ++ [.char '\n'] := rfl
  have hempty : linesText [] = [] := rfl
  have hlookups := congrArg linesText (lookups_eq style typeName)
  rw [linesText_append, linesText_cons, linesText_append, linesText_cons, hempty] at hlookups
  rw [hlookups]
  unfold codeBehind
  rw [hmessage]
  simp only [List.append_assoc, List.cons_append, List.nil_append]

theorem linesText_bodyLines (style : Style) (typeName : Text) :
    .char '\n' :: linesText (bodyLines style typeName) = codeBefore style typeName ++
      (literal unknownCode ++ (codeBehind style typeName ++ [.char '}', .char '\n'])) := by
  unfold bodyLines codeBefore
  simp only [linesText_append, linesText_cons, linesText_lookups, List.append_assoc,
    List.cons_append, List.nil_append]

/-- **A source is made of its parts.** -/
theorem flatMap_text_sourceParts (style : Style) (request : Request) :
    (sourceParts style request).flatMap Part.text = render style request := by
  have hbody := linesText_bodyLines style request.typeName
  have hopening : Style.opening request.typeName =
      ("public " : Text) ++ (("enum " : Text) ++ (request.typeName ++ [.char ' ', .char '{'])) := by
    unfold Style.opening
    rw [List.append_assoc]
    rfl
  rw [render_eq_linesText, sourceLines_eq, linesText_append, linesText_cons, linesText_cons,
    linesText_append, linesText_cons, List.nil_append, List.nil_append, hbody, hopening,
    ← flatMap_text_constantsParts, sourceParts, insideParts, codeAbove]
  simp [Part.text]

/-- The literals of a source are the descriptions and the message. -/
theorem filterMap_value?_sourceParts (style : Style) (request : Request) :
    (sourceParts style request).filterMap Part.value? =
      request.entries.map Entry.description ++ [unknownCode] := by
  have hconstants : ∀ entries, (constantsParts style entries).filterMap Part.value? =
      entries.map Entry.description := by
    intro entries
    fun_induction constantsParts style entries with
    | case1 => rfl
    | case2 entry => rfl
    | case3 entry rest _ ih =>
      rw [List.filterMap_append, ih]
      rfl
  rw [sourceParts, insideParts]
  simp [List.filterMap_cons, Part.value?, hconstants]

/-! ## The code of a source -/

/-- The names and the indent are flat, and no description holds a line feed. -/
structure Writable (style : Style) (request : Request) : Prop where
  indent : Flat style.indent
  package : Flat request.package
  typeName : Flat request.typeName
  findMethod : Flat style.findMethod
  requireMethod : Flat style.requireMethod
  lookupField : Flat style.lookupField
  names : ∀ entry ∈ request.entries, Flat entry.name
  descriptions : ∀ entry ∈ request.entries, .char '\n' ∉ entry.description

/-- Each description stays on its line, and lines are indented by spaces and tabs. -/
structure Unbroken (style : Style) (request : Request) : Prop where
  descriptions : ∀ entry ∈ request.entries, .char '\n' ∉ entry.description
  indent : ∀ c ∈ style.indent, c = ' ' ∨ c = '\t'

theorem Unbroken.writable (h : Unbroken style request) (hfault : fault? style request = none) :
    Writable style request := by
  obtain ⟨-, htype, hpackage, ⟨hfind, hrequire, hlookup⟩, hconstants⟩ :=
    fault?_eq_none_iff.1 hfault
  have hnames := (constantFault?_eq_none_iff.1 hconstants).1
  have hflat : ∀ {name}, isIdentifier name = true → Flat name :=
    fun h => flat_of_isTypeChar (isTypeChar_of_isIdentifier h)
  have hblank : ∀ c ∈ style.indent, isPlainCode c = true ∧ isBrace c = false := by
    intro c hc
    rcases h.indent c hc with rfl | rfl <;> exact ⟨rfl, rfl⟩
  exact {
    indent := flat_of_forall hblank
    package := flat_of_isTypeChar (isTypeChar_of_isPackage hpackage)
    typeName := hflat htype
    findMethod := hflat hfind
    requireMethod := hflat hrequire
    lookupField := hflat hlookup
    names := fun entry hentry => hflat (hnames entry hentry)
    descriptions := h.descriptions }

theorem flat_flatten_replicate (h : Flat t) (steps : Nat) :
    Flat (List.replicate steps t).flatten := by
  induction steps with
  | zero => exact ⟨rfl, rfl⟩
  | succ steps ih =>
    rw [List.replicate_succ, List.flatten_cons, flat_append]
    exact ⟨h, ih⟩

theorem plainCode_line (hindent : Flat style.indent) {steps : Nat} :
    PlainCode (style.line steps t) ↔ PlainCode t := by
  rw [Style.line, plainCode_append, and_iff_right (flat_flatten_replicate hindent steps).1]

theorem braces_line (hindent : Flat style.indent) {steps : Nat} :
    braces (style.line steps t) = braces t := by
  rw [Style.line, braces_append, (flat_flatten_replicate hindent steps).2, List.nil_append]

theorem plainCode_linesText {lines : List Text} :
    PlainCode (linesText lines) ↔ ∀ line ∈ lines, PlainCode line := by
  induction lines with
  | nil => exact ⟨fun _ _ h => absurd h List.not_mem_nil, fun _ => rfl⟩
  | cons line lines ih =>
    have hfeed : isPlainCode '\n' = true := rfl
    rw [linesText_cons, plainCode_append, plainCode_cons, ih, List.forall_mem_cons,
      and_iff_right hfeed]

theorem braces_linesText (lines : List Text) : braces (linesText lines) = lines.flatMap braces := by
  induction lines with
  | nil => rfl
  | cons line lines ih =>
    have hfeed : ∀ t, braces (.char '\n' :: t) = braces t := fun _ => rfl
    rw [linesText_cons, braces_append, hfeed, ih, List.flatMap_cons]

section Code

variable (h : Writable style request)

include h

theorem plainCode_table : ∀ line ∈ style.table request.typeName, PlainCode line := by
  simp only [Style.table, List.forall_mem_cons, plainCode_line h.indent, plainCode_append,
    h.typeName.1, h.lookupField.1, and_true, true_and]
  decide

theorem braces_table : (style.table request.typeName).flatMap braces =
    [.char '{', .char '{', .char '}', .char '}'] := by
  simp only [Style.table, List.flatMap_cons, braces_line h.indent, braces_append, h.typeName.2,
    h.lookupField.2]
  decide

theorem plainCode_accessors : ∀ line ∈ style.accessors request.typeName, PlainCode line := by
  simp only [Style.accessors, List.forall_mem_cons, plainCode_line h.indent, plainCode_append,
    h.typeName.1, true_and]
  decide

theorem braces_accessors : (style.accessors request.typeName).flatMap braces =
    [.char '{', .char '}', .char '{', .char '}', .char '{', .char '}'] := by
  simp only [Style.accessors, List.flatMap_cons, braces_line h.indent, braces_append, h.typeName.2]
  decide

theorem plainCode_lookups : (∀ line ∈ (style.lookups request.typeName).take 7, PlainCode line) ∧
    ∀ line ∈ ((style.lookups request.typeName).drop 8).dropLast, PlainCode line := by
  simp only [Style.lookups, List.take_succ_cons, List.take_zero, List.drop_succ_cons,
    List.drop_zero, List.dropLast_cons_cons, List.dropLast_singleton, List.forall_mem_cons,
    plainCode_line h.indent, plainCode_append, h.typeName.1, h.findMethod.1, h.requireMethod.1,
    h.lookupField.1, and_true, true_and]
  decide

theorem braces_lookups :
    ((style.lookups request.typeName).take 7).flatMap braces =
        [.char '{', .char '}', .char '{', .char '{'] ∧
      (((style.lookups request.typeName).drop 8).dropLast).flatMap braces =
        [.char '}', .char '}'] := by
  simp only [Style.lookups, List.take_succ_cons, List.take_zero, List.drop_succ_cons,
    List.drop_zero, List.dropLast_cons_cons, List.dropLast_singleton, List.flatMap_cons,
    braces_line h.indent, braces_append, h.typeName.2, h.findMethod.2, h.requireMethod.2,
    h.lookupField.2]
  decide

theorem flat_headerLines : ∀ line ∈ headerLines style request.package, Flat line := by
  simp only [headerLines, List.forall_mem_append]
  refine ⟨⟨⟨?_, ?_⟩, by decide⟩, ?_⟩
  · rw [Style.packageLines]
    split
    · simp
    · simp only [List.forall_mem_cons, flat_append, h.package]
      decide
  · rw [Style.imports]
    split <;> decide
  · split <;> decide

theorem flat_codeAbove : Flat (codeAbove style request) := by
  have hheader := flat_headerLines h
  have hlines : Flat (linesText (headerLines style request.package)) :=
    ⟨plainCode_linesText.2 fun line hline => (hheader line hline).1, by
      rw [braces_linesText, List.flatMap_eq_nil_iff]
      exact fun line hline => (hheader line hline).2⟩
  unfold codeAbove
  simp only [flat_append, hlines, h.typeName]
  decide

theorem plainCode_codeBefore : PlainCode (codeBefore style request.typeName) := by
  have hlookups := (plainCode_lookups h).1
  have haccessors : ∀ line ∈ if style.lombok then [] else style.accessors request.typeName,
      PlainCode line := by
    split
    · simp
    · exact plainCode_accessors h
  unfold codeBefore
  rw [plainCode_append, plainCode_linesText, plainCode_line h.indent, List.forall_mem_cons,
    List.forall_mem_append, List.forall_mem_append]
  exact ⟨⟨rfl, plainCode_table h, haccessors, hlookups⟩, by decide⟩

theorem braces_codeBefore : braces (codeBefore style request.typeName) =
    [.char '{', .char '{', .char '}', .char '}'] ++
      ((if style.lombok then [] else
        [.char '{', .char '}', .char '{', .char '}', .char '{', .char '}']) ++
      [.char '{', .char '}', .char '{', .char '{']) := by
  have haccessors : (if style.lombok then [] else style.accessors request.typeName).flatMap braces =
      if style.lombok then [] else
        [.char '{', .char '}', .char '{', .char '}', .char '{', .char '}'] := by
    split
    · rfl
    · exact braces_accessors h
  have hempty : braces [] = [] := rfl
  have hthrow : braces "throw new IllegalArgumentException(" = [] := by decide
  unfold codeBefore
  rw [braces_append, braces_linesText, braces_line h.indent, hthrow, List.flatMap_cons, hempty,
    List.flatMap_append, List.flatMap_append, braces_table h, haccessors, (braces_lookups h).1,
    List.nil_append, List.append_nil]

theorem plainCode_codeBehind : PlainCode (codeBehind style request.typeName) := by
  unfold codeBehind
  rw [plainCode_append, plainCode_linesText]
  exact ⟨by decide, (plainCode_lookups h).2⟩

theorem braces_codeBehind :
    braces (codeBehind style request.typeName) = [.char '}', .char '}'] := by
  have hmessage : braces " + code);\n" = [] := by decide
  unfold codeBehind
  rw [braces_append, braces_linesText, hmessage, (braces_lookups h).2, List.nil_append]

/-! ### All parts -/

theorem flat_constant {entry : Entry} (hentry : entry ∈ request.entries) :
    Flat (style.indent ++
      (entry.name ++ .char '(' :: (Text.ofInt entry.code ++ [.char ',', .char ' ']))) := by
  have hopen : Flat [.char '('] := by decide
  have hcomma : Flat [.char ',', .char ' '] := by decide
  have hcode : Flat ([.char '('] ++ (Text.ofInt entry.code ++ [.char ',', .char ' '])) :=
    flat_append.2 ⟨hopen, flat_append.2 ⟨flat_ofInt entry.code, hcomma⟩⟩
  exact flat_append.2 ⟨h.indent, flat_append.2 ⟨h.names entry hentry, hcode⟩⟩

/-- A part among the constants is flat code or the literal of a description. -/
theorem flat_or_string_of_mem_constantsParts {part : Part}
    (hpart : part ∈ constantsParts style request.entries) :
    (∃ t, part = .code t ∧ Flat t) ∨ ∃ value, part = .string value ∧ .char '\n' ∉ value := by
  obtain ⟨entry, hentry, terminator, hterminator, hpart⟩ := mem_constantsParts hpart
  simp only [constantParts, List.mem_cons, List.not_mem_nil, or_false] at hpart
  rcases hpart with rfl | rfl | rfl
  · exact .inl ⟨_, rfl, flat_constant h hentry⟩
  · exact .inr ⟨_, rfl, h.descriptions entry hentry⟩
  · refine .inl ⟨_, rfl, ?_⟩
    rcases hterminator with rfl | rfl <;> decide

theorem valid_constantsParts : ∀ part ∈ constantsParts style request.entries, part.Valid := by
  intro part hpart
  rcases flat_or_string_of_mem_constantsParts h hpart with ⟨t, rfl, ht⟩ | ⟨value, rfl, hvalue⟩
  · exact ht.1
  · exact hvalue

theorem braces_constantsParts :
    braces ((constantsParts style request.entries).flatMap Part.blanked) = [] := by
  refine braces_eq_nil_iff.2 ?_
  intro c hc
  obtain ⟨part, hpart, hc⟩ := List.mem_flatMap.1 hc
  rcases flat_or_string_of_mem_constantsParts h hpart with ⟨t, rfl, ht⟩ | ⟨value, rfl, -⟩
  · exact braces_eq_nil_iff.1 ht.2 c hc
  · rw [(List.mem_replicate.1 hc).2]
    rfl

/-- **Tokens are literals**: none opens in the code of a source. -/
theorem valid_sourceParts : ∀ part ∈ sourceParts style request, part.Valid := by
  have hmessage : .char '\n' ∉ unknownCode := by decide
  unfold sourceParts insideParts
  simp only [List.forall_mem_cons, List.forall_mem_append, List.cons_append]
  refine ⟨(flat_codeAbove h).1, rfl, rfl, ⟨valid_constantsParts h, plainCode_codeBefore h, hmessage,
    plainCode_codeBehind h, by simp⟩, rfl, rfl, by simp⟩

/-- **Blanking a source** puts blanks for its literals. -/
theorem blank_render :
    blank (render style request) = (sourceParts style request).flatMap Part.blanked := by
  rw [← flatMap_text_sourceParts, blank_flatMap_text (valid_sourceParts h)]

theorem balanced_insideParts : Balanced ((insideParts style request).flatMap Part.blanked) := by
  have hmessage : braces (Part.string unknownCode).blanked = [] := by decide
  have hfeeds : braces (Part.code [.char '\n', .char '\n']).blanked = [] := by decide
  have hbraces : braces ((insideParts style request).flatMap Part.blanked) =
      braces (codeBefore style request.typeName) ++ braces (codeBehind style request.typeName) := by
    rw [insideParts, List.flatMap_cons, List.flatMap_append, List.flatMap_cons, List.flatMap_cons,
      List.flatMap_cons, List.flatMap_nil, List.append_nil, braces_append, braces_append,
      braces_append, braces_append, hfeeds, braces_constantsParts h, hmessage]
    rfl
  refine Balanced.of_braces ?_
  rw [hbraces, braces_codeBefore h, braces_codeBehind h]
  split <;> decide

/-- **The braces of the enum are the outermost ones.** -/
theorem oneBlock_render : OneBlock (blank (render style request)) (codeAbove style request)
    ((insideParts style request).flatMap Part.blanked) [.char '\n'] where
  code_eq := by
    rw [blank_render h, sourceParts]
    simp [Part.blanked]
  before := (flat_codeAbove h).2
  inside := balanced_insideParts h
  after := rfl

end Code

end DocEnum.Java
