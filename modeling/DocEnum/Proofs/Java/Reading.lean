import DocEnum.Java.Enum
import DocEnum.Proofs.Java.Acceptance

/-!
# Reading constants

A reader for the constants of an enum, which knows the grammar of sources and not how they are
written.

**Lines** (`linesOf`). A line of a source ends at a line feed, a carriage return or both together.

**Tokens.** `readInteger` reads a decimal integer and `readString` a string literal, each from the
start of a text. In a literal a backslash may stand before a backslash or a quote only, and the
first quote without one closes it.

**Constants.** `readConstant` reads one line and `readEntries` the lines between the blank line
after the opening of the enum and the next blank line. A comma ends every constant but the last,
and a semicolon the last.

**Unicode escapes** (`HasUnicodeEscape`). A backslash begins a Unicode escape if a `u` follows and
the number of backslashes right before it is even. `scan` finds out from left to right; it passes
escaped text, as two backslashes in a row leave none open.

What the tokens, the constants and their lines are written as is read back: `readInteger_ofInt`,
`readString_literal`, `readConstant_constant`, `readConstants_constants`.
-/

namespace DocEnum.Java

/-! ## Lines -/

/-- The lines of a source, the last one after the last line end. -/
def linesOf (source : Text) : List Text :=
  Text.splitOn (· == .char '\n') (Text.unifyNewlines source)

/-- Whether a line holds nothing but blanks. -/
def isBlankLine (line : Text) : Bool :=
  line.all Text.isBlank

/-- A text without line ends. -/
def OneLine (t : Text) : Prop :=
  .char '\n' ∉ t ∧ .char '\r' ∉ t

theorem oneLine_append {s t : Text} : OneLine (s ++ t) ↔ OneLine s ∧ OneLine t := by
  simp only [OneLine, List.mem_append, not_or]
  tauto

theorem oneLine_cons {c : CodePoint} {t : Text} :
    OneLine (c :: t) ↔ (c ≠ '\n' ∧ c ≠ '\r') ∧ OneLine t := by
  simp only [OneLine, List.mem_cons, not_or, ne_eq, eq_comm]
  tauto

theorem linesOf_flatMap {lines : List Text} (h : ∀ line ∈ lines, OneLine line) :
    linesOf (lines.flatMap fun line => line ++ [.char '\n']) = lines ++ [[]] := by
  have hreturn : .char '\r' ∉ lines.flatMap fun line => line ++ [.char '\n'] := by
    intro hmem
    obtain ⟨line, hline, hmem⟩ := List.mem_flatMap.1 hmem
    rcases List.mem_append.1 hmem with hmem | hmem
    · exact (h line hline).2 hmem
    · simp at hmem
  have hfeed : ∀ line ∈ lines, ∀ c ∈ line, (c == '\n') = false := by
    intro line hline c hc
    rw [beq_eq_false_iff_ne]
    rintro rfl
    exact (h line hline).1 hc
  rw [linesOf, Text.unifyNewlines_of_none hreturn]
  exact Text.splitOn_flatMap (by decide) hfeed

/-! ## Integers -/

/-- Reads a run of decimal digits: its value and the text after it. -/
def readNatural (t : Text) : Option (Nat × Text) :=
  let digits := t.takeWhile CodePoint.isDigit
  if digits.isEmpty then none else some (Text.toNat digits, t.dropWhile CodePoint.isDigit)

/-- Reads a decimal integer: its value and the text after it. -/
def readInteger : Text → Option (Int × Text)
  | .char '-' :: t => (readNatural t).map fun (n, rest) => (-(n : Int), rest)
  | t => (readNatural t).map fun (n, rest) => ((n : Int), rest)

theorem readNatural_ofNat (n : Nat) {rest : Text} (h : ∀ c ∈ rest.head?, c.isDigit = false) :
    readNatural (Text.ofNat n ++ rest) = some (n, rest) := by
  have hdigits : ∀ c ∈ Text.ofNat n, c.isDigit = true := fun _ => Text.isDigit_of_mem_ofNat
  have htake : (Text.ofNat n ++ rest).takeWhile CodePoint.isDigit = Text.ofNat n :=
    Text.takeWhile_run hdigits h
  have hdrop : (Text.ofNat n ++ rest).dropWhile CodePoint.isDigit = rest :=
    Text.dropWhile_run hdigits h
  simp [readNatural, htake, hdrop, Text.ofNat_ne_nil, Text.toNat_ofNat]

/-- **A printed integer is read back.** -/
theorem readInteger_ofInt (n : Int) {rest : Text} (h : ∀ c ∈ rest.head?, c.isDigit = false) :
    readInteger (Text.ofInt n ++ rest) = some (n, rest) := by
  cases n with
  | ofNat n =>
    have hread := readNatural_ofNat n h
    rw [Text.ofInt]
    obtain ⟨c, digits, hcons⟩ := List.exists_cons_of_ne_nil (Text.ofNat_ne_nil n)
    have hc : c.isDigit = true := Text.isDigit_of_mem_ofNat (hcons ▸ List.mem_cons_self)
    rw [hcons, List.cons_append] at hread ⊢
    rw [readInteger, hread]
    · rfl
    · intro t heq
      rw [(List.cons.inj heq).1] at hc
      simp at hc
  | negSucc n =>
    rw [Text.ofInt, List.cons_append, readInteger, readNatural_ofNat (n + 1) h]
    rfl

/-! ## String literals -/

/-- Reads the inside of a string literal: its value and the text after the closing quote. -/
def readInside : Text → Option (Text × Text)
  | [] => none
  | .char '"' :: rest => some ([], rest)
  | .char '\\' :: .char '\\' :: rest =>
    (readInside rest).map fun (value, rest) => (.char '\\' :: value, rest)
  | .char '\\' :: .char '"' :: rest =>
    (readInside rest).map fun (value, rest) => (.char '"' :: value, rest)
  | c :: rest =>
    if c == '\\' || c == '\n' || c == '\r' then none
    else (readInside rest).map fun (value, rest) => (c :: value, rest)

/-- Reads a string literal: its value and the text after it. -/
def readString : Text → Option (Text × Text)
  | .char '"' :: t => readInside t
  | _ => none

/-- A backslash or a quote gets a backslash before it, and no other character changes. -/
theorem escapeChar_cases (c : CodePoint) :
    (c = '\\' ∨ c = '"') ∧ escapeChar c = [.char '\\', c] ∨
      (c ≠ '\\' ∧ c ≠ '"') ∧ escapeChar c = [c] := by
  rw [escapeChar]
  split
  · next hc => exact .inl ⟨by simpa using hc, rfl⟩
  · next hc => exact .inr ⟨by simpa using hc, rfl⟩

theorem readInside_cons {c : CodePoint}
    (hquote : c ≠ '"') (hbackslash : c ≠ '\\') (hfeed : c ≠ '\n')
    (hreturn : c ≠ '\r') (t : Text) :
    readInside (c :: t) = (readInside t).map fun (value, rest) => (c :: value, rest) := by
  rw [readInside]
  · simp [hbackslash, hfeed, hreturn]
  all_goals simp [hquote, hbackslash]

theorem readInside_escapeChar {c : CodePoint} (hfeed : c ≠ '\n') (hreturn : c ≠ '\r') (t : Text) :
    readInside (escapeChar c ++ t) =
      (readInside t).map fun (value, rest) => (c :: value, rest) := by
  rcases escapeChar_cases c with ⟨rfl | rfl, heq⟩ | ⟨⟨hbackslash, hquote⟩, heq⟩
  · rfl
  · rfl
  · rw [heq, List.singleton_append, readInside_cons hquote hbackslash hfeed hreturn]

theorem readInside_escape {t : Text} (h : OneLine t) (rest : Text) :
    readInside (escape t ++ .char '"' :: rest) = some (t, rest) := by
  induction t with
  | nil => rfl
  | cons c t ih =>
    rw [oneLine_cons] at h
    rw [escape, List.flatMap_cons, List.append_assoc, readInside_escapeChar h.1.1 h.1.2, ← escape,
      ih h.2]
    rfl

/-- **A literal is read back**, if its text holds no line end. -/
theorem readString_literal {t : Text} (h : OneLine t) (rest : Text) :
    readString (literal t ++ rest) = some (t, rest) := by
  rw [literal, List.cons_append, List.append_assoc, readString]
  exact readInside_escape h rest

theorem oneLine_escape {t : Text} (h : OneLine t) : OneLine (escape t) := by
  induction t with
  | nil => exact h
  | cons c t ih =>
    rw [oneLine_cons] at h
    have hc : OneLine [c] := oneLine_cons.2 ⟨h.1, by simp [OneLine]⟩
    rw [escape, List.flatMap_cons, oneLine_append]
    refine ⟨?_, ih h.2⟩
    rcases escapeChar_cases c with ⟨-, heq⟩ | ⟨-, heq⟩
    · rw [heq]
      exact oneLine_cons.2 ⟨by decide, hc⟩
    · rwa [heq]

/-! ## Constants -/

/-- What a line may be indented with. -/
def isIndent (c : CodePoint) : Bool :=
  c == ' ' || c == '\t'

/-- Reads a constant from the start of a line: its entry and the text after it. -/
def readConstant (line : Text) : Option (Entry × Text) := do
  let unindented := line.dropWhile isIndent
  let name := unindented.takeWhile isIdentifierPart
  let rest ← Text.dropBeginning? "(" (unindented.dropWhile isIdentifierPart)
  let (code, rest) ← readInteger rest
  let rest ← Text.dropBeginning? ", " rest
  let (description, rest) ← readString rest
  let rest ← Text.dropBeginning? ")" rest
  return (⟨name, code, description⟩, rest)

/-- Reads the lines of all constants, with a comma after each but the last and a semicolon after
the last. -/
def readConstants : List Text → Option (List Entry)
  | [] => none
  | [line] =>
    match readConstant line with
    | some (entry, [.char ';']) => some [entry]
    | _ => none
  | line :: lines =>
    match readConstant line with
    | some (entry, [.char ',']) => (readConstants lines).map (entry :: ·)
    | _ => none

/-- The lines between the blank line after the opening of the enum and the next blank line. -/
def constantLines (source : Text) : List Text :=
  match (linesOf source).dropWhile fun line => !Text.startsWith "public enum " line with
  | _ :: blank :: rest =>
    if isBlankLine blank then rest.takeWhile fun line => !isBlankLine line else []
  | _ => []

/-- Reads the entries of an enum back from its source. -/
def readEntries (source : Text) : Option (List Entry) :=
  readConstants (constantLines source)

theorem constant_eq (style : Style) (entry : Entry) :
    style.constant entry = style.indent ++ (entry.name ++ .char '(' ::
      (Text.ofInt entry.code ++ .char ',' :: .char ' ' ::
        (literal entry.description ++ [.char ')']))) := by
  simp [Style.constant, Style.line]

/-- An entry that a constant can be read back from. -/
structure Readable (entry : Entry) : Prop where
  name : isIdentifier entry.name = true
  description : OneLine entry.description

/-- **A constant is read back.** -/
theorem readConstant_constant {style : Style} {entry : Entry}
    (hindent : ∀ c ∈ style.indent, isIndent c = true) (h : Readable entry) (rest : Text) :
    readConstant (style.constant entry ++ rest) = some (entry, rest) := by
  have hname : ∀ c ∈ entry.name, isIdentifierPart c = true :=
    fun _ => isIdentifierPart_of_mem h.name
  have hunindented : (style.constant entry ++ rest).dropWhile isIndent =
      entry.name ++ .char '(' :: (Text.ofInt entry.code ++ .char ',' :: .char ' ' ::
        (literal entry.description ++ .char ')' :: rest)) := by
    obtain ⟨c, name, hcons⟩ := List.exists_cons_of_ne_nil (isIdentifier_ne_nil h.name)
    have hc : isIndent c = false := by
      by_contra hc
      have hpart := hname c (hcons ▸ List.mem_cons_self)
      simp only [isIndent, Bool.not_eq_false, Bool.or_eq_true, beq_iff_eq] at hc
      rcases hc with rfl | rfl <;> simp [isIdentifierPart] at hpart
    rw [constant_eq, List.append_assoc, Text.dropWhile_run hindent (by simpa [hcons] using hc)]
    simp
  have hparen : ∀ t : Text, ∀ c ∈ (.char '(' :: t).head?, isIdentifierPart c = false := by
    simp [isIdentifierPart]
  have hcode : readInteger (Text.ofInt entry.code ++ .char ',' :: .char ' ' ::
      (literal entry.description ++ .char ')' :: rest)) =
        some (entry.code, .char ',' :: .char ' ' ::
          (literal entry.description ++ .char ')' :: rest)) :=
    readInteger_ofInt entry.code (by simp)
  rw [readConstant, hunindented, Text.takeWhile_run hname (hparen _),
    Text.dropWhile_run hname (hparen _)]
  simp [Text.dropBeginning?, hcode, readString_literal h.description]

/-- **The lines of constants are read back.** -/
theorem readConstants_constants {style : Style} {entries : List Entry}
    (hindent : ∀ c ∈ style.indent, isIndent c = true) (hne : entries ≠ [])
    (h : ∀ entry ∈ entries, Readable entry) :
    readConstants (style.constants entries) = some entries := by
  induction entries with
  | nil => exact absurd rfl hne
  | cons entry entries ih =>
    rw [List.forall_mem_cons] at h
    -- Only the last constant ends in a semicolon.
    cases entries with
    | nil =>
      rw [Style.constants, readConstants]
      simp [readConstant_constant hindent h.1]
    | cons next entries =>
      have hrest := ih (by simp) h.2
      obtain ⟨line, lines, hlines⟩ : ∃ line lines, style.constants (next :: entries) =
          line :: lines := by
        cases entries <;> exact ⟨_, _, rfl⟩
      rw [hlines] at hrest
      have hcons : style.constants (entry :: next :: entries) =
          (style.constant entry ++ ",") :: line :: lines := by
        rw [← hlines]
        rfl
      rw [hcons, readConstants]
      · simp [readConstant_constant hindent h.1, hrest]
      · simp

/-- `line` spells `entry`: the indent, the name, the code and the description in their places, and
the terminator at the end. -/
def Spells (indent : Text) (entry : Entry) (terminator : CodePoint) (line : Text) : Prop :=
  ∃ digits string : Text,
    line = indent ++ entry.name ++ "(" ++ digits ++ ", " ++ string ++ ")" ++ [terminator] ∧
      readInteger digits = some (entry.code, []) ∧
      readString string = some (entry.description, [])

theorem spells_constant {style : Style} {entry : Entry} (h : Readable entry)
    (terminator : CodePoint) :
    Spells style.indent entry terminator (style.constant entry ++ [terminator]) := by
  have hcode : readInteger (Text.ofInt entry.code ++ []) = some (entry.code, []) :=
    readInteger_ofInt entry.code (by simp)
  have hdescription := readString_literal h.description []
  rw [List.append_nil] at hcode hdescription
  exact ⟨_, _, by simp [constant_eq], hcode, hdescription⟩

theorem length_constants (style : Style) (entries : List Entry) :
    (style.constants entries).length = entries.length := by
  fun_induction style.constants entries with
  | case1 => rfl
  | case2 => rfl
  | case3 entry rest _ ih => rw [List.length_cons, ih, List.length_cons]

/-- The line of each constant: a comma ends it, or a semicolon if it is the last. -/
theorem getElem?_constants (style : Style) (entries : List Entry) (i : Nat) :
    (style.constants entries)[i]? = entries[i]?.map fun entry =>
      style.constant entry ++ [if i + 1 = entries.length then .char ';' else .char ','] := by
  fun_induction style.constants entries generalizing i with
  | case1 => rfl
  | case2 entry => cases i <;> simp
  | case3 entry rest hrest ih =>
    have hne : ¬rest = [] := fun hnil => hrest hnil
    cases i with
    | zero => simp [hne]
    | succ i => simp [ih]

/-! ## Unicode escapes -/

/-- The number of backslashes at the end of a text. -/
def trailingBackslashes (t : Text) : Nat :=
  (t.reverse.takeWhile (· == .char '\\')).length

/-- Somewhere a backslash with an even number of backslashes right before it has a `u` after it. -/
def HasUnicodeEscape (source : Text) : Prop :=
  ∃ before after, source = before ++ .char '\\' :: .char 'u' :: after ∧
    trailingBackslashes before % 2 = 0

/-- One character of a scan for Unicode escapes. A backslash is open while it may still begin an
escape; the scan fails at a `u` after it. -/
def scanChar (isOpen : Bool) (c : CodePoint) : Option Bool :=
  if isOpen && c == 'u' then none else some (c == '\\' && !isOpen)

/-- Scans a text for Unicode escapes; the result says whether a backslash is open at the end. -/
def scan (isOpen : Bool) (t : Text) : Option Bool :=
  t.foldlM scanChar isOpen

theorem scan_append (isOpen : Bool) (s t : Text) :
    scan isOpen (s ++ t) = (scan isOpen s).bind fun isOpen => scan isOpen t := by
  rw [scan, List.foldlM_append]
  rfl

theorem scan_cons (isOpen : Bool) (c : CodePoint) (t : Text) :
    scan isOpen (c :: t) = (scanChar isOpen c).bind fun isOpen => scan isOpen t := by
  rw [scan, List.foldlM_cons]
  rfl

/-- A backslash is open after an odd number of backslashes. -/
theorem trailingBackslashes_of_scan {t : Text} {isOpen : Bool} (h : scan false t = some isOpen) :
    isOpen = true ↔ trailingBackslashes t % 2 = 1 := by
  -- From the end: one more backslash changes the parity, any other character ends the run.
  induction t using List.reverseRecOn generalizing isOpen with
  | nil =>
    obtain rfl : false = isOpen := by simpa [scan] using h
    simp [trailingBackslashes]
  | append_singleton t c ih =>
    rw [scan_append, Option.bind_eq_some_iff] at h
    obtain ⟨before, hbefore, h⟩ := h
    have ih := ih hbefore
    rw [scan_cons, scanChar] at h
    split at h
    · simp at h
    · obtain rfl : (c == '\\' && !before) = isOpen := by simpa [scan] using h
      by_cases hc : c = '\\'
      · subst hc
        have hcount : trailingBackslashes (t ++ [.char '\\']) = trailingBackslashes t + 1 := by
          simp [trailingBackslashes]
        rw [hcount]
        cases before <;> simp at ih ⊢ <;> omega
      · simp [trailingBackslashes, hc]

/-- **A text that is scanned to its end has no Unicode escape.** -/
theorem not_hasUnicodeEscape_of_scan {source : Text} {isOpen : Bool}
    (h : scan false source = some isOpen) : ¬HasUnicodeEscape source := by
  rintro ⟨before, after, rfl, heven⟩
  rw [scan_append, Option.bind_eq_some_iff] at h
  obtain ⟨stateBefore, hbefore, h⟩ := h
  have hclosed : stateBefore = false := by
    rw [← Bool.not_eq_true, trailingBackslashes_of_scan hbefore]
    omega
  subst hclosed
  simp [scan_cons, scanChar] at h

/-- A text that contains no Unicode escape and leaves no backslash open. -/
def Closed (t : Text) : Prop :=
  scan false t = some false

theorem Closed.append {s t : Text} (hs : Closed s) (ht : Closed t) : Closed (s ++ t) := by
  rw [Closed, scan_append, show scan false s = some false from hs]
  exact ht

theorem Closed.flatMap {α : Type} {f : α → Text} {l : List α} (h : ∀ x ∈ l, Closed (f x)) :
    Closed (l.flatMap f) := by
  induction l with
  | nil => rfl
  | cons x l ih =>
    rw [List.forall_mem_cons] at h
    rw [List.flatMap_cons]
    exact h.1.append (ih h.2)

theorem closed_singleton {c : CodePoint} (h : c ≠ '\\') : Closed [c] := by
  simp [Closed, scan, scanChar, h]

theorem closed_cons {c : CodePoint} {t : Text} (h : c ≠ '\\') (ht : Closed t) : Closed (c :: t) :=
  (closed_singleton h).append ht

theorem closed_of_no_backslash {t : Text} (h : .char '\\' ∉ t) : Closed t := by
  rw [← List.flatMap_singleton' t]
  exact Closed.flatMap fun c hc => closed_singleton fun heq => h (heq ▸ hc)

/-- **Escaped text is closed**: it has backslashes in pairs and before quotes only. -/
theorem closed_escape (t : Text) : Closed (escape t) := by
  refine Closed.flatMap fun c _ => ?_
  rcases escapeChar_cases c with ⟨rfl | rfl, -⟩ | ⟨⟨hbackslash, -⟩, heq⟩
  · rfl
  · rfl
  · rw [heq]
    exact closed_singleton hbackslash

theorem closed_literal (t : Text) : Closed (literal t) :=
  (closed_singleton (by decide)).append ((closed_escape t).append (closed_singleton (by decide)))

end DocEnum.Java
