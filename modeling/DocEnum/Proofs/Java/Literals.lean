import DocEnum.Proofs.Java.SourceParts

/-!
# Literals of constants

A constant is written with two literals: its code and its description. Which of them does the
language accept?

**Readers.** `int?` and `string?` take a literal from the start of a text by the rules of the
language. A decimal numeral has no leading zero, nothing that goes on as a number stands behind it,
and its value has 31 bits, with one more behind a minus sign. A string literal holds no line end and
no quote of its own; a backslash in it begins an escape by a letter, a sign or up to three octal
digits. Three quotes open a text block and no string.

**Codes** (`int?_ofInt`). A printed code is read back if it has 32 bits and is no literal otherwise.

**Descriptions** (`string?_literal`). Escaping covers quotes and backslashes. So a description
without line ends is read back, and one with a line end leaves its literal open. Unicode escapes
would be replaced before literals are read. No source has one, whatever its descriptions hold
(`not_hasUnicodeEscape`), because a backslash is written for itself twice.

The check of a request looks at neither of the two. Main result: `literals_in_place`, each literal
of each accepted request in its place in the source. The entries of comments have no other literals
than legal ones.
-/

namespace DocEnum.Java

/-! ## Integer literals -/

/-- Reads a decimal numeral that nothing goes on behind: its value and the text after it. -/
def numeral? (t : Text) : Option (Nat × Text) :=
  let digits := t.takeWhile CodePoint.isDigit
  let rest := t.dropWhile CodePoint.isDigit
  let isDecimal := digits = [.char '0'] || (!digits.isEmpty && digits.head? != some (.char '0'))
  if isDecimal && !rest.head?.any (fun c => isIdentifierPart c || c == '.') then
    some (Text.toNat digits, rest)
  else none

/-- Reads an integer of 32 bits: its value and the text after it. The numeral `2 ^ 31` stands behind
a minus sign only. -/
def int? : Text → Option (Int × Text)
  | .char '-' :: t => (numeral? t).bind fun (n, rest) =>
    if n ≤ 2 ^ 31 then some (-(n : Int), rest) else none
  | t => (numeral? t).bind fun (n, rest) => if n < 2 ^ 31 then some ((n : Int), rest) else none

/-- Whether an integer has 32 bits. -/
def IsInt32 (n : Int) : Prop :=
  -2 ^ 31 ≤ n ∧ n < 2 ^ 31

instance (n : Int) : Decidable (IsInt32 n) :=
  inferInstanceAs (Decidable (_ ∧ _))

/-- A positive number is printed without a leading zero. -/
theorem head?_ofNat_ne {n : Nat} (hpos : 0 < n) : (Text.ofNat n).head? ≠ some (.char '0') := by
  induction n using Nat.strongRecOn with
  | ind n ih =>
    unfold Text.ofNat
    by_cases hn : n < 10
    · rw [Nat.toDigits_of_lt_base hn]
      interval_cases n <;> decide
    · have hrest := ih (n / 10) (by omega) (by omega)
      have hne : (Nat.toDigits 10 (n / 10)).map CodePoint.char ≠ [] := Text.ofNat_ne_nil (n / 10)
      rw [Nat.toDigits_of_base_le (by decide) (by omega), List.map_append,
        List.head?_append_of_ne_nil _ hne]
      exact hrest

/-- What must not stand behind a numeral does not. -/
def EndsNumeral (rest : Text) : Prop :=
  ∀ c ∈ rest.head?, isIdentifierPart c = false ∧ c ≠ '.'

theorem numeral?_ofNat (n : Nat) {rest : Text} (h : EndsNumeral rest) :
    numeral? (Text.ofNat n ++ rest) = some (n, rest) := by
  have hdigits : ∀ c ∈ Text.ofNat n, c.isDigit = true := fun _ => Text.isDigit_of_mem_ofNat
  have hend : ∀ c ∈ rest.head?, c.isDigit = false := by
    intro c hc
    have hpart := (h c hc).1
    by_contra hdigit
    simp [isIdentifierPart, CodePoint.isAlphanum, hdigit] at hpart
  have hdecimal : (Text.ofNat n = [.char '0'] || (!(Text.ofNat n).isEmpty &&
      (Text.ofNat n).head? != some (.char '0'))) = true := by
    rcases Nat.eq_zero_or_pos n with rfl | hpos
    · rfl
    · simp [head?_ofNat_ne hpos, Text.ofNat_ne_nil]
  have hbehind : (!rest.head?.any fun c => isIdentifierPart c || c == '.') = true := by
    cases hhead : rest.head? with
    | none => rfl
    | some c => simp [h c hhead]
  rw [numeral?, Text.takeWhile_run hdigits hend, Text.dropWhile_run hdigits hend, hdecimal, hbehind,
    Text.toNat_ofNat]
  rfl

/-- **A printed integer is a literal exactly if it has 32 bits**, and then one for its value. -/
theorem int?_ofInt (n : Int) {rest : Text} (h : EndsNumeral rest) :
    int? (Text.ofInt n ++ rest) = if IsInt32 n then some (n, rest) else none := by
  cases n with
  | ofNat n =>
    have hsign : ∀ t, Text.ofNat n ++ rest ≠ .char '-' :: t := by
      intro t heq
      obtain ⟨c, digits, hcons⟩ := List.exists_cons_of_ne_nil (Text.ofNat_ne_nil n)
      have hc : c.isDigit = true := Text.isDigit_of_mem_ofNat (hcons ▸ List.mem_cons_self)
      rw [hcons] at heq
      rw [(List.cons.inj heq).1] at hc
      cases hc
    have hrange : IsInt32 (Int.ofNat n) ↔ n < 2 ^ 31 := by
      rw [IsInt32, Int.ofNat_eq_natCast]
      omega
    rw [Text.ofInt, int?, numeral?_ofNat n h]
    · simp only [hrange]
      rfl
    · exact hsign
  | negSucc n =>
    have hrange : IsInt32 (Int.negSucc n) ↔ n + 1 ≤ 2 ^ 31 := by
      rw [IsInt32]
      omega
    rw [Text.ofInt, List.cons_append, int?, numeral?_ofNat (n + 1) h]
    simp only [hrange]
    rfl

/-! ## String literals -/

/-- The character that a letter or sign stands for after a backslash. -/
def simpleEscape? : CodePoint → Option CodePoint
  | 'b' => some '\x08'
  | 's' => some ' '
  | 't' => some '\t'
  | 'n' => some '\n'
  | 'f' => some '\x0c'
  | 'r' => some '\r'
  | '"' => some '"'
  | '\'' => some '\''
  | '\\' => some '\\'
  | _ => none

/-- Whether a character is an octal digit. -/
def isOctalDigit (c : CodePoint) : Bool :=
  '0' ≤ c && c ≤ '7'

/-- Reads an escape after its backslash: the character it stands for and the number of characters it
takes. Octal digits go on up to a value of one byte. -/
def escape? : Text → Option (CodePoint × Nat)
  | [] => none
  | c :: rest =>
    if isOctalDigit c then
      let digits := c :: (rest.takeWhile isOctalDigit).take (if c ≤ '3' then 2 else 1)
      let value := digits.foldl (fun n c => 8 * n + (c.toNat - '0'.toNat)) 0
      some (CodePoint.ofNat value, digits.length)
    else (simpleEscape? c).map fun value => (value, 1)

/-- Reads the inside of a string literal after `skip` characters that belong to the escape before:
the text it stands for and what is behind the closing quote. -/
def insideFrom : (skip : Nat) → Text → Option (Text × Text)
  | _, [] => none
  | skip + 1, _ :: rest => insideFrom skip rest
  | 0, c :: rest =>
    if c = '"' then some ([], rest)
    else if c = '\n' ∨ c = '\r' then none
    else if c = '\\' then do
      let (value, length) ← escape? rest
      let (values, rest) ← insideFrom length rest
      return (value :: values, rest)
    else (insideFrom 0 rest).map fun (values, rest) => (c :: values, rest)

/-- Reads a string literal: the text it stands for and what is behind it. -/
def string? : Text → Option (Text × Text)
  | .char '"' :: .char '"' :: .char '"' :: _ => none
  | .char '"' :: rest => insideFrom 0 rest
  | _ => none

instance (t : Text) : Decidable (OneLine t) :=
  inferInstanceAs (Decidable (_ ∧ _))

theorem insideFrom_lineEnd {c : CodePoint} (h : c = '\n' ∨ c = '\r') (t : Text) :
    insideFrom 0 (c :: t) = none := by
  rcases h with rfl | rfl <;> rfl

theorem insideFrom_escapeChar {c : CodePoint} (h : c ≠ '\n' ∧ c ≠ '\r') (t : Text) :
    insideFrom 0 (escapeChar c ++ t) =
      (insideFrom 0 t).map fun (values, rest) => (c :: values, rest) := by
  rcases escapeChar_cases c with ⟨rfl | rfl, heq⟩ | ⟨⟨hbackslash, hquote⟩, heq⟩
  · cases hinside : insideFrom 0 t <;> rw [heq, List.cons_append, insideFrom] <;>
      simp [escape?, simpleEscape?, isOctalDigit, insideFrom, hinside]
  · cases hinside : insideFrom 0 t <;> rw [heq, List.cons_append, insideFrom] <;>
      simp [escape?, simpleEscape?, isOctalDigit, insideFrom, hinside]
  · rw [heq, List.singleton_append, insideFrom, if_neg hquote, if_neg (not_or.2 h),
      if_neg hbackslash]

/-- The inside of a literal is read to its quote, or not at all if it holds a line end. -/
theorem insideFrom_escape (t rest : Text) :
    insideFrom 0 (escape t ++ .char '"' :: rest) = if OneLine t then some (t, rest) else none := by
  induction t with
  | nil =>
    rw [if_pos (by simp [OneLine])]
    rfl
  | cons c t ih =>
    rw [escape, List.flatMap_cons, ← escape, List.append_assoc]
    -- A line end is not escaped, and the literal breaks off there.
    by_cases hc : c ≠ '\n' ∧ c ≠ '\r'
    · rw [insideFrom_escapeChar hc, ih]
      by_cases ht : OneLine t
      · rw [if_pos ht, if_pos (oneLine_cons.2 ⟨hc, ht⟩)]
        rfl
      · rw [if_neg ht, if_neg fun h => ht (oneLine_cons.1 h).2]
        rfl
    · rw [if_neg fun h => hc (oneLine_cons.1 h).1]
      have hend : c = '\n' ∨ c = '\r' := by tauto
      have heq : escapeChar c = [c] := by rcases hend with rfl | rfl <;> rfl
      rw [heq, List.singleton_append, insideFrom_lineEnd hend]

/-- **A description is read back from its literal exactly if it holds no line end**; otherwise there
is no literal. -/
theorem string?_literal (t : Text) {rest : Text} (h : rest.head? ≠ some (.char '"')) :
    string? (literal t ++ rest) = if OneLine t then some (t, rest) else none := by
  have hopen : literal t ++ rest = .char '"' :: (escape t ++ .char '"' :: rest) := by simp [literal]
  -- Two quotes in a row would be an empty literal before a quote, or open a text block.
  have hstring : ∀ behind, escape t ++ .char '"' :: rest ≠ .char '"' :: .char '"' :: behind := by
    intro behind heq
    cases t with
    | nil =>
      rw [escape, List.flatMap_nil, List.nil_append] at heq
      rw [(List.cons.inj heq).2] at h
      exact h rfl
    | cons c t =>
      rw [escape, List.flatMap_cons] at heq
      rcases escapeChar_cases c with ⟨-, hc⟩ | ⟨⟨-, hne⟩, hc⟩
      · rw [hc] at heq
        cases (List.cons.inj heq).1
      · rw [hc] at heq
        exact hne (List.cons.inj heq).1
  rw [hopen, string?, insideFrom_escape]
  exact fun behind heq => hstring behind heq

/-! ## Unicode escapes -/

section Escapes

variable {style : Style} {request : Request}

theorem backslash_not_mem_bodyLines (hindent : .char '\\' ∉ style.indent)
    (hfault : fault? style request = none) :
    ∀ line ∈ bodyLines style request.typeName, .char '\\' ∉ line := by
  let p (c : CodePoint) : Bool := c != '\\'
  have hframe : ∀ c, isFrameChar c = true → p c = true := by
    intro c hc
    rw [isFrameChar, Bool.and_eq_true] at hc
    exact hc.2
  have hindent : style.indent.all p = true := by
    refine List.all_eq_true.2 fun c hc => ?_
    rw [bne_iff_ne]
    rintro rfl
    exact hindent hc
  intro line hline hmem
  exact absurd (List.all_eq_true.1 (all_bodyLines hframe hindent hfault line hline) _ hmem)
    (by decide)

/-- **No source has a Unicode escape**, under every indent without backslashes. -/
theorem not_hasUnicodeEscape (hindent : .char '\\' ∉ style.indent)
    (hfault : fault? style request = none) : ¬HasUnicodeEscape (render style request) := by
  obtain ⟨-, -, -, -, hconstants⟩ := fault?_eq_none_iff.1 hfault
  have hnames := (constantFault?_eq_none_iff.1 hconstants).1
  have hframe : ∀ c, isFrameChar c = true → isInert c = true := fun _ => isInert_of_isFrameChar
  have hopening : Inert (Style.opening request.typeName) := all_opening hframe hfault
  have hheader : ∀ line ∈ headerLines style request.package, Inert line :=
    all_headerLines hframe hfault
  -- In each line every backslash is one of a pair, so that none is left to begin an escape.
  have hlines : ∀ line ∈ style.sourceLines request, Closed line := by
    rw [sourceLines_eq]
    simp only [List.forall_mem_append, List.forall_mem_cons]
    refine ⟨fun line hline => ?_, ?_, rfl, fun line hline => ?_, rfl, fun line hline => ?_⟩
    · exact (hheader line hline).closed
    · exact hopening.closed
    · obtain ⟨entry, hentry, terminator, hterminator, rfl⟩ := mem_constants hline
      refine (closed_constant (closed_of_no_backslash hindent) (hnames entry hentry)).append
        (closed_singleton ?_)
      rcases hterminator with rfl | rfl <;> decide
    · exact closed_of_no_backslash (backslash_not_mem_bodyLines hindent hfault line hline)
  exact not_hasUnicodeEscape_of_scan (Closed.flatMap fun line hline =>
    (hlines line hline).append (closed_singleton (by decide)))

end Escapes

/-! ## Literals in their places -/

/-- What stands in a source before the literals of a constant: the lines above, the indent, the name
and a parenthesis. -/
def beforeLiterals (style : Style) (request : Request) (i : Nat) (entry : Entry) : Text :=
  linesText (headerLines style request.package ++ Style.opening request.typeName :: [] ::
    (style.constants request.entries).take i) ++ (style.indent ++ (entry.name ++ [.char '(']))

/-- Behind `before` a source goes on with a literal for the code of an entry, a comma and a literal
for its description, up to a parenthesis. -/
def LegalBehind (before source : Text) (entry : Entry) : Prop :=
  ∃ t u below, source = before ++ t ∧ int? t = some (entry.code, .char ',' :: .char ' ' :: u) ∧
    string? u = some (entry.description, .char ')' :: below)

/-- All constants of a source are written with literals for their values, and no Unicode escape
changes them. -/
def ConstantsLegal (style : Style) (request : Request) (source : Text) : Prop :=
  ¬HasUnicodeEscape source ∧ ∀ i entry, request.entries[i]? = some entry →
    LegalBehind (beforeLiterals style request i entry) source entry

section Places

variable {style : Style} {request : Request}

theorem exists_render_eq (style : Style) {i : Nat} {entry : Entry}
    (hentry : request.entries[i]? = some entry) :
    ∃ below, render style request = beforeLiterals style request i entry ++
      (Text.ofInt entry.code ++ .char ',' :: .char ' ' ::
        (literal entry.description ++ .char ')' :: below)) := by
  obtain ⟨terminator, hline⟩ : ∃ terminator, (style.constants request.entries)[i]? =
      some (style.constant entry ++ [terminator]) := by
    rw [getElem?_constants, hentry]
    exact ⟨_, rfl⟩
  obtain ⟨above, behind, hconstants, habove⟩ : ∃ above behind, style.constants request.entries =
      above ++ (style.constant entry ++ [terminator]) :: behind ∧
        (style.constants request.entries).take i = above := by
    obtain ⟨hlt, hget⟩ := List.getElem?_eq_some_iff.1 hline
    refine ⟨_, (style.constants request.entries).drop (i + 1), ?_, rfl⟩
    rw [← hget, List.getElem_cons_drop, List.take_append_drop]
  refine ⟨terminator :: .char '\n' ::
    linesText (behind ++ [] :: bodyLines style request.typeName), ?_⟩
  rw [render_eq_linesText, sourceLines_eq, beforeLiterals, habove, hconstants, constant_eq]
  simp [linesText_append, linesText_cons]

theorem int?_written (entry : Entry) (below : Text) :
    int? (Text.ofInt entry.code ++ .char ',' :: .char ' ' ::
      (literal entry.description ++ .char ')' :: below)) =
      if IsInt32 entry.code then
        some (entry.code, .char ',' :: .char ' ' ::
          (literal entry.description ++ .char ')' :: below)) else none := by
  refine int?_ofInt entry.code ?_
  rintro c ⟨⟩
  decide

theorem string?_written (entry : Entry) (below : Text) :
    string? (literal entry.description ++ .char ')' :: below) =
      if OneLine entry.description then some (entry.description, .char ')' :: below) else none :=
  string?_literal entry.description (by simp)

/-- The literals of a constant are legal exactly if its code has 32 bits and its description no line
end. -/
theorem legalBehind_iff {i : Nat} {entry : Entry} (hentry : request.entries[i]? = some entry) :
    LegalBehind (beforeLiterals style request i entry) (render style request) entry ↔
      IsInt32 entry.code ∧ OneLine entry.description := by
  obtain ⟨below, hrender⟩ := exists_render_eq style hentry
  have hcode := int?_written entry below
  have hdescription := string?_written entry below
  -- The source determines what stands behind the place, and with it what is read there.
  constructor
  · rintro ⟨t, u, behind, hsource, hint, hstring⟩
    rw [hrender] at hsource
    rw [← List.append_cancel_left hsource, hcode] at hint
    split at hint
    · next hrange =>
      simp only [Option.some.injEq, Prod.mk.injEq, true_and, List.cons.injEq] at hint
      rw [← hint, hdescription] at hstring
      split at hstring
      · next hline => exact ⟨hrange, hline⟩
      · cases hstring
    · cases hint
  · rintro ⟨hrange, hline⟩
    rw [if_pos hrange] at hcode
    rw [if_pos hline] at hdescription
    exact ⟨_, _, below, hrender, hcode, hdescription⟩

theorem constantsLegal_iff (hindent : .char '\\' ∉ style.indent)
    (hfault : fault? style request = none) :
    ConstantsLegal style request (render style request) ↔
      ∀ entry ∈ request.entries, IsInt32 entry.code ∧ OneLine entry.description := by
  constructor
  · rintro ⟨-, hlegal⟩ entry hentry
    obtain ⟨i, hi⟩ := List.mem_iff_getElem?.1 hentry
    exact (legalBehind_iff hi).1 (hlegal i entry hi)
  · intro hentries
    refine ⟨not_hasUnicodeEscape hindent hfault, fun i entry hi => ?_⟩
    exact (legalBehind_iff hi).2 (hentries entry (List.mem_of_getElem? hi))

end Places

/-- The entries of comments are written with legal literals. -/
theorem legal_parse (raw : Text) :
    ∀ entry ∈ Entry.parse raw, IsInt32 entry.code ∧ OneLine entry.description := by
  intro entry hentry
  obtain ⟨hpos, hmax⟩ := (Entry.valid_parse raw).code_range entry hentry
  refine ⟨⟨?_, ?_⟩, plain_parse raw entry hentry⟩
  · omega
  · omega

/-- **The literals of all accepted requests.** Under an indent of blanks, an accepted request has a
source without Unicode escapes. In its place a code is a literal for its value if it has 32 bits and
no literal otherwise; a description is one literal for exactly its text if it holds no line end and
no literal otherwise. So the constants are legal exactly if all codes have 32 bits and no
description holds a line end, and those of comments always are. -/
theorem literals_in_place {style : Style} {request : Request} {source : Text}
    (hindent : ∀ c ∈ style.indent, Text.isBlank c = true)
    (hsource : generate style request = .ok source) :
    ¬HasUnicodeEscape source ∧
    (∀ i entry, request.entries[i]? = some entry → ∃ code string below,
      source = beforeLiterals style request i entry ++
        (code ++ .char ',' :: .char ' ' :: (string ++ .char ')' :: below)) ∧
      int? (code ++ .char ',' :: .char ' ' :: (string ++ .char ')' :: below)) =
        (if IsInt32 entry.code then
          some (entry.code, .char ',' :: .char ' ' :: (string ++ .char ')' :: below)) else none) ∧
      string? (string ++ .char ')' :: below) =
        if OneLine entry.description then some (entry.description, .char ')' :: below) else none) ∧
    (ConstantsLegal style request source ↔
      ∀ entry ∈ request.entries, IsInt32 entry.code ∧ OneLine entry.description) ∧
    ∀ raw, request.entries = Entry.parse raw → ConstantsLegal style request source := by
  obtain ⟨hfault, rfl⟩ := generate_eq_ok_iff.1 hsource
  have hbackslash : .char '\\' ∉ style.indent := fun hmem => absurd (hindent _ hmem) (by decide)
  have hlegal := constantsLegal_iff hbackslash hfault
  refine ⟨not_hasUnicodeEscape hbackslash hfault, fun i entry hentry => ?_, hlegal,
    fun raw hraw => ?_⟩
  · obtain ⟨below, hrender⟩ := exists_render_eq style hentry
    exact ⟨_, _, below, hrender, int?_written entry below, string?_written entry below⟩
  · rw [hlegal, hraw]
    exact legal_parse raw

/-- The smallest code and a description of a quote, a backslash and the name of a Unicode escape,
below an indent of a tab. -/
theorem literals_in_place_smallest :
    let style : Style := { indent := "\t" }
    let request : Request := ⟨"", "T", [⟨"A", -2147483648, "\"\\u000a"⟩]⟩
    (∀ c ∈ style.indent, Text.isBlank c = true) ∧
      generate style request = .ok (render style request) ∧
      ConstantsLegal style request (render style request) := by
  intro style request
  have hindent : ∀ c ∈ style.indent, Text.isBlank c = true := by simp [style]; decide
  have hsource : generate style request = .ok (render style request) :=
    generate_eq_ok_iff.2 ⟨by decide, rfl⟩
  exact ⟨hindent, hsource, (literals_in_place hindent hsource).2.2.1.2 (by decide)⟩

/-- A code of more than 32 bits and a description with a line feed are accepted, but the constants
are not legal. -/
theorem not_constantsLegal :
    let large : Request := ⟨"", "T", [⟨"A", 2147483648, "a"⟩]⟩
    let broken : Request := ⟨"", "T", [⟨"A", 1, "a\nb"⟩]⟩
    (generate {} large = .ok (render {} large) ∧ ¬ConstantsLegal {} large (render {} large)) ∧
      generate {} broken = .ok (render {} broken) ∧
        ¬ConstantsLegal {} broken (render {} broken) := by
  intro large broken
  have hlarge : fault? {} large = none := by decide
  have hbroken : fault? {} broken = none := by decide
  refine ⟨⟨generate_eq_ok_iff.2 ⟨hlarge, rfl⟩, ?_⟩, generate_eq_ok_iff.2 ⟨hbroken, rfl⟩, ?_⟩
  · rw [constantsLegal_iff (by decide) hlarge]
    decide
  · rw [constantsLegal_iff (by decide) hbroken]
    decide

end DocEnum.Java
