import Mathlib
import DocEnum.Proofs.Java.Blanking
import DocEnum.Proofs.Java.Braces

/-!
# Parts of a field declaration

How the parts of a declaration are read, each in front of an arbitrary rest.

**Flat code** (`Flat`). In names no token opens and no block. So they count neither for the noise of
a text nor for the depth of its braces.

**Words** (`StartsWord`). Names, types and modifiers start with a character of a type name. Such a
text starts with no blank and with none of the signs between the parts, so that blanks before it are
skipped exactly.

**Forms.** Each part has a form of its own: `IsAnnotations`, `IsModifiers`, `IsArguments`,
`IsBrackets`, `isNameForm` and `IsEnding`.

**First tries.** Of the places where the next part may start, the right one is tried first behind
annotations (`IsAnnotations.exists_afterAnnotations_eq`) and behind type arguments
(`exists_closings_eq`). A modifier is always the whole first word (`word_of_afterModifier?`).
-/

namespace DocEnum.Java

variable {s t u rest : Text}

/-! ## Characters -/

/-- The code points of blanks. -/
def blankCodes : List Nat :=
  [9, 10, 11, 12, 13, 28, 29, 30, 31, 32, 0x85, 0xA0, 0x1680, 0x2000, 0x2001, 0x2002, 0x2003,
    0x2004, 0x2005, 0x2006, 0x2007, 0x2008, 0x2009, 0x200A, 0x2028, 0x2029, 0x202F, 0x205F, 0x3000]

theorem mem_blankCodes {c : CodePoint} (h : Text.isBlank c = true) : c.toNat ∈ blankCodes := by
  simp only [Text.isBlank, Bool.or_eq_true, Bool.and_eq_true, decide_eq_true_eq, beq_iff_eq] at h
  simp only [blankCodes, List.mem_cons, List.not_mem_nil, or_false]
  omega

theorem not_isWord_of_mem_blankCodes :
    ∀ n ∈ blankCodes, Text.isWord (CodePoint.ofNat n) = false := by
  decide +kernel

theorem not_isWord_of_isBlank {c : CodePoint} (h : Text.isBlank c = true) :
    Text.isWord c = false := by
  have hword := not_isWord_of_mem_blankCodes c.toNat (mem_blankCodes h)
  rwa [CodePoint.ofNat_toNat] at hword

theorem not_isTypeChar_of_isBlank {c : CodePoint} (h : Text.isBlank c = true) :
    isTypeChar c = false := by
  have hdollar : c ≠ '$' := by rintro rfl; exact absurd h (by decide)
  have hpoint : c ≠ '.' := by rintro rfl; exact absurd h (by decide)
  simp [isTypeChar, not_isWord_of_isBlank h, hdollar, hpoint]

theorem not_isBlank_of_isTypeChar {c : CodePoint} (h : isTypeChar c = true) :
    Text.isBlank c = false := by
  by_contra hblank
  rw [not_isTypeChar_of_isBlank (by simpa using hblank)] at h
  cases h

theorem isTypeChar_of_isNamePart {c : CodePoint} (h : isNamePart c = true) :
    isTypeChar c = true := by
  rw [isTypeChar, show (Text.isWord c || c == '$') = true from h]
  rfl

theorem toNat_lt_of_isAlphanum {c : CodePoint} (h : c.isAlphanum = true) : c.toNat < 128 := by
  simp only [CodePoint.isAlphanum, CodePoint.isAlpha, Bool.or_eq_true, CodePoint.isUpper_iff_toNat,
    CodePoint.isLower_iff_toNat, CodePoint.isDigit_iff_toNat] at h
  simp at h
  omega

theorem isWord_of_isAlphanum {c : CodePoint} (h : c.isAlphanum = true) : Text.isWord c = true := by
  rw [Text.isWord, if_pos (toNat_lt_of_isAlphanum h), h]
  rfl

theorem isNamePart_of_isNameStart {c : CodePoint} (h : isNameStart c = true) :
    isNamePart c = true := by
  simp only [isNameStart, Bool.or_eq_true] at h
  rcases h with (h | h) | h
  · have hword : Text.isWord c = true := isWord_of_isAlphanum (by simp [CodePoint.isAlphanum, h])
    simp [isNamePart, hword]
  · obtain rfl : c = '_' := by simpa using h
    rfl
  · obtain rfl : c = '$' := by simpa using h
    rfl

theorem isPlainCode_of_isTypeChar {c : CodePoint} (h : isTypeChar c = true) :
    isPlainCode c = true := by
  by_contra hplain
  simp only [isPlainCode, Bool.and_eq_true, bne_iff_ne, ne_eq, not_and_or, not_not] at hplain
  rcases hplain with (rfl | rfl) | rfl <;> exact absurd h (by decide)

theorem not_isBrace_of_isTypeChar {c : CodePoint} (h : isTypeChar c = true) :
    isBrace c = false := by
  by_contra hbrace
  simp only [isBrace, Bool.not_eq_false, Bool.or_eq_true, beq_iff_eq] at hbrace
  rcases hbrace with rfl | rfl <;> exact absurd h (by decide)

/-! ## Flat code -/

/-- Code without braces in which no token opens. -/
def Flat (t : Text) : Prop :=
  PlainCode t ∧ braces t = []

instance (t : Text) : Decidable (Flat t) :=
  inferInstanceAs (Decidable (_ ∧ _))

theorem flat_append : Flat (s ++ t) ↔ Flat s ∧ Flat t := by
  rw [Flat, plainCode_append, braces_append, List.append_eq_nil_iff, Flat, Flat]
  tauto

theorem flat_of_forall (h : ∀ c ∈ t, isPlainCode c = true ∧ isBrace c = false) : Flat t :=
  ⟨List.all_eq_true.2 fun c hc => (h c hc).1, braces_eq_nil_iff.2 fun c hc => (h c hc).2⟩

theorem flat_of_isTypeChar (h : ∀ c ∈ t, isTypeChar c = true) : Flat t :=
  flat_of_forall fun c hc =>
    ⟨isPlainCode_of_isTypeChar (h c hc), not_isBrace_of_isTypeChar (h c hc)⟩

theorem Flat.braceDepth_eq (h : Flat t) : braceDepth t = 0 :=
  braceDepth_of_braces h.2

/-! ## Beginnings -/

/-- A text of blanks. -/
def Blanks (t : Text) : Prop :=
  ∀ c ∈ t, Text.isBlank c = true

theorem blanks_singleton {c : CodePoint} (h : Text.isBlank c = true) : Blanks [c] := by
  simpa [Blanks] using h

/-- A text starts with a character of a type name. -/
def StartsWord (t : Text) : Prop :=
  ∃ c rest, t = c :: rest ∧ isTypeChar c = true

theorem StartsWord.append (h : StartsWord t) (rest : Text) : StartsWord (t ++ rest) := by
  obtain ⟨c, t, rfl, hc⟩ := h
  exact ⟨c, t ++ rest, rfl, hc⟩

theorem startsWord_of_forall (h : ∀ c ∈ t, isTypeChar c = true) (hne : t ≠ []) :
    StartsWord t := by
  obtain ⟨c, t, rfl⟩ := List.exists_cons_of_ne_nil hne
  exact ⟨c, t, rfl, h c List.mem_cons_self⟩

/-- A text that starts a word does not start with any other character. -/
theorem StartsWord.ne_cons (h : StartsWord t) {d : CodePoint} (hd : isTypeChar d = false)
    (rest : Text) : t ≠ d :: rest := by
  rintro rfl
  obtain ⟨c, t, heq, hc⟩ := h
  rw [(List.cons.inj heq).1, hc] at hd
  cases hd

theorem StartsWord.head_not_isBlank (h : StartsWord t) :
    ∀ c ∈ t.head?, Text.isBlank c = false := by
  obtain ⟨c, t, rfl, hc⟩ := h
  rintro d hd
  obtain rfl : c = d := by simpa using hd
  exact not_isBlank_of_isTypeChar hc

theorem StartsWord.trimStart_append (h : StartsWord t) {gap : Text} (hgap : Blanks gap) :
    Text.trimStart (gap ++ t) = t :=
  Text.trimStart_append hgap h.head_not_isBlank

theorem afterBlanks?_append {gap : Text} (hgap : Blanks gap) (hne : gap ≠ [])
    (ht : ∀ c ∈ t.head?, Text.isBlank c = false) : afterBlanks? (gap ++ t) = some t := by
  obtain ⟨b, gap, rfl⟩ := List.exists_cons_of_ne_nil hne
  have hrest : Text.trimStart (gap ++ t) = t :=
    Text.trimStart_append (fun c hc => hgap c (List.mem_cons_of_mem _ hc)) ht
  rw [List.cons_append, afterBlanks?, if_pos (hgap b List.mem_cons_self), hrest]

/-- A word does not go on with blanks. -/
theorem head_blanks_append {gap : Text} (hgap : Blanks gap)
    (ht : gap = [] → ∀ c ∈ t.head?, isTypeChar c = false) :
    ∀ c ∈ (gap ++ t).head?, isTypeChar c = false := by
  intro c hc
  cases gap with
  | nil => exact ht rfl c hc
  | cons b gap =>
    obtain rfl : b = c := by simpa using hc
    exact not_isTypeChar_of_isBlank (hgap b List.mem_cons_self)

/-! ## The end -/

/-- The end of a declaration: a semicolon, or an initial value and a semicolon. -/
inductive IsEnding : Text → Prop
  | plain {gap : Text} (hgap : Blanks gap) : IsEnding (gap ++ [.char ';'])
  | value {gap value : Text} (hgap : Blanks gap) (hvalue : .char ';' ∉ value) :
      IsEnding (gap ++ .char '=' :: (value ++ [.char ';']))

theorem IsEnding.afterSemicolon?_append {ending : Text} (h : IsEnding ending) (rest : Text) :
    afterSemicolon? (ending ++ rest) = some rest := by
  cases h with
  | @plain gap hgap =>
    have htrim : Text.trimStart (gap ++ .char ';' :: rest) = .char ';' :: rest :=
      Text.trimStart_append hgap (by simp [Text.isBlank])
    rw [List.append_assoc, List.singleton_append, afterSemicolon?, htrim]
    rfl
  | @value gap value hgap hvalue =>
    have htrim : Text.trimStart (gap ++ .char '=' :: (value ++ .char ';' :: rest)) =
        .char '=' :: (value ++ .char ';' :: rest) :=
      Text.trimStart_append hgap (by simp [Text.isBlank])
    have hdrop : (value ++ .char ';' :: rest).dropWhile (· != .char ';') = .char ';' :: rest := by
      refine Text.dropWhile_run ?_ (by simp)
      intro c hc
      rw [bne_iff_ne]
      rintro rfl
      exact hvalue hc
    simp only [List.append_assoc, List.cons_append, List.nil_append]
    rw [afterSemicolon?, htrim]
    change ((value ++ .char ';' :: rest).dropWhile (· != .char ';')).tail? = some rest
    rw [hdrop]
    rfl

/-- An end is blanks and one of two signs. -/
theorem IsEnding.exists_eq {ending : Text} (h : IsEnding ending) (rest : Text) :
    ∃ (gap : Text) (sign : CodePoint) (r : Text), ending ++ rest = gap ++ sign :: r ∧ Blanks gap ∧
      (sign = ';' ∨ sign = '=') := by
  cases h with
  | @plain gap hgap => exact ⟨gap, ';', rest, by simp, hgap, .inl rfl⟩
  | @value gap value hgap _ => exact ⟨gap, '=', value ++ .char ';' :: rest, by simp, hgap, .inr rfl⟩

theorem not_isTypeChar_of_sign {sign : CodePoint} (h : sign = ';' ∨ sign = '=') :
    isTypeChar sign = false := by
  rcases h with rfl | rfl <;> decide

theorem not_isBlank_of_sign {sign : CodePoint} (h : sign = ';' ∨ sign = '=') :
    Text.isBlank sign = false := by
  rcases h with rfl | rfl <;> decide

theorem trimStart_sign {sign : CodePoint} (hsign : sign = ';' ∨ sign = '=') {gap : Text}
    (hgap : Blanks gap) (t : Text) : Text.trimStart (gap ++ sign :: t) = sign :: t := by
  refine Text.trimStart_append hgap ?_
  intro c hc
  obtain rfl : sign = c := by simpa using hc
  exact not_isBlank_of_sign hsign

/-- No name goes on where an end starts. -/
theorem IsEnding.head_not_isTypeChar {ending : Text} (h : IsEnding ending) (rest : Text) :
    ∀ c ∈ (ending ++ rest).head?, isTypeChar c = false := by
  obtain ⟨gap, sign, r, heq, hgap, hsign⟩ := h.exists_eq rest
  rw [heq]
  refine head_blanks_append hgap ?_
  rintro - c hc
  obtain rfl : sign = c := by simpa using hc
  exact not_isTypeChar_of_sign hsign

/-! ## Names -/

/-- Whether a text has the form of a declared name. -/
def isNameForm : Text → Bool
  | [] => false
  | c :: rest => isNameStart c && rest.all isNamePart

theorem isNamePart_of_mem {name : Text} (h : isNameForm name = true) :
    ∀ c ∈ name, isNamePart c = true := by
  cases name with
  | nil => cases h
  | cons c name =>
    rw [isNameForm, Bool.and_eq_true, List.all_eq_true] at h
    intro d hd
    rcases List.mem_cons.1 hd with rfl | hd
    · exact isNamePart_of_isNameStart h.1
    · exact h.2 d hd

theorem isNameForm_ne_nil {name : Text} (h : isNameForm name = true) : name ≠ [] := by
  rintro rfl
  cases h

theorem startsWord_of_isNameForm {name : Text} (h : isNameForm name = true) :
    StartsWord name :=
  startsWord_of_forall (fun c hc => isTypeChar_of_isNamePart (isNamePart_of_mem h c hc))
    (isNameForm_ne_nil h)

theorem isNamePart_of_isIdentifierPart {c : CodePoint} (h : isIdentifierPart c = true) :
    isNamePart c = true := by
  simp only [isIdentifierPart, Bool.or_eq_true] at h
  rcases h with (h | h) | h
  · rw [isNamePart, isWord_of_isAlphanum h]
    rfl
  · obtain rfl : c = '_' := by simpa using h
    rfl
  · obtain rfl : c = '$' := by simpa using h
    rfl

theorem isNameForm_of_isIdentifierForm (h : isIdentifierForm t = true) : isNameForm t = true := by
  cases t with
  | nil => cases h
  | cons c t =>
    rw [isIdentifierForm, Bool.and_eq_true, List.all_eq_true] at h
    rw [isNameForm, Bool.and_eq_true, List.all_eq_true]
    exact ⟨h.1, fun d hd => isNamePart_of_isIdentifierPart (h.2 d hd)⟩

theorem isTypeChar_of_isIdentifierForm (h : isIdentifierForm t = true) :
    ∀ c ∈ t, isTypeChar c = true := by
  intro c hc
  exact isTypeChar_of_isNamePart (isNamePart_of_mem (isNameForm_of_isIdentifierForm h) c hc)

theorem nameAt?_append {name : Text} (h : isNameForm name = true)
    (hrest : ∀ c ∈ rest.head?, isNamePart c = false) : nameAt? (name ++ rest) = some name := by
  cases name with
  | nil => cases h
  | cons c name =>
    rw [isNameForm, Bool.and_eq_true, List.all_eq_true] at h
    rw [List.cons_append, nameAt?, if_pos h.1, Text.takeWhile_run h.2 hrest]

theorem not_isNamePart_of_not_isTypeChar {c : CodePoint} (h : isTypeChar c = false) :
    isNamePart c = false := by
  by_contra hpart
  rw [isTypeChar_of_isNamePart (by simpa using hpart)] at h
  cases h

/-! ## Brackets -/

/-- The brackets of an array type. -/
inductive IsBrackets : Text → Prop
  | nil : IsBrackets []
  | cons {gap inner rest : Text} (hgap : Blanks gap) (hinner : Blanks inner)
      (hrest : IsBrackets rest) : IsBrackets (gap ++ .char '[' :: (inner ++ .char ']' :: rest))

theorem dropArrays_of_ne (h : ∀ r, Text.trimStart t ≠ .char '[' :: r) (fuel : Nat) :
    dropArrays fuel t = t := by
  cases fuel with
  | zero => rfl
  | succ fuel =>
    rw [dropArrays]
    split
    · next r heq => exact absurd heq (h r)
    · rfl

/-- **Brackets are dropped** up to a text that starts with no further one. -/
theorem IsBrackets.dropArrays_append {brackets : Text} (h : IsBrackets brackets)
    (ht : ∀ r, Text.trimStart t ≠ .char '[' :: r) {fuel : Nat} (hfuel : brackets.length ≤ fuel) :
    dropArrays fuel (brackets ++ t) = t := by
  induction h generalizing fuel with
  | nil => exact dropArrays_of_ne ht fuel
  | @cons gap inner brackets hgap hinner _ ih =>
    simp only [List.length_append, List.length_cons] at hfuel
    obtain ⟨fuel, rfl⟩ : ∃ k, fuel = k + 1 := ⟨fuel - 1, by omega⟩
    have hopen : Text.trimStart (gap ++ .char '[' :: (inner ++ .char ']' :: (brackets ++ t))) =
        .char '[' :: (inner ++ .char ']' :: (brackets ++ t)) :=
      Text.trimStart_append hgap (by simp [Text.isBlank])
    have hclose : Text.trimStart (inner ++ .char ']' :: (brackets ++ t)) =
        .char ']' :: (brackets ++ t) :=
      Text.trimStart_append hinner (by simp [Text.isBlank])
    simp only [List.append_assoc, List.cons_append]
    rw [dropArrays, hopen]
    simp only [hclose]
    exact ih (by omega)

/-- Brackets are nothing, or start with blanks and an opening bracket. -/
theorem IsBrackets.eq_nil_or {brackets : Text} (h : IsBrackets brackets) :
    brackets = [] ∨ ∃ gap r, brackets = gap ++ .char '[' :: r ∧ Blanks gap := by
  cases h with
  | nil => exact .inl rfl
  | @cons gap inner rest hgap _ _ => exact .inr ⟨gap, _, rfl, hgap⟩

theorem IsBrackets.not_mem {brackets : Text} (h : IsBrackets brackets) {c : CodePoint}
    (hblank : Text.isBlank c = false) (hbracket : c ≠ '[' ∧ c ≠ ']') : c ∉ brackets := by
  have hgap : ∀ {gap : Text}, Blanks gap → c ∉ gap := by
    intro gap hgap hmem
    rw [hgap c hmem] at hblank
    cases hblank
  induction h with
  | nil => simp
  | cons hgap₁ hgap₂ _ ih => simp [hgap hgap₁, hgap hgap₂, ih, hbracket]

/-! ## Type arguments -/

/-- The arguments of a type: nothing, or a text in angle brackets. -/
inductive IsArguments : Text → Prop
  | none : IsArguments []
  | some {gap inside : Text} (hgap : Blanks gap)
      (hinside : ∀ c ∈ inside, endsArguments c = false) :
      IsArguments (gap ++ .char '<' :: (inside ++ [.char '>']))

/-- Arguments are nothing, or start with blanks and an opening bracket. -/
theorem IsArguments.eq_nil_or {arguments : Text} (h : IsArguments arguments) :
    arguments = [] ∨ ∃ gap inside, arguments = gap ++ .char '<' :: (inside ++ [.char '>']) ∧
      Blanks gap ∧
      ∀ c ∈ inside, endsArguments c = false := by
  cases h with
  | none => exact .inl rfl
  | @some gap inside hgap hinside => exact .inr ⟨gap, inside, rfl, hgap, hinside⟩

/-- No closing bracket is in reach behind a sign that ends the arguments. -/
theorem closings_eq_nil (hs : .char '>' ∉ s) {sign : CodePoint} (hsign : endsArguments sign = true)
    (rest : Text) : closings (s ++ sign :: rest) = [] := by
  induction s with
  | nil => rw [List.nil_append, closings, if_pos hsign]
  | cons c s ih =>
    rw [List.mem_cons, not_or] at hs
    rw [List.cons_append, closings]
    by_cases hc : endsArguments c = true
    · rw [if_pos hc]
    · rw [if_neg hc, if_neg (by simpa using Ne.symm hs.1), ih hs.2]

/-- The last closing bracket in reach is tried first. -/
theorem exists_closings_eq {inside : Text} (hinside : ∀ c ∈ inside, endsArguments c = false)
    (ht : closings t = []) : ∃ others, closings (inside ++ .char '>' :: t) = t :: others := by
  induction inside with
  | nil => exact ⟨[], by rw [List.nil_append, closings, ht]; rfl⟩
  | cons c inside ih =>
    rw [List.forall_mem_cons] at hinside
    obtain ⟨others, hothers⟩ := ih hinside.2
    rw [List.cons_append, closings, if_neg (by simp [hinside.1]), hothers]
    by_cases hc : (c == '>') = true
    · exact ⟨others ++ [inside ++ .char '>' :: t], by rw [if_pos hc]; rfl⟩
    · exact ⟨others, by rw [if_neg hc]⟩

/-! ## Modifiers -/

/-- Modifiers with blanks behind each. -/
inductive IsModifiers : Text → Prop
  | nil : IsModifiers []
  | cons {modifier gap rest : Text} (hmodifier : modifier ∈ modifiers) (hgap : Blanks gap)
      (hne : gap ≠ []) (hrest : IsModifiers rest) : IsModifiers (modifier ++ (gap ++ rest))

theorem isAlphanum_of_mem_modifiers :
    ∀ modifier ∈ modifiers, modifier ≠ [] ∧ modifier.all CodePoint.isAlphanum = true := by
  decide

theorem isTypeChar_of_isAlphanum {c : CodePoint} (h : c.isAlphanum = true) :
    isTypeChar c = true := by
  rw [isTypeChar, isWord_of_isAlphanum h]
  rfl

theorem isTypeChar_of_mem_modifier {modifier : Text} (h : modifier ∈ modifiers) :
    ∀ c ∈ modifier, isTypeChar c = true :=
  fun c hc => isTypeChar_of_isAlphanum
    (List.all_eq_true.1 (isAlphanum_of_mem_modifiers modifier h).2 c hc)

theorem startsBlank_of_afterBlanks? (h : afterBlanks? t = some u) :
    u = Text.trimStart t ∧ ∀ c ∈ t.head?, isTypeChar c = false := by
  cases t with
  | nil => cases h
  | cons c t =>
    rw [afterBlanks?] at h
    split at h
    · next hc =>
      refine ⟨?_, ?_⟩
      · rw [Text.trimStart, List.dropWhile_cons_of_pos hc]
        exact (Option.some.inj h).symm
      · intro d hd
        obtain rfl : c = d := by simpa using hd
        exact not_isTypeChar_of_isBlank hc
    · cases h

/-- A word with blanks behind it is the whole first word of a text. -/
theorem eq_of_dropBeginning?_of_afterBlanks? {word behind : Text}
    (hword : ∀ c ∈ word, isTypeChar c = true) (hdrop : Text.dropBeginning? word t = some behind)
    (hbehind : afterBlanks? behind = some u) :
    t.takeWhile isTypeChar = word ∧ t.dropWhile isTypeChar = behind ∧
      u = Text.trimStart behind := by
  obtain ⟨hu, hhead⟩ := startsBlank_of_afterBlanks? hbehind
  rw [Text.dropBeginning?_eq_some_iff.1 hdrop]
  exact ⟨Text.takeWhile_run hword hhead, Text.dropWhile_run hword hhead, hu⟩

/-- **A modifier is the whole first word**, and blanks stand behind it. -/
theorem word_of_afterModifier? {word : Text} (hword : ∀ c ∈ word, isTypeChar c = true)
    (ht : ∀ c ∈ t.head?, isTypeChar c = false) (h : afterModifier? (word ++ t) = some u) :
    word ∈ modifiers ∧ u = Text.trimStart t := by
  obtain ⟨modifier, hmodifier, h⟩ := List.exists_of_findSome?_eq_some h
  obtain ⟨behind, hdrop, hbehind⟩ := Option.bind_eq_some_iff.1 h
  obtain ⟨hfirst, hrest, hu⟩ := eq_of_dropBeginning?_of_afterBlanks?
    (isTypeChar_of_mem_modifier hmodifier) hdrop hbehind
  rw [Text.takeWhile_run hword ht] at hfirst
  rw [Text.dropWhile_run hword ht] at hrest
  rw [hfirst, hrest]
  exact ⟨hmodifier, hu⟩

theorem afterModifier?_eq_none_of_head (ht : ∀ c ∈ t.head?, isTypeChar c = false) :
    afterModifier? t = none := by
  by_contra hsome
  obtain ⟨u, hu⟩ := Option.ne_none_iff_exists'.1 hsome
  have hempty : afterModifier? ([] ++ t) = some u := hu
  obtain ⟨hmem, -⟩ := word_of_afterModifier? (by simp) ht hempty
  exact (isAlphanum_of_mem_modifiers [] hmem).1 rfl

theorem afterModifiers_of_none (h : afterModifier? t = none) (fuel : Nat) :
    afterModifiers fuel t = [t] := by
  cases fuel with
  | zero => rfl
  | succ fuel => rw [afterModifiers, h]

theorem afterModifier?_append {modifier gap : Text} (hmodifier : modifier ∈ modifiers)
    (hgap : Blanks gap) (hne : gap ≠ []) (ht : StartsWord t) :
    afterModifier? (modifier ++ (gap ++ t)) = some t := by
  have hletters := isTypeChar_of_mem_modifier hmodifier
  have hhead : ∀ c ∈ (gap ++ t).head?, isTypeChar c = false :=
    head_blanks_append hgap fun hnil => absurd hnil hne
  cases h : afterModifier? (modifier ++ (gap ++ t)) with
  | some u => rw [(word_of_afterModifier? hletters hhead h).2, ht.trimStart_append hgap]
  | none =>
    have hnone := List.findSome?_eq_none_iff.1 h modifier hmodifier
    rw [Text.dropBeginning?_append, Option.bind_some,
      afterBlanks?_append hgap hne ht.head_not_isBlank] at hnone
    cases hnone

theorem IsModifiers.startsWord_append {written : Text} (h : IsModifiers written)
    (ht : StartsWord t) : StartsWord (written ++ t) := by
  cases h with
  | nil => exact ht
  | @cons modifier gap rest hmodifier _ _ _ =>
    rw [List.append_assoc]
    exact (startsWord_of_forall (isTypeChar_of_mem_modifier hmodifier)
      (isAlphanum_of_mem_modifiers modifier hmodifier).1).append _

/-! ## Annotations -/

/-- Annotations with blanks around their parts. No arguments hold a closing parenthesis. -/
inductive IsAnnotations : Text → Prop
  | nil : IsAnnotations []
  | marker {name gap rest : Text} (hname : ∀ c ∈ name, isTypeChar c = true) (hne : name ≠ [])
      (hgap : Blanks gap) (hgapne : gap ≠ []) (hrest : IsAnnotations rest) :
      IsAnnotations (.char '@' :: (name ++ (gap ++ rest)))
  | cons {name gap arguments gap' rest : Text} (hname : ∀ c ∈ name, isTypeChar c = true)
      (hne : name ≠ []) (hgap : Blanks gap) (harguments : .char ')' ∉ arguments)
        (hgap' : Blanks gap')
      (hrest : IsAnnotations rest) :
      IsAnnotations (.char '@' ::
        (name ++ (gap ++ .char '(' :: (arguments ++ .char ')' :: (gap' ++ rest)))))

/-- Annotations are nothing, or start with their sign. -/
theorem IsAnnotations.eq_nil_or {annotations : Text} (h : IsAnnotations annotations) :
    annotations = [] ∨ ∃ r, annotations = .char '@' :: r := by
  cases h with
  | nil => exact .inl rfl
  | marker => exact .inr ⟨_, rfl⟩
  | cons => exact .inr ⟨_, rfl⟩

/-- What follows annotations starts with no blank and no parenthesis, and neither do annotations. -/
theorem IsAnnotations.head_append {annotations : Text} (h : IsAnnotations annotations)
    (ht : StartsWord t) :
    (∀ c ∈ (annotations ++ t).head?, Text.isBlank c = false) ∧
      ∀ r, annotations ++ t ≠ .char '(' :: r := by
  rcases h.eq_nil_or with rfl | ⟨r, rfl⟩
  · exact ⟨ht.head_not_isBlank, ht.ne_cons (by decide)⟩
  · refine ⟨?_, by simp⟩
    intro c hc
    obtain rfl : '@' = c := by simpa using hc
    decide

theorem afterAnnotations_of_ne (ht : ∀ r, t ≠ .char '@' :: r) (fuel : Nat) (fallback : List Text) :
    afterAnnotations fuel t fallback = t :: fallback := by
  rw [afterAnnotations]
  rintro fuel r rfl rfl
  exact ht r rfl

/-- The arguments of an annotation end at the first closing parenthesis. -/
theorem afterAnnotations_arguments {name gap arguments : Text}
    (hname : ∀ c ∈ name, isTypeChar c = true) (hne : name ≠ []) (hgap : Blanks gap)
    (harguments : .char ')' ∉ arguments) (rest : Text) (fuel : Nat) (fallback : List Text) :
    afterAnnotations (fuel + 1)
        (.char '@' :: (name ++ (gap ++ .char '(' :: (arguments ++ .char ')' :: rest)))) fallback =
      afterAnnotations fuel (Text.trimStart rest) [] := by
  have hhead : ∀ c ∈ (gap ++ .char '(' :: (arguments ++ .char ')' :: rest)).head?,
      isTypeChar c = false := by
    refine head_blanks_append hgap ?_
    rintro - c hc
    obtain rfl : '(' = c := by simpa using hc
    decide
  have hopen : Text.trimStart (gap ++ .char '(' :: (arguments ++ .char ')' :: rest)) =
      .char '(' :: (arguments ++ .char ')' :: rest) :=
    Text.trimStart_append hgap (by simp [Text.isBlank])
  -- The arguments end at the first closing parenthesis, and they hold none.
  have hclose : (arguments ++ .char ')' :: rest).dropWhile (· != .char ')') =
      .char ')' :: rest := by
    refine Text.dropWhile_run ?_ (by simp)
    intro c hc
    rw [bne_iff_ne]
    rintro rfl
    exact harguments hc
  rw [afterAnnotations]
  simp only [Text.takeWhile_run hname hhead, List.drop_left]
  rw [if_neg (by simpa using hne), hopen]
  simp only [hclose]

/-- **Annotations are read at the first try.** -/
theorem IsAnnotations.exists_afterAnnotations_eq {annotations : Text}
    (h : IsAnnotations annotations) (ht : StartsWord t) (fuel : Nat)
    (hfuel : annotations.length ≤ fuel) (fallback : List Text) :
    ∃ others, afterAnnotations fuel (annotations ++ t) fallback = t :: others := by
  -- Each annotation takes one step of fuel and at least one character.
  induction h generalizing fuel fallback with
  | nil => exact ⟨fallback, afterAnnotations_of_ne (ht.ne_cons (by decide)) fuel fallback⟩
  | @marker name gap rest hname hne hgap hgapne hrest ih =>
    simp only [List.length_append, List.length_cons] at hfuel
    obtain ⟨fuel, rfl⟩ : ∃ k, fuel = k + 1 := ⟨fuel - 1, by omega⟩
    obtain ⟨hblank, hparen⟩ := hrest.head_append ht
    have hhead : ∀ c ∈ (gap ++ (rest ++ t)).head?, isTypeChar c = false :=
      head_blanks_append hgap fun hnil => absurd hnil hgapne
    obtain ⟨others, hothers⟩ := ih fuel (by omega)
      (shortened name.length (name ++ (gap ++ (rest ++ t))))
    refine ⟨others, ?_⟩
    simp only [List.cons_append, List.append_assoc]
    rw [afterAnnotations]
    simp only [Text.takeWhile_run hname hhead, List.drop_left]
    rw [if_neg (by simpa using hne), Text.trimStart_append hgap hblank]
    split
    · next r heq => exact absurd heq (hparen r)
    · exact hothers
  | @cons name gap arguments gap' rest hname hne hgap harguments hgap' hrest ih =>
    simp only [List.length_append, List.length_cons] at hfuel
    obtain ⟨fuel, rfl⟩ : ∃ k, fuel = k + 1 := ⟨fuel - 1, by omega⟩
    obtain ⟨others, hothers⟩ := ih fuel (by omega) []
    refine ⟨others, ?_⟩
    simp only [List.cons_append, List.append_assoc]
    rw [afterAnnotations_arguments hname hne hgap harguments,
      Text.trimStart_append hgap' (hrest.head_append ht).1]
    exact hothers

end DocEnum.Java
