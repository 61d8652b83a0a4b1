import Mathlib
import DocEnum.ConstantName
import DocEnum.Proofs.Text

/-!
# Form and distinctness of constant names

**Case.** Changing the case of a character keeps it a letter or none.

**Form.** `isConstantForm` describes names of upper-case letters, digits and underscores with a
letter first. Every derived name has this form (`derive_form`), and a number at its end keeps it.

**Distinct names.** `MadeDistinct` says which name is wanted for a derived one after some earlier
names: itself if it is free, else the one with the least free number from 2 on. There is such a
number among the first ones, as there are more candidates than earlier names, so that the bounded
search finds it (`madeDistinct_fresh`), and no other name will do (`MadeDistinct.unique`).
-/

namespace DocEnum.CodePoint

/-! ## Case -/

variable (c : CodePoint)

@[simp] theorem isUpper_toUpper_eq_isAlpha : c.toUpper.isUpper = c.isAlpha := by
  cases c with
  | char c => exact c.isUpper_toUpper_eq_isAlpha
  | half unit => rfl

@[simp] theorem isAlpha_toUpper_eq_isAlpha : c.toUpper.isAlpha = c.isAlpha := by
  cases c with
  | char c => exact c.isAlpha_toUpper_eq_isAlpha
  | half unit => rfl

variable {c}

theorem toUpper_eq_of_not_isLower (h : ¬c.isLower) : c.toUpper = c := by
  cases c with
  | char c => exact congrArg char (Char.toUpper_eq_of_not_isLower h)
  | half unit => rfl

end DocEnum.CodePoint

namespace DocEnum.ConstantName

/-! ## Form -/

/-- A character that a constant name may go on with. -/
def isConstantPart (c : CodePoint) : Bool :=
  c.isUpper || c.isDigit || c == '_'

/-- Whether a text is an upper-case letter with upper-case letters, digits and underscores after
it. -/
def isConstantForm : Text → Bool
  | [] => false
  | c :: rest => c.isUpper && rest.all isConstantPart

theorem isConstantPart_of_isDigit {c : CodePoint} (h : c.isDigit = true) :
    isConstantPart c = true := by
  simp [isConstantPart, h]

/-- A letter, a digit or an underscore is a part of constant names in upper case. -/
theorem isConstantPart_toUpper {c : CodePoint} (h : isNameChar c = true ∨ c = '_') :
    isConstantPart c.toUpper = true := by
  by_cases halpha : c.isAlpha = true
  · simp [isConstantPart, halpha]
  · have hlower : ¬c.isLower := fun hlower => halpha (by simp [CodePoint.isAlpha, hlower])
    rw [CodePoint.toUpper_eq_of_not_isLower hlower]
    rcases h with h | rfl
    · rw [isNameChar, CodePoint.isAlphanum, Bool.or_eq_true] at h
      exact isConstantPart_of_isDigit (h.resolve_left halpha)
    · decide

theorem isNameChar_of_mem_base {description : Text} {code : Nat} {c : CodePoint}
    (hc : c ∈ base description code) : isNameChar c = true ∨ c = '_' := by
  rw [base] at hc
  split at hc
  · rcases List.mem_cons.1 hc with rfl | hc
    · exact .inl (by decide)
    · have hdigit := Text.isDigit_of_mem_ofNat (n := code) hc
      exact .inl (by simp [isNameChar, CodePoint.isAlphanum, hdigit])
  · rcases Text.mem_joinWith hc with h | ⟨word, hword, h⟩
    · exact .inr (by simpa using h)
    · have hpiece := (List.mem_filter.1 hword).1
      exact .inl (by simpa using (Text.mem_and_not_of_mem_splitOn hpiece h).2)

/-- `letterFirst` gives a letter with characters after it that names may have. -/
theorem letterFirst_eq_cons {t : Text} (ht : ∀ c ∈ t, isNameChar c = true ∨ c = '_') :
    ∃ c rest, letterFirst t = c :: rest ∧ c.isAlpha = true ∧
      ∀ d ∈ rest, isNameChar d = true ∨ d = '_' := by
  cases t with
  | nil => exact ⟨'C', [.char '_'], rfl, by decide, by simp⟩
  | cons c rest =>
    rw [letterFirst]
    split
    · next hc => exact ⟨c, rest, rfl, hc, fun d hd => ht d (List.mem_cons_of_mem _ hd)⟩
    · refine ⟨'C', .char '_' :: c :: rest, rfl, by decide, fun d hd => ?_⟩
      rcases List.mem_cons.1 hd with rfl | hd
      · exact .inr rfl
      · exact ht d hd

/-- **Every derived name has the form of a constant.** -/
theorem derive_form (description : Text) (code : Nat) :
    isConstantForm (derive description code) = true := by
  have hbase : ∀ c ∈ base description code, isNameChar c = true ∨ c = '_' :=
    fun _ => isNameChar_of_mem_base
  obtain ⟨c, rest, heq, hc, hrest⟩ := letterFirst_eq_cons hbase
  rw [derive, heq, Text.upperAscii, List.map_cons, isConstantForm, Bool.and_eq_true]
  refine ⟨by simpa using hc, ?_⟩
  rw [List.all_map, List.all_eq_true]
  exact fun d hd => isConstantPart_toUpper (hrest d hd)

theorem numbered_form {name : Text} (h : isConstantForm name = true) (k : Nat) :
    isConstantForm (numbered name k) = true := by
  cases name with
  | nil => simp [isConstantForm] at h
  | cons c rest =>
    rw [isConstantForm, Bool.and_eq_true] at h
    have hdigits : (Text.ofNat k).all isConstantPart = true :=
      List.all_eq_true.2 fun d hd => isConstantPart_of_isDigit (Text.isDigit_of_mem_ofNat hd)
    simp [numbered, isConstantForm, h.1, h.2, hdigits, isConstantPart]

/-! ## Distinct names -/

theorem numbered_injective {name : Text} {j k : Nat} (h : numbered name j = numbered name k) :
    j = k :=
  Text.ofNat_injective (List.append_cancel_left h)

/-- `name` is `derived` made distinct from the names `earlier`: itself if it is free, else with
the least number from 2 on that makes it free. -/
def MadeDistinct (earlier : List Text) (derived name : Text) : Prop :=
  if derived ∈ earlier then
    ∃ m, 2 ≤ m ∧ name = numbered derived m ∧ name ∉ earlier ∧
      ∀ k, 2 ≤ k → k < m → numbered derived k ∈ earlier
  else name = derived

theorem MadeDistinct.not_mem {earlier : List Text} {derived name : Text}
    (h : MadeDistinct earlier derived name) : name ∉ earlier := by
  rw [MadeDistinct] at h
  split at h
  · obtain ⟨-, -, -, hfree, -⟩ := h
    exact hfree
  · next hfree => rwa [h]

/-- At most one name is made distinct. -/
theorem MadeDistinct.unique {earlier : List Text} {derived name name' : Text}
    (h : MadeDistinct earlier derived name) (h' : MadeDistinct earlier derived name') :
    name = name' := by
  rw [MadeDistinct] at h h'
  split at h
  · next hused =>
    rw [if_pos hused] at h'
    obtain ⟨m, hm, rfl, hfree, hleast⟩ := h
    obtain ⟨m', hm', rfl, hfree', hleast'⟩ := h'
    rcases Nat.lt_trichotomy m m' with hlt | rfl | hlt
    · exact absurd (hleast' m hm hlt) hfree
    · rfl
    · exact absurd (hleast m' hm' hlt) hfree'
  · next hfree =>
    rw [if_neg hfree] at h'
    rw [h, h']

/-- The search ends at the first free number within its bound. -/
theorem firstFree_eq {isUsed : Text → Bool} {name : Text} {fuel k d : Nat} (hd : d ≤ fuel)
    (hused : ∀ j < d, isUsed (numbered name (k + j)) = true)
    (hfree : isUsed (numbered name (k + d)) = false) :
    firstFree isUsed name fuel k = numbered name (k + d) := by
  induction fuel generalizing k d with
  | zero => rw [Nat.le_zero.1 hd]; rfl
  | succ fuel ih =>
    rw [firstFree]
    cases d with
    | zero => simp_all
    | succ d =>
      have hk : isUsed (numbered name k) = true := hused 0 (Nat.succ_pos d)
      rw [if_pos hk, ih (Nat.le_of_succ_le_succ hd)]
      · congr 1; omega
      · intro j hj
        have h := hused (j + 1) (by omega)
        rwa [show k + 1 + j = k + (j + 1) by omega]
      · rwa [show k + 1 + d = k + (d + 1) by omega]

/-- One of the first numbers from `k` on is free: there is one candidate more than there are
names. -/
theorem exists_free (used : List Text) (name : Text) (k : Nat) :
    ∃ d ≤ used.length, numbered name (k + d) ∉ used := by
  by_contra hall
  push Not at hall
  let candidates := (List.range (used.length + 1)).map fun d => numbered name (k + d)
  have hnodup : candidates.Nodup :=
    List.nodup_range.map fun i j h => Nat.add_left_cancel (numbered_injective h)
  have hsubset : candidates ⊆ used := by
    intro candidate hmem
    obtain ⟨d, hd, rfl⟩ := List.mem_map.1 hmem
    exact hall d (Nat.lt_succ_iff.1 (List.mem_range.1 hd))
  have hle := (List.subperm_of_subset hnodup hsubset).length_le
  simp [candidates] at hle

/-- **`fresh` gives the wanted name.** -/
theorem madeDistinct_fresh (used : List Text) (name : Text) :
    MadeDistinct used name (fresh used name) := by
  rw [MadeDistinct, fresh_eq]
  split
  · obtain ⟨bound, hbound, hfree⟩ := exists_free used name 2
    have hex : ∃ d, numbered name (2 + d) ∉ used := ⟨bound, hfree⟩
    have hd : Nat.find hex ≤ used.length := (Nat.find_min' hex hfree).trans hbound
    have hused : ∀ j < Nat.find hex, numbered name (2 + j) ∈ used :=
      fun j hj => not_not.1 (Nat.find_min hex hj)
    have hfirst : firstFree used.contains name used.length 2 = numbered name (2 + Nat.find hex) :=
      firstFree_eq hd (by simpa using hused) (by simpa using Nat.find_spec hex)
    rw [hfirst]
    refine ⟨2 + Nat.find hex, by omega, rfl, Nat.find_spec hex, fun k hk hlt => ?_⟩
    have h := hused (k - 2) (by omega)
    rwa [show 2 + (k - 2) = k by omega] at h
  · rfl

theorem MadeDistinct.form {earlier : List Text} {derived name : Text}
    (h : MadeDistinct earlier derived name) (hform : isConstantForm derived = true) :
    isConstantForm name = true := by
  rw [MadeDistinct] at h
  split at h
  · obtain ⟨m, -, rfl, -, -⟩ := h
    exact numbered_form hform m
  · rwa [h]

end DocEnum.ConstantName
