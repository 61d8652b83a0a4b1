/-!
# Code points

What a text is made of: characters, and halves of surrogate pairs. A half that stands on its own is
no character and has no UTF-8 form, but escapes of data formats can name it, and it stands for a
byte of a path that is not UTF-8.

**Classes.** Letters and digits are those of ASCII; a half is in no class and has no case.
-/

namespace DocEnum

/-- A character, or half of a surrogate pair on its own. -/
inductive CodePoint where
  | char (c : Char)
  /-- The half that many code points after the first one. -/
  | half (unit : Fin 2048)
deriving DecidableEq, Repr

instance : Coe Char CodePoint := ⟨.char⟩

namespace CodePoint

/-! ## Numbers -/

/-- The first half of a surrogate pair. -/
def firstHalf : Nat := 0xD800

def toNat : CodePoint → Nat
  | char c => c.toNat
  | half unit => firstHalf + unit

/-- The code point of a number; too large numbers have the null character. -/
def ofNat (n : Nat) : CodePoint :=
  if h : firstHalf ≤ n ∧ n - firstHalf < 2048 then half ⟨n - firstHalf, h.2⟩
  else char (Char.ofNat n)

instance : Hashable CodePoint := ⟨fun c => hash c.toNat⟩

instance : LE CodePoint := ⟨fun a b => a.toNat ≤ b.toNat⟩

instance (a b : CodePoint) : Decidable (a ≤ b) := inferInstanceAs (Decidable (a.toNat ≤ b.toNat))

@[simp] theorem char_le_char {a b : Char} : char a ≤ char b ↔ a ≤ b :=
  UInt32.le_iff_toNat_le.symm

@[simp] theorem toNat_char (c : Char) : (char c).toNat = c.toNat := rfl

@[simp] theorem char_beq_char (a b : Char) : (char a == char b) = (a == b) := by
  rw [Bool.eq_iff_iff, beq_iff_eq, beq_iff_eq, char.injEq]

@[simp] theorem half_beq_char (unit : Fin 2048) (c : Char) : (half unit == char c) = false := by
  simp

@[simp] theorem char_beq_half (c : Char) (unit : Fin 2048) : (char c == half unit) = false := by
  simp

/-- A half has the number of no character. -/
theorem toNat_ne_half (c : Char) (unit : Fin 2048) : c.toNat ≠ firstHalf + unit := by
  have hvalid := c.valid
  have hunit := unit.isLt
  simp only [UInt32.isValidChar, Nat.isValidChar, firstHalf] at hvalid ⊢
  change c.toNat < 0xD800 ∨ 0xDFFF < c.toNat ∧ c.toNat < 0x110000 at hvalid
  omega

theorem toNat_inj {a b : CodePoint} : a.toNat = b.toNat ↔ a = b := by
  refine ⟨fun h => ?_, congrArg toNat⟩
  cases a with
  | char c =>
    cases b with
    | char d => exact congrArg char (Char.toNat_inj.1 h)
    | half unit => exact absurd h (toNat_ne_half c unit)
  | half unit =>
    cases b with
    | char d => exact absurd h.symm (toNat_ne_half d unit)
    | half unit' => exact congrArg half (Fin.ext (Nat.add_left_cancel h))

theorem ofNat_toNat (c : CodePoint) : ofNat c.toNat = c := by
  cases c with
  | char c =>
    have hno : ¬(firstHalf ≤ c.toNat ∧ c.toNat - firstHalf < 2048) := by
      rintro ⟨hle, hlt⟩
      refine toNat_ne_half c ⟨c.toNat - firstHalf, hlt⟩ ?_
      exact (Nat.add_sub_cancel' hle).symm
    rw [toNat_char, ofNat, dif_neg hno, Char.ofNat_toNat]
  | half unit => simp [ofNat, toNat]

/-! ## Classes -/

def isHalf : CodePoint → Bool
  | char _ => false
  | half _ => true

def isUpper : CodePoint → Bool
  | char c => c.isUpper
  | half _ => false

def isLower : CodePoint → Bool
  | char c => c.isLower
  | half _ => false

def isDigit : CodePoint → Bool
  | char c => c.isDigit
  | half _ => false

def isAlpha (c : CodePoint) : Bool :=
  c.isUpper || c.isLower

def isAlphanum (c : CodePoint) : Bool :=
  c.isAlpha || c.isDigit

@[simp] theorem isHalf_char (c : Char) : (char c).isHalf = false := rfl

@[simp] theorem isHalf_half (unit : Fin 2048) : (half unit).isHalf = true := rfl

@[simp] theorem isUpper_char (c : Char) : (char c).isUpper = c.isUpper := rfl

@[simp] theorem isLower_char (c : Char) : (char c).isLower = c.isLower := rfl

@[simp] theorem isDigit_char (c : Char) : (char c).isDigit = c.isDigit := rfl

@[simp] theorem isAlpha_char (c : Char) : (char c).isAlpha = c.isAlpha := rfl

@[simp] theorem isAlphanum_char (c : Char) : (char c).isAlphanum = c.isAlphanum := rfl

theorem isUpper_iff_toNat {c : CodePoint} :
    c.isUpper ↔ 'A'.toNat ≤ c.toNat ∧ c.toNat ≤ 'Z'.toNat := by
  cases c with
  | char c =>
    change decide ('A'.val ≤ c.val ∧ c.val ≤ 'Z'.val) = true ↔ _
    rw [decide_eq_true_eq]
    exact and_congr UInt32.le_iff_toNat_le UInt32.le_iff_toNat_le
  | half unit =>
    refine iff_of_false Bool.false_ne_true fun h => ?_
    have hle : firstHalf + unit ≤ 'Z'.toNat := h.2
    simp [firstHalf] at hle
    omega

theorem isLower_iff_toNat {c : CodePoint} :
    c.isLower ↔ 'a'.toNat ≤ c.toNat ∧ c.toNat ≤ 'z'.toNat := by
  cases c with
  | char c =>
    change (decide ('a'.val ≤ c.val) && decide (c.val ≤ 'z'.val)) = true ↔ _
    rw [Bool.and_eq_true, decide_eq_true_eq, decide_eq_true_eq]
    exact and_congr UInt32.le_iff_toNat_le UInt32.le_iff_toNat_le
  | half unit =>
    refine iff_of_false Bool.false_ne_true fun h => ?_
    have hle : firstHalf + unit ≤ 'z'.toNat := h.2
    simp [firstHalf] at hle
    omega

theorem isDigit_iff_toNat {c : CodePoint} :
    c.isDigit ↔ '0'.toNat ≤ c.toNat ∧ c.toNat ≤ '9'.toNat := by
  cases c with
  | char c => exact Char.isDigit_iff_toNat
  | half unit =>
    refine iff_of_false Bool.false_ne_true fun h => ?_
    have hle : firstHalf + unit ≤ '9'.toNat := h.2
    simp [firstHalf] at hle
    omega

/-! ## Case -/

def toUpper : CodePoint → CodePoint
  | char c => char c.toUpper
  | half unit => half unit

def toLower : CodePoint → CodePoint
  | char c => char c.toLower
  | half unit => half unit

@[simp] theorem toUpper_char (c : Char) : (char c).toUpper = char c.toUpper := rfl

@[simp] theorem toLower_char (c : Char) : (char c).toLower = char c.toLower := rfl

end CodePoint

end DocEnum
