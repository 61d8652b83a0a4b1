import Mathlib
import DocEnum.File.Path
import DocEnum.Text.Quoted
import DocEnum.Text.Utf8
import DocEnum.Proofs.Text

/-!
# Texts and their bytes

**Encoding.** A text has bytes if and only if no half of a surrogate pair stands in it
(`encode_eq_ok_iff`). A text read from bytes has bytes (`encodable_of_decode`), also with its line
breaks unified. A quoted text has bytes whatever it quotes (`encodable_quoted`).

**Names.** The name of a file may hold a half that stands for a byte, and no other
(`nameFault?_eq_none_iff`).
-/

namespace DocEnum.Utf8

variable {t : Text}

/-! ## Encoding -/

/-- No half of a surrogate pair stands in a text. -/
def Encodable (t : Text) : Prop :=
  ∀ c ∈ t, c.isHalf = false

instance : DecidablePred Encodable :=
  fun t => inferInstanceAs (Decidable (∀ c ∈ t, c.isHalf = false))

@[simp] theorem encodable_nil : Encodable [] :=
  List.forall_mem_nil _

@[simp] theorem encodable_cons {c : CodePoint} :
    Encodable (c :: t) ↔ c.isHalf = false ∧ Encodable t :=
  List.forall_mem_cons

@[simp] theorem encodable_append {s t : Text} : Encodable (s ++ t) ↔ Encodable s ∧ Encodable t :=
  List.forall_mem_append

/-- Characters are no halves. -/
@[simp] theorem encodable_map_char (s : List Char) : Encodable (s.map .char) := by
  intro c hc
  obtain ⟨char, -, rfl⟩ := List.mem_map.1 hc
  rfl

@[simp] theorem encodable_replicate (n : Nat) (c : Char) :
    Encodable (List.replicate n (.char c)) := by
  intro d hd
  rw [List.eq_of_mem_replicate hd]
  rfl

@[simp] theorem encodable_ofNat (n : Nat) : Encodable (Text.ofNat n) :=
  encodable_map_char _

theorem Encodable.sublist {s : Text} (h : Encodable t) (hs : s.Sublist t) : Encodable s :=
  fun c hc => h c (hs.subset hc)

theorem encodable_joinWith {separator : Text} {pieces : List Text}
    (hseparator : Encodable separator)
    (hpieces : ∀ piece ∈ pieces, Encodable piece) : Encodable (Text.joinWith separator pieces) := by
  intro c hc
  rcases Text.mem_joinWith hc with hc | ⟨piece, hpiece, hc⟩
  · exact hseparator c hc
  · exact hpieces piece hpiece c hc

theorem faultFrom?_eq_none_iff {refuses : Fin 2048 → Bool} {position : Nat} :
    faultFrom? refuses position t = none ↔ ∀ unit, .half unit ∈ t → refuses unit = false := by
  induction t generalizing position with
  | nil => simp [faultFrom?]
  | cons c t ih =>
    cases c with
    | char c => simp [faultFrom?, ih]
    | half unit =>
      cases hunit : refuses unit with
      | true =>
        refine iff_of_false (by simp [faultFrom?, hunit]) fun h => ?_
        cases hunit.symm.trans (h unit List.mem_cons_self)
      | false =>
        rw [faultFrom?, hunit, if_neg Bool.false_ne_true, ih]
        refine ⟨fun h u hu => ?_, fun h u hu => h u (List.mem_cons_of_mem _ hu)⟩
        rcases List.mem_cons.1 hu with heq | hu
        · exact CodePoint.half.inj heq ▸ hunit
        · exact h u hu

theorem encodable_iff_half : Encodable t ↔ ∀ unit, .half unit ∉ t := by
  refine ⟨fun h unit hunit => Bool.false_ne_true (h _ hunit).symm, fun h c hc => ?_⟩
  cases c with
  | char c => rfl
  | half unit => exact absurd hc (h unit)

theorem fault?_eq_none_iff : fault? t = none ↔ Encodable t := by
  rw [fault?, faultFrom?_eq_none_iff, encodable_iff_half]
  exact forall_congr' fun unit => ⟨fun h hunit => Bool.false_ne_true (h hunit).symm,
    fun h hunit => absurd hunit h⟩

/-- **A text has bytes** if no half of a surrogate pair stands in it. -/
theorem encode_eq_ok_iff {content : List UInt8} :
    encode t = .ok content ↔ Encodable t ∧ content = bytes t := by
  rw [← fault?_eq_none_iff, encode]
  cases fault? t <;> simp [eq_comm]

theorem encode_of_encodable (h : Encodable t) : encode t = .ok (bytes t) :=
  encode_eq_ok_iff.2 ⟨h, rfl⟩

theorem not_encodable_of_encode {fault : EncodeFault} (h : encode t = .error fault) :
    ¬Encodable t := by
  intro ht
  rw [encode_of_encodable ht] at h
  cases h

/-! ## Quoted texts -/

@[simp] theorem encodable_hex (places n : Nat) : Encodable (Text.hex places n) := by
  simp [Text.hex, Text.zeroFilled]

theorem isPrintable_half (unit : Fin 2048) : Text.isPrintable (.half unit) = false := by
  have hrange : (0xD7FC, 0xF8FF) ∈ Text.hiddenRanges := by decide
  have hmin : 0xD7FC ≤ (CodePoint.half unit).toNat := by
    simp only [CodePoint.toNat, CodePoint.firstHalf]
    omega
  have hmax : (CodePoint.half unit).toNat ≤ 0xF8FF := by
    have hunit := unit.isLt
    simp only [CodePoint.toNat, CodePoint.firstHalf]
    omega
  have hhidden : Text.inRanges Text.hiddenRanges (.half unit) = true :=
    List.any_eq_true.2 ⟨_, hrange, by simp [hmin, hmax]⟩
  rw [Text.isPrintable, if_neg (by omega), hhidden]
  rfl

/-- **A quoted text** has bytes, because a half is shown by its code. -/
theorem encodable_quoted (t : Text) : Encodable (Text.quoted t) := by
  have hquote : (Text.quoteFor t).isHalf = false := by
    unfold Text.quoteFor
    split <;> rfl
  -- A half is printed as an escape, since it is neither printable nor the quote.
  have hchar : ∀ c, Encodable (Text.quoteChar (Text.quoteFor t) c) := by
    intro c
    cases c with
    | char c =>
      unfold Text.quoteChar
      split_ifs <;> simp
    | half unit =>
      have hne : ((.half unit : CodePoint) == Text.quoteFor t) = false := by
        rw [beq_eq_false_iff_ne]
        rintro heq
        rw [← heq] at hquote
        cases hquote
      unfold Text.quoteChar
      rw [hne, isPrintable_half]
      simp only [Bool.false_or]
      split_ifs <;> simp_all
  unfold Text.quoted
  simp only [encodable_cons, encodable_append, hquote, encodable_nil, true_and, and_true]
  intro c hc
  obtain ⟨d, -, hc⟩ := List.mem_flatMap.1 hc
  exact hchar d c hc

/-- **A path** has bytes as a text if its names have. -/
theorem encodable_pathText_iff {path : Path} :
    Encodable path.text ↔ ∀ part ∈ path.parts, Encodable part := by
  unfold Path.text
  split
  · next h =>
    subst h
    exact iff_of_true (encodable_map_char _) (List.forall_mem_nil _)
  · refine ⟨fun h part hpart c hc => ?_, fun h => ?_⟩
    · exact (encodable_append.1 h).2 c (Text.mem_joinWith_of_mem _ hpart hc)
    · have hjoined := encodable_joinWith (encodable_map_char "/".toList) h
      exact encodable_append.2 ⟨encodable_replicate _ '/', hjoined⟩

/-! ## Decoding -/

theorem isHalf_ofNat {n : Nat} (h : n < 0xD800 ∨ 0xE000 ≤ n) :
    (CodePoint.ofNat n).isHalf = false := by
  rw [CodePoint.ofNat, dif_neg]
  · rfl
  · simp only [CodePoint.firstHalf]
    omega

theorem payload_lt (b : UInt8) : payload b < 64 :=
  Nat.mod_lt _ (by decide)

/-- Three bytes are no half: after the first byte of the halves comes a second one below them. -/
theorem isHalf_of_three {a b c : UInt8} (hsize : sizeOf a = 3) (hsecond : isSecond a b = true) :
    (CodePoint.ofNat ((a.toNat % 16 * 64 + payload b) * 64 + payload c)).isHalf = false := by
  have hc := payload_lt c
  have hb := payload_lt b
  apply isHalf_ofNat
  simp only [sizeOf, UInt8.lt_iff_toNat_lt] at hsize
  simp only [isSecond, isContinuation, Bool.and_eq_true, Bool.or_eq_true, decide_eq_true_eq,
    bne_iff_ne, UInt8.lt_iff_toNat_lt, UInt8.le_iff_toNat_le, ne_eq, ← UInt8.toNat_inj] at hsecond
  simp only [payload] at hb hc ⊢
  simp at hsize hsecond
  split at hsize <;> grind

/-- Four bytes are no half, but a character above all of them. -/
theorem isHalf_of_four {a b c d : UInt8} (hsize : sizeOf a ≠ 0 ∧ sizeOf a ≠ 1 ∧ sizeOf a ≠ 2 ∧
    sizeOf a ≠ 3) (hsecond : isSecond a b = true) :
    (CodePoint.ofNat
      (((a.toNat % 8 * 64 + payload b) * 64 + payload c) * 64 + payload d)).isHalf = false := by
  have hb := payload_lt b
  apply isHalf_ofNat
  simp only [sizeOf, UInt8.lt_iff_toNat_lt] at hsize
  simp only [isSecond, isContinuation, Bool.and_eq_true, Bool.or_eq_true, decide_eq_true_eq,
    bne_iff_ne, UInt8.lt_iff_toNat_lt, UInt8.le_iff_toNat_le, ne_eq, ← UInt8.toNat_inj] at hsecond
  simp only [payload] at hb ⊢
  simp at hsize hsecond
  grind

theorem encodable_of_map {outcome : Except Fault Text} {c : CodePoint} (hc : c.isHalf = false)
    (houtcome : ∀ {rest}, outcome = .ok rest → Encodable rest)
    (h : (outcome.map fun rest => c :: rest) = .ok t) : Encodable t := by
  cases outcome with
  | error fault => cases h
  | ok rest =>
    obtain rfl := Except.ok.inj h
    exact List.forall_mem_cons.2 ⟨hc, houtcome rfl⟩

theorem encodable_of_decodeFrom {position : Nat} {content : List UInt8}
    (h : decodeFrom position content = .ok t) : Encodable t := by
  -- Only the four successful cases make a code point, and none of them reaches the halves.
  fun_induction decodeFrom position content generalizing t with
  | case1 =>
    obtain rfl := Except.ok.inj h
    exact List.forall_mem_nil _
  | case3 _ a _ _ ih =>
    have ha := a.toNat_lt
    exact encodable_of_map (isHalf_ofNat (by omega)) (fun h => ih h) h
  | case6 _ a _ b _ _ ih =>
    have hb := payload_lt b
    exact encodable_of_map (isHalf_ofNat (by omega)) (fun h => ih h) h
  | case12 _ _ hsize _ _ _ hsecond _ ih =>
    exact encodable_of_map (isHalf_of_three hsize (by simpa using hsecond)) (fun h => ih h) h
  | case22 _ _ _ _ _ _ hsecond _ _ h₀ h₁ h₂ h₃ ih =>
    exact encodable_of_map (isHalf_of_four ⟨h₀, h₁, h₂, h₃⟩ (by simpa using hsecond))
      (fun h => ih h) h
  | _ => cases h

/-- **What is read from bytes** has bytes. -/
theorem encodable_of_decode {content : List UInt8} (h : decode content = .ok t) : Encodable t :=
  encodable_of_decodeFrom h

theorem encodable_unifyNewlines (h : Encodable t) : Encodable (Text.unifyNewlines t) := by
  fun_induction Text.unifyNewlines t with
  | case1 => exact h
  | case2 rest ih =>
    exact List.forall_mem_cons.2
      ⟨rfl, ih fun c hc => h c (List.mem_cons_of_mem _ (List.mem_cons_of_mem _ hc))⟩
  | case3 rest _ ih =>
    exact List.forall_mem_cons.2 ⟨rfl, ih fun c hc => h c (List.mem_cons_of_mem _ hc)⟩
  | case4 c rest _ _ ih =>
    exact List.forall_mem_cons.2
      ⟨h c List.mem_cons_self, ih fun d hd => h d (List.mem_cons_of_mem _ hd)⟩

theorem encodable_of_decodeLines {content : List UInt8} (h : decodeLines content = .ok t) :
    Encodable t := by
  unfold decodeLines at h
  cases hdecode : decode content with
  | error fault =>
    rw [hdecode] at h
    cases h
  | ok raw =>
    rw [hdecode] at h
    obtain rfl := Except.ok.inj h
    exact encodable_unifyNewlines (encodable_of_decode hdecode)

/-! ## Names -/

theorem nameFault?_eq_none_iff :
    nameFault? t = none ↔ ∀ unit, .half unit ∈ t → (nameByte? unit).isSome = true := by
  rw [nameFault?, faultFrom?_eq_none_iff]
  simp only [Option.isNone_eq_false_iff]

end DocEnum.Utf8
