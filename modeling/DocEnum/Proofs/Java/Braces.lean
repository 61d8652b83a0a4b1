import Mathlib
import DocEnum.Proofs.Java.FieldDoc

/-!
# Braces

How deep the braces of some code are nested.

**Depth.** Only braces count (`braceDepth_braces`), so that a text without braces is as deep as the
empty one.

**Balanced code** (`Balanced`). The depth never falls below zero and ends at zero. This is read off
the braces alone (`Balanced.of_braces`).

**Blocks** (`depth_block_iff`). Balanced code in braces, with no brace around it, is at depth zero
before the first brace and after the last one only.
-/

namespace DocEnum.Java

variable {s t code : Text} {n : Nat}

/-! ## Depth -/

@[simp] theorem braceDepth_nil : braceDepth [] = 0 := rfl

theorem braceDepth_cons (c : CodePoint) (t : Text) :
    braceDepth (c :: t) = braceStep c + braceDepth t := by
  simp [braceDepth]

theorem braceDepth_take_succ {c : CodePoint} (h : code[n]? = some c) :
    braceDepth (code.take (n + 1)) = braceDepth (code.take n) + braceStep c := by
  rw [List.take_add_one, h, braceDepth_append, Option.toList_some, braceDepth_cons, braceDepth_nil,
    add_zero]

@[simp] theorem braceStep_opening : braceStep '{' = 1 := rfl

theorem eq_opening_of_braceStep_pos {c : CodePoint} (h : 0 < braceStep c) : c = '{' := by
  by_contra hne
  simp only [braceStep, beq_iff_eq, hne, if_false] at h
  split at h
  · exact absurd h (by decide)
  · exact absurd h (by decide)

/-- Opens or closes a block. -/
def isBrace (c : CodePoint) : Bool :=
  c == '{' || c == '}'

/-- The braces of some code. -/
def braces (code : Text) : Text :=
  code.filter isBrace

theorem braces_append (s t : Text) : braces (s ++ t) = braces s ++ braces t :=
  List.filter_append s t

theorem braces_eq_nil_iff : braces t = [] ↔ ∀ c ∈ t, isBrace c = false := by
  simp [braces, List.filter_eq_nil_iff]

theorem braceStep_of_not_isBrace {c : CodePoint} (h : isBrace c = false) : braceStep c = 0 := by
  simp only [isBrace, Bool.or_eq_false_iff] at h
  simp [braceStep, h.1, h.2]

theorem braceDepth_braces (code : Text) : braceDepth (braces code) = braceDepth code := by
  induction code with
  | nil => rfl
  | cons c code ih =>
    rw [braceDepth_cons]
    by_cases hc : isBrace c = true
    · rw [braces, List.filter_cons_of_pos hc, braceDepth_cons, ← braces, ih]
    · rw [braces, List.filter_cons_of_neg hc, ← braces, ih,
        braceStep_of_not_isBrace (by simpa using hc), zero_add]

theorem braceDepth_of_braces (h : braces t = []) : braceDepth t = 0 := by
  rw [← braceDepth_braces, h]
  rfl

theorem braces_take_of_braces (h : braces t = []) (n : Nat) : braces (t.take n) = [] := by
  rw [braces_eq_nil_iff] at h ⊢
  intro c hc
  exact h c (List.mem_of_mem_take hc)

/-! ## Balanced code -/

/-- Every closing brace has an opening one before it, and every opening one is closed. -/
structure Balanced (code : Text) : Prop where
  nonneg : ∀ n ≤ code.length, 0 ≤ braceDepth (code.take n)
  closed : braceDepth code = 0

instance (code : Text) : Decidable (Balanced code) :=
  decidable_of_iff
    ((∀ n ≤ code.length, 0 ≤ braceDepth (code.take n)) ∧ braceDepth code = 0)
    ⟨fun ⟨hnonneg, hclosed⟩ => ⟨hnonneg, hclosed⟩, fun h => ⟨h.nonneg, h.closed⟩⟩

theorem Balanced.nonneg_take (h : Balanced code) (n : Nat) : 0 ≤ braceDepth (code.take n) := by
  by_cases hn : n ≤ code.length
  · exact h.nonneg n hn
  · rw [List.take_of_length_le (by omega), h.closed]

/-- **Balance is told by the braces alone.** -/
theorem Balanced.of_braces (h : Balanced (braces code)) : Balanced code where
  nonneg := by
    intro n _
    have hprefix : braces (code.take n) <+: braces code := (List.take_prefix n code).filter isBrace
    rw [← braceDepth_braces, List.prefix_iff_eq_take.1 hprefix]
    exact h.nonneg_take _
  closed := by
    rw [← braceDepth_braces]
    exact h.closed

theorem braceDepth_take_block (code rest : Text) (hn : n ≤ code.length) :
    braceDepth ((.char '{' :: (code ++ rest)).take (n + 1)) = 1 + braceDepth (code.take n) := by
  rw [List.take_succ_cons, braceDepth_cons, List.take_append_of_le_length hn]
  rfl

theorem Balanced.braceDepth_block (h : Balanced code) :
    braceDepth (.char '{' :: (code ++ [.char '}'])) = 0 := by
  rw [braceDepth_cons, braceDepth_append, h.closed]
  rfl

/-! ## Blocks -/

/-- **The depth around a block** is zero, and positive inside of it. -/
theorem depth_block_iff {before after : Text} (hbefore : braces before = [])
    (hcode : Balanced code) (hafter : braces after = []) (n : Nat) :
    let text := before ++ (.char '{' :: (code ++ [.char '}']) ++ after)
    0 ≤ braceDepth (text.take n) ∧
      (braceDepth (text.take n) = 0 ↔
        n ≤ before.length ∨ before.length + code.length + 1 < n) := by
  intro text
  -- Outside the block there is no brace, so that the depth counts its characters only.
  have htake : braceDepth (text.take n) =
      braceDepth ((.char '{' :: (code ++ [.char '}'])).take (n - before.length)) := by
    rw [List.take_append, braceDepth_append, List.take_append, braceDepth_append,
      braceDepth_of_braces (braces_take_of_braces hbefore n),
      braceDepth_of_braces (braces_take_of_braces hafter _)]
    omega
  rw [htake]
  by_cases hfirst : n ≤ before.length
  · rw [Nat.sub_eq_zero_of_le hfirst]
    exact ⟨le_rfl, fun _ => .inl hfirst, fun _ => rfl⟩
  obtain ⟨k, hk⟩ : ∃ k, n - before.length = k + 1 := ⟨n - before.length - 1, by omega⟩
  rw [hk]
  by_cases hinside : k ≤ code.length
  · rw [braceDepth_take_block _ _ hinside]
    have hnonneg := hcode.nonneg k hinside
    exact ⟨by omega, fun hzero => by omega, fun hplace => by omega⟩
  · rw [List.take_of_length_le (by simp; omega), hcode.braceDepth_block]
    exact ⟨le_rfl, fun _ => .inr (by omega), fun _ => rfl⟩

end DocEnum.Java
