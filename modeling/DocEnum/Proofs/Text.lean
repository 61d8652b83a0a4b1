import Mathlib.Algebra.Group.Nat.Defs
import DocEnum.Text.Blank

/-!
# Pieces, beginnings, runs, lines and numerals

The facts about text that the theory of comments and sources is built from.

**Pieces.** A piece holds characters of its text and no separator (`mem_and_not_of_mem_splitOn`).
Cutting puts joined pieces apart again, if none of them holds a separator (`splitOn_joinWith`), and
joining puts the pieces of a text together again (`joinWith_splitOn`).

**Beginnings.** What is left without a beginning is what stands behind it
(`dropBeginning?_eq_some_iff`).

**Runs.** A run of elements that satisfy a test is what `takeWhile` takes and `dropWhile` drops, if
an element that fails the test follows.

**Blanks.** What trimming leaves is a sublist of the text; `strip` leaves no blank at either end.

**Lines.** A line holds characters of its text and no line break (`mem_and_not_break_of_mem_lines`).

**Numerals.** Reading a printed number gives the number (`toNat_ofNat`), and a run of digits
without leading zeros is at least as large as its length says (`pow_le_toNat`).
-/

namespace DocEnum.Text

/-! ## Pieces -/

theorem splitOn_ne_nil (p : CodePoint → Bool) (t : Text) : splitOn p t ≠ [] := by
  cases t with
  | nil => simp [splitOn]
  | cons c rest =>
    rw [splitOn]
    split
    · simp
    · split <;> simp

/-- A piece holds characters of the text, none of them a separator. -/
theorem mem_and_not_of_mem_splitOn {p : CodePoint → Bool} {t piece : Text} {c : CodePoint}
    (hpiece : piece ∈ splitOn p t) (hc : c ∈ piece) : c ∈ t ∧ p c = false := by
  induction t generalizing piece with
  | nil =>
    rw [splitOn, List.mem_singleton] at hpiece
    simp [hpiece] at hc
  | cons d rest ih =>
    rw [splitOn] at hpiece
    -- A separator begins an empty piece; any other character joins the first one.
    split at hpiece
    · rcases List.mem_cons.1 hpiece with rfl | hpiece
      · simp at hc
      · exact ⟨List.mem_cons_of_mem _ (ih hpiece hc).1, (ih hpiece hc).2⟩
    · next hd =>
      split at hpiece
      · next hnil => exact absurd hnil (splitOn_ne_nil p rest)
      · next first others hrest =>
        rw [hrest] at ih
        rcases List.mem_cons.1 hpiece with rfl | hpiece
        · rcases List.mem_cons.1 hc with rfl | hc
          · exact ⟨List.mem_cons_self, by simpa using hd⟩
          · have h := ih List.mem_cons_self hc
            exact ⟨List.mem_cons_of_mem _ h.1, h.2⟩
        · have h := ih (List.mem_cons_of_mem _ hpiece) hc
          exact ⟨List.mem_cons_of_mem _ h.1, h.2⟩

/-- Every character is a separator or stands in a piece. -/
theorem mem_of_splitOn (p : CodePoint → Bool) {t : Text} {c : CodePoint} (hc : c ∈ t) :
    p c = true ∨ ∃ piece ∈ splitOn p t, c ∈ piece := by
  induction t with
  | nil => simp at hc
  | cons d rest ih =>
    rw [splitOn]
    split
    · next hd =>
      rcases List.mem_cons.1 hc with rfl | hc
      · exact .inl hd
      · exact (ih hc).imp_right fun ⟨piece, hpiece, h⟩ => ⟨piece, List.mem_cons_of_mem _ hpiece, h⟩
    · split
      · next hnil => exact absurd hnil (splitOn_ne_nil p rest)
      · next first others hrest =>
        rcases List.mem_cons.1 hc with rfl | hc
        · exact .inr ⟨_, List.mem_cons_self, List.mem_cons_self⟩
        · refine (ih hc).imp_right fun ⟨piece, hpiece, h⟩ => ?_
          rw [hrest] at hpiece
          rcases List.mem_cons.1 hpiece with rfl | hpiece
          · exact ⟨_, List.mem_cons_self, List.mem_cons_of_mem _ h⟩
          · exact ⟨piece, List.mem_cons_of_mem _ hpiece, h⟩

theorem splitOn_of_none {p : CodePoint → Bool} {t : Text} (h : ∀ c ∈ t, p c = false) :
    splitOn p t = [t] := by
  induction t with
  | nil => rfl
  | cons c rest ih =>
    rw [List.forall_mem_cons] at h
    simp [splitOn, h.1, ih h.2]

/-- The text before the first separator is the first piece. -/
theorem splitOn_append_cons {p : CodePoint → Bool} {t : Text} (h : ∀ c ∈ t, p c = false)
    {s : CodePoint}
    (hs : p s = true) (rest : Text) : splitOn p (t ++ s :: rest) = t :: splitOn p rest := by
  induction t with
  | nil => simp [splitOn, hs]
  | cons c t ih =>
    rw [List.forall_mem_cons] at h
    simp [splitOn, h.1, ih h.2]

/-- A separator between two texts separates their pieces. -/
theorem splitOn_append_separator {p : CodePoint → Bool} (t : Text) {s : CodePoint} (hs : p s = true)
    (rest : Text) : splitOn p (t ++ s :: rest) = splitOn p t ++ splitOn p rest := by
  induction t with
  | nil => simp [splitOn, hs]
  | cons c t ih =>
    by_cases hc : p c = true
    · simp [splitOn, hc, ih]
    · obtain ⟨first, others, hsplit⟩ := List.exists_cons_of_ne_nil (splitOn_ne_nil p t)
      simp [splitOn, hc, ih, hsplit]

/-- Another character at the start belongs to the first piece. -/
theorem splitOn_cons_of_none {p : CodePoint → Bool} {c : CodePoint} (hc : p c = false) (t : Text) :
    ∃ first others, splitOn p t = first :: others ∧
      splitOn p (c :: t) = (c :: first) :: others := by
  obtain ⟨first, others, hsplit⟩ := List.exists_cons_of_ne_nil (splitOn_ne_nil p t)
  exact ⟨first, others, hsplit, by simp [splitOn, hc, hsplit]⟩

/-- Another character at the end belongs to the last piece. -/
theorem splitOn_concat_of_none {p : CodePoint → Bool} {c : CodePoint} (hc : p c = false)
    (t : Text) :
    ∃ others last, splitOn p t = others ++ [last] ∧
      splitOn p (t ++ [c]) = others ++ [last ++ [c]] := by
  induction t with
  | nil => exact ⟨[], [], rfl, by simp [splitOn, hc]⟩
  | cons d t ih =>
    obtain ⟨others, last, hsplit, hconcat⟩ := ih
    by_cases hd : p d = true
    · exact ⟨[] :: others, last, by simp [splitOn, hd, hsplit], by simp [splitOn, hd, hconcat]⟩
    · cases others with
      | nil => exact ⟨[], d :: last, by simp [splitOn, hd, hsplit], by simp [splitOn, hd, hconcat]⟩
      | cons first others =>
        exact ⟨(d :: first) :: others, last, by simp [splitOn, hd, hsplit],
          by simp [splitOn, hd, hconcat]⟩

theorem joinWith_cons_cons (separator piece next : Text) (pieces : List Text) :
    joinWith separator (piece :: next :: pieces) =
      piece ++ separator ++ joinWith separator (next :: pieces) := rfl

/-- **Cutting undoes joining**, if no piece holds a separator. -/
theorem splitOn_joinWith {p : CodePoint → Bool} {s : CodePoint} (hs : p s = true)
    {pieces : List Text}
    (hne : pieces ≠ []) (h : ∀ piece ∈ pieces, ∀ c ∈ piece, p c = false) :
    splitOn p (joinWith [s] pieces) = pieces := by
  induction pieces with
  | nil => exact absurd rfl hne
  | cons piece pieces ih =>
    rw [List.forall_mem_cons] at h
    cases pieces with
    | nil => exact splitOn_of_none h.1
    | cons next pieces =>
      rw [joinWith_cons_cons, List.append_assoc, List.singleton_append,
        splitOn_append_cons h.1 hs, ih (by simp) h.2]

/-- **Joining undoes cutting** at one character. -/
theorem joinWith_splitOn (s : CodePoint) (t : Text) : joinWith [s] (splitOn (· == s) t) = t := by
  induction t with
  | nil => rfl
  | cons c t ih =>
    obtain ⟨piece, pieces, hsplit⟩ := List.exists_cons_of_ne_nil (splitOn_ne_nil (· == s) t)
    rw [hsplit] at ih
    rw [splitOn, hsplit]
    split
    · next hc =>
      obtain rfl : c = s := by simpa using hc
      rw [joinWith_cons_cons, ih]
      rfl
    · cases pieces with
      | nil => exact congrArg (c :: ·) ih
      | cons next pieces =>
        rw [joinWith_cons_cons] at ih ⊢
        exact congrArg (c :: ·) ih

/-- A separator behind joined pieces ends the last one. -/
theorem joinWith_append_separator (s : CodePoint) {pieces : List Text} (hne : pieces ≠ []) :
    joinWith [s] pieces ++ [s] = pieces.flatMap fun piece => piece ++ [s] := by
  induction pieces with
  | nil => exact absurd rfl hne
  | cons piece pieces ih =>
    cases pieces with
    | nil => simp [joinWith]
    | cons next pieces =>
      rw [joinWith_cons_cons, List.flatMap_cons, ← ih (by simp)]
      simp

/-- Pieces that each end in a separator are followed by an empty piece. -/
theorem splitOn_flatMap {p : CodePoint → Bool} {s : CodePoint} (hs : p s = true)
    {pieces : List Text}
    (h : ∀ piece ∈ pieces, ∀ c ∈ piece, p c = false) :
    splitOn p (pieces.flatMap fun piece => piece ++ [s]) = pieces ++ [[]] := by
  induction pieces with
  | nil => rfl
  | cons piece pieces ih =>
    rw [List.forall_mem_cons] at h
    rw [List.flatMap_cons, List.append_assoc, List.singleton_append,
      splitOn_append_cons h.1 hs, ih h.2, List.cons_append]

theorem mem_joinWith_of_mem (separator : Text) {pieces : List Text} {piece : Text} {c : CodePoint}
    (hpiece : piece ∈ pieces) (hc : c ∈ piece) : c ∈ joinWith separator pieces := by
  induction pieces with
  | nil => cases hpiece
  | cons first pieces ih =>
    cases pieces with
    | nil => exact List.mem_singleton.1 hpiece ▸ hc
    | cons next pieces =>
      rw [joinWith_cons_cons, List.mem_append, List.mem_append]
      rcases List.mem_cons.1 hpiece with rfl | hpiece
      · exact .inl (.inl hc)
      · exact .inr (ih hpiece)

/-- A joined text holds characters of its pieces and of the separator. -/
theorem mem_joinWith {separator : Text} {pieces : List Text} {c : CodePoint}
    (hc : c ∈ joinWith separator pieces) : c ∈ separator ∨ ∃ piece ∈ pieces, c ∈ piece := by
  induction pieces with
  | nil => simp [joinWith] at hc
  | cons piece pieces ih =>
    cases pieces with
    | nil => exact .inr ⟨piece, List.mem_cons_self, hc⟩
    | cons next pieces =>
      rw [joinWith_cons_cons, List.mem_append, List.mem_append] at hc
      rcases hc with (hc | hc) | hc
      · exact .inr ⟨piece, List.mem_cons_self, hc⟩
      · exact .inl hc
      · rcases ih hc with h | ⟨piece', hmem, h⟩
        · exact .inl h
        · exact .inr ⟨piece', List.mem_cons_of_mem _ hmem, h⟩

/-! ## Beginnings -/

theorem dropBeginning?_eq_some_iff {beginning t rest : Text} :
    dropBeginning? beginning t = some rest ↔ t = beginning ++ rest := by
  fun_induction dropBeginning? beginning t with
  | case1 t => simp [eq_comm]
  | case2 => simp
  | case3 beginning c t ih => simpa using ih
  | case4 b beginning c t hne => simp [Ne.symm hne]

theorem dropBeginning?_append (beginning t : Text) :
    dropBeginning? beginning (beginning ++ t) = some t :=
  dropBeginning?_eq_some_iff.2 rfl

theorem startsWith_iff {beginning t : Text} :
    startsWith beginning t = true ↔ beginning <+: t := by
  rw [startsWith, Option.isSome_iff_exists]
  exact exists_congr fun rest => dropBeginning?_eq_some_iff.trans eq_comm

/-! ## Runs -/

section Runs

variable {α : Type} {p : α → Bool} {run rest : List α}

theorem take_length_takeWhile (p : α → Bool) (l : List α) :
    l.take (l.takeWhile p).length = l.takeWhile p :=
  (List.prefix_iff_eq_take.1 (List.takeWhile_prefix p)).symm

theorem drop_length_takeWhile (p : α → Bool) (l : List α) :
    l.drop (l.takeWhile p).length = l.dropWhile p := by
  have hdrop : (l.takeWhile p ++ l.dropWhile p).drop (l.takeWhile p).length = l.dropWhile p :=
    List.drop_left
  rwa [List.takeWhile_append_dropWhile] at hdrop

theorem takeWhile_run (hrun : ∀ x ∈ run, p x = true) (hrest : ∀ x ∈ rest.head?, p x = false) :
    (run ++ rest).takeWhile p = run := by
  rw [List.takeWhile_append_of_pos hrun]
  cases rest with
  | nil => simp
  | cons x rest =>
    rw [List.takeWhile_cons_of_neg (by simpa using hrest x rfl), List.append_nil]

theorem dropWhile_run (hrun : ∀ x ∈ run, p x = true) (hrest : ∀ x ∈ rest.head?, p x = false) :
    (run ++ rest).dropWhile p = rest := by
  rw [List.dropWhile_append_of_pos hrun]
  cases rest with
  | nil => rfl
  | cons x rest => exact List.dropWhile_cons_of_neg (by simpa using hrest x rfl)

end Runs

/-! ## Blanks -/

theorem trimEnd_sublist (p : CodePoint → Bool) (t : Text) : (trimEnd p t).Sublist t := by
  have h := (List.dropWhile_sublist (l := t.reverse) p).reverse
  rwa [List.reverse_reverse] at h

theorem strip_sublist (t : Text) : (strip t).Sublist t :=
  (trimEnd_sublist isBlank _).trans (List.dropWhile_sublist _)

/-- Blanks before a text that starts with none are what `trimStart` drops. -/
theorem trimStart_append {gap t : Text} (hgap : ∀ c ∈ gap, isBlank c = true)
    (ht : ∀ c ∈ t.head?, isBlank c = false) : trimStart (gap ++ t) = t :=
  dropWhile_run hgap ht

theorem head_trimStart {t rest : Text} {c : CodePoint} (h : trimStart t = c :: rest) :
    isBlank c = false := by
  have hhead := List.head?_dropWhile_not isBlank t
  rw [show t.dropWhile isBlank = c :: rest from h] at hhead
  simpa using hhead

/-! ## Lines -/

theorem mem_or_mem_of_mem_linesFrom {line t l : Text} {c : CodePoint} (hl : l ∈ linesFrom line t)
    (hc : c ∈ l) :
    c ∈ line ∨ (c ∈ t ∧ isLineBreak c = false) := by
  -- The characters of the line begun are those of `line`.
  fun_induction linesFrom line t with
  | case1 => simp at hl
  | case2 line => exact .inl (by simpa [List.mem_singleton.1 hl] using hc)
  | case3 line rest ih =>
    rcases List.mem_cons.1 hl with rfl | hl
    · exact .inl (by simpa using hc)
    · exact .inr (by simpa using ih hl |>.imp_right fun h => ⟨.inr (.inr h.1), h.2⟩)
  | case4 line d rest _ _ ih =>
    rcases List.mem_cons.1 hl with rfl | hl
    · exact .inl (by simpa using hc)
    · exact .inr (by simpa using ih hl |>.imp_right fun h => ⟨.inr h.1, h.2⟩)
  | case5 line d rest _ hbreak ih =>
    rcases ih hl with h | ⟨h, hbreak'⟩
    · rcases List.mem_cons.1 h with rfl | h
      · exact .inr ⟨List.mem_cons_self, by simpa using hbreak⟩
      · exact .inl h
    · exact .inr ⟨List.mem_cons_of_mem _ h, hbreak'⟩

/-- A line holds characters of the text, none of them a line break. -/
theorem mem_and_not_break_of_mem_lines {t line : Text} {c : CodePoint} (hline : line ∈ lines t)
    (hc : c ∈ line) : c ∈ t ∧ isLineBreak c = false := by
  simpa using mem_or_mem_of_mem_linesFrom hline hc

theorem unifyNewlines_of_none {t : Text} (h : .char '\r' ∉ t) : unifyNewlines t = t := by
  fun_induction unifyNewlines t with
  | case1 => rfl
  | case2 rest ih => simp at h
  | case3 rest hne ih => simp at h
  | case4 c rest hne₁ hne₂ ih => rw [ih fun hmem => h (List.mem_cons_of_mem _ hmem)]

/-! ## Numerals -/

theorem toNat_ofNat (n : Nat) : toNat (ofNat n) = n := by
  unfold toNat ofNat
  rw [List.foldl_map]
  exact Nat.ofDigitChars_ten_toDigits

theorem ofNat_injective {m n : Nat} (h : ofNat m = ofNat n) : m = n := by
  rw [← toNat_ofNat m, h, toNat_ofNat]

theorem isDigit_of_mem_ofNat {n : Nat} {c : CodePoint} (hc : c ∈ ofNat n) : c.isDigit = true := by
  obtain ⟨digit, hdigit, rfl⟩ := List.mem_map.1 hc
  exact Nat.isDigit_of_mem_toDigits (by decide) (by decide) hdigit

theorem ofNat_ne_nil (n : Nat) : ofNat n ≠ [] := fun h =>
  Nat.toDigits_ne_nil (List.map_eq_nil_iff.1 h)

/-- Digits behind a number move it by as many places. -/
theorem foldl_digits (digits : Text) (n : Nat) :
    digits.foldl (fun n c => 10 * n + (c.toNat - '0'.toNat)) n =
      10 ^ digits.length * n + toNat digits := by
  induction digits generalizing n with
  | nil => simp [toNat]
  | cons c digits ih =>
    have hzero : toNat (c :: digits) =
        10 ^ digits.length * (10 * 0 + (c.toNat - '0'.toNat)) + toNat digits := ih _
    rw [List.foldl_cons, ih, hzero, List.length_cons, Nat.pow_succ, Nat.mul_add, Nat.mul_zero,
      Nat.zero_add, Nat.mul_assoc, Nat.add_assoc]

theorem toNat_cons (c : CodePoint) (digits : Text) :
    toNat (c :: digits) = 10 ^ digits.length * (c.toNat - '0'.toNat) + toNat digits := by
  rw [toNat, List.foldl_cons, foldl_digits, Nat.mul_zero, Nat.zero_add]

theorem toNat_zero_cons (digits : Text) : toNat (.char '0' :: digits) = toNat digits := by
  simp [toNat_cons]

/-- Digits without a leading zero are at least the power of ten of their number. -/
theorem pow_le_toNat {c : CodePoint} {digits : Text} (hc : c.isDigit = true) (hzero : c ≠ '0') :
    10 ^ digits.length ≤ toNat (c :: digits) := by
  have hpos : 1 ≤ c.toNat - '0'.toNat := by
    have hle := (CodePoint.isDigit_iff_toNat.1 hc).1
    have hne : c.toNat ≠ '0'.toNat := fun h => hzero (CodePoint.toNat_inj.1 h)
    omega
  rw [toNat_cons]
  calc 10 ^ digits.length = 10 ^ digits.length * 1 := (Nat.mul_one _).symm
    _ ≤ 10 ^ digits.length * (c.toNat - '0'.toNat) := Nat.mul_le_mul_left _ hpos
    _ ≤ _ := Nat.le_add_right _ _

end DocEnum.Text
