import Mathlib.Data.List.DropRight
import DocEnum.Proofs.Text

/-!
# Trimming and lines

What trimming does to a text that is read line by line.

**Ends** (`trim`). `strip` drops the blanks at both ends of a text, `trimLines` the empty lines at
both ends of a list. A function that ignores one such element at either end ignores all of them
(`apply_trim`).

**Joined lines** without blanks around them are stripped by leaving out the empty lines at both
ends (`strip_joinWith`).

**Reading lines.** A line ends at the first line break (`lines_append_newline`). Joined lines are
read again, but for an empty last one (`lines_joinWith`). Text after a line feed adds its lines,
and perhaps an empty line before them (`lines_append_feed`).

Main result: stripping a text keeps its lines, but for blanks at the ends of lines and for empty
lines at both ends (`trimLines_map_lines_strip`).
-/

namespace DocEnum.Text

/-! ## Ends -/

section Ends

variable {α β : Type} {p : α → Bool} {f : List α → β} {l : List α}

/-- Without the elements at both ends that satisfy `p`. -/
def trim (p : α → Bool) (l : List α) : List α :=
  (l.dropWhile p).rdropWhile p

theorem apply_dropWhile (hstart : ∀ x l, p x = true → f (x :: l) = f l) (l : List α) :
    f (l.dropWhile p) = f l := by
  induction l with
  | nil => rfl
  | cons x l ih =>
    by_cases hx : p x = true
    · rw [List.dropWhile_cons_of_pos hx, ih, hstart x l hx]
    · rw [List.dropWhile_cons_of_neg hx]

theorem apply_rdropWhile (hend : ∀ l x, p x = true → f (l ++ [x]) = f l) (l : List α) :
    f (l.rdropWhile p) = f l := by
  induction l using List.reverseRecOn with
  | nil => rfl
  | append_singleton l x ih =>
    by_cases hx : p x = true
    · rw [List.rdropWhile_concat_pos p l x hx, ih, hend l x hx]
    · rw [List.rdropWhile_concat_neg p l x hx]

/-- **Trimming does not matter** to a function that ignores one element at either end. -/
theorem apply_trim (hstart : ∀ x l, p x = true → f (x :: l) = f l)
    (hend : ∀ l x, p x = true → f (l ++ [x]) = f l) (l : List α) : f (trim p l) = f l := by
  rw [trim, apply_rdropWhile hend, apply_dropWhile hstart]

theorem trim_cons {x : α} (hx : p x = true) (l : List α) : trim p (x :: l) = trim p l := by
  rw [trim, List.dropWhile_cons_of_pos hx, trim]

theorem trim_concat {x : α} (hx : p x = true) (l : List α) : trim p (l ++ [x]) = trim p l := by
  rw [trim, trim, List.dropWhile_append]
  by_cases hl : l.dropWhile p = []
  · simp [hl, hx]
  · simp [hl, hx]

theorem trim_sublist : (trim p l).Sublist l :=
  (List.rdropWhile_prefix p _).sublist.trans (List.dropWhile_sublist p)

theorem rdropWhile_append (l m : List α) :
    (l ++ m).rdropWhile p =
      if m.rdropWhile p = [] then l.rdropWhile p else l ++ m.rdropWhile p := by
  rw [List.rdropWhile, List.rdropWhile, List.rdropWhile, List.reverse_append,
    List.dropWhile_append]
  by_cases hm : m.reverse.dropWhile p = []
  · simp [hm]
  · simp [hm]

theorem not_of_getLast?_rdropWhile : ∀ x ∈ (l.rdropWhile p).getLast?, p x = false := by
  intro x hx
  obtain ⟨hne, rfl⟩ := List.mem_getLast?_eq_getLast hx
  simpa using List.rdropWhile_last_not p l hne

theorem not_of_head?_trim : ∀ x ∈ (trim p l).head?, p x = false := by
  intro x hx
  obtain ⟨rest, hrest⟩ := List.rdropWhile_prefix p (l.dropWhile p)
  have h := List.head?_dropWhile_not p l
  rw [← hrest, ← trim, List.head?_append, hx] at h
  simpa using h

theorem not_of_getLast?_trim : ∀ x ∈ (trim p l).getLast?, p x = false :=
  not_of_getLast?_rdropWhile

theorem trim_eq_self (hhead : ∀ x ∈ l.head?, p x = false)
    (hlast : ∀ x ∈ l.getLast?, p x = false) : trim p l = l := by
  have hstart : ([] ++ l).dropWhile p = l := dropWhile_run (by simp) hhead
  rw [List.nil_append] at hstart
  rw [trim, hstart, List.rdropWhile_eq_self_iff]
  intro hne
  simpa using hlast _ (List.getLast?_eq_getLast_of_ne_nil hne)

theorem trim_trim : trim p (trim p l) = trim p l :=
  trim_eq_self not_of_head?_trim not_of_getLast?_trim

end Ends

theorem strip_eq_trim (t : Text) : strip t = trim isBlank t := rfl

theorem strip_cons {b : CodePoint} (hb : isBlank b = true) (t : Text) : strip (b :: t) = strip t :=
  trim_cons hb t

theorem strip_concat {b : CodePoint} (hb : isBlank b = true) (t : Text) :
    strip (t ++ [b]) = strip t :=
  trim_concat hb t

theorem strip_strip (t : Text) : strip (strip t) = strip t :=
  trim_trim

/-- Without the empty lines at both ends. -/
def trimLines (lines : List Text) : List Text :=
  trim List.isEmpty lines

/-! ## Joined lines -/

theorem joinWith_concat (separator : Text) {pieces : List Text} (hne : pieces ≠ []) (last : Text) :
    joinWith separator (pieces ++ [last]) = joinWith separator pieces ++ separator ++ last := by
  induction pieces with
  | nil => exact absurd rfl hne
  | cons piece pieces ih =>
    cases pieces with
    | nil => rfl
    | cons next pieces =>
      have hrest := ih (by simp)
      rw [List.cons_append] at hrest ⊢
      rw [List.cons_append, joinWith_cons_cons, hrest, joinWith_cons_cons]
      simp

theorem head?_joinWith_cons (separator : Text) {piece : Text} (hne : piece ≠ [])
    (pieces : List Text) : (joinWith separator (piece :: pieces)).head? = piece.head? := by
  obtain ⟨c, rest, rfl⟩ := List.exists_cons_of_ne_nil hne
  cases pieces with
  | nil => rfl
  | cons next pieces => rfl

theorem getLast?_joinWith_concat (separator : Text) {last : Text} (hne : last ≠ [])
    (pieces : List Text) : (joinWith separator (pieces ++ [last])).getLast? = last.getLast? := by
  by_cases hpieces : pieces = []
  · rw [hpieces, List.nil_append, joinWith]
  · rw [joinWith_concat separator hpieces, List.getLast?_append_of_ne_nil _ hne]

theorem strip_joinWith_cons_nil (lines : List Text) :
    strip (joinWith "\n" ([] :: lines)) = strip (joinWith "\n" lines) := by
  cases lines with
  | nil => rfl
  | cons line lines => exact strip_cons (by decide) _

theorem strip_joinWith_concat_nil (lines : List Text) :
    strip (joinWith "\n" (lines ++ [[]])) = strip (joinWith "\n" lines) := by
  by_cases hne : lines = []
  · rw [hne]
    rfl
  · rw [joinWith_concat _ hne, List.append_nil]
    exact strip_concat (by decide) _

/-- **Stripping joined lines**, none with a blank at its ends, leaves out the empty lines at both
ends. -/
theorem strip_joinWith {lines : List Text} (h : ∀ line ∈ lines, strip line = line) :
    strip (joinWith "\n" lines) = joinWith "\n" (trimLines lines) := by
  -- The empty lines at the ends are blanks of the joined text.
  have hsame : strip (joinWith "\n" (trimLines lines)) = strip (joinWith "\n" lines) := by
    refine apply_trim (f := fun lines => strip (joinWith "\n" lines)) ?_ ?_ lines
    · intro line lines hempty
      rw [List.isEmpty_iff.1 hempty, strip_joinWith_cons_nil]
    · intro lines line hempty
      rw [List.isEmpty_iff.1 hempty, strip_joinWith_concat_nil]
  have hends : ∀ line ∈ trimLines lines, strip line = line :=
    fun line hline => h line (trim_sublist.subset hline)
  rw [← hsame]
  -- What is left begins and ends in a stripped line that is not empty.
  refine trim_eq_self ?_ ?_
  · cases hlines : trimLines lines with
    | nil => simp [joinWith]
    | cons line rest =>
      have hne : line.isEmpty = false := not_of_head?_trim line (by rw [← trimLines, hlines]; rfl)
      rw [head?_joinWith_cons _ (by simpa using hne), ← hends line (by simp [hlines])]
      exact not_of_head?_trim
  · rcases List.eq_nil_or_concat (trimLines lines) with hlines | ⟨rest, line, hlines⟩
    · simp [hlines, joinWith]
    · rw [List.concat_eq_append] at hlines
      have hne : line.isEmpty = false :=
        not_of_getLast?_trim line (by rw [← trimLines, hlines, List.getLast?_concat]; rfl)
      rw [hlines, getLast?_joinWith_concat _ (by simpa using hne),
        ← hends line (by simp [hlines])]
      exact not_of_getLast?_trim

theorem length_joinWith_cons_le (s : CodePoint) (piece : Text) (pieces : List Text) :
    (joinWith [s] (piece :: pieces)).length ≤ piece.length + 1 + (joinWith [s] pieces).length := by
  cases pieces with
  | nil => exact Nat.le_add_right piece.length 1
  | cons next pieces =>
    rw [joinWith_cons_cons, List.length_append, List.length_append, List.length_singleton]

theorem length_joinWith_map_le {g : Text → Text} (h : ∀ piece, (g piece).length ≤ piece.length)
    (s : CodePoint) (pieces : List Text) :
    (joinWith [s] (pieces.map g)).length ≤ (joinWith [s] pieces).length := by
  induction pieces with
  | nil => exact le_rfl
  | cons piece pieces ih =>
    have hpiece := h piece
    cases pieces with
    | nil => exact hpiece
    | cons next pieces =>
      rw [List.map_cons] at ih ⊢
      rw [List.map_cons, joinWith_cons_cons, joinWith_cons_cons]
      simp only [List.length_append]
      omega

/-! ## Reading lines -/

/-- A line break as it stands in a text: one character, or carriage return and line feed. -/
def IsNewline (newline : Text) : Prop :=
  newline = [.char '\r', .char '\n'] ∨ ∃ c, newline = [c] ∧ isLineBreak c = true

theorem IsNewline.exists_cons {newline : Text} (h : IsNewline newline) :
    ∃ c rest, newline = c :: rest ∧ isLineBreak c = true := by
  rcases h with rfl | ⟨c, rfl, hc⟩
  · exact ⟨'\r', [.char '\n'], rfl, by decide⟩
  · exact ⟨c, [], rfl, hc⟩

theorem isBlank_of_isLineBreak {c : CodePoint} (h : isLineBreak c = true) : isBlank c = true := by
  simp only [isLineBreak, isBlank, Bool.or_eq_true, Bool.and_eq_true, decide_eq_true_eq,
    beq_iff_eq] at h ⊢
  omega

/-- A line break ends the line, unless it is the first half of one. -/
theorem linesFrom_cons_of_break {c : CodePoint} (hc : isLineBreak c = true) {rest : Text}
    (hrest : c = '\r' → rest.head? ≠ some (.char '\n')) (line : Text) :
    linesFrom line (c :: rest) = line.reverse :: linesFrom [] rest := by
  rw [linesFrom, if_pos hc]
  rintro rest' rfl rfl
  exact hrest rfl rfl

theorem linesFrom_cons_of_none {c : CodePoint} (hc : ¬isLineBreak c = true) (line rest : Text) :
    linesFrom line (c :: rest) = linesFrom (c :: line) rest := by
  rw [linesFrom, if_neg hc]
  rintro rest' rfl rfl
  exact hc (by decide)

theorem linesFrom_append {t : Text} (ht : ∀ c ∈ t, isLineBreak c = false) (line rest : Text) :
    linesFrom line (t ++ rest) = linesFrom (t.reverse ++ line) rest := by
  induction t generalizing line with
  | nil => rfl
  | cons c t ih =>
    rw [List.forall_mem_cons] at ht
    rw [List.cons_append, linesFrom_cons_of_none (by simp [ht.1]), ih ht.2]
    simp

theorem lines_of_none {t : Text} (ht : ∀ c ∈ t, isLineBreak c = false) :
    lines t = if t = [] then [] else [t] := by
  have h := linesFrom_append ht [] []
  rw [List.append_nil, List.append_nil] at h
  rw [lines, h, linesFrom]
  simp

/-- **A line ends at the first line break.** -/
theorem lines_append_newline {line newline : Text} (hline : ∀ c ∈ line, isLineBreak c = false)
    (hnewline : IsNewline newline) {rest : Text}
    (hrest : newline = [.char '\r'] → rest.head? ≠ some (.char '\n')) :
    lines (line ++ (newline ++ rest)) = line :: lines rest := by
  rw [lines, linesFrom_append hline, List.append_nil]
  rcases hnewline with rfl | ⟨c, rfl, hc⟩
  · simp [linesFrom, lines]
  · rw [List.singleton_append, linesFrom_cons_of_break hc (fun h => hrest (by rw [h])),
      List.reverse_reverse, lines]

theorem isNewline_feed : IsNewline [.char '\n'] :=
  .inr ⟨'\n', rfl, by decide⟩

/-- **Joined lines are read again**, but for an empty last one. -/
theorem lines_joinWith {ls : List Text} (h : ∀ line ∈ ls, ∀ c ∈ line, isLineBreak c = false) :
    lines (joinWith "\n" ls) = ls ∨ lines (joinWith "\n" ls) ++ [[]] = ls := by
  induction ls with
  | nil => exact .inl rfl
  | cons line ls ih =>
    rw [List.forall_mem_cons] at h
    cases ls with
    | nil =>
      rw [joinWith, lines_of_none h.1]
      -- An empty last line leaves no trace behind the line feed before it.
      by_cases hline : line = []
      · exact .inr (by simp [hline])
      · exact .inl (by simp [hline])
    | cons next ls =>
      have hread : lines (joinWith "\n" (line :: next :: ls)) =
          line :: lines (joinWith "\n" (next :: ls)) := by
        rw [joinWith_cons_cons, List.append_assoc]
        exact lines_append_newline h.1 isNewline_feed (by simp)
      rw [hread]
      rcases ih h.2 with hall | hall
      · exact .inl (by rw [hall])
      · exact .inr (by rw [List.cons_append, hall])

theorem length_joinWith_linesFrom_le (s : CodePoint) (line t : Text) :
    (joinWith [s] (linesFrom line t)).length ≤ line.length + t.length := by
  fun_induction linesFrom line t with
  | case1 line hempty => simp [joinWith]
  | case2 line hne => simp [joinWith]
  | case3 line t ih =>
    have hcons := length_joinWith_cons_le s line.reverse (linesFrom [] t)
    simp only [List.length_reverse, List.length_nil, List.length_cons] at hcons ih ⊢
    omega
  | case4 line c t hcrlf hbreak ih =>
    have hcons := length_joinWith_cons_le s line.reverse (linesFrom [] t)
    simp only [List.length_reverse, List.length_nil, List.length_cons] at hcons ih ⊢
    omega
  | case5 line c t hcrlf hbreak ih =>
    simp only [List.length_cons] at ih ⊢
    omega

theorem length_joinWith_lines_le (s : CodePoint) (t : Text) :
    (joinWith [s] (lines t)).length ≤ t.length := by
  have h := length_joinWith_linesFrom_le s [] t
  rwa [List.length_nil, Nat.zero_add] at h

theorem linesFrom_append_feed (line t rest : Text) :
    linesFrom line (t ++ .char '\n' :: rest) = linesFrom line t ++ lines rest ∨
      linesFrom line (t ++ .char '\n' :: rest) = linesFrom line t ++ [] :: lines rest := by
  fun_induction linesFrom line t with
  | case1 line hempty =>
    obtain rfl : line = [] := by simpa using hempty
    exact .inr rfl
  | case2 line hne =>
    exact .inl (linesFrom_cons_of_break (by decide) (by simp) line)
  | case3 line t ih => simpa [linesFrom] using ih
  | case4 line c t hcrlf hbreak ih =>
    -- A carriage return at the end of `t` takes the line feed with it.
    by_cases hfeed : c = '\r' ∧ t = []
    · obtain ⟨rfl, rfl⟩ := hfeed
      exact .inl (by simp [linesFrom, lines])
    · have hhead : c = '\r' → (t ++ .char '\n' :: rest).head? ≠ some (.char '\n') := by
        intro hc
        cases t with
        | nil => exact absurd ⟨hc, rfl⟩ hfeed
        | cons d t => simpa using fun hd => hcrlf t hc (by rw [hd])
      rw [List.cons_append, linesFrom_cons_of_break hbreak hhead]
      simpa using ih
  | case5 line c t hcrlf hbreak ih =>
    rw [List.cons_append, linesFrom_cons_of_none hbreak]
    exact ih

/-- **Text after a line feed** adds its lines, and perhaps an empty line before them. -/
theorem lines_append_feed (t rest : Text) :
    lines (t ++ .char '\n' :: rest) = lines t ++ lines rest ∨
      lines (t ++ .char '\n' :: rest) = lines t ++ [] :: lines rest :=
  linesFrom_append_feed [] t rest

/-! ## Lines of stripped texts -/

section Ignoring

variable {g : Text → Text}

/-- A blank after the last line at most opens a further line. -/
theorem map_linesFrom_concat (hnil : g [] = [])
    (hend : ∀ t b, isBlank b = true → g (t ++ [b]) = g t) {b : CodePoint} (hb : isBlank b = true)
    (line t : Text) :
    (linesFrom line (t ++ [b])).map g = (linesFrom line t).map g ∨
      (linesFrom line (t ++ [b])).map g = (linesFrom line t).map g ++ [[]] := by
  fun_induction linesFrom line t with
  | case1 line hempty =>
    obtain rfl : line = [] := by simpa using hempty
    have hblank : g [b] = [] := (hend [] b hb).trans hnil
    refine .inr ?_
    rw [List.nil_append]
    by_cases hbreak : isLineBreak b = true
    · rw [linesFrom_cons_of_break hbreak (by simp)]
      simp [linesFrom, hnil]
    · rw [linesFrom_cons_of_none hbreak]
      simp [linesFrom, hblank]
  | case2 line hne =>
    refine .inl ?_
    rw [List.nil_append]
    by_cases hbreak : isLineBreak b = true
    · rw [linesFrom_cons_of_break hbreak (by simp)]
      simp [linesFrom]
    · rw [linesFrom_cons_of_none hbreak]
      simp [linesFrom, hend _ b hb]
  | case3 line t ih => simpa [linesFrom] using ih
  | case4 line c t hcrlf hbreak ih =>
    -- A carriage return at the end of `t` may take `b` with it.
    by_cases hfeed : c = '\r' ∧ t ++ [b] = [.char '\n']
    · obtain ⟨rfl, ht⟩ := hfeed
      obtain ⟨rfl, rfl⟩ : t = [] ∧ b = '\n' := by simpa [List.append_eq_singleton_iff] using ht
      exact .inl (by simp [linesFrom])
    · have hhead : c = '\r' → (t ++ [b]).head? ≠ some (.char '\n') := by
        intro hc
        cases t with
        | nil => simpa [hc] using hfeed
        | cons d t => simpa using fun hd => hcrlf t hc (by rw [hd])
      rw [List.cons_append, linesFrom_cons_of_break hbreak hhead]
      simpa using ih
  | case5 line c t hcrlf hbreak ih =>
    rw [List.cons_append, linesFrom_cons_of_none hbreak]
    exact ih

/-- A blank before the current line at most adds a line. -/
theorem map_linesFrom_append (hnil : g [] = [])
    (hstart : ∀ b t, isBlank b = true → g (b :: t) = g t) {b : CodePoint} (hb : isBlank b = true)
    (line t : Text) :
    (linesFrom (line ++ [b]) t).map g = (linesFrom line t).map g ∨
      (linesFrom (line ++ [b]) t).map g = [] :: (linesFrom line t).map g := by
  fun_induction linesFrom line t with
  | case1 line hempty =>
    obtain rfl : line = [] := by simpa using hempty
    have hblank : g [b] = [] := (hstart b [] hb).trans hnil
    exact .inr (by simp [linesFrom, hblank])
  | case2 line hne => exact .inl (by simp [linesFrom, hstart b _ hb])
  | case3 line t ih => exact .inl (by simp [linesFrom, hstart b _ hb])
  | case4 line c t hcrlf hbreak ih =>
    have hhead : c = '\r' → t.head? ≠ some (.char '\n') := by
      intro hc hfeed
      obtain ⟨rest, rfl⟩ := List.head?_eq_some_iff.1 hfeed
      exact hcrlf rest hc rfl
    refine .inl ?_
    rw [linesFrom_cons_of_break hbreak hhead]
    simp [hstart b _ hb]
  | case5 line c t hcrlf hbreak ih =>
    rw [linesFrom_cons_of_none hbreak]
    exact ih

theorem trimLines_map_lines_cons (hnil : g [] = [])
    (hstart : ∀ b t, isBlank b = true → g (b :: t) = g t) {b : CodePoint} (hb : isBlank b = true)
    (t : Text) : trimLines ((lines (b :: t)).map g) = trimLines ((lines t).map g) := by
  by_cases hbreak : isLineBreak b = true
  · by_cases hfeed : b = '\r' ∧ t.head? = some (.char '\n')
    · obtain ⟨rfl, hhead⟩ := hfeed
      obtain ⟨rest, rfl⟩ := List.head?_eq_some_iff.1 hhead
      rfl
    · rw [lines, linesFrom_cons_of_break hbreak (fun hb hhead => hfeed ⟨hb, hhead⟩),
        List.reverse_nil, List.map_cons, hnil]
      exact trim_cons rfl _
  · rw [lines, linesFrom_cons_of_none hbreak]
    rcases map_linesFrom_append hnil hstart hb [] t with heq | heq
    · exact congrArg trimLines heq
    · exact (congrArg trimLines heq).trans (trim_cons rfl _)

theorem trimLines_map_lines_concat (hnil : g [] = [])
    (hend : ∀ t b, isBlank b = true → g (t ++ [b]) = g t) {b : CodePoint} (hb : isBlank b = true)
    (t : Text) : trimLines ((lines (t ++ [b])).map g) = trimLines ((lines t).map g) := by
  rcases map_linesFrom_concat hnil hend hb [] t with heq | heq
  · exact congrArg trimLines heq
  · exact (congrArg trimLines heq).trans (trim_concat rfl _)

/-- **Stripping a text** keeps its lines, but for blanks around them and for empty lines at both
ends. -/
theorem trimLines_map_lines_strip (hnil : g [] = [])
    (hstart : ∀ b t, isBlank b = true → g (b :: t) = g t)
    (hend : ∀ t b, isBlank b = true → g (t ++ [b]) = g t) (t : Text) :
    trimLines ((lines (strip t)).map g) = trimLines ((lines t).map g) := by
  refine apply_trim (f := fun t => trimLines ((lines t).map g)) ?_ ?_ t
  · intro b t hb
    exact trimLines_map_lines_cons hnil hstart hb t
  · intro t b hb
    exact trimLines_map_lines_concat hnil hend hb t

end Ignoring

end DocEnum.Text
