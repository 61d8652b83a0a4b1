import DocEnum.Proofs.Segments

/-!
# Appending to a comment

What more text behind a comment does to its entries.

**Delimiters.** A delimiter does not reach over a blank: an opening one is found before it, a
closing one after it (`dropOpening_append_cons`, `dropClosing_append_cons`). So a comment that is
not closed is dropped the same delimiters, whatever is appended on a new line.

**Segments.** Appended lines only add segments behind those of the comment
(`segments_clean_prefix_append`).

**Verdicts.** A segment is judged by what stands before it, so that more segments only add verdicts
(`judgeAll_prefix_append`).

Main result: the entries of a comment are the first entries of the comment with more lines
(`parse_prefix_append`).
-/

namespace DocEnum.Comment

/-! ## Delimiters -/

theorem dropOpening_append_cons {b : CodePoint} (hb : Text.isBlank b = true) (t rest : Text) :
    dropOpening (t ++ b :: rest) = dropOpening t ++ b :: rest := by
  by_cases h : [.char '/', .char '*'] <+: t
  · obtain ⟨s, rfl⟩ := h
    have hstop : (b :: rest).dropWhile (· == .char '*') = b :: rest :=
      List.dropWhile_cons_of_neg (by simpa using ne_star_of_isBlank hb)
    change (s ++ b :: rest).dropWhile (· == .char '*') = s.dropWhile (· == .char '*') ++ b :: rest
    rw [List.dropWhile_append, hstop]
    by_cases hs : s.dropWhile (· == .char '*') = []
    · simp [hs]
    · simp [hs]
  · have hopen : ¬[.char '/', .char '*'] <+: t ++ b :: rest := fun hopen =>
      h (opening_prefix_of_append_cons (ne_slash_of_isBlank hb) (ne_star_of_isBlank hb) hopen)
    rw [dropOpening_eq_self h, dropOpening_eq_self hopen]

theorem dropClosing_append_cons {b : CodePoint} (hb : Text.isBlank b = true) (t rest : Text) :
    dropClosing (t ++ b :: rest) = t ++ b :: dropClosing rest := by
  rw [dropClosing_eq_reverse, dropClosing_eq_reverse, List.reverse_append, List.reverse_cons,
    List.append_assoc, List.singleton_append, dropOpening_append_cons hb]
  simp

/-- A comment without a closing delimiter only loses an opening one. -/
theorem lineSegments_contents {raw : Text} (hclose : ¬[.char '*', .char '/'] <:+ Text.strip raw) :
    lineSegments (contents raw) = lineSegments (dropOpening (Text.trimStart raw)) := by
  have hopened : ¬[.char '*', .char '/'] <:+ dropOpening (Text.strip raw) :=
    fun h => hclose (h.trans (dropOpening_suffix _))
  have hend : ∀ (t : Text) (b : CodePoint), Text.isBlank b = true →
      lineSegments (dropOpening (t ++ [b])) = lineSegments (dropOpening t) := by
    intro t b hb
    rw [dropOpening_append_cons hb, lineSegments_concat hb]
  rw [contents, dropClosing_eq_self hopened]
  exact Text.apply_rdropWhile (f := fun t => lineSegments (dropOpening t)) hend _

/-! ## Segments -/

/-- Blanks behind a line feed are stripped with it. -/
theorem strip_append_feed {raw : Text} (hraw : Text.trimStart raw ≠ []) (more : Text) :
    Text.strip (raw ++ .char '\n' :: more) = Text.strip raw ∨
      ∃ rest, Text.strip (raw ++ .char '\n' :: more) =
        Text.trimStart raw ++ .char '\n' :: rest := by
  have hstart : (raw ++ .char '\n' :: more).dropWhile Text.isBlank =
      Text.trimStart raw ++ (.char '\n' :: more) := by
    rw [List.dropWhile_append, if_neg (by simpa [Text.trimStart] using hraw), Text.trimStart]
  rw [Text.strip_eq_trim, Text.trim, hstart, Text.rdropWhile_append]
  -- Either all that follows is trimmed away with the line feed, or nothing of `raw` is.
  by_cases hblank : more.rdropWhile Text.isBlank = []
  · have hend : (.char '\n' :: more).rdropWhile Text.isBlank = [] := by
      rw [← List.singleton_append, Text.rdropWhile_append, if_pos hblank]
      rfl
    rw [if_pos hend]
    exact .inl rfl
  · have hend : (.char '\n' :: more).rdropWhile Text.isBlank =
        .char '\n' :: more.rdropWhile Text.isBlank := by
      rw [← List.singleton_append, Text.rdropWhile_append, if_neg hblank]
      rfl
    rw [if_neg (by simp [hend]), hend]
    exact .inr ⟨_, rfl⟩

/-- **Appended lines** only add segments. -/
theorem segments_clean_prefix_append {raw : Text}
    (hclose : ¬[.char '*', .char '/'] <:+ Text.strip raw)
    (more : Text) : segments (clean raw) <+: segments (clean (raw ++ .char '\n' :: more)) := by
  rw [segments_clean, segments_clean]
  by_cases hraw : Text.trimStart raw = []
  · have hnone : lineSegments (dropOpening []) = [] := by decide
    rw [lineSegments_contents hclose, hraw, hnone]
    exact List.nil_prefix
  · rcases strip_append_feed hraw more with hstrip | ⟨rest, hstrip⟩
    · have hsame : contents (raw ++ .char '\n' :: more) = contents raw := by
        rw [contents, hstrip, contents]
      exact ⟨[], by rw [List.append_nil, hsame]⟩
    · rw [lineSegments_contents hclose, contents, hstrip, dropOpening_append_cons (by decide),
        dropClosing_append_cons (by decide), lineSegments_append_feed]
      exact List.prefix_append _ _

end DocEnum.Comment

namespace DocEnum.Entry

/-! ## Verdicts -/

/-- **More segments** only add verdicts. -/
theorem judgeAll_prefix_append (accepted : List Entry) (segments more : List Text) :
    judgeAll accepted segments <+: judgeAll accepted (segments ++ more) := by
  induction segments generalizing accepted with
  | nil => exact List.nil_prefix
  | cons segment segments ih =>
    rw [List.cons_append, judgeAll, judgeAll, List.prefix_cons_inj]
    exact ih _

theorem verdicts_prefix_append {raw : Text} (hclose : ¬[.char '*', .char '/'] <:+ Text.strip raw)
    (more : Text) : verdicts raw <+: verdicts (raw ++ .char '\n' :: more) := by
  obtain ⟨rest, hrest⟩ := Comment.segments_clean_prefix_append hclose more
  rw [verdicts, verdicts, ← hrest]
  exact judgeAll_prefix_append [] _ rest

/-- **Appending keeps entries.** If a comment does not end in a closing delimiter, its entries are
the first entries of the comment with more text on new lines. -/
theorem parse_prefix_append {raw : Text} (hclose : ¬[.char '*', .char '/'] <:+ Text.strip raw)
    (more : Text) :
    parse raw <+: parse (raw ++ "\n" ++ more) := by
  rw [List.append_assoc]
  exact (verdicts_prefix_append hclose more).filterMap Verdict.accepted?

/-- Lines that use a name and a code again, and close the comment. -/
theorem parse_prefix_append_clash :
    let raw : Text := "/** 1-Open, 2-open\r"
    let more : Text := " * 3-OPEN 2, 1-again\n */"
    ¬[.char '*', .char '/'] <:+ Text.strip raw ∧ parse raw <+: parse (raw ++ "\n" ++ more) := by
  intro raw more
  have hclose : ¬[.char '*', .char '/'] <:+ Text.strip raw := by decide
  exact ⟨hclose, parse_prefix_append hclose more⟩

end DocEnum.Entry
