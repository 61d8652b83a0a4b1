import DocEnum.Console.Basic
import DocEnum.Proofs.Text

/-!
# Texts shown as they are

A console shows a text as it is exactly if the text holds no tab and none of the controls that a
console does not show (`shown_eq_self_iff`). What is shown never holds any of them
(`isVerbatim_of_mem_shown`), so a text that does hold one is not shown as it is.
-/

namespace DocEnum.Console

variable {t line : Text} {c : CodePoint}

/-- A character that a console shows as it is. -/
def isVerbatim (c : CodePoint) : Bool :=
  !isDropped c && c != '\t'

/-- Filling up tabs adds spaces only. -/
theorem mem_expandPieces {pieces : List Text} (h : c ∈ expandPieces pieces) :
    c = ' ' ∨ ∃ piece ∈ pieces, c ∈ piece := by
  fun_induction expandPieces pieces with
  | case1 => cases h
  | case2 last => exact .inr ⟨last, List.mem_singleton_self last, h⟩
  | case3 piece rest _ ih =>
    rcases List.mem_append.1 h with hfirst | hrest
    · unfold fillUp at hfirst
      simp only [List.mem_append, List.mem_singleton, List.mem_replicate] at hfirst
      rcases hfirst with (hpiece | rfl) | ⟨-, rfl⟩
      · exact .inr ⟨piece, List.mem_cons_self, hpiece⟩
      · exact .inl rfl
      · exact .inl rfl
    · refine (ih hrest).imp_right ?_
      rintro ⟨piece', hpiece, hc⟩
      exact ⟨piece', List.mem_cons_of_mem _ hpiece, hc⟩

theorem mem_expandTabs (h : c ∈ expandTabs line) : c = ' ' ∨ c ∈ line ∧ c ≠ '\t' := by
  refine (mem_expandPieces h).imp_right ?_
  rintro ⟨piece, hpiece, hc⟩
  obtain ⟨hline, htab⟩ := Text.mem_and_not_of_mem_splitOn hpiece hc
  exact ⟨hline, by simpa using htab⟩

theorem expandTabs_of_no_tab (h : .char '\t' ∉ line) : expandTabs line = line := by
  have hnone : ∀ c ∈ line, (c == '\t') = false := by
    intro c hc
    rw [beq_eq_false_iff_ne]
    rintro rfl
    exact h hc
  unfold expandTabs
  rw [Text.splitOn_of_none hnone]
  rfl

/-- **What is shown** holds no tab and none of the controls that are not shown. -/
theorem isVerbatim_of_mem_shown (h : c ∈ shown t) : isVerbatim c = true := by
  rcases Text.mem_joinWith h with hfeed | ⟨line, hline, hc⟩
  · obtain rfl : c = '\n' := by simpa using hfeed
    rfl
  · obtain ⟨raw, hraw, rfl⟩ := List.mem_map.1 hline
    rcases mem_expandTabs hc with rfl | ⟨hmem, htab⟩
    · rfl
    · obtain ⟨hkept, -⟩ := Text.mem_and_not_of_mem_splitOn hraw hmem
      rw [isVerbatim, (List.mem_filter.1 hkept).2]
      simpa using htab

/-- **A text is shown as it is** if and only if it holds no tab and none of the controls that are
not shown. -/
theorem shown_eq_self_iff : shown t = t ↔ ∀ c ∈ t, isVerbatim c = true := by
  constructor
  · intro h c hc
    refine isVerbatim_of_mem_shown (t := t) ?_
    rw [h]
    exact hc
  · intro h
    have hkept : t.filter (fun c => !isDropped c) = t := by
      refine List.filter_eq_self.2 ?_
      intro c hc
      exact (Bool.and_eq_true_iff.1 (h c hc)).1
    have hlines : (Text.splitOn (· == .char '\n') t).map expandTabs =
        Text.splitOn (· == .char '\n') t := by
      refine (List.map_congr_left ?_).trans (List.map_id _)
      intro line hline
      apply expandTabs_of_no_tab
      intro htab
      exact absurd (h _ (Text.mem_and_not_of_mem_splitOn hline htab).1) (by decide)
    unfold shown
    simp only [hkept, hlines, Text.joinWith_splitOn]

end DocEnum.Console
