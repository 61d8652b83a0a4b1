import DocEnum.Comment
import DocEnum.Proofs.Text

/-!
# The characters of segments

**Cleaning** takes characters away and puts line feeds between lines, so that a cleaned comment has
the characters of the comment, and no line break but the line feed (`eq_feed_or_mem_of_mem_clean`).

**Segments.** A segment holds characters of the text it is cut from and no separator. A segment of
a cleaned comment therefore holds neither a comma of either width nor any line break
(`mem_and_isSegmentChar_of_mem_segments_clean`).
-/

namespace DocEnum.Comment

/-! ## Cleaning -/

theorem dropMarkers_sublist (afterSlashes : Bool) (t : Text) :
    (dropMarkers afterSlashes t).Sublist t := by
  fun_induction dropMarkers afterSlashes t with
  | case1 => exact .slnil
  | case2 rest ih => exact ih.cons _
  | case3 afterSlashes _ rest ih => exact (ih.cons _).cons _
  | case4 => exact List.Sublist.refl _
  | case5 afterSlashes c rest _ _ ih => exact ih.cons _
  | case6 => exact List.Sublist.refl _

theorem cleanLine_sublist (line : Text) : (cleanLine line).Sublist line :=
  (Text.trimEnd_sublist _ _).trans (dropMarkers_sublist _ _)

theorem dropOpening_sublist (t : Text) : (dropOpening t).Sublist t := by
  unfold dropOpening
  split
  · exact ((List.dropWhile_sublist _).cons _).cons _
  · exact List.Sublist.refl _

theorem dropClosing_sublist (t : Text) : (dropClosing t).Sublist t := by
  unfold dropClosing
  split
  · next rest hreverse =>
    have hsublist : (rest.dropWhile (· == .char '*')).Sublist t.reverse :=
      hreverse ▸ ((List.dropWhile_sublist _).cons _).cons _
    simpa using hsublist.reverse
  · exact List.Sublist.refl _

/-- Cleaning leaves characters of the comment, and no line break but the line feed. -/
theorem eq_feed_or_mem_of_mem_clean {raw : Text} {c : CodePoint} (hc : c ∈ clean raw) :
    c = '\n' ∨ c ∈ raw ∧ Text.isLineBreak c = false := by
  have hjoined := (Text.strip_sublist _).subset hc
  rcases Text.mem_joinWith hjoined with h | ⟨line, hline, h⟩
  · exact .inl (by simpa using h)
  · obtain ⟨source, hsource, rfl⟩ := List.mem_map.1 hline
    obtain ⟨hbody, hbreak⟩ :=
      Text.mem_and_not_break_of_mem_lines hsource ((cleanLine_sublist source).subset h)
    have hstripped := (dropOpening_sublist _).subset ((dropClosing_sublist _).subset hbody)
    exact .inr ⟨(Text.strip_sublist raw).subset hstripped, hbreak⟩

/-! ## Segments -/

/-- A segment holds characters of its text, none of them a separator. -/
theorem mem_and_not_separator_of_mem_segments {t segment : Text} {c : CodePoint}
    (hsegment : segment ∈ segments t) (hc : c ∈ segment) : c ∈ t ∧ isSeparator c = false := by
  rw [segments, List.mem_filter, List.mem_map] at hsegment
  obtain ⟨⟨piece, hpiece, rfl⟩, -⟩ := hsegment
  exact Text.mem_and_not_of_mem_splitOn hpiece ((Text.strip_sublist piece).subset hc)

/-- A character that may stand in a segment of a cleaned comment: no comma of either width and no
line break. -/
def isSegmentChar (c : CodePoint) : Bool :=
  c != ',' && c != '，' && !Text.isLineBreak c

/-- **Segments of a cleaned comment** hold its characters, but no comma and no line break. -/
theorem mem_and_isSegmentChar_of_mem_segments_clean {raw segment : Text} {c : CodePoint}
    (hsegment : segment ∈ segments (clean raw)) (hc : c ∈ segment) :
    c ∈ raw ∧ isSegmentChar c = true := by
  obtain ⟨hclean, hseparator⟩ := mem_and_not_separator_of_mem_segments hsegment hc
  simp only [isSeparator, Bool.or_eq_false_iff, beq_eq_false_iff_ne] at hseparator
  obtain ⟨⟨hcomma, hwide⟩, hfeed⟩ := hseparator
  obtain ⟨hraw, hbreak⟩ := (eq_feed_or_mem_of_mem_clean hclean).resolve_left hfeed
  exact ⟨hraw, by simp [isSegmentChar, hcomma, hwide, hbreak]⟩

end DocEnum.Comment
