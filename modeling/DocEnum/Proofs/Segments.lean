import DocEnum.Proofs.Cleaning

/-!
# Segments of gaps, lines and comments

How segments follow from the parts of a text.

**Gaps.** Blanks and separators at either end of a text hold no segment (`segments_strip`). Two
texts with a separator between them have the segments of the one and then those of the other
(`segments_append`).

**Lines** (`lineSegments`). The segments of a cleaned comment are those of its lines, one line
after the other (`segments_clean`). Blanks around the text make no difference.

**Unmarked lines.** Where no line starts with a star or a slash, cleaning keeps all segments
(`segments_clean_of_isUnmarked`).
-/

namespace DocEnum

namespace Comment

/-! ## Gaps -/

/-- What may stand between two segments: separators and blanks. -/
def isGap (c : CodePoint) : Bool :=
  isSeparator c || Text.isBlank c

theorem segments_nil : segments [] = [] := by
  decide

/-- **A separator** between two texts separates their segments. -/
theorem segments_append (t : Text) {s : CodePoint} (hs : isSeparator s = true) (rest : Text) :
    segments (t ++ s :: rest) = segments t ++ segments rest := by
  rw [segments, Text.splitOn_append_separator t hs, List.map_append, List.filter_append, segments,
    segments]

theorem segments_cons {c : CodePoint} (hc : isGap c = true) (t : Text) :
    segments (c :: t) = segments t := by
  by_cases hs : isSeparator c = true
  · exact segments_append [] hs t
  · have hb : Text.isBlank c = true := by simpa [isGap, hs] using hc
    rw [Bool.not_eq_true] at hs
    obtain ⟨first, others, hsplit, hcons⟩ := Text.splitOn_cons_of_none hs t
    rw [segments, hcons, List.map_cons, Text.strip_cons hb, segments, hsplit, List.map_cons]

theorem segments_concat {c : CodePoint} (hc : isGap c = true) (t : Text) :
    segments (t ++ [c]) = segments t := by
  by_cases hs : isSeparator c = true
  · rw [segments_append t hs, segments_nil, List.append_nil]
  · have hb : Text.isBlank c = true := by simpa [isGap, hs] using hc
    rw [Bool.not_eq_true] at hs
    obtain ⟨others, last, hsplit, hconcat⟩ := Text.splitOn_concat_of_none hs t
    rw [segments, hconcat, List.map_append, List.map_singleton, Text.strip_concat hb, segments,
      hsplit, List.map_append, List.map_singleton]

theorem isGap_of_isBlank {b : CodePoint} (hb : Text.isBlank b = true) : isGap b = true := by
  simp [isGap, hb]

theorem segments_strip (t : Text) : segments (Text.strip t) = segments t :=
  Text.apply_trim (fun _ t hb => segments_cons (isGap_of_isBlank hb) t)
    (fun t _ hb => segments_concat (isGap_of_isBlank hb) t) t

theorem segments_gap_append {gap : Text} (hgap : ∀ c ∈ gap, isGap c = true) (t : Text) :
    segments (gap ++ t) = segments t := by
  induction gap with
  | nil => rfl
  | cons c gap ih =>
    rw [List.forall_mem_cons] at hgap
    rw [List.cons_append, segments_cons hgap.1, ih hgap.2]

theorem segments_append_gap {gap : Text} (hgap : ∀ c ∈ gap, isGap c = true) (t : Text) :
    segments (t ++ gap) = segments t := by
  induction gap generalizing t with
  | nil => rw [List.append_nil]
  | cons c gap ih =>
    rw [List.forall_mem_cons] at hgap
    rw [List.append_cons, ih hgap.2, segments_concat hgap.1]

/-- **A gap with a separator** separates segments. -/
theorem segments_append_gap_append {gap : Text} (hgap : ∀ c ∈ gap, isGap c = true)
    (hseparator : ∃ s ∈ gap, isSeparator s = true) (t rest : Text) :
    segments (t ++ (gap ++ rest)) = segments t ++ segments rest := by
  obtain ⟨s, hmem, hs⟩ := hseparator
  obtain ⟨before, after, rfl⟩ := List.append_of_mem hmem
  rw [List.forall_mem_append, List.forall_mem_cons] at hgap
  have hassoc : t ++ (before ++ s :: after ++ rest) = (t ++ before) ++ s :: (after ++ rest) := by
    simp
  rw [hassoc, segments_append _ hs, segments_append_gap hgap.1, segments_gap_append hgap.2.2]

/-- A text without separators and without blanks around it is one segment. -/
theorem segments_eq_singleton {t : Text} (hne : t ≠ []) (hstrip : Text.strip t = t)
    (hnone : ∀ c ∈ t, isSeparator c = false) : segments t = [t] := by
  rw [segments, Text.splitOn_of_none hnone, List.map_singleton, hstrip]
  simpa using hne

/-! ## Lines -/

theorem segments_joinWith (ls : List Text) :
    segments (Text.joinWith "\n" ls) = ls.flatMap segments := by
  induction ls with
  | nil => exact segments_nil
  | cons line ls ih =>
    cases ls with
    | nil => simp [Text.joinWith]
    | cons next ls =>
      rw [Text.joinWith_cons_cons, List.append_assoc, List.flatMap_cons, ← ih]
      exact segments_append line (by decide) _

/-- The segments of the cleaned lines of a text. -/
def lineSegments (t : Text) : List Text :=
  (Text.lines t).flatMap fun line => segments (cleanLine line)

/-- **The segments of a cleaned comment** are those of its lines. -/
theorem segments_clean (raw : Text) : segments (clean raw) = lineSegments (contents raw) := by
  rw [clean, segments_strip, segments_joinWith, List.flatMap_map]
  rfl

/-- Empty lines at the ends hold no segment. -/
theorem lineSegments_eq_cleanedLines (t : Text) :
    lineSegments t = (cleanedLines t).flatMap segments := by
  have hstart : ∀ (line : Text) (ls : List Text), line.isEmpty = true →
      (line :: ls).flatMap segments = ls.flatMap segments := by
    intro line ls hempty
    rw [List.isEmpty_iff.1 hempty, List.flatMap_cons, segments_nil, List.nil_append]
  have hend : ∀ (ls : List Text) (line : Text), line.isEmpty = true →
      (ls ++ [line]).flatMap segments = ls.flatMap segments := by
    intro ls line hempty
    rw [List.isEmpty_iff.1 hempty, List.flatMap_append, List.flatMap_singleton, segments_nil,
      List.append_nil]
  rw [cleanedLines, Text.trimLines, Text.apply_trim hstart hend, List.flatMap_map, lineSegments]

theorem lineSegments_strip (t : Text) : lineSegments (Text.strip t) = lineSegments t := by
  rw [lineSegments_eq_cleanedLines, cleanedLines_strip, ← lineSegments_eq_cleanedLines]

theorem lineSegments_concat {b : CodePoint} (hb : Text.isBlank b = true) (t : Text) :
    lineSegments (t ++ [b]) = lineSegments t := by
  rw [lineSegments_eq_cleanedLines, cleanedLines_concat hb, ← lineSegments_eq_cleanedLines]

theorem lineSegments_append_feed (t rest : Text) :
    lineSegments (t ++ .char '\n' :: rest) = lineSegments t ++ lineSegments rest := by
  have hempty : segments (cleanLine []) = [] := by decide
  rcases Text.lines_append_feed t rest with hlines | hlines
  · rw [lineSegments, hlines, List.flatMap_append, lineSegments, lineSegments]
  · rw [lineSegments, hlines, List.flatMap_append, List.flatMap_cons, hempty, List.nil_append,
      lineSegments, lineSegments]

/-! ## Unmarked lines -/

/-- The first character behind blanks, if there is one, is neither a star nor a slash. -/
def IsUnmarked (line : Text) : Prop :=
  ∀ c ∈ (Text.trimStart line).head?, c ≠ '*' ∧ c ≠ '/'

theorem isUnmarked_nil : IsUnmarked [] := by
  simp [IsUnmarked, Text.trimStart]

theorem IsUnmarked.append {line rest : Text} (hline : IsUnmarked line) (hrest : IsUnmarked rest) :
    IsUnmarked (line ++ rest) := by
  intro c hc
  rw [Text.trimStart, List.dropWhile_append] at hc
  by_cases hblank : line.dropWhile Text.isBlank = []
  · rw [if_pos (by simp [hblank])] at hc
    exact hrest c hc
  · obtain ⟨d, tail, htail⟩ := List.exists_cons_of_ne_nil hblank
    rw [if_neg (by simp [hblank]), htail] at hc
    exact hline c (by rw [Text.trimStart, htail]; exact hc)

theorem dropMarkers_of_isUnmarked {line : Text} (h : IsUnmarked line) :
    dropMarkers false line = Text.trimStart line := by
  induction line with
  | nil => rfl
  | cons c line ih =>
    by_cases hc : Text.isBlank c = true
    · have hsame : Text.trimStart (c :: line) = Text.trimStart line :=
        List.dropWhile_cons_of_pos hc
      rw [IsUnmarked, hsame] at h
      rw [dropMarkers_of_isDecoration (isDecoration_of_isBlank hc), hsame, ih h]
    · have hsame : Text.trimStart (c :: line) = c :: line := List.dropWhile_cons_of_neg hc
      obtain ⟨hstar, hslash⟩ := h c (by rw [hsame]; rfl)
      rw [hsame, dropMarkers_of_not_isDecoration hslash (by simp [isDecoration, hstar, hc])]

theorem cleanLine_of_isUnmarked {line : Text} (h : IsUnmarked line) :
    cleanLine line = Text.strip line := by
  rw [cleanLine, dropMarkers_of_isUnmarked h, Text.strip]

theorem flatMap_segments_linesFrom {t : Text}
    (h : ∀ c ∈ t, Text.isLineBreak c = true → c = '\n') (line : Text) :
    (Text.linesFrom line t).flatMap segments = segments (line.reverse ++ t) := by
  -- `line` is the line begun, reversed; it belongs in front of what follows.
  fun_induction Text.linesFrom line t with
  | case1 line hempty =>
    obtain rfl : line = [] := by simpa using hempty
    exact segments_nil.symm
  | case2 line hne => simp
  | case3 line t ih => exact absurd (h '\r' (by simp) (by decide)) (by decide)
  | case4 line c t hcrlf hbreak ih =>
    rw [List.forall_mem_cons] at h
    obtain rfl := h.1 hbreak
    rw [segments_append _ (by decide), List.flatMap_cons, ih h.2]
    rfl
  | case5 line c t hcrlf hbreak ih =>
    rw [List.forall_mem_cons] at h
    rw [ih h.2]
    simp

/-- **Where no line starts with a marker**, and every line ends in a line feed, cleaning keeps the
segments. -/
theorem segments_clean_of_isUnmarked {raw : Text} (hplain : ¬IsDelimited (Text.strip raw))
    (hfeed : ∀ c ∈ raw, Text.isLineBreak c = true → c = '\n')
    (hlines : ∀ line ∈ Text.lines raw, IsUnmarked line) : segments (clean raw) = segments raw :=
  calc segments (clean raw)
      = lineSegments (contents raw) := segments_clean raw
    _ = lineSegments raw := by rw [contents_eq_strip hplain, lineSegments_strip]
    _ = (Text.lines raw).flatMap segments := by
        refine List.flatMap_congr fun line hline => ?_
        rw [cleanLine_of_isUnmarked (hlines line hline), segments_strip]
    _ = segments raw := flatMap_segments_linesFrom hfeed []

end Comment

end DocEnum
