import DocEnum.Proofs.Cleaning

/-!
# Decoration and newlines

A documentation comment around lines, and the lines alone.

**Comments around lines** (`javadoc`). Every line stands behind a star, and ends in any line break:
carriage return and line feed, or one of the other nine.

**Decoration.** Markers at the start of a line are dropped together with the star before them, and
a star alone leaves an empty line (`cleanLine_decorated`). The delimiters of the comment are the
only ones that are dropped, because the lines stand between them (`contents_javadoc`).

Main result: the comment is cleaned to the same text as its lines, and lists the same entries, if
the lines are not delimited themselves (`clean_and_parse_javadoc`).
-/

namespace DocEnum.Comment

/-! ## Comments around lines -/

/-- A line with the line break after it. -/
structure EndedLine where
  line : Text
  newline : Text
  oneLine : ∀ c ∈ line, Text.isLineBreak c = false
  isNewline : Text.IsNewline newline

namespace EndedLine

/-- A line behind the decoration of a documentation comment. -/
def decorated (ended : EndedLine) : Text :=
  " * " ++ ended.line

theorem oneLine_decorated (ended : EndedLine) :
    ∀ c ∈ ended.decorated, Text.isLineBreak c = false := by
  have hstar : ∀ c ∈ (" * " : Text), Text.isLineBreak c = false := by simp [Text.isLineBreak]
  exact List.forall_mem_append.2 ⟨hstar, ended.oneLine⟩

/-- The star goes together with what decorates the line itself. -/
theorem cleanLine_decorated (ended : EndedLine) :
    cleanLine ended.decorated = cleanLine ended.line := by
  have hdrop : dropMarkers false ended.decorated = dropMarkers false ended.line :=
    calc dropMarkers false (.char ' ' :: .char '*' :: .char ' ' :: ended.line)
        = dropMarkers false (.char '*' :: .char ' ' :: ended.line) :=
          dropMarkers_of_isDecoration (by decide) false _
      _ = dropMarkers false (.char ' ' :: ended.line) :=
          dropMarkers_of_isDecoration (by decide) false _
      _ = dropMarkers false ended.line := dropMarkers_of_isDecoration (by decide) false _
  rw [cleanLine, hdrop, cleanLine]

end EndedLine

/-- The decorated lines between the delimiters of a documentation comment. -/
def inside (newline : Text) (body : List EndedLine) : Text :=
  newline ++ (body.flatMap fun ended => ended.decorated ++ ended.newline) ++ " "

/-- The documentation comment around lines. -/
def javadoc (newline : Text) (body : List EndedLine) : Text :=
  "/**" ++ inside newline body ++ "*/"

variable {newline : Text} {body : List EndedLine}

theorem head?_flatMap_decorated (body : List EndedLine) :
    ((body.flatMap fun ended => ended.decorated ++ ended.newline) ++ " ").head? =
      some (.char ' ') := by
  cases body with
  | nil => rfl
  | cons ended body => rfl

theorem strip_javadoc (newline : Text) (body : List EndedLine) :
    Text.strip (javadoc newline body) = javadoc newline body := by
  refine Text.trim_eq_self ?_ ?_
  · intro c hc
    obtain rfl : '/' = c := by simpa [javadoc] using hc
    decide
  · intro c hc
    rw [javadoc, List.getLast?_append_of_ne_nil _ (by decide)] at hc
    obtain rfl : '/' = c := by simpa using hc
    decide

theorem dropOpening_javadoc (hnewline : Text.IsNewline newline) :
    dropOpening (javadoc newline body) = inside newline body ++ "*/" := by
  obtain ⟨c, rest, rfl, hc⟩ := hnewline.exists_cons
  have hstar : c ≠ '*' := by
    rintro rfl
    exact absurd hc (by decide)
  change ('*' :: (inside (c :: rest) body ++ "*/") : Text).dropWhile (· == .char '*') = _
  rw [List.dropWhile_cons_of_pos rfl]
  exact List.dropWhile_cons_of_neg (by simpa using hstar)

theorem dropClosing_inside (newline : Text) (body : List EndedLine) :
    dropClosing (inside newline body ++ "*/") = inside newline body := by
  obtain ⟨rest, hrest⟩ : ∃ rest, (inside newline body).reverse = .char ' ' :: rest := by
    rw [inside, List.reverse_append]
    exact ⟨_, rfl⟩
  have hopening : dropOpening (.char '/' :: .char '*' :: .char ' ' :: rest) =
      .char ' ' :: rest := rfl
  rw [dropClosing_eq_reverse, List.reverse_append, hrest]
  change (dropOpening (.char '/' :: .char '*' :: .char ' ' :: rest)).reverse = _
  rw [hopening, ← hrest, List.reverse_reverse]

/-- **Only the delimiters of the comment** are dropped. -/
theorem contents_javadoc (hnewline : Text.IsNewline newline) :
    contents (javadoc newline body) = inside newline body := by
  rw [contents, strip_javadoc, dropOpening_javadoc hnewline, dropClosing_inside]

theorem lines_flatMap_decorated (body : List EndedLine) :
    Text.lines ((body.flatMap fun ended => ended.decorated ++ ended.newline) ++ " ") =
      body.map EndedLine.decorated ++ [[.char ' ']] := by
  induction body with
  | nil => decide
  | cons ended body ih =>
    rw [List.flatMap_cons, List.append_assoc, List.append_assoc,
      Text.lines_append_newline ended.oneLine_decorated ended.isNewline, ih, List.map_cons,
      List.cons_append]
    rw [head?_flatMap_decorated]
    simp

/-- **The lines of a documentation comment** stand between two lines that clean to nothing. -/
theorem cleanedLines_inside (hnewline : Text.IsNewline newline) :
    cleanedLines (inside newline body) =
      Text.trimLines (body.map fun ended => cleanLine ended.line) := by
  -- The delimiters leave an empty line at either end, and trimming drops both.
  have hlines : Text.lines (inside newline body) =
      [] :: (body.map EndedLine.decorated ++ [[.char ' ']]) := by
    have hrest : ((body.flatMap fun ended => ended.decorated ++ ended.newline) ++ " ").head? ≠
        some '\n' := by
      rw [head?_flatMap_decorated]
      decide
    have hempty : ∀ c ∈ ([] : Text), Text.isLineBreak c = false := by simp
    rw [inside, List.append_assoc, ← lines_flatMap_decorated]
    exact Text.lines_append_newline hempty hnewline fun _ => hrest
  have hclean : (body.map EndedLine.decorated).map cleanLine =
      body.map fun ended => cleanLine ended.line := by
    rw [List.map_map]
    exact List.map_congr_left fun ended _ => ended.cleanLine_decorated
  have hblank : cleanLine [.char ' '] = [] := by decide
  rw [cleanedLines, hlines, List.map_cons, List.map_append, hclean, List.map_singleton, hblank]
  exact (Text.trim_cons rfl _).trans (Text.trim_concat rfl _)

/-- **Decoration is invisible**: a documentation comment is cleaned like its lines. -/
theorem clean_javadoc (hnewline : Text.IsNewline newline)
    (hplain : ¬IsDelimited (Text.strip (Text.joinWith "\n" (body.map EndedLine.line)))) :
    clean (javadoc newline body) = clean (Text.joinWith "\n" (body.map EndedLine.line)) := by
  have honeLine : ∀ line ∈ body.map EndedLine.line, ∀ c ∈ line, Text.isLineBreak c = false :=
    List.forall_mem_map.2 fun ended _ => ended.oneLine
  rw [clean_eq_joinWith, contents_javadoc hnewline, cleanedLines_inside hnewline,
    clean_eq_joinWith, contents_eq_strip hplain, cleanedLines_strip,
    cleanedLines_joinWith honeLine, List.map_map]
  rfl

end DocEnum.Comment

namespace DocEnum.Entry

open Comment (clean javadoc EndedLine IsDelimited)

/-- **Decoration and newlines are invisible.** The documentation comment around lines, each with a
star before it and any line break after it, is cleaned to the same text as the lines joined by line
feeds, and lists the same entries, unless the joined lines have a delimiter. -/
theorem clean_and_parse_javadoc {newline : Text} {body : List EndedLine}
    (hnewline : Text.IsNewline newline)
    (hplain : ¬IsDelimited (Text.strip (Text.joinWith "\n" (body.map EndedLine.line)))) :
    clean (javadoc newline body) = clean (Text.joinWith "\n" (body.map EndedLine.line)) ∧
      parse (javadoc newline body) = parse (Text.joinWith "\n" (body.map EndedLine.line)) := by
  have hclean := Comment.clean_javadoc hnewline hplain
  exact ⟨hclean, parse_eq_of_clean_eq hclean⟩

/-- A blank line, lines with markers of their own, a comment inside a line, four line breaks. -/
theorem clean_and_parse_javadoc_mixed :
    let body : List EndedLine :=
      [⟨" \t", "\r\n", by simp [Text.isLineBreak], .inl rfl⟩,
        ⟨"* // 1-a", "\r", by simp [Text.isLineBreak], .inr ⟨_, rfl, by decide⟩⟩,
        ⟨"/ 2: /* b */ c", "\u2028", by simp [Text.isLineBreak], .inr ⟨_, rfl, by decide⟩⟩]
    let plain : Text := " \t\n* // 1-a\n/ 2: /* b */ c"
    Text.IsNewline "\x0b" ∧
      ¬IsDelimited (Text.strip (Text.joinWith "\n" (body.map EndedLine.line))) ∧
      Text.joinWith "\n" (body.map EndedLine.line) = plain ∧
      clean (javadoc "\x0b" body) = clean plain ∧ parse (javadoc "\x0b" body) = parse plain := by
  intro body plain
  have hnewline : Text.IsNewline "\x0b" := .inr ⟨_, rfl, by decide⟩
  have hplain : ¬IsDelimited (Text.strip (Text.joinWith "\n" (body.map EndedLine.line))) := by
    decide
  exact ⟨hnewline, hplain, rfl, clean_and_parse_javadoc hnewline hplain⟩

end DocEnum.Entry
