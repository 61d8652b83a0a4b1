import DocEnum.Entry
import DocEnum.Proofs.Comment
import DocEnum.Proofs.Lines

/-!
# Cleaning twice

What cleaning leaves of a comment, and what a second cleaning finds.

**Lines.** A cleaned line starts with neither a blank nor a marker (`isBare_cleanLine`), so that
cleaning it again changes nothing. Blanks around a line make no difference to it.

**Texts** (`cleanedLines`). A cleaned comment consists of its cleaned lines without the empty ones
at both ends (`clean_eq_joinWith`). They do not depend on blanks around the text
(`cleanedLines_strip`), and a cleaned comment has the lines it consists of (`cleanedLines_clean`).

**Delimiters** (`IsDelimited`). Only one opening and one closing delimiter are dropped. Behind them,
or behind the decoration of the first line, another delimiter can stand.

Main result: cleaning twice is cleaning once, and gives the same entries, for exactly those comments
whose cleaned text has no delimiter (`parse_clean_or_delimited`).
-/

namespace DocEnum.Comment

/-! ## Lines -/

theorem dropMarkers_slash (rest : Text) :
    dropMarkers true (.char '/' :: rest) = dropMarkers true rest := by
  rw [dropMarkers.eq_def]
  exact if_pos rfl

theorem dropMarkers_slashes (rest : Text) :
    dropMarkers false (.char '/' :: .char '/' :: rest) = dropMarkers true rest := by
  rw [dropMarkers, if_neg Bool.false_ne_true]

theorem dropMarkers_single_slash {rest : Text} (hrest : rest.head? ≠ some (.char '/')) :
    dropMarkers false (.char '/' :: rest) = .char '/' :: rest := by
  rw [dropMarkers, if_neg Bool.false_ne_true]
  rintro rest' rfl
  exact hrest rfl

/-- A character that decorates a line wherever it starts: a star or a blank. -/
def isDecoration (c : CodePoint) : Bool :=
  c == '*' || Text.isBlank c

theorem dropMarkers_of_isDecoration {c : CodePoint} (hc : isDecoration c = true)
    (afterSlashes : Bool)
    (rest : Text) : dropMarkers afterSlashes (c :: rest) = dropMarkers false rest := by
  rw [dropMarkers, ← isDecoration, if_pos hc]
  rintro rfl
  exact absurd hc (by decide)

theorem dropMarkers_of_not_isDecoration {c : CodePoint} (hslash : c ≠ '/')
    (hc : ¬isDecoration c = true) (afterSlashes : Bool) (rest : Text) :
    dropMarkers afterSlashes (c :: rest) = c :: rest := by
  rw [dropMarkers, ← isDecoration, if_neg hc]
  exact hslash

theorem isDecoration_of_isBlank {b : CodePoint} (hb : Text.isBlank b = true) :
    isDecoration b = true := by
  simp [isDecoration, hb]

theorem ne_slash_of_isBlank {b : CodePoint} (hb : Text.isBlank b = true) : b ≠ '/' := by
  rintro rfl
  exact absurd hb (by decide)

theorem ne_star_of_isBlank {b : CodePoint} (hb : Text.isBlank b = true) : b ≠ '*' := by
  rintro rfl
  exact absurd hb (by decide)

theorem trimEnd_dropMarkers_concat {b : CodePoint} (hb : Text.isBlank b = true)
    (afterSlashes : Bool)
    (t : Text) :
    Text.trimEnd Text.isBlank (dropMarkers afterSlashes (t ++ [b])) =
      Text.trimEnd Text.isBlank (dropMarkers afterSlashes t) := by
  -- Wherever the markers end, the trim drops the blank behind.
  fun_induction dropMarkers afterSlashes t with
  | case1 afterSlashes =>
    rw [List.nil_append, dropMarkers_of_isDecoration (isDecoration_of_isBlank hb), dropMarkers]
  | case2 rest ih => rwa [List.cons_append, dropMarkers_slash]
  | case3 afterSlashes hafter rest ih =>
    rw [Bool.not_eq_true] at hafter
    rwa [hafter, List.cons_append, List.cons_append, dropMarkers_slashes]
  | case4 afterSlashes rest hafter hrest =>
    rw [Bool.not_eq_true] at hafter
    have hhead : (rest ++ [b]).head? ≠ some (.char '/') := by
      cases rest with
      | nil => simpa using ne_slash_of_isBlank hb
      | cons d rest => simpa using fun hd => hrest rest (by rw [hd])
    rw [hafter, List.cons_append, dropMarkers_single_slash hhead, ← List.cons_append]
    exact List.rdropWhile_concat_pos _ _ _ hb
  | case5 afterSlashes c rest hslash hc ih =>
    rwa [List.cons_append, dropMarkers_of_isDecoration hc]
  | case6 afterSlashes c rest hslash hc =>
    rw [List.cons_append, dropMarkers_of_not_isDecoration hslash hc, ← List.cons_append]
    exact List.rdropWhile_concat_pos _ _ _ hb

theorem cleanLine_nil : cleanLine [] = [] := rfl

theorem cleanLine_cons (line : Text) (b : CodePoint) (hb : Text.isBlank b = true) :
    cleanLine (b :: line) = cleanLine line := by
  rw [cleanLine, dropMarkers_of_isDecoration (isDecoration_of_isBlank hb), cleanLine]

theorem cleanLine_concat (line : Text) (b : CodePoint) (hb : Text.isBlank b = true) :
    cleanLine (line ++ [b]) = cleanLine line :=
  trimEnd_dropMarkers_concat hb false line

/-- Whether a text starts with neither a blank nor a marker. -/
def isBare : Text → Bool
  | [] => true
  | .char '/' :: rest => rest.head? != some (.char '/')
  | c :: _ => !isDecoration c

theorem isBare_cons {c : CodePoint} (hslash : c ≠ '/') (rest : Text) :
    isBare (c :: rest) = !isDecoration c := by
  rw [isBare]
  exact hslash

theorem isBare_dropMarkers (afterSlashes : Bool) (t : Text) :
    isBare (dropMarkers afterSlashes t) = true := by
  fun_induction dropMarkers afterSlashes t with
  | case1 afterSlashes => rfl
  | case2 rest ih => exact ih
  | case3 afterSlashes hafter rest ih => exact ih
  | case4 afterSlashes rest hafter hrest =>
    cases rest with
    | nil => rfl
    | cons d rest => simpa [isBare] using fun hd => hrest rest (by rw [hd])
  | case5 afterSlashes c rest hslash hc ih => exact ih
  | case6 afterSlashes c rest hslash hc =>
    rw [isBare_cons hslash]
    simpa [isDecoration] using hc

theorem dropMarkers_of_isBare {t : Text} (h : isBare t = true) : dropMarkers false t = t := by
  cases t with
  | nil => rfl
  | cons c rest =>
    by_cases hslash : c = '/'
    · subst hslash
      exact dropMarkers_single_slash (by simpa [isBare] using h)
    · rw [isBare_cons hslash] at h
      exact dropMarkers_of_not_isDecoration hslash (by simpa using h) false rest

theorem isBare_of_prefix {s t : Text} (hpre : s <+: t) (h : isBare t = true) :
    isBare s = true := by
  obtain ⟨rest, rfl⟩ := hpre
  -- A slash looks at the character after it, which the prefix may cut off.
  match s with
  | [] => rfl
  | [c] =>
    by_cases hslash : c = '/'
    · rw [hslash]
      rfl
    · rw [List.singleton_append, isBare_cons hslash] at h
      rwa [isBare_cons hslash]
  | c :: d :: s =>
    by_cases hslash : c = '/'
    · subst hslash
      simpa [isBare] using h
    · rw [List.cons_append, isBare_cons hslash] at h
      rwa [isBare_cons hslash]

theorem isBare_cleanLine (line : Text) : isBare (cleanLine line) = true :=
  isBare_of_prefix (List.rdropWhile_prefix _ _) (isBare_dropMarkers false line)

theorem not_isBlank_of_isBare {c : CodePoint} {rest : Text} (h : isBare (c :: rest) = true) :
    Text.isBlank c = false := by
  by_cases hslash : c = '/'
  · rw [hslash]
    decide
  · rw [isBare_cons hslash] at h
    simp only [isDecoration, Bool.not_eq_true', Bool.or_eq_false_iff] at h
    exact h.2

theorem strip_cleanLine (line : Text) : Text.strip (cleanLine line) = cleanLine line := by
  refine Text.trim_eq_self ?_ Text.not_of_getLast?_rdropWhile
  intro c hc
  obtain ⟨rest, hrest⟩ := List.head?_eq_some_iff.1 hc
  have hbare := isBare_cleanLine line
  rw [hrest] at hbare
  exact not_isBlank_of_isBare hbare

/-- **A cleaned line is clean.** -/
theorem cleanLine_cleanLine (line : Text) : cleanLine (cleanLine line) = cleanLine line := by
  rw [cleanLine, dropMarkers_of_isBare (isBare_cleanLine line)]
  exact List.rdropWhile_idempotent _ _

/-! ## Texts -/

/-- A comment without blanks around it and without its delimiters. -/
def contents (raw : Text) : Text :=
  dropClosing (dropOpening (Text.strip raw))

/-- The cleaned lines of a text, without the empty ones at both ends. -/
def cleanedLines (t : Text) : List Text :=
  Text.trimLines ((Text.lines t).map cleanLine)

/-- **A cleaned comment** consists of its cleaned lines. -/
theorem clean_eq_joinWith (raw : Text) :
    clean raw = Text.joinWith "\n" (cleanedLines (contents raw)) := by
  refine Text.strip_joinWith fun line hline => ?_
  obtain ⟨source, -, rfl⟩ := List.mem_map.1 hline
  exact strip_cleanLine source

theorem cleanedLines_strip (t : Text) : cleanedLines (Text.strip t) = cleanedLines t :=
  Text.trimLines_map_lines_strip cleanLine_nil (fun b line => cleanLine_cons line b)
    cleanLine_concat t

theorem cleanedLines_concat {b : CodePoint} (hb : Text.isBlank b = true) (t : Text) :
    cleanedLines (t ++ [b]) = cleanedLines t :=
  Text.trimLines_map_lines_concat cleanLine_nil cleanLine_concat hb t

theorem cleanedLines_joinWith {ls : List Text}
    (h : ∀ line ∈ ls, ∀ c ∈ line, Text.isLineBreak c = false) :
    cleanedLines (Text.joinWith "\n" ls) = Text.trimLines (ls.map cleanLine) := by
  rw [cleanedLines]
  rcases Text.lines_joinWith h with hread | hread
  · rw [hread]
  · rw [← hread, List.map_append, hread, List.map_singleton, cleanLine_nil]
    exact (Text.trim_concat rfl _).symm

theorem noBreak_and_fixed_of_mem_cleanedLines {t line : Text} (hline : line ∈ cleanedLines t) :
    (∀ c ∈ line, Text.isLineBreak c = false) ∧ cleanLine line = line := by
  obtain ⟨source, hsource, rfl⟩ := List.mem_map.1 (Text.trim_sublist.subset hline)
  refine ⟨fun c hc => ?_, cleanLine_cleanLine source⟩
  exact (Text.mem_and_not_break_of_mem_lines hsource ((cleanLine_sublist source).subset hc)).2

/-- **The lines of a cleaned comment** are the cleaned lines that it consists of. -/
theorem cleanedLines_clean (raw : Text) :
    cleanedLines (clean raw) = cleanedLines (contents raw) := by
  have hlines {line : Text} (hline : line ∈ cleanedLines (contents raw)) :=
    noBreak_and_fixed_of_mem_cleanedLines hline
  have hsame : (cleanedLines (contents raw)).map cleanLine = cleanedLines (contents raw) := by
    rw [List.map_congr_left (g := id) fun _ hline => (hlines hline).2, List.map_id]
  rw [clean_eq_joinWith, cleanedLines_joinWith fun _ hline => (hlines hline).1, hsame]
  exact Text.trim_trim

/-! ## Delimiters -/

/-- A text with an opening delimiter at its start or a closing one at its end. -/
def IsDelimited (t : Text) : Prop :=
  [.char '/', .char '*'] <+: t ∨ [.char '*', .char '/'] <:+ t

instance (t : Text) : Decidable (IsDelimited t) :=
  inferInstanceAs (Decidable (_ ∨ _))

/-- An opening delimiter does not reach over a character that is no part of it. -/
theorem opening_prefix_of_append_cons {t : Text} {b : CodePoint} (hslash : b ≠ '/')
    (hstar : b ≠ '*')
    {rest : Text} (h : [.char '/', .char '*'] <+: t ++ b :: rest) :
    [.char '/', .char '*'] <+: t := by
  match t with
  | [] =>
    rw [List.nil_append, List.cons_prefix_cons] at h
    exact absurd h.1.symm hslash
  | [c] =>
    rw [List.singleton_append, List.cons_prefix_cons, List.cons_prefix_cons] at h
    exact absurd h.2.1.symm hstar
  | c :: d :: t =>
    rw [List.cons_append, List.cons_append, List.cons_prefix_cons, List.cons_prefix_cons] at h
    rw [List.cons_prefix_cons, List.cons_prefix_cons]
    exact ⟨h.1, h.2.1, List.nil_prefix⟩

theorem closing_suffix_of_append_cons {t : Text} {b : CodePoint} (hslash : b ≠ '/')
    (hstar : b ≠ '*')
    {rest : Text} (h : [.char '*', .char '/'] <:+ t ++ b :: rest) :
    [.char '*', .char '/'] <:+ rest := by
  have hreverse : [.char '/', .char '*'] <+: rest.reverse ++ b :: t.reverse := by
    simpa using List.reverse_prefix.2 h
  exact List.reverse_prefix.1 (opening_prefix_of_append_cons hslash hstar hreverse)

theorem dropOpening_eq_self {t : Text} (h : ¬[.char '/', .char '*'] <+: t) : dropOpening t = t := by
  rw [dropOpening]
  rintro rest rfl
  exact h ⟨rest, rfl⟩

theorem dropOpening_suffix (t : Text) : dropOpening t <:+ t := by
  by_cases h : [.char '/', .char '*'] <+: t
  · obtain ⟨rest, rfl⟩ := h
    exact (List.dropWhile_suffix (l := rest) _).trans (List.suffix_append _ rest)
  · exact ⟨[], dropOpening_eq_self h⟩

theorem length_dropOpening_lt {t : Text} (h : [.char '/', .char '*'] <+: t) :
    (dropOpening t).length < t.length := by
  obtain ⟨rest, rfl⟩ := h
  have hle := (List.dropWhile_sublist (l := rest) (· == .char '*')).length_le
  simp only [List.cons_append, List.nil_append, dropOpening, List.length_cons]
  omega

/-- A closing delimiter is an opening one, read backwards. -/
theorem dropClosing_eq_reverse (t : Text) : dropClosing t = (dropOpening t.reverse).reverse := by
  rw [dropClosing]
  split
  · next rest hrest => rw [hrest, dropOpening]
  · next hnone =>
    rw [dropOpening_eq_self, List.reverse_reverse]
    rintro ⟨rest, hrest⟩
    exact hnone rest hrest.symm

theorem dropClosing_eq_self {t : Text} (h : ¬[.char '*', .char '/'] <:+ t) : dropClosing t = t := by
  rw [dropClosing_eq_reverse, dropOpening_eq_self, List.reverse_reverse]
  rw [← List.reverse_suffix, List.reverse_reverse]
  exact h

theorem length_dropClosing_le (t : Text) : (dropClosing t).length ≤ t.length := by
  have hle := (dropOpening_suffix t.reverse).length_le
  rw [List.length_reverse] at hle
  rwa [dropClosing_eq_reverse, List.length_reverse]

theorem length_dropClosing_lt {t : Text} (h : [.char '*', .char '/'] <:+ t) :
    (dropClosing t).length < t.length := by
  have hlt := length_dropOpening_lt (List.reverse_prefix.2 h)
  rw [List.length_reverse] at hlt
  rwa [dropClosing_eq_reverse, List.length_reverse]

theorem contents_eq_strip {raw : Text} (h : ¬IsDelimited (Text.strip raw)) :
    contents raw = Text.strip raw := by
  rw [IsDelimited, not_or] at h
  rw [contents, dropOpening_eq_self h.1, dropClosing_eq_self h.2]

theorem length_contents_lt {raw : Text} (h : IsDelimited (Text.strip raw)) :
    (contents raw).length < (Text.strip raw).length := by
  by_cases hopen : [.char '/', .char '*'] <+: Text.strip raw
  · exact (length_dropClosing_le _).trans_lt (length_dropOpening_lt hopen)
  · rw [contents, dropOpening_eq_self hopen]
    exact length_dropClosing_lt (h.resolve_left hopen)

theorem length_cleanLine_le (line : Text) : (cleanLine line).length ≤ line.length :=
  (cleanLine_sublist line).length_le

theorem length_clean_le (raw : Text) : (clean raw).length ≤ (contents raw).length :=
  calc (clean raw).length
      ≤ (Text.joinWith "\n" ((Text.lines (contents raw)).map cleanLine)).length :=
        (Text.strip_sublist _).length_le
    _ ≤ (Text.joinWith "\n" (Text.lines (contents raw))).length :=
        Text.length_joinWith_map_le length_cleanLine_le '\n' _
    _ ≤ (contents raw).length := Text.length_joinWith_lines_le '\n' _

/-! ## A second cleaning -/

theorem strip_clean (raw : Text) : Text.strip (clean raw) = clean raw :=
  Text.strip_strip _

/-- **A cleaned text** is clean exactly if it has no delimiter. -/
theorem clean_clean_eq_iff (raw : Text) :
    clean (clean raw) = clean raw ↔ ¬IsDelimited (clean raw) := by
  constructor
  · intro heq hdelimited
    rw [← strip_clean] at hdelimited
    have hlt := (length_clean_le (clean raw)).trans_lt (length_contents_lt hdelimited)
    rw [heq, strip_clean] at hlt
    exact Nat.lt_irrefl _ hlt
  · intro hplain
    rw [← strip_clean] at hplain
    rw [clean_eq_joinWith (clean raw), contents_eq_strip hplain, strip_clean, cleanedLines_clean,
      ← clean_eq_joinWith]

end DocEnum.Comment

namespace DocEnum.Entry

open Comment (clean IsDelimited)

/-- Entries are read from the cleaned text only. -/
theorem parse_eq_of_clean_eq {raw raw' : Text} (h : clean raw = clean raw') :
    parse raw = parse raw' := by
  rw [parse, verdicts, h, ← verdicts, ← parse]

/-- **Reading a cleaned comment.** Cleaning twice is cleaning once, and gives the same entries,
unless the cleaned text has a delimiter; then it always drops something. -/
theorem parse_clean_or_delimited (raw : Text) :
    (¬IsDelimited (clean raw) ∧ clean (clean raw) = clean raw ∧ parse (clean raw) = parse raw) ∨
      (IsDelimited (clean raw) ∧ clean (clean raw) ≠ clean raw) := by
  by_cases h : IsDelimited (clean raw)
  · exact .inr ⟨h, fun heq => (Comment.clean_clean_eq_iff raw).1 heq h⟩
  · have hclean := (Comment.clean_clean_eq_iff raw).2 h
    exact .inl ⟨h, hclean, parse_eq_of_clean_eq hclean⟩

/-- A comment in a comment: what is no entry becomes one when the cleaned text is read. -/
theorem parse_clean_ne_nested :
    parse (clean "/** /* 1-a */ */") ≠ parse "/** /* 1-a */ */" := by
  decide +kernel

end DocEnum.Entry
