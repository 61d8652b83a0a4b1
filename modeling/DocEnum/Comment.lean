import DocEnum.Text.Blank

/-!
# Documentation comments

A documentation comment lists codes with their descriptions between decoration: the delimiters of
a block comment, and stars or slashes at the start of its lines.

**Cleaning.** `clean` removes one opening and one closing delimiter, then the decoration and the
blanks around every line, then the blanks around the whole.

**Segments.** `segments` cuts cleaned text at commas, full-width commas and line feeds into
non-empty pieces without blanks around them.
-/

namespace DocEnum.Comment

/-! ## Cleaning -/

/-- Without an opening delimiter, a slash with the stars after it. -/
def dropOpening : Text → Text
  | '/' :: '*' :: rest => rest.dropWhile (· == .char '*')
  | t => t

/-- Without a closing delimiter, a slash at the end with the stars before it. -/
def dropClosing (t : Text) : Text :=
  match t.reverse with
  | '/' :: '*' :: rest => (rest.dropWhile (· == .char '*')).reverse
  | _ => t

/-- Without the blanks, stars and runs of two or more slashes at the start; `afterSlashes` says
that such a run has just been passed. -/
def dropMarkers (afterSlashes : Bool) : Text → Text
  | [] => []
  | '/' :: rest =>
    if afterSlashes then dropMarkers true rest
    else match rest with
      | '/' :: rest => dropMarkers true rest
      | _ => '/' :: rest
  | c :: rest =>
    if c == '*' || Text.isBlank c then dropMarkers false rest else c :: rest

def cleanLine (line : Text) : Text :=
  Text.trimEnd Text.isBlank (dropMarkers false line)

/-- A comment without delimiters and decoration. -/
def clean (raw : Text) : Text :=
  let body := dropClosing (dropOpening (Text.strip raw))
  Text.strip (Text.joinWith "\n" ((Text.lines body).map cleanLine))

/-! ## Segments -/

def isSeparator (c : CodePoint) : Bool :=
  c == ',' || c == '，' || c == '\n'

/-- The non-empty segments of a text. -/
def segments (t : Text) : List Text :=
  ((Text.splitOn isSeparator t).map Text.strip).filter fun segment => !segment.isEmpty

end DocEnum.Comment
