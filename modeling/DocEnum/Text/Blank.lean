import DocEnum.Text.Basic

/-!
# Blanks and lines

**Blanks.** `isBlank` is Unicode white space together with the four ASCII separators
U+001C to U+001F. The zero-width space and the byte order mark are not blank.

**Lines.** A line ends at any of ten line breaks; carriage return and line feed together are one.
`lines` gives the lines without their breaks, and a break at the very end opens no further line.
-/

namespace DocEnum.Text

/-! ## Blanks -/

/-- White space, in the widest sense. -/
def isBlank (c : CodePoint) : Bool :=
  let n := c.toNat
  (9 ≤ n && n ≤ 13) || (28 ≤ n && n ≤ 32) || n == 0x85 || n == 0xA0 || n == 0x1680 ||
    (0x2000 ≤ n && n ≤ 0x200A) || n == 0x2028 || n == 0x2029 || n == 0x202F || n == 0x205F ||
    n == 0x3000

/-- Without the blanks at the start. -/
def trimStart (t : Text) : Text :=
  t.dropWhile isBlank

/-- Without the blanks at both ends. -/
def strip (t : Text) : Text :=
  trimEnd isBlank (trimStart t)

/-! ## Lines -/

/-- The characters that end a line. -/
def isLineBreak (c : CodePoint) : Bool :=
  let n := c.toNat
  (10 ≤ n && n ≤ 13) || (28 ≤ n && n ≤ 30) || n == 0x85 || n == 0x2028 || n == 0x2029

/-- The lines of a text; `line` holds the current line so far, reversed. -/
def linesFrom (line : Text) : Text → List Text
  | [] => if line.isEmpty then [] else [line.reverse]
  | '\r' :: '\n' :: rest => line.reverse :: linesFrom [] rest
  | c :: rest =>
    if isLineBreak c then line.reverse :: linesFrom [] rest else linesFrom (c :: line) rest

/-- The lines of a text, without their line breaks. -/
def lines (t : Text) : List Text :=
  linesFrom [] t

/-- Every line break written as a line feed: a carriage return, alone or before a line feed. -/
def unifyNewlines : Text → Text
  | [] => []
  | '\r' :: '\n' :: rest => '\n' :: unifyNewlines rest
  | '\r' :: rest => '\n' :: unifyNewlines rest
  | c :: rest => c :: unifyNewlines rest

end DocEnum.Text
