import DocEnum.Console.Basic
import DocEnum.Text.Blank

/-!
# Wrapped lines

A message that is longer than a console line goes on in the next one.

**Words.** A line is broken before a word that does not fit any more; the blanks after a word belong
to it, but need not fit. A word that is longer than a whole line starts a line and is cut where
the line ends.

**Ends.** Blanks that reach beyond the end of a line are dropped.
-/

namespace DocEnum.Console

/-! ## Words -/

/-- The longest part at the start of a text that satisfies a test, and the rest. -/
def spanOf (p : CodePoint → Bool) (t : Text) : Text × Text :=
  (t.takeWhile p, t.dropWhile p)

/-- The words of a line with the blanks after them, and before the first one. -/
def wordsFrom : (fuel : Nat) → Text → List Text
  | 0, _ => []
  | fuel + 1, t =>
    let (before, t) := spanOf Text.isBlank t
    let (word, t) := spanOf (fun c => !Text.isBlank c) t
    let (after, t) := spanOf Text.isBlank t
    if word.isEmpty then [] else (before ++ word ++ after) :: wordsFrom fuel t

def words (line : Text) : List Text :=
  wordsFrom line.length line

/-! ## Cutting -/

variable (limit : Nat)

/-- Pieces of a text that fit into lines; `piece` is the one begun, reversed. -/
def chopFrom (piece : Text) (columns : Nat) : Text → List Text
  | [] => [piece.reverse]
  | c :: rest =>
    if columns + Text.charWidth c ≤ limit then
      chopFrom (c :: piece) (columns + Text.charWidth c) rest
    else piece.reverse :: chopFrom [c] (Text.charWidth c) rest

/-- Pieces of a text that fit into lines. -/
def chop (t : Text) : List Text :=
  chopFrom limit [] 0 t

/-! ## Filling lines -/

/-- Lines that are full, the last one first, and the line begun. -/
structure Filling where
  full : List Text
  line : Text
  columns : Nat

namespace Filling

/-- Begins a new line, unless nothing was written yet. -/
def startLine (s : Filling) (t : Text) : Filling :=
  ⟨if s.line.isEmpty then s.full else s.line :: s.full, t, Text.width t⟩

def addWord (s : Filling) (word : Text) : Filling :=
  let needed := Text.width (Text.trimEnd Text.isBlank word)
  if s.columns + needed ≤ limit then
    { s with line := s.line ++ word, columns := s.columns + Text.width word }
  else if needed ≤ limit then s.startLine word
  else (chop limit word).foldl startLine s

def lines (s : Filling) : List Text :=
  (s.line :: s.full).reverse

end Filling

/-- A line without the blanks at its end that are too many. -/
def withoutExcess (line : Text) : Text :=
  let blanks := line.length - (Text.trimEnd Text.isBlank line).length
  let line := line.take (line.length - min blanks (line.length - limit))
  if Text.width line ≤ limit then line else (chop limit line).headD []

/-- The lines of a limited number of columns that a line is broken into. -/
def wrap (line : Text) : List Text :=
  let lines := match words line with
    | [] => [line]
    | words => (words.foldl (Filling.addWord limit) ⟨[], [], 0⟩).lines
  lines.map (withoutExcess limit)

/-- The lines of a limited number of columns that a console shows of a message. -/
def shownLines (t : Text) : List Text :=
  (Text.splitOn (· == .char '\n') (shown t)).flatMap (wrap limit)

end DocEnum.Console
