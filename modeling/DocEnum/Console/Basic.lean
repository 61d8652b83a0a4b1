import DocEnum.Text.Width

/-!
# Console text

What a console shows of a text: some controls are dropped, and tabs are filled up with spaces to
columns of eight.
-/

namespace DocEnum.Console

/-- Controls that a console does not show. -/
def isDropped (c : CodePoint) : Bool :=
  let n := c.toNat
  n == 7 || n == 8 || n == 11 || n == 12 || n == 13

def tabWidth : Nat := 8

/-- A piece of a line that a tab ends, filled up to the next tab stop. -/
def fillUp (piece : Text) : Text :=
  let piece := piece ++ [.char ' ']
  let past := Text.width piece % tabWidth
  piece ++ (List.replicate (if past = 0 then 0 else tabWidth - past) ' ' : Text)

/-- A line, given as its pieces between tabs, with the tabs filled up. -/
def expandPieces : List Text → Text
  | [] => []
  | [last] => last
  | piece :: rest => fillUp piece ++ expandPieces rest

def expandTabs (line : Text) : Text :=
  expandPieces (Text.splitOn (· == .char '\t') line)

/-- What a console shows of a text. -/
def shown (t : Text) : Text :=
  let lines := Text.splitOn (· == .char '\n') (t.filter fun c => !isDropped c)
  Text.joinWith [.char '\n'] (lines.map expandTabs)

end DocEnum.Console
