import DocEnum.Console.Wrap
import DocEnum.Log

/-!
# Log lines

A record is shown with its level in a column of its own; the further lines of its message are
indented as far.
-/

namespace DocEnum.Console

def levelWidth : Nat := 9

def levelColumn (level : Level) : Text :=
  level.label ++ (List.replicate (levelWidth - level.label.length) ' ' : Text)

/-- The lines of a record in columns of a width, without blanks at their ends. -/
def recordLines (width : Nat) (record : Record) : List Text :=
  match shownLines (width - levelWidth) record.message with
  | [] => []
  | first :: rest =>
    let indentation : Text := List.replicate levelWidth ' '
    let lines := (levelColumn record.level ++ first) :: rest.map (indentation ++ ·)
    lines.map (Text.trimEnd Text.isBlank)

/-- The lines of the records from a level on. -/
def logLines (width : Nat) (level : Level) (log : List Record) : List Text :=
  (log.filter fun record => level.rank ≤ record.level.rank).flatMap (recordLines width)

end DocEnum.Console
