import DocEnum.Libraries

/-!
# Writing JSON

**Layout.** Members and items stand on lines of their own, indented by two spaces a level; an empty
object or array is written as a pair of brackets.

**Strings.** Quotes, backslashes and controls are escaped, all other characters stand as they are.
Halves of surrogate pairs have no place in a string.

**Limits.** A value has a JSON text when its integers fit into 64 bits, its keys are texts, its
texts have bytes, it holds no bytes and no sets, and objects and arrays are not nested too deep.
-/

namespace DocEnum.Json

/-! ## Scalars -/

def stringChar (c : CodePoint) : Text :=
  if c == '"' then "\\\""
  else if c == '\\' then "\\\\"
  else if c == '\x08' then "\\b"
  else if c == '\t' then "\\t"
  else if c == '\n' then "\\n"
  else if c == '\x0c' then "\\f"
  else if c == '\r' then "\\r"
  else if c.toNat < 32 then "\\u" ++ Text.hex 4 c.toNat
  else [c]

/-- A string with its quotes, if all of it can be written. -/
def stringText? (t : Text) : Option Text :=
  if t.any CodePoint.isHalf then none else some ('"' :: (t.flatMap stringChar ++ "\""))

/-- An integer, if it fits into 64 bits. -/
def intText? (n : Int) : Option Text :=
  if -9223372036854775808 ≤ n && n ≤ 18446744073709551615 then some (Text.ofInt n) else none

/-- A floating-point number; those that are not finite are null. -/
def floatText : Binary64 → Text
  | .nan | .infinite _ => "null"
  | x => x.text

/-! ## Layout -/

/-- A line feed and the indentation of a level. -/
def newLine (level : Nat) : Text :=
  '\n' :: List.replicate (2 * level) ' '

/-- Pieces on lines of their own between brackets. -/
def enclosed (level : Nat) (opening closing : CodePoint) : List Text → Text
  | [] => [opening, closing]
  | pieces =>
    opening :: newLine (level + 1) ++ Text.joinWith ("," ++ newLine (level + 1)) pieces ++
      newLine level ++ [closing]

/-- The most levels of objects and arrays, of which an empty array is none. -/
def maxWrittenLevel : Nat := 254

mutual

def textAt? (level : Nat) : Value → Option Text
  | .null => some "null"
  | .bool true => some "true"
  | .bool false => some "false"
  | .int n => intText? n
  | .float x => some (floatText x)
  | .text t => stringText? t
  | .date day => stringText? day.plain
  | .moment day clock => stringText? (day.plain ++ "T" ++ clock.plain)
  | .list [] | .tuple [] => some "[]"
  | .list items | .tuple items =>
    if maxWrittenLevel ≤ level then none
    else (itemTexts? (level + 1) items).map (enclosed level '[' ']')
  | .mapping pairs =>
    if maxWrittenLevel ≤ level then none
    else (memberTexts? (level + 1) pairs).map (enclosed level '{' '}')
  | .bytes _ | .set _ | .sameList | .sameMapping => none

def itemTexts? (level : Nat) : List Value → Option (List Text)
  | [] => some []
  | item :: rest => do
    let item ← textAt? level item
    let rest ← itemTexts? level rest
    return item :: rest

def memberTexts? (level : Nat) : List (Value × Value) → Option (List Text)
  | [] => some []
  | (.text name, value) :: rest => do
    let name ← stringText? name
    let value ← textAt? level value
    let rest ← memberTexts? level rest
    return (name ++ ": " ++ value) :: rest
  | _ => none

end

def text? (value : Value) : Option Text :=
  textAt? 0 value

@[reducible] def writer : JsonWriter where
  text? := text?

end DocEnum.Json
