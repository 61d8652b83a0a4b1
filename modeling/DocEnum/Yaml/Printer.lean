import DocEnum.Libraries

/-!
# Writing YAML

Block style: one member or item a line, items marked by a hyphen at the indentation of the mapping
that holds them. Texts are written without quotes, so this is for texts that need none.
-/

namespace DocEnum.Yaml

/-- A scalar without quotes. -/
def scalarText : Value → Text
  | .text t => t
  | .bool true => "true"
  | .bool false => "false"
  | .int n => Text.ofInt n
  | .float x => x.text
  | _ => "null"

mutual

def blockLines : Value → List Text
  | .mapping pairs => memberLines pairs
  | .list items | .tuple items | .set items => itemLines items
  | value => [scalarText value]

/-- The lines of items: the first line of each is marked, the others are indented. -/
def itemLines : List Value → List Text
  | [] => []
  | item :: rest =>
    (match blockLines item with
      | [] => []
      | first :: others => ("- " ++ first : Text) :: others.map ("  " ++ · : Text → Text)) ++
      itemLines rest

/-- The lines of members: a list or a mapping starts on the line after its key. -/
def memberLines : List (Value × Value) → List Text
  | [] => []
  | (key, value) :: rest =>
    let key := scalarText key
    (match value with
      | .list _ | .tuple _ | .set _ => (key ++ ":" : Text) :: blockLines value
      | .mapping _ => (key ++ ":" : Text) :: (blockLines value).map ("  " ++ · : Text → Text)
      | _ => [key ++ ": " ++ scalarText value]) ++ memberLines rest

end

def blockText (value : Value) : Text :=
  (blockLines value).flatMap fun line => line ++ "\n"

end DocEnum.Yaml
