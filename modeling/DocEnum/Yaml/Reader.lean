import DocEnum.Yaml.Grammar
import DocEnum.Yaml.Printer

/-!
# Reading YAML

A text holds one document or none. Its characters are checked first; then its tokens make a graph of
nodes, and the nodes make the document.
-/

namespace DocEnum.Yaml

/-- A character that a YAML text may hold. -/
def isAllowed (c : CodePoint) : Bool :=
  let n := c.toNat
  n == 9 || n == 10 || n == 13 || (32 ≤ n && n < 127) || n == 0x85 ||
    (0xA0 ≤ n && !c.isHalf && n != 0xFFFE && n != 0xFFFF)

def read (t : Text) : Except Fault Document := do
  if !t.all isAllowed then throw .malformed
  Document.ofGraph (← Graph.ofTokens (Tokens.ofText t))

@[reducible] def library : YamlLibrary where
  load := read
  dump := blockText

end DocEnum.Yaml
