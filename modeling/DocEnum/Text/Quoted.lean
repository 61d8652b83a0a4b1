import DocEnum.Text.Printable

/-!
# Quoted text

How a text is shown inside a message: in single quotes, or in double quotes when it holds a single
quote and no double one. The quote in use, the backslash and the usual controls are escaped by a
backslash, and other characters that are not printable by their code in hexadecimal.
-/

namespace DocEnum.Text

/-- One character inside the given quotes. -/
def quoteChar (quote c : CodePoint) : Text :=
  if c == quote || c == '\\' then ['\\', c]
  else if c == '\t' then "\\t"
  else if c == '\n' then "\\n"
  else if c == '\r' then "\\r"
  else if isPrintable c then [c]
  else if c.toNat < 0x100 then "\\x" ++ hex 2 c.toNat
  else if c.toNat < 0x10000 then "\\u" ++ hex 4 c.toNat
  else "\\U" ++ hex 8 c.toNat

def quoteFor (t : Text) : CodePoint :=
  if t.contains (.char '\'') && !t.contains (.char '"') then '"' else '\''

/-- The text in quotes, with escapes. -/
def quoted (t : Text) : Text :=
  let quote := quoteFor t
  quote :: (t.flatMap (quoteChar quote) ++ [quote])

end DocEnum.Text
