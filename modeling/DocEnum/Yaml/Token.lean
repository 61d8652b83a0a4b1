import DocEnum.Yaml.Scalar

/-!
# YAML tokens

**Structure from indentation.** Outside brackets a block starts where a line is indented deeper than
the block around it, and ends where a line is indented less; both are tokens of their own.

**Implicit keys.** A key of a mapping need not be marked. Wherever a key may start, the place is
remembered for each level of brackets; when a colon follows on the same line, the key token,
and the start of a block mapping if there is one, are inserted there.

**Faults.** Tokens are read one after the other, and what is wrong with a later one does not matter
to whoever stops before it. So the result holds the tokens that were certain when the scan stopped,
and why it stopped. A token is certain when no key can be inserted before it any more.
-/

namespace DocEnum.Yaml

/-- What a tag is written as: a handle, if there is one, and the rest. -/
structure TagText where
  handle : Option Text
  rest : Text

/-- A piece of YAML structure. -/
inductive Token where
  | streamEnd
  /-- A line that gives the version of the language. -/
  | version (major : Nat)
  /-- A line that gives a handle a meaning. -/
  | handle (handle meaning : Text)
  /-- Any other line that starts with a percent sign. -/
  | unknownDirective
  | documentStart
  | documentEnd
  | blockSequenceStart
  | blockMappingStart
  | blockEnd
  | flowSequenceStart
  | flowSequenceEnd
  | flowMappingStart
  | flowMappingEnd
  | flowEntry
  | blockEntry
  | key
  | value
  | alias (name : Text)
  | anchor (name : Text)
  | tag (tag : TagText)
  | scalar (plain : Bool) (text : Text)

/-- A place where a key may have started. -/
structure KeyPlace where
  /-- The number of tokens before it. -/
  position : Nat
  required : Bool
  index : Nat
  line : Nat
  column : Nat

/-- The tokens of a text, and what stopped the scan before the end. -/
structure Tokens where
  certain : List Token
  trouble : Option Fault

/-- The state of the scan. -/
structure Scan where
  cursor : Cursor
  /-- The tokens read, the last one first. -/
  tokens : List Token
  count : Nat
  /-- How many brackets are open. -/
  flowLevel : Nat
  /-- The indentation of the innermost block, −1 outside all. -/
  indent : Int
  /-- The indentations of the blocks around it. -/
  indents : List Int
  /-- Whether a key may start here. -/
  allowKey : Bool
  /-- The places remembered, by level of brackets. -/
  keys : List (Nat × KeyPlace)

namespace Scan

/-! ## Keys and indentation -/

def start (t : Text) : Scan :=
  let t := match t with
    | '\ufeff' :: rest => rest
    | t => t
  ⟨.start t, [], 0, 0, -1, [], true, []⟩

def push (s : Scan) (token : Token) : Scan :=
  { s with tokens := token :: s.tokens, count := s.count + 1 }

/-- Adds a token before the tokens from a position on. -/
def insert (s : Scan) (position : Nat) (token : Token) : Scan :=
  let after := s.count - position
  { s with
    tokens := s.tokens.take after ++ token :: s.tokens.drop after
    count := s.count + 1 }

def inFlow (s : Scan) : Bool := s.flowLevel != 0

/-- Whether a colon can no longer reach a place. -/
def isStale (s : Scan) (key : KeyPlace) : Bool :=
  key.line != s.cursor.line || key.index + 1024 < s.cursor.index

/-- Forgets the places that a colon can no longer reach; a required one must not be lost. -/
def dropStale (s : Scan) : Except Fault Scan :=
  if s.keys.any fun (_, key) => s.isStale key && key.required then .error .malformed
  else .ok { s with keys := s.keys.filter fun (_, key) => !s.isStale key }

/-- The number of tokens before which no key can be inserted any more. -/
def certainCount (s : Scan) : Nat :=
  s.keys.foldl (fun n (_, key) => if s.isStale key && !key.required then n else min n key.position)
    s.count

/-- Forgets the place of the present level. -/
def forgetKey (s : Scan) : Except Fault Scan :=
  match s.keys.lookup s.flowLevel with
  | none => .ok s
  | some key =>
    if key.required then .error .malformed
    else .ok { s with keys := s.keys.filter fun (level, _) => level != s.flowLevel }

/-- Remembers the place if a key may start here. -/
def rememberKey (s : Scan) : Except Fault Scan :=
  if !s.allowKey then .ok s
  else do
    let s ← s.forgetKey
    -- Where a block mapping goes on, a key is required.
    let key : KeyPlace :=
      { position := s.count
        required := !s.inFlow && s.indent == (s.cursor.column : Int)
        index := s.cursor.index
        line := s.cursor.line
        column := s.cursor.column }
    return { s with keys := (s.flowLevel, key) :: s.keys }

/-- Ends blocks until the present one is not deeper than a column. -/
def unwind (s : Scan) (column : Int) : List Int → Scan
  | [] => { s with indents := [] }
  | outer :: rest =>
    if !s.inFlow && column < s.indent then
      unwind ({ s with indent := outer }.push .blockEnd) column rest
    else { s with indents := outer :: rest }

/-- Ends all blocks deeper than a column. -/
def unwindTo (s : Scan) (column : Int) : Scan :=
  s.unwind column s.indents

/-- Enters a block at a column if that is deeper than the present one. -/
def enter? (s : Scan) (column : Nat) : Option Scan :=
  if s.indent < column then some { s with indents := s.indent :: s.indents, indent := column }
  else none

def advance (s : Scan) (n : Nat) : Scan :=
  { s with cursor := s.cursor.advance n }

/-! ## Blanks -/

/-- Skips spaces, comments and line breaks before a token. -/
def skipBlanks : (fuel : Nat) → Scan → Scan
  | 0, s => s
  | fuel + 1, s =>
    let c := s.cursor.skipSpaces
    let c := if c.peek == some (.char '#') then c.skip fun ch => !isBreak ch else c
    match c.lineBreak with
    | ([], c) => { s with cursor := c }
    | (_, c) => skipBlanks fuel { s with cursor := c, allowKey := s.allowKey || !s.inFlow }

/-! ## Names, tags and directives -/

def anchorName (c : Cursor) : Except Fault (Text × Cursor) :=
  let (name, c) := c.span isNameChar
  let ends := isGap c.peek || c.peek.any fun (ch : CodePoint) =>
    ch == '?' || ch == ':' || ch == ',' || ch == ']' || ch == '}' || ch == '%' || ch == '@' ||
      ch == '\x60'
  if name.isEmpty || !ends then .error .malformed else .ok (name, c)

/-- A character that a tag may hold as it is. -/
def isTagChar (c : CodePoint) : Bool :=
  isNameChar c || (";/?:@&=+$,.!~*'()[]" : Text).contains c

/-- The bytes of percent escapes. -/
def escapedBytes : (fuel : Nat) → Cursor → Except Fault (List UInt8 × Cursor)
  | 0, c => .ok ([], c)
  | fuel + 1, c =>
    match c.rest with
    | '%' :: a :: b :: _ =>
      match Text.hexDigit? a, Text.hexDigit? b with
      | some a, some b =>
        (escapedBytes fuel (c.advance 3)).map fun (bytes, c) => ((a * 16 + b).toUInt8 :: bytes, c)
      | _, _ => .error .malformed
    | '%' :: _ => .error .malformed
    | _ => .ok ([], c)

/-- The rest of a tag, with its escapes read. -/
def tagRestFrom : (fuel : Nat) → Cursor → Except Fault (Text × Cursor)
  | 0, c => .ok ([], c)
  | fuel + 1, c =>
    match c.peek with
    | some ch =>
      if ch == '%' then do
        let (bytes, c) ← escapedBytes (c.rest.length + 1) c
        match Utf8.decode bytes with
        | .error _ => .error .malformed
        | .ok t => do
          let (more, c) ← tagRestFrom fuel c
          return (t ++ more, c)
      else if isTagChar ch then
        (tagRestFrom fuel c.next).map fun (more, c) => (ch :: more, c)
      else .ok ([], c)
    | none => .ok ([], c)

/-- The rest of a tag, which must not be empty. -/
def tagRest (c : Cursor) : Except Fault (Text × Cursor) := do
  let (t, c) ← tagRestFrom (c.rest.length + 1) c
  if t.isEmpty then .error .malformed else .ok (t, c)

/-- The handle of a tag: a name between exclamation marks, or a single mark. -/
def tagHandle (c : Cursor) : Except Fault (Text × Cursor) :=
  match c.peek with
  | some '!' =>
    if c.peekAt 1 == some (.char ' ') then .ok (['!'], c.next)
    else
      let (name, after) := c.next.span isNameChar
      if after.peek == some (.char '!') then .ok ("!" ++ name ++ "!", after.next)
      else .error .malformed
  | _ => .error .malformed

/-- Whether a tag has a second exclamation mark, so that the first part is a handle. -/
def hasHandle (c : Cursor) : Bool :=
  let beginning := c.rest.tail.takeWhile fun (ch : CodePoint) => ch != ' ' && !isBreak ch
  beginning.contains (.char '!')

/-- A tag, from its exclamation mark. -/
def tag (c : Cursor) : Except Fault (TagText × Cursor) := do
  let (tag, c) ←
    if c.peekAt 1 == some (.char '<') then do
      let (rest, c) ← tagRest (c.advance 2)
      if c.peek == some (.char '>') then pure (TagText.mk none rest, c.next) else .error .malformed
    else if isGap (c.peekAt 1) then pure (⟨none, ['!']⟩, c.next)
    else do
      let (handle, c) ← if hasHandle c then tagHandle c else pure (['!'], c.next)
      let (rest, c) ← tagRest c
      pure (⟨some handle, rest⟩, c)
  if isSpaceEnd c.peek then .ok (tag, c) else .error .malformed

def versionNumber (c : Cursor) : Except Fault (Nat × Cursor) :=
  let (digits, c) := c.span CodePoint.isDigit
  if digits.isEmpty then .error .malformed
  else if Value.maxDigits < digits.length then .error (.value (.tooManyDigits digits.length))
  else .ok (Text.toNat digits, c)

/-- The version after its directive's name. -/
def versionDirective (c : Cursor) : Except Fault (Token × Cursor) := do
  let (major, c) ← versionNumber c.skipSpaces
  if c.peek != some (.char '.') then .error .malformed
  else do
    let (_, c) ← versionNumber c.next
    if isSpaceEnd c.peek then .ok (.version major, c) else .error .malformed

/-- The handle and its meaning after their directive's name. -/
def handleDirective (c : Cursor) : Except Fault (Token × Cursor) := do
  let (handle, c) ← tagHandle c.skipSpaces
  if c.peek != some (.char ' ') then .error .malformed
  else do
    let (meaning, c) ← tagRest c.skipSpaces
    if isSpaceEnd c.peek then .ok (.handle handle meaning, c) else .error .malformed

def directive (c : Cursor) : Except Fault (Token × Cursor) := do
  let (name, c) := c.next.span isNameChar
  if name.isEmpty || !isSpaceEnd c.peek then .error .malformed
  else do
    let (token, c) ←
      if name = ("YAML" : Text) then versionDirective c
      else if name = ("TAG" : Text) then handleDirective c
      else pure (Token.unknownDirective, c.skip fun ch => !isBreak ch)
    return (token, ← c.endOfLine)

/-! ## Tokens -/

/-- Ends the blocks before something that stands outside all of them. -/
def closeBlocks (s : Scan) : Except Fault Scan := do
  let s ← (s.unwindTo (-1)).forgetKey
  return { s with allowKey := false }

def documentMarker (s : Scan) (token : Token) : Except Fault Scan := do
  let s ← s.closeBlocks
  return (s.advance 3).push token

def openFlow (s : Scan) (token : Token) : Except Fault Scan := do
  let s ← s.rememberKey
  return ({ s with flowLevel := s.flowLevel + 1, allowKey := true }.advance 1).push token

/-- A closing bracket, which needs an open one. -/
def closeFlow (s : Scan) (token : Token) : Except Fault Scan := do
  if !s.inFlow then .error .malformed
  else do
    let s ← s.forgetKey
    return ({ s with flowLevel := s.flowLevel - 1, allowKey := false }.advance 1).push token

/-- Enters a block at a column, unless it goes on. -/
def enterBlock (s : Scan) (column : Nat) (token : Token) : Scan :=
  match s.enter? column with
  | some s => s.push token
  | none => s

/-- An indicator of an entry or a key, which outside brackets may stand only where a key may. -/
def indicator (s : Scan) (block token : Token) (allowKey : Bool) : Except Fault Scan := do
  if !s.inFlow && !s.allowKey then .error .malformed
  else do
    let s := if s.inFlow then s else s.enterBlock s.cursor.column block
    let s ← { s with allowKey }.forgetKey
    return (s.advance 1).push token

/-- The colon before a value. -/
def valueIndicator (s : Scan) : Except Fault Scan :=
  match s.keys.lookup s.flowLevel with
  | some key =>
    let s := { s with keys := s.keys.filter fun (level, _) => level != s.flowLevel }
    let s := s.insert key.position .key
    let s := if s.inFlow then s
      else match s.enter? key.column with
        | some s => s.insert key.position .blockMappingStart
        | none => s
    .ok (({ s with allowKey := false }.advance 1).push .value)
  | none => s.indicator .blockMappingStart .value (!s.inFlow)

/-- A token that a key may consist of or start with. -/
def keyPart (s : Scan) (read : Cursor → Except Fault (Token × Cursor)) : Except Fault Scan := do
  let s ← s.rememberKey
  let (token, cursor) ← read s.cursor
  return { s with allowKey := false, cursor }.push token

def plain (s : Scan) : Except Fault Scan := do
  let s ← s.rememberKey
  let (text, lineEnded, cursor) := plainScalar s.inFlow s.indent s.cursor
  return { s with allowKey := lineEnded, cursor }.push (.scalar true text)

def block (s : Scan) (fold : Bool) : Except Fault Scan := do
  let s ← { s with allowKey := true }.forgetKey
  let (text, cursor) ← blockScalar fold s.indent s.cursor
  return { s with cursor }.push (.scalar false text)

/-- A character that means something at the start of a token. -/
def isIndicator (c : CodePoint) : Bool :=
  ("-?:,[]\x7b\x7d#&*!|>'\"%@\x60" : Text).contains c

/-- Whether a plain scalar may start with a character that another follows. -/
def startsPlain (s : Scan) (ch : CodePoint) (following : Option CodePoint) : Bool :=
  (!isGap (some ch) && !isIndicator ch) ||
    (!isGap following && (ch == '-' || (!s.inFlow && (ch == '?' || ch == ':'))))

/-- The next token but the end. -/
def token (s : Scan) (ch : CodePoint) : Except Fault Scan :=
  let c := s.cursor
  let following := c.peekAt 1
  if ch == '%' && c.column == 0 then do
    let s ← s.closeBlocks
    let (token, cursor) ← directive s.cursor
    return { s with cursor }.push token
  else if c.column == 0 && c.atMarker "---" then s.documentMarker .documentStart
  else if c.column == 0 && c.atMarker "..." then s.documentMarker .documentEnd
  else if ch == '[' then s.openFlow .flowSequenceStart
  else if ch == '{' then s.openFlow .flowMappingStart
  else if ch == ']' then s.closeFlow .flowSequenceEnd
  else if ch == '}' then s.closeFlow .flowMappingEnd
  else if ch == ',' then do
    let s ← { s with allowKey := true }.forgetKey
    return (s.advance 1).push .flowEntry
  else if ch == '-' && isGap following then s.indicator .blockSequenceStart .blockEntry true
  else if ch == '?' && (s.inFlow || isGap following) then
    s.indicator .blockMappingStart .key (!s.inFlow)
  else if ch == ':' && (s.inFlow || isGap following) then s.valueIndicator
  else if ch == '*' then
    s.keyPart fun c => (anchorName c.next).map fun (name, c) => (.alias name, c)
  else if ch == '&' then
    s.keyPart fun c => (anchorName c.next).map fun (name, c) => (.anchor name, c)
  else if ch == '!' then s.keyPart fun c => (tag c).map fun (tag, c) => (.tag tag, c)
  else if ch == '|' && !s.inFlow then s.block false
  else if ch == '>' && !s.inFlow then s.block true
  else if ch == '\'' || ch == '"' then
    s.keyPart fun c => (quotedScalar (ch == '"') c).map fun (t, c) => (.scalar false t, c)
  else if s.startsPlain ch following then s.plain
  else .error .malformed

/-- The state after the next token, and after the ends of blocks before it. -/
def advanceToken (s : Scan) : Except Fault Scan := do
  let s := skipBlanks (s.cursor.rest.length + 1) s
  let s ← s.dropStale
  let s := s.unwindTo s.cursor.column
  match s.cursor.peek with
  | none => do
    let s ← s.closeBlocks
    return s.push .streamEnd
  | some ch => s.token ch

def isAtEnd (s : Scan) : Bool :=
  match s.tokens with
  | .streamEnd :: _ => true
  | _ => false

/-- The tokens from here on. -/
def run : (fuel : Nat) → Scan → Tokens
  | 0, s => ⟨s.tokens.reverse, some .malformed⟩
  | fuel + 1, s =>
    match s.advanceToken with
    | .error fault => ⟨s.tokens.reverse.take s.certainCount, some fault⟩
    | .ok s => if s.isAtEnd then ⟨s.tokens.reverse, none⟩ else run fuel s

end Scan

def Tokens.ofText (t : Text) : Tokens :=
  Scan.run (t.length + 2) (Scan.start t)

end DocEnum.Yaml
