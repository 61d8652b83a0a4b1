import DocEnum.Yaml.Cursor

/-!
# Written scalars

A scalar is written plain, in quotes, or as a block. Each reader here starts where the scalar
starts and gives its text with the cursor after it.

**Folding.** In plain and quoted scalars one line break between two lines is a space, and of several
all but the first stay. In a folded block this holds only between lines that start with
neither a space nor a tab.

**Plain scalars** end before a comment, before a colon with a gap after it, and inside brackets
before the characters that structure them.
-/

namespace DocEnum.Yaml

/-! ## Quoted -/

/-- The line breaks of a quoted scalar, with the blanks around them left out. -/
def quotedBreaks : (fuel : Nat) → Cursor → Except Fault (Text × Cursor)
  | 0, _ => .error .malformed
  | fuel + 1, c =>
    if c.atDocumentMarker then .error .malformed
    else
      let c := c.skip fun ch => ch == ' ' || ch == '\t'
      match c.lineBreak with
      | ([], c) => .ok ([], c)
      | (read, c) => (quotedBreaks fuel c).map fun (more, c) => (read ++ more, c)

/-- What one line break with further ones after it stands for. -/
def folded (first more : Text) : Text :=
  (if first ≠ ("\n" : Text) then first else if more.isEmpty then " " else []) ++ more

/-- The blanks inside a quoted scalar, which end in a character or are folded. -/
def quotedBlanks (c : Cursor) : Except Fault (Text × Cursor) :=
  let (blanks, c) := c.span fun ch => ch == ' ' || ch == '\t'
  match c.peek with
  | none => .error .malformed
  | some ch =>
    if isBreak ch then
      let (first, c) := c.lineBreak
      (quotedBreaks (c.rest.length + 1) c).map fun (more, c) => (folded first more, c)
    else .ok (blanks, c)

/-- The character that a one-letter escape stands for. -/
def escapeChar? : CodePoint → Option CodePoint
  | '0' => some '\x00'
  | 'a' => some '\x07'
  | 'b' => some '\x08'
  | 't' | '\t' => some '\t'
  | 'n' => some '\n'
  | 'v' => some '\x0b'
  | 'f' => some '\x0c'
  | 'r' => some '\r'
  | 'e' => some '\x1b'
  | ' ' => some ' '
  | '"' => some '"'
  | '\\' => some '\\'
  | '/' => some '/'
  | 'N' => some '\x85'
  | '_' => some '\xa0'
  | 'L' => some '\u2028'
  | 'P' => some '\u2029'
  | _ => none

/-- The number of hexadecimal digits after an escape letter. -/
def escapeDigits? : CodePoint → Option Nat
  | 'x' => some 2
  | 'u' => some 4
  | 'U' => some 8
  | _ => none

def hexNumber? (t : Text) : Option Nat :=
  t.foldl (fun n c => do return (← n) * 16 + (← Text.hexDigit? c)) (some 0)

/-- The code point that an escape names. -/
def codePoint (code : Nat) : Except Fault CodePoint :=
  if 0x80000000 ≤ code then .error .overflow
  else if 0x110000 ≤ code then .error (.value .codePoint)
  else .ok (CodePoint.ofNat code)

/-- What an escape after its backslash stands for. -/
def escape (c : Cursor) : Except Fault (Text × Cursor) :=
  match c.peek with
  | none => .error .malformed
  | some ch =>
    match escapeChar? ch, escapeDigits? ch with
    | some e, _ => .ok ([e], c.next)
    | none, some count =>
      let c := c.next
      let digits := c.rest.take count
      match if digits.length = count then hexNumber? digits else none with
      | none => .error .malformed
      | some code => (codePoint code).map fun e => ([e], c.advance count)
    | none, none =>
      if isBreak ch then
        let c := c.lineBreak.2
        quotedBreaks (c.rest.length + 1) c
      else .error .malformed

/-- The rest of a quoted scalar. -/
def quotedFrom (double : Bool) : (fuel : Nat) → Cursor → Except Fault (Text × Cursor)
  | 0, _ => .error .malformed
  | fuel + 1, c =>
    let continueWith (read : Text) (c : Cursor) : Except Fault (Text × Cursor) :=
      (quotedFrom double fuel c).map fun (more, c) => (read ++ more, c)
    match c.peek with
    | none => .error .malformed
    | some ch =>
      if ch == '\'' && !double then
        if c.peekAt 1 == some (.char '\'') then continueWith ['\''] (c.advance 2)
          else .ok ([], c.next)
      else if ch == '"' && double then .ok ([], c.next)
      else if ch == '\\' && double then
        match escape c.next with
        | .error fault => .error fault
        | .ok (read, c) => continueWith read c
      else if isGap (some ch) then
        match quotedBlanks c with
        | .error fault => .error fault
        | .ok (read, c) => continueWith read c
      else continueWith [ch] c.next

def quotedScalar (double : Bool) (c : Cursor) : Except Fault (Text × Cursor) :=
  quotedFrom double (c.rest.length + 1) c.next

/-! ## Plain -/

def endsPlain (inFlow : Bool) (ch : CodePoint) (following : Option CodePoint) : Bool :=
  let structural (c : CodePoint) : Bool := c == ',' || c == '[' || c == ']' || c == '{' || c == '}'
  isGap (some ch) ||
    (ch == ':' && (isGap following || (inFlow && following.any structural))) ||
    (inFlow && (structural ch || ch == '?'))

/-- The length of the plain characters at the start of a text. -/
def plainLength (inFlow : Bool) : Text → Nat
  | [] => 0
  | ch :: rest => if endsPlain inFlow ch rest.head? then 0 else plainLength inFlow rest + 1

/-- The spaces and line breaks before the next line of a plain scalar; nothing where a line that
starts or ends a document follows. -/
def plainBreaks : (fuel : Nat) → Cursor → Option Text × Cursor
  | 0, c => (some [], c)
  | fuel + 1, c =>
    if c.peek == some (.char ' ') then plainBreaks fuel c.next
    else match c.lineBreak with
      | ([], c) => (some [], c)
      | (read, c) =>
        if c.atDocumentMarker then (none, c)
        else
          let (more, c) := plainBreaks fuel c
          (more.map (read ++ ·), c)

/-- What stands between two pieces of a plain scalar, empty if the scalar ends here; the flag tells
whether a line has ended. -/
def plainGap (c : Cursor) : Text × Bool × Cursor :=
  let (spaces, c) := c.span (· == .char ' ')
  if isLineEnd c.peek && c.peek.isSome then
    let (first, c) := c.lineBreak
    if c.atDocumentMarker then ([], true, c)
    else match plainBreaks (c.rest.length + 1) c with
      | (none, c) => ([], true, c)
      | (some more, c) => (folded first more, true, c)
  else (spaces, false, c)

/-- The rest of a plain scalar indented deeper than `indent`, with a flag that tells whether a line
has ended after its last piece. -/
def plainFrom (inFlow : Bool) (indent : Int) : (fuel : Nat) → Cursor → Text × Bool × Cursor
  | 0, c => ([], false, c)
  | fuel + 1, c =>
    let piece := c.rest.take (plainLength inFlow c.rest)
    let c := c.advance piece.length
    let (gap, lineEnded, c) := plainGap c
    let goesOn := !gap.isEmpty && c.peek != some (.char '#') && (inFlow || indent < c.column) &&
      plainLength inFlow c.rest != 0
    if goesOn then
      let (more, lineEnded, c) := plainFrom inFlow indent fuel c
      (piece ++ gap ++ more, lineEnded, c)
    else (piece, lineEnded, c)

def plainScalar (inFlow : Bool) (indent : Int) (c : Cursor) : Text × Bool × Cursor :=
  plainFrom inFlow indent (c.rest.length + 1) c

/-! ## Block -/

/-- What becomes of the line breaks at the end of a block. -/
inductive Chomping where
  | strip
  | clip
  | keep
deriving DecidableEq, Repr

def chomping? : Option CodePoint → Option Chomping
  | some '+' => some .keep
  | some '-' => some .strip
  | _ => none

/-- The indentation that a digit asks for; zero is refused. -/
def blockIndent? (c : Cursor) : Except Fault (Option Nat × Cursor) :=
  match c.peek with
  | some ch =>
    if ch == '0' then .error .malformed
    else if ch.isDigit then .ok (some (ch.toNat - '0'.toNat), c.next)
    else .ok (none, c)
  | none => .ok (none, c)

/-- The indicators of a block, in either order. -/
def blockHeader (c : Cursor) : Except Fault (Chomping × Option Nat × Cursor) := do
  let (chomping, indent, c) ← match chomping? c.peek with
    | some chomping => do
      let (indent, c) ← blockIndent? c.next
      pure (chomping, indent, c)
    | none => do
      let (indent, c) ← blockIndent? c
      match if indent.isSome then chomping? c.peek else none with
      | some chomping => pure (chomping, indent, c.next)
      | none => pure (Chomping.clip, indent, c)
  if isSpaceEnd c.peek then .ok (chomping, indent, c) else .error .malformed

/-- The empty lines before a block whose indentation is not given, and the widest column there. -/
def leadingBreaks : (fuel : Nat) → (widest : Nat) → Cursor → Text × Nat × Cursor
  | 0, widest, c => ([], widest, c)
  | fuel + 1, widest, c =>
    if c.peek == some (.char ' ') then
      let c := c.next
      leadingBreaks fuel (max widest c.column) c
    else match c.lineBreak with
      | ([], c) => ([], widest, c)
      | (read, c) =>
        let (more, widest, c) := leadingBreaks fuel widest c
        (read ++ more, widest, c)

/-- The cursor after spaces up to a column. -/
def skipIndent (indent : Nat) : (fuel : Nat) → Cursor → Cursor
  | 0, c => c
  | fuel + 1, c =>
    if c.column < indent && c.peek == some (.char ' ') then skipIndent indent fuel c.next else c

/-- The empty lines between two lines of a block. -/
def blockBreaks (indent : Nat) : (fuel : Nat) → Cursor → Text × Cursor
  | 0, c => ([], c)
  | fuel + 1, c =>
    let c := skipIndent indent (c.rest.length + 1) c
    match c.lineBreak with
    | ([], c) => ([], c)
    | (read, c) =>
      let (more, c) := blockBreaks indent fuel c
      (read ++ more, c)

/-- Whether a line of a block starts with a blank. -/
def startsBlank (c : Cursor) : Bool :=
  c.peek == some (.char ' ') || c.peek == some (.char '\t')

/-- The lines of a block from a line on, with `breaks` before it: their text, the last line break,
the empty lines after them, and the cursor there. -/
def blockLinesFrom (fold : Bool) (indent : Nat) :
    (fuel : Nat) → (breaks : Text) → Cursor → Text × Text × Text × Cursor
  | 0, breaks, c => ([], [], breaks, c)
  | fuel + 1, breaks, c =>
    let deep := startsBlank c
    let (line, c) := c.span fun ch => !isBreak ch
    let (lineBreak, c) := c.lineBreak
    let (after, c) := blockBreaks indent (c.rest.length + 1) c
    if c.column = indent && c.peek.isSome then
      let joint : Text :=
        if fold && lineBreak = ("\n" : Text) && !deep && !startsBlank c then
          if after.isEmpty then [' '] else []
        else lineBreak
      let (more, last, rest, c) := blockLinesFrom fold indent fuel after c
      (breaks ++ line ++ joint ++ more, last, rest, c)
    else (breaks ++ line, lineBreak, after, c)

/-- A block scalar inside a block of the given indentation, from its indicator. -/
def blockScalar (fold : Bool) (parentIndent : Int) (c : Cursor) : Except Fault (Text × Cursor) := do
  let (chomping, increment, c) ← blockHeader c.next
  let c ← c.endOfLine
  let least := max (parentIndent + 1).toNat 1
  let (indent, breaks, c) := match increment with
    | some n =>
      let indent := least + n - 1
      let (breaks, c) := blockBreaks indent (c.rest.length + 1) c
      (indent, breaks, c)
    | none =>
      let (breaks, widest, c) := leadingBreaks (c.rest.length + 1) 0 c
      (max least widest, breaks, c)
  let (text, last, after, c) :=
    if c.column = indent && c.peek.isSome then
      blockLinesFrom fold indent (c.rest.length + 1) breaks c
    else ([], [], breaks, c)
  return (match chomping with
    | .strip => text
    | .clip => text ++ last
    | .keep => text ++ last ++ after, c)

end DocEnum.Yaml
