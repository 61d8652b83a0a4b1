import DocEnum.Text.Utf8
import DocEnum.Text.Word
import DocEnum.Value.Shown

/-!
# Literals

A literal is a text that names a value: a number, a quoted text, a word such as `None`, or a list, a
set or a mapping of literals in brackets. What is done with a tag that has parameters needs them to
be literals; their values do not matter here, so `isLiteral` only tells which texts are literals.

**Kinds.** A sign stands before a number only, a sum is of a number and an imaginary one, quoted
texts next to each other must be of one kind, and what is in a set or is a key must not itself be a
list, a set or a mapping.
-/

namespace DocEnum.Console

namespace Literal

inductive Kind where
  | number
  | imaginary
  | text
  | bytes
  /-- A word, or a group of values that may be in a set. -/
  | constant
  /-- A value that may not be in a set. -/
  | container
deriving DecidableEq, Repr

/-- A reader of what a text begins with, and the text after it. -/
abbrev Reader := Text → Option (Kind × Text)

/-! ## Blanks and words -/

/-- Without the blanks at the start; inside brackets line breaks are blanks too. -/
def skipBlanks (t : Text) : Text :=
  t.dropWhile fun (c : CodePoint) => c == ' ' || c == '\t' || c == '\x0c' || c == '\n'

def wordOf (t : Text) : Text :=
  t.takeWhile Text.isWord

def constants : List Text := ["None", "True", "False"]

/-! ## Numbers -/

/-- The digits of a base at the start, with single underscores between them, and the text after. -/
def digits (p : CodePoint → Bool) (t : Text) : Option (Text × Text) :=
  let run := t.takeWhile fun c => p c || c == '_'
  let groups := Text.splitOn (· == .char '_') run
  if groups.any List.isEmpty then none else some (groups.flatten, t.drop run.length)

/-- The text after an exponent, if there is one. -/
def afterExponent (t : Text) : Text × Bool :=
  match t with
  | e :: rest =>
    let signless := match rest with
      | '+' :: rest | '-' :: rest => rest
      | rest => rest
    match if e.toLower == 'e' then digits CodePoint.isDigit signless else none with
    | some (_, rest) => (rest, true)
    | none => (t, false)
  | [] => (t, false)

/-- The text after a fraction, if there is one. -/
def afterFraction (t : Text) : Text × Bool :=
  match t with
  | '.' :: rest =>
    match digits CodePoint.isDigit rest with
    | some (_, rest) => (rest, true)
    | none => (rest, true)
  | t => (t, false)

def markedNumber (p : CodePoint → Bool) (t : Text) : Option (Kind × Text) :=
  let t := if t.head? = some (.char '_') then t.tail else t
  (digits p t).map fun (_, rest) => (.number, rest)

def decimalNumber (t : Text) : Option (Kind × Text) := do
  let (whole, rest) ←
    if t.head? = some (.char '.') then some ([], t) else digits CodePoint.isDigit t
  let (rest, hasFraction) := afterFraction rest
  if whole.isEmpty && !(t.tail.head?.any CodePoint.isDigit) then none
  let (rest, hasExponent) := afterExponent rest
  match rest with
  | c :: after =>
    if c.toLower == 'j' then return (.imaginary, after)
  | [] => pure ()
  let isInteger := !hasFraction && !hasExponent
  if isInteger && 1 < whole.length && whole.head? = some (.char '0') &&
    whole.any (· != .char '0') then none
  if isInteger && Value.maxDigits < whole.length then none
  return (.number, rest)

/-- A number, after which no letter may follow. -/
def number : Reader := fun t => do
  let isHex (c : CodePoint) : Bool := (Text.hexDigit? c).isSome
  let (kind, rest) ← match t with
    | '0' :: marker :: rest =>
      match marker.toLower with
      | 'x' => markedNumber isHex rest
      | 'o' => markedNumber (fun c => '0' ≤ c && c ≤ '7') rest
      | 'b' => markedNumber (fun (c : CodePoint) => c == '0' || c == '1') rest
      | _ => decimalNumber t
    | _ => decimalNumber t
  if rest.head?.any Text.isWord then none else return (kind, rest)

/-! ## Quoted texts -/

structure Quoting where
  quote : CodePoint
  isTriple : Bool
  isRaw : Bool
  isBytes : Bool

/-- The number of hexadecimal digits that an escape needs; nothing for an escape that is refused. -/
def escapeDigits? (q : Quoting) (c : CodePoint) : Option Nat :=
  if c == 'x' then some 2
  else if q.isBytes then some 0
  else if c == 'u' then some 4
  else if c == 'U' then some 8
  else if c == 'N' then none
  else some 0

def isEscape (q : Quoting) (c : CodePoint) (rest : Text) : Bool :=
  (escapeDigits? q c).any fun count =>
    let digits := rest.take count
    digits.length == count && digits.all (fun c => (Text.hexDigit? c).isSome) &&
      digits.foldl (fun n c => n * 16 + (Text.hexDigit? c).getD 0) 0 < 0x110000

def afterQuoted (q : Quoting) : Text → Option Text
  | [] => none
  | '\\' :: c :: rest =>
    if q.isRaw || isEscape q c rest then afterQuoted q rest else none
  | c :: rest =>
    if c == q.quote then
      match q.isTriple, rest with
      | false, _ => some rest
      | true, d :: e :: after =>
        if d == q.quote && e == q.quote then some after else afterQuoted q rest
      | true, _ => none
    else if (c == '\n' && !q.isTriple) || (q.isBytes && 128 ≤ c.toNat) then none
    else afterQuoted q rest

/-- The markers before a quoted text that are allowed: whether it is raw, and whether bytes. -/
def markers : List (Text × Bool × Bool) := [
  ("", false, false), ("u", false, false), ("r", true, false), ("b", false, true),
  ("br", true, true), ("rb", true, true)]

def quoted : Reader := fun t => do
  let marker := wordOf t
  let (isRaw, isBytes) ← markers.lookup (Text.lowerAscii marker)
  let kind := if isBytes then Kind.bytes else Kind.text
  match t.drop marker.length with
  | quote :: rest => do
    if quote != '\'' && quote != '"' then none
    match rest with
    | d :: e :: after =>
      if d == quote && e == quote then
        (afterQuoted ⟨quote, true, isRaw, isBytes⟩ after).map fun rest => (kind, rest)
      else (afterQuoted ⟨quote, false, isRaw, isBytes⟩ rest).map fun rest => (kind, rest)
    | _ => (afterQuoted ⟨quote, false, isRaw, isBytes⟩ rest).map fun rest => (kind, rest)
  | [] => none

/-- Quoted texts next to each other, all of one kind. -/
def quotedRun : (fuel : Nat) → Reader
  | 0, _ => none
  | fuel + 1, t => do
    let (kind, rest) ← quoted t
    match quotedRun fuel (skipBlanks rest) with
    | some (other, rest) => if other = kind then return (kind, rest) else none
    | none => return (kind, rest)

/-! ## Values -/

def groupKind (kinds : List Kind) : Kind :=
  if kinds.contains .container then .container else .constant

mutual

/-- A value without a sign. -/
def atom : (fuel : Nat) → Reader
  | 0, _ => none
  | fuel + 1, t =>
    match t with
    | '(' :: rest => do
      let (kinds, hasComma, rest) ← items ')' fuel rest
      match kinds, hasComma with
      | [kind], false => return (kind, rest)
      | kinds, _ => return (groupKind kinds, rest)
    | '[' :: rest => do
      let (_, _, rest) ← items ']' fuel rest
      return (.container, rest)
    | '{' :: rest =>
      match members fuel rest with
      | some rest => some (.container, rest)
      | none => do
        let (kinds, _, rest) ← items '\x7d' fuel rest
        if kinds.contains .container then none else return (.container, rest)
    | '.' :: '.' :: '.' :: rest => some (.constant, rest)
    | c :: _ =>
      if c == '.' || c.isDigit then number t
      else match quotedRun fuel t with
        | some found => some found
        | none => do
          let word := wordOf t
          let rest := t.drop word.length
          if constants.contains word then return (.constant, rest)
          else if word = ("set" : Text) then
            let rest ← Text.dropBeginning? ['('] (skipBlanks rest)
            let rest ← Text.dropBeginning? [')'] (skipBlanks rest)
            return (.container, rest)
          else none
    | [] => none

/-- A number with a sign, or any other value without. -/
def signed : (fuel : Nat) → Reader
  | 0, _ => none
  | fuel + 1, t =>
    match t with
    | '+' :: rest | '-' :: rest => do
      let (kind, rest) ← atom fuel (skipBlanks rest)
      if kind = .number || kind = .imaginary then return (kind, rest) else none
    | t => atom fuel t

/-- A value, or the sum of a number and an imaginary number, and the blanks after it. -/
def value : (fuel : Nat) → Reader
  | 0, _ => none
  | fuel + 1, t => do
    let (kind, rest) ← signed fuel (skipBlanks t)
    match skipBlanks rest with
    | '+' :: rest | '-' :: rest => do
      let (other, rest) ← atom fuel (skipBlanks rest)
      if kind = .number && other = .imaginary then return (.constant, skipBlanks rest) else none
    | rest => return (kind, rest)

/-- Values with commas between them up to a closing bracket, and whether there is a comma. -/
def items (closing : CodePoint) : (fuel : Nat) → Text → Option (List Kind × Bool × Text)
  | 0, _ => none
  | fuel + 1, t =>
    match skipBlanks t with
    | [] => none
    | c :: rest =>
      if c == closing then some ([], false, rest)
      else do
        let (kind, rest) ← value fuel (c :: rest)
        match rest with
        | ',' :: rest => do
          let (kinds, _, rest) ← items closing fuel rest
          return (kind :: kinds, true, rest)
        | c :: rest => if c == closing then return ([kind], false, rest) else none
        | [] => none

def members : (fuel : Nat) → Text → Option Text
  | 0, _ => none
  | fuel + 1, t =>
    match skipBlanks t with
    | '}' :: rest => some rest
    | t => do
      let (key, rest) ← value fuel t
      if key = .container then none
      let rest ← Text.dropBeginning? [':'] rest
      let (_, rest) ← value fuel rest
      match rest with
      | ',' :: rest => members fuel rest
      | '}' :: rest => return rest
      | _ => none

end

end Literal

/-- Whether a text is a literal, or several with commas between them. -/
def isLiteral (t : Text) : Bool :=
  match Literal.items ')' (4 * t.length + 4) (t ++ ")") with
  | some (kinds, _, rest) => !kinds.isEmpty && rest.isEmpty
  | none => false

end DocEnum.Console
