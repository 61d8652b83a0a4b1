import DocEnum.Value.Fault

/-!
# Reading JSON

**Language.** JSON as usual, and also the numbers `NaN`, `Infinity` and `-Infinity`. Numbers with a
fraction or an exponent are floating-point numbers, others integers. Of members with the same name
the last one counts.

**Faults.** A fault tells what was missing or wrong, and where: line and column from one, offset
from zero. While reading, the place is kept as the text that is left.
-/

namespace DocEnum.Json

/-! ## Faults -/

/-- What is wrong with a text that is not JSON. -/
inductive Cause where
  | byteOrderMark
  | expectedValue
  | expectedName
  | expectedColon
  | expectedComma
  | extraData
  | unterminated
  | controlCharacter
  | escape
  | unicodeEscape
deriving DecidableEq, Repr

def Cause.message : Cause → Text
  | byteOrderMark => "Unexpected UTF-8 BOM (decode using utf-8-sig)"
  | expectedValue => "Expecting value"
  | expectedName => "Expecting property name enclosed in double quotes"
  | expectedColon => "Expecting ':' delimiter"
  | expectedComma => "Expecting ',' delimiter"
  | extraData => "Extra data"
  | unterminated => "Unterminated string starting at"
  | controlCharacter => "Invalid control character at"
  | escape => "Invalid \\escape"
  | unicodeEscape => "Invalid \\uXXXX escape"

structure Fault where
  cause : Cause
  line : Nat
  column : Nat
  offset : Nat
deriving DecidableEq, Repr

def Fault.message (fault : Fault) : Text :=
  fault.cause.message ++ ": line " ++ Text.ofNat fault.line ++ " column " ++
    Text.ofNat fault.column ++ " (char " ++ Text.ofNat fault.offset ++ ")"

/-- Why reading stops. -/
inductive Stop where
  /-- Something is wrong where `rest` starts. -/
  | wrong (cause : Cause) (rest : Text)
  | value (fault : Value.Fault)
  /-- Objects and arrays stand too deep in each other. -/
  | tooDeep

/-- A cause at the place where `rest` starts in the whole text. -/
def Fault.locate (whole : Text) (cause : Cause) (rest : Text) : Fault :=
  let before := whole.take (whole.length - rest.length)
  { cause
    line := before.count (.char '\n') + 1
    column := (before.reverse.takeWhile (· != .char '\n')).length + 1
    offset := before.length }

/-! ## Blanks, strings and numbers -/

def isBlank (c : CodePoint) : Bool :=
  c == ' ' || c == '\t' || c == '\n' || c == '\r'

/-- Without the blanks at the start. -/
def skipBlanks (t : Text) : Text :=
  t.dropWhile isBlank

/-- The number that four hexadecimal digits stand for; a further character must follow. -/
def hexUnit? : Text → Option (Nat × Text)
  | a :: b :: c :: d :: e :: rest => do
    let a ← Text.hexDigit? a
    let b ← Text.hexDigit? b
    let c ← Text.hexDigit? c
    let d ← Text.hexDigit? d
    return (((a * 16 + b) * 16 + c) * 16 + d, e :: rest)
  | _ => none

/-- The character that a short escape stands for. -/
def shortEscape? : CodePoint → Option CodePoint
  | '"' => some '"'
  | '\\' => some '\\'
  | '/' => some '/'
  | 'b' => some '\x08'
  | 'f' => some '\x0c'
  | 'n' => some '\n'
  | 'r' => some '\r'
  | 't' => some '\t'
  | _ => none

/-- The rest of a string and the text after it. `opening` is the text from its opening quote on,
`read` what was read, reversed. Two halves of a pair make one character; a half that is followed by
no other stays a half. -/
def stringFrom (opening : Text) : (fuel : Nat) → (read : Text) → Text → Except Stop (Text × Text)
  | 0, _, _ | _, _, [] => .error (.wrong .unterminated opening)
  | fuel + 1, read, c :: rest =>
    if c == '"' then .ok (read.reverse, rest)
    else if c == '\\' then
      match rest with
      | [] => .error (.wrong .unterminated opening)
      | 'u' :: digits =>
        match hexUnit? digits with
        | none => .error (.wrong .unicodeEscape rest)
        | some (unit, after) =>
          if 0xD800 ≤ unit && unit < 0xDC00 then
            match after with
            | '\\' :: 'u' :: digits =>
              match hexUnit? digits with
              | none => .error (.wrong .unicodeEscape ('u' :: digits))
              | some (low, after') =>
                if 0xDC00 ≤ low && low < 0xE000 then
                  let code := 0x10000 + (unit - 0xD800) * 0x400 + (low - 0xDC00)
                  stringFrom opening fuel (CodePoint.ofNat code :: read) after'
                else stringFrom opening fuel (CodePoint.ofNat unit :: read) after
            | _ => stringFrom opening fuel (CodePoint.ofNat unit :: read) after
          else stringFrom opening fuel (CodePoint.ofNat unit :: read) after
      | e :: after =>
        match shortEscape? e with
        | some c => stringFrom opening fuel (c :: read) after
        | none => .error (.wrong .escape (c :: rest))
    else if c.toNat < 32 then .error (.wrong .controlCharacter (c :: rest))
    else stringFrom opening fuel (c :: read) rest

/-- The string at the start of a text that begins with its quote. -/
def string (opening : Text) : Except Stop (Text × Text) :=
  stringFrom opening opening.length [] opening.tail

/-- The digits of a fraction after its point, if there are any. -/
def fraction : Text → Text × Text
  | '.' :: rest =>
    let digits := rest.takeWhile CodePoint.isDigit
    if digits.isEmpty then ([], '.' :: rest) else (digits, rest.drop digits.length)
  | t => ([], t)

/-- A decimal exponent, if there is one with digits. -/
def exponent? : Text → Option (Int × Text)
  | e :: rest =>
    if e == 'e' || e == 'E' then
      let (negative, rest) := match rest with
        | '-' :: rest => (true, rest)
        | '+' :: rest => (false, rest)
        | rest => (false, rest)
      let digits := rest.takeWhile CodePoint.isDigit
      let magnitude : Int := Text.toNat digits
      if digits.isEmpty then none
      else some (if negative then -magnitude else magnitude, rest.drop digits.length)
    else none
  | [] => none

/-- The number after its sign. -/
def numberFrom (negative : Bool) (whole t : Text) : Except Stop (Value × Text) :=
  let (part, afterPart) := fraction t
  match exponent? afterPart with
  | some (power, rest) =>
    .ok (.float (.ofDecimal negative (Text.toNat (whole ++ part)) (power - part.length)), rest)
  | none =>
    if part.isEmpty then
      match Value.ofDigits negative whole with
      | .ok value => .ok (value, t)
      | .error fault => .error (.value fault)
    else
      .ok (.float (.ofDecimal negative (Text.toNat (whole ++ part)) (-(part.length : Int))),
        afterPart)

def number (t : Text) : Except Stop (Value × Text) :=
  let (negative, body) := match t with
    | '-' :: rest => (true, rest)
    | rest => (false, rest)
  match body with
  | '0' :: rest => numberFrom negative ['0'] rest
  | c :: _ =>
    if c.isDigit then
      let digits := body.takeWhile CodePoint.isDigit
      numberFrom negative digits (body.drop digits.length)
    else .error (.wrong .expectedValue t)
  | [] => .error (.wrong .expectedValue t)

/-- The words that stand for a value. -/
def words : List (Text × Value) := [
  ("null", .null), ("true", .bool true), ("false", .bool false), ("NaN", .float .nan),
  ("Infinity", .float (.infinite false)), ("-Infinity", .float (.infinite true))]

def word? (t : Text) : Option (Value × Text) :=
  words.findSome? fun (word, value) => (Text.dropBeginning? word t).map fun rest => (value, rest)

/-! ## Values -/

/-- The most levels of objects and arrays. -/
def maxReadLevel : Nat := 980

mutual

/-- The value at the start of a text, inside as many objects and arrays as `level` says. -/
def value : (fuel : Nat) → (level : Nat) → Text → Except Stop (Value × Text)
  | 0, _, t => .error (.wrong .expectedValue t)
  | _, _, [] => .error (.wrong .expectedValue [])
  | fuel + 1, level, c :: rest =>
    if c == '"' then (string (c :: rest)).map fun (s, rest) => (.text s, rest)
    else if c == '{' || c == '[' then
      if maxReadLevel ≤ level then .error .tooDeep
      else match c, skipBlanks rest with
        | '{', '}' :: rest => .ok (.mapping [], rest)
        | '{', rest => members fuel (level + 1) [] rest
        | _, ']' :: rest => .ok (.list [], rest)
        | _, rest => items fuel (level + 1) [] rest
    else match word? (c :: rest) with
      | some found => .ok found
      | none => number (c :: rest)

/-- The members of an object from a name on, after the pairs already read. -/
def members : (fuel : Nat) → (level : Nat) → List (Value × Value) → Text →
    Except Stop (Value × Text)
  | fuel + 1, level, pairs, '"' :: rest =>
    match string ('"' :: rest) with
    | .error stop => .error stop
    | .ok (name, rest) =>
      match skipBlanks rest with
      | ':' :: rest =>
        match value fuel level (skipBlanks rest) with
        | .error stop => .error stop
        | .ok (member, rest) =>
          let pairs := Value.insert (.text name) member pairs
          match skipBlanks rest with
          | '}' :: rest => .ok (.mapping pairs, rest)
          | ',' :: rest => members fuel level pairs (skipBlanks rest)
          | rest => .error (.wrong .expectedComma rest)
      | rest => .error (.wrong .expectedColon rest)
  | _, _, _, t => .error (.wrong .expectedName t)

/-- The items of an array from a value on, after the items already read, reversed. -/
def items : (fuel : Nat) → (level : Nat) → List Value → Text → Except Stop (Value × Text)
  | 0, _, _, t => .error (.wrong .expectedValue t)
  | fuel + 1, level, read, t =>
    match value fuel level t with
    | .error stop => .error stop
    | .ok (item, rest) =>
      match skipBlanks rest with
      | ']' :: rest => .ok (.list (item :: read).reverse, rest)
      | ',' :: rest => items fuel level (item :: read) (skipBlanks rest)
      | rest => .error (.wrong .expectedComma rest)

end

/-- The value of a whole text, up to the place where reading stops. -/
def document (t : Text) : Except Stop Value :=
  match t with
  | '\ufeff' :: _ => .error (.wrong .byteOrderMark t)
  | _ =>
    match value (2 * t.length + 2) 0 (skipBlanks t) with
    | .error stop => .error stop
    | .ok (result, rest) =>
      match skipBlanks rest with
      | [] => .ok result
      | rest => .error (.wrong .extraData rest)

inductive ReadFault where
  | text (fault : Fault)
  | value (fault : Value.Fault)
  | tooDeep

def read (t : Text) : Except ReadFault Value :=
  match document t with
  | .ok result => .ok result
  | .error (.wrong cause rest) => .error (.text (Fault.locate t cause rest))
  | .error (.value fault) => .error (.value fault)
  | .error .tooDeep => .error .tooDeep

end DocEnum.Json
