import DocEnum.Text.Blank
import DocEnum.Text.Digit
import DocEnum.Value.Fault

/-!
# Numerals

A numeral is a text that names a number, with blanks allowed on both sides. Its digits may be those
of any script; `ascii` writes them, and the blanks, in ASCII first.

**Integers** have a sign, maybe the marker of their base, and digits. **Floating-point numbers**
have a sign and digits with a point and an exponent, or are a word for infinity or for no number.
-/

namespace DocEnum.Numeral

/-- The text with blanks and digits beyond ASCII written in ASCII, up to the first character that is
neither. -/
def asciiFrom : Text → Text
  | [] => []
  | c :: rest =>
    if c.toNat < 127 then c :: asciiFrom rest
    else if Text.isBlank c then ' ' :: asciiFrom rest
    else match Text.decimalDigit? c with
      | some digit => CodePoint.ofNat ('0'.toNat + digit) :: asciiFrom rest
      | none => ['?']

/-- The ASCII form of a text, which one in ASCII is already. -/
def ascii (t : Text) : Text :=
  if t.all fun c => c.toNat < 128 then t else asciiFrom t

def isSpace (c : CodePoint) : Bool :=
  c == ' ' || (9 ≤ c.toNat && c.toNat ≤ 13)

/-- A text without a sign, and whether the sign was a minus. -/
def splitSign : Text → Bool × Text
  | '-' :: rest => (true, rest)
  | '+' :: rest => (false, rest)
  | t => (false, t)

/-! ## Integers -/

/-- The value of a digit in a base up to sixteen. -/
def digit? (base : Nat) (c : CodePoint) : Option Nat :=
  (Text.hexDigit? c).filter (· < base)

/-- Whether a letter after a zero marks a base. -/
def isMarker (base : Nat) (c : CodePoint) : Bool :=
  (base == 16 && c.toLower == 'x') || (base == 8 && c.toLower == 'o') ||
    (base == 2 && c.toLower == 'b')

/-- Without the marker of a base. -/
def dropMarker (base : Nat) : Text → Text
  | '0' :: c :: rest => if isMarker base c then rest else '0' :: c :: rest
  | t => t

/-- The number that digits of a base stand for. -/
def ofDigits (base : Nat) (digits : Text) : Nat :=
  digits.foldl (fun n c => n * base + (digit? base c).getD 0) 0

/-- The integer that a text names in a base; of decimal digits there can be too many. -/
def integer (base : Nat) (t : Text) : Except Value.Fault Int :=
  let (negative, body) := splitSign ((ascii t).dropWhile isSpace)
  let body := dropMarker base body
  let digits := body.takeWhile fun c => (digit? base c).isSome
  let rest := body.drop digits.length
  if base = 10 && Value.maxDigits < digits.length then .error (.tooManyDigits digits.length)
  else if digits.isEmpty || !rest.all isSpace then .error (.notInteger base t)
  else
    let magnitude : Int := ofDigits base digits
    .ok (if negative then -magnitude else magnitude)

/-! ## Floating-point numbers -/

/-- The digits and the power of ten of a decimal number without a sign. -/
def decimal? (t : Text) : Option (Nat × Int) := do
  let whole := t.takeWhile CodePoint.isDigit
  let rest := t.drop whole.length
  let (fraction, rest) := match rest with
    | '.' :: rest =>
      let digits := rest.takeWhile CodePoint.isDigit
      (digits, rest.drop digits.length)
    | rest => ([], rest)
  let power : Int ← match rest with
    | [] => some 0
    | e :: rest =>
      let (negative, digits) := splitSign rest
      if e.toLower != 'e' || digits.isEmpty || !digits.all CodePoint.isDigit then none
      else some (if negative then -(Text.toNat digits : Int) else Text.toNat digits)
  if whole.isEmpty && fraction.isEmpty then none
  else some (Text.toNat (whole ++ fraction), power - fraction.length)

def infinityWords : List Text := ["inf", "infinity"]

/-- The floating-point number that a text names. -/
def binary64 (t : Text) : Except Value.Fault Binary64 :=
  let (negative, body) := splitSign (Text.trimEnd isSpace ((ascii t).dropWhile isSpace))
  if infinityWords.contains (Text.lowerAscii body) then .ok (.infinite negative)
  else if Text.lowerAscii body = ("nan" : Text) then .ok .nan
  else match decimal? body with
    | some (digits, power) => .ok (.ofDecimal negative digits power)
    | none => .error (.notFloat t)

end DocEnum.Numeral
