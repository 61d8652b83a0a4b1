import DocEnum.Text.Lower
import DocEnum.Value.Numeral
import DocEnum.Yaml.Fault

/-!
# Plain scalars

**Resolution.** A plain scalar is a truth value, a number, null, a date or a time if it is written
like one, and a text otherwise. Numbers may hold underscores; integers may be binary, octal
(with a leading zero) or hexadecimal; and a number may be written in base sixty with colons.

**Values.** What a scalar of each kind stands for. A date that does not exist, or a number that a
tag promises and the text is not, is a fault.
-/

namespace DocEnum.Yaml

/-- What a value is said to be. -/
inductive Tag where
  | null
  | bool
  | int
  | float
  | binary
  | timestamp
  | merge
  | value
  | text
  | sequence
  | mapping
  | orderedMapping
  | pairs
  | set
  | unknown
deriving DecidableEq, Repr

/-- The tags of the language by the end of their full names. -/
def Tag.names : List (Text × Tag) := [
  ("null", .null), ("bool", .bool), ("int", .int), ("float", .float), ("binary", .binary),
  ("timestamp", .timestamp), ("merge", .merge), ("value", .value), ("str", .text),
  ("seq", .sequence), ("map", .mapping), ("omap", .orderedMapping), ("pairs", .pairs),
  ("set", .set)]

def Tag.ofName (name : Text) : Tag :=
  ((Text.dropBeginning? "tag:yaml.org,2002:" name).bind fun name => names.lookup name).getD .unknown

namespace Plain

open Numeral (splitSign)

/-! ## Forms -/

/-- A decimal digit or an underscore. -/
def isDigit (c : CodePoint) : Bool :=
  c.isDigit || c == '_'

/-- The text after the digits of a number, of which there must be one at the start. -/
def afterDigits? : Text → Option Text
  | [] => none
  | c :: rest => if c.isDigit then some (rest.dropWhile isDigit) else none

/-- Whether a text is empty or a signed decimal exponent. -/
def isExponent : Text → Bool
  | [] => true
  | e :: sign :: digits =>
    (e == 'e' || e == 'E') && (sign == '-' || sign == '+') && !digits.isEmpty &&
      digits.all CodePoint.isDigit
  | _ => false

/-- The text after places in base sixty, each a colon and a number below sixty. -/
def afterSixties : (fuel : Nat) → Text → Text
  | 0, t => t
  | fuel + 1, t =>
    match t with
    | ':' :: a :: rest =>
      match rest with
      | b :: rest' =>
        if '0' ≤ a && a ≤ '5' && b.isDigit then afterSixties fuel rest'
        else if a.isDigit then afterSixties fuel rest
        else t
      | [] => if a.isDigit then [] else t
    | _ => t

def isFloat (t : Text) : Bool :=
  let body := (splitSign t).2
  let decimal := match afterDigits? body with
    | some ('.' :: rest) => isExponent (rest.dropWhile isDigit)
    | some rest =>
      let after := afterSixties rest.length rest
      after.length < rest.length && after.head? == some (.char '.') && after.tail.all isDigit
    | none => false
  let pointed := match t with
    | '.' :: rest =>
      match afterDigits? rest with
      | some rest => isExponent rest
      | none => rest = ("nan" : Text) || rest = ("NaN" : Text) || rest = ("NAN" : Text)
    | _ => false
  let infinite := body = (".inf" : Text) || body = (".Inf" : Text) || body = (".INF" : Text)
  decimal || pointed || infinite

/-- Whether a text is a non-empty run of characters that pass a test. -/
def isRun (p : CodePoint → Bool) (t : Text) : Bool :=
  !t.isEmpty && t.all p

def isDigitOf (base : Nat) (c : CodePoint) : Bool :=
  (Numeral.digit? base c).isSome || c == '_'

def isInt (t : Text) : Bool :=
  let body := (splitSign t).2
  match body with
  | '0' :: rest =>
    rest.isEmpty || isRun (isDigitOf 8) rest ||
      (match rest with
        | 'b' :: digits => isRun (isDigitOf 2) digits
        | 'x' :: digits => isRun (isDigitOf 16) digits
        | _ => false)
  | _ =>
    match afterDigits? body with
    | some rest => rest.isEmpty || (afterSixties rest.length rest).isEmpty
    | none => false

def boolWords : List (Text × Bool) := [
  ("yes", true), ("no", false), ("true", true), ("false", false), ("on", true), ("off", false)]

/-- Whether a word is written in small letters, with a capital, or in capitals. -/
def isCased (t : Text) : Bool :=
  match t with
  | [] => true
  | c :: rest =>
    let lower := rest.all fun c => !c.isUpper
    let upper := (c :: rest).all fun c => !c.isLower
    lower || upper

/-- The truth value of a word in any case. -/
def bool? (t : Text) : Option Bool :=
  boolWords.lookup (Text.lowerAscii t)

def isNull (t : Text) : Bool :=
  t.isEmpty || t = ("~" : Text) || (isCased t && Text.lowerAscii t = ("null" : Text))

/-! ## Dates and times -/

/-- The number of some digits at the start of a text, as many as there are up to `most`, which must
be `least` at least. -/
def digits? (least most : Nat) (t : Text) : Option (Nat × Text) :=
  let digits := (t.take most).takeWhile CodePoint.isDigit
  if digits.length < least then none else some (Text.toNat digits, t.drop digits.length)

def after? (c : CodePoint) : Text → Option Text
  | d :: rest => if c = d then some rest else none
  | [] => none

def microseconds (digits : Text) : Nat :=
  let digits := digits.take 6
  Text.toNat digits * Nat.pow 10 (6 - digits.length)

/-- The offset at the end of a time, if the text ends with one or with nothing. -/
def offset? (t : Text) : Option (Option Int) :=
  match t.dropWhile fun (c : CodePoint) => c == ' ' || c == '\t' with
  | [] => if t.isEmpty then some none else none
  | ['Z'] => some (some 0)
  | sign :: rest =>
    if sign != '-' && sign != '+' then none
    else do
      let (hours, rest) ← digits? 1 2 rest
      let minutes ← match rest with
        | [] => some 0
        | ':' :: rest => do
          let (minutes, rest) ← digits? 2 2 rest
          if rest.isEmpty then some minutes else none
        | _ => none
      let seconds : Int := hours * 3600 + minutes * 60
      return some (if sign == '-' then -seconds else seconds)

def clock? (t : Text) : Option Clock := do
  let rest ← match t with
    | c :: rest =>
      if c == 'T' || c == 't' then some rest
      else if c == ' ' || c == '\t' then
        some (rest.dropWhile fun (c : CodePoint) => c == ' ' || c == '\t')
      else none
    | [] => none
  let (hour, rest) ← digits? 1 2 rest
  let (minute, rest) ← digits? 2 2 (← after? ':' rest)
  let (second, rest) ← digits? 2 2 (← after? ':' rest)
  let (fraction, rest) := match rest with
    | '.' :: rest =>
      let digits := rest.takeWhile CodePoint.isDigit
      (microseconds digits, rest.drop digits.length)
    | rest => (0, rest)
  let offset ← offset? rest
  return ⟨hour, minute, second, fraction, offset⟩

/-- The date at the start of a text, with at least so many digits for month and day. -/
def day? (least : Nat) (t : Text) : Option (Day × Text) := do
  let (year, rest) ← digits? 4 4 t
  let (month, rest) ← digits? least 2 (← after? '-' rest)
  let (day, rest) ← digits? least 2 (← after? '-' rest)
  return (⟨year, month, day⟩, rest)

/-- The text without one line feed at its end, which counts in no form. -/
def withoutFinalBreak (t : Text) : Text :=
  if t.getLast? = some (.char '\n') then t.dropLast else t

/-- The date, maybe with a time, that a text is written as. -/
def timestamp? (t : Text) : Option (Day × Option Clock) :=
  match day? 1 (withoutFinalBreak t) with
  | none => none
  | some (day, []) => some (day, none)
  | some (day, rest) => (clock? rest).map fun clock => (day, some clock)

/-- Whether a plain scalar is a date or a time; a date alone has all its digits. -/
def isTimestamp (t : Text) : Bool :=
  match timestamp? t with
  | none => false
  | some (_, some _) => true
  | some (_, none) => t.length == 10

/-! ## Resolution -/

def formTag (t : Text) : Tag :=
  if isCased t && (bool? t).isSome then .bool
  else if isFloat t then .float
  else if isInt t then .int
  else if t = ("<<" : Text) then .merge
  else if isNull t then .null
  else if isTimestamp t then .timestamp
  else if t = ("=" : Text) then .value
  else .text

/-- What a plain scalar is. A line feed alone is a text. -/
def tag (t : Text) : Tag :=
  if t = ("\n" : Text) then .text else formTag (withoutFinalBreak t)

/-! ## Values -/

/-- A number without its underscores. -/
def compact (t : Text) : Text :=
  t.filter (· != .char '_')

/-- The places of a number in base sixty. -/
def places (t : Text) : List Text :=
  Text.splitOn (· == .char ':') t

/-- The integer that a scalar without a sign stands for. -/
def magnitude (body : Text) : Except Fault Int :=
  let integer (base : Nat) (t : Text) : Except Fault Int :=
    (Numeral.integer base t).mapError .value
  match body with
  | [] => .error .emptyNumber
  | ['0'] => .ok 0
  | '0' :: 'b' :: digits => integer 2 digits
  | '0' :: 'x' :: digits => integer 16 digits
  | '0' :: _ => integer 8 body
  | _ =>
    if body.contains (.char ':') then
      ((places body).mapM (integer 10)).map fun numbers => numbers.foldl (· * 60 + ·) 0
    else integer 10 body

/-- The integer that a scalar stands for. -/
def intOf (t : Text) : Except Fault Value :=
  let (negative, body) := splitSign (compact t)
  (magnitude body).map fun n => .int (if negative then -n else n)

/-- A sum to which places in base sixty are added, from a place of the given weight on. -/
def addPlaces (weight : Nat) (sum : Binary64) : List Binary64 → Except Fault Binary64
  | [] => .ok sum
  | place :: rest =>
    match Binary64.ofNat weight with
    | .infinite _ => .error .overflow
    | unit => addPlaces (weight * 60) (sum.add (place.mul unit)) rest

/-- A number in small letters without its underscores, and apart from its sign. -/
def signed (t : Text) : Bool × Text :=
  splitSign (Text.lower (compact t))

def isNoNumber (t : Text) : Bool :=
  (signed t).2 = (".nan" : Text)

/-- The floating-point number that a scalar stands for. -/
def floatOf (t : Text) : Except Fault Value := do
  if (compact t).isEmpty then throw .emptyNumber
  let number (t : Text) : Except Fault Binary64 := (Numeral.binary64 t).mapError .value
  let (negative, body) := signed t
  let x ←
    if body = (".inf" : Text) then pure (.infinite false)
    else if isNoNumber t then pure .nan
    else if body.contains (.char ':') then
      let numbers ← (places body).mapM number
      addPlaces 1 (.finite false 0 0) numbers.reverse
    else number body
  return .float (if negative then x.negate else x)

def dayFault? (day : Day) : Option Value.Fault :=
  if day.year = 0 then some (.year 0)
  else if day.month = 0 || 12 < day.month then some .month
  else if day.day = 0 || Day.monthLength day.year day.month < day.day then some .day
  else none

def clockFault? (clock : Clock) : Option Value.Fault :=
  if 23 < clock.hour then some .hour
  else if 59 < clock.minute then some .minute
  else if 59 < clock.second then some .second
  else none

def offsetFault? (clock : Clock) : Option Value.Fault :=
  clock.offset.bind fun offset => if 86400 ≤ offset.natAbs then some (.offset offset) else none

def timestampOf : Day × Option Clock → Except Value.Fault Value
  | (day, none) =>
    match dayFault? day with
    | some fault => .error fault
    | none => .ok (.date day)
  | (day, some clock) =>
    match offsetFault? clock <|> dayFault? day <|> clockFault? clock with
    | some fault => .error fault
    | none => .ok (.moment day clock)

end Plain

end DocEnum.Yaml
