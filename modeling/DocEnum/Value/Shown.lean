import DocEnum.Text.Quoted
import DocEnum.Value.Basic

/-!
# The text of a value

**Shown.** `shown?` writes a value as it appears inside a message, with quotes around texts.

**Plain.** `plain?` writes a value as it appears on its own: a text without quotes, a date as its
digits, and everything else as it is shown.

**Limit.** A value that holds an integer of more than `maxDigits` digits has no text.
-/

namespace DocEnum

/-! ## Dates and times -/

namespace Day

/-- Year, month and day with hyphens. -/
def plain (d : Day) : Text :=
  Text.padded 4 d.year ++ "-" ++ Text.padded 2 d.month ++ "-" ++ Text.padded 2 d.day

def numbers (d : Day) : List Text :=
  [Text.ofNat d.year, Text.ofNat d.month, Text.ofNat d.day]

end Day

namespace Clock

/-- An offset as hours and minutes with a sign, and seconds if there are any. -/
def plainOffset (offset : Int) : Text :=
  let seconds := offset.natAbs
  (if offset < 0 then "-" else "+" : Text) ++ Text.padded 2 (seconds / 3600) ++ ":" ++
    Text.padded 2 (seconds / 60 % 60) ++
    (if seconds % 60 = 0 then [] else (":" : Text) ++ Text.padded 2 (seconds % 60))

/-- Hours, minutes and seconds with colons, the fraction if there is one, and the offset. -/
def plain (c : Clock) : Text :=
  Text.padded 2 c.hour ++ ":" ++ Text.padded 2 c.minute ++ ":" ++ Text.padded 2 c.second ++
    (if c.microsecond = 0 then [] else ("." : Text) ++ Text.padded 6 c.microsecond) ++
    (match c.offset with
      | none => []
      | some offset => plainOffset offset)

/-- A span of time as whole days, counted down, and seconds of the day. -/
def shownSpan (span : Int) : Text :=
  let days := span / 86400
  let seconds := span % 86400
  let parts := (if days = 0 then [] else [("days=" : Text) ++ Text.ofInt days]) ++
    (if seconds = 0 then [] else [("seconds=" : Text) ++ Text.ofInt seconds])
  "timedelta(" ++ (if parts.isEmpty then ("0" : Text) else Text.joinWith ", " parts) ++ ")"

/-- An offset from universal time. -/
def shownOffset (offset : Int) : Text :=
  if offset = 0 then "datetime.timezone.utc"
  else "datetime.timezone(datetime." ++ shownSpan offset ++ ")"

/-- The numbers of a time: hour and minute always, the others up to the last that is not zero. -/
def numbers (c : Clock) : List Text :=
  [Text.ofNat c.hour, Text.ofNat c.minute] ++
    (if c.second = 0 ∧ c.microsecond = 0 then [] else [Text.ofNat c.second]) ++
    (if c.microsecond = 0 then [] else [Text.ofNat c.microsecond]) ++
    (match c.offset with
      | none => []
      | some offset => [("tzinfo=" : Text) ++ shownOffset offset])

end Clock

/-! ## Bytes -/

def shownByte (quote : CodePoint) (b : UInt8) : Text :=
  let c := CodePoint.ofNat b.toNat
  if c == quote || c == '\\' then ['\\', c]
  else if c == '\t' then "\\t"
  else if c == '\n' then "\\n"
  else if c == '\r' then "\\r"
  else if 32 ≤ b && b < 127 then [c]
  else "\\x" ++ Text.hex 2 b.toNat

def shownBytes (bs : List UInt8) : Text :=
  let quote := Text.quoteFor (bs.map fun b => CodePoint.ofNat b.toNat)
  'b' :: quote :: (bs.flatMap (shownByte quote) ++ [quote])

/-! ## Values -/

namespace Value

/-- The most digits that an integer is read or written with. -/
def maxDigits : Nat := 4300

/-- The digits of an integer, unless there are too many. -/
def digits? (n : Int) : Option Text :=
  if Nat.pow 10 maxDigits ≤ n.natAbs then none else some (Text.ofInt n)

mutual

/-- A value inside a message, unless it holds an integer that is too long. -/
def shown? : Value → Option Text
  | null => some "None"
  | bool true => some "True"
  | bool false => some "False"
  | int n => digits? n
  | float x => some x.text
  | text t => some (Text.quoted t)
  | bytes bs => some (shownBytes bs)
  | date d => some ("datetime.date(" ++ Text.joinWith ", " d.numbers ++ ")")
  | moment d c =>
    some ("datetime.datetime(" ++ Text.joinWith ", " (d.numbers ++ c.numbers) ++ ")")
  | list items => (shownItems? items).map fun items => "[" ++ Text.joinWith ", " items ++ "]"
  | tuple [item] => (shown? item).map fun item => "(" ++ item ++ ",)"
  | tuple items => (shownItems? items).map fun items => "(" ++ Text.joinWith ", " items ++ ")"
  | set [] => some "set()"
  | set items =>
    (shownItems? items).map fun items => "\x7b" ++ Text.joinWith ", " items ++ "\x7d"
  | mapping pairs =>
    (shownPairs? pairs).map fun pairs => "\x7b" ++ Text.joinWith ", " pairs ++ "\x7d"
  | sameList => some "[...]"
  | sameMapping => some "\x7b...\x7d"

def shownItems? : List Value → Option (List Text)
  | [] => some []
  | item :: rest => do
    let item ← shown? item
    let rest ← shownItems? rest
    return item :: rest

def shownPairs? : List (Value × Value) → Option (List Text)
  | [] => some []
  | (key, value) :: rest => do
    let key ← shown? key
    let value ← shown? value
    let rest ← shownPairs? rest
    return (key ++ ": " ++ value) :: rest

end

/-- A value on its own, unless it holds an integer that is too long. -/
def plain? : Value → Option Text
  | text t => some t
  | date d => some d.plain
  | moment d c => some (d.plain ++ " " ++ c.plain)
  | value => value.shown?

end Value

end DocEnum
