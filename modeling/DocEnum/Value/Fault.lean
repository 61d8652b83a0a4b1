import DocEnum.Value.Shown

/-!
# Faults of values

Some values are written correctly and still have no meaning: integers with more digits than are
read or written, and days or times that do not exist.
-/

namespace DocEnum.Value

/-- Why a written value has no meaning. -/
inductive Fault where
  /-- More digits than an integer is read with. -/
  | tooManyDigits (count : Nat)
  /-- More digits than an integer is written with. -/
  | tooLong
  | year (year : Nat)
  | month
  | day
  | hour
  | minute
  | second
  | offset (seconds : Int)
  /-- A text that is no integer in the given base. -/
  | notInteger (base : Nat) (t : Text)
  | notFloat (t : Text)
  /-- An escaped code above the last code point. -/
  | codePoint
deriving DecidableEq, Repr

namespace Fault

/-- The most characters of a text that a message about an integer quotes. -/
def maxQuoted : Nat := 200

def message : Fault → Text
  | tooManyDigits count =>
    "Exceeds the limit (" ++ Text.ofNat maxDigits ++
      " digits) for integer string conversion: value has " ++ Text.ofNat count ++
      " digits; use sys.set_int_max_str_digits() to increase the limit"
  | tooLong =>
    "Exceeds the limit (" ++ Text.ofNat maxDigits ++
      " digits) for integer string conversion; use sys.set_int_max_str_digits() to increase " ++
      "the limit"
  | year y => "year " ++ Text.ofNat y ++ " is out of range"
  | month => "month must be in 1..12"
  | day => "day is out of range for month"
  | hour => "hour must be in 0..23"
  | minute => "minute must be in 0..59"
  | second => "second must be in 0..59"
  | offset seconds =>
    "offset must be a timedelta strictly between -timedelta(hours=24) and " ++
      "timedelta(hours=24), not datetime." ++ Clock.shownSpan seconds ++ "."
  | notInteger base t =>
    "invalid literal for int() with base " ++ Text.ofNat base ++ ": " ++
      (Text.quoted t).take maxQuoted
  | notFloat t => "could not convert string to float: " ++ Text.quoted t
  | codePoint => "chr() arg not in range(0x110000)"

end Fault

/-- An integer from its decimal digits, which must not be too many. -/
def ofDigits (negative : Bool) (digits : Text) : Except Fault Value :=
  if maxDigits < digits.length then .error (.tooManyDigits digits.length)
  else
    let magnitude : Int := Text.toNat digits
    .ok (.int (if negative then -magnitude else magnitude))

end DocEnum.Value
