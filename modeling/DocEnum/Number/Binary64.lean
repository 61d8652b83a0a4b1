import DocEnum.Text.Basic

/-!
# Binary floating point

A number of the format with 53 significant bits, as a natural number times a power of two.

**Reading.** `ofRatio` rounds a positive fraction to the nearest number, ties to the even one, and
to infinity beyond the largest; `ofDecimal` does so for digits with a decimal exponent.

**Arithmetic.** `add` and `mul` give the number nearest to the exact result.

**Writing.** `shortest` finds the fewest decimal digits that read back as the same number. For
each count of digits it looks at the two decimals next to the number; the first count with a hit
wins, and of two hits the nearer one. `text` writes them in positional notation when the point
stands within reach of the digits, else with an exponent of at least two digits.
-/

namespace DocEnum

inductive Binary64 where
  | nan
  | infinite (negative : Bool)
  /-- A mantissa times a power of two. -/
  | finite (negative : Bool) (mantissa : Nat) (exponent : Int)
deriving DecidableEq, Repr

namespace Binary64

/-! ## Reading -/

/-- The fraction `num / den` divided by a power of the base. -/
def scaled (base num den : Nat) (power : Int) : Nat × Nat :=
  if 0 ≤ power then (num, den * base.pow power.toNat) else (num * base.pow (-power).toNat, den)

/-- `num / den` divided by a power of two, rounded to the nearest natural number, ties to even. -/
def roundScaled (num den : Nat) (exponent : Int) : Nat :=
  let (num, den) := scaled 2 num den exponent
  let quotient := num / den
  let twice := 2 * (num % den)
  if twice < den || (twice == den && quotient % 2 == 0) then quotient else quotient + 1

/-- What every mantissa is below: two to the power 53. -/
def mantissaBound : Nat := 9007199254740992

/-- One exponent more if the mantissa would be too large. -/
def raised (num den : Nat) (exponent : Int) : Int :=
  if mantissaBound ≤ roundScaled num den exponent then exponent + 1 else exponent

/-- The number nearest to a fraction with a positive denominator. -/
def ofRatio (negative : Bool) (num den : Nat) : Binary64 :=
  if num = 0 then .finite negative 0 0
  else
    let guess : Int := (num.log2 : Int) - den.log2 - 53
    let exponent := max guess (-1074)
    let exponent := raised num den (raised num den exponent)
    let mantissa := roundScaled num den exponent
    if 971 < exponent then .infinite negative else .finite negative mantissa exponent

/-- The number nearest to `digits * 10 ^ exponent`. Exponents out of reach are not computed. -/
def ofDecimal (negative : Bool) (digits : Nat) (exponent : Int) : Binary64 :=
  let places : Int := (Nat.toDigits 10 digits).length + exponent
  if digits = 0 then .finite negative 0 0
  else if 400 < places then .infinite negative
  else if places < -400 then .finite negative 0 0
  else if 0 ≤ exponent then ofRatio negative (digits * Nat.pow 10 exponent.toNat) 1
  else ofRatio negative digits (Nat.pow 10 (-exponent).toNat)

def isZero : Binary64 → Bool
  | finite _ mantissa _ => mantissa == 0
  | _ => false

/-- Whether the number is negative, zero included. -/
def isNegative : Binary64 → Bool
  | nan => false
  | infinite negative => negative
  | finite negative _ _ => negative

/-- The integer a finite number is equal to, if it is one. -/
def toInt? : Binary64 → Option Int
  | finite negative mantissa exponent =>
    let magnitude? : Option Nat :=
      if 0 ≤ exponent then some (mantissa * Nat.pow 2 exponent.toNat)
      else
        let den := Nat.pow 2 (-exponent).toNat
        if mantissa % den = 0 then some (mantissa / den) else none
    magnitude?.map fun n => if negative then -(n : Int) else n
  | _ => none

/-! ## Arithmetic -/

/-- A positive finite number as a fraction. -/
def ratio (mantissa : Nat) (exponent : Int) : Nat × Nat :=
  if 0 ≤ exponent then (mantissa * Nat.pow 2 exponent.toNat, 1)
  else (mantissa, Nat.pow 2 (-exponent).toNat)

/-- The number nearest to a natural number times a power of two. -/
def ofScaled (negative : Bool) (mantissa : Nat) (exponent : Int) : Binary64 :=
  let (num, den) := ratio mantissa exponent
  ofRatio negative num den

/-- The number nearest to a natural number. -/
def ofNat (n : Nat) : Binary64 :=
  ofRatio false n 1

def negate : Binary64 → Binary64
  | nan => nan
  | infinite negative => .infinite !negative
  | finite negative mantissa exponent => .finite (!negative) mantissa exponent

/-- A finite number in units of a power of two that is not above its own. -/
def units (unit : Int) (negative : Bool) (mantissa : Nat) (exponent : Int) : Int :=
  let magnitude : Int := mantissa * Nat.pow 2 (exponent - unit).toNat
  if negative then -magnitude else magnitude

/-- The number nearest to a sum. A sum of zero is negative only if both numbers are. -/
def add : Binary64 → Binary64 → Binary64
  | nan, _ | _, nan => nan
  | infinite a, infinite b => if a = b then .infinite a else nan
  | infinite a, _ | _, infinite a => .infinite a
  | finite a m d, finite b n e =>
    let unit := min d e
    let sum := units unit a m d + units unit b n e
    if sum = 0 then .finite (a && b) 0 0 else ofScaled (decide (sum < 0)) sum.natAbs unit

/-- The number nearest to a product. -/
def mul : Binary64 → Binary64 → Binary64
  | nan, _ | _, nan => nan
  | infinite a, infinite b => .infinite (a != b)
  | infinite a, finite b n _ | finite b n _, infinite a =>
    if n = 0 then nan else .infinite (a != b)
  | finite a m d, finite b n e => ofScaled (a != b) (m * n) (d + e)

/-! ## Writing -/

/-- A positive decimal: its digits and the power of ten of the last one. -/
structure Decimal where
  digits : Nat
  exponent : Int
deriving DecidableEq, Repr

/-- The power of ten of the leading digit of a positive fraction. -/
def leadingPower (num den : Nat) : Int :=
  let digits (n : Nat) : Int := (Nat.toDigits 10 n).length
  let guess := digits num - digits den
  let atLeast : Bool :=
    if 0 ≤ guess then den * Nat.pow 10 guess.toNat ≤ num
    else den ≤ num * Nat.pow 10 (-guess).toNat
  if atLeast then guess else guess - 1

/-- The decimal with the power of ten given, on the side of the fraction that `up` says. -/
def neighbour (num den : Nat) (power : Int) (up : Bool) : Decimal :=
  let (num, den) := scaled 10 num den power
  ⟨num / den + (if up && num % den != 0 then 1 else 0), power⟩

/-- Whether the fraction lies in the lower half between its two neighbours, or in the middle above
an even one. -/
def prefersLower (num den : Nat) (power : Int) : Bool :=
  let (num, den) := scaled 10 num den power
  let twice := 2 * (num % den)
  twice < den || (twice == den && (num / den) % 2 == 0)

/-- The shortest decimal that reads back, with `count` digits or more up to 17. -/
def shortestFrom (mantissa : Nat) (exponent : Int) : (fuel : Nat) → (count : Nat) → Decimal
  | 0, count =>
    let (num, den) := ratio mantissa exponent
    neighbour num den (leadingPower num den - count + 1) false
  | fuel + 1, count =>
    let (num, den) := ratio mantissa exponent
    let power := leadingPower num den - count + 1
    let lower := neighbour num den power false
    let upper := neighbour num den power true
    let readsBack (d : Decimal) : Bool :=
      ofDecimal false d.digits d.exponent == .finite false mantissa exponent
    match readsBack lower, readsBack upper with
    -- Of two decimals that read back, the nearer one is written.
    | true, true => if prefersLower num den power then lower else upper
    | true, false => lower
    | false, true => upper
    | false, false => shortestFrom mantissa exponent fuel (count + 1)

/-- The shortest decimal that reads back as a positive finite number. -/
def shortest (mantissa : Nat) (exponent : Int) : Decimal :=
  shortestFrom mantissa exponent 17 1

/-- Significant digits, without zeros at the end, and the place of the point: how many of them
stand before it. -/
def Decimal.significant (d : Decimal) : Text × Int :=
  let digits := Text.ofNat d.digits
  (Text.trimEnd (· == .char '0') digits, digits.length + d.exponent)

/-- Digits with a point after the first one, if it is not the only one. -/
def pointed : Text → Text
  | d :: e :: rest => d :: '.' :: e :: rest
  | short => short

/-- Significant digits with the point in the given place. An exponent has a sign and two digits or
more; it starts at `1e-05` and `1e+16`. -/
def placed (digits : Text) (point : Int) : Text :=
  if point < -3 || 16 < point then
    let power := point - 1
    pointed digits ++ ("e" : Text) ++ (if power < 0 then "-" else "+" : Text) ++
      Text.padded 2 power.natAbs
  else if point ≤ 0 then
    ("0." : Text) ++ (List.replicate (-point).toNat '0' : Text) ++ digits
  else
    let whole := point.toNat
    let fraction := digits.drop whole
    digits.take whole ++ (List.replicate (whole - digits.length) '0' : Text) ++ ("." : Text) ++
      (if fraction.isEmpty then ("0" : Text) else fraction)

/-- The shortest text that reads back. -/
def text (x : Binary64) : Text :=
  let sign : Text := if x.isNegative then "-" else []
  match x with
  | nan => "nan"
  | infinite _ => sign ++ "inf"
  | finite _ 0 _ => sign ++ "0.0"
  | finite _ mantissa exponent =>
    let (digits, point) := (shortest mantissa exponent).significant
    sign ++ placed digits point

end Binary64

end DocEnum
