import DocEnum.Number.Binary64

/-!
# Values

What a manifest holds: the values of its data formats. A mapping keeps its pairs in the order in
which their keys first came, and a later pair with the same key replaces the earlier value.

**Truth.** Null, false, zero and whatever is empty count as false, everything else as true.

**Keys.** Numbers that are equal are the same key, and a truth value is the number it stands for.
Times with offsets are the same key if they are the same instant.
-/

namespace DocEnum

structure Day where
  year : Nat
  month : Nat
  day : Nat
deriving DecidableEq, Repr

namespace Day

def monthLength (year month : Nat) : Nat :=
  if month = 2 then
    if year % 4 = 0 && (year % 100 != 0 || year % 400 = 0) then 29 else 28
  else if month = 4 || month = 6 || month = 9 || month = 11 then 30
  else 31

/-- The number of a day, counted from the beginning of the calendar. -/
def number (d : Day) : Nat :=
  let past := d.year - 1
  let months := (List.range (d.month - 1)).map fun k => monthLength d.year (k + 1)
  past * 365 + past / 4 - past / 100 + past / 400 + months.foldl (· + ·) d.day

end Day

/-- A time of day; the offset from universal time, if any, is in seconds. -/
structure Clock where
  hour : Nat
  minute : Nat
  second : Nat
  microsecond : Nat
  offset : Option Int
deriving DecidableEq, Repr

/-- The universal time of a day and a time, in microseconds; nothing without an offset. -/
def Clock.instant? (d : Day) (c : Clock) : Option Int :=
  c.offset.map fun offset =>
    let seconds : Int := ((d.number * 24 + c.hour) * 60 + c.minute) * 60 + c.second
    (seconds - offset) * 1000000 + c.microsecond

/-- A value of a data format. -/
inductive Value where
  | null
  | bool (b : Bool)
  | int (n : Int)
  | float (x : Binary64)
  | text (t : Text)
  | bytes (bs : List UInt8)
  | date (day : Day)
  | moment (day : Day) (clock : Clock)
  | list (items : List Value)
  | tuple (items : List Value)
  | set (items : List Value)
  | mapping (pairs : List (Value × Value))
  /-- A list that contains itself, seen from inside. -/
  | sameList
  /-- A mapping that contains itself, seen from inside. -/
  | sameMapping

namespace Value

/-! ## Truth -/

/-- Whether a value counts as true. -/
def isTrue : Value → Bool
  | null => false
  | bool b => b
  | int n => n != 0
  | float x => !x.isZero
  | text t => !t.isEmpty
  | bytes bs => !bs.isEmpty
  | list items | tuple items | set items => !items.isEmpty
  | mapping pairs => !pairs.isEmpty
  | date _ | moment .. | sameList | sameMapping => true

/-! ## Keys -/

/-- The integer that a number or truth value is equal to. -/
def integer? : Value → Option Int
  | bool b => some (if b then 1 else 0)
  | int n => some n
  | float x => x.toInt?
  | _ => none

/-- Whether two values are the same key of a mapping. -/
def sameKey (a b : Value) : Bool :=
  match a, b with
  | null, null => true
  | text s, text t => s == t
  | bytes s, bytes t => s == t
  | date d, date e => d == e
  | moment d c, moment e f =>
    match c.instant? d, f.instant? e with
    | some s, some t => s == t
    | none, none => d == e && c == f
    | _, _ => false
  | float x, float y => x == y && x != .nan || x.isZero && y.isZero
  | _, _ =>
    match a.integer?, b.integer? with
    | some m, some n => m == n
    | _, _ => false

def lookup? (key : Value) : List (Value × Value) → Option Value
  | [] => none
  | (k, v) :: rest => if k.sameKey key then some v else lookup? key rest

/-- Pairs with a key set to a value; a known key keeps its place. -/
def insert (key value : Value) : List (Value × Value) → List (Value × Value)
  | [] => [(key, value)]
  | (k, v) :: rest =>
    if k.sameKey key then (k, value) :: rest else (k, v) :: insert key value rest

def ofPairs (pairs : List (Value × Value)) : Value :=
  mapping (pairs.foldl (fun pairs (key, value) => insert key value pairs) [])

end Value

end DocEnum
