import DocEnum.Value.Basic

/-!
# The order of a set

The members of a set are listed in the order of a table. The number of slots is a power of two,
and every member has a number that says where its search for a free slot begins.

**Search.** A search looks at a slot and, if the table reaches far enough, at the nine slots after
it. If none of them is free, it goes on at the slot that five times the last one and some more bits
of the number lead to.

**Fallback.** Only numbers, truth values and what is empty have a number that is the same in every
run. A set with any other member keeps the order in which its members came.
-/

namespace DocEnum.Value

/-! ## Numbers of members -/

/-- What the numbers of members are computed modulo: two to the power 61, less one. -/
def placeModulus : Nat := 2305843009213693951

/-- A number with the sign given; minus one counts as minus two. -/
def signedPlace (negative : Bool) (n : Nat) : Int :=
  if !negative then n else if n = 1 then -2 else -(n : Int)

/-- The number of a floating-point number; numbers that are equal agree. Two has the order 61. -/
def floatPlace? : Binary64 → Option Int
  | .nan => none
  | .infinite negative => some (signedPlace negative 314159)
  | .finite negative mantissa exponent =>
    some (signedPlace negative (mantissa * Nat.pow 2 (exponent % 61).toNat % placeModulus))

/-- The number of a member, if it is the same in every run. -/
def place? : Value → Option Int
  | bool b => some (if b then 1 else 0)
  | int n => some (signedPlace (decide (n < 0)) (n.natAbs % placeModulus))
  | float x => floatPlace? x
  | text [] | bytes [] => some 0
  | _ => none

/-! ## The table -/

/-- The least power of two that is above a bound, from a power of two on. -/
def powerAbove (bound : Nat) : (fuel : Nat) → (power : Nat) → Nat
  | 0, power => power
  | fuel + 1, power => if bound < power then power else powerAbove bound fuel (2 * power)

/-- The number of slots for so many members. -/
def tableSize (count : Nat) : Nat :=
  if count < 5 then 8 else powerAbove (2 * count) (2 * count) 8

/-- The first free slot of a run of slots. -/
def freeSlot? (table : Array (Option Value)) (slot count : Nat) : Option Nat :=
  ((List.range count).map (slot + ·)).find? fun slot => (table.getD slot none).isNone

/-- The free slot that a search from a slot comes to, with the bits of the number left. -/
def search (table : Array (Option Value)) : (fuel : Nat) → (slot bits : Nat) → Nat
  | 0, slot, _ => slot
  | fuel + 1, slot, bits =>
    match freeSlot? table slot (if slot + 9 < table.size then 10 else 1) with
    | some free => free
    | none =>
      let bits := bits / 32
      search table fuel ((slot * 5 + 1 + bits) % table.size) bits

/-- The table with one more member. -/
def place (table : Array (Option Value)) (number : Int) (member : Value) :
    Array (Option Value) :=
  let bits := (number % 18446744073709551616).toNat
  let slot := search table (table.size + 16) (bits % table.size) bits
  table.setIfInBounds slot (some member)

/-- The members of a set in the order in which they are listed. -/
def setOrder (members : List Value) : List Value :=
  match members.mapM fun member => member.place?.map (·, member) with
  | none => members
  | some numbered =>
    let table : Array (Option Value) := Array.replicate (tableSize members.length) none
    let table := numbered.foldl (fun table (number, member) => place table number member) table
    table.toList.filterMap id

end DocEnum.Value
