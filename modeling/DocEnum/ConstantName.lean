import Std.Data.HashSet
import DocEnum.Text.Basic

/-!
# Constant names

The name of an enum constant is made from a description: its words of ASCII letters and digits,
in upper case and joined by underscores. A description without such a word is named by its code,
and a name never starts with a digit.

**Distinct names.** `fresh` gives a name that is not used yet: the name itself, else the name with
the least number from 2 on that is free. One more candidate than there are used names is enough,
so the search is bounded by their number.
-/

namespace DocEnum.ConstantName

def isNameChar (c : CodePoint) : Bool :=
  c.isAlphanum

/-- The words of a description joined by underscores, or `C` with the code. -/
def base (description : Text) (code : Int) : Text :=
  match Text.fields (fun c => !isNameChar c) description with
  | [] => 'C' :: Text.ofInt code
  | words => Text.joinWith "_" words

/-- With `C_` in front unless the first character is a letter. -/
def letterFirst : Text → Text
  | [] => "C_"
  | c :: rest => if c.isAlpha then c :: rest else "C_" ++ (c :: rest)

def derive (description : Text) (code : Int) : Text :=
  Text.upperAscii (letterFirst (base description code))

/-! ## Distinct names -/

def numbered (name : Text) (k : Nat) : Text :=
  name ++ "_" ++ Text.ofNat k

/-- The first numbered name from `k` on that is free, looking at `fuel` of them before the last. -/
def firstFree (isUsed : Text → Bool) (name : Text) : (fuel k : Nat) → Text
  | 0, k => numbered name k
  | fuel + 1, k =>
    if isUsed (numbered name k) then firstFree isUsed name fuel (k + 1) else numbered name k

/-- A name that is not used yet, as close to the given one as possible. -/
def fresh (used : List Text) (name : Text) : Text :=
  if name ∈ used then
    firstFree (Std.HashSet.ofList used).contains name used.length 2
  else name

/-- The table only makes the search fast. -/
theorem fresh_eq (used : List Text) (name : Text) :
    fresh used name = if name ∈ used then firstFree used.contains name used.length 2 else name := by
  have h : (Std.HashSet.ofList used).contains = used.contains :=
    funext fun _ => Std.HashSet.contains_ofList
  simp only [fresh, h]

/-- Each name made distinct from those used and those before it. -/
def freshAll (used : List Text) : List Text → List Text
  | [] => []
  | name :: names =>
    let name := fresh used name
    name :: freshAll (name :: used) names

end DocEnum.ConstantName
