import DocEnum.Text.CodePoint

/-!
# Text

Text is a list of code points, so that a function on text is a recursion on a list.

**Literals.** A string literal stands for its list of code points wherever text is expected.

**Pieces.** `splitOn` cuts at every separator, `fields` cuts at runs of separators and keeps no
empty field, `joinWith` puts pieces together again.

**Ends.** `trimEnd` drops the longest end whose characters satisfy a test, `dropEnding?` one fixed
ending.
-/

namespace DocEnum

/-- Text is a list of code points. -/
abbrev Text := List CodePoint

instance : Coe String Text := ⟨fun s => s.toList.map .char⟩

/-- Membership in a list of texts is decided by comparing texts. -/
instance : LawfulBEq Text := inferInstance

namespace Text

/-! ## Code point ranges -/

/-- Membership of a character in a table of closed code point ranges. -/
def inRanges (table : List (Nat × Nat)) (c : CodePoint) : Bool :=
  table.any fun (first, last) => first ≤ c.toNat && c.toNat ≤ last

/-! ## Pieces -/

/-- The pieces between the characters that satisfy `p`; always at least one piece. -/
def splitOn (p : CodePoint → Bool) : Text → List Text
  | [] => [[]]
  | c :: rest =>
    if p c then [] :: splitOn p rest
    else match splitOn p rest with
      | [] => [[c]]
      | piece :: pieces => (c :: piece) :: pieces

/-- The non-empty pieces between the characters that satisfy `p`. -/
def fields (p : CodePoint → Bool) (t : Text) : List Text :=
  (splitOn p t).filter fun piece => !piece.isEmpty

/-- The pieces with a separator between each two. -/
def joinWith (separator : Text) : List Text → Text
  | [] => []
  | [piece] => piece
  | piece :: pieces => piece ++ separator ++ joinWith separator pieces

/-! ## Ends -/

/-- Without the longest end of characters that satisfy `p`. -/
def trimEnd (p : CodePoint → Bool) (t : Text) : Text :=
  (t.reverse.dropWhile p).reverse

/-- Without the given beginning, if it is there. -/
def dropBeginning? : (beginning : Text) → Text → Option Text
  | [], t => some t
  | _ :: _, [] => none
  | b :: beginning, c :: rest => if b = c then dropBeginning? beginning rest else none

/-- Without the given ending, if it is there. -/
def dropEnding? (ending t : Text) : Option Text :=
  (dropBeginning? ending.reverse t.reverse).map List.reverse

def startsWith (beginning t : Text) : Bool :=
  (dropBeginning? beginning t).isSome

/-! ## Order -/

/-- The order of texts by their code points. -/
def atMost : Text → Text → Bool
  | [], _ => true
  | _ :: _, [] => false
  | c :: s, d :: t => c.toNat < d.toNat || (c == d && atMost s t)

/-! ## Numbers and letters -/

/-- Decimal digits of a natural number. -/
def ofNat (n : Nat) : Text :=
  (Nat.toDigits 10 n).map .char

/-- Decimal digits, after a minus sign for a negative number. -/
def ofInt : Int → Text
  | .ofNat n => ofNat n
  | .negSucc n => '-' :: ofNat (n + 1)

/-- The value of a run of decimal digits. -/
def toNat (digits : Text) : Nat :=
  digits.foldl (fun n c => 10 * n + (c.toNat - '0'.toNat)) 0

/-- ASCII letters in lower case; other characters unchanged. -/
def lowerAscii (t : Text) : Text :=
  t.map CodePoint.toLower

/-- ASCII letters in upper case; other characters unchanged. -/
def upperAscii (t : Text) : Text :=
  t.map CodePoint.toUpper

/-- Digits filled up with zeros at the front to the given number of places. -/
def zeroFilled (places : Nat) (digits : Text) : Text :=
  (List.replicate (places - digits.length) '0' : Text) ++ digits

/-- Decimal digits of a natural number, at least as many as `places` says. -/
def padded (places n : Nat) : Text :=
  zeroFilled places (ofNat n)

def hexDigit? (c : CodePoint) : Option Nat :=
  if c.isDigit then some (c.toNat - '0'.toNat)
  else if 'a' ≤ c && c ≤ 'f' then some (c.toNat - 'a'.toNat + 10)
  else if 'A' ≤ c && c ≤ 'F' then some (c.toNat - 'A'.toNat + 10)
  else none

/-- Lower-case hexadecimal digits of a natural number, at least as many as `places` says. -/
def hex (places n : Nat) : Text :=
  zeroFilled places ((Nat.toDigits 16 n).map .char)

end Text

end DocEnum
