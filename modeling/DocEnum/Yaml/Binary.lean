import DocEnum.Text.Basic

/-!
# Binary data

Bytes written as base-64 text: four characters of the alphabet stand for three bytes, and padding
fills up the last group. Characters outside the alphabet do not count.
-/

namespace DocEnum.Yaml

/-- The value of a character of the base-64 alphabet. -/
def sextet? (c : CodePoint) : Option Nat :=
  if c.isUpper then some (c.toNat - 'A'.toNat)
  else if c.isLower then some (c.toNat - 'a'.toNat + 26)
  else if c.isDigit then some (c.toNat - '0'.toNat + 52)
  else if c == '+' then some 62
  else if c == '/' then some 63
  else none

/-- The bytes of base-64 text, given the bits of the group begun and the number of its characters,
and the number of padding characters just passed. Other characters are passed over. -/
def base64From (bits count pads : Nat) : Text → Option (List UInt8)
  | [] => if count = 0 then some [] else none
  | c :: rest =>
    if c == '=' then
      if 2 ≤ count && 4 ≤ count + pads + 1 then some []
      else base64From bits count (if 2 ≤ count then pads + 1 else pads) rest
    else match sextet? c with
      | none => base64From bits count pads rest
      | some sextet =>
        match count with
        | 0 => base64From sextet 1 0 rest
        | 1 =>
          (base64From (sextet % 16) 2 0 rest).map ((bits * 4 + sextet / 16).toUInt8 :: ·)
        | 2 => (base64From (sextet % 4) 3 0 rest).map ((bits * 16 + sextet / 4).toUInt8 :: ·)
        | _ => (base64From 0 0 0 rest).map ((bits * 64 + sextet).toUInt8 :: ·)

def base64? (t : Text) : Option (List UInt8) :=
  if t.all fun c => c.toNat < 128 then base64From 0 0 0 t else none

end DocEnum.Yaml
