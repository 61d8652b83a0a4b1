import DocEnum.Text.Blank

/-!
# UTF-8

**Decoding.** `decode` accepts exactly well-formed UTF-8: no overlong forms, no surrogates, nothing
above U+10FFFF. A fault tells the bytes that cannot be decoded and why: a byte that starts nothing,
a byte that does not continue what was started, or the end of the data in between.

**Encoding.** A half of a surrogate pair on its own has no UTF-8 form, so a text that holds one has
no bytes: `encode` fails, and tells the first halves and their place.

**Names.** The name of a file is any bytes. Bytes that are not UTF-8 stand in its text as halves,
one for each, so only halves that stand for no byte are at fault in it (`nameFault?`).
-/

namespace DocEnum.Utf8

/-! ## Faults -/

/-- Why bytes cannot be decoded. -/
inductive Cause where
  | start
  | continuation
  | endOfData
deriving DecidableEq, Repr

def Cause.message : Cause → Text
  | start => "invalid start byte"
  | continuation => "invalid continuation byte"
  | endOfData => "unexpected end of data"

/-- The bytes that cannot be decoded: their first, their place and their number. -/
structure Fault where
  cause : Cause
  first : UInt8
  position : Nat
  count : Nat
deriving DecidableEq, Repr

def Fault.message (fault : Fault) : Text :=
  let place := if fault.count = 1 then
      ("byte 0x" : Text) ++ Text.hex 2 fault.first.toNat ++ " in position " ++
        Text.ofNat fault.position
    else
      ("bytes in position " : Text) ++ Text.ofNat fault.position ++ "-" ++
        Text.ofNat (fault.position + fault.count - 1)
  "'utf-8' codec can't decode " ++ place ++ ": " ++ fault.cause.message

/-! ## Decoding -/

/-- A byte that continues a character. -/
def isContinuation (b : UInt8) : Bool :=
  0x80 ≤ b && b < 0xC0

/-- A second byte that may follow the first byte of a character. -/
def isSecond (first second : UInt8) : Bool :=
  isContinuation second &&
    (first != 0xE0 || 0xA0 ≤ second) && (first != 0xED || second < 0xA0) &&
    (first != 0xF0 || 0x90 ≤ second) && (first != 0xF4 || second < 0x90)

/-- The number of bytes of a character from its first byte, zero if that starts none. -/
def sizeOf (first : UInt8) : Nat :=
  if first < 0x80 then 1
  else if first < 0xC2 then 0
  else if first < 0xE0 then 2
  else if first < 0xF0 then 3
  else if first < 0xF5 then 4
  else 0

def payload (b : UInt8) : Nat :=
  b.toNat % 64

/-- The characters of bytes from a position on. -/
def decodeFrom (position : Nat) : List UInt8 → Except Fault Text
  | [] => .ok []
  | a :: rest =>
    let fault (cause : Cause) (count : Nat) : Except Fault Text :=
      .error ⟨cause, a, position, count⟩
    match sizeOf a with
    | 0 => fault .start 1
    | 1 => (decodeFrom (position + 1) rest).map fun t => CodePoint.ofNat a.toNat :: t
    | 2 =>
      match rest with
      | [] => fault .endOfData 1
      | b :: rest =>
        if !isSecond a b then fault .continuation 1
        else (decodeFrom (position + 2) rest).map fun t =>
          CodePoint.ofNat (a.toNat % 32 * 64 + payload b) :: t
    | 3 =>
      match rest with
      | [] => fault .endOfData 1
      | [b] => if isSecond a b then fault .endOfData 2 else fault .continuation 1
      | b :: c :: rest =>
        if !isSecond a b then fault .continuation 1
        else if !isContinuation c then fault .continuation 2
        else (decodeFrom (position + 3) rest).map fun t =>
          CodePoint.ofNat ((a.toNat % 16 * 64 + payload b) * 64 + payload c) :: t
    | _ =>
      match rest with
      | [] => fault .endOfData 1
      | [b] => if isSecond a b then fault .endOfData 2 else fault .continuation 1
      | [b, c] =>
        if !isSecond a b then fault .continuation 1
        else if isContinuation c then fault .endOfData 3 else fault .continuation 2
      | b :: c :: d :: rest =>
        if !isSecond a b then fault .continuation 1
        else if !isContinuation c then fault .continuation 2
        else if !isContinuation d then fault .continuation 3
        else (decodeFrom (position + 4) rest).map fun t =>
          CodePoint.ofNat (((a.toNat % 8 * 64 + payload b) * 64 + payload c) * 64 + payload d) :: t

def decode (bytes : List UInt8) : Except Fault Text :=
  decodeFrom 0 bytes

/-- The text of bytes, with every line break written as a line feed. -/
def decodeLines (bytes : List UInt8) : Except Fault Text :=
  (decode bytes).map Text.unifyNewlines

/-! ## Encoding -/

/-- Halves that have no bytes: the first of them, its place, and how many stand there. -/
structure EncodeFault where
  first : Fin 2048
  position : Nat
  count : Nat
deriving DecidableEq, Repr

def EncodeFault.message (fault : EncodeFault) : Text :=
  let place := if fault.count = 1 then
      ("character '\\u" : Text) ++ Text.hex 4 (CodePoint.firstHalf + fault.first) ++
        "' in position " ++ Text.ofNat fault.position
    else
      ("characters in position " : Text) ++ Text.ofNat fault.position ++ "-" ++
        Text.ofNat (fault.position + fault.count - 1)
  "'utf-8' codec can't encode " ++ place ++ ": surrogates not allowed"

/-- The byte that a half stands for in the name of a file. -/
def nameByte? (unit : Fin 2048) : Option UInt8 :=
  if 0x480 ≤ unit.val && unit.val < 0x500 then some (UInt8.ofNat (unit.val - 0x400)) else none

/-- The bytes of a code point, none for a half that stands for no byte. -/
def bytesOf : CodePoint → List UInt8
  | .char c => String.utf8EncodeChar c
  | .half unit => (nameByte? unit).toList

def bytes (t : Text) : List UInt8 :=
  t.flatMap bytesOf

/-- The first halves from a position on that are refused. -/
def faultFrom? (refuses : Fin 2048 → Bool) (position : Nat) : Text → Option EncodeFault
  | [] => none
  | .char _ :: rest => faultFrom? refuses (position + 1) rest
  | .half unit :: rest =>
    if refuses unit then some ⟨unit, position, (rest.takeWhile CodePoint.isHalf).length + 1⟩
    else faultFrom? refuses (position + 1) rest

/-- Why a text has no bytes. -/
def fault? (t : Text) : Option EncodeFault :=
  faultFrom? (fun _ => true) 0 t

/-- Why a text is the name of no file. -/
def nameFault? (t : Text) : Option EncodeFault :=
  faultFrom? (fun unit => (nameByte? unit).isNone) 0 t

def encode (t : Text) : Except EncodeFault (List UInt8) :=
  match fault? t with
  | some fault => .error fault
  | none => .ok (bytes t)

/-! ## Names -/

/-- The half that stands for a byte which is no part of UTF-8. -/
def nameHalf (b : UInt8) : CodePoint :=
  CodePoint.ofNat (0xDC00 + b.toNat)

/-- The text of a name, with halves for the bytes of every fault. -/
def decodeNameFrom : (fuel : Nat) → List UInt8 → Text
  | 0, _ => []
  | fuel + 1, name =>
    match decode name with
    | .ok t => t
    | .error fault =>
      let before := (decode (name.take fault.position)).toOption.getD []
      let stray := (name.drop fault.position).take fault.count
      before ++ stray.map nameHalf ++
        decodeNameFrom fuel (name.drop (fault.position + fault.count))

def decodeName (name : List UInt8) : Text :=
  decodeNameFrom (name.length + 1) name

end DocEnum.Utf8
