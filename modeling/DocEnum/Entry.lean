import DocEnum.Comment
import DocEnum.ConstantName
import DocEnum.Log
import DocEnum.Text.Quoted

/-!
# Entries

An entry is one constant of an enum: a name, a code and a description.

**Grammar.** A segment lists an entry when it is a run of ASCII digits, a separator (`-`, `:`, `=`
or a full-width one) and a non-empty description, with blanks allowed on both sides of the
separator.

**Verdicts.** Segments are judged in order. A segment is dropped if it lists no entry, if its code
is above `2 ^ 31 - 1`, or if an earlier entry has its code; each drop leaves a debug record.
`parse` keeps the entries and `parseLog` the records.
-/

namespace DocEnum

/-- One constant: its name, its code and what the code means. -/
structure Entry where
  name : Text
  code : Int
  description : Text
deriving DecidableEq, Repr

namespace Entry

/-! ## One segment -/

/-- What may stand between a code and its description. -/
def isMark (c : CodePoint) : Bool :=
  c == '-' || c == ':' || c == '=' || c == '：' || c == '－' || c == '＝'

/-- The digits and the description of a segment that lists an entry. -/
def listed? (segment : Text) : Option (Text × Text) :=
  let digits := segment.takeWhile CodePoint.isDigit
  if digits.isEmpty then none
  else match Text.trimStart (segment.dropWhile CodePoint.isDigit) with
    | [] => none
    | mark :: rest =>
      let description := Text.trimStart rest
      if isMark mark && !description.isEmpty then some (digits, description) else none

/-- Punctuation that ends a sentence. -/
def isSentenceMark (c : CodePoint) : Bool :=
  c == '.' || c == '．' || c == ';' || c == '；' || c == '。'

/-- A description without the blanks around it and the punctuation that ends it. -/
def normalize (description : Text) : Text :=
  Text.strip (Text.trimEnd isSentenceMark (Text.strip description))

/-- The largest code: the largest number of 31 bits. -/
def maxCode : Nat := 2147483647

/-- The digits of a code without leading zeros. -/
def significant (digits : Text) : Text :=
  match digits.dropWhile (· == .char '0') with
  | [] => "0"
  | digits => digits

def maxCodeDigits : Nat := (Text.ofNat maxCode).length

/-- Whether significant digits make a code. Longer runs of digits are refused unread. -/
def isCode (digits : Text) : Bool :=
  digits.length ≤ maxCodeDigits && Text.toNat digits ≤ maxCode

/-! ## Verdicts -/

/-- What becomes of a segment. -/
inductive Verdict where
  | accepted (entry : Entry)
  | unrecognized (segment : Text)
  | outOfRange (digits : Text)
  | duplicate (code : Nat) (segment : Text)
deriving DecidableEq, Repr

namespace Verdict

def accepted? : Verdict → Option Entry
  | accepted entry => some entry
  | _ => none

def record? : Verdict → Option Record
  | accepted _ => none
  | unrecognized segment =>
    some ⟨.debug, "skipping unrecognized segment " ++ Text.quoted segment⟩
  | outOfRange digits =>
    some ⟨.debug, "skipping out-of-range code " ++ digits.take 20 ++ " (" ++
      Text.ofNat digits.length ++ " digits)"⟩
  | duplicate code segment =>
    some ⟨.debug, "skipping duplicate code " ++ Text.ofNat code ++ " in " ++ Text.quoted segment⟩

end Verdict

/-- Judges one segment after the entries accepted so far. -/
def judge (accepted : List Entry) (segment : Text) : Verdict :=
  match listed? segment with
  | none => .unrecognized segment
  | some (digits, description) =>
    let digits := significant digits
    if !isCode digits then .outOfRange digits
    else
      let code := Text.toNat digits
      if (code : Int) ∈ accepted.map Entry.code then .duplicate code segment
      else
        let description := normalize description
        let name := ConstantName.fresh (accepted.map Entry.name)
          (ConstantName.derive description code)
        .accepted ⟨name, code, description⟩

/-- Judges segments in order. -/
def judgeAll (accepted : List Entry) : List Text → List Verdict
  | [] => []
  | segment :: rest =>
    let verdict := judge accepted segment
    verdict :: judgeAll (accepted ++ verdict.accepted?.toList) rest

/-- The verdicts on a comment. -/
def verdicts (raw : Text) : List Verdict :=
  judgeAll [] (Comment.segments (Comment.clean raw))

/-- The entries that a comment lists. -/
def parse (raw : Text) : List Entry :=
  (verdicts raw).filterMap Verdict.accepted?

/-- The records of the segments that a comment wastes. -/
def parseLog (raw : Text) : List Record :=
  (verdicts raw).filterMap Verdict.record?

end Entry

end DocEnum
