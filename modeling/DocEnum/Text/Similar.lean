import DocEnum.Text.Basic

/-!
# Similar texts

How much two texts have in common: their longest common run, and what the parts before and after it
have in common in turn. Two texts are similar if six tenths of all their characters are common.
-/

namespace DocEnum.Text

/-- The number of characters that two texts begin with alike. -/
def commonLength : Text → Text → Nat
  | c :: s, d :: t => if c = d then commonLength s t + 1 else 0
  | _, _ => 0

/-- A run that two texts share: where it starts in each, and its length. -/
structure CommonRun where
  first : Nat
  second : Nat
  length : Nat
deriving DecidableEq, Repr

/-- The longest common run; of several the one that starts earliest in the first text, and then in
the second. -/
def longestRun (s t : Text) : CommonRun :=
  let starts := (List.range s.length).flatMap fun i => (List.range t.length).map fun j => (i, j)
  starts.foldl (fun best (i, j) =>
    let length := commonLength (s.drop i) (t.drop j)
    if best.length < length then ⟨i, j, length⟩ else best) ⟨0, 0, 0⟩

/-- The number of common characters. -/
def commonCount : (fuel : Nat) → Text → Text → Nat
  | 0, _, _ => 0
  | fuel + 1, s, t =>
    let run := longestRun s t
    if run.length = 0 then 0
    else commonCount fuel (s.take run.first) (t.take run.second) + run.length +
      commonCount fuel (s.drop (run.first + run.length)) (t.drop (run.second + run.length))

/-- A text with its common characters and the characters in all, among texts compared with one. -/
structure Candidate where
  text : Text
  common : Nat
  total : Nat
deriving DecidableEq, Repr

namespace Candidate

def of (word t : Text) : Candidate :=
  ⟨t, commonCount (t.length + 1) t word, t.length + word.length⟩

def isSimilar (a : Candidate) : Bool :=
  6 * a.total ≤ 20 * a.common

/-- Whether a candidate comes before another: it has more in common, or it comes later in the order
of texts. -/
def isBetter (a b : Candidate) : Bool :=
  let here := a.common * b.total
  let there := b.common * a.total
  there < here || (here == there && atMost b.text a.text)

end Candidate

/-- The most texts that are offered in the place of a word. -/
def maxSimilar : Nat := 3

/-- The texts most similar to a word, the best first. -/
def similar (word : Text) (texts : List Text) : List Text :=
  let short := texts.filter fun t => 6 * (t.length + word.length) ≤ 20 * t.length
  let candidates := (short.map (Candidate.of word)).filter Candidate.isSimilar
  ((candidates.mergeSort Candidate.isBetter).take maxSimilar).map Candidate.text

end DocEnum.Text
