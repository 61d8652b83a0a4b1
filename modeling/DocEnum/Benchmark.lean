import DocEnum.Java.Enum

/-!
# Benchmark comments

A comment of any size that uses the separators in turn, and the size of the enum made from it.
-/

namespace DocEnum.Benchmark

/-- The separators in turn. -/
def mark (i : Nat) : Text :=
  match i % 5 with
  | 0 => "-"
  | 1 => ":"
  | 2 => "："
  | 3 => " = "
  | _ => " - "

def line (i : Nat) : Text :=
  " * " ++ Text.ofNat i ++ mark i ++ "状态 " ++ Text.ofNat i ++ " state。"

/-- A comment that lists the codes below `n`. -/
def comment (n : Nat) : Text :=
  "/**\n" ++ Text.joinWith "\n" ((List.range n).map line) ++ "\n */"

structure Sizes where
  entries : Nat
  sourceLength : Nat
deriving DecidableEq, Repr

/-- Reads a comment and generates its enum. -/
def measure (comment : Text) : Except Java.Fault Sizes :=
  let entries := Entry.parse comment
  (Java.generate {} ⟨"com.example", "BenchEnum", entries⟩).map fun source =>
    ⟨entries.length, source.length⟩

end DocEnum.Benchmark
