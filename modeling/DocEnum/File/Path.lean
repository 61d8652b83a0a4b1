import DocEnum.Text.Basic

/-!
# Paths

A path is a sequence of names, either from the root or from the current directory. Empty parts and
single points are dropped when a path is read; double points stay, because only the files
themselves tell where they lead. A root of exactly two slashes is kept apart from the usual root.
-/

namespace DocEnum

structure Path where
  /-- The slashes at the start: none, one or two. -/
  root : Nat
  /-- The names between slashes. -/
  parts : List Text
deriving DecidableEq, Repr

namespace Path

def current : Path := ⟨0, []⟩

def ofText (t : Text) : Path :=
  let slashes := (t.takeWhile (· == .char '/')).length
  { root := if slashes = 2 then 2 else min slashes 1
    parts := (Text.fields (· == .char '/') t).filter fun part => part ≠ "." }

def text (p : Path) : Text :=
  if p = current then "." else (List.replicate p.root '/' : Text) ++ Text.joinWith "/" p.parts

/-- The path `t` seen from `p`. -/
def join (p : Path) (t : Text) : Path :=
  let q := ofText t
  if q.root = 0 then { p with parts := p.parts ++ q.parts } else q

/-- Without the last name. -/
def parent (p : Path) : Path :=
  { p with parts := p.parts.dropLast }

/-- The last name, or nothing. -/
def name (p : Path) : Text :=
  p.parts.getLast?.getD []

/-- The extension of the last name with its point: there must be something before the point and
after it. -/
def extension (p : Path) : Text :=
  let tail := p.name.reverse.takeWhile (· != .char '.')
  if tail.isEmpty || p.name.length ≤ tail.length + 1 then [] else '.' :: tail.reverse

end Path

end DocEnum
