import DocEnum.File.Fault
import DocEnum.Text.Utf8

/-!
# A store of files

A tree of directories and files in memory, with one current directory.

**Locations.** A location is the sequence of names from the root, and a name is its bytes. The store
is a list of pairs of a location and what stands there; the root is always a directory. `get?` is
the view of a store, and every operation is told by what it does to `get?` (`get?_put`).

**Resolution.** `resolve` follows a path name by name. Every name but the last must lead to a
directory; a double point leads to the directory above, and the root is above itself. A path that is
refused as it is leads nowhere.
-/

namespace DocEnum.File

/-- The bytes of a name in a directory. -/
abbrev Name := List UInt8

/-- The names from the root to a place in the tree. -/
abbrev Location := List Name

inductive Node where
  | file (content : List UInt8)
  | directory
deriving DecidableEq, Repr

def Node.kind : Node → Kind
  | file _ => .file
  | directory => .directory

structure Store where
  nodes : List (Location × Node)
  current : Location
deriving Repr

namespace Store

/-! ## Locations -/

def get? (s : Store) : Location → Option Node
  | [] => some .directory
  | location => s.nodes.lookup location

def put (s : Store) (location : Location) (node : Node) : Store :=
  { s with nodes := (location, node) :: s.nodes.filter fun (l, _) => l ≠ location }

/-- The store without a location and all below it. -/
def erase (s : Store) (location : Location) : Store :=
  { s with nodes := s.nodes.filter fun (l, _) => !location.isPrefixOf l }

/-! ### What a store holds after an operation -/

/-- Looking up a location that a filter keeps. -/
theorem lookup_filter {p : Location → Bool} {l : Location} (h : p l) :
    (nodes : List (Location × Node)) →
      (nodes.filter fun (k, _) => p k).lookup l = nodes.lookup l
  | [] => rfl
  | (k, node) :: rest => by
    have ih := lookup_filter h rest
    by_cases hl : l = k
    · subst hl
      simp [h]
    · have hne : (l == k) = false := by simpa using hl
      cases hk : p k <;> simp [hk, List.lookup_cons, hne, ih]

@[simp] theorem get?_root (s : Store) : s.get? [] = some .directory := rfl

/-- A node put at a location stands there, and nothing else changes. -/
theorem get?_put (s : Store) {location : Location} (node : Node) (h : location ≠ [])
    (l : Location) :
    (s.put location node).get? l = if l = location then some node else s.get? l := by
  cases l with
  | nil => simp [Ne.symm h]
  | cons a l =>
    by_cases hl : a :: l = location
    · simp [get?, put, hl]
    · have hne : (a :: l == location) = false := by simpa using hl
      have hk : decide (a :: l ≠ location) = true := by simpa using hl
      simp only [get?, put, List.lookup_cons, hne, hl, if_false]
      exact lookup_filter (p := fun k => decide (k ≠ location)) hk s.nodes

/-! ## Resolution -/

/-- The longest name in bytes. -/
def maxNameLength : Nat := 255

/-- The longest path in bytes. -/
def maxPathLength : Nat := 4095

/-- The location of a name in a directory. -/
def step (s : Store) (location : Location) (name : Text) : Except Cause Location :=
  match s.get? location with
  | none => .error .notFound
  | some (.file _) => .error .notDirectory
  | some .directory =>
    if name = ".." then .ok location.dropLast
    else if maxNameLength < (Utf8.bytes name).length then .error .nameTooLong
    else .ok (location ++ [Utf8.bytes name])

/-- The location that names lead to. -/
def follow (s : Store) (location : Location) : List Text → Except Cause Location
  | [] => .ok location
  | name :: names =>
    match s.step location name with
    | .error cause => .error cause
    | .ok location => s.follow location names

/-- The location of a path, which need not exist in the directory that holds it. -/
def resolve (s : Store) (p : Path) : Except Cause Location :=
  match refusal? p.text with
  | some cause => .error cause
  | none =>
    if maxPathLength < (Utf8.bytes p.text).length then .error .nameTooLong
    else s.follow (if p.root = 0 then s.current else []) p.parts

/-! ## Operations -/

def kind (s : Store) (p : Path) : Except Fault Kind :=
  match s.resolve p with
  | .error cause => .error ⟨cause, p⟩
  | .ok location =>
    match s.get? location with
    | none => .error ⟨.notFound, p⟩
    | some node => .ok node.kind

def read (s : Store) (p : Path) : Except Fault (List UInt8) :=
  match s.resolve p with
  | .error cause => .error ⟨cause, p⟩
  | .ok location =>
    match s.get? location with
    | none => .error ⟨.notFound, p⟩
    | some .directory => .error ⟨.isDirectory, p⟩
    | some (.file content) => .ok content

def makeDirectory (s : Store) (p : Path) : Except Fault Store :=
  match s.resolve p with
  | .error cause => .error ⟨cause, p⟩
  | .ok location =>
    match s.get? location with
    | none => .ok (s.put location .directory)
    | some _ => .error ⟨.alreadyExists, p⟩

def write (s : Store) (p : Path) (content : List UInt8) : Except Fault Store :=
  match s.resolve p with
  | .error cause => .error ⟨cause, p⟩
  | .ok location =>
    match s.get? location with
    | some .directory => .error ⟨.isDirectory, p⟩
    | _ => .ok (s.put location (.file content))

def remove (s : Store) (p : Path) : Except Fault Store :=
  match s.resolve p with
  | .error cause => .error ⟨cause, p⟩
  | .ok location =>
    match s.get? location with
    | none => .error ⟨.notFound, p⟩
    | some _ => .ok (s.erase location)

/-- The paths, from the current directory, of all that stands below it, in order; those of
directories end in a slash. -/
def list (s : Store) : List Text :=
  let below := s.nodes.filterMap fun (location, node) =>
    let names := location.drop s.current.length
    if !s.current.isPrefixOf location || names.isEmpty then none
    else
      let path := Text.joinWith "/" (names.map Utf8.decodeName)
      some (match node with
        | .file _ => path
        | .directory => path ++ "/")
  below.mergeSort Text.atMost

end Store

end DocEnum.File
