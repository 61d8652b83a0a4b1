import Mathlib
import DocEnum.Proofs.File.Growth

/-!
# Destinations

Where a path leads once its directories are there.

**Destinations.** A store has no links. So the names of a path alone tell where it can lead
(`eq_destination_of_resolve`), also while some of its directories are missing. On the way it passes
the destinations of its first names.

**Trees** (`IsTree`). In a tree of files everything stands in a directory. So a plain path, one
without double points, leads to its destination if anything stands there (`resolve_of_present`).
-/

namespace DocEnum.File.Store

variable {s s' : Store} {p : Path} {l l' : Location}

/-! ## Destinations -/

/-- Where the names of a path lead if all of them but the last are directories. -/
def destination (s : Store) (p : Path) : Location :=
  p.parts.foldl inDirectory (s.origin p)

/-- Some first names of a path have a destination. -/
def Passes (s : Store) (p : Path) (l : Location) : Prop :=
  ∃ names, names <+: p.parts ∧ s.destination ⟨p.root, names⟩ = l

theorem eq_foldl_of_follow {names : List Text} (h : s.follow l names = .ok l') :
    l' = names.foldl inDirectory l := by
  induction names generalizing l with
  | nil => simpa [follow] using h.symm
  | cons name names ih =>
    rw [follow] at h
    cases hstep : s.step l name with
    | error cause => simp [hstep] at h
    | ok next =>
      rw [hstep] at h
      obtain rfl : next = inDirectory l name := by
        unfold step at hstep
        unfold inDirectory
        split at hstep
        · cases hstep
        · cases hstep
        · grind
      exact ih h

/-- **A path leads to its destination** or nowhere. -/
theorem eq_destination_of_resolve (h : s.resolve p = .ok l) : l = s.destination p :=
  eq_foldl_of_follow (resolve_eq_ok_iff.1 h).2.2

theorem destination_of_current_eq (h : s'.current = s.current) (p : Path) :
    s'.destination p = s.destination p := by
  unfold destination origin
  rw [h]

theorem OnWay.passes (h : s'.OnWay p l) (hcurrent : s'.current = s.current) : s.Passes p l := by
  obtain ⟨names, hprefix, hfollow⟩ := h
  refine ⟨names, hprefix, ?_⟩
  rw [← destination_of_current_eq hcurrent]
  exact (eq_foldl_of_follow hfollow).symm

/-- A path to a directory passes directories only. -/
theorem get?_of_passes (hresolve : s.resolve p = .ok l) (hdirectory : s.get? l = some .directory)
    (hpasses : s.Passes p l') : s.get? l' = some .directory := by
  obtain ⟨names, ⟨rest, hrest⟩, rfl⟩ := hpasses
  have hfollow := (resolve_eq_ok_iff.1 hresolve).2.2
  rw [← hrest, follow_append] at hfollow
  cases hnames : s.follow (s.origin p) names with
  | error cause => simp [hnames] at hfollow
  | ok l' =>
    rw [hnames] at hfollow
    have hdestination : s.destination ⟨p.root, names⟩ = l' := (eq_foldl_of_follow hnames).symm
    rw [hdestination]
    -- A step goes on from a directory only.
    cases rest with
    | nil =>
      obtain rfl : l' = l := by simpa [follow] using hfollow
      exact hdirectory
    | cons name rest =>
      by_contra hne
      simp only [follow, step] at hfollow
      split at hfollow
      · cases hfollow
      · next heq =>
        split at heq
        · cases heq
        · cases heq
        · exact hne ‹_›

/-- A path through a file, or to one, is not missing a directory. -/
theorem resolve_ne_notFound {names : List Text} {content : List UInt8}
    (hresolve : s.resolve ⟨p.root, names⟩ = .ok l) (hfile : s.get? l = some (.file content))
    (hfirst : names <+: p.parts) : s.resolve p ≠ .error .notFound := by
  obtain ⟨rest, hrest⟩ := hfirst
  have hfollow : s.follow (s.origin p) names = .ok l := (resolve_eq_ok_iff.1 hresolve).2.2
  intro h
  unfold resolve at h
  split at h
  · next cause hrefusal =>
    obtain rfl := Except.error.inj h
    cases isInvalid_of_refusal? hrefusal
  · split at h
    · cases h
    · change s.follow (s.origin p) p.parts = _ at h
      rw [← hrest, follow_append, hfollow] at h
      -- Behind a file the next name fails, but not as one that is missing.
      cases rest with
      | nil => cases h
      | cons name rest => simp [follow, step, hfile] at h

/-! ## Trees -/

/-- Everything stands in a directory. -/
def IsTree (s : Store) : Prop :=
  ∀ l name, s.get? (l ++ [name]) ≠ none → s.get? l = some .directory

/-- A path without double points. -/
def IsPlain (p : Path) : Prop :=
  (".." : Text) ∉ p.parts

theorem isTree_of_nodes (h : ∀ node ∈ s.nodes, s.get? node.1.dropLast = some .directory) :
    s.IsTree := by
  intro l name hpresent
  have hlookup : s.get? (l ++ [name]) = s.nodes.lookup (l ++ [name]) := by
    cases l <;> rfl
  rw [hlookup] at hpresent
  obtain ⟨node, hnode⟩ := Option.ne_none_iff_exists'.1 hpresent
  obtain ⟨before, after, hnodes, -⟩ := List.lookup_eq_some_iff.1 hnode
  have habove := h (l ++ [name], node) (by simp [hnodes])
  rwa [List.dropLast_concat] at habove

theorem IsTree.directory_of_present (h : s.IsTree) {rest : List Name} (hne : rest ≠ [])
    (hpresent : s.get? (l ++ rest) ≠ none) : s.get? l = some .directory := by
  induction rest using List.reverseRecOn with
  | nil => exact absurd rfl hne
  | append_singleton rest name ih =>
    rw [← List.append_assoc] at hpresent
    have habove := h _ name hpresent
    by_cases hrest : rest = []
    · rwa [hrest, List.append_nil] at habove
    · exact ih hrest (by simp [habove])

theorem foldl_inDirectory {names : List Text} (h : (".." : Text) ∉ names) (l : Location) :
    names.foldl inDirectory l = l ++ names.map Utf8.bytes := by
  induction names generalizing l with
  | nil => simp
  | cons name names ih =>
    obtain ⟨hname, hnames⟩ := List.ne_and_not_mem_of_not_mem_cons h
    rw [List.foldl_cons, ih hnames, inDirectory, if_neg (Ne.symm hname)]
    simp

theorem IsPlain.destination (h : IsPlain p) (s : Store) :
    s.destination p = s.origin p ++ p.parts.map Utf8.bytes :=
  foldl_inDirectory h _

theorem follow_of_present (hs : s.IsTree) {names : List Text} (hplain : (".." : Text) ∉ names)
    (hfollow : s'.follow l names = .ok l') (hpresent : s.get? l' ≠ none) :
    s.follow l names = .ok l' := by
  induction names generalizing l with
  | nil => exact hfollow
  | cons name names ih =>
    obtain ⟨-, hnames⟩ := List.ne_and_not_mem_of_not_mem_cons hplain
    have hl' := eq_foldl_of_follow hfollow
    rw [foldl_inDirectory hplain] at hl'
    have hdirectory := hs.directory_of_present (List.cons_ne_nil _ _) (hl' ▸ hpresent)
    rw [follow] at hfollow ⊢
    cases hstep : s'.step l name with
    | error cause => simp [hstep] at hfollow
    | ok next =>
      rw [hstep] at hfollow
      -- The same name can only fail in a store where no directory stands above it.
      have hstep' : s.step l name = .ok next := by
        unfold step at hstep ⊢
        rw [hdirectory]
        split at hstep
        · cases hstep
        · cases hstep
        · exact hstep
      rw [hstep']
      exact ih hnames hfollow

/-- **Something at the destination** of a plain path is found there. -/
theorem resolve_of_present (hs : s.IsTree) (hplain : IsPlain p)
    (hcurrent : s'.current = s.current) (hresolve : s'.resolve p = .ok l)
    (hpresent : s.get? l ≠ none) : s.resolve p = .ok l := by
  obtain ⟨hnames, hlong, hfollow⟩ := resolve_eq_ok_iff.1 hresolve
  have hfollow : s'.follow (s.origin p) p.parts = .ok l := by
    rwa [origin, ← hcurrent]
  exact resolve_eq_ok_iff.2 ⟨hnames, hlong, follow_of_present hs hplain hfollow hpresent⟩

end DocEnum.File.Store
