import Mathlib
import DocEnum.File.Store
import DocEnum.Proofs.Encoding

/-!
# Growing stores

How a store changes when directories are made in it, and what that leaves alone.

**Refused paths.** A path is refused as it is if and only if one of its names is that of no file
(`refusal?_text_eq_none_iff`).

**Resolution.** A path that resolves leads through directories only (`resolve_eq_ok_iff`). It goes
on leading to the same location while directories stay directories, whatever is added or written
besides (`Keeps`, `resolve_of_keeps`).

**New directories** (`Opens`). A store opens to another along a path when the other has all of it
and, besides, at most new directories to which the first names of the path lead.

**Children.** A proper name in a directory leads into this directory and nowhere else, unless it
or the path is too long (`resolve_child`).

Main results: what making one directory and writing one file do to a store
(`opens_makeDirectory`, `get?_write`).
-/

namespace DocEnum.File

/-! ## Refused paths -/

/-- A code point that is in the name of no file: the null character, or a half that stands for no
byte. -/
def isStray : CodePoint → Bool
  | .char c => c == '\x00'
  | .half unit => (Utf8.nameByte? unit).isNone

/-- A name that no file has. -/
def HasStray (name : Text) : Prop :=
  ∃ c ∈ name, isStray c = true

theorem not_hasStray_iff {name : Text} : ¬HasStray name ↔ ∀ c ∈ name, isStray c = false := by
  simp [HasStray]

theorem isInvalid_of_refusal? {path : Text} {cause : Cause} (h : refusal? path = some cause) :
    cause.isInvalid = true := by
  unfold refusal? at h
  split at h
  · exact Option.some.inj h ▸ rfl
  · split at h
    · exact Option.some.inj h ▸ rfl
    · cases h

theorem refusal?_eq_none_iff {path : Text} : refusal? path = none ↔ ¬HasStray path := by
  have hnull : path.contains (.char '\x00') = true ↔ .char '\x00' ∈ path := List.contains_iff_mem
  rw [not_hasStray_iff]
  constructor
  · intro h c hc
    unfold refusal? at h
    split at h
    · cases h
    · next hhalves =>
      split at h
      · cases h
      · next hchar =>
        cases c with
        | char c =>
          refine beq_eq_false_iff_ne.2 ?_
          rintro rfl
          exact hchar (hnull.2 hc)
        | half unit =>
          exact Option.isNone_eq_false_iff.2 (Utf8.nameFault?_eq_none_iff.1 hhalves unit hc)
  · intro h
    have hhalves : Utf8.nameFault? path = none := Utf8.nameFault?_eq_none_iff.2 fun unit hunit =>
      Option.isNone_eq_false_iff.1 (h _ hunit)
    have hchar : path.contains (.char '\x00') = false := by
      rw [← Bool.not_eq_true, hnull]
      intro hmem
      cases h _ hmem
    unfold refusal?
    rw [hhalves]
    simp only [hchar, Bool.false_eq_true, if_false]

/-- The text of a path holds its names, and besides slashes and points only. -/
theorem mem_text {p : Path} {c : CodePoint} (hc : c ∈ p.text) :
    c = '/' ∨ c = '.' ∨ ∃ part ∈ p.parts, c ∈ part := by
  unfold Path.text at hc
  split at hc
  · exact .inr (.inl (by simpa using hc))
  · rcases List.mem_append.1 hc with hc | hc
    · exact .inl (List.mem_replicate.1 hc).2
    · rcases Text.mem_joinWith hc with hc | hc
      · exact .inl (by simpa using hc)
      · exact .inr (.inr hc)

theorem mem_text_of_mem {p : Path} {part : Text} {c : CodePoint} (hpart : part ∈ p.parts)
    (hc : c ∈ part) : c ∈ p.text := by
  unfold Path.text
  rw [if_neg]
  · exact List.mem_append_right _ (Text.mem_joinWith_of_mem _ hpart hc)
  · rintro rfl
    cases hpart

/-- **A path is refused** as it is if one of its names is that of no file. -/
theorem refusal?_text_eq_none_iff {p : Path} :
    refusal? p.text = none ↔ ∀ part ∈ p.parts, ¬HasStray part := by
  rw [refusal?_eq_none_iff]
  constructor
  · rintro h part hpart ⟨c, hc, hstray⟩
    exact h ⟨c, mem_text_of_mem hpart hc, hstray⟩
  · rintro h ⟨c, hc, hstray⟩
    rcases mem_text hc with rfl | rfl | ⟨part, hpart, hc⟩
    · cases hstray
    · cases hstray
    · exact h part hpart ⟨c, hc, hstray⟩

namespace Store

variable {s s' s'' : Store} {p : Path} {l : Location}

/-! ## Resolution -/

/-- The location where a path starts. -/
def origin (s : Store) (p : Path) : Location :=
  if p.root = 0 then s.current else []

/-- The bytes of a path are more than a path may have. -/
def TooLong (p : Path) : Prop :=
  maxPathLength < (Utf8.bytes p.text).length

theorem resolve_eq_ok_iff :
    s.resolve p = .ok l ↔
      (∀ part ∈ p.parts, ¬HasStray part) ∧ ¬TooLong p ∧
        s.follow (s.origin p) p.parts = .ok l := by
  rw [← refusal?_text_eq_none_iff]
  unfold resolve
  split
  · next hrefusal => exact ⟨by simp, fun h => by cases hrefusal.symm.trans h.1⟩
  · next hrefusal =>
    split
    · next hlong => exact ⟨by simp, fun h => absurd hlong h.2.1⟩
    · next hlong => exact ⟨fun h => ⟨hrefusal, hlong, h⟩, fun h => h.2.2⟩

theorem follow_append (s : Store) (l : Location) (names names' : List Text) :
    s.follow l (names ++ names') =
      match s.follow l names with
      | .error cause => .error cause
      | .ok l' => s.follow l' names' := by
  induction names generalizing l with
  | nil => rfl
  | cons name names ih =>
    simp only [List.cons_append, follow]
    cases s.step l name with
    | error cause => rfl
    | ok l' => exact ih l'

/-- Directories stay, and so does the current directory. -/
structure Keeps (s s' : Store) : Prop where
  current_eq : s'.current = s.current
  directory : ∀ l, s.get? l = some .directory → s'.get? l = some .directory

theorem Keeps.trans (h : s.Keeps s') (h' : s'.Keeps s'') : s.Keeps s'' :=
  ⟨h'.current_eq.trans h.current_eq, fun l hl => h'.directory l (h.directory l hl)⟩

theorem step_of_keeps (h : s.Keeps s') {name : Text} {l' : Location}
    (hstep : s.step l name = .ok l') : s'.step l name = .ok l' := by
  unfold step at hstep ⊢
  split at hstep
  · cases hstep
  · cases hstep
  · next hdirectory =>
    rw [h.directory l hdirectory]
    exact hstep

theorem follow_of_keeps (h : s.Keeps s') {names : List Text} {l' : Location}
    (hfollow : s.follow l names = .ok l') : s'.follow l names = .ok l' := by
  induction names generalizing l with
  | nil => exact hfollow
  | cons name names ih =>
    rw [follow] at hfollow ⊢
    cases hstep : s.step l name with
    | error cause => simp [hstep] at hfollow
    | ok next =>
      rw [hstep] at hfollow
      rw [step_of_keeps h hstep]
      exact ih hfollow

theorem origin_of_keeps (h : s.Keeps s') (p : Path) : s'.origin p = s.origin p := by
  unfold origin
  rw [h.current_eq]

/-- **Locations stay** while directories stay. -/
theorem resolve_of_keeps (h : s.Keeps s') (hresolve : s.resolve p = .ok l) :
    s'.resolve p = .ok l := by
  obtain ⟨hnames, hlong, hfollow⟩ := resolve_eq_ok_iff.1 hresolve
  refine resolve_eq_ok_iff.2 ⟨hnames, hlong, ?_⟩
  rw [origin_of_keeps h]
  exact follow_of_keeps h hfollow

/-! ### Failed resolution -/

/-- A path leads through a file when some of its first names lead to a file, but not all. -/
def LeadsThroughFile (s : Store) (p : Path) : Prop :=
  ∃ names name rest l content, p.parts = names ++ name :: rest ∧
    s.follow (s.origin p) names = .ok l ∧ s.get? l = some (.file content)

/-- The bytes of a name are more than a name may have. -/
def LongName (name : Text) : Prop :=
  maxNameLength < (Utf8.bytes name).length

/-- A path whose first names make too long a path or have too long a name among them. -/
def Oversized (p : Path) : Prop :=
  ∃ names, names <+: p.parts ∧ (TooLong ⟨p.root, names⟩ ∨ ∃ name ∈ names, LongName name)

theorem follow_eq_error {names : List Text} {cause : Cause} (h : s.follow l names = .error cause) :
    cause = .notFound ∨ (cause = .nameTooLong ∧ ∃ name ∈ names, LongName name) ∨
      cause = .notDirectory ∧ ∃ before name rest l' content, names = before ++ name :: rest ∧
        s.follow l before = .ok l' ∧ s.get? l' = some (.file content) := by
  -- The names before the one that fails lead somewhere; a file stands there, or nothing.
  induction names generalizing l with
  | nil => cases h
  | cons name names ih =>
    rw [follow] at h
    cases hstep : s.step l name with
    | ok next =>
      rw [hstep] at h
      rcases ih h with h | ⟨hcause, long, hmem, hlong⟩ |
        ⟨hcause, before, name', rest, l', content, hnames, hfollow, hfile⟩
      · exact .inl h
      · exact .inr (.inl ⟨hcause, long, List.mem_cons_of_mem _ hmem, hlong⟩)
      · refine .inr (.inr ⟨hcause, name :: before, name', rest, l', content, by simp [hnames], ?_,
          hfile⟩)
        rw [follow, hstep]
        exact hfollow
    | error cause' =>
      rw [hstep] at h
      obtain rfl : cause' = cause := by simpa using h
      unfold step at hstep
      split at hstep
      · exact .inl (by simpa using hstep.symm)
      · next content hfile =>
        exact .inr (.inr ⟨by simpa using hstep.symm, [], name, names, l, content, rfl, rfl, hfile⟩)
      · split at hstep
        · cases hstep
        · split at hstep
          · next hlong =>
            exact .inr (.inl ⟨by simpa using hstep.symm, name, List.mem_cons_self, hlong⟩)
          · cases hstep

/-- Why a path does not resolve. -/
theorem resolve_eq_error {cause : Cause} (h : s.resolve p = .error cause) :
    cause = .notFound ∨ (cause = .nameTooLong ∧ Oversized p) ∨
      (cause = .notDirectory ∧ s.LeadsThroughFile p) ∨
      cause.isInvalid = true ∧ ∃ part ∈ p.parts, HasStray part := by
  unfold resolve at h
  split at h
  · next cause' hrefusal =>
    obtain rfl := Except.error.inj h
    refine .inr (.inr (.inr ⟨isInvalid_of_refusal? hrefusal, ?_⟩))
    by_contra hnone
    push Not at hnone
    cases hrefusal.symm.trans (refusal?_text_eq_none_iff.2 hnone)
  · split at h
    · next hlong => exact .inr (.inl ⟨by simpa using h.symm, p.parts, List.prefix_rfl, .inl hlong⟩)
    · rcases follow_eq_error h with h | ⟨hcause, hlong⟩ | h
      · exact .inl h
      · exact .inr (.inl ⟨hcause, p.parts, List.prefix_rfl, .inr hlong⟩)
      · exact .inr (.inr (.inl h))

theorem resolve_of_stray (h : ∃ part ∈ p.parts, HasStray part) :
    ∃ cause, s.resolve p = .error cause ∧ cause.isInvalid = true := by
  obtain ⟨part, hpart, hstray⟩ := h
  cases hrefusal : refusal? p.text with
  | none => exact absurd hstray (refusal?_text_eq_none_iff.1 hrefusal part hpart)
  | some cause => exact ⟨cause, by simp [resolve, hrefusal], isInvalid_of_refusal? hrefusal⟩

theorem resolve_nil_ne_notFound (s : Store) (root : Nat) :
    s.resolve ⟨root, []⟩ ≠ .error .notFound := by
  intro h
  have hrefusal : refusal? (Path.text ⟨root, []⟩) = none :=
    refusal?_text_eq_none_iff.2 (List.forall_mem_nil _)
  unfold resolve at h
  rw [hrefusal] at h
  simp only [follow] at h
  split at h <;> cases h

/-! ## New directories -/

/-- The path of a name in a directory. -/
def child (p : Path) (name : Text) : Path :=
  { p with parts := p.parts ++ [name] }

/-- Some first names of a path lead to a location. -/
def OnWay (s : Store) (p : Path) (l : Location) : Prop :=
  ∃ names, names <+: p.parts ∧ s.follow (s.origin p) names = .ok l

/-- `s'` is `s` with new directories, all of them on the way of `p`. -/
structure Opens (s : Store) (p : Path) (s' : Store) : Prop where
  current_eq : s'.current = s.current
  get?_cases : ∀ l, s'.get? l = s.get? l ∨
    s.get? l = none ∧ s'.get? l = some .directory ∧ s'.OnWay p l

namespace Opens

theorem refl (s : Store) (p : Path) : s.Opens p s :=
  ⟨rfl, fun _ => .inl rfl⟩

theorem keeps (h : s.Opens p s') : s.Keeps s' where
  current_eq := h.current_eq
  directory l hl := by
    rcases h.get?_cases l with heq | ⟨hnone, -, -⟩
    · rw [heq, hl]
    · rw [hnone] at hl
      cases hl

/-- What stands in a store stands in every store it opens to. -/
theorem get?_of_some (h : s.Opens p s') {node : Node} (hl : s.get? l = some node) :
    s'.get? l = some node := by
  rcases h.get?_cases l with heq | ⟨hnone, -, -⟩
  · rw [heq, hl]
  · rw [hnone] at hl
    cases hl

theorem file_iff (h : s.Opens p s') {content : List UInt8} :
    s'.get? l = some (.file content) ↔ s.get? l = some (.file content) := by
  refine ⟨fun hl => ?_, h.get?_of_some⟩
  rcases h.get?_cases l with heq | ⟨-, hdirectory, -⟩
  · rw [← heq, hl]
  · rw [hdirectory] at hl
    cases hl

end Opens

theorem OnWay.of_keeps (h : s.Keeps s') (hway : s.OnWay p l) : s'.OnWay p l := by
  obtain ⟨names, hprefix, hfollow⟩ := hway
  refine ⟨names, hprefix, ?_⟩
  rw [origin_of_keeps h]
  exact follow_of_keeps h hfollow

theorem OnWay.child (hway : s.OnWay p l) (name : Text) : s.OnWay (child p name) l := by
  obtain ⟨names, hprefix, hfollow⟩ := hway
  exact ⟨names, hprefix.trans (List.prefix_append _ _), hfollow⟩

theorem Opens.trans (h : s.Opens p s') (h' : s'.Opens p s'') : s.Opens p s'' where
  current_eq := h'.current_eq.trans h.current_eq
  get?_cases l := by
    rcases h'.get?_cases l with heq' | ⟨hnone', hdirectory', hway'⟩
    · rcases h.get?_cases l with heq | ⟨hnone, hdirectory, hway⟩
      · exact .inl (heq'.trans heq)
      · exact .inr ⟨hnone, heq'.trans hdirectory, hway.of_keeps h'.keeps⟩
    · rcases h.get?_cases l with heq | ⟨-, hdirectory, -⟩
      · exact .inr ⟨heq ▸ hnone', hdirectory', hway'⟩
      · rw [hdirectory] at hnone'
        cases hnone'

theorem Oversized.child (h : Oversized p) (name : Text) : Oversized (child p name) := by
  obtain ⟨names, hprefix, hlong⟩ := h
  exact ⟨names, hprefix.trans (List.prefix_append _ _), hlong⟩

theorem LeadsThroughFile.child (h : s.LeadsThroughFile p) (name : Text) :
    s.LeadsThroughFile (child p name) := by
  obtain ⟨names, next, rest, l, content, hparts, hfollow, hfile⟩ := h
  exact ⟨names, next, rest ++ [name], l, content, by simp [Store.child, hparts], hfollow, hfile⟩

theorem Opens.child (h : s.Opens p s') (name : Text) : s.Opens (child p name) s' where
  current_eq := h.current_eq
  get?_cases l := (h.get?_cases l).imp_right fun ⟨hnone, hdirectory, hway⟩ =>
    ⟨hnone, hdirectory, hway.child name⟩

/-! ## Operations -/

theorem kind_eq_directory_iff :
    s.kind p = .ok .directory ↔ ∃ l, s.resolve p = .ok l ∧ s.get? l = some .directory := by
  unfold kind
  cases s.resolve p with
  | error cause => simp
  | ok location =>
    cases hnode : s.get? location with
    | none => simp [hnode]
    | some node => cases node <;> simp [hnode, Node.kind]

theorem kind_ne_directory_of_error {cause : Cause} (h : s.resolve p = .error cause) :
    s.kind p ≠ .ok .directory := by
  intro hkind
  obtain ⟨l, hl, -⟩ := kind_eq_directory_iff.1 hkind
  rw [h] at hl
  cases hl

theorem ne_nil_of_get?_ne_directory (h : s.get? l ≠ some .directory) : l ≠ [] := by
  rintro rfl
  exact h rfl

/-- **A new directory** is all that making one adds. -/
theorem opens_makeDirectory (h : s.makeDirectory p = .ok s') :
    s.Opens p s' ∧ s'.kind p = .ok .directory := by
  unfold makeDirectory at h
  cases hresolve : s.resolve p with
  | error cause => simp [hresolve] at h
  | ok location =>
    cases hnode : s.get? location with
    | some node => simp [hresolve, hnode] at h
    | none =>
      obtain rfl : s.put location .directory = s' := by simpa [hresolve, hnode] using h
      have hget := get?_put s .directory
        (ne_nil_of_get?_ne_directory (s := s) (l := location) (by simp [hnode]))
      have hkeeps : s.Keeps (s.put location .directory) := ⟨rfl, fun l hl => by
        rw [hget]
        split
        · rfl
        · exact hl⟩
      have hresolve' := resolve_of_keeps hkeeps hresolve
      refine ⟨⟨rfl, fun l => ?_⟩, kind_eq_directory_iff.2 ⟨location, hresolve', by simp [hget]⟩⟩
      -- Only the location itself changes, and all names of the path lead there.
      by_cases hl : l = location
      · subst hl
        exact .inr ⟨hnode, by simp [hget], p.parts, List.prefix_rfl,
          (resolve_eq_ok_iff.1 hresolve').2.2⟩
      · exact .inl (by rw [hget, if_neg hl])

/-- Why a directory is not made. -/
theorem makeDirectory_eq_error {fault : Fault} (h : s.makeDirectory p = .error fault) :
    fault.path = p ∧ (s.resolve p = .error fault.cause ∨
      fault.cause = .alreadyExists ∧ ∃ l node, s.resolve p = .ok l ∧ s.get? l = some node) := by
  unfold makeDirectory at h
  cases hresolve : s.resolve p with
  | error cause =>
    obtain rfl : ⟨cause, p⟩ = fault := by simpa [hresolve] using h
    exact ⟨rfl, .inl rfl⟩
  | ok location =>
    cases hnode : s.get? location with
    | none => simp [hresolve, hnode] at h
    | some node =>
      obtain rfl : ⟨.alreadyExists, p⟩ = fault := by simpa [hresolve, hnode] using h
      exact ⟨rfl, .inr ⟨rfl, location, node, rfl, hnode⟩⟩

/-- **A written file** is all that writing it changes. -/
theorem get?_write (content : List UInt8) (hresolve : s.resolve p = .ok l)
    (hl : s.get? l ≠ some .directory) :
    ∃ s', s.write p content = .ok s' ∧ s.Keeps s' ∧
      ∀ l', s'.get? l' = if l' = l then some (.file content) else s.get? l' := by
  have hget := get?_put s (.file content) (ne_nil_of_get?_ne_directory hl)
  refine ⟨s.put l (.file content), ?_, ⟨rfl, fun l' hl' => ?_⟩, hget⟩
  · unfold write
    simp only [hresolve]
  · rw [hget, if_neg, hl']
    rintro rfl
    exact hl hl'

/-! ## Names in a directory -/

/-- What a name leads to in a directory, the directory above for a double point. -/
def inDirectory (d : Location) (name : Text) : Location :=
  if name = ".." then d.dropLast else d ++ [Utf8.bytes name]

theorem step_cases {d : Location} (hdirectory : s.get? d = some .directory) (name : Text) :
    s.step d name = .ok (inDirectory d name) ∨ s.step d name = .error .nameTooLong := by
  unfold step inDirectory
  rw [hdirectory]
  simp only
  split_ifs
  · exact .inl rfl
  · exact .inr rfl
  · exact .inl rfl

/-- **A name in a directory** resolves, unless it or the path is too long or it is the name of no
file. -/
theorem resolve_child_cases {d : Location} (hresolve : s.resolve p = .ok d)
    (hdirectory : s.get? d = some .directory) (name : Text) :
    s.resolve (child p name) = .ok (inDirectory d name) ∨
      s.resolve (child p name) = .error .nameTooLong ∨
      (∃ cause, s.resolve (child p name) = .error cause ∧ cause.isInvalid = true) ∧
        HasStray name := by
  obtain ⟨hnames, -, hfollow⟩ := resolve_eq_ok_iff.1 hresolve
  -- A stray name is refused at once; any other one is one more step, if the path is not too long.
  by_cases hname : HasStray name
  · exact .inr (.inr ⟨resolve_of_stray ⟨name, by simp [child], hname⟩, hname⟩)
  · have hrefusal : refusal? (child p name).text = none := refusal?_text_eq_none_iff.2
      (List.forall_mem_append.2 ⟨hnames, List.forall_mem_singleton.2 hname⟩)
    have hstep : s.follow (s.origin p) (child p name).parts = s.follow d [name] := by
      rw [child, follow_append, hfollow]
    rw [resolve, hrefusal]
    simp only
    by_cases hlong : maxPathLength < (Utf8.bytes (child p name).text).length
    · exact .inr (.inl (by rw [if_pos hlong]))
    · rw [if_neg hlong]
      change s.follow (s.origin p) (child p name).parts = _ ∨
        s.follow (s.origin p) (child p name).parts = _ ∨ _
      rw [hstep]
      rcases step_cases hdirectory name with hname | hname <;> simp [follow, hname]

/-- A name of one entry of a directory. -/
structure IsProper (name : Text) : Prop where
  ne_nil : name ≠ []
  no_slash : ∀ c ∈ name, (c == '/') = false
  ne_point : name ≠ [.char '.']
  ne_points : name ≠ ".."
  no_stray : ¬HasStray name

theorem IsProper.join_eq {name : Text} (h : IsProper name) (p : Path) :
    p.join name = child p name := by
  have hslashes : name.takeWhile (· == .char '/') = [] := by
    cases name with
    | nil => rfl
    | cons c rest => simp [h.no_slash c List.mem_cons_self]
  have hfields : Text.fields (· == .char '/') name = [name] := by
    simp [Text.fields, Text.splitOn_of_none h.no_slash, h.ne_nil]
  have hofText : Path.ofText name = ⟨0, [name]⟩ := by
    simp [Path.ofText, hslashes, hfields, h.ne_point]
  simp [Path.join, hofText, child]

/-- **A proper name stays in its directory**, if it and the path are not too long. -/
theorem resolve_child {d : Location} (hresolve : s.resolve p = .ok d)
    (hdirectory : s.get? d = some .directory) {name : Text} (hname : IsProper name) :
    s.resolve (child p name) = .ok (d ++ [Utf8.bytes name]) ∨
      s.resolve (child p name) = .error .nameTooLong ∧ Oversized (child p name) := by
  rcases resolve_child_cases hresolve hdirectory name with h | h | ⟨-, hstray⟩
  · rw [inDirectory, if_neg hname.ne_points] at h
    exact .inl h
  · rcases resolve_eq_error h with hcause | ⟨-, hlong⟩ | ⟨hcause, -⟩ | ⟨hcause, -⟩
    · cases hcause
    · exact .inr ⟨h, hlong⟩
    · cases hcause
    · cases hcause
  · exact absurd hstray hname.no_stray

theorem resolve_child_ne_notFound {name : Text} (h : s.kind p = .ok .directory) :
    s.resolve (child p name) ≠ .error .notFound := by
  obtain ⟨d, hresolve, hdirectory⟩ := kind_eq_directory_iff.1 h
  rcases resolve_child_cases hresolve hdirectory name with h | h | ⟨⟨cause, h, hinvalid⟩, -⟩
  · simp [h]
  · simp [h]
  · rw [h]
    rintro ⟨⟩
    cases hinvalid

end Store

end DocEnum.File
