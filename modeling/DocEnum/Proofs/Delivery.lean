import Mathlib
import DocEnum.Workspace
import DocEnum.Proofs.File.Growth

/-!
# Delivery into a store

What the work of writing a text into a directory does to the files around it.

**Work in memory.** `act` gives the outcome of an action and the surroundings after it, `perform`
that of a piece of work that can fail. Work is `Quiet` when it leaves the store alone.

**Directories** (`Furnished`). Making all directories of a path opens the store along the path. It
ends with a directory at the path, or because a file is in the way, or the path is no good.

**Delivery** (`Delivered`). A text delivered under a proper name is written into this directory, at
this name. A text without bytes fails there, but leaves its file behind, new or emptied. Otherwise
no file changes.

Main results: `furnished_makeDirectories`, `delivered_deliver`.
-/

namespace DocEnum

open File File.Store

namespace World

variable {α β : Type} {w w' : World} {path : Path}

/-! ## Work in memory -/

/-- What an action gives in some surroundings, and the surroundings after it. -/
def act (w : World) (action : StateM World α) : α × World :=
  action.run w

/-- The outcome of a piece of work in some surroundings, and the surroundings after it. -/
def perform (w : World) (work : ExceptT Error (StateM World) α) : Except Error α × World :=
  w.act work.run

/-- A known outcome leaves open only the surroundings after it. -/
theorem perform_eq_of_fst {work : ExceptT Error (StateM World) α} {outcome : Except Error α}
    (h : (w.perform work).1 = outcome) : w.perform work = (outcome, (w.perform work).2) := by
  rw [← h]

/-- Work succeeds if something is found in its result. -/
theorem exists_perform_eq_ok {work : ExceptT Error (StateM World) α} {find? : α → Option β} {b : β}
    (h : (w.perform work).1.toOption.bind find? = some b) :
    ∃ a, w.perform work = (.ok a, (w.perform work).2) ∧ find? a = some b := by
  cases hwork : (w.perform work).1 with
  | error e => simp [hwork, Except.toOption] at h
  | ok a => exact ⟨a, perform_eq_of_fst hwork, by simpa [hwork, Except.toOption] using h⟩

theorem act_pure (w : World) (a : α) : w.act (pure a) = (a, w) := rfl

theorem act_bind (w : World) (action : StateM World α) (next : α → StateM World β) :
    w.act (action >>= next) = (w.act action).2.act (next (w.act action).1) := rfl

@[simp] theorem perform_pure (w : World) (a : α) : w.perform (pure a) = (.ok a, w) := rfl

theorem perform_mk (w : World) (action : StateM World (Except Error α)) :
    w.perform (ExceptT.mk action) = w.act action := rfl

@[simp] theorem perform_lift (w : World) (action : StateM World α) :
    w.perform (liftM action) = (.ok (w.act action).1, (w.act action).2) := rfl

/-- What comes after a piece of work is done only if the work succeeds. -/
theorem perform_bind (w : World) (work : ExceptT Error (StateM World) α)
    (next : α → ExceptT Error (StateM World) β) :
    w.perform (work >>= next) =
      match w.perform work with
      | (.ok a, w') => w'.perform (next a)
      | (.error e, w') => (.error e, w') := by
  unfold perform
  rw [ExceptT.run_bind, act_bind]
  rcases w.act work.run with ⟨outcome, w'⟩
  cases outcome <;> rfl

/-- Work that comes first ends the whole with its error, or leaves the rest to do. -/
theorem perform_bind_cases {work : ExceptT Error (StateM World) α}
    {next : α → ExceptT Error (StateM World) β} {outcome : Except Error β}
    (h : w.perform (work >>= next) = (outcome, w')) :
    (∃ e, w.perform work = (.error e, w') ∧ outcome = .error e) ∨
      ∃ a w₁, w.perform work = (.ok a, w₁) ∧ w₁.perform (next a) = (outcome, w') := by
  rw [perform_bind] at h
  rcases hwork : w.perform work with ⟨e | a, w₁⟩
  · rw [hwork] at h
    obtain ⟨rfl, rfl⟩ := Prod.mk.inj h
    exact .inl ⟨e, rfl, rfl⟩
  · rw [hwork] at h
    exact .inr ⟨a, w₁, rfl, h⟩

/-! ### Quiet work -/

/-- The work leaves the store alone. -/
def Quiet (work : ExceptT Error (StateM World) α) : Prop :=
  ∀ w : World, (w.perform work).2.store = w.store

theorem quiet_pure (a : α) : Quiet (pure a) := fun _ => rfl

theorem quiet_throw (e : Error) : Quiet (throw e : ExceptT Error (StateM World) α) := fun _ => rfl

theorem quiet_mk_pure (outcome : Except Error α) :
    Quiet (ExceptT.mk (pure outcome) : ExceptT Error (StateM World) α) := fun _ => rfl

theorem Quiet.bind {work : ExceptT Error (StateM World) α}
    {next : α → ExceptT Error (StateM World) β} (h : Quiet work) (hnext : ∀ a, Quiet (next a)) :
    Quiet (work >>= next) := by
  intro w
  rw [perform_bind]
  have hw := h w
  rcases hwork : w.perform work with ⟨outcome, w'⟩
  rw [hwork] at hw
  cases outcome with
  | error e => exact hw
  | ok a => exact (hnext a w').trans hw

theorem quiet_record (r : Record) :
    Quiet (liftM (Workspace.record r : StateM World Unit)) := fun _ => rfl

theorem store_act_recordAll (w : World) (records : List Record) :
    (w.act (Workspace.recordAll records)).2.store = w.store := by
  induction records generalizing w with
  | nil => rfl
  | cons r rest ih =>
    rw [Workspace.recordAll, act_bind, ih]
    rfl

theorem quiet_recordAll (records : List Record) :
    Quiet (liftM (Workspace.recordAll records : StateM World Unit)) :=
  fun w => store_act_recordAll w records

theorem perform_readText (w : World) (path : Path) :
    w.perform (Workspace.readText path) =
      (match w.store.read path with
        | .error fault => .error (.file fault)
        | .ok bytes => Workspace.text bytes, w) := by
  unfold Workspace.readText
  rw [perform_bind]
  change w.perform _ = _
  cases w.store.read path <;> rfl

theorem perform_readText_ok {bytes : List UInt8} {text : Text}
    (hfile : w.store.read path = .ok bytes) (htext : Workspace.text bytes = .ok text) :
    w.perform (Workspace.readText path) = (.ok text, w) := by
  rw [perform_readText, hfile]
  simp only [htext]

/-- What is read from a file has bytes. -/
theorem encodable_of_text {bytes : List UInt8} {text : Text}
    (h : Workspace.text bytes = .ok text) : Utf8.Encodable text := by
  unfold Workspace.text at h
  split at h
  · next hdecode =>
    obtain rfl := Except.ok.inj h
    exact Utf8.encodable_of_decodeLines hdecode
  · cases h

theorem quiet_readText (path : Path) :
    Quiet (Workspace.readText path : ExceptT Error (StateM World) Text) := by
  intro w
  rw [perform_readText]

/-! ## Directories -/

/-- What making all directories of a path can come to. -/
inductive Furnished (s : Store) (path : Path) (s' : Store) : Except File.Fault Unit → Prop
  | made (h : s'.kind path = .ok .directory) : Furnished s path s' (.ok ())
  | inTheWay {fault : File.Fault} (h : fault.cause = .alreadyExists) :
      Furnished s path s' (.error fault)
  | throughFile {fault : File.Fault} (h : fault.cause = .notDirectory)
      (hfile : s'.LeadsThroughFile path) : Furnished s path s' (.error fault)
  | tooLong {fault : File.Fault} (h : fault.cause = .nameTooLong) (hlong : Oversized path) :
      Furnished s path s' (.error fault)
  | refused {fault : File.Fault} (h : fault.cause.isInvalid = true)
      (hstray : ∃ part ∈ path.parts, HasStray part) (hs : s' = s) :
      Furnished s path s' (.error fault)

theorem act_makeDirectory (w : World) (path : Path) :
    w.act (Workspace.makeDirectory path) =
      match w.store.makeDirectory path with
      | .ok store => (.ok (), { w with store })
      | .error fault => (.error fault, w) := rfl

theorem act_isDirectory (w : World) (path : Path) :
    w.act (Workspace.isDirectory path) = (decide (w.store.kind path = .ok .directory), w) := by
  unfold Workspace.isDirectory
  have hkind : w.act (Workspace.kind path) = (w.store.kind path, w) := rfl
  rw [act_bind, hkind]
  rcases w.store.kind path with fault | _ | _ <;> rfl

theorem act_overlook (w : World) (path : Path) (fault : File.Fault) :
    w.act (Workspace.overlook path (.error fault)) =
      (if fault.cause = .notFound ∨ fault.cause.isInvalid = true then .error fault
        else if w.store.kind path = .ok .directory then .ok () else .error fault, w) := by
  simp only [Workspace.overlook]
  by_cases hcause : fault.cause = .notFound ∨ fault.cause.isInvalid = true
  · rw [if_pos hcause, if_pos hcause]
    rfl
  · rw [if_neg hcause, if_neg hcause, act_bind, act_isDirectory]
    by_cases hkind : w.store.kind path = .ok .directory <;> simp [hkind] <;> rfl

/-- **One directory**, where none is missing above it. -/
theorem furnished_ensureDirectory {outcome : Except File.Fault Unit}
    (hfound : w.store.resolve path ≠ .error .notFound)
    (h : w.act (Workspace.ensureDirectory path) = (outcome, w')) :
    w.store.Opens path w'.store ∧ Furnished w.store path w'.store outcome := by
  unfold Workspace.ensureDirectory at h
  rw [act_bind, act_makeDirectory] at h
  cases hmake : w.store.makeDirectory path with
  | ok store =>
    rw [hmake] at h
    obtain ⟨rfl, rfl⟩ : .ok () = outcome ∧ { w with store } = w' := Prod.mk.inj h
    obtain ⟨hopens, hkind⟩ := opens_makeDirectory hmake
    exact ⟨hopens, .made hkind⟩
  | error fault =>
    rw [hmake] at h
    simp only [act_overlook] at h
    obtain ⟨rfl, rfl⟩ := Prod.mk.inj h
    refine ⟨.refl _ _, ?_⟩
    -- The path leads nowhere, or something stands there already.
    obtain ⟨-, hresolve | ⟨hcause, l, node, hresolve, hnode⟩⟩ := makeDirectory_eq_error hmake
    · have hkind := kind_ne_directory_of_error hresolve
      rcases resolve_eq_error hresolve with
        hcause | ⟨hcause, hlong⟩ | ⟨hcause, hfile⟩ | ⟨hinvalid, hstray⟩
      · exact absurd (hcause ▸ hresolve) hfound
      · simpa [hcause, hkind] using .tooLong hcause hlong
      · simpa [hcause, hkind] using .throughFile hcause hfile
      · simpa [hinvalid] using .refused hinvalid hstray rfl
    · by_cases hkind : w.store.kind path = .ok .directory
      · simpa [hcause, hkind] using .made hkind
      · simpa [hcause, hkind] using .inTheWay hcause

theorem act_makeDirectoriesFrom_cons (w : World) (root : Nat) (name : Text) (above : List Text) :
    w.act (Workspace.makeDirectoriesFrom root (name :: above)) =
      match w.store.makeDirectory ⟨root, (name :: above).reverse⟩ with
      | .error ⟨.notFound, _⟩ =>
        match w.act (Workspace.makeDirectoriesFrom root above) with
        | (.error fault, w') => (.error fault, w')
        | (.ok (), w') => w'.act (Workspace.ensureDirectory ⟨root, (name :: above).reverse⟩)
      | _ => w.act (Workspace.ensureDirectory ⟨root, (name :: above).reverse⟩) := by
  rw [Workspace.makeDirectoriesFrom]
  simp only [act_bind, Workspace.ensureDirectory, act_makeDirectory]
  cases w.store.makeDirectory ⟨root, (name :: above).reverse⟩ with
  | ok store => simp only
  | error fault =>
    rcases fault with ⟨cause, path⟩
    cases cause <;> simp only [act_bind]
    rcases w.act (Workspace.makeDirectoriesFrom root above) with ⟨_ | _, w'⟩ <;> rfl

/-- With a directory missing, those above are made first. -/
theorem act_makeDirectoriesFrom_of_missing {root : Nat} {name : Text} {above : List Text}
    (h : w.store.resolve ⟨root, (name :: above).reverse⟩ = .error .notFound) :
    w.act (Workspace.makeDirectoriesFrom root (name :: above)) =
      match w.act (Workspace.makeDirectoriesFrom root above) with
      | (.error fault, w') => (.error fault, w')
      | (.ok (), w') => w'.act (Workspace.ensureDirectory ⟨root, (name :: above).reverse⟩) := by
  have hmake : w.store.makeDirectory ⟨root, (name :: above).reverse⟩ =
      .error ⟨.notFound, ⟨root, (name :: above).reverse⟩⟩ := by
    simp only [makeDirectory, h]
  rw [act_makeDirectoriesFrom_cons, hmake]

theorem act_makeDirectoriesFrom_of_found {root : Nat} {name : Text} {above : List Text}
    (h : w.store.resolve ⟨root, (name :: above).reverse⟩ ≠ .error .notFound) :
    w.act (Workspace.makeDirectoriesFrom root (name :: above)) =
      w.act (Workspace.ensureDirectory ⟨root, (name :: above).reverse⟩) := by
  rw [act_makeDirectoriesFrom_cons]
  cases hmake : w.store.makeDirectory ⟨root, (name :: above).reverse⟩ with
  | ok store => rfl
  | error fault =>
    obtain ⟨-, hresolve | ⟨hcause, -⟩⟩ := makeDirectory_eq_error hmake <;>
      rcases fault with ⟨cause, path⟩ <;> cases cause <;> simp_all

/-- A failure above a path is one of the path. -/
theorem Furnished.child {s s' : Store} {fault : File.Fault}
    (h : Furnished s path s' (.error fault)) (name : Text) :
    Furnished s (child path name) s' (.error fault) := by
  cases h with
  | inTheWay hcause => exact .inTheWay hcause
  | tooLong hcause hlong => exact .tooLong hcause (hlong.child name)
  | throughFile hcause hfile => exact .throughFile hcause (hfile.child name)
  | refused hinvalid hstray hs =>
    obtain ⟨part, hpart, hstray⟩ := hstray
    exact .refused hinvalid ⟨part, by simp [Store.child, hpart], hstray⟩ hs

/-- **All directories of a path**, given by its names in reverse. -/
theorem furnished_makeDirectoriesFrom {root : Nat} {names : List Text} {w w' : World}
    {outcome : Except File.Fault Unit}
    (h : w.act (Workspace.makeDirectoriesFrom root names) = (outcome, w')) :
    w.store.Opens ⟨root, names.reverse⟩ w'.store ∧
      Furnished w.store ⟨root, names.reverse⟩ w'.store outcome := by
  induction names generalizing w w' outcome with
  | nil => exact furnished_ensureDirectory (resolve_nil_ne_notFound _ root) h
  | cons name above ih =>
    have hpath : (⟨root, (name :: above).reverse⟩ : Path) = child ⟨root, above.reverse⟩ name := by
      simp [child]
    rw [hpath]
    by_cases hfound : w.store.resolve (child ⟨root, above.reverse⟩ name) = .error .notFound
    · rw [act_makeDirectoriesFrom_of_missing (hpath ▸ hfound), hpath] at h
      rcases habove : w.act (Workspace.makeDirectoriesFrom root above) with ⟨outcome₁, w₁⟩
      rw [habove] at h
      obtain ⟨hopens, hfurnished⟩ := ih habove
      have hopens := hopens.child name
      cases outcome₁ with
      | error fault =>
        obtain ⟨rfl, rfl⟩ : .error fault = outcome ∧ w₁ = w' := Prod.mk.inj h
        exact ⟨hopens, hfurnished.child name⟩
      | ok made =>
        cases hfurnished with
        | made hkind =>
          obtain ⟨hopens', hfurnished'⟩ :=
            furnished_ensureDirectory (resolve_child_ne_notFound hkind) h
          refine ⟨hopens.trans hopens', ?_⟩
          -- The path is not refused, or it would not have been missed at first.
          cases hfurnished' with
          | made hkind => exact .made hkind
          | inTheWay hcause => exact .inTheWay hcause
          | tooLong hcause hlong => exact .tooLong hcause hlong
          | throughFile hcause hfile => exact .throughFile hcause hfile
          | refused _ hstray =>
            obtain ⟨cause, hresolve, hinvalid⟩ := resolve_of_stray hstray
            rw [hfound] at hresolve
            obtain rfl := Except.error.inj hresolve
            cases hinvalid
    · rw [act_makeDirectoriesFrom_of_found (hpath ▸ hfound), hpath] at h
      exact furnished_ensureDirectory hfound h

/-- **All directories of a path.** -/
theorem furnished_makeDirectories {outcome : Except File.Fault Unit}
    (h : w.act (Workspace.makeDirectories path) = (outcome, w')) :
    w.store.Opens path w'.store ∧ Furnished w.store path w'.store outcome := by
  have h := furnished_makeDirectoriesFrom h
  rwa [List.reverse_reverse] at h

/-! ## Delivery -/

theorem perform_isPresent (w : World) (path : Path) :
    w.perform (Workspace.isPresent path) =
      (match w.store.kind path with
        | .ok _ => .ok true
        | .error fault => if fault.cause = .nameTooLong then .error (.file fault) else .ok false,
        w) := by
  unfold Workspace.isPresent
  rw [perform_bind]
  change w.perform _ = _
  cases w.store.kind path with
  | ok kind => rfl
  | error fault => rcases fault with ⟨cause, path⟩; cases cause <;> rfl

theorem act_write (w : World) (path : Path) (bytes : List UInt8) :
    w.act (Workspace.write path bytes) =
      match w.store.write path bytes with
      | .ok store => (.ok (), { w with store })
      | .error fault => (.error fault, w) := rfl

theorem perform_writeBytes (w : World) (path : Path) (bytes : List UInt8) :
    w.perform (Workspace.writeBytes path bytes) =
      match w.store.write path bytes with
      | .ok store => (.ok (), { w with store })
      | .error fault => (.error (.file fault), w) := by
  unfold Workspace.writeBytes
  rw [perform_bind, perform_lift, act_write]
  cases w.store.write path bytes <;> rfl

theorem perform_writeText (w : World) (path : Path) (content : Text) :
    w.perform (Workspace.writeText path content) =
      match Utf8.encode content with
      | .ok bytes =>
        match w.store.write path bytes with
        | .ok store => (.ok bytes.length, { w with store })
        | .error fault => (.error (.file fault), w)
      | .error unencodable =>
        match w.store.write path [] with
        | .ok store => (.error (.unencodable unencodable), { w with store })
        | .error fault => (.error (.file fault), w) := by
  unfold Workspace.writeText
  rcases Utf8.encode content with unencodable | bytes
  · simp only [perform_bind, perform_writeBytes]
    cases w.store.write path [] <;> rfl
  · simp only [perform_bind, perform_writeBytes]
    cases w.store.write path bytes <;> rfl

/-- Why a text is not delivered. -/
inductive Undelivered (s : Store) (directory : Path) (name : Text) (overwrite : Bool)
    (s' : Store) : Error → Prop
  | targetExists (hkeep : overwrite = false) :
      Undelivered s directory name overwrite s' (.targetExists (child directory name))
  | unfurnished {fault : File.Fault} (h : Furnished s directory s' (.error fault)) :
      Undelivered s directory name overwrite s' (.file fault)
  | tooLong {fault : File.Fault} (h : fault.cause = .nameTooLong)
      (hlong : Oversized (child directory name)) :
      Undelivered s directory name overwrite s' (.file fault)
  | isDirectory {fault : File.Fault} (h : fault.cause = .isDirectory) (hover : overwrite = true)
      (hkind : s'.kind (child directory name) = .ok .directory) :
      Undelivered s directory name overwrite s' (.file fault)

/-- A file with the given bytes is put into a directory, after the directories of its path were
made. -/
structure Placed (s s₁ : Store) (directory : Path) (d : Location) (name : Text) (overwrite : Bool)
    (bytes : List UInt8) (s' : Store) : Prop where
  opens : s.Opens directory s₁
  resolve_directory : s₁.resolve directory = .ok d
  get?_directory : s₁.get? d = some .directory
  resolve_target : s₁.resolve (child directory name) = .ok (d ++ [Utf8.bytes name])
  free : s₁.get? (d ++ [Utf8.bytes name]) = none ∨
    overwrite = true ∧ s₁.get? (d ++ [Utf8.bytes name]) ≠ some .directory
  keeps : s₁.Keeps s'
  get? : ∀ l, s'.get? l = if l = d ++ [Utf8.bytes name] then some (.file bytes) else s₁.get? l

/-- What delivering a text can come to. -/
inductive Delivered (s : Store) (directory : Path) (name content : Text) (overwrite : Bool)
    (s' : Store) : Except Error Path → Prop
  | written {s₁ : Store} {d : Location} {bytes : List UInt8}
      (hbytes : Utf8.encode content = .ok bytes)
      (h : Placed s s₁ directory d name overwrite bytes s') :
      Delivered s directory name content overwrite s' (.ok (child directory name))
  | spoiled {s₁ : Store} {d : Location} {fault : Utf8.EncodeFault}
      (hfault : Utf8.encode content = .error fault)
      (h : Placed s s₁ directory d name overwrite [] s') :
      Delivered s directory name content overwrite s' (.error (.unencodable fault))
  | failed {e : Error} (hopens : s.Opens directory s')
      (h : Undelivered s directory name overwrite s' e) :
      Delivered s directory name content overwrite s' (.error e)

theorem perform_place (w : World) (target : Path) (content : Text) (overwrite : Bool) :
    w.perform (Workspace.place target content overwrite) =
      match w.perform (Workspace.isPresent target) with
      | (.error e, w₁) => (.error e, w₁)
      | (.ok isPresent, w₁) =>
        if isPresent && !overwrite then (.error (.targetExists target), w₁)
        else
          match w₁.perform (Workspace.writeText target content) with
          | (.error e, w₂) => (.error e, w₂)
          | (.ok size, w₂) =>
            (.ok target, (w₂.act (Workspace.record ⟨.info,
              "wrote " ++ target.text ++ " (" ++ Text.ofNat size ++ " bytes)"⟩)).2) := by
  unfold Workspace.place
  rw [perform_bind]
  rcases w.perform (Workspace.isPresent target) with ⟨_ | isPresent, w₁⟩
  · rfl
  · simp only
    split
    · rfl
    · rw [perform_bind]
      rcases w₁.perform (Workspace.writeText _ _) with ⟨_ | _, w₂⟩ <;> rfl

theorem perform_deliver (w : World) {directory : Path} {name : Text} (content : Text)
    (overwrite : Bool) (hname : IsProper name) :
    w.perform (Workspace.deliver directory name content overwrite) =
      match w.act (Workspace.makeDirectories directory) with
      | (.error fault, w₁) => (.error (.file fault), w₁)
      | (.ok (), w₁) =>
        w₁.perform (Workspace.place (child directory name) content overwrite) := by
  unfold Workspace.deliver
  rw [hname.join_eq, perform_bind, perform_lift]
  rcases w.act (Workspace.makeDirectories directory) with ⟨_ | _, w₁⟩ <;> rfl

/-! ### Placing a file -/

section Placing

variable {s : Store} {directory : Path} {d : Location} {name content : Text} {overwrite : Bool}

/-- Something is present at a proper name in a directory, or nothing, unless the name or the path is
too long. -/
theorem perform_isPresent_child (w : World) (hresolve : w.store.resolve directory = .ok d)
    (hdirectory : w.store.get? d = some .directory) (hname : IsProper name) :
    (w.store.resolve (child directory name) = .ok (d ++ [Utf8.bytes name]) ∧
        w.perform (Workspace.isPresent (child directory name)) =
          (.ok (w.store.get? (d ++ [Utf8.bytes name])).isSome, w)) ∨
      Oversized (child directory name) ∧
        w.perform (Workspace.isPresent (child directory name)) =
          (.error (.file ⟨.nameTooLong, child directory name⟩), w) := by
  rcases resolve_child hresolve hdirectory hname with htarget | ⟨htarget, hlong⟩
  · refine .inl ⟨htarget, ?_⟩
    rw [perform_isPresent]
    cases hnode : w.store.get? (d ++ [Utf8.bytes name]) <;> simp [kind, htarget, hnode]
  · refine .inr ⟨hlong, ?_⟩
    rw [perform_isPresent]
    simp [kind, htarget]

/-- A file is written where none may be replaced, or none stands. -/
theorem placed_of_free {s₁ : Store} (bytes : List UInt8) (hopens : s.Opens directory s₁)
    (hresolve : s₁.resolve directory = .ok d) (hdirectory : s₁.get? d = some .directory)
    (htarget : s₁.resolve (child directory name) = .ok (d ++ [Utf8.bytes name]))
    (hfree : s₁.get? (d ++ [Utf8.bytes name]) = none ∨
      overwrite = true ∧ s₁.get? (d ++ [Utf8.bytes name]) ≠ some .directory) :
    ∃ s', s₁.write (child directory name) bytes = .ok s' ∧
      Placed s s₁ directory d name overwrite bytes s' := by
  have hfile : s₁.get? (d ++ [Utf8.bytes name]) ≠ some .directory := by
    rcases hfree with hnone | ⟨-, hfile⟩
    · simp [hnone]
    · exact hfile
  obtain ⟨s', hwrite, hkeeps, hget⟩ := get?_write bytes htarget hfile
  exact ⟨s', hwrite, hopens, hresolve, hdirectory, htarget, hfree, hkeeps, hget⟩

/-- At a free place a text is written, or leaves an empty file. -/
theorem delivered_of_free (hopens : s.Opens directory w.store)
    (hresolve : w.store.resolve directory = .ok d) (hdirectory : w.store.get? d = some .directory)
    (htarget : w.store.resolve (child directory name) = .ok (d ++ [Utf8.bytes name]))
    (hfree : w.store.get? (d ++ [Utf8.bytes name]) = none ∨
      overwrite = true ∧ w.store.get? (d ++ [Utf8.bytes name]) ≠ some .directory)
    {outcome : Except Error Nat}
    (h : w.perform (Workspace.writeText (child directory name) content) = (outcome, w')) :
    Delivered s directory name content overwrite w'.store
      (outcome.map fun _ => child directory name) := by
  rw [perform_writeText] at h
  cases hcontent : Utf8.encode content with
  | ok bytes =>
    obtain ⟨s', hwrite, hplaced⟩ :=
      placed_of_free bytes hopens hresolve hdirectory htarget hfree
    rw [hcontent] at h
    simp only [hwrite] at h
    obtain ⟨rfl, rfl⟩ := Prod.mk.inj h
    exact .written hcontent hplaced
  | error fault =>
    obtain ⟨s', hwrite, hplaced⟩ := placed_of_free [] hopens hresolve hdirectory htarget hfree
    rw [hcontent] at h
    simp only [hwrite] at h
    obtain ⟨rfl, rfl⟩ := Prod.mk.inj h
    exact .spoiled hcontent hplaced

/-- Writing where a directory stands fails, whatever the text. -/
theorem perform_writeText_directory
    (htarget : w.store.resolve (child directory name) = .ok (d ++ [Utf8.bytes name]))
    (hnode : w.store.get? (d ++ [Utf8.bytes name]) = some .directory) :
    w.perform (Workspace.writeText (child directory name) content) =
      (.error (.file ⟨.isDirectory, child directory name⟩), w) := by
  have hwrite (bytes : List UInt8) : w.store.write (child directory name) bytes =
      .error ⟨.isDirectory, child directory name⟩ := by
    simp [write, htarget, hnode]
  rw [perform_writeText]
  rcases Utf8.encode content with fault | bytes <;> simp only [hwrite]

/-- **Placing a text** in a directory. -/
theorem delivered_place (hopens : s.Opens directory w.store)
    (hkind : w.store.kind directory = .ok .directory) (hname : IsProper name)
    {outcome : Except Error Path}
    (h : w.perform (Workspace.place (child directory name) content overwrite) = (outcome, w')) :
    Delivered s directory name content overwrite w'.store outcome := by
  obtain ⟨d, hresolve, hdirectory⟩ := kind_eq_directory_iff.1 hkind
  rw [perform_place] at h
  rcases perform_isPresent_child w hresolve hdirectory hname with
    ⟨htarget, hpresent⟩ | ⟨hlong, hpresent⟩
  · rw [hpresent] at h
    simp only at h
    by_cases hfree : w.store.get? (d ++ [Utf8.bytes name]) = none ∨
        overwrite = true ∧ w.store.get? (d ++ [Utf8.bytes name]) ≠ some .directory
    · have hgo : ((w.store.get? (d ++ [Utf8.bytes name])).isSome && !overwrite) = false := by
        rcases hfree with hnone | ⟨rfl, -⟩ <;> simp [*]
      rw [hgo, if_neg Bool.false_ne_true] at h
      rcases hwrite : w.perform (Workspace.writeText (child directory name) content) with
        ⟨written, w₂⟩
      have hdelivered := delivered_of_free hopens hresolve hdirectory htarget hfree hwrite
      rw [hwrite] at h
      cases written with
      | error e =>
        obtain ⟨rfl, rfl⟩ := Prod.mk.inj h
        exact hdelivered
      | ok size =>
        -- What is recorded after writing leaves the store alone.
        obtain ⟨rfl, rfl⟩ := Prod.mk.inj h
        exact hdelivered
    · obtain ⟨hnone, hdirectory'⟩ := not_or.1 hfree
      obtain ⟨node, hnode⟩ := Option.ne_none_iff_exists'.1 hnone
      cases overwrite with
      | false =>
        rw [hnode] at h
        obtain ⟨rfl, rfl⟩ := Prod.mk.inj h
        exact .failed hopens (.targetExists rfl)
      | true =>
        -- Only a directory is not free for a job that may overwrite.
        have hnode' : w.store.get? (d ++ [Utf8.bytes name]) = some .directory := by
          by_contra hfile
          exact hdirectory' ⟨rfl, hfile⟩
        rw [hnode', perform_writeText_directory htarget hnode'] at h
        obtain ⟨rfl, rfl⟩ := Prod.mk.inj h
        exact .failed hopens (.isDirectory rfl rfl
          (kind_eq_directory_iff.2 ⟨_, htarget, hnode'⟩))
  · rw [hpresent] at h
    obtain ⟨rfl, rfl⟩ := Prod.mk.inj h
    exact .failed hopens (.tooLong rfl hlong)

end Placing

/-- **A delivery** writes one file in its directory, or no file at all. -/
theorem delivered_deliver {directory : Path} {name content : Text} {overwrite : Bool}
    (hname : IsProper name) {outcome : Except Error Path}
    (h : w.perform (Workspace.deliver directory name content overwrite) = (outcome, w')) :
    Delivered w.store directory name content overwrite w'.store outcome := by
  rw [perform_deliver w content overwrite hname] at h
  rcases hmake : w.act (Workspace.makeDirectories directory) with ⟨made, w₁⟩
  obtain ⟨hopens, hfurnished⟩ := furnished_makeDirectories hmake
  rw [hmake] at h
  cases made with
  | error fault =>
    -- Nothing is placed, but directories may have been made before the fault.
    obtain ⟨rfl, rfl⟩ := Prod.mk.inj h
    exact .failed hopens (.unfurnished hfurnished)
  | ok =>
    cases hfurnished with
    | made hkind => exact delivered_place hopens hkind hname h

end World

end DocEnum
