import Mathlib
import DocEnum.Proofs.File.Destination
import DocEnum.Proofs.Job.Effect

/-!
# Jobs that find something in the way

What it says that a job ends with the warning that a file exists.

**Refusal** (`Refused`). A job with a source ends with this warning for one of two reasons. A file
is in the way of its directory, or something stands at its target and is not to be replaced. The
first reason has the same warning as the second, and it has nothing to do with replacing files.

**Obstruction** (`Obstructed`). Both reasons can be told from the store before the job. While the
directories of a path with double points are made, the path passes places that it does not lead to
before; so the reasons are told by destinations.

**Plain paths.** In a tree of files a plain path has something in the way only if a file stands at
the directory itself, or something at the target. A file further above stops the job.

Main result: `warned_fileExists_iff`.
-/

namespace DocEnum

open File File.Store World

variable {job : Job} {w w' : World} {directory : Path} {name : Text} {overwrite : Bool}

/-! ## Refusal -/

/-- Why a text is not written because something exists. -/
inductive Refused (w : World) (directory : Path) (name : Text) (overwrite : Bool) : Prop
  | directory {fault : File.Fault} {w' : World}
      (hmake : w.act (Workspace.makeDirectories directory) = (.error fault, w'))
      (hcause : fault.cause = .alreadyExists) : Refused w directory name overwrite
  | target {w' : World} {d : Location}
      (hmake : w.act (Workspace.makeDirectories directory) = (.ok (), w'))
      (htarget : w'.store.resolve (child directory name) = .ok (d ++ [Utf8.bytes name]))
      (hpresent : w'.store.get? (d ++ [Utf8.bytes name]) ≠ none) (hkeep : overwrite = false) :
      Refused w directory name overwrite

theorem cause_of_fileExists {fault : File.Fault}
    (h : Warning.ofOutputError? (.file fault) = some .fileExists) :
    fault.cause = .alreadyExists := by
  rw [ofOutputError?_file] at h
  by_contra hcause
  rw [if_neg hcause] at h
  split at h
  · cases h
  · cases h

/-- Writing itself never finds that something exists. -/
theorem ofOutputError?_writeText {path : Path} {content : Text} {l : Location} {e : Error}
    (hresolve : w.store.resolve path = .ok l)
    (h : w.perform (Workspace.writeText path content) = (.error e, w')) :
    Warning.ofOutputError? e ≠ some .fileExists := by
  -- At a path that leads somewhere, only a directory stops the writing.
  have hwrite : ∀ bytes fault, w.store.write path bytes = .error fault →
      fault.cause = .isDirectory := by
    intro bytes fault h
    simp only [write, hresolve] at h
    split at h
    · obtain rfl := Except.error.inj h
      rfl
    · cases h
  intro hwarning
  rw [perform_writeText] at h
  split at h <;> split at h
  · cases h
  · next fault hfault =>
    obtain ⟨⟨rfl⟩, -⟩ := Prod.mk.inj h
    cases (cause_of_fileExists hwarning).symm.trans (hwrite _ fault hfault)
  · obtain ⟨⟨rfl⟩, -⟩ := Prod.mk.inj h
    cases hwarning
  · next fault hfault =>
    obtain ⟨⟨rfl⟩, -⟩ := Prod.mk.inj h
    cases (cause_of_fileExists hwarning).symm.trans (hwrite _ fault hfault)

/-- **A delivery** is refused only while its directory is made, or because of its target. -/
theorem refused_deliver {content : Text} {e : Error} (hname : IsProper name)
    (h : w.perform (Workspace.deliver directory name content overwrite) = (.error e, w'))
    (hwarning : Warning.ofOutputError? e = some .fileExists) :
    Refused w directory name overwrite := by
  rw [perform_deliver w content overwrite hname] at h
  rcases hmake : w.act (Workspace.makeDirectories directory) with ⟨made, w₁⟩
  obtain ⟨-, hfurnished⟩ := furnished_makeDirectories hmake
  rw [hmake] at h
  cases made with
  | error fault =>
    obtain ⟨⟨rfl⟩, rfl⟩ := Prod.mk.inj h
    exact .directory hmake (cause_of_fileExists hwarning)
  | ok =>
    obtain hkind : w₁.store.kind directory = .ok .directory := by
      cases hfurnished with | made hkind => exact hkind
    obtain ⟨d, hresolve, hdirectory⟩ := kind_eq_directory_iff.1 hkind
    simp only [perform_place] at h
    -- In a directory a proper name leads somewhere, unless it is too long.
    rcases perform_isPresent_child w₁ hresolve hdirectory hname with
      ⟨htarget, hpresent⟩ | ⟨-, hpresent⟩
    · rw [hpresent] at h
      simp only at h
      split at h
      · next hrefused =>
        obtain ⟨hsome, hkeep⟩ := Bool.and_eq_true_iff.1 hrefused
        exact .target hmake htarget (Option.isSome_iff_ne_none.1 hsome) (by simpa using hkeep)
      · rcases hwrite : w₁.perform (Workspace.writeText (child directory name) content) with
          ⟨e' | size, w₂⟩
        · rw [hwrite] at h
          obtain ⟨⟨rfl⟩, rfl⟩ := Prod.mk.inj h
          exact absurd hwarning (ofOutputError?_writeText htarget hwrite)
        · rw [hwrite] at h
          cases congrArg Prod.fst h
    · rw [hpresent] at h
      obtain ⟨⟨rfl⟩, rfl⟩ := Prod.mk.inj h
      cases cause_of_fileExists hwarning

theorem Draft.Sourceless.ofOutputError?_ne {draft : Draft} {style : Java.Style} {e : Error}
    (h : draft.Sourceless style e) : Warning.ofOutputError? e ≠ some .fileExists := by
  cases h <;> simp [Warning.ofOutputError?, Error.isPresent]

/-- The draft of a job that is refused has a source. -/
theorem refused_writeFile {draft : Draft} {style : Java.Style} {e : Error}
    (h : w.perform (draft.writeFile directory style overwrite) = (.error e, w'))
    (hwarning : Warning.ofOutputError? e = some .fileExists) :
    ∃ request source, draft.request? = some request ∧ Java.generate style request = .ok source ∧
      Refused w directory request.fileName overwrite := by
  cases came_writeFile h with
  | sourceless hsourceless => exact absurd hwarning hsourceless.ofOutputError?_ne
  | @delivered request source _ hrequest hsource =>
    have haccepted := Java.fault?_eq_none_iff.1 (Java.generate_eq_ok_iff.1 hsource).1
    have hwrite : w.perform (draft.writeFile directory style overwrite) =
        w.perform (Workspace.deliver directory request.fileName source overwrite) := by
      obtain ⟨htype, hentries⟩ := Draft.request?_eq_some hrequest
      unfold Draft.writeFile
      have hrequest' : request = ⟨draft.package, request.typeName, draft.entries⟩ := by
        simpa [Draft.request?, htype] using hrequest.symm
      rw [htype]
      simp only
      rw [← hrequest', perform_requestWriteFile, hsource]
      simp [haccepted.1]
    rw [hwrite] at h
    exact ⟨request, source, hrequest, hsource,
      refused_deliver (isProper_fileName haccepted.2.1) h hwarning⟩

/-- **A job** with this warning has a source and is refused in the store it starts in. -/
theorem refused_run {result : Result} (h : w.perform job.run = (.ok result, w'))
    (hwarned : result.warnings = [.fileExists]) :
    ∃ request source, ∃ w₁ : World, job.request? w = some request ∧
      Java.generate job.style request = .ok source ∧ w₁.store = w.store ∧
      Refused w₁ job.outputDirectory request.fileName job.overwrite := by
  rw [perform_run] at h
  have hquiet := quiet_draft job w
  rcases hdraft : w.perform job.draft with ⟨e | draft, w₁⟩
  · rw [hdraft] at h
    simp only at h
    cases hwarning : Warning.ofInputError? e with
    | none => simp [hwarning] at h
    | some warning =>
      rw [hwarning] at h
      obtain ⟨⟨rfl⟩, -⟩ := Prod.mk.inj h
      obtain rfl : warning = .fileExists := by simpa [Result.warnings] using hwarned
      -- No error of the input becomes this warning.
      unfold Warning.ofInputError? at hwarning
      split at hwarning <;> cases hwarning
  · rw [hdraft] at h hquiet
    simp only at h
    rcases hwrite : w₁.perform (draft.writeFile job.outputDirectory job.style job.overwrite) with
      ⟨e | file, w₂⟩
    · rw [hwrite] at h
      simp only at h
      cases hwarning : Warning.ofOutputError? e with
      | none => simp [hwarning] at h
      | some warning =>
        rw [hwarning] at h
        obtain ⟨⟨rfl⟩, -⟩ := Prod.mk.inj h
        obtain rfl : warning = .fileExists := by simpa [Result.warnings] using hwarned
        obtain ⟨request, source, hrequest, hsource, hrefused⟩ := refused_writeFile hwrite hwarning
        exact ⟨request, source, w₁, Job.request?_of_draft (congrArg Prod.fst hdraft) hrequest,
          hsource, hquiet, hrefused⟩
    · rw [hwrite] at h
      obtain ⟨⟨rfl⟩, -⟩ := Prod.mk.inj h
      cases hwarned

/-! ## Obstruction -/

/-- Something is in the way of a text: a file of its directory, or, if nothing is to be replaced,
something at its target, which may be one of the directories made for it. -/
def Obstructed (s : Store) (directory : Path) (name : Text) (overwrite : Bool) : Prop :=
  (∀ part ∈ directory.parts, ¬HasStray part) ∧
    ((∃ l content, s.Passes directory l ∧ s.get? l = some (.file content)) ∨
      overwrite = false ∧
        (s.get? (s.destination (child directory name)) ≠ none ∨
          s.Passes directory (s.destination (child directory name))))

theorem kind_eq_file_iff {s : Store} {p : Path} :
    s.kind p = .ok .file ↔ ∃ l content, s.resolve p = .ok l ∧ s.get? l = some (.file content) := by
  unfold kind
  cases s.resolve p with
  | error cause => simp
  | ok location =>
    cases hnode : s.get? location with
    | none => simp [hnode]
    | some node => cases node <;> simp [hnode, Node.kind]

/-- A directory is not made where a file stands. -/
theorem kind_of_ensureDirectory {path : Path} {fault : File.Fault}
    (h : w.act (Workspace.ensureDirectory path) = (.error fault, w'))
    (hcause : fault.cause = .alreadyExists) : w.store.kind path = .ok .file := by
  unfold Workspace.ensureDirectory at h
  rw [act_bind, act_makeDirectory] at h
  cases hmake : w.store.makeDirectory path with
  | ok store =>
    rw [hmake] at h
    cases congrArg Prod.fst h
  | error fault' =>
    rw [hmake] at h
    simp only [act_overlook] at h
    obtain ⟨hoverlook, -⟩ := Prod.mk.inj h
    obtain ⟨-, hresolve | ⟨hcause', l, node, hresolve, hnode⟩⟩ := makeDirectory_eq_error hmake
    · rw [if_neg (kind_ne_directory_of_error hresolve), ite_self] at hoverlook
      obtain rfl : fault' = fault := by simpa using hoverlook
      rw [hcause] at hresolve
      rcases resolve_eq_error hresolve with h | ⟨h, -⟩ | ⟨h, -⟩ | ⟨h, -⟩ <;> cases h
    · cases node with
      | file content => exact kind_eq_file_iff.2 ⟨l, content, hresolve, hnode⟩
      | directory =>
        have hkind := kind_eq_directory_iff.2 ⟨l, hresolve, hnode⟩
        simp [hcause', hkind, Cause.isInvalid] at hoverlook

/-- **All directories of a path** are made, or some step finds a file, before which the store may
have been opened. -/
theorem exists_file_of_makeDirectoriesFrom {root : Nat} {names : List Text} {fault : File.Fault}
    (h : w.act (Workspace.makeDirectoriesFrom root names) = (.error fault, w'))
    (hcause : fault.cause = .alreadyExists) :
    w.store.kind ⟨root, names.reverse⟩ = .ok .file ∨
      w.store.resolve ⟨root, names.reverse⟩ = .error .notFound ∧
        ∃ (above : List Text) (w₁ : World), above <+: names.reverse ∧
          w.store.Opens ⟨root, names.reverse⟩ w₁.store ∧
          w₁.store.kind ⟨root, above⟩ = .ok .file := by
  -- From the innermost name outwards: the missing parents are made first.
  induction names generalizing w' with
  | nil => exact .inl (kind_of_ensureDirectory h hcause)
  | cons name above ih =>
    have hpath : (⟨root, (name :: above).reverse⟩ : Path) = child ⟨root, above.reverse⟩ name := by
      simp [child]
    rw [hpath]
    by_cases hfound : w.store.resolve (child ⟨root, above.reverse⟩ name) = .error .notFound
    · refine .inr ⟨hfound, ?_⟩
      rw [act_makeDirectoriesFrom_of_missing (hpath ▸ hfound), hpath] at h
      rcases habove : w.act (Workspace.makeDirectoriesFrom root above) with ⟨outcome, w₁⟩
      rw [habove] at h
      have hprefix : above.reverse <+: (name :: above).reverse := by simp
      cases outcome with
      | error fault' =>
        obtain ⟨⟨rfl⟩, rfl⟩ := Prod.mk.inj h
        rcases ih habove with hfile | ⟨-, names, w₂, hnames, hopens, hfile⟩
        · exact ⟨above.reverse, w, hprefix, .refl _ _, hfile⟩
        · exact ⟨names, w₂, hnames.trans hprefix, hopens.child name, hfile⟩
      | ok made =>
        obtain ⟨hopens, -⟩ := furnished_makeDirectoriesFrom habove
        refine ⟨(name :: above).reverse, w₁, List.prefix_rfl, hopens.child name, ?_⟩
        rw [hpath]
        exact kind_of_ensureDirectory h hcause
    · rw [act_makeDirectoriesFrom_of_found (hpath ▸ hfound), hpath] at h
      exact .inl (kind_of_ensureDirectory h hcause)

/-- A refused path has no directories made. -/
theorem not_hasStray_of_makeDirectories {fault : File.Fault}
    (h : w.act (Workspace.makeDirectories directory) = (.error fault, w'))
    (hcause : fault.cause = .alreadyExists) : ∀ part ∈ directory.parts, ¬HasStray part := by
  intro part hpart hstray
  obtain ⟨cause, hresolve, hinvalid⟩ :=
    resolve_of_stray (s := w.store) (p := directory) ⟨part, hpart, hstray⟩
  rcases exists_file_of_makeDirectoriesFrom h hcause with hfile | ⟨hfound, -⟩
  · obtain ⟨l, -, hl, -⟩ := kind_eq_file_iff.1 hfile
    rw [List.reverse_reverse, hresolve] at hl
    cases hl
  · rw [List.reverse_reverse, hresolve] at hfound
    obtain rfl := Except.error.inj hfound
    cases hinvalid

theorem passes_of_first {s s' : Store} {names : List Text} {l : Location}
    (hfirst : names <+: directory.parts) (hcurrent : s'.current = s.current)
    (hresolve : s'.resolve ⟨directory.root, names⟩ = .ok l) : s.Passes directory l := by
  refine ⟨names, hfirst, ?_⟩
  rw [eq_destination_of_resolve hresolve, destination_of_current_eq hcurrent]

/-- **What refuses a text** is there before its directory is made, or on the way to it. -/
theorem Refused.obstructed (h : Refused w directory name overwrite) :
    Obstructed w.store directory name overwrite := by
  cases h with
  | directory hmake hcause =>
    refine ⟨not_hasStray_of_makeDirectories hmake hcause, .inl ?_⟩
    -- A file where a directory was to be made was there before: making makes directories only.
    rcases exists_file_of_makeDirectoriesFrom hmake hcause with
      hfile | ⟨-, above, w₁, hprefix, hopens, hfile⟩
    · obtain ⟨l, content, hresolve, hget⟩ := kind_eq_file_iff.1 hfile
      rw [List.reverse_reverse] at hresolve
      exact ⟨l, content, passes_of_first List.prefix_rfl rfl hresolve, hget⟩
    · obtain ⟨l, content, hresolve, hget⟩ := kind_eq_file_iff.1 hfile
      rw [List.reverse_reverse] at hprefix hopens
      exact ⟨l, content, passes_of_first hprefix hopens.current_eq hresolve,
        hopens.file_iff.1 hget⟩
  | @target w₁ d hmake htarget hpresent hkeep =>
    obtain ⟨hopens, hfurnished⟩ := furnished_makeDirectories hmake
    have hdestination := eq_destination_of_resolve htarget
    rw [destination_of_current_eq hopens.current_eq] at hdestination
    refine ⟨fun part hpart => ?_, .inr ⟨hkeep, ?_⟩⟩
    · exact (resolve_eq_ok_iff.1 htarget).1 part (by simp [child, hpart])
    · rw [← hdestination]
      rcases hopens.get?_cases (d ++ [Utf8.bytes name]) with heq | ⟨-, -, hway⟩
      · exact .inl (heq ▸ hpresent)
      · exact .inr (hway.passes hopens.current_eq)

/-- In a tree a text with a plain path is refused because of what stands at its directory or at its
target. -/
theorem Refused.of_isPlain (h : Refused w directory name overwrite) (hs : w.store.IsTree)
    (hplain : IsPlain directory) (hname : IsProper name) :
    w.store.kind directory = .ok .file ∨
      overwrite = false ∧ ∃ kind, w.store.kind (child directory name) = .ok kind := by
  cases h with
  | directory hmake hcause =>
    rcases exists_file_of_makeDirectoriesFrom hmake hcause with
      hfile | ⟨hfound, above, w₁, ⟨rest, hrest⟩, hopens, hfile⟩
    · rw [List.reverse_reverse] at hfile
      exact .inl hfile
    · -- The file is found at first already, and then there is no missing directory.
      rw [List.reverse_reverse] at hfound hrest hopens
      obtain ⟨l, content, hresolve, hget⟩ := kind_eq_file_iff.1 hfile
      have hget := hopens.file_iff.1 hget
      have habove : IsPlain ⟨directory.root, above⟩ := fun hmem =>
        hplain (hrest ▸ List.mem_append_left rest hmem)
      have hresolve := resolve_of_present hs habove hopens.current_eq hresolve (by simp [hget])
      exact absurd hfound (resolve_ne_notFound hresolve hget ⟨rest, hrest⟩)
  | @target w₁ d hmake htarget hpresent hkeep =>
    obtain ⟨hopens, hfurnished⟩ := furnished_makeDirectories hmake
    have hdestination := eq_destination_of_resolve htarget
    rw [destination_of_current_eq hopens.current_eq] at hdestination
    have hchild : IsPlain (child directory name) := by
      intro hmem
      rcases List.mem_append.1 hmem with hmem | hmem
      · exact hplain hmem
      · exact hname.ne_points (List.mem_singleton.1 hmem).symm
    refine .inr ⟨hkeep, ?_⟩
    rcases hopens.get?_cases (d ++ [Utf8.bytes name]) with heq | ⟨-, -, hway⟩
    · rw [heq] at hpresent
      obtain ⟨node, hnode⟩ := Option.ne_none_iff_exists'.1 hpresent
      have hresolve := resolve_of_present hs hchild hopens.current_eq htarget hpresent
      exact ⟨node.kind, by simp [kind, hresolve, hnode]⟩
    · -- The names of a plain path lead no further down than to its directory.
      exfalso
      obtain ⟨names, ⟨rest, hrest⟩, hpasses⟩ := hway.passes hopens.current_eq
      have hnames : IsPlain ⟨directory.root, names⟩ := fun hmem =>
        hplain (hrest ▸ List.mem_append_left rest hmem)
      rw [hnames.destination, hdestination, hchild.destination] at hpasses
      have hlength := congrArg List.length hpasses
      simp only [origin, child, List.length_append, List.length_map, List.length_singleton,
        ← hrest] at hlength
      omega

/-- A file is placed only where nothing is in its way. -/
theorem World.Placed.not_obstructed {s s₁ s' : Store} {d : Location} {bytes : List UInt8}
    (h : Placed s s₁ directory d name overwrite bytes s') :
    ¬Obstructed s directory name overwrite := by
  rintro ⟨-, hway⟩
  -- All names on the way to a directory lead to directories, and the target was free.
  have hpasses : ∀ l, s.Passes directory l → s₁.get? l = some .directory := by
    rintro l ⟨names, hprefix, rfl⟩
    refine get?_of_passes h.resolve_directory h.get?_directory ⟨names, hprefix, ?_⟩
    exact destination_of_current_eq h.opens.current_eq _
  have hdestination := eq_destination_of_resolve h.resolve_target
  rw [destination_of_current_eq h.opens.current_eq] at hdestination
  rcases hway with ⟨l, content, hl, hfile⟩ | ⟨rfl, htaken⟩
  · rw [← h.opens.file_iff, hpasses l hl] at hfile
    cases hfile
  · rw [← hdestination] at htaken
    have hnone : s₁.get? (d ++ [Utf8.bytes name]) = none := by simpa using h.free
    rcases htaken with hpresent | hl
    · obtain ⟨node, hnode⟩ := Option.ne_none_iff_exists'.1 hpresent
      rw [h.opens.get?_of_some hnode] at hnone
      cases hnone
    · rw [hpasses _ hl] at hnone
      cases hnone

/-- **What is in the way of a text** keeps it from being delivered. -/
theorem World.Delivered.fileExists_of_obstructed {s s' : Store} {content : Text}
    {outcome : Except Error Path} (h : Delivered s directory name content overwrite s' outcome)
    (hobstructed : Obstructed s directory name overwrite) :
    ∃ e, outcome = .error e ∧
      ∀ warning, Warning.ofOutputError? e = some warning → warning = .fileExists := by
  cases h with
  | written _ hplaced => exact absurd hobstructed hplaced.not_obstructed
  | spoiled _ hplaced => exact absurd hobstructed hplaced.not_obstructed
  | @failed e hopens hundelivered =>
    refine ⟨e, rfl, fun warning hwarning => ?_⟩
    cases hundelivered with
    | targetExists => exact (Option.some.inj hwarning).symm
    | tooLong hcause => simp [ofOutputError?_file, hcause, Cause.isInvalid] at hwarning
    | isDirectory hcause => simp [ofOutputError?_file, hcause, Cause.isInvalid] at hwarning
    | unfurnished hfurnished =>
      rw [ofOutputError?_file] at hwarning
      cases hfurnished with
      | inTheWay hcause => simpa [hcause] using hwarning.symm
      | throughFile hcause => simp [hcause, Cause.isInvalid] at hwarning
      | tooLong hcause => simp [hcause, Cause.isInvalid] at hwarning
      | refused _ hstray =>
        obtain ⟨part, hpart, hstray⟩ := hstray
        exact absurd hstray (hobstructed.1 part hpart)

/-! ## The warning -/

/-- A job with a source finds something in the way. -/
theorem warnings_of_obstructed {result : Result} {request : Java.Request} {source : Text}
    (h : w.perform job.run = (.ok result, w')) (hrequest : job.request? w = some request)
    (hsource : Java.generate job.style request = .ok source)
    (hobstructed : Obstructed w.store job.outputDirectory request.fileName job.overwrite) :
    result.warnings = [.fileExists] := by
  have hdelivered : ∀ {draft : Draft} {outcome : Except Error Path},
      (w.perform job.draft).1 = .ok draft →
      draft.Came job.style job.outputDirectory job.overwrite w.store w'.store outcome →
      ∃ e, outcome = .error e ∧
        ∀ warning, Warning.ofOutputError? e = some warning → warning = .fileExists := by
    intro draft outcome hdraft hcame
    have hdraft? : draft.request? = some request := by
      unfold Job.request? at hrequest
      rwa [hdraft] at hrequest
    cases hcame with
    | delivered hrequest' _ hdelivered =>
      obtain rfl := Option.some.inj (hdraft?.symm.trans hrequest')
      exact hdelivered.fileExists_of_obstructed hobstructed
    | sourceless hsourceless =>
      exfalso
      cases hsourceless with
      | noEntries hentries =>
        have haccepted := Java.fault?_eq_none_iff.1 (Java.generate_eq_ok_iff.1 hsource).1
        rw [← (Draft.request?_eq_some hdraft?).2] at haccepted
        exact haccepted.1 hentries
      | fault hrequest' hfault =>
        obtain rfl := Option.some.inj (hdraft?.symm.trans hrequest')
        rw [hsource] at hfault
        cases hfault
      | typeNameNotText hnone => simp [hdraft?] at hnone
      | typeNameTooLong hnone => simp [hdraft?] at hnone
  -- The draft asks for the request, so that the run comes to the delivery and fails there.
  cases ended_run h with
  | unreadWarned hdraft =>
    unfold Job.request? at hrequest
    simp [hdraft] at hrequest
  | written hdraft hcame =>
    obtain ⟨e, he, -⟩ := hdelivered hdraft hcame
    cases he
  | unwrittenWarned hdraft hcame hwarning =>
    obtain ⟨e, he, hfileExists⟩ := hdelivered hdraft hcame
    obtain rfl := Except.error.inj he
    obtain rfl := hfileExists _ hwarning
    rfl

theorem obstructed_of_kind {s : Store}
    (h : s.kind directory = .ok .file ∨
      overwrite = false ∧ ∃ kind, s.kind (child directory name) = .ok kind) :
    Obstructed s directory name overwrite := by
  rcases h with hfile | ⟨hkeep, kind, hkind⟩
  · obtain ⟨l, content, hresolve, hget⟩ := kind_eq_file_iff.1 hfile
    exact ⟨(resolve_eq_ok_iff.1 hresolve).1,
      .inl ⟨l, content, passes_of_first List.prefix_rfl rfl hresolve, hget⟩⟩
  · unfold Store.kind at hkind
    split at hkind
    · cases hkind
    · next l hresolve =>
      refine ⟨fun part hpart => ?_, .inr ⟨hkeep, .inl ?_⟩⟩
      · exact (resolve_eq_ok_iff.1 hresolve).1 part (by simp [child, hpart])
      · rw [← eq_destination_of_resolve hresolve]
        intro hnone
        rw [hnone] at hkind
        cases hkind

/-- **What the warning says** of a job that returns a result. The job has a source, and something is
in the way of its file. For a plain path in a tree of files this is either a file that stands where
the output directory has to be, whether or not files are to be replaced, or whatever stands at the
target, if it is not to be replaced. -/
theorem warned_fileExists_iff {result : Result} (h : w.perform job.run = (.ok result, w')) :
    (result.warnings = [.fileExists] ↔
      ∃ request source, job.request? w = some request ∧
        Java.generate job.style request = .ok source ∧
        Obstructed w.store job.outputDirectory request.fileName job.overwrite) ∧
    (w.store.IsTree → IsPlain job.outputDirectory →
      (result.warnings = [.fileExists] ↔
        ∃ request source, job.request? w = some request ∧
          Java.generate job.style request = .ok source ∧
          (w.store.kind job.outputDirectory = .ok .file ∨
            job.overwrite = false ∧
              ∃ kind, w.store.kind (child job.outputDirectory request.fileName) = .ok kind))) := by
  refine ⟨⟨fun hwarned => ?_, ?_⟩, fun hs hplain => ⟨fun hwarned => ?_, ?_⟩⟩
  · obtain ⟨request, source, w₁, hrequest, hsource, hstore, hrefused⟩ := refused_run h hwarned
    exact ⟨request, source, hrequest, hsource, hstore ▸ hrefused.obstructed⟩
  · rintro ⟨request, source, hrequest, hsource, hobstructed⟩
    exact warnings_of_obstructed h hrequest hsource hobstructed
  · obtain ⟨request, source, w₁, hrequest, hsource, hstore, hrefused⟩ := refused_run h hwarned
    have haccepted := Java.fault?_eq_none_iff.1 (Java.generate_eq_ok_iff.1 hsource).1
    rw [← hstore] at hs ⊢
    exact ⟨request, source, hrequest, hsource,
      hrefused.of_isPlain hs hplain (isProper_fileName haccepted.2.1)⟩
  · rintro ⟨request, source, hrequest, hsource, hway⟩
    exact warnings_of_obstructed h hrequest hsource (obstructed_of_kind hway)

/-- A job whose file is there already. -/
theorem warned_fileExists_iff_taken :
    let store : Store :=
      let name := Utf8.bytes
      ⟨[([name "w"], .directory), ([name "w", name "out"], .directory),
        ([name "w", name "out", name "Status.java"], .file [])], [name "w"]⟩
    let w : World := ⟨store, [], []⟩
    let job : Job :=
      { name := "status", outputDirectory := Path.ofText "out", comment := .text "0-Open"
        commentFile := none, source := none, field := .null, typeName := .text "Status"
        package := "com.shop", suffix := "Enum", overwrite := false, lombok := true }
    let result : Result := ⟨"status", .text "Status", 1, .warned .fileExists⟩
    ∃ w', w.perform job.run = (.ok result, w') ∧ store.IsTree ∧ IsPlain job.outputDirectory ∧
      ∃ request source, job.request? w = some request ∧
        Java.generate job.style request = .ok source ∧
        (store.kind job.outputDirectory = .ok .file ∨
          job.overwrite = false ∧
            ∃ kind, store.kind (child job.outputDirectory request.fileName) = .ok kind) := by
  intro store w job result
  have houtcome : (w.perform job.run).1 = .ok result := by
    simp only [w, store, job, result]
    rfl
  have hrun := perform_eq_of_fst houtcome
  have htree : store.IsTree := isTree_of_nodes (by decide)
  have hplain : IsPlain job.outputDirectory := by
    unfold IsPlain
    decide
  exact ⟨_, hrun, htree, hplain, ((warned_fileExists_iff hrun).2 htree hplain).1 rfl⟩

/-- A file where the output directory has to be gives the same warning, also to a job that may
replace files. -/
theorem not_warned_fileExists_iff_target :
    ¬∀ (w w' : World) (job : Job) (result : Result), w.perform job.run = (.ok result, w') →
      (result.warnings = [.fileExists] ↔
        ∃ request source, job.request? w = some request ∧
          Java.generate job.style request = .ok source ∧ job.overwrite = false ∧
          ∃ kind, w.store.kind (child job.outputDirectory request.fileName) = .ok kind) := by
  intro h
  let w : World := ⟨⟨[([Utf8.bytes "x.txt"], .file [])], []⟩, [], []⟩
  let job : Job :=
    { name := "j", outputDirectory := Path.ofText "x.txt", comment := .text "1-a"
      commentFile := none, source := none, field := .null, typeName := .text "T"
      package := [], suffix := "Enum", overwrite := true, lombok := true }
  let result : Result := ⟨"j", .text "T", 1, .warned .fileExists⟩
  have houtcome : (w.perform job.run).1 = .ok result := by
    simp only [w, job, result]
    rfl
  obtain ⟨_, _, -, -, hkeep, -⟩ := (h w _ job result (perform_eq_of_fst houtcome)).1 rfl
  cases hkeep

end DocEnum
