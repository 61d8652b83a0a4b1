import Mathlib
import DocEnum.Proofs.Batch

/-!
# Interrupted batches

Which jobs stop a batch, if the values of all jobs are texts.

**Input** (`Unreadable`). A job whose input is missing ends with a warning, but not one whose input
is a directory, or whose input path is no good.

**Drafts** (`drafted_draft`). Before anything is written, a job fails for its input, for a comment
that is no text or for a field that is none. A text job fails for its input only.

**Output.** A job ends with a warning if a file stands where its directory should be, or if its
target exists. It does not if the path of the directory leads on through a file, if a path is too
long, or if the target to be replaced is a directory (`Job.StoppedBy`).

Main result: `run_stops_only_at_files`.
-/

namespace DocEnum

open File File.Store World

variable {job : Job} {w w' : World}

/-! ## Input -/

/-- Why the bytes at a path cannot be read, if anything stands there. -/
inductive File.Store.Unreadable (s : Store) (path : Path) : Cause → Prop
  | isDirectory (h : s.kind path = .ok .directory) : Unreadable s path .isDirectory
  | throughFile (h : s.LeadsThroughFile path) : Unreadable s path .notDirectory
  | tooLong (h : Oversized path) : Unreadable s path .nameTooLong
  | refused {cause : Cause} (hinvalid : cause.isInvalid = true)
      (h : ∃ part ∈ path.parts, HasStray part) : Unreadable s path cause

theorem File.Store.read_eq_error {s : Store} {path : Path} {fault : File.Fault}
    (h : s.read path = .error fault) :
    fault.cause = .notFound ∨ s.Unreadable path fault.cause := by
  unfold read at h
  cases hresolve : s.resolve path with
  | error cause =>
    obtain rfl : ⟨cause, path⟩ = fault := by simpa [hresolve] using h
    rcases resolve_eq_error hresolve with
      rfl | ⟨rfl, hlong⟩ | ⟨rfl, hfile⟩ | ⟨hinvalid, hstray⟩
    · exact .inl rfl
    · exact .inr (.tooLong hlong)
    · exact .inr (.throughFile hfile)
    · exact .inr (.refused hinvalid hstray)
  | ok location =>
    cases hnode : s.get? location with
    | none =>
      obtain rfl : ⟨.notFound, path⟩ = fault := by simpa [hresolve, hnode] using h
      exact .inl rfl
    | some node =>
      cases node with
      | file content => simp [hresolve, hnode] at h
      | directory =>
        obtain rfl : ⟨.isDirectory, path⟩ = fault := by simpa [hresolve, hnode] using h
        exact .inr (.isDirectory (kind_eq_directory_iff.2 ⟨location, hresolve, hnode⟩))

/-! ## Text jobs -/

/-- A text, or nothing. -/
def Value.IsText (value : Value) : Prop :=
  value = .null ∨ ∃ t, value = .text t

/-- What a job holds as it was given is text. -/
structure Job.IsText (job : Job) : Prop where
  comment : job.comment.IsText
  field : job.field.IsText
  typeName : job.typeName.IsText

/-- The file that a job reads, if it reads one. -/
def Job.input? (job : Job) : Option Path :=
  match job.source, job.field, job.comment with
  | none, _, .null | some _, .null, .null => job.commentFile
  | none, _, _ | some _, .null, _ => none
  | some source, _, _ => some source

/-- Errors of reading what a job asks for. -/
inductive Job.Unread (job : Job) (w : World) : Error → Prop
  | file {path : Path} {fault : File.Fault} (hinput : job.input? = some path)
      (hread : w.store.read path = .error fault) : Unread job w (.file fault)
  | encoding (fault : Utf8.Fault) : Unread job w (.encoding fault)
  | undocumented (field : Text) : Unread job w (.undocumented field)

theorem perform_readText_eq_error {path : Path} {e : Error} {w₁ : World}
    (hinput : job.input? = some path)
    (h : w.perform (Workspace.readText path) = (.error e, w₁)) : job.Unread w e := by
  rw [perform_readText] at h
  cases hread : w.store.read path with
  | error fault =>
    rw [hread] at h
    obtain ⟨rfl, rfl⟩ : .file fault = e ∧ w = w₁ := by simpa using h
    exact .file hinput hread
  | ok bytes =>
    rw [hread] at h
    simp only [Workspace.text] at h
    split at h
    · cases h
    · next fault _ =>
      obtain ⟨rfl, rfl⟩ : .encoding fault = e ∧ w = w₁ := by simpa using h
      exact .encoding fault

/-! ## Drafts -/

/-- What drafting a job can come to. -/
inductive Job.Drafted (job : Job) (w : World) : Except Error Draft → Prop
  | unread {e : Error} (h : job.Unread w e) : Drafted job w (.error e)
  | comment {e : Error} (h : Job.commentText job.comment = .error e) : Drafted job w (.error e)
  | field {fault : Value.Fault} (h : ¬job.field.IsText) : Drafted job w (.error (.value fault))
  | draft {draft : Draft} {raw typeName : Text} (hentries : draft.entries = Entry.parse raw)
      (htypeName : draft.typeName = job.typeName.orElse (.text typeName)) :
      Drafted job w (.ok draft)

theorem drafted_of_readComment {e : Error}
    (hinput : job.comment = .null → job.input? = job.commentFile)
    (h : w.perform job.readComment = (.error e, w')) : job.Drafted w (.error e) := by
  unfold Job.readComment at h
  split at h
  · next path hcomment hfile =>
    exact .unread (perform_readText_eq_error ((hinput hcomment).trans hfile) h)
  · exact .comment (congrArg Prod.fst h)

theorem drafted_commentDraft {outcome : Except Error Draft}
    (hinput : job.comment = .null → job.input? = job.commentFile)
    (h : w.perform job.commentDraft = (outcome, w')) : job.Drafted w outcome := by
  unfold Job.commentDraft at h
  rcases perform_bind_cases h with ⟨e, hread, rfl⟩ | ⟨comment, w₁, -, h⟩
  · exact drafted_of_readComment hinput hread
  · simp only [perform_bind, perform_lift, act_entriesOf, perform_pure] at h
    obtain ⟨rfl, -⟩ := Prod.mk.inj h
    exact .draft rfl rfl

theorem forField_cases {source : Path} {fieldName suffix : Text}
    {outcome : Except Error Java.Request} (hinput : job.input? = some source)
    (h : w.perform (Java.Request.forField source fieldName suffix) = (outcome, w')) :
    (∃ e, outcome = .error e ∧ job.Unread w e) ∨
      ∃ request raw, outcome = .ok request ∧ request.entries = Entry.parse raw := by
  unfold Java.Request.forField at h
  rcases perform_bind_cases h with ⟨e, hread, rfl⟩ | ⟨text, w₁, -, h⟩
  · exact .inl ⟨e, rfl, perform_readText_eq_error hinput hread⟩
  · simp only at h
    cases hfield : (Java.CompilationUnit.scan text).field? fieldName with
    | none =>
      rw [hfield] at h
      obtain ⟨rfl, -⟩ := Prod.mk.inj h
      exact .inl ⟨_, rfl, .undocumented fieldName⟩
    | some field =>
      rw [hfield] at h
      simp only [perform_bind, perform_lift, perform_pure] at h
      obtain ⟨rfl, -⟩ := Prod.mk.inj h
      exact .inr ⟨_, field.doc, rfl, rfl⟩

theorem fieldRequest_cases {source : Path} {outcome : Except Error Java.Request}
    (hinput : job.input? = some source) (hfield : job.field ≠ .null)
    (h : w.perform (job.fieldRequest source) = (outcome, w')) :
    (∃ e, outcome = .error e ∧ job.Drafted w (.error e)) ∨
      ∃ request raw, outcome = .ok request ∧ request.entries = Entry.parse raw := by
  unfold Job.fieldRequest at h
  split at h
  · refine (forField_cases hinput h).imp_left ?_
    rintro ⟨e, he, hunread⟩
    exact ⟨e, he, .unread hunread⟩
  · next hnot =>
    left
    rcases perform_bind_cases h with ⟨e, hread, rfl⟩ | ⟨text, w₁, -, h⟩
    · exact ⟨e, rfl, .unread (perform_readText_eq_error hinput hread)⟩
    · -- A field that is no text is looked for by the text that stands for it.
      cases hname : job.field.plain? with
      | none =>
        rw [hname] at h
        obtain ⟨rfl, -⟩ := Prod.mk.inj h
        refine ⟨_, rfl, .field ?_⟩
        rintro (hnull | ⟨t, ht⟩)
        · exact hfield hnull
        · exact hnot t ht
      | some name =>
        rw [hname] at h
        obtain ⟨rfl, -⟩ := Prod.mk.inj h
        exact ⟨_, rfl, .unread (.undocumented name)⟩

/-- **A draft** fails for what it reads, for a comment that is no text or for a field that is none.
Otherwise its entries are those of a comment, and its type name is that of the job or a text. -/
theorem drafted_draft {outcome : Except Error Draft}
    (h : w.perform job.draft = (outcome, w')) : job.Drafted w outcome := by
  unfold Job.draft at h
  -- With a field and a source the field decides; in the other two cases the comment does.
  split at h
  · next hsource =>
    exact drafted_commentDraft (fun hnull => by simp [Job.input?, hsource, hnull]) h
  · next hfield _ =>
    refine drafted_commentDraft (fun hnull => ?_) h
    cases hsource : job.source <;> simp [Job.input?, hsource, hnull, hfield]
  · next source hsource hfield =>
    have hinput : job.input? = some source := by
      unfold Job.input?
      split <;> simp_all
    unfold Job.fieldDraft at h
    rcases perform_bind_cases h with ⟨e, hrequest, rfl⟩ | ⟨request, w₁, hrequest, h⟩
    · obtain ⟨e', he, hdrafted⟩ | ⟨_, _, hok, -⟩ := fieldRequest_cases hinput hfield hrequest
      · obtain rfl := Except.error.inj he
        exact hdrafted
      · cases hok
    · obtain ⟨_, he, -⟩ | ⟨_, raw, hok, hentries⟩ := fieldRequest_cases hinput hfield hrequest
      · cases he
      · obtain rfl := Except.ok.inj hok
        obtain ⟨rfl, -⟩ := Prod.mk.inj h
        exact .draft hentries rfl

theorem commentText_ne_error {comment : Value} (h : comment.IsText) (e : Error) :
    Job.commentText comment ≠ .error e := by
  obtain rfl | ⟨t, rfl⟩ := h
  · exact fun he => nomatch he
  · cases t <;> exact fun he => nomatch he

theorem Value.IsText.orElse {value : Value} (h : value.IsText) (t : Text) :
    ∃ t', value.orElse (.text t) = .text t' := by
  obtain rfl | ⟨t', rfl⟩ := h
  · exact ⟨t, rfl⟩
  · unfold Value.orElse
    split
    · exact ⟨t', rfl⟩
    · exact ⟨t, rfl⟩

/-- Where the type name is a text or left out, a draft has a request. -/
theorem exists_request?_of_draft {draft : Draft} (htext : job.typeName.IsText)
    (hdraft : (w.perform job.draft).1 = .ok draft) :
    ∃ request, draft.request? = some request := by
  cases drafted_draft (perform_eq_of_fst hdraft) with
  | @draft _ _ typeName _ htypeName =>
    obtain ⟨t, ht⟩ := htext.orElse typeName
    exact ⟨_, Draft.request?_of_text (htypeName.trans ht)⟩

/-! ## Stops -/

/-- Why a job stops the batch. -/
inductive Job.StoppedBy (job : Job) (w : World) (s' : Store) : Cause → Prop
  | unreadable {path : Path} {cause : Cause} (hinput : job.input? = some path)
      (h : w.store.Unreadable path cause) : StoppedBy job w s' cause
  | throughFile (h : s'.LeadsThroughFile job.outputDirectory) : StoppedBy job w s' .notDirectory
  | tooLong {request : Java.Request} (hrequest : job.request? w = some request)
      (h : Oversized (child job.outputDirectory request.fileName)) :
      StoppedBy job w s' .nameTooLong
  | isDirectory {request : Java.Request} (hrequest : job.request? w = some request)
      (hover : job.overwrite = true)
      (h : s'.kind (child job.outputDirectory request.fileName) = .ok .directory) :
      StoppedBy job w s' .isDirectory

/-- An error of a delivery that no warning covers. -/
theorem stoppedBy_of_undelivered {request : Java.Request} {s' : Store} {e : Error}
    (hrequest : job.request? w = some request)
    (h : Undelivered w.store job.outputDirectory request.fileName job.overwrite s' e)
    (hwarning : Warning.ofOutputError? e = none) :
    ∃ fault, e = .file fault ∧ job.StoppedBy w s' fault.cause := by
  -- A file in the way is a warning, so that only the other faults stop the job.
  cases h with
  | targetExists => cases hwarning
  | @tooLong fault hcause hlong => exact ⟨fault, rfl, hcause ▸ .tooLong hrequest hlong⟩
  | @isDirectory fault hcause hover hkind =>
    exact ⟨fault, rfl, hcause ▸ .isDirectory hrequest hover hkind⟩
  | @unfurnished fault h =>
    refine ⟨fault, rfl, ?_⟩
    rw [ofOutputError?_file] at hwarning
    cases h with
    | inTheWay hcause => simp [hcause] at hwarning
    | refused hinvalid =>
      rw [if_pos hinvalid] at hwarning
      split at hwarning <;> cases hwarning
    | throughFile hcause hfile => exact hcause ▸ .throughFile hfile
    | tooLong hcause hlong => exact hcause ▸ .tooLong hrequest (hlong.child _)

/-- An error of reading that no warning covers. -/
theorem stoppedBy_of_unread {s' : Store} {e : Error} (h : job.Unread w e)
    (hwarning : Warning.ofInputError? e = none) :
    ∃ fault, e = .file fault ∧ job.StoppedBy w s' fault.cause := by
  cases h with
  | encoding => cases hwarning
  | undocumented => cases hwarning
  | @file path fault hinput hread =>
    refine ⟨fault, rfl, ?_⟩
    rcases read_eq_error hread with hcause | hunreadable
    · rcases fault with ⟨cause, path⟩
      obtain rfl : cause = .notFound := hcause
      cases hwarning
    · exact .unreadable hinput hunreadable

/-- A warning covers whatever is wrong with a draft that has a request. -/
theorem warning_of_sourceless {draft : Draft} {request : Java.Request} {style : Java.Style}
    {e : Error} (hrequest : draft.request? = some request) (h : draft.Sourceless style e) :
    Warning.ofOutputError? e ≠ none := by
  cases h with
  | noEntries => exact Option.some_ne_none _
  | fault => exact Option.some_ne_none _
  | typeNameNotText hnone => cases hrequest.symm.trans hnone
  | typeNameTooLong hnone => cases hrequest.symm.trans hnone

/-- **A text job** raises an error only if the files around it do not fit. -/
theorem stoppedBy_run (htext : job.IsText) {e : Error} (h : w.perform job.run = (.error e, w')) :
    ∃ fault, e = .file fault ∧ job.StoppedBy w w'.store fault.cause := by
  -- An error comes from the input or from the output, and in each from a file.
  cases ended_run h with
  | unread hdraft hwarning =>
    cases drafted_draft (perform_eq_of_fst hdraft) with
    | unread hunread => exact stoppedBy_of_unread hunread hwarning
    | comment hcomment => exact absurd hcomment (commentText_ne_error htext.comment _)
    | field hfield => exact absurd htext.field hfield
  | @unwritten draft _ hdraft hcame hwarning =>
    obtain ⟨request, hrequest⟩ := exists_request?_of_draft htext.typeName hdraft
    have hrequest? := Job.request?_of_draft hdraft hrequest
    cases hcame with
    | delivered hrequest' _ hdelivered =>
      obtain rfl := Option.some.inj (hrequest.symm.trans hrequest')
      cases hdelivered with
      | spoiled => cases hwarning
      | failed _ hundelivered => exact stoppedBy_of_undelivered hrequest? hundelivered hwarning
    | sourceless hsourceless => exact absurd hwarning (warning_of_sourceless hrequest hsourceless)

/-! ## Batches -/

namespace Manifest

variable {path : Path} {jobs : List Job}

/-- A result tells of a file or of a warning. -/
theorem isSome_file?_or_warnings (result : Result) :
    result.file?.isSome = true ∨ ∃ warning, result.warnings = [warning] := by
  rcases result with ⟨name, typeName, entries, file | warning⟩
  · exact .inl rfl
  · exact .inr ⟨warning, rfl⟩

/-- **What stops a batch** of text jobs: only a job for which the files around do not fit. The jobs
before it have had their turns, and those after it have none. -/
theorem run_stops_only_at_files [YamlLibrary] {outcome : Except Error Summary}
    (hload : (w.perform (load path)).1 = .ok jobs) (htext : ∀ job ∈ jobs, job.IsText)
    (h : w.perform (run path) = (outcome, w')) :
    (∃ turns summary, outcome = .ok summary ∧ Finished w jobs turns summary w' ∧
        ∀ result ∈ summary.results,
          result.file?.isSome = true ∨ ∃ warning, result.warnings = [warning]) ∨
      ∃ turns job rest w₁ fault, turns.map Turn.job ++ job :: rest = jobs ∧ Batch w turns w₁ ∧
        outcome = .error (.file fault) ∧ job.StoppedBy w₁ w'.store fault.cause := by
  rw [perform_run, hload] at h
  simp only at h
  rcases hall : w.perform (runAll jobs) with ⟨ended, w₂⟩
  rw [hall] at h
  rcases batch_of_runAll hall with ⟨turns, hbatch, rfl, rfl⟩ |
    ⟨turns, w₁, job, rest, e, hbatch, hjobs, hrun, rfl⟩
  · obtain ⟨rfl, rfl⟩ := Prod.mk.inj h
    exact .inl ⟨turns, _, rfl, finished_of_batch hbatch rfl,
      fun result _ => isSome_file?_or_warnings result⟩
  · obtain ⟨rfl, rfl⟩ := Prod.mk.inj h
    have hmem : job ∈ jobs := by simp [← hjobs]
    obtain ⟨fault, rfl, hstopped⟩ := stoppedBy_run (htext job hmem) hrun
    exact .inr ⟨turns, job, rest, w₁, fault, hjobs, hbatch, rfl, hstopped⟩

/-! ### A stopped batch -/

/-- Surroundings with a manifest whose first job has a directory for its comment file. -/
def blocked : World :=
  let text : Text :=
    "[\x7b\"comment_file\":\"d\",\"type_name\":\"T\"\x7d," ++
      "\x7b\"comment\":\"1-a\",\"type_name\":\"U\"\x7d]"
  let nodes : List (Location × Node) :=
    [([Utf8.bytes "d"], .directory), ([Utf8.bytes "m.json"], .file (Utf8.bytes text))]
  ⟨⟨nodes, []⟩, [], []⟩

/-- The jobs of this manifest. -/
def blockedJobs : List Job :=
  let first : Job :=
    { name := "T", outputDirectory := ⟨0, []⟩, comment := .null
      commentFile := some (Path.ofText "d"), source := none, field := .null, typeName := .text "T"
      package := [], suffix := "Enum", overwrite := false, lombok := true }
  let second : Job :=
    { first with name := "U", comment := .text "1-a", commentFile := none, typeName := .text "U" }
  [first, second]

theorem isText_of_mem_blockedJobs : ∀ job ∈ blockedJobs, job.IsText := by
  unfold blockedJobs
  refine List.forall_mem_cons.2 ⟨?_, List.forall_mem_singleton.2 ?_⟩
  · exact ⟨.inl rfl, .inl rfl, .inr ⟨_, rfl⟩⟩
  · exact ⟨.inr ⟨_, rfl⟩, .inl rfl, .inr ⟨_, rfl⟩⟩

theorem load_blocked [YamlLibrary] :
    (blocked.perform (load (Path.ofText "m.json"))).1 = .ok blockedJobs := by
  let text : Text :=
    "[\x7b\"comment_file\":\"d\",\"type_name\":\"T\"\x7d," ++
      "\x7b\"comment\":\"1-a\",\"type_name\":\"U\"\x7d]"
  have htext : (blocked.perform (Workspace.readText (Path.ofText "m.json"))).1 = .ok text := by
    simp only [blocked, text]
    cbv
  have hjson : Json.read text = .ok (.list ([
      [(.text "comment_file", .text "d"), (.text "type_name", .text "T")],
      [(.text "comment", .text "1-a"), (.text "type_name", .text "U")]].map Value.mapping)) := by
    simp only [text]
    cbv
  exact load_json (by decide) htext hjson (.cons rfl (.cons rfl .nil))

theorem run_blocked [YamlLibrary] :
    (blocked.perform (run (Path.ofText "m.json"))).1 =
      .error (.file ⟨.isDirectory, Path.ofText "d"⟩) := by
  have hall : (blocked.perform (runAll blockedJobs)).1 =
      .error (.file ⟨.isDirectory, Path.ofText "d"⟩) := by
    unfold blockedJobs blocked
    rfl
  rw [perform_run, load_blocked]
  simp only
  rw [perform_eq_of_fst hall]

/-- The first of two jobs has a directory for its comment file, and the second has no turn. -/
theorem run_stops_only_at_files_blocked :
    let _ : YamlLibrary := Yaml.library
    (blocked.perform (load (Path.ofText "m.json"))).1 = .ok blockedJobs ∧
      (∀ job ∈ blockedJobs, job.IsText) ∧
      ∃ w', blocked.perform (run (Path.ofText "m.json")) =
          (.error (.file ⟨.isDirectory, Path.ofText "d"⟩), w') ∧
        ∃ turns job rest w₁, turns.map Turn.job ++ job :: rest = blockedJobs ∧
          Batch blocked turns w₁ ∧ job.StoppedBy w₁ w'.store .isDirectory := by
  intro _
  have hrun := perform_eq_of_fst run_blocked
  refine ⟨load_blocked, isText_of_mem_blockedJobs, _, hrun, ?_⟩
  obtain ⟨_, _, hok, -⟩ | ⟨turns, job, rest, w₁, fault, hjobs, hbatch, hfault, hstopped⟩ :=
    run_stops_only_at_files load_blocked isText_of_mem_blockedJobs hrun
  · cases hok
  · obtain rfl := Error.file.inj (Except.error.inj hfault)
    exact ⟨turns, job, rest, w₁, hjobs, hbatch, hstopped⟩

/-- Not every batch of text jobs comes to its end. -/
theorem not_run_comes_to_end :
    let _ : YamlLibrary := Yaml.library
    ¬∀ (w : World) (path : Path) (jobs : List Job), (w.perform (load path)).1 = .ok jobs →
      (∀ job ∈ jobs, job.IsText) → ∃ summary, (w.perform (run path)).1 = .ok summary := by
  intro _ h
  obtain ⟨summary, hok⟩ := h blocked _ _ load_blocked isText_of_mem_blockedJobs
  rw [run_blocked] at hok
  cases hok

end Manifest

end DocEnum
