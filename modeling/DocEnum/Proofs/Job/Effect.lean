import Mathlib
import DocEnum.Job.Run
import DocEnum.Proofs.Delivery
import DocEnum.Proofs.Java.Acceptance

/-!
# What a job does to files

The run of a job, step by step, with the store around it.

**Drafts.** Reading what a job asks for leaves the store alone (`quiet_draft`). So the request of a
job is told by the surroundings it starts in (`Job.request?`).

**Files.** Only a request with a source is delivered, and only then is its type name known to be an
identifier. That makes the file name one entry of a directory (`isProper_fileName`), although
nothing checks the name where it is joined to the directory.

**Runs** (`Job.Ended`). A run ends because of its draft, or because of what came of writing it. A
job that returns a result has put its source into a file, or has ended with a warning (`Job.Ran`).
After a warning there may be new directories, but only if something was in the way: a refused path
is found before any directory is made, and all other faults of the files stop the job without a
result (`store_of_undelivered`). A source without bytes is the exception: its file is opened first,
and is left behind empty.

Main results: `ended_run`, `ran_run`.
-/

namespace DocEnum

open File File.Store World

variable {job : Job} {w w' : World}

/-! ## Drafts -/

theorem act_entriesOf (w : World) (comment : Text) :
    w.act (Java.Request.entriesOf comment) =
      (Entry.parse comment, (w.act (Workspace.recordAll (Entry.parseLog comment))).2) := by
  unfold Java.Request.entriesOf
  rw [act_bind, act_pure]

theorem quiet_entriesOf (comment : Text) :
    Quiet (liftM (Java.Request.entriesOf comment : StateM World (List Entry))) := by
  intro w
  rw [perform_lift, act_entriesOf, store_act_recordAll]

theorem quiet_forField (source : Path) (fieldName suffix : Text) :
    Quiet (Java.Request.forField source fieldName suffix :
      ExceptT Error (StateM World) Java.Request) := by
  unfold Java.Request.forField
  refine (quiet_readText source).bind fun text => ?_
  simp only
  cases (Java.CompilationUnit.scan text).field? fieldName with
  | none => exact quiet_throw _
  | some field =>
    exact (quiet_record _).bind fun _ => (quiet_recordAll _).bind fun _ => quiet_pure _

theorem quiet_fieldRequest (job : Job) (source : Path) :
    Quiet (job.fieldRequest source : ExceptT Error (StateM World) Java.Request) := by
  unfold Job.fieldRequest
  split
  · exact quiet_forField _ _ _
  · exact (quiet_readText source).bind fun _ => (quiet_mk_pure _).bind fun _ => quiet_throw _

theorem quiet_readComment (job : Job) :
    Quiet (job.readComment : ExceptT Error (StateM World) Text) := by
  unfold Job.readComment
  split
  · exact quiet_readText _
  · exact quiet_mk_pure _

/-- **Reading what a job asks for** leaves the store alone. -/
theorem quiet_draft (job : Job) : Quiet (job.draft : ExceptT Error (StateM World) Draft) := by
  unfold Job.draft
  split
  · exact (quiet_readComment job).bind fun _ => (quiet_entriesOf _).bind fun _ => quiet_pure _
  · exact (quiet_readComment job).bind fun _ => (quiet_entriesOf _).bind fun _ => quiet_pure _
  · exact (quiet_fieldRequest job _).bind fun _ => quiet_pure _

/-! ## Requests -/

/-- The request of a draft; only a text can name a type. -/
def Draft.request? (draft : Draft) : Option Java.Request :=
  match draft.typeName with
  | .text typeName => some ⟨draft.package, typeName, draft.entries⟩
  | _ => none

theorem Draft.request?_of_text {draft : Draft} {t : Text} (h : draft.typeName = .text t) :
    draft.request? = some ⟨draft.package, t, draft.entries⟩ := by
  simp [Draft.request?, h]

theorem Draft.request?_eq_some {draft : Draft} {request : Java.Request}
    (h : draft.request? = some request) :
    draft.typeName = .text request.typeName ∧ draft.entries = request.entries := by
  unfold Draft.request? at h
  split at h
  · next typeName htype =>
    obtain rfl := Option.some.inj h
    exact ⟨htype, rfl⟩
  · cases h

/-- What a job asks for in some surroundings, if its input can be read there. -/
def Job.request? (job : Job) (w : World) : Option Java.Request :=
  match (w.perform job.draft).1 with
  | .ok draft => draft.request?
  | .error _ => none

theorem Job.request?_of_draft {draft : Draft} {request : Java.Request}
    (hdraft : (w.perform job.draft).1 = .ok draft) (hrequest : draft.request? = some request) :
    job.request? w = some request := by
  unfold Job.request?
  rw [hdraft]
  exact hrequest

/-- The name of the file that a request is written to. -/
def Java.Request.fileName (request : Java.Request) : Text :=
  Java.fileName request.typeName Java.extension

/-- **The name of an identifier's file** is that of one entry of a directory. -/
theorem isProper_fileName {typeName : Text} (h : Java.isIdentifier typeName = true) :
    IsProper (Java.fileName typeName Java.extension) := by
  -- An identifier and the extension: no slash, nothing stray, and longer than the two points.
  let isPart (c : CodePoint) : Bool := c == '.' || Java.isIdentifierPart c
  have hpart : ∀ c ∈ typeName ++ Java.extension, isPart c = true := by
    intro c hc
    rcases List.mem_append.1 hc with hc | hc
    · simp [isPart, Java.isIdentifierPart_of_mem h hc]
    · have hextension : Java.extension.all isPart = true := by decide
      exact List.all_eq_true.1 hextension c hc
  have hlength : 5 < (typeName ++ Java.extension).length := by
    have hne := List.length_pos_iff.2 (Java.isIdentifier_ne_nil h)
    have hextension : Java.extension.length = 5 := rfl
    rw [List.length_append]
    omega
  unfold Java.fileName
  constructor
  · intro hnil
    rw [hnil] at hlength
    cases hlength
  · intro c hc
    by_contra hslash
    obtain rfl : c = '/' := by simpa using hslash
    exact absurd (hpart _ hc) (by decide)
  · intro hpoint
    rw [hpoint] at hlength
    exact absurd hlength (by decide)
  · intro hpoints
    rw [hpoints] at hlength
    exact absurd hlength (by decide)
  · rintro ⟨c, hc, hstray⟩
    cases c with
    | char c =>
      obtain rfl : c = '\x00' := by simpa [isStray] using hstray
      exact absurd (hpart _ hc) (by decide)
    | half unit => exact absurd (hpart _ hc) Bool.false_ne_true

/-! ## Files -/

theorem perform_requestWriteFile (w : World) (request : Java.Request) (directory : Path)
    (style : Java.Style) (overwrite : Bool) :
    w.perform (request.writeFile directory style overwrite) =
      if request.entries.isEmpty then (.error (.noEntries request.typeName), w)
      else
        match Java.generate style request with
        | .error fault => (.error (.request fault), w)
        | .ok source =>
          w.perform (Workspace.deliver directory request.fileName source overwrite) := by
  unfold Java.Request.writeFile Java.synthesize
  cases request.entries.isEmpty <;> cases Java.generate style request <;> rfl

/-- Why a draft has no source. -/
inductive Draft.Sourceless (draft : Draft) (style : Java.Style) : Error → Prop
  | noEntries {typeName : Text} (h : draft.entries = []) :
      Sourceless draft style (.noEntries typeName)
  | fault {request : Java.Request} {fault : Java.Fault} (hrequest : draft.request? = some request)
      (hfault : Java.generate style request = .error fault) :
      Sourceless draft style (.request fault)
  | typeNameNotText (h : draft.request? = none) : Sourceless draft style .typeNameNotText
  | typeNameTooLong (h : draft.request? = none) : Sourceless draft style (.value .tooLong)

/-- What writing a draft can come to. -/
inductive Draft.Came (draft : Draft) (style : Java.Style) (directory : Path) (overwrite : Bool)
    (s s' : Store) : Except Error Path → Prop
  | delivered {request : Java.Request} {source : Text} {outcome : Except Error Path}
      (hrequest : draft.request? = some request)
      (hsource : Java.generate style request = .ok source)
      (h : Delivered s directory request.fileName source overwrite s' outcome) :
      Came draft style directory overwrite s s' outcome
  | sourceless {e : Error} (h : draft.Sourceless style e) (hs : s' = s) :
      Came draft style directory overwrite s s' (.error e)

/-- A draft with a request is written as the request. -/
theorem perform_writeFile_of_request {draft : Draft} {request : Java.Request}
    (hrequest : draft.request? = some request) (w : World) (directory : Path) (style : Java.Style)
    (overwrite : Bool) :
    w.perform (draft.writeFile directory style overwrite) =
      w.perform (request.writeFile directory style overwrite) := by
  unfold Draft.request? at hrequest
  split at hrequest
  · next typeName htype =>
    obtain rfl := Option.some.inj hrequest
    simp only [Draft.writeFile, htype]
  · cases hrequest

/-- A draft without a request has no source. -/
theorem sourceless_of_request?_eq_none {draft : Draft} {directory : Path} {style : Java.Style}
    {overwrite : Bool} {outcome : Except Error Path} (hrequest : draft.request? = none)
    (h : w.perform (draft.writeFile directory style overwrite) = (outcome, w')) :
    ∃ e, outcome = .error e ∧ draft.Sourceless style e ∧ w' = w := by
  unfold Draft.writeFile at h
  split at h
  · next typeName htype => cases (Draft.request?_of_text htype).symm.trans hrequest
  · cases hempty : draft.entries.isEmpty with
    | false =>
      rw [hempty] at h
      obtain ⟨rfl, rfl⟩ := Prod.mk.inj h
      exact ⟨_, rfl, .typeNameNotText hrequest, rfl⟩
    | true =>
      -- The error about missing entries needs the text of the type name, whatever value it is.
      rw [hempty] at h
      cases hname : draft.typeName.plain? with
      | none =>
        rw [hname] at h
        obtain ⟨rfl, rfl⟩ := Prod.mk.inj h
        exact ⟨_, rfl, .typeNameTooLong hrequest, rfl⟩
      | some name =>
        rw [hname] at h
        obtain ⟨rfl, rfl⟩ := Prod.mk.inj h
        exact ⟨_, rfl, .noEntries (by simpa using hempty), rfl⟩

/-- **Writing a draft** delivers its source, if it has one. -/
theorem came_writeFile {draft : Draft} {directory : Path} {style : Java.Style} {overwrite : Bool}
    {outcome : Except Error Path}
    (h : w.perform (draft.writeFile directory style overwrite) = (outcome, w')) :
    draft.Came style directory overwrite w.store w'.store outcome := by
  cases hrequest : draft.request? with
  | none =>
    obtain ⟨e, rfl, hsourceless, rfl⟩ := sourceless_of_request?_eq_none hrequest h
    exact .sourceless hsourceless rfl
  | some request =>
    rw [perform_writeFile_of_request hrequest, perform_requestWriteFile] at h
    split at h
    · next hempty =>
      rw [← (Draft.request?_eq_some hrequest).2] at hempty
      obtain ⟨rfl, rfl⟩ := Prod.mk.inj h
      exact .sourceless (.noEntries (by simpa using hempty)) rfl
    · cases hsource : Java.generate style request with
      | error fault =>
        rw [hsource] at h
        obtain ⟨rfl, rfl⟩ := Prod.mk.inj h
        exact .sourceless (.fault hrequest hsource) rfl
      | ok source =>
        rw [hsource] at h
        have hidentifier := (Java.fault?_eq_none_iff.1 (Java.generate_eq_ok_iff.1 hsource).1).2.1
        exact .delivered hrequest hsource (delivered_deliver (isProper_fileName hidentifier) h)

/-! ## Running -/

theorem perform_run (job : Job) (w : World) :
    w.perform job.run =
      match w.perform job.draft with
      | (.error e, w₁) =>
        match Warning.ofInputError? e with
        | none => (.error e, w₁)
        | some warning => (.ok ⟨job.name, job.typeName, 0, .warned warning⟩, w₁)
      | (.ok draft, w₁) =>
        match w₁.perform (draft.writeFile job.outputDirectory job.style job.overwrite) with
        | (.ok file, w₂) =>
          (.ok ⟨job.name, draft.typeName, draft.entries.length, .written file⟩, w₂)
        | (.error e, w₂) =>
          match Warning.ofOutputError? e with
          | none => (.error e, w₂)
          | some warning =>
            (.ok ⟨job.name, draft.typeName, draft.entries.length, .warned warning⟩,
              (w₂.act (Workspace.record (warning.record job.name))).2) := by
  unfold Job.run
  rw [perform_mk, act_bind]
  change World.act _ _ = match w.perform job.draft with
      | (.error e, w₁) => _
      | (.ok draft, w₁) => _
  unfold perform
  rcases w.act (ExceptT.run job.draft) with ⟨outcome, w₁⟩
  cases outcome with
  | error e =>
    simp only
    cases Warning.ofInputError? e <;> rfl
  | ok draft =>
    simp only
    rw [act_bind]
    unfold Job.style
    rcases w₁.act
      (draft.writeFile job.outputDirectory { lombok := job.lombok } job.overwrite).run with
      ⟨outcome, w₂⟩
    cases outcome with
    | ok file => rfl
    | error e =>
      simp only
      cases Warning.ofOutputError? e <;> rfl

/-- How a run ends. -/
inductive Job.Ended (job : Job) (w : World) (s' : Store) : Except Error Result → Prop
  | unread {e : Error} (hdraft : (w.perform job.draft).1 = .error e)
      (hwarning : Warning.ofInputError? e = none) (hs : s' = w.store) : Ended job w s' (.error e)
  | unreadWarned {e : Error} {warning : Warning} (hdraft : (w.perform job.draft).1 = .error e)
      (hwarning : Warning.ofInputError? e = some warning) (hs : s' = w.store) :
      Ended job w s' (.ok ⟨job.name, job.typeName, 0, .warned warning⟩)
  | written {draft : Draft} {file : Path} (hdraft : (w.perform job.draft).1 = .ok draft)
      (h : draft.Came job.style job.outputDirectory job.overwrite w.store s' (.ok file)) :
      Ended job w s' (.ok ⟨job.name, draft.typeName, draft.entries.length, .written file⟩)
  | unwritten {draft : Draft} {e : Error} (hdraft : (w.perform job.draft).1 = .ok draft)
      (h : draft.Came job.style job.outputDirectory job.overwrite w.store s' (.error e))
      (hwarning : Warning.ofOutputError? e = none) : Ended job w s' (.error e)
  | unwrittenWarned {draft : Draft} {e : Error} {warning : Warning}
      (hdraft : (w.perform job.draft).1 = .ok draft)
      (h : draft.Came job.style job.outputDirectory job.overwrite w.store s' (.error e))
      (hwarning : Warning.ofOutputError? e = some warning) :
      Ended job w s' (.ok ⟨job.name, draft.typeName, draft.entries.length, .warned warning⟩)

/-- **Every run** ends because of its draft, or after it was written or not. -/
theorem ended_run {outcome : Except Error Result} (h : w.perform job.run = (outcome, w')) :
    job.Ended w w'.store outcome := by
  rw [perform_run] at h
  -- Reading leaves the store as it is, so that the second step starts from the first store.
  have hquiet := quiet_draft job w
  rcases hdraft : w.perform job.draft with ⟨drafted, w₁⟩
  rw [hdraft] at h hquiet
  have hdraft := congrArg Prod.fst hdraft
  simp only at h hquiet
  cases drafted with
  | error e =>
    simp only at h
    cases hwarning : Warning.ofInputError? e with
    | none =>
      rw [hwarning] at h
      obtain ⟨rfl, rfl⟩ := Prod.mk.inj h
      exact .unread hdraft hwarning hquiet
    | some warning =>
      rw [hwarning] at h
      obtain ⟨rfl, rfl⟩ := Prod.mk.inj h
      exact .unreadWarned hdraft hwarning hquiet
  | ok draft =>
    simp only at h
    rcases hwrite : w₁.perform (draft.writeFile job.outputDirectory job.style job.overwrite) with
      ⟨written, w₂⟩
    have hcame := came_writeFile hwrite
    rw [hwrite] at h
    rw [hquiet] at hcame
    cases written with
    | ok file =>
      obtain ⟨rfl, rfl⟩ := Prod.mk.inj h
      exact .written hdraft hcame
    | error e =>
      simp only at h
      cases hwarning : Warning.ofOutputError? e with
      | none =>
        rw [hwarning] at h
        obtain ⟨rfl, rfl⟩ := Prod.mk.inj h
        exact .unwritten hdraft hcame hwarning
      | some warning =>
        rw [hwarning] at h
        obtain ⟨rfl, rfl⟩ := Prod.mk.inj h
        exact .unwrittenWarned hdraft hcame hwarning

/-! ## Results -/

theorem ofOutputError?_file (fault : File.Fault) :
    Warning.ofOutputError? (.file fault) =
      if fault.cause = .alreadyExists then some .fileExists
      else if fault.cause.isInvalid = true then some (.invalidRequest (Error.file fault).message)
      else none := by
  rcases fault with ⟨cause, path⟩
  cases cause <;> rfl

/-- What a job that returns a result has done. -/
inductive Job.Ran (job : Job) (w : World) (s' : Store) : Result → Prop
  | written {request : Java.Request} {source : Text} {bytes : List UInt8} {s₁ : Store}
      {d : Location} (hrequest : job.request? w = some request)
      (hsource : Java.generate job.style request = .ok source)
      (hbytes : Utf8.encode source = .ok bytes)
      (h : Placed w.store s₁ job.outputDirectory d request.fileName job.overwrite bytes s') :
      Ran job w s' ⟨job.name, .text request.typeName, request.entries.length,
        .written (child job.outputDirectory request.fileName)⟩
  | spoiled {request : Java.Request} {source : Text} {fault : Utf8.EncodeFault} {s₁ : Store}
      {d : Location} (hrequest : job.request? w = some request)
      (hsource : Java.generate job.style request = .ok source)
      (hfault : Utf8.encode source = .error fault)
      (h : Placed w.store s₁ job.outputDirectory d request.fileName job.overwrite [] s') :
      Ran job w s' ⟨job.name, .text request.typeName, request.entries.length,
        .warned (.invalidRequest fault.message)⟩
  | warned {warning : Warning} {typeName : Value} {entries : Nat}
      (hopens : w.store.Opens job.outputDirectory s')
      (hunchanged : warning ≠ .fileExists → s' = w.store) :
      Ran job w s' ⟨job.name, typeName, entries, .warned warning⟩

/-- The store after a failed delivery, if there is a warning for the failure. -/
theorem store_of_undelivered {s s' : Store} {directory : Path} {name : Text} {overwrite : Bool}
    {e : Error} {warning : Warning} (h : Undelivered s directory name overwrite s' e)
    (hwarning : Warning.ofOutputError? e = some warning) (hne : warning ≠ .fileExists) :
    s' = s := by
  cases h with
  | targetExists => exact absurd (Option.some.inj hwarning).symm hne
  | tooLong hcause => simp [ofOutputError?_file, hcause, Cause.isInvalid] at hwarning
  | isDirectory hcause => simp [ofOutputError?_file, hcause, Cause.isInvalid] at hwarning
  | unfurnished h =>
    rw [ofOutputError?_file] at hwarning
    cases h with
    | inTheWay hcause =>
      rw [if_pos hcause] at hwarning
      exact absurd (Option.some.inj hwarning).symm hne
    | throughFile hcause => simp [hcause, Cause.isInvalid] at hwarning
    | tooLong hcause => simp [hcause, Cause.isInvalid] at hwarning
    | refused _ _ hs => exact hs

/-- **One job** that returns a result has written one file or opened some directories. -/
theorem ran_run {result : Result} (h : w.perform job.run = (.ok result, w')) :
    job.Ran w w'.store result := by
  cases ended_run h with
  | unreadWarned _ _ hs => exact .warned (hs ▸ .refl _ _) fun _ => hs
  | @written draft file hdraft hcame =>
    cases hcame with
    | @delivered request source _ hrequest hsource hdelivered =>
      obtain ⟨htype, hentries⟩ := Draft.request?_eq_some hrequest
      rw [htype, hentries]
      cases hdelivered with
      | written hbytes hplaced =>
        exact .written (Job.request?_of_draft hdraft hrequest) hsource hbytes hplaced
  | @unwrittenWarned draft e warning hdraft hcame hwarning =>
    cases hcame with
    | delivered hrequest hsource hdelivered =>
      cases hdelivered with
      | spoiled hfault hplaced =>
        obtain ⟨htype, hentries⟩ := Draft.request?_eq_some hrequest
        obtain rfl := Option.some.inj hwarning
        rw [htype, hentries]
        exact .spoiled (Job.request?_of_draft hdraft hrequest) hsource hfault hplaced
      | failed hopens hundelivered =>
        exact .warned hopens fun hne => store_of_undelivered hundelivered hwarning hne
    | sourceless _ hs => exact .warned (hs ▸ .refl _ _) fun _ => hs

end DocEnum
