import DocEnum.Proofs.CommandLine.Steps
import DocEnum.Proofs.Console.Display
import DocEnum.Proofs.Java.SourceCharacters
import DocEnum.Proofs.Job.Input
import DocEnum.Proofs.Json.Writer

/-!
# Commands and jobs agree

The two commands that write an enum, and the jobs that ask for the same.

**Recipes** (`Recipe`). A recipe says what to make an enum from. It stands for a command and for a
job, and reads its request in the same way for both (`Recipe.read`, `perform_draft`).

**Writing.** Both write the request as it was read. A request without entries fails before anything
is written, and a request with entries fails by a fault of its own or of the files
(`not_isOfInput_of_writeFile`). So it makes no difference that the commands look for missing entries
at different places, and handle other errors than jobs do.

**Ends** (`Answers`). What is left of a command after writing answers the end of the job
(`Comes`): a file is announced, a warning is printed, an invalid request is refused, and every other
error ends both.

**The exceptions.** The announcement holds the path of the file as markup. So a command can show
another path than that of the file, or end with an error after the file was written
(`Answers.unshown`, `not_command_agrees_with_job`). Paths without brackets are always announced. And
what a command tells must have bytes to be printed, which a path or the name of a field need not
(`Answers.untold`).

Main result: `command_agrees_with_job`.
-/

namespace DocEnum

open File.Store World

/-- The error at which a job stops, also where there is a warning for it. -/
def Job.failure? (job : Job) (w : World) : Option Error :=
  match w.perform job.draft with
  | (.error e, _) => some e
  | (.ok draft, w₁) =>
    match (w₁.perform (draft.writeFile job.outputDirectory job.style job.overwrite)).1 with
    | .error e => some e
    | .ok _ => none

namespace CommandLine

/-! ## Recipes -/

/-- An enum to make: from a comment file under a type name, or from a field of a source file. -/
inductive Recipe where
  | comment (file : Path) (typeName package : Text) (directory : Path)
  | field (source : Path) (fieldName suffix : Text) (directory : Option Path)

variable {w w₁ w₂ : World} {recipe : Recipe} {request : Java.Request} {lombok force : Bool}
  {e : Error}

namespace Recipe

/-- The file that is read. -/
def input : Recipe → Path
  | comment file .. => file
  | field source .. => source

/-- The directory that is written to. -/
def directory : Recipe → Path
  | comment _ _ _ directory => directory
  | field source _ _ directory => directory.getD source.parent

/-- The command for a recipe. -/
def command (recipe : Recipe) (lombok force : Bool) : Command :=
  match recipe with
  | comment file typeName package directory =>
    .generate file typeName package directory lombok force false
  | field source fieldName suffix directory =>
    .field source fieldName directory suffix lombok force

/-- The job for a recipe. -/
def job (recipe : Recipe) (name : Text) (lombok force : Bool) : Job :=
  match recipe with
  | comment file typeName package directory => {
      name
      outputDirectory := directory
      comment := .null
      commentFile := some file
      source := none
      field := .null
      typeName := .text typeName
      package
      suffix := Java.defaultSuffix
      overwrite := force
      lombok }
  | field source fieldName suffix directory => {
      name
      outputDirectory := directory.getD source.parent
      comment := .null
      commentFile := none
      source := some source
      field := .text fieldName
      typeName := .null
      package := []
      suffix
      overwrite := force
      lombok }

/-- Reads the request of a recipe from its input. -/
def read : Recipe → ExceptT Error (StateM World) Java.Request
  | comment file typeName package _ => do
    let text ← Workspace.readText file
    let entries ← Java.Request.entriesOf (m := StateM World) text
    return ⟨package, typeName, entries⟩
  | field source fieldName suffix _ => Java.Request.forField source fieldName suffix

end Recipe

/-! ## Drafts -/

/-- The draft of a request. -/
def draftOf (request : Java.Request) : Draft :=
  ⟨request.package, .text request.typeName, request.entries⟩

theorem perform_draft (recipe : Recipe) (name : Text) (lombok force : Bool) (w : World) :
    w.perform (recipe.job name lombok force).draft =
      ((w.perform recipe.read).1.map draftOf, (w.perform recipe.read).2) := by
  cases recipe with
  | comment file typeName package directory =>
    -- The job takes an empty type name for none, and then asks for the empty one.
    have htype : (Value.text typeName).orElse (.text []) = .text typeName := by
      cases typeName <;> rfl
    rw [draft_of_source_none rfl]
    unfold Job.commentDraft Recipe.read
    rw [perform_bind, perform_bind, readComment_of_file rfl rfl]
    rcases w.perform (Workspace.readText file) with ⟨e | text, w₁⟩
    · rfl
    · simp only [perform_bind, perform_lift, perform_pure, Except.map, draftOf, Recipe.job, htype]
  | field source fieldName suffix directory =>
    unfold Job.draft Job.fieldDraft Job.fieldRequest Recipe.read Recipe.job
    simp only
    rw [perform_bind]
    rcases w.perform (Java.Request.forField source fieldName suffix) with ⟨e | request, w₁⟩ <;> rfl

/-! ## Writing -/

/-- An error about what the input lists. -/
def IsOfInput : Error → Prop
  | .noEntries _ | .undocumented _ => True
  | _ => False

/-- **A request with entries** fails by a fault of the request or of the files. -/
theorem not_isOfInput_of_writeFile {directory : Path} {style : Java.Style}
    (hentries : request.entries ≠ [])
    (h : w.perform (request.writeFile directory style force) = (.error e, w₂)) :
    ¬IsOfInput e := by
  have hcame : (draftOf request).Came style directory force w.store w₂.store (.error e) :=
    came_writeFile h
  cases hcame with
  | delivered _ _ hdelivered =>
    cases hdelivered with
    | spoiled => exact id
    | failed _ hundelivered => cases hundelivered <;> exact id
  | sourceless hsourceless =>
    cases hsourceless with
    | noEntries hempty => exact absurd hempty hentries
    | fault => exact id
    | typeNameNotText hnone => cases hnone
    | typeNameTooLong => exact id

/-- What is told about a file in the way has bytes, if the directory has. -/
theorem encodable_message_of_writeFile {directory : Path} {style : Java.Style}
    (hdirectory : Utf8.Encodable directory.text)
    (h : w.perform (request.writeFile directory style force) = (.error e, w₂))
    (hpresent : e.isPresent = true) : Utf8.Encodable e.message := by
  have hfile : ∀ {fault : File.Fault}, fault.cause = .alreadyExists →
      Utf8.Encodable (Error.file fault).message := by
    intro fault hcause
    have hwording : Utf8.Encodable File.Cause.alreadyExists.wording := Utf8.encodable_map_char _
    unfold Error.message File.Fault.message
    simp [hcause, File.Cause.isInvalid, hwording, Utf8.encodable_quoted]
  have hcame : (draftOf request).Came style directory force w.store w₂.store (.error e) :=
    came_writeFile h
  -- Two errors mean that something is there; each of them names a path below the directory.
  cases hcame with
  | sourceless hsourceless => cases hsourceless <;> cases hpresent
  | delivered hrequest hsource hdelivered =>
    cases hdelivered with
    | spoiled => cases hpresent
    | failed _ hundelivered =>
      cases hundelivered with
      | targetExists =>
        obtain rfl := Option.some.inj hrequest
        have hidentifier := (Java.fault?_eq_none_iff.1 (Java.generate_eq_ok_iff.1 hsource).1).2.1
        have hname := Java.encodable_of_isIdentifier hidentifier
        have hparts := Utf8.encodable_pathText_iff.1 hdirectory
        have htarget : Utf8.Encodable (child directory request.fileName).text :=
          Utf8.encodable_pathText_iff.2 (List.forall_mem_append.2
            ⟨hparts, List.forall_mem_singleton.2 (Utf8.encodable_append.2
              ⟨hname, Utf8.encodable_map_char _⟩)⟩)
        exact Utf8.encodable_append.2 ⟨Utf8.encodable_map_char _, htarget⟩
      | unfurnished | tooLong | isDirectory => exact hfile (beq_iff_eq.1 hpresent)

theorem writeFile_of_empty {directory : Path} {style : Java.Style}
    (hentries : request.entries = []) :
    w.perform (request.writeFile directory style force) =
      (.error (.noEntries request.typeName), w) := by
  rw [perform_requestWriteFile, hentries]
  rfl

/-! ## Ends -/

/-- The warnings that a command prints. -/
def printedWarnings : List Warning := [.noEntries, .fileExists, .fieldNotDocumented]

theorem invalidRequest_notMem (reason : Text) : .invalidRequest reason ∉ printedWarnings := by
  simp [printedWarnings]

namespace Recipe

/-- What the command for a recipe tells about an error. -/
def telling : Recipe → Error → Text
  | comment .., .noEntries _ => "No valid enum entries found in the comment."
  | field .., .noEntries _ => "No valid enum entries found in the Javadoc."
  | _, e => e.message

/-- What is told of a recipe has bytes: its directory, and the name of its field. -/
def IsTellable : Recipe → Prop
  | comment _ _ _ directory => Utf8.Encodable directory.text
  | field source fieldName _ directory =>
    Utf8.Encodable (directory.getD source.parent).text ∧ Utf8.Encodable fieldName

theorem IsTellable.directory (h : recipe.IsTellable) : Utf8.Encodable recipe.directory.text := by
  cases recipe with
  | comment => exact h
  | field => exact h.1

theorem telling_of_not_isOfInput (recipe : Recipe) (h : ¬IsOfInput e) :
    recipe.telling e = e.message := by
  cases e with
  | noEntries => exact absurd trivial h
  | _ => cases recipe <;> rfl

theorem encodable_telling_noEntries (recipe : Recipe) (typeName : Text) :
    Utf8.Encodable (recipe.telling (.noEntries typeName)) := by
  cases recipe <;> exact Utf8.encodable_map_char _

end Recipe

/-- How a command ends where the job for its recipe ends in some way, after some error or none. -/
inductive Answers [Display] (recipe : Recipe) (failure? : Option Error) :
    Except Error Result → Report → Prop
  | written {result : Result} {file : Path} {shown : Text}
      (hwritten : result.outcome = .written file)
      (hshown : Display.message (announcement file result.entries) = .ok shown) :
      Answers recipe failure? (.ok result) ⟨shown ++ [.char '\n'], .exit 0⟩
  | unshown {result : Result} {file : Path} {fault : Display.Fault}
      (hwritten : result.outcome = .written file)
      (hshown : Display.message (announcement file result.entries) = .error fault) :
      Answers recipe failure? (.ok result) ⟨[], .error fault.error⟩
  | warned {result : Result} {warning : Warning} {e : Error} {shown : Text}
      (hwarned : result.outcome = .warned warning) (hwarning : warning ∈ printedWarnings)
      (hfailure : failure? = some e)
      (hshown : Display.message (CommandLine.warning (recipe.telling e)) = .ok shown) :
      Answers recipe failure? (.ok result) ⟨shown ++ [.char '\n'], .exit 1⟩
  | untold {result : Result} {warning : Warning} {e : Error} {fault : Display.Fault}
      (hwarned : result.outcome = .warned warning) (hwarning : warning ∈ printedWarnings)
      (hfailure : failure? = some e) (htellable : ¬recipe.IsTellable)
      (hshown : Display.message (CommandLine.warning (recipe.telling e)) = .error fault) :
      Answers recipe failure? (.ok result) ⟨[], .error fault.error⟩
  | refused {result : Result} {reason : Text}
      (hwarned : result.outcome = .warned (.invalidRequest reason)) :
      Answers recipe failure? (.ok result) ⟨[], .usage (.invalidValue reason)⟩
  | failed {e : Error} : Answers recipe failure? (.error e) ⟨[], .error e⟩

theorem ofOutputError?_eq (h : ¬IsOfInput e) :
    Warning.ofOutputError? e =
      if e.isPresent then some .fileExists
      else if e.isInvalid then some (.invalidRequest e.message)
      else none := by
  cases e with
  | noEntries => exact absurd trivial h
  | _ => rfl

/-- The rest of a command answers the end of a job, and leaves the surroundings alone. -/
def Answered [Display] (w : World) (recipe : Recipe) (failure? : Option Error)
    (ended : Except Error Result) (work : Work (StateM World) Unit) : Prop :=
  Answers recipe failure? ended (.of (w.advance [] work).1) ∧ (w.advance [] work).2 = w

section Answering

variable [Display] {failure? : Option Error}

/-- **A warning** that is printed is told, or cannot be. -/
theorem answered_warn [Display.Lawful] (recipe : Recipe) {result : Result} {warning : Warning}
    (hwarned : result.outcome = .warned warning) (hwarning : warning ∈ printedWarnings)
    (hfailure : failure? = some e)
    (htellable : recipe.IsTellable → Utf8.Encodable (recipe.telling e))
    (next : Unit → Work (StateM World) Unit) :
    Answered w recipe failure? (.ok result) (Work.warn (recipe.telling e) >>= next) := by
  unfold Answered
  rw [advance_bind, advance_warn]
  cases hshown : Display.message (CommandLine.warning (recipe.telling e)) with
  | ok shown => exact ⟨.warned hwarned hwarning hfailure hshown, rfl⟩
  | error fault =>
    refine ⟨.untold hwarned hwarning hfailure (fun h => ?_) hshown, rfl⟩
    obtain ⟨shown, hok⟩ := exists_message_warning (htellable h)
    cases hshown.symm.trans hok

theorem answered_announce {result : Result} {file : Path}
    (hwritten : result.outcome = .written file)
    (hentries : request.entries.length = result.entries) :
    Answered w recipe failure? (.ok result) (Work.announce file request) := by
  unfold Answered Work.announce Work.printMessage
  rw [advance_print, hentries]
  cases hshown : Display.message (announcement file result.entries) with
  | ok shown => exact ⟨.written hwritten hshown, rfl⟩
  | error fault => exact ⟨.unshown hwritten hshown, rfl⟩

/-- How the job of a request ends by what writing the request came to. -/
def endOfWriting (name : Text) (request : Java.Request) : Except Error Path → Except Error Result
  | .ok file => .ok ⟨name, .text request.typeName, request.entries.length, .written file⟩
  | .error e =>
    match Warning.ofOutputError? e with
    | none => .error e
    | some warning =>
      .ok ⟨name, .text request.typeName, request.entries.length, .warned warning⟩

/-- **An error of writing** ends a command as the job's warning for it says. -/
theorem answered_failGeneration [Display.Lawful] {name : Text} (h : ¬IsOfInput e)
    (hfailure : failure? = some e)
    (htellable : e.isPresent = true → recipe.IsTellable → Utf8.Encodable e.message) :
    Answered w recipe failure? (endOfWriting name request (.error e)) (Work.failGeneration e) := by
  have htelling := recipe.telling_of_not_isOfInput h
  unfold Work.failGeneration
  simp only [endOfWriting, ofOutputError?_eq h]
  cases hpresent : e.isPresent with
  | true =>
    rw [← htelling, ← bind_pure (Work.warn _)]
    exact answered_warn recipe rfl (by decide) hfailure
      (fun ht => htelling ▸ htellable hpresent ht) pure
  | false =>
    cases e.isInvalid with
    | true => exact ⟨.refused rfl, rfl⟩
    | false => exact ⟨.failed, rfl⟩

end Answering

/-! ## Jobs -/

section Jobs

variable {outcome : Except Error Path} (name : Text)

theorem failure?_of_unread (lombok force : Bool) (hread : w.perform recipe.read = (.error e, w₁)) :
    (recipe.job name lombok force).failure? w = some e := by
  unfold Job.failure?
  rw [perform_draft, hread]
  rfl

theorem writeFile_job (w : World) (recipe : Recipe) (request : Java.Request) (lombok force : Bool) :
    w.perform ((draftOf request).writeFile (recipe.job name lombok force).outputDirectory
        (recipe.job name lombok force).style (recipe.job name lombok force).overwrite) =
      w.perform (request.writeFile recipe.directory { lombok } force) := by
  cases recipe <;> rfl

theorem failure?_of_unwritten (hread : w.perform recipe.read = (.ok request, w₁))
    (hwrite : w₁.perform (request.writeFile recipe.directory { lombok } force) = (.error e, w₂)) :
    (recipe.job name lombok force).failure? w = some e := by
  unfold Job.failure?
  rw [perform_draft, hread]
  simp only [Except.map, writeFile_job, hwrite]

theorem perform_job (hread : w.perform recipe.read = (.ok request, w₁))
    (hwrite : w₁.perform (request.writeFile recipe.directory { lombok } force) = (outcome, w₂)) :
    (w.perform (recipe.job name lombok force).run).1 = endOfWriting name request outcome ∧
      (w.perform (recipe.job name lombok force).run).2.store = w₂.store := by
  have hname : (recipe.job name lombok force).name = name := by
    cases recipe <;> rfl
  rw [perform_run, perform_draft, hread, hname]
  simp only [Except.map, writeFile_job, hwrite]
  cases outcome with
  | ok file => exact ⟨rfl, rfl⟩
  | error e =>
    simp only [endOfWriting]
    cases Warning.ofOutputError? e with
    | none => exact ⟨rfl, rfl⟩
    | some warning => exact ⟨rfl, rfl⟩

theorem perform_job_of_undocumented {undocumented : Text} (lombok force : Bool)
    (hread : w.perform recipe.read = (.error (.undocumented undocumented), w₁)) :
    w.perform (recipe.job name lombok force).run =
      (.ok ⟨(recipe.job name lombok force).name, (recipe.job name lombok force).typeName, 0,
        .warned .fieldNotDocumented⟩, w₁) := by
  rw [perform_run, perform_draft, hread]
  rfl

end Jobs

/-! ## Commands -/

/-- A command comes to some rest, which answers the end of a job. -/
def Comes [Display] (w : World) (recipe : Recipe) (failure? : Option Error)
    (work : Work (StateM World) Unit) (ended : Except Error Result) (w' : World) : Prop :=
  ∃ rest, w.advance [] work = w'.advance [] rest ∧ Answered w' recipe failure? ended rest

theorem exists_entries_of_read {file directory : Path} {typeName package text : Text}
    (htext : w.perform (Workspace.readText file) = (.ok text, w))
    (hread : w.perform (Recipe.comment file typeName package directory).read = (.ok request, w₁)) :
    ∃ entries, request = ⟨package, typeName, entries⟩ ∧
      w.perform (ExceptT.lift (Java.Request.entriesOf text)) = (.ok entries, w₁) := by
  have hlift := perform_lift w (Java.Request.entriesOf (m := StateM World) text)
  unfold Recipe.read at hread
  simp only [perform_bind, htext, hlift, perform_pure] at hread
  obtain ⟨hrequest, rfl⟩ := Prod.mk.inj hread
  exact ⟨_, (Except.ok.inj hrequest).symm, hlift⟩

/-- The only error of reading a field from a text is that it is not documented. -/
theorem exists_undocumented {source : Path} {fieldName suffix : Text}
    {bytes : List UInt8} {text : Text} (hfile : w.store.read source = .ok bytes)
    (htext : Workspace.text bytes = .ok text)
    (hread : w.perform (Java.Request.forField source fieldName suffix) = (.error e, w₁)) :
    e = .undocumented fieldName := by
  have hfst := perform_forField w source fieldName suffix
  rw [hread, perform_readText_ok hfile htext] at hfst
  simp only [Except.bind, Java.Request.ofText] at hfst
  split at hfst
  · exact Except.error.inj hfst
  · cases hfst

section Commands

variable [Display] [Display.Lawful] {failure? : Option Error} {bytes : List UInt8}
  {outcome : Except Error Path} {name : Text}

/-- What a command tells of the outcome of writing answers the job. -/
theorem answered_conclude (recipe : Recipe) (hentries : request.entries ≠ [])
    (hwrite : w₁.perform (request.writeFile recipe.directory { lombok } force) = (outcome, w₂))
    (hfailure : ∀ e, outcome = .error e → failure? = some e) :
    Answered w₂ recipe failure? (endOfWriting name request outcome)
      (Work.conclude request outcome) := by
  cases outcome with
  | ok file => exact answered_announce rfl rfl
  | error e =>
    exact answered_failGeneration (not_isOfInput_of_writeFile hentries hwrite) (hfailure e rfl)
      fun hpresent htellable =>
        encodable_message_of_writeFile htellable.directory hwrite hpresent

theorem comes_generate {file directory : Path} {typeName package text : Text}
    (hpath : file.text ≠ ("-" : Text)) (hfile : w.store.read file = .ok bytes)
    (htext : Workspace.text bytes = .ok text)
    (hread : w.perform (Recipe.comment file typeName package directory).read = (.ok request, w₁))
    (hwrite : w₁.perform (request.writeFile directory { lombok } force) = (outcome, w₂))
    (hfailure : ∀ e, outcome = .error e → failure? = some e) :
    Comes w (.comment file typeName package directory) failure?
      (Work.generate file typeName package directory lombok force false)
      (endOfWriting name request outcome) w₂ := by
  have htext := perform_readText_ok hfile htext
  obtain ⟨entries, rfl, hentries⟩ := exists_entries_of_read htext hread
  unfold Comes Work.generate Work.readEntries
  rw [bind_assoc, advance_readComment_bind hpath hfile, advance_perform_bind htext,
    advance_perform_bind hentries]
  -- Without entries the command stops where the job finds no source.
  cases entries with
  | nil =>
    rw [writeFile_of_empty rfl] at hwrite
    obtain ⟨rfl, rfl⟩ := Prod.mk.inj hwrite
    exact ⟨_, rfl, answered_warn _ rfl (by decide) (hfailure _ rfl)
      (fun _ => Recipe.encodable_telling_noEntries _ _) _⟩
  | cons entry rest =>
    refine ⟨_, advance_attempt_bind hwrite (Work.conclude _), ?_⟩
    exact answered_conclude (.comment file typeName package directory) (List.cons_ne_nil _ _)
      hwrite hfailure

theorem comes_field {source : Path} {fieldName suffix : Text} {directory : Option Path}
    (hfile : w.store.read source = .ok bytes)
    (hread : w.perform (Java.Request.forField source fieldName suffix) = (.ok request, w₁))
    (hwrite : w₁.perform (request.writeFile (directory.getD source.parent) { lombok } force) =
      (outcome, w₂)) (hfailure : ∀ e, outcome = .error e → failure? = some e) :
    Comes w (.field source fieldName suffix directory) failure?
      (Work.field source fieldName directory suffix lombok force)
      (endOfWriting name request outcome) w₂ := by
  have hmake : w.perform (Work.makeField source fieldName suffix (directory.getD source.parent)
      { lombok } force) = (outcome.map (request, ·), w₂) := by
    unfold Work.makeField
    rw [perform_bind, hread]
    simp only [perform_bind, hwrite]
    cases outcome <;> rfl
  unfold Comes Work.field
  rw [advance_expectFile_bind hfile]
  refine ⟨_, advance_attempt_bind hmake _, ?_⟩
  by_cases hentries : request.entries = []
  · rw [writeFile_of_empty hentries] at hwrite
    obtain ⟨rfl, rfl⟩ := Prod.mk.inj hwrite
    have htellable := Recipe.encodable_telling_noEntries
      (.field source fieldName suffix directory) request.typeName
    rw [← bind_pure (Work.warn _)]
    exact answered_warn (.field source fieldName suffix directory) rfl (by decide)
      (hfailure _ rfl) (fun _ => htellable) pure
  · have hanswered : Answered w₂ _ failure? (endOfWriting name request outcome) _ :=
      answered_conclude (.field source fieldName suffix directory) hentries hwrite hfailure
    cases outcome with
    | ok file => exact hanswered
    | error e =>
      have hinput := not_isOfInput_of_writeFile hentries hwrite
      -- The two errors that the command words itself are errors about the input.
      cases e with
      | noEntries | undocumented => exact absurd trivial hinput
      | _ => exact hanswered

theorem comes_field_of_undocumented {source : Path} {fieldName suffix : Text}
    {directory : Option Path} {result : Result} (hfile : w.store.read source = .ok bytes)
    (hread : w.perform (Java.Request.forField source fieldName suffix) =
      (.error (.undocumented fieldName), w₁))
    (hwarned : result.outcome = .warned .fieldNotDocumented)
    (hfailure : failure? = some (.undocumented fieldName)) :
    Comes w (.field source fieldName suffix directory) failure?
      (Work.field source fieldName directory suffix lombok force) (.ok result) w₁ := by
  have hmake : w.perform (Work.makeField source fieldName suffix (directory.getD source.parent)
      { lombok } force) = (.error (.undocumented fieldName), w₁) := by
    unfold Work.makeField
    rw [perform_bind, hread]
  have htellable (h : (Recipe.field source fieldName suffix directory).IsTellable) :
      Utf8.Encodable (Error.undocumented fieldName).message :=
    Utf8.encodable_append.2 ⟨Utf8.encodable_append.2 ⟨Utf8.encodable_map_char _, h.2⟩,
      Utf8.encodable_map_char _⟩
  unfold Comes Work.field
  rw [advance_expectFile_bind hfile]
  refine ⟨_, advance_attempt_bind hmake _, ?_⟩
  simp only
  rw [← bind_pure (Work.warn _)]
  exact answered_warn (.field source fieldName suffix directory) hwarned (by decide) hfailure
    htellable pure

/-- **The command for a recipe** answers its job, and leaves the same store. -/
theorem answers_run [JsonWriter] [YamlLibrary] {text : Text} (recipe : Recipe) (name : Text)
    (lombok force : Bool) (hpath : recipe.input.text ≠ ("-" : Text))
    (hfile : w.store.read recipe.input = .ok bytes) (htext : Workspace.text bytes = .ok text) :
    Answers recipe ((recipe.job name lombok force).failure? w)
        (w.perform (recipe.job name lombok force).run).1
        (w.act (recipe.command lombok force).run).1 ∧
      (w.act (recipe.command lombok force).run).2.store =
        (w.perform (recipe.job name lombok force).run).2.store := by
  -- It is enough to follow the command to its last step, which answers to the ended job.
  suffices h : ∃ ended w', (w.perform (recipe.job name lombok force).run).1 = ended ∧
      (w.perform (recipe.job name lombok force).run).2.store = w'.store ∧
      Comes w recipe ((recipe.job name lombok force).failure? w)
        (recipe.command lombok force).work ended w' by
    obtain ⟨ended, w', hended, hstore, rest, hrest, hanswers, hquiet⟩ := h
    rw [act_run, hrest, hended, hstore, hquiet]
    exact ⟨hanswers, rfl⟩
  rcases hread : w.perform recipe.read with ⟨e | request, w₁⟩
  · -- The input is read, so that only a field that is not documented has no request.
    cases recipe with
    | comment file typeName package directory =>
      have htext : w.perform (Workspace.readText file) = (.ok text, w) :=
        perform_readText_ok hfile htext
      unfold Recipe.read at hread
      simp only [perform_bind, htext, perform_lift, perform_pure] at hread
      cases hread
    | field source fieldName suffix directory =>
      obtain rfl := exists_undocumented hfile htext hread
      have hjob := perform_job_of_undocumented name lombok force hread
      refine ⟨_, w₁, by rw [hjob], by rw [hjob], comes_field_of_undocumented hfile hread ?_
        (failure?_of_unread name lombok force hread)⟩
      rfl
  · rcases hwrite : w₁.perform (request.writeFile recipe.directory { lombok } force) with
      ⟨outcome, w₂⟩
    have hfailure : ∀ e, outcome = .error e →
        (recipe.job name lombok force).failure? w = some e := by
      rintro e rfl
      exact failure?_of_unwritten name hread hwrite
    obtain ⟨hended, hstore⟩ := perform_job name hread hwrite
    refine ⟨_, w₂, hended, hstore, ?_⟩
    cases recipe with
    | comment => exact comes_generate hpath hfile htext hread hwrite hfailure
    | field => exact comes_field hfile hread hwrite hfailure

end Commands

/-! ## Agreement -/

/-- What comes behind the head of an announcement. -/
def announcedTail (path : Path) (constants : Nat) : Text :=
  " " ++ path.text ++ " (" ++ Text.ofNat constants ++ " constants)"

/-- What is shown of the announcement of a plain path. -/
def announced (path : Path) (constants : Nat) : Text :=
  "Generated enum" ++ announcedTail path constants

/-- **The end of a command corresponds** to the end of the job for its recipe, which stopped at some
error or at none. -/
structure Corresponds [Display] (recipe : Recipe) (failure? : Option Error)
    (ended : Except Error Result) (report : Report) : Prop where
  /-- Success shows the announcement of the file that was written. -/
  success (output : Text) : report = ⟨output, .exit 0⟩ ↔
    ∃ result file shown, ended = .ok result ∧ result.file? = some file ∧
      Display.message (announcement file result.entries) = .ok shown ∧
      output = shown ++ [.char '\n']
  /-- Code one shows a warning of the job, told by its error. -/
  warning (output : Text) : report = ⟨output, .exit 1⟩ ↔
    ∃ result warning e shown, ended = .ok result ∧ result.warnings = [warning] ∧
      warning ∈ printedWarnings ∧ failure? = some e ∧
      Display.message (CommandLine.warning (recipe.telling e)) = .ok shown ∧
      output = shown ++ [.char '\n']
  /-- A usage fault tells the reason of an invalid request. -/
  usage (fault : UsageFault) : report.ending = .usage fault ↔
    ∃ result reason, ended = .ok result ∧ result.error? = some reason ∧
      fault = .invalidValue reason ∧ fault.message = "Invalid value: " ++ reason
  /-- An error is that of the job, or comes of what is told. -/
  error (e : Error) : report.ending = .error e ↔
    ended = .error e ∨ ∃ result fault, ended = .ok result ∧ e = fault.error ∧
      ((∃ file, result.file? = some file ∧
          Display.message (announcement file result.entries) = .error fault) ∨
        ∃ warning e', result.warnings = [warning] ∧ warning ∈ printedWarnings ∧
          failure? = some e' ∧
          Display.message (CommandLine.warning (recipe.telling e')) = .error fault)
  exit_le (code : Nat) : report.ending = .exit code → code ≤ 1
  /-- If what is told has bytes, code one stands for the warnings that are printed. -/
  warns : recipe.IsTellable → (report.ending = .exit 1 ↔
    ∃ result warning, ended = .ok result ∧ result.warnings = [warning] ∧
      warning ∈ printedWarnings)
  /-- A file whose path has bytes and no opening bracket is announced. -/
  announces {result : Result} {file : Path} : ended = .ok result → result.file? = some file →
    Utf8.Encodable file.text → .char '[' ∉ file.text → report.ending = .exit 0
  /-- The announcement of a plain path shows the path. -/
  showsPath {result : Result} {file : Path} : ended = .ok result → result.file? = some file →
    Console.IsPlain file.text → (announced file result.entries).length ≤ Display.width →
    report = ⟨announced file result.entries ++ [.char '\n'], .exit 0⟩

theorem file?_eq_some_iff {result : Result} {file : Path} :
    result.file? = some file ↔ result.outcome = .written file := by
  unfold Result.file?
  cases result.outcome <;> simp

theorem warnings_eq_singleton_iff {result : Result} {warning : Warning} :
    result.warnings = [warning] ↔ result.outcome = .warned warning := by
  unfold Result.warnings
  cases result.outcome <;> simp

theorem error?_eq_some_iff {result : Result} {reason : Text} :
    result.error? = some reason ↔ result.outcome = .warned (.invalidRequest reason) := by
  unfold Result.error?
  split
  · next heq => simp [heq]
  · next hne => simpa using hne reason

/-! ### Announcements -/

section Announcements

variable [Display] [Display.Lawful] {file : Path} {constants : Nat}

theorem exists_message_announcement (constants : Nat) (hbytes : Utf8.Encodable file.text)
    (h : .char '[' ∉ file.text) :
    ∃ shown, Display.message (announcement file constants) = .ok shown := by
  have hwords : Console.isWording "Generated enum" = true := by decide
  refine Display.Lawful.message_headed (t := announcedTail file constants) hwords ?_ ?_
  · have hnumber := (Console.isPlain_ofNat constants).not_mem (c := .char '[') rfl
    simp [announcedTail, h, hnumber]
  · simp [announcedTail, hbytes]

theorem message_announcement (h : Console.IsPlain file.text)
    (hfits : (announced file constants).length ≤ Display.width) :
    Display.message (announcement file constants) = .ok (announced file constants) := by
  have hnumber := Console.isPlain_ofNat constants
  have htail : Console.IsPlain (announcedTail file constants) := by
    have hspace : Console.IsPlain " " := by decide
    have hopening : Console.IsPlain " (" := by decide
    have hclosing : Console.IsPlain " constants)" := by decide
    simp only [announcedTail, Console.isPlain_append]
    exact ⟨⟨⟨⟨hspace, h⟩, hopening⟩, hnumber⟩, hclosing⟩
  have hwording : Console.isWording "Generated enum" = true := by decide
  exact Display.Lawful.message_plain hwording htail hfits

end Announcements

/-! ### Stages -/

namespace Answers

variable [Display] {failure? : Option Error} {ended : Except Error Result} {report : Report}

theorem success_iff (h : Answers recipe failure? ended report) (output : Text) :
    report = ⟨output, .exit 0⟩ ↔
      ∃ result file shown, ended = .ok result ∧ result.outcome = .written file ∧
        Display.message (announcement file result.entries) = .ok shown ∧
        output = shown ++ [.char '\n'] := by
  constructor
  · rintro rfl
    cases h with
    | written hwritten hshown => exact ⟨_, _, _, rfl, hwritten, hshown, rfl⟩
  · rintro ⟨result, file, shown, rfl, hwritten, hshown, rfl⟩
    cases h <;> simp_all

theorem warning_iff (h : Answers recipe failure? ended report) (output : Text) :
    report = ⟨output, .exit 1⟩ ↔
      ∃ result warning e shown, ended = .ok result ∧ result.outcome = .warned warning ∧
        warning ∈ printedWarnings ∧ failure? = some e ∧
        Display.message (CommandLine.warning (recipe.telling e)) = .ok shown ∧
        output = shown ++ [.char '\n'] := by
  constructor
  · rintro rfl
    cases h with
    | warned hwarned hwarning hfailure hshown =>
      exact ⟨_, _, _, _, rfl, hwarned, hwarning, hfailure, hshown, rfl⟩
  · rintro ⟨result, warning, e, shown, rfl, hwarned, hwarning, hfailure, hshown, rfl⟩
    cases h with
    | refused hrefused =>
      obtain rfl := Outcome.warned.inj (hwarned.symm.trans hrefused)
      exact absurd hwarning (invalidRequest_notMem _)
    | _ => simp_all

theorem usage_iff (h : Answers recipe failure? ended report) (fault : UsageFault) :
    report.ending = .usage fault ↔
      ∃ result reason, ended = .ok result ∧
        result.outcome = .warned (.invalidRequest reason) ∧ fault = .invalidValue reason := by
  constructor
  · intro hending
    cases h with
    | refused hwarned =>
      obtain rfl := Ending.usage.inj hending
      exact ⟨_, _, rfl, hwarned, rfl⟩
    | _ => cases hending
  · rintro ⟨result, reason, rfl, hwarned, rfl⟩
    have hreason := invalidRequest_notMem reason
    cases h <;> simp_all

theorem error_iff (h : Answers recipe failure? ended report) (e : Error) :
    report.ending = .error e ↔
      ended = .error e ∨ ∃ result fault, ended = .ok result ∧ e = fault.error ∧
        ((∃ file, result.outcome = .written file ∧
            Display.message (announcement file result.entries) = .error fault) ∨
          ∃ warning e', result.outcome = .warned warning ∧ warning ∈ printedWarnings ∧
            failure? = some e' ∧
            Display.message (CommandLine.warning (recipe.telling e')) = .error fault) := by
  constructor
  · intro hending
    cases h with
    | unshown hwritten hshown =>
      exact .inr ⟨_, _, rfl, (Ending.error.inj hending).symm, .inl ⟨_, hwritten, hshown⟩⟩
    | untold hwarned hwarning hfailure _ hshown =>
      exact .inr ⟨_, _, rfl, (Ending.error.inj hending).symm,
        .inr ⟨_, _, hwarned, hwarning, hfailure, hshown⟩⟩
    | failed => exact .inl (by rw [Ending.error.inj hending])
    | _ => cases hending
  · rintro (rfl | ⟨result, fault, rfl, rfl, ⟨file, hwritten, hshown⟩ |
      ⟨warning, e', hwarned, hwarning, hfailure, hshown⟩⟩)
    · cases h
      rfl
    · -- The other ways to answer show a written file, and the display does not.
      cases h <;> simp_all
    · cases h with
      | refused hrefused =>
        obtain rfl := Outcome.warned.inj (hwarned.symm.trans hrefused)
        exact absurd hwarning (invalidRequest_notMem _)
      | _ => simp_all

theorem exit_one_iff (h : Answers recipe failure? ended report) (htellable : recipe.IsTellable) :
    report.ending = .exit 1 ↔ ∃ result warning, ended = .ok result ∧
      result.outcome = .warned warning ∧ warning ∈ printedWarnings := by
  constructor
  · intro hending
    cases h with
    | warned hwarned hwarning => exact ⟨_, _, rfl, hwarned, hwarning⟩
    | _ => cases hending
  · rintro ⟨result, warning, rfl, hwarned, hwarning⟩
    cases h with
    | refused hrefused =>
      obtain rfl := Outcome.warned.inj (hwarned.symm.trans hrefused)
      exact absurd hwarning (invalidRequest_notMem _)
    | _ => simp_all

theorem corresponds [Display.Lawful] (h : Answers recipe failure? ended report) :
    Corresponds recipe failure? ended report where
  success output := by simpa only [file?_eq_some_iff] using h.success_iff output
  warning output := by simpa only [warnings_eq_singleton_iff] using h.warning_iff output
  usage fault := by
    rw [h.usage_iff]
    simp only [error?_eq_some_iff]
    refine ⟨?_, fun ⟨result, reason, hended, hwarned, hfault, _⟩ =>
      ⟨result, reason, hended, hwarned, hfault⟩⟩
    rintro ⟨result, reason, hended, hwarned, rfl⟩
    exact ⟨result, reason, hended, hwarned, rfl, rfl⟩
  error e := by
    simpa only [file?_eq_some_iff, warnings_eq_singleton_iff] using h.error_iff e
  exit_le code hending := by
    cases h <;> cases hending <;> decide
  warns htellable := by simpa only [warnings_eq_singleton_iff] using h.exit_one_iff htellable
  announces := by
    intro result file hended hfile hbytes hbracket
    obtain ⟨shown, hshown⟩ := exists_message_announcement result.entries hbytes hbracket
    rw [(h.success_iff _).2 ⟨result, file, shown, hended, file?_eq_some_iff.1 hfile, hshown, rfl⟩]
  showsPath := by
    intro result file hended hfile hplain hfits
    exact (h.success_iff _).2 ⟨result, file, _, hended, file?_eq_some_iff.1 hfile,
      message_announcement hplain hfits, rfl⟩

end Answers

/-- **The command line and the batch runner agree.** The command and the job for a recipe leave the
same store, and their ends correspond, if the input can be read. -/
theorem command_agrees_with_job [Display] [Display.Lawful] [JsonWriter] [YamlLibrary]
    {bytes : List UInt8} {text : Text} (recipe : Recipe) (name : Text)
    (lombok force : Bool) (hpath : recipe.input.text ≠ ("-" : Text))
    (hfile : w.store.read recipe.input = .ok bytes) (htext : Workspace.text bytes = .ok text) :
    (w.act (recipe.command lombok force).run).2.store =
        (w.perform (recipe.job name lombok force).run).2.store ∧
      Corresponds recipe ((recipe.job name lombok force).failure? w)
        (w.perform (recipe.job name lombok force).run).1
        (w.act (recipe.command lombok force).run).1 := by
  obtain ⟨hanswers, hstore⟩ := answers_run recipe name lombok force hpath hfile htext
  exact ⟨hstore, hanswers.corresponds⟩

/-- A comment file for a type in the current directory, on a display of eighty columns. -/
theorem command_agrees_with_job_plain :
    let _ : Display := Console.display 80
    let _ : JsonWriter := Json.writer
    let _ : YamlLibrary := Yaml.library
    let w : World := ⟨⟨[([Utf8.bytes "c.txt"], .file (Utf8.bytes "1-a"))], []⟩, [], []⟩
    let recipe : Recipe := .comment (Path.ofText "c.txt") "T" [] .current
    Display.Lawful ∧ recipe.input.text ≠ ("-" : Text) ∧
      w.store.read recipe.input = .ok (Utf8.bytes "1-a") ∧
      Workspace.text (Utf8.bytes "1-a") = .ok "1-a" ∧
      (w.act (recipe.command true false).run).1 =
        ⟨"Generated enum T.java (1 constants)\n", .exit 0⟩ := by
  intro _ _ _ w recipe
  have hlawful : Display.Lawful := Console.lawful_display 80
  have hpath : recipe.input.text ≠ ("-" : Text) := by decide
  have hfile : w.store.read recipe.input = .ok (Utf8.bytes "1-a") := rfl
  have htext : Workspace.text (Utf8.bytes "1-a") = .ok "1-a" := rfl
  refine ⟨hlawful, hpath, hfile, htext, ?_⟩
  obtain ⟨-, hends⟩ := command_agrees_with_job recipe "job" true false hpath hfile htext
  have hjob : (w.perform (recipe.job "job" true false).run).1.toOption.bind
      (fun result => some (result.file?, result.entries)) =
        some (some (Path.ofText "T.java"), 1) := by decide +kernel
  obtain ⟨result, hrun, hresult⟩ := exists_perform_eq_ok hjob
  obtain ⟨hwritten, hentries⟩ := Prod.mk.inj (Option.some.inj hresult)
  have hshown := hends.showsPath (by rw [hrun]) hwritten (by decide) (by rw [hentries]; decide)
  rw [hshown, hentries]
  rfl

/-- A file is written whose path cannot be announced. -/
theorem not_command_agrees_with_job :
    let _ : Display := Console.display 80
    let _ : JsonWriter := Json.writer
    let _ : YamlLibrary := Yaml.library
    ¬∀ (w : World) (recipe : Recipe) (name : Text) (lombok force : Bool) (bytes : List UInt8)
        (text : Text), recipe.input.text ≠ ("-" : Text) → w.store.read recipe.input = .ok bytes →
      Workspace.text bytes = .ok text →
      ((w.act (recipe.command lombok force).run).1.ending = .exit 0 ↔
        ∃ result file, (w.perform (recipe.job name lombok force).run).1 = .ok result ∧
          result.file? = some file) := by
  intro _ _ _ h
  let w : World := ⟨⟨[([Utf8.bytes "c.txt"], .file (Utf8.bytes "1-a"))], []⟩, [], []⟩
  let recipe : Recipe := .comment (Path.ofText "c.txt") "T" [] (Path.ofText "[/x]")
  let file := Path.ofText "[/x]/T.java"
  have hlawful : Display.Lawful := Console.lawful_display 80
  have hpath : recipe.input.text ≠ ("-" : Text) := by decide
  have hfile : w.store.read recipe.input = .ok (Utf8.bytes "1-a") := rfl
  have htext : Workspace.text (Utf8.bytes "1-a") = .ok "1-a" := rfl
  have hjob : (w.perform (recipe.job "job" true false).run).1.toOption.bind
      (fun result => some (result.file?, result.entries)) = some (some file, 1) := by decide +kernel
  obtain ⟨result, hrun, hresult⟩ := exists_perform_eq_ok hjob
  obtain ⟨hwritten, hentries⟩ := Prod.mk.inj (Option.some.inj hresult)
  have hended := congrArg Prod.fst hrun
  have hrender : Console.render 80 (announcement file 1) = .error .tag :=
    Console.render_of_stray 80 (by decide) (by decide) (by decide) rfl
  have hshown : Display.message (announcement file 1) = .error .tag := by
    change Console.render 80 (announcement file 1) >>= Console.printed = .error .tag
    rw [hrender]
    rfl
  have hending := (h w recipe "job" true false _ _ hpath hfile htext).2 ⟨_, _, hended, hwritten⟩
  -- What answers the job ends with the error of the announcement, and not with code zero.
  have herror := ((answers_run recipe "job" true false hpath hfile htext).1.error_iff _).2
    (.inr ⟨_, _, hended, rfl, .inl ⟨_, file?_eq_some_iff.1 hwritten, hentries ▸ hshown⟩⟩)
  cases hending.symm.trans herror

end CommandLine

end DocEnum
