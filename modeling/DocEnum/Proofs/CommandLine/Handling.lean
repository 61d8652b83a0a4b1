import Mathlib
import DocEnum.Proofs.CommandLine.Agreement
import DocEnum.Proofs.CommandLine.Printing
import DocEnum.Proofs.Job.Failure
import DocEnum.Proofs.Json.Writable
import DocEnum.Proofs.Loading

/-!
# Errors that commands do not handle

Whatever a file holds, a command that reads it should end with success, a warning or a usage fault.
Which contents make it end with an error instead.

**Failures** (`FailsFor`). For each command the reasons are listed for which it fails. It fails
with exactly these errors, and its end is handled if there is none.

**Comments** (`ParseFails`, `GenerateFails`). The two commands on comment files read their input
outside of what they handle. So a file that is not UTF-8 is an error, although the other commands
make a usage fault of it. No text is: entries of a text can always be written, and a request that is
not acceptable is refused.

**Manifests** (`BatchFails`). A manifest that is not UTF-8 is refused, and so is a text that is not
JSON. But a text that is not YAML is an error, and so are values of the wrong type: for a job, for a
path, for a comment, for a type name. What a job tells without using it is an error of the summary,
if it cannot be written: a type name of any type, or a name with half of a surrogate pair.

**Output.** Where a command writes, the files around it have to fit, and the path that it wrote to
is shown as markup.

Main result: `contents_handled_unless`.
-/

namespace DocEnum.CommandLine

open World

variable {w w' : World} {path : Path} {bytes : List UInt8} {text : Text} {e : Error}
  {report : Report}

/-! ## Failures -/

/-- The end of a command was provided for: success, a warning or a usage fault. -/
def Report.IsHandled (report : Report) : Prop :=
  report.ending = .exit 0 ∨ report.ending = .exit 1 ∨ ∃ fault, report.ending = .usage fault

/-- **A command fails for some reasons**: it ends with these errors, and is handled otherwise. -/
structure FailsFor (fails : Error → Prop) (report : Report) : Prop where
  error_iff (e : Error) : report.ending = .error e ↔ fails e
  handled : (∀ e, ¬fails e) → report.IsHandled

theorem Report.IsHandled.ending_ne (h : report.IsHandled) (e : Error) :
    report.ending ≠ .error e := by
  rcases h with h | h | ⟨fault, h⟩ <;> rw [h] <;> exact fun heq => (nomatch heq)

theorem failsFor_of_cases {fails : Error → Prop}
    (hcases : report.IsHandled ∨ ∃ e, report.ending = .error e ∧ fails e)
    (hfails : ∀ e, fails e → report.ending = .error e) : FailsFor fails report where
  error_iff e := by
    refine ⟨fun hending => ?_, hfails e⟩
    rcases hcases with hhandled | ⟨e', hending', hfails'⟩
    · exact absurd hending (hhandled.ending_ne e)
    · obtain rfl := Ending.error.inj (hending'.symm.trans hending)
      exact hfails'
  handled hnone := by
    rcases hcases with hhandled | ⟨e, -, hfails⟩
    · exact hhandled
    · exact absurd hfails (hnone e)

/-! ## Steps -/

theorem advance_jsonText_bind [JsonWriter] {α : Type} {value : Value} {json : Text}
    (h : JsonWriter.text? value = some json) (before : Text)
    (next : Text → Work (StateM World) α) :
    w.advance before (Work.jsonText value >>= next) = w.advance before (next json) := by
  unfold Work.jsonText
  rw [h]
  rfl

theorem isHandled_refuse (w : World) (before reason : Text) :
    (Report.of (w.advance before (Work.refuse (α := Unit) reason)).1).IsHandled :=
  .inr (.inr ⟨_, rfl⟩)

section Steps

variable [Display]

/-- Why a JSON text is not put out. -/
inductive OutputFails (s : File.Store) (json : Text) (message : Path → Text)
    (output : Option Path) : Error → Prop
  | unwritten {target : Path} {fault : File.Fault} (houtput : output = some target)
      (hwrite : s.write target (Utf8.bytes json) = .error fault) :
      OutputFails s json message output (.file fault)
  | unshown {target : Path} {s' : File.Store} {fault : Display.Fault}
      (houtput : output = some target) (hwrite : s.write target (Utf8.bytes json) = .ok s')
      (hshown : Display.message (message target) = .error fault) :
      OutputFails s json message output fault.error

/-- Putting a text out to a file: it is written first, and told then. -/
theorem advance_putOut_some (w : World) (before json : Text) (message : Path → Text)
    (target : Path) :
    w.advance before (Work.putOut json message (some target)) =
      match w.store.write target (Utf8.bytes json) with
      | .error fault => ((.error (.error (.file fault)), before), w)
      | .ok store =>
        ({ w with store } : World).advance before (Work.printMessage (message target)) := by
  unfold Work.putOut
  simp only
  rw [advance_bind, advance_perform, perform_writeBytes]
  cases w.store.write target (Utf8.bytes json) <;> rfl

theorem advance_putOut_of_fails {json : Text} {message : Path → Text} {output : Option Path}
    (h : OutputFails w.store json message output e) (before : Text) :
    ∃ w', w.advance before (Work.putOut json message output) =
      ((.error (.error e), before), w') := by
  cases h with
  | unwritten houtput hwrite =>
    subst houtput
    rw [advance_putOut_some, hwrite]
    exact ⟨_, rfl⟩
  | unshown houtput hwrite hshown =>
    subst houtput
    rw [advance_putOut_some, hwrite]
    simp only [Work.printMessage, advance_print, hshown]
    exact ⟨_, rfl⟩

/-- **A JSON text** is put out unless there is a reason why not. -/
theorem advance_putOut_cases [Display.Lawful] (w : World) (before : Text) {json : Text}
    (hjson : Utf8.Encodable json) (message : Path → Text) (output : Option Path) :
    (∃ after w', w.advance before (Work.putOut json message output) = ((.ok (), after), w')) ∨
      ∃ e, OutputFails w.store json message output e := by
  cases output with
  | none =>
    left
    unfold Work.putOut
    simp only [advance_print, Display.Lawful.data_eq hjson]
    exact ⟨_, _, rfl⟩
  | some target =>
    cases hwrite : w.store.write target (Utf8.bytes json) with
    | error fault => exact .inr ⟨_, .unwritten rfl hwrite⟩
    | ok s' =>
      cases hshown : Display.message (message target) with
      | error fault => exact .inr ⟨_, .unshown rfl hwrite hshown⟩
      | ok shown =>
        left
        rw [advance_putOut_some, hwrite]
        simp only [Work.printMessage, advance_print, hshown]
        exact ⟨_, _, rfl⟩

theorem isHandled_warn_bind [Display.Lawful] (w : World) (before : Text) {message : Text}
    (hmessage : Utf8.Encodable message) (next : Unit → Work (StateM World) Unit) :
    (Report.of (w.advance before (Work.warn message >>= next)).1).IsHandled := by
  obtain ⟨shown, hshown⟩ := exists_message_warning hmessage
  rw [advance_bind, advance_warn, hshown]
  exact .inr (.inl rfl)

theorem isHandled_expectEntries_bind [Display.Lawful] (w : World) (before : Text)
    (entries : List Entry) {next : Unit → Work (StateM World) Unit}
    (hnext : entries ≠ [] → (Report.of (w.advance before (next ())).1).IsHandled) :
    (Report.of (w.advance before (Work.expectEntries entries >>= next)).1).IsHandled := by
  cases entries with
  | nil => exact isHandled_warn_bind w before (Utf8.encodable_map_char _) next
  | cons entry rest => exact hnext (List.cons_ne_nil _ _)

theorem isHandled_expectEntries [Display.Lawful] (w : World) (before : Text)
    (entries : List Entry) :
    (Report.of (w.advance before (Work.expectEntries entries)).1).IsHandled := by
  rw [← bind_pure (Work.expectEntries entries)]
  exact isHandled_expectEntries_bind w before entries fun _ => .inl rfl

end Steps

/-! ## Comments -/

/-- A comment file that is not UTF-8 ends a command. -/
theorem advance_readEntries_of_encoding {α : Type} (hpath : path.text ≠ ("-" : Text))
    (hfile : w.store.read path = .ok bytes) (htext : Workspace.text bytes = .error e)
    (next : List Entry → Work (StateM World) α) :
    w.advance [] (Work.readEntries path >>= next) = ((.error (.error e), []), w) := by
  unfold Work.readEntries
  rw [bind_assoc, advance_readComment_bind hpath hfile, advance_bind, advance_perform,
    perform_readText, hfile]
  simp only [htext]
  rfl

theorem advance_readEntries_of_text {α : Type} (hpath : path.text ≠ ("-" : Text))
    (hfile : w.store.read path = .ok bytes) (htext : Workspace.text bytes = .ok text)
    (next : List Entry → Work (StateM World) α) :
    ∃ w₁ : World, w₁.store = w.store ∧
      w.advance [] (Work.readEntries path >>= next) = w₁.advance [] (next (Entry.parse text)) := by
  refine ⟨_, store_act_recordAll w (Entry.parseLog text), ?_⟩
  unfold Work.readEntries
  rw [bind_assoc, advance_readComment_bind hpath hfile,
    advance_perform_bind (perform_readText_ok hfile htext),
    advance_perform_bind (perform_entriesOf w text)]

section Comments

variable [Display]

/-- **Printing a source** is always handled, if its comment has bytes. -/
theorem isHandled_printSource [Display.Lawful] (w : World) {typeName package : Text}
    {lombok : Bool} (htext : Utf8.Encodable text) :
    (Report.of (w.advance []
      (Work.printSource { lombok } ⟨package, typeName, Entry.parse text⟩)).1).IsHandled := by
  unfold Work.printSource Java.synthesize
  cases hsource : Java.generate { lombok } ⟨package, typeName, Entry.parse text⟩ with
  | error fault => exact isHandled_refuse w [] fault.message
  | ok content =>
    have hcontent := Java.encodable_generate hsource (Utf8.encodable_map_char _) (by
      simp only
      exact Java.encodable_descriptions htext)
    simp only [Except.map, Display.Lawful.data_eq hcontent]
    exact .inl rfl

/-- **Printing an enum** is always handled, if the comment is a text. -/
theorem isHandled_generate [Display.Lawful] (hpath : path.text ≠ ("-" : Text))
    (hfile : w.store.read path = .ok bytes) (htext : Workspace.text bytes = .ok text)
    (typeName package : Text) (directory : Path) (lombok force : Bool) :
    (Report.of (w.advance []
      (Work.generate path typeName package directory lombok force true)).1).IsHandled := by
  unfold Work.generate
  obtain ⟨w₁, -, hadvance⟩ := advance_readEntries_of_text (α := Unit) hpath hfile htext
    fun entries => Work.expectEntries entries >>= fun _ =>
      Work.produce directory { lombok } force true ⟨package, typeName, entries⟩
  rw [hadvance]
  refine isHandled_expectEntries_bind w₁ [] _ fun _ => ?_
  unfold Work.produce
  rw [if_pos rfl]
  exact isHandled_printSource w₁ (encodable_of_text htext)

variable [JsonWriter]

/-- Why the command that shows entries fails on a comment file. -/
inductive ParseFails (s : File.Store) (bytes : List UInt8) (output : Option Path) : Error → Prop
  | encoding {e : Error} (h : Workspace.text bytes = .error e) : ParseFails s bytes output e
  | output {text json : Text} {e : Error} (htext : Workspace.text bytes = .ok text)
      (hjson : JsonWriter.text? (.list ((Entry.parse text).map Work.entryValue)) = some json)
      (h : OutputFails s json (entriesMessage (Entry.parse text)) output e) :
      ParseFails s bytes output e

/-- After its entries were read the command ends well, unless the output fails. -/
theorem showEntries_cases [Display.Lawful] [JsonWriter.Lawful] (w : World)
    (htext : Utf8.Encodable text) (output : Option Path) :
    ∃ json, JsonWriter.text? (.list ((Entry.parse text).map Work.entryValue)) = some json ∧
      ((Report.of (w.advance [] (Work.showEntries output (Entry.parse text))).1).IsHandled ∨
        ∃ e, OutputFails w.store json (entriesMessage (Entry.parse text)) output e) := by
  obtain ⟨json, hjson⟩ := Option.isSome_iff_exists.1
    ((JsonWriter.Lawful.isSome_text?_iff _).2 (writable_entries htext))
  refine ⟨json, hjson, ?_⟩
  unfold Work.showEntries
  rw [advance_jsonText_bind hjson]
  rcases advance_putOut_cases w [] (JsonWriter.Lawful.encodable_text hjson)
    (entriesMessage (Entry.parse text)) output with ⟨after, w', hput⟩ | hfails
  · left
    rw [advance_bind, hput]
    exact isHandled_expectEntries w' after (Entry.parse text)
  · exact .inr hfails

/-- **Showing entries** fails only for the encoding of the comment, or for the output. -/
theorem failsFor_parse [YamlLibrary] [Display.Lawful] [JsonWriter.Lawful]
    (hpath : path.text ≠ ("-" : Text)) (hfile : w.store.read path = .ok bytes)
    (output : Option Path) :
    FailsFor (ParseFails w.store bytes output) (w.act (Command.parse path output).run).1 := by
  rw [act_run]
  change FailsFor _ (Report.of (w.advance [] (Work.parse path output)).1)
  unfold Work.parse
  cases htext : Workspace.text bytes with
  | error e =>
    rw [advance_readEntries_of_encoding hpath hfile htext]
    refine failsFor_of_cases (.inr ⟨e, rfl, .encoding htext⟩) fun e' hfails => ?_
    cases hfails with
    | encoding h =>
      obtain rfl := Except.error.inj (htext.symm.trans h)
      rfl
    | output h => cases htext.symm.trans h
  | ok text =>
    obtain ⟨w₁, hstore, hadvance⟩ := advance_readEntries_of_text (α := Unit) hpath hfile htext
      (Work.showEntries output)
    obtain ⟨json, hjson, hcases⟩ := showEntries_cases w₁ (encodable_of_text htext) output
    -- The store is the one that the command started in, as only records were made.
    rw [hstore] at hcases
    have hfails : ∀ e, OutputFails w.store json (entriesMessage (Entry.parse text)) output e →
        (Report.of (w₁.advance [] (Work.showEntries output (Entry.parse text))).1).ending =
          .error e := by
      intro e h
      obtain ⟨w', hput⟩ := advance_putOut_of_fails (hstore ▸ h) []
      unfold Work.showEntries
      rw [advance_jsonText_bind hjson, advance_bind, hput]
      rfl
    rw [hadvance]
    refine failsFor_of_cases (hcases.imp_right ?_) ?_
    · rintro ⟨e, h⟩
      exact ⟨e, hfails e h, .output htext hjson h⟩
    · intro e h
      cases h with
      | encoding h => cases htext.symm.trans h
      | output htext' hjson' h =>
        obtain rfl := Except.ok.inj (htext.symm.trans htext')
        obtain rfl := Option.some.inj (hjson.symm.trans hjson')
        exact hfails e h

/-- Why the command that makes an enum from a comment file fails, where `job` is the job for the
same recipe. -/
inductive GenerateFails (w : World) (bytes : List UInt8) (recipe : Recipe) (job : Job)
    (stdout : Bool) : Error → Prop
  | encoding {e : Error} (h : Workspace.text bytes = .error e) :
      GenerateFails w bytes recipe job stdout e
  | files {w' : World} {fault : File.Fault} (htext : ∃ text, Workspace.text bytes = .ok text)
      (hstdout : stdout = false) (hrun : w.perform job.run = (.error (.file fault), w'))
      (h : job.StoppedBy w w'.store fault.cause) :
      GenerateFails w bytes recipe job stdout (.file fault)
  | unshown {result : Result} {file : Path} {fault : Display.Fault}
      (htext : ∃ text, Workspace.text bytes = .ok text) (hstdout : stdout = false)
      (hrun : (w.perform job.run).1 = .ok result) (hfile : result.file? = some file)
      (hshown : Display.message (announcement file result.entries) = .error fault) :
      GenerateFails w bytes recipe job stdout fault.error
  | untold {result : Result} {warning : Warning} {e : Error} {fault : Display.Fault}
      (htext : ∃ text, Workspace.text bytes = .ok text) (hstdout : stdout = false)
      (hrun : (w.perform job.run).1 = .ok result) (hwarned : result.warnings = [warning])
      (hwarning : warning ∈ printedWarnings) (hfailure : job.failure? w = some e)
      (htellable : ¬recipe.IsTellable)
      (hshown : Display.message (CommandLine.warning (recipe.telling e)) = .error fault) :
      GenerateFails w bytes recipe job stdout fault.error

/-- **Writing an enum** fails only where the file is written or announced, if the comment is a
text. -/
theorem failsFor_generate_written [YamlLibrary] [Display.Lawful] (hpath : path.text ≠ ("-" : Text))
    (hfile : w.store.read path = .ok bytes) (htext : Workspace.text bytes = .ok text)
    (typeName package : Text) (directory : Path) (lombok force : Bool) :
    FailsFor
      (GenerateFails w bytes (.comment path typeName package directory)
        ((Recipe.comment path typeName package directory).job [] lombok force) false)
      (w.act (Command.generate path typeName package directory lombok force false).run).1 := by
  have hisText : ((Recipe.comment path typeName package directory).job [] lombok force).IsText :=
    ⟨.inl rfl, .inl rfl, .inr ⟨_, rfl⟩⟩
  obtain ⟨hanswers, -⟩ := answers_run (.comment path typeName package directory) [] lombok
    force hpath hfile htext
  change Answers _ _ _ (w.act
    (Command.generate path typeName package directory lombok force false).run).1 at hanswers
  -- The job and the command answer each other, so that each way to answer is a way to fail.
  refine failsFor_of_cases ?_ fun e hfails => ?_
  · generalize hended : (w.perform (Job.run _)).1 = ended at hanswers
    generalize (w.act
      (Command.generate path typeName package directory lombok force false).run).1 = report
      at hanswers
    cases hanswers with
    | written => exact .inl (.inl rfl)
    | warned => exact .inl (.inr (.inl rfl))
    | refused => exact .inl (.inr (.inr ⟨_, rfl⟩))
    | unshown hwritten hshown =>
      exact .inr ⟨_, rfl,
        .unshown ⟨text, htext⟩ rfl hended (file?_eq_some_iff.2 hwritten) hshown⟩
    | untold hwarned hwarning hfailure htellable hshown =>
      exact .inr ⟨_, rfl, .untold ⟨text, htext⟩ rfl hended
        (warnings_eq_singleton_iff.2 hwarned) hwarning hfailure htellable hshown⟩
    | @failed e =>
      have hrun := perform_eq_of_fst hended
      obtain ⟨fault, rfl, hstopped⟩ := stoppedBy_run hisText hrun
      exact .inr ⟨_, rfl, .files ⟨text, htext⟩ rfl hrun hstopped⟩
  · rw [hanswers.error_iff]
    cases hfails with
    | encoding h => cases htext.symm.trans h
    | files _ _ hrun => exact .inl (congrArg Prod.fst hrun)
    | unshown _ _ hrun hfile hshown =>
      exact .inr ⟨_, _, hrun, rfl, .inl ⟨_, file?_eq_some_iff.1 hfile, hshown⟩⟩
    | untold _ _ hrun hwarned hwarning hfailure _ hshown =>
      exact .inr ⟨_, _, hrun, rfl,
        .inr ⟨_, _, warnings_eq_singleton_iff.1 hwarned, hwarning, hfailure, hshown⟩⟩

/-- **Making an enum** fails only for the encoding of the comment, or where it is to be written. -/
theorem failsFor_generate [YamlLibrary] [Display.Lawful] (hpath : path.text ≠ ("-" : Text))
    (hfile : w.store.read path = .ok bytes) (typeName package : Text) (directory : Path)
    (lombok force stdout : Bool) :
    FailsFor
      (GenerateFails w bytes (.comment path typeName package directory)
        ((Recipe.comment path typeName package directory).job [] lombok force) stdout)
      (w.act (Command.generate path typeName package directory lombok force stdout).run).1 := by
  -- Without a text nothing is tried; printing a text never fails; writing one is the job.
  cases htext : Workspace.text bytes with
  | error e =>
    rw [act_run]
    change FailsFor _ (Report.of (w.advance []
      (Work.generate path typeName package directory lombok force stdout)).1)
    unfold Work.generate
    rw [advance_readEntries_of_encoding hpath hfile htext]
    refine failsFor_of_cases (.inr ⟨e, rfl, .encoding htext⟩) fun e' hfails => ?_
    cases hfails with
    | encoding h =>
      obtain rfl := Except.error.inj (htext.symm.trans h)
      rfl
    | files h | unshown h | untold h =>
      obtain ⟨text, h⟩ := h
      cases htext.symm.trans h
  | ok text =>
    cases stdout with
    | true =>
      rw [act_run]
      refine failsFor_of_cases (.inl ?_) fun e hfails => ?_
      · exact isHandled_generate hpath hfile htext typeName package directory lombok force
      · cases hfails with
        | encoding h => cases htext.symm.trans h
        | files _ h | unshown _ h | untold _ h => cases h
    | false =>
      exact failsFor_generate_written hpath hfile htext typeName package directory lombok force

end Comments

/-! ## Manifests -/

/-- Why a summary of some turns cannot be written. -/
inductive SummaryFails (path : Path) (turns : List Manifest.Turn) : Prop
  | manifest (h : ¬Utf8.Encodable path.text) : SummaryFails path turns
  | count (h : 2 ^ 64 ≤ turns.length) : SummaryFails path turns
  | result {turn : Manifest.Turn} (hturn : turn ∈ turns) (h : ¬turn.result.Writable) :
      SummaryFails path turns

/-- **A summary of some turns** has a JSON text unless there is a reason why not. -/
theorem text?_eq_none_iff_of_batch [JsonWriter] [JsonWriter.Lawful] {turns : List Manifest.Turn}
    (h : Manifest.Batch w turns w') (path : Path) :
    JsonWriter.text? (Manifest.Summary.mk path (turns.map Manifest.Turn.result)).toValue = none ↔
      SummaryFails path turns := by
  have hentries : ∀ result ∈ turns.map Manifest.Turn.result, result.entries < 2 ^ 64 := by
    refine List.forall_mem_map.2 fun turn hturn => ?_
    exact (entries_le_of_run (Manifest.runs_of_batch h hturn)).trans_lt (by decide)
  have hsome := JsonWriter.Lawful.isSome_text?_iff
    (Manifest.Summary.mk path (turns.map Manifest.Turn.result)).toValue
  rw [Manifest.Summary.writable_toValue_iff hentries] at hsome
  rw [← Option.isNone_iff_eq_none, ← Option.not_isSome, Bool.not_eq_true', ← Bool.not_eq_true,
    hsome]
  simp only [List.length_map, List.forall_mem_map]
  -- A summary can be written unless its path, its size or one of its results cannot.
  constructor
  · intro hnot
    by_contra hfails
    refine hnot ⟨?_, ?_, ?_⟩
    · exact Classical.not_not.1 fun h => hfails (.manifest h)
    · exact Nat.lt_of_not_le fun h => hfails (.count h)
    · exact fun turn hturn => Classical.not_not.1 fun h => hfails (.result hturn h)
  · rintro (hmanifest | hcount | ⟨hturn, hresult⟩) ⟨h₁, h₂, h₃⟩
    · exact hmanifest h₁
    · exact absurd h₂ (Nat.not_lt.2 hcount)
    · exact hresult (h₃ _ hturn)

theorem exists_message_countMessage [Display] [Display.Lawful] (summary : Manifest.Summary) :
    ∃ shown, Display.message (countMessage summary) = .ok shown := by
  have hwords : Console.isWording "Generated" = true := by decide
  have hnumber : ∀ n, .char '[' ∉ Text.ofNat n := fun n => (Console.isPlain_ofNat n).not_mem rfl
  exact Display.Lawful.message_headed hwords (by simp [hnumber]) (by simp)

theorem perform_run_of_text [YamlLibrary] (hfile : w.store.read path = .ok bytes)
    (htext : Workspace.text bytes = .ok text) :
    w.perform (Manifest.run path) =
      match Manifest.jobsOf path text with
      | .error e => (.error e, w)
      | .ok jobs =>
        match w.perform (Manifest.runAll jobs) with
        | (.error e, w') => (.error e, w')
        | (.ok results, w') => (.ok ⟨path, results⟩, w') := by
  rw [Manifest.perform_run, Manifest.perform_load, perform_readText_ok hfile htext]
  rfl

section Manifests

variable [Display] [JsonWriter] [YamlLibrary]

/-- Why the command on a manifest fails on its text. -/
inductive BatchFails (w : World) (path : Path) (text : Text) (output : Option Path) : Error → Prop
  | unloaded {e : Error} (h : Manifest.jobsOf path text = .error e) (hinvalid : e.isInvalid = false)
      (hcause : Manifest.Unloaded path text e) : BatchFails w path text output e
  | broken {turns : List Manifest.Turn} {job : Job} {rest : List Job} {w₁ w₂ : World} {e : Error}
      (hload : Manifest.jobsOf path text = .ok (turns.map Manifest.Turn.job ++ job :: rest))
      (hbatch : Manifest.Batch w turns w₁) (hrun : w₁.perform job.run = (.error e, w₂))
      (hinvalid : e.isInvalid = false) (hcause : job.Breaks w₁ w₂.store e) :
      BatchFails w path text output e
  | notWritable {turns : List Manifest.Turn} {w₁ : World}
      (hload : Manifest.jobsOf path text = .ok (turns.map Manifest.Turn.job))
      (hbatch : Manifest.Batch w turns w₁) (hcause : SummaryFails path turns) :
      BatchFails w path text output .notWritable
  | output {turns : List Manifest.Turn} {w₁ : World} {json : Text} {e : Error}
      (hload : Manifest.jobsOf path text = .ok (turns.map Manifest.Turn.job))
      (hbatch : Manifest.Batch w turns w₁)
      (hjson : JsonWriter.text? (Manifest.Summary.mk path
        (turns.map Manifest.Turn.result)).toValue = some json)
      (h : OutputFails w₁.store json summaryMessage output e) : BatchFails w path text output e

/-! ### Stages -/

theorem advance_batch (hfile : w.store.read path = .ok bytes) {outcome}
    (hrun : w.perform (Manifest.run path) = (outcome, w')) (output : Option Path) :
    w.advance [] (Work.batch path output) = w'.advance [] (match outcome with
      | .error error => if error.isInvalid then Work.refuse error.message else throw (.error error)
      | .ok summary => Work.showSummary output summary) := by
  unfold Work.batch
  refine (advance_expectFile_bind hfile _ _).trans ((advance_attempt_bind hrun _).trans ?_)
  cases outcome <;> rfl

theorem ending_batch_of_error (hfile : w.store.read path = .ok bytes)
    (hrun : w.perform (Manifest.run path) = (.error e, w')) (output : Option Path) :
    (w.act (Command.batch path output).run).1.ending =
      if e.isInvalid then .usage (.invalidValue e.message) else .error e := by
  rw [act_run]
  change (Report.of (w.advance [] (Work.batch path output)).1).ending = _
  rw [advance_batch hfile hrun]
  simp only
  cases e.isInvalid <;> rfl

theorem isHandled_batch_of_invalid (hfile : w.store.read path = .ok bytes)
    (hrun : w.perform (Manifest.run path) = (.error e, w')) (hinvalid : e.isInvalid = true)
    (output : Option Path) : (w.act (Command.batch path output).run).1.IsHandled := by
  refine .inr (.inr ⟨.invalidValue e.message, ?_⟩)
  rw [ending_batch_of_error hfile hrun, hinvalid]
  rfl

theorem ending_batch_of_ok {summary : Manifest.Summary} (hfile : w.store.read path = .ok bytes)
    (hrun : w.perform (Manifest.run path) = (.ok summary, w')) (output : Option Path) :
    (w.act (Command.batch path output).run).1 =
      .of (w'.advance [] (Work.showSummary output summary)).1 := by
  rw [act_run]
  change Report.of (w.advance [] (Work.batch path output)).1 = _
  rw [advance_batch hfile hrun]

theorem isHandled_batch_of_encoding (hfile : w.store.read path = .ok bytes)
    (htext : Workspace.text bytes = .error e) (output : Option Path) :
    (w.act (Command.batch path output).run).1.IsHandled := by
  have hrun : w.perform (Manifest.run path) = (.error e, w) := by
    rw [Manifest.perform_run, Manifest.perform_load, perform_readText, hfile]
    simp only [htext]
    rfl
  refine isHandled_batch_of_invalid hfile hrun ?_ output
  unfold Workspace.text at htext
  split at htext
  · cases htext
  · obtain rfl := Except.error.inj htext
    rfl

/-- **Every reason to fail** ends the command with its error. -/
theorem ending_of_batchFails [JsonWriter.Lawful] (hfile : w.store.read path = .ok bytes)
    (htext : Workspace.text bytes = .ok text) {output : Option Path}
    (h : BatchFails w path text output e) :
    (w.act (Command.batch path output).run).1.ending = .error e := by
  have hrun := perform_run_of_text hfile htext
  -- Each way to fail is a prefix of the run: load, some turns, the summary, its output.
  cases h with
  | unloaded h hinvalid =>
    rw [h] at hrun
    rw [ending_batch_of_error hfile hrun, hinvalid]
    rfl
  | @broken turns job rest _ _ _ hload hbatch herror hinvalid =>
    rw [hload] at hrun
    simp only [Manifest.runAll_of_batch_of_error rest hbatch herror] at hrun
    rw [ending_batch_of_error hfile hrun, hinvalid]
    rfl
  | notWritable hload hbatch hcause =>
    rw [hload] at hrun
    simp only [Manifest.runAll_of_batch hbatch] at hrun
    rw [ending_batch_of_ok hfile hrun]
    unfold Work.showSummary Work.jsonText
    rw [(text?_eq_none_iff_of_batch hbatch path).2 hcause]
    rfl
  | output hload hbatch hjson h =>
    rw [hload] at hrun
    simp only [Manifest.runAll_of_batch hbatch] at hrun
    obtain ⟨w', hput⟩ := advance_putOut_of_fails h []
    rw [ending_batch_of_ok hfile hrun]
    unfold Work.showSummary
    rw [advance_jsonText_bind hjson, advance_bind, hput]
    rfl

/-- A summary is shown unless there is a reason why not. -/
theorem showSummary_cases [Display.Lawful] [JsonWriter.Lawful] {turns : List Manifest.Turn}
    {w₁ : World} (hload : Manifest.jobsOf path text = .ok (turns.map Manifest.Turn.job))
    (hbatch : Manifest.Batch w turns w₁) (output : Option Path) :
    (Report.of (w₁.advance [] (Work.showSummary output
        ⟨path, turns.map Manifest.Turn.result⟩)).1).IsHandled ∨
      ∃ e, BatchFails w path text output e := by
  cases hjson : JsonWriter.text?
      (Manifest.Summary.mk path (turns.map Manifest.Turn.result)).toValue with
  | none =>
    exact .inr ⟨_, .notWritable hload hbatch ((text?_eq_none_iff_of_batch hbatch path).1 hjson)⟩
  | some json =>
    rcases advance_putOut_cases w₁ [] (JsonWriter.Lawful.encodable_text hjson) summaryMessage
      output with ⟨after, w', hput⟩ | ⟨e, h⟩
    · left
      obtain ⟨shown, hshown⟩ :=
        exists_message_countMessage ⟨path, turns.map Manifest.Turn.result⟩
      unfold Work.showSummary Work.printMessage
      rw [advance_jsonText_bind hjson, advance_bind, hput]
      simp only [hshown]
      exact .inl rfl
    · exact .inr ⟨e, .output hload hbatch hjson h⟩

/-- The jobs of a manifest come to a summary that is shown, or one of them ends the command. -/
theorem batch_cases_of_jobs [Display.Lawful] [JsonWriter.Lawful] {jobs : List Job}
    (hfile : w.store.read path = .ok bytes) (htext : Workspace.text bytes = .ok text)
    (hload : Manifest.jobsOf path text = .ok jobs) (output : Option Path) :
    (w.act (Command.batch path output).run).1.IsHandled ∨
      ∃ e, BatchFails w path text output e := by
  have hrun := perform_run_of_text hfile htext
  rcases hall : w.perform (Manifest.runAll jobs) with ⟨ended, w'⟩
  simp only [hload, hall] at hrun
  -- The jobs make a batch, or a batch of the first of them ends in an error.
  rcases Manifest.batch_of_runAll hall with ⟨turns, hbatch, rfl, rfl⟩ |
    ⟨turns, w₁, job, rest, e, hbatch, rfl, herror, rfl⟩
  · rw [ending_batch_of_ok hfile hrun]
    exact showSummary_cases hload hbatch output
  · cases he : e.isInvalid with
    | true => exact .inl (isHandled_batch_of_invalid hfile hrun he output)
    | false => exact .inr ⟨e, .broken hload hbatch herror he (breaks_run herror he)⟩

/-- A text is refused, gives no jobs for a reason, or gives jobs that are run. -/
theorem batch_cases_of_text [Display.Lawful] [JsonWriter.Lawful]
    (hfile : w.store.read path = .ok bytes) (htext : Workspace.text bytes = .ok text)
    (output : Option Path) :
    (w.act (Command.batch path output).run).1.IsHandled ∨
      ∃ e, BatchFails w path text output e := by
  cases hload : Manifest.jobsOf path text with
  | ok jobs => exact batch_cases_of_jobs hfile htext hload output
  | error e =>
    have hrun := perform_run_of_text hfile htext
    rw [hload] at hrun
    cases he : e.isInvalid with
    | true => exact .inl (isHandled_batch_of_invalid hfile hrun he output)
    | false => exact .inr ⟨e, .unloaded hload he (Manifest.unloaded_of_jobsOf hload he)⟩

/-- **Running a manifest** fails only for these reasons. -/
theorem failsFor_batch [Display.Lawful] [JsonWriter.Lawful]
    (hfile : w.store.read path = .ok bytes) (output : Option Path) :
    FailsFor (fun e => ∃ text, Workspace.text bytes = .ok text ∧ BatchFails w path text output e)
      (w.act (Command.batch path output).run).1 := by
  have hfails : ∀ e, (∃ text, Workspace.text bytes = .ok text ∧ BatchFails w path text output e) →
      (w.act (Command.batch path output).run).1.ending = .error e := by
    rintro e ⟨text, htext, h⟩
    exact ending_of_batchFails hfile htext h
  -- A failure is an ending; what is left is that every other ending is handled.
  refine failsFor_of_cases ?_ hfails
  cases htext : Workspace.text bytes with
  | error e => exact .inl (isHandled_batch_of_encoding hfile htext output)
  | ok text =>
    refine (batch_cases_of_text hfile htext output).imp_right ?_
    rintro ⟨e, h⟩
    exact ⟨e, hfails e ⟨text, htext, h⟩, text, rfl, h⟩

end Manifests

/-! ## Contents -/

/-- **Whatever a file holds**, the commands that read it fail only for these reasons, and end with
success, a warning or a usage fault otherwise. On a comment file the reasons are that it is not
UTF-8, and what comes of the output. On a manifest they are a YAML text that is malformed, values
that are nested too deep, values of the wrong type, a text or a type name that cannot be written,
and what comes of the output. -/
theorem contents_handled_unless [Display] [Display.Lawful] [JsonWriter] [JsonWriter.Lawful]
    [YamlLibrary] (hfile : w.store.read path = .ok bytes) :
    (path.text ≠ ("-" : Text) → ∀ output,
      FailsFor (ParseFails w.store bytes output) (w.act (Command.parse path output).run).1) ∧
    (path.text ≠ ("-" : Text) → ∀ typeName package directory lombok force stdout,
      FailsFor
        (GenerateFails w bytes (.comment path typeName package directory)
          ((Recipe.comment path typeName package directory).job [] lombok force) stdout)
        (w.act (Command.generate path typeName package directory lombok force stdout).run).1) ∧
    ∀ output,
      FailsFor
        (fun e => ∃ text, Workspace.text bytes = .ok text ∧ BatchFails w path text output e)
        (w.act (Command.batch path output).run).1 :=
  ⟨fun hpath => failsFor_parse hpath hfile, fun hpath => failsFor_generate hpath hfile,
    failsFor_batch hfile⟩

/-- A list of a number is a comment without entries, and a manifest whose job is no mapping. -/
theorem contents_handled_unless_number :
    let _ : Display := Console.display 80
    let _ : JsonWriter := Json.writer
    let _ : YamlLibrary := Yaml.library
    let w : World := ⟨⟨[([Utf8.bytes "m.json"], .file (Utf8.bytes "[1]"))], []⟩, [], []⟩
    let path := Path.ofText "m.json"
    Display.Lawful ∧ JsonWriter.Lawful ∧
      w.store.read path = .ok (Utf8.bytes "[1]") ∧ path.text ≠ ("-" : Text) ∧
      (w.act (Command.parse path none).run).1.IsHandled ∧
      (w.act (Command.batch path none).run).1.ending = .error .jobNotMapping := by
  intro _ _ _ w path
  have hdisplay : Display.Lawful := Console.lawful_display 80
  have hwriter : JsonWriter.Lawful := Json.lawful_writer
  have hfile : w.store.read path = .ok (Utf8.bytes "[1]") := rfl
  have hpath : path.text ≠ ("-" : Text) := by decide
  have htext : Workspace.text (Utf8.bytes "[1]") = .ok "[1]" := rfl
  have hitems : Manifest.payloads path "[1]" = .ok [none] := by
    simp only [path]
    cbv
  have hload : Manifest.jobsOf path "[1]" = .error .jobNotMapping := by
    unfold Manifest.jobsOf
    rw [hitems]
    rfl
  obtain ⟨hparse, -, hbatch⟩ := contents_handled_unless hfile
  refine ⟨hdisplay, hwriter, hfile, hpath, (hparse hpath none).handled fun e h => ?_, ?_⟩
  · cases h with
    | encoding h => cases htext.symm.trans h
    | output _ _ h => cases h with | unwritten h | unshown h => cases h
  · have hcause : Manifest.Unloaded path "[1]" .jobNotMapping :=
      .notMapping (show Manifest.payloads path "[1]" = .ok ([] ++ none :: []) from hitems)
    exact ((hbatch none).error_iff _).2 ⟨_, htext, .unloaded hload rfl hcause⟩

/-- A comment file that is not UTF-8 is not handled. -/
theorem not_contents_handled :
    let _ : Display := Console.display 80
    let _ : JsonWriter := Json.writer
    let _ : YamlLibrary := Yaml.library
    ¬∀ (w : World) (path : Path) (bytes : List UInt8), w.store.read path = .ok bytes →
      path.text ≠ ("-" : Text) → (w.act (Command.parse path none).run).1.IsHandled := by
  intro _ _ _ h
  let w : World := ⟨⟨[([Utf8.bytes "c.txt"], .file [0xFF])], []⟩, [], []⟩
  have hdisplay : Display.Lawful := Console.lawful_display 80
  have hwriter : JsonWriter.Lawful := Json.lawful_writer
  have hfile : w.store.read (Path.ofText "c.txt") = .ok [0xFF] := rfl
  have hpath : (Path.ofText "c.txt").text ≠ ("-" : Text) := by decide
  obtain ⟨fault, htext⟩ : ∃ fault, Workspace.text [0xFF] = .error (.encoding fault) := ⟨_, rfl⟩
  have hending := ((failsFor_parse hpath hfile none).error_iff _).2 (.encoding htext)
  exact (h w _ _ hfile hpath).ending_ne _ hending

end DocEnum.CommandLine
