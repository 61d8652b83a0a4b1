import Mathlib
import DocEnum.Proofs.Interruption

/-!
# The input of a job

What a job is accepted for, and what it reads.

**Named input** (`Payload.input?`). A payload names the input of its job by what it gives: a source
with a field, else a comment, else a comment file. An empty text gives nothing, as for the check of
the payload (`Payload.exists_reads`).

**Entries** (`Input.entries`). Each kind of input has entries in some surroundings, or an error if
it cannot be read there.

**Drafts.** A job has the entries of the input that its payload names. There is one exception
(`Payload.HidesFile`): an empty comment is nothing to the check, but it is a comment to the job. So
a job that was accepted for its comment file has no entries if an empty comment stands beside it.

Main result: `draft_reads_input`.
-/

namespace DocEnum

open File File.Store World

variable {base : Path} {payload : Payload} {job : Job} {w : World}

/-! ## Named input -/

/-- Where the entries of a job come from. -/
inductive Input where
  | field (source : Path) (name : Text)
  | comment (text : Text)
  | file (path : Path)

/-- The entries of an input in some surroundings. -/
def Input.entries (w : World) : Input → Except Error (List Entry)
  | .field source name => do
    let text ← (w.perform (Workspace.readText source)).1
    match (Java.CompilationUnit.scan text).field? name with
    | none => throw (.undocumented name)
    | some documented => return Entry.parse documented.doc
  | .comment text => return Entry.parse text
  | .file path => do
    let text ← (w.perform (Workspace.readText path)).1
    return Entry.parse text

namespace Payload

/-- The text under a name, unless it is empty. -/
def given? (payload : Payload) (name : Text) : Option Text :=
  match payload.get name with
  | .text (c :: rest) => some (c :: rest)
  | _ => none

/-- The input that a payload names. -/
def input? (base : Path) (payload : Payload) : Option Input :=
  match payload.given? "source", payload.given? "comment", payload.given? "comment_file" with
  | some source, _, _ => some (.field (base.join source) ((payload.given? "field").getD []))
  | none, some comment, _ => some (.comment comment)
  | none, none, some file => some (.file (base.join file))
  | none, none, none => none

/-- What a payload says about the comment and the field is text. -/
structure IsText (payload : Payload) : Prop where
  comment : (payload.get "comment").IsText
  field : (payload.get "field").IsText

/-- A payload without a source has an empty comment. -/
def HidesFile (payload : Payload) : Prop :=
  payload.given? "source" = none ∧ payload.get "comment" = .text []

/-! ## Accepted payloads -/

theorem path?_eq_ok_iff {name : Text} {path : Option Path} :
    payload.path? base name = .ok path ↔
      (payload.given? name).map base.join = path ∧
        ((payload.get name).isTrue = true → (payload.given? name).isSome = true) := by
  unfold path? given?
  cases payload.get name with
  | text t => cases t <;> simp [Value.isTrue]
  | _ => simp only; split <;> simp_all

/-- What is left of a payload in the job that it describes. -/
structure Accepted (base : Path) (payload : Payload) (job : Job) : Prop where
  lack : Job.lack? job.source payload = none
  source : payload.path? base "source" = .ok job.source
  commentFile : payload.path? base "comment_file" = .ok job.commentFile
  comment : job.comment = payload.get "comment"
  field : job.field = payload.get "field"

theorem exists_of_bind_eq_ok {α β : Type} {outcome : Except Error α} {next : α → Except Error β}
    {b : β} (h : outcome >>= next = .ok b) : ∃ a, outcome = .ok a ∧ next a = .ok b := by
  cases outcome with
  | error e => cases h
  | ok a => exact ⟨a, rfl, h⟩

theorem accepted_of_ofPayload (h : Job.ofPayload base payload = .ok job) :
    Accepted base payload job := by
  unfold Job.ofPayload at h
  obtain ⟨source, hsource, h⟩ := exists_of_bind_eq_ok h
  -- The steps are taken in turn; what the job keeps of them is in five of its fields.
  cases hlack : Job.lack? source payload with
  | some error =>
    simp only [hlack] at h
    obtain ⟨shown, -, h⟩ := exists_of_bind_eq_ok h
    cases h
  | none =>
    simp only [hlack] at h
    obtain ⟨name, -, h⟩ := exists_of_bind_eq_ok h
    obtain ⟨directory, -, h⟩ := exists_of_bind_eq_ok h
    obtain ⟨commentFile, hfile, h⟩ := exists_of_bind_eq_ok h
    obtain ⟨package, -, h⟩ := exists_of_bind_eq_ok h
    obtain ⟨suffix, -, h⟩ := exists_of_bind_eq_ok h
    obtain rfl := Except.ok.inj h
    exact ⟨hlack, hsource, hfile, rfl, rfl⟩

/-- What the check finds: a field for a source, or else a comment or a comment file. -/
theorem isTrue_of_lack? {source : Option Path} (h : Job.lack? source payload = none) :
    (source.isSome = true → (payload.get "field").isTrue = true) ∧
      (source = none →
        (payload.get "comment").isTrue = true ∨ (payload.get "comment_file").isTrue = true) := by
  unfold Job.lack? at h
  dsimp only at h
  split at h
  · cases h
  · next hinput =>
    split at h
    · cases h
    · next hfield =>
      rw [Bool.and_eq_true, not_and] at hinput hfield
      refine ⟨fun hsource => ?_, fun hsource => ?_⟩
      · by_contra hfalse
        exact hfield hsource (by rw [Bool.eq_false_iff.2 hfalse]; rfl)
      · by_contra hfalse
        rw [← Bool.or_eq_true] at hfalse
        exact hinput (by rw [hsource]; rfl) (by rw [Bool.eq_false_iff.2 hfalse]; rfl)

theorem given?_eq_some {name : Text} {c : CodePoint} {rest : Text}
    (h : payload.get name = .text (c :: rest)) : payload.given? name = some (c :: rest) := by
  simp [given?, h]

/-- A text that counts as true is given. -/
theorem exists_given?_of_isTrue {name : Text} (htext : (payload.get name).IsText)
    (htrue : (payload.get name).isTrue = true) :
    ∃ t, payload.get name = .text t ∧ payload.given? name = some t := by
  obtain hnull | ⟨_ | ⟨c, rest⟩, ht⟩ := htext
  · simp [hnull, Value.isTrue] at htrue
  · simp [ht, Value.isTrue] at htrue
  · exact ⟨_, ht, given?_eq_some ht⟩

/-- A text that counts as false is null or empty, and not given. -/
theorem given?_eq_none_of_not_isTrue {name : Text} (htext : (payload.get name).IsText)
    (htrue : (payload.get name).isTrue = false) :
    (payload.get name = .null ∨ payload.get name = .text []) ∧ payload.given? name = none := by
  obtain hnull | ⟨_ | ⟨c, rest⟩, ht⟩ := htext
  · exact ⟨.inl hnull, by simp [given?, hnull]⟩
  · exact ⟨.inr ht, by simp [given?, ht]⟩
  · simp [ht, Value.isTrue] at htrue

/-- **The input of an accepted payload**, as the payload names it and as the job holds it. -/
inductive Reads (base : Path) (payload : Payload) (job : Job) : Input → Prop
  | field {source : Path} {name : Text} (hsource : job.source = some source)
      (hfield : job.field = .text name) (hgiven : payload.given? "source" ≠ none) :
      Reads base payload job (.field source name)
  | comment {text : Text} (hsource : job.source = none) (hcomment : job.comment = .text text)
      (hne : text ≠ []) : Reads base payload job (.comment text)
  | file {path : Path} (hsource : job.source = none) (hgiven : payload.given? "source" = none)
      (hcomment : job.comment = .null ∨ job.comment = .text [])
      (hfile : job.commentFile = some path) : Reads base payload job (.file path)

theorem exists_reads (h : Accepted base payload job) (htext : payload.IsText) :
    ∃ input, payload.input? base = some input ∧ Reads base payload job input := by
  obtain ⟨hsource, -⟩ := path?_eq_ok_iff.1 h.source
  obtain ⟨hfile, hfileGiven⟩ := path?_eq_ok_iff.1 h.commentFile
  obtain ⟨hfieldTrue, hcommentTrue⟩ := isTrue_of_lack? h.lack
  unfold input?
  -- A source first, then a comment, then a file; what counts as false is not given.
  cases hgiven : payload.given? "source" with
  | some source =>
    rw [hgiven] at hsource
    have htrue := hfieldTrue (by rw [← hsource]; rfl)
    obtain ⟨name, hname, hgivenName⟩ := exists_given?_of_isTrue htext.field htrue
    refine ⟨_, rfl, ?_⟩
    rw [hgivenName]
    exact .field hsource.symm (h.field.trans hname) (hgiven ▸ Option.some_ne_none source)
  | none =>
    rw [hgiven] at hsource
    cases htrue : (payload.get "comment").isTrue with
    | true =>
      obtain ⟨text, hcomment, hgivenText⟩ := exists_given?_of_isTrue htext.comment htrue
      rw [hgivenText]
      refine ⟨_, rfl, .comment hsource.symm (h.comment.trans hcomment) ?_⟩
      rintro rfl
      rw [hcomment] at htrue
      cases htrue
    | false =>
      obtain ⟨hcomment, hnone⟩ := given?_eq_none_of_not_isTrue htext.comment htrue
      have hfileTrue : (payload.get "comment_file").isTrue = true :=
        (hcommentTrue hsource.symm).resolve_left (Bool.eq_false_iff.1 htrue)
      obtain ⟨file, hgivenFile⟩ := Option.isSome_iff_exists.1 (hfileGiven hfileTrue)
      rw [hgivenFile] at hfile
      rw [hnone, hgivenFile]
      exact ⟨_, rfl, .file hsource.symm hgiven (h.comment ▸ hcomment) hfile.symm⟩

end Payload

/-! ## Drafts -/

/-- The request for a field of a source text. -/
def Java.Request.ofText (text fieldName suffix : Text) : Except Error Java.Request :=
  let unit := Java.CompilationUnit.scan text
  match unit.field? fieldName with
  | none => .error (.undocumented fieldName)
  | some field => .ok (ofField unit field suffix)

theorem perform_forField (w : World) (source : Path) (fieldName suffix : Text) :
    (w.perform (Java.Request.forField source fieldName suffix)).1 =
      (w.perform (Workspace.readText source)).1.bind fun text =>
        Java.Request.ofText text fieldName suffix := by
  unfold Java.Request.forField Java.Request.ofText
  rw [perform_bind]
  rcases w.perform (Workspace.readText source) with ⟨_ | text, w₁⟩
  · rfl
  · simp only [Except.bind]
    cases (Java.CompilationUnit.scan text).field? fieldName with
    | none => rfl
    | some field => simp only [perform_bind, perform_lift, perform_pure]

theorem entries_forField (w : World) (source : Path) (fieldName suffix : Text) :
    (w.perform (Java.Request.forField source fieldName suffix)).1.map Java.Request.entries =
      Input.entries w (.field source fieldName) := by
  rw [perform_forField]
  simp only [Input.entries, Java.Request.ofText, bind, Except.bind]
  cases (w.perform (Workspace.readText source)).1 with
  | error e => rfl
  | ok text =>
    simp only
    cases (Java.CompilationUnit.scan text).field? fieldName with
    | none => rfl
    | some field => simp only [Except.map, Java.Request.ofField, pure, Except.pure]

/-- The entries of a job that has no source are those of its comment. -/
theorem entries_commentDraft (w : World) (job : Job) :
    (w.perform job.commentDraft).1.map Draft.entries =
      (w.perform job.readComment).1.map Entry.parse := by
  unfold Job.commentDraft
  rw [perform_bind]
  rcases w.perform job.readComment with ⟨e | comment, w₁⟩
  · rfl
  · simp only [perform_bind, perform_lift, act_entriesOf, perform_pure, Except.map]

theorem draft_of_source_none (h : job.source = none) :
    (job.draft : ExceptT Error (StateM World) Draft) = job.commentDraft := by
  unfold Job.draft
  rw [h]

theorem readComment_of_text {text : Text} (h : job.comment = .text text) :
    w.perform job.readComment = (.ok text, w) := by
  unfold Job.readComment
  rw [h]
  cases text <;> rfl

theorem readComment_of_file {path : Path} (hcomment : job.comment = .null)
    (hfile : job.commentFile = some path) :
    w.perform job.readComment = w.perform (Workspace.readText path) := by
  unfold Job.readComment
  rw [hcomment, hfile]

/-- **A job has the entries of its input**, unless an empty comment hides a comment file. -/
theorem Payload.Reads.entries_draft {input : Input} (h : payload.Reads base job input)
    (w : World) (hfree : ∀ path, input = .file path → job.comment = .null) :
    (w.perform job.draft).1.map Draft.entries = input.entries w := by
  cases h with
  | @field source name hsource hfield =>
    have hdraft : (w.perform job.draft).1.map Draft.entries =
        (w.perform (Java.Request.forField source name job.suffix)).1.map
          Java.Request.entries := by
      unfold Job.draft
      rw [hsource, hfield]
      simp only
      unfold Job.fieldDraft Job.fieldRequest
      rw [hfield, perform_bind]
      rcases w.perform (Java.Request.forField source name job.suffix) with ⟨_ | request, w₁⟩ <;> rfl
    rw [hdraft, entries_forField]
  | @comment text hsource hcomment =>
    rw [draft_of_source_none hsource, entries_commentDraft, readComment_of_text hcomment]
    rfl
  | @file path hsource _ _ hfile =>
    rw [draft_of_source_none hsource, entries_commentDraft,
      readComment_of_file (hfree path rfl) hfile]
    simp only [Input.entries]
    cases (w.perform (Workspace.readText path)).1 <;> rfl

/-- **What a job reads.** The job of an accepted payload has the entries of the input that the
payload names, or the error of reading them. Only if an empty comment stands beside the comment file
that the payload was accepted for, there are no entries, whatever the file holds. -/
theorem draft_reads_input (hjob : Job.ofPayload base payload = .ok job) (htext : payload.IsText)
    (w : World) :
    ∃ input, payload.input? base = some input ∧
      (¬payload.HidesFile → (w.perform job.draft).1.map Draft.entries = input.entries w) ∧
      (payload.HidesFile → (∃ path, input = .file path) ∧
        (w.perform job.draft).1.map Draft.entries = .ok []) := by
  have haccepted := Payload.accepted_of_ofPayload hjob
  obtain ⟨input, hinput, hreads⟩ := Payload.exists_reads haccepted htext
  refine ⟨input, hinput, fun hfree => ?_, fun ⟨hsource, hempty⟩ => ?_⟩
  · refine hreads.entries_draft w ?_
    rintro path rfl
    -- Only an empty comment, which is given but counts as false, hides the file.
    cases hreads with
    | file _ hgiven hcomment =>
      refine hcomment.resolve_right fun hempty => hfree ⟨hgiven, ?_⟩
      rw [← haccepted.comment, hempty]
  · rw [← haccepted.comment] at hempty
    cases hreads with
    | field _ _ hgiven => exact absurd hsource hgiven
    | comment _ hcomment hne =>
      obtain rfl := Value.text.inj (hcomment.symm.trans hempty)
      exact absurd rfl hne
    | file hnone =>
      refine ⟨⟨_, rfl⟩, ?_⟩
      rw [draft_of_source_none hnone, entries_commentDraft, readComment_of_text hempty]
      rfl

/-- An empty source and no comment beside a comment file. -/
theorem draft_reads_input_file :
    let payload := Payload.ofPairs [(.text "source", .text []), (.text "comment", .null),
      (.text "comment_file", .text "c.txt"), (.text "type_name", .text "T")]
    let w : World :=
      ⟨⟨[([Utf8.bytes "d"], .directory),
        ([Utf8.bytes "d", Utf8.bytes "c.txt"], .file (Utf8.bytes "1-a"))], []⟩, [], []⟩
    ∃ job, Job.ofPayload (Path.ofText "d") payload = .ok job ∧ payload.IsText ∧
      (w.perform job.draft).1.map Draft.entries = .ok [⟨"A", 1, "a"⟩] := by
  intro payload w
  have htext : payload.IsText := ⟨.inl rfl, .inl rfl⟩
  obtain ⟨job, hjob⟩ : ∃ job, Job.ofPayload (Path.ofText "d") payload = .ok job := ⟨_, rfl⟩
  obtain ⟨input, hinput, hreads, -⟩ := draft_reads_input hjob htext w
  refine ⟨job, hjob, htext, ?_⟩
  rw [hreads]
  · obtain rfl : Input.file (Path.ofText "d/c.txt") = input := Option.some.inj hinput
    cbv
  · rintro ⟨-, hempty⟩
    cases hempty

/-- An empty comment hides the comment file that the payload was accepted for. -/
theorem not_draft_reads_input :
    ¬∀ (base : Path) (payload : Payload) (job : Job) (w : World) (input : Input)
        (entries : List Entry), Job.ofPayload base payload = .ok job →
      (∀ name, (payload.get name).IsText) → payload.input? base = some input →
      input.entries w = .ok entries → (w.perform job.draft).1.map Draft.entries = .ok entries := by
  intro h
  let payload := Payload.ofPairs [(.text "comment", .text []),
    (.text "comment_file", .text "c.txt"), (.text "type_name", .text "T")]
  let w : World := ⟨⟨[([Utf8.bytes "c.txt"], .file (Utf8.bytes "1-a"))], []⟩, [], []⟩
  have htext : ∀ name, (payload.get name).IsText := by
    intro name
    simp only [payload, Payload.get, Payload.ofPairs, Value.lookup?]
    split_ifs
    · exact .inr ⟨_, rfl⟩
    · exact .inr ⟨_, rfl⟩
    · exact .inr ⟨_, rfl⟩
    · exact .inl rfl
  have hentries : (Input.file (Path.ofText "c.txt")).entries w = .ok [⟨"A", 1, "a"⟩] := by
    simp only [w]
    cbv
  have hdraft := h .current payload _ w _ _ rfl htext rfl hentries
  rw [draft_of_source_none rfl, entries_commentDraft, readComment_of_text rfl] at hdraft
  cases hdraft

end DocEnum
