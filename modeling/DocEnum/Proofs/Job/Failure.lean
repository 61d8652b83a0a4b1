import Mathlib
import DocEnum.Proofs.Interruption

/-!
# Failing jobs

Which errors a job raises whose values are of any type.

**Runs** (`Job.Breaks`). Most errors of a job have a warning, and some tell that the job is not
acceptable as given. What is left are values of the wrong type, which nothing checks when the
manifest is loaded, and files that do not fit.

Main result: `breaks_run`.
-/

namespace DocEnum

open File File.Store World

variable {job : Job} {w w' : World} {e : Error}

/-! ## Runs -/

/-- Why a job raises an error that is neither a warning nor a reason not to accept the job. -/
inductive Job.Breaks (job : Job) (w : World) (s' : Store) : Error → Prop
  | comment {e : Error} (h : Job.commentText job.comment = .error e) : Breaks job w s' e
  | typeName {draft : Draft} (hdraft : (w.perform job.draft).1 = .ok draft)
      (hentries : draft.entries ≠ []) (hname : ∀ t, draft.typeName ≠ .text t) :
      Breaks job w s' .typeNameNotText
  | files {fault : File.Fault} (h : job.StoppedBy w s' fault.cause) : Breaks job w s' (.file fault)

/-- A draft without entries is not refused for its type name. -/
theorem entries_ne_nil_of_typeNameNotText {draft : Draft} {directory : Path} {style : Java.Style}
    {overwrite : Bool}
    (h : (w.perform (draft.writeFile directory style overwrite)).1 = .error .typeNameNotText) :
    draft.entries ≠ [] := by
  intro hentries
  unfold Draft.writeFile at h
  split at h
  · rw [perform_requestWriteFile] at h
    simp [hentries] at h
  · next typeName _ =>
    rw [hentries] at h
    cases hname : draft.typeName.plain? <;> rw [hname] at h <;> cases h

/-- What a draft came to ends the run of its job. -/
theorem writeFile_of_run {draft : Draft} (hdraft : (w.perform job.draft).1 = .ok draft)
    (h : w.perform job.run = (.error e, w')) :
    ∃ w₁ : World,
      (w₁.perform (draft.writeFile job.outputDirectory job.style job.overwrite)).1 = .error e := by
  rw [perform_run, perform_eq_of_fst hdraft] at h
  refine ⟨(w.perform job.draft).2, ?_⟩
  simp only at h
  rcases hwrite : (w.perform job.draft).2.perform
    (draft.writeFile job.outputDirectory job.style job.overwrite) with ⟨e' | file, w₂⟩
  · rw [hwrite] at h
    simp only at h
    split at h
    · exact congrArg Except.error (Except.error.inj (Prod.mk.inj h).1)
    · cases h
  · rw [hwrite] at h
    cases h

/-- **A job** raises an error because of a value of the wrong type, or because the files around it
do not fit, or else it is not acceptable as given. -/
theorem breaks_run (h : w.perform job.run = (.error e, w')) (hinvalid : e.isInvalid = false) :
    job.Breaks w w'.store e := by
  -- What is left of the errors, once those that are warnings are taken out.
  cases ended_run h with
  | unread hdraft hwarning =>
    cases drafted_draft (perform_eq_of_fst hdraft) with
    | unread hunread =>
      have hstopped : ∃ fault, e = .file fault ∧ job.StoppedBy w w'.store fault.cause :=
        stoppedBy_of_unread hunread hwarning
      obtain ⟨fault, rfl, hstopped⟩ := hstopped
      exact .files hstopped
    | comment hcomment => exact .comment hcomment
    | field => cases hinvalid
  | @unwritten draft _ hdraft hcame hwarning =>
    cases hcame with
    | delivered hrequest _ hdelivered =>
      cases hdelivered with
      | spoiled => cases hwarning
      | failed _ hundelivered =>
        obtain ⟨fault, rfl, hstopped⟩ :=
          stoppedBy_of_undelivered (Job.request?_of_draft hdraft hrequest) hundelivered hwarning
        exact .files hstopped
    | sourceless hsourceless =>
      cases hsourceless with
      | noEntries | fault => cases hwarning
      | typeNameTooLong => cases hinvalid
      | typeNameNotText hnone =>
        obtain ⟨w₁, hwrite⟩ := writeFile_of_run hdraft h
        refine .typeName hdraft (entries_ne_nil_of_typeNameNotText hwrite) fun t ht => ?_
        cases (Draft.request?_of_text ht).symm.trans hnone

end DocEnum
