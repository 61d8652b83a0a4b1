import Mathlib
import DocEnum.Proofs.Job.Effect

/-!
# Jobs stay in their directory

A job that returns a result has done one of three things.

**Written** (`Job.Wrote`). There is a file and no warning. The store has one file more or one file
changed: it stands directly in the output directory and is named after the type, which is an
identifier. Besides, there may be new directories on the way to the output directory.

**Warned** (`Job.Warned`). There is one warning and no file. Every file is as it was, and so is the
whole store unless the warning is that something is in the way.

Nothing compares the path of the file with the directory. The file stays in the directory because
its name is made from an identifier, and a source is made from nothing else.

**Spoiled** (`Job.Spoiled`). There is a third case, a file begun and not ended: the file is opened
before its text is encoded, and a source with half of a surrogate pair has no bytes.

Main result: `run_writes_file_or_warns`.
-/

namespace DocEnum

open File File.Store World

variable {job : Job} {w w' : World} {result : Result}

/-! ## Results as mappings -/

/-- What a mapping says under a name, if it says anything. -/
def Value.member? (value : Value) (name : Text) : Option Value :=
  match value with
  | .mapping pairs => lookup? (.text name) pairs
  | _ => none

theorem Result.member?_file (result : Result) :
    result.toValue.member? "file" =
      some ((result.file?.map fun file => Value.text file.text).getD .null) := by
  rcases result with ⟨name, typeName, entries, _ | _ | _⟩ <;> rfl

theorem Result.member?_warnings (result : Result) :
    result.toValue.member? "warnings" =
      some (.list (result.warnings.map fun warning => .text warning.label)) := by
  rcases result with ⟨name, typeName, entries, _ | _ | _⟩ <;> rfl

theorem Result.member?_error (result : Result) :
    result.toValue.member? "error" = result.error?.map Value.text := by
  rcases result with ⟨name, typeName, entries, _ | _ | _⟩ <;> rfl

/-- Only an invalid request has a reason. -/
theorem Warning.isSome_error?_iff {name : Text} {typeName : Value} {entries : Nat}
    (warning : Warning) :
    ((Result.mk name typeName entries (.warned warning)).error?.map Value.text).isSome = true ↔
      warning.label = ("invalid_request" : Text) := by
  cases warning with
  | invalidRequest reason => exact ⟨fun _ => rfl, fun _ => rfl⟩
  | _ => exact ⟨fun h => absurd h (by simp [Result.error?]), fun h => absurd h (by decide)⟩

/-! ## What a job does to files -/

/-- One file of the job's directory holds the given bytes, and nothing else changed but for
directories made on the way to it. The file is named after the type of the job's request. -/
structure Job.Put (job : Job) (w w' : World) (request : Java.Request) (source : Text)
    (directory : Location) (bytes : List UInt8) : Prop where
  request_eq : job.request? w = some request
  source_eq : Java.generate job.style request = .ok source
  isIdentifier : Java.isIdentifier request.typeName = true
  resolve_directory : w'.store.resolve job.outputDirectory = .ok directory
  resolve_file : w'.store.resolve (child job.outputDirectory (request.typeName ++ ".java")) =
    .ok (directory ++ [Utf8.bytes (request.typeName ++ ".java")])
  content : w'.store.get? (directory ++ [Utf8.bytes (request.typeName ++ ".java")]) =
    some (.file bytes)
  current_eq : w'.store.current = w.store.current
  others : ∀ l, l ≠ directory ++ [Utf8.bytes (request.typeName ++ ".java")] →
    w'.store.get? l = w.store.get? l ∨
      w.store.get? l = none ∧ w'.store.get? l = some .directory ∧
        w'.store.OnWay job.outputDirectory l

/-- The job wrote the source of its request into one file of its directory. -/
structure Job.Wrote (job : Job) (w : World) (result : Result) (w' : World)
    (request : Java.Request) (source : Text) (directory : Location) (bytes : List UInt8) :
    Prop where
  file : result.toValue.member? "file" =
    some (.text (child job.outputDirectory (request.typeName ++ ".java")).text)
  warnings : result.toValue.member? "warnings" = some (.list [])
  error : result.toValue.member? "error" = none
  bytes_eq : Utf8.encode source = .ok bytes
  put : job.Put w w' request source directory bytes

/-- The job wrote nothing and tells why. -/
structure Job.Warned (w : World) (result : Result) (w' : World) (warning : Warning) : Prop where
  file : result.toValue.member? "file" = some .null
  warnings : result.toValue.member? "warnings" = some (.list [.text warning.label])
  error : (result.toValue.member? "error").isSome = true ↔
    warning.label = ("invalid_request" : Text)
  current_eq : w'.store.current = w.store.current
  files : ∀ l content,
    w'.store.get? l = some (.file content) ↔ w.store.get? l = some (.file content)
  directories : ∀ l, w.store.get? l = some .directory → w'.store.get? l = some .directory
  unchanged : warning.label ≠ ("file_exists" : Text) → w'.store = w.store

/-- The source of the job's request has no bytes. The job tells so, but its file was opened and is
left behind empty. -/
structure Job.Spoiled (job : Job) (w : World) (result : Result) (w' : World)
    (request : Java.Request) (source : Text) (directory : Location) (fault : Utf8.EncodeFault) :
    Prop where
  file : result.toValue.member? "file" = some .null
  warnings : result.toValue.member? "warnings" = some (.list [.text "invalid_request"])
  error : result.toValue.member? "error" = some (.text fault.message)
  fault_eq : Utf8.encode source = .error fault
  put : job.Put w w' request source directory []

/-- Either one file of the job's directory was written, or no file changed and one warning tells
why. -/
def Job.Confined (job : Job) (w : World) (result : Result) (w' : World) : Prop :=
  Xor (∃ request source directory bytes, job.Wrote w result w' request source directory bytes)
    (∃ warning, Job.Warned w result w' warning)

theorem Job.put_of_placed {request : Java.Request} {source : Text} {bytes : List UInt8}
    {s₁ : Store} {directory : Location} (hrequest : job.request? w = some request)
    (hsource : Java.generate job.style request = .ok source)
    (h : Placed w.store s₁ job.outputDirectory directory request.fileName job.overwrite bytes
      w'.store) : job.Put w w' request source directory bytes where
  request_eq := hrequest
  source_eq := hsource
  isIdentifier := (Java.fault?_eq_none_iff.1 (Java.generate_eq_ok_iff.1 hsource).1).2.1
  resolve_directory := resolve_of_keeps h.keeps h.resolve_directory
  resolve_file := resolve_of_keeps h.keeps h.resolve_target
  content := by
    rw [h.get?]
    exact if_pos rfl
  current_eq := h.keeps.current_eq.trans h.opens.current_eq
  others := by
    intro l hl
    have hsame : w'.store.get? l = s₁.get? l := (h.get? l).trans (if_neg hl)
    rw [hsame]
    exact (h.opens.get?_cases l).imp_right fun ⟨hnone, hnew, hway⟩ =>
      ⟨hnone, hnew, hway.of_keeps h.keeps⟩

theorem Job.warned_of_opens {warning : Warning} {typeName : Value} {entries : Nat}
    (hopens : w.store.Opens job.outputDirectory w'.store)
    (hunchanged : warning ≠ .fileExists → w'.store = w.store) :
    Job.Warned w ⟨job.name, typeName, entries, .warned warning⟩ w' warning where
  file := Result.member?_file _
  warnings := Result.member?_warnings _
  error := by
    rw [Result.member?_error]
    exact Warning.isSome_error?_iff warning
  current_eq := hopens.current_eq
  files := fun _ _ => hopens.file_iff
  directories := hopens.keeps.directory
  unchanged := by
    intro hlabel
    refine hunchanged ?_
    rintro rfl
    exact hlabel rfl

theorem Job.not_wrote_and_warned :
    ¬((∃ request source directory bytes, job.Wrote w result w' request source directory bytes) ∧
      ∃ warning, Job.Warned w result w' warning) := by
  rintro ⟨⟨_, _, _, _, hwrote⟩, _, hwarned⟩
  have hfile := hwrote.file.symm.trans hwarned.file
  simp at hfile

theorem Job.Wrote.confined {request : Java.Request} {source : Text} {directory : Location}
    {bytes : List UInt8} (h : job.Wrote w result w' request source directory bytes) :
    job.Confined w result w' :=
  .inl ⟨⟨_, _, _, _, h⟩, fun hwarned => Job.not_wrote_and_warned ⟨⟨_, _, _, _, h⟩, hwarned⟩⟩

theorem Job.Warned.confined {warning : Warning} (h : Job.Warned w result w' warning) :
    job.Confined w result w' :=
  .inr ⟨⟨_, h⟩, fun hwrote => Job.not_wrote_and_warned ⟨hwrote, _, h⟩⟩

/-- **A job stays in its directory.** A job that returns a result either has written the source of
its request into one file directly in its directory, named after a type that is an identifier, or
has changed no file and tells why in one warning. Only a source without bytes is neither written nor
without effect: an empty file is left in the same place. -/
theorem run_writes_file_or_warns (h : w.perform job.run = (.ok result, w')) :
    job.Confined w result w' ∨ ∃ request source directory fault,
      job.Spoiled w result w' request source directory fault := by
  -- A run wrote its file, spoiled it, or did no more than make directories.
  cases ran_run h with
  | @written request source bytes _ directory hrequest hsource hbytes hplaced =>
    have hwrote : job.Wrote w ⟨job.name, .text request.typeName, request.entries.length,
        .written (child job.outputDirectory request.fileName)⟩
        w' request source directory bytes := {
      file := Result.member?_file _
      warnings := Result.member?_warnings _
      error := Result.member?_error _
      bytes_eq := hbytes
      put := Job.put_of_placed hrequest hsource hplaced }
    exact .inl hwrote.confined
  | @spoiled request source fault _ directory hrequest hsource hfault hplaced =>
    exact .inr ⟨request, source, directory, fault, {
      file := Result.member?_file _
      warnings := Result.member?_warnings _
      error := Result.member?_error _
      fault_eq := hfault
      put := Job.put_of_placed hrequest hsource hplaced }⟩
  | warned hopens hunchanged => exact .inl (Job.warned_of_opens hopens hunchanged).confined

/-- A job whose directory has to be made first, above the current directory. -/
theorem run_writes_file_or_warns_above :
    let w : World := ⟨⟨[([Utf8.bytes "w"], .directory)], [Utf8.bytes "w"]⟩, [], []⟩
    let job : Job :=
      { name := "status", outputDirectory := Path.ofText "../out/gen"
        comment := .text "0-Open, 1：in \"review\"。", commentFile := none, source := none
        field := .null, typeName := .text "Status", package := "com.shop", suffix := "Enum"
        overwrite := false, lombok := true }
    ∃ result w', w.perform job.run = (.ok result, w') ∧
      result.file? = some (Path.ofText "../out/gen/Status.java") ∧
      ∃ request source directory bytes,
        job.Wrote w result w' request source directory bytes := by
  intro w job
  have hfile : (w.perform job.run).1.toOption.bind Result.file? =
      some (Path.ofText "../out/gen/Status.java") := by decide +kernel
  obtain ⟨result, hrun, hfile⟩ := exists_perform_eq_ok hfile
  refine ⟨result, _, hrun, hfile, ?_⟩
  have hmember := Result.member?_file result
  rw [hfile] at hmember
  rcases run_writes_file_or_warns hrun with
    (⟨hwrote, -⟩ | ⟨⟨_, hwarned⟩, -⟩) | ⟨_, _, _, _, hspoiled⟩
  · exact hwrote
  · cases hmember.symm.trans hwarned.file
  · cases hmember.symm.trans hspoiled.file

/-- A description that is half of a surrogate pair leaves an empty file behind. -/
theorem not_run_confined :
    ¬∀ (job : Job) (w w' : World) (result : Result),
      w.perform job.run = (.ok result, w') → job.Confined w result w' := by
  intro h
  -- The source cannot be encoded: an empty file is left, and the job warns of an invalid request.
  let w : World := ⟨⟨[], []⟩, [], []⟩
  let job : Job :=
    { name := "T", outputDirectory := ⟨0, []⟩, comment := .text ['1', '-', .half 0]
      commentFile := none, source := none, field := .null, typeName := .text "T", package := []
      suffix := "Enum", overwrite := false, lombok := true }
  have herror : (w.perform job.run).1.toOption.bind Result.error? =
      some (Utf8.EncodeFault.message ⟨0, 228, 1⟩) := by decide +kernel
  have hfile : (w.perform job.run).2.store.get? [Utf8.bytes "T.java"] = some (.file []) := by
    decide +kernel
  obtain ⟨result, hrun, herror⟩ := exists_perform_eq_ok herror
  rcases h job w _ result hrun with ⟨⟨_, _, _, _, hwrote⟩, -⟩ | ⟨⟨_, hwarned⟩, -⟩
  · have hmember := (Result.member?_error result).symm.trans hwrote.error
    rw [herror] at hmember
    cases hmember
  · cases (hwarned.files _ _).1 hfile

end DocEnum
