import Mathlib
import DocEnum.CommandLine.Run
import DocEnum.Proofs.Java.SourceCharacters
import DocEnum.Proofs.Job.Input
import DocEnum.Proofs.Libraries

/-!
# Values that can be written

Which of the values that commands print have a JSON text.

**Entries.** The entries of a comment always have one if the comment has bytes: their codes have 31
bits, and their names and descriptions hold nothing but identifiers and parts of the comment
(`writable_entries`).

**Counts.** The entries of a job are those of a comment, too, so they are not too many to count
(`entries_le_of_run`).

**Summaries.** In a summary everything is a text, a count, or made of these, except for the type
names of jobs, which are as the manifest gave them. So a summary can be written if these can, if the
texts have bytes, and if the counts fit into 64 bits (`Manifest.Summary.writable_toValue_iff`).
-/

namespace DocEnum

open World

variable {job : Job} {w w' : World}

/-! ## Entries -/

/-- A comment lists no more entries than there are codes. -/
theorem Entry.length_parse_le (raw : Text) : (parse raw).length ≤ 2 ^ 31 := by
  have hvalid := valid_parse raw
  -- The codes are distinct numbers of 31 bits.
  have hcodes : ((parse raw).map Entry.code).toFinset ⊆ Finset.Icc (0 : Int) (2 ^ 31 - 1) := by
    intro code hcode
    obtain ⟨entry, hentry, rfl⟩ := List.mem_map.1 (List.mem_toFinset.1 hcode)
    exact Finset.mem_Icc.2 (hvalid.code_range entry hentry)
  have hcard := Finset.card_le_card hcodes
  rw [List.toFinset_card_of_nodup hvalid.codes_nodup, List.length_map, Int.card_Icc] at hcard
  omega

/-- **The entries of a comment** can be written, if the comment has bytes. -/
theorem writable_entries {raw : Text} (h : Utf8.Encodable raw) :
    Json.Writable 0 (.list ((Entry.parse raw).map CommandLine.Work.entryValue)) := by
  refine Json.writable_list_iff.2 ⟨fun _ => by decide, List.forall_mem_map.2 fun entry hentry => ?_⟩
  have hvalid := Entry.valid_parse raw
  obtain ⟨hmin, hmax⟩ := hvalid.code_range entry hentry
  have hname := Java.encodable_of_isIdentifier
    (Entry.isIdentifier_of_isConstantForm (hvalid.name_form entry hentry))
  have hdescription := Java.encodable_descriptions h entry hentry
  have hcode : Json.IsWord entry.code := ⟨by omega, by omega⟩
  simp [CommandLine.Work.entryValue, hname, hdescription, hcode]

/-! ## Counts -/

/-- **The entries of a draft** are those of a comment. -/
theorem exists_parse_of_draft {draft : Draft} (h : (w.perform job.draft).1 = .ok draft) :
    ∃ raw, draft.entries = Entry.parse raw := by
  cases drafted_draft (perform_eq_of_fst h) with
  | @draft _ raw _ hentries => exact ⟨raw, hentries⟩

/-- A job that returns a result counts no more entries than there are codes. -/
theorem entries_le_of_run {result : Result} (h : w.perform job.run = (.ok result, w')) :
    result.entries ≤ 2 ^ 31 := by
  have hdraft : ∀ {draft : Draft}, (w.perform job.draft).1 = .ok draft →
      draft.entries.length ≤ 2 ^ 31 := by
    intro draft hdraft
    obtain ⟨raw, hraw⟩ := exists_parse_of_draft hdraft
    rw [hraw]
    exact Entry.length_parse_le raw
  cases ended_run h with
  | unreadWarned => exact Nat.zero_le _
  | written hok => exact hdraft hok
  | unwrittenWarned hok => exact hdraft hok

/-! ## Summaries -/

/-- The texts of a result and its type name can be written. -/
structure Result.Writable (result : Result) : Prop where
  name : Utf8.Encodable result.name
  typeName : Json.Writable 3 result.typeName
  file : ∀ file, result.file? = some file → Utf8.Encodable file.text
  reason : ∀ reason, result.error? = some reason → Utf8.Encodable reason

theorem Warning.encodable_label (warning : Warning) : Utf8.Encodable warning.label := by
  cases warning <;> exact Utf8.encodable_map_char _

theorem Result.writable_toValue_iff {result : Result} (hentries : result.entries < 2 ^ 64) :
    Json.Writable 2 result.toValue ↔ result.Writable := by
  have hcount : Json.IsWord result.entries := Json.isWord_natCast_iff.2 hentries
  have hlabels : Json.Writable 3
      (.list (result.warnings.map fun warning => .text warning.label)) := by
    simp [Warning.encodable_label]
  have hfile : Json.Writable 3 ((result.file?.map fun file => Value.text file.text).getD .null) ↔
      ∀ file, result.file? = some file → Utf8.Encodable file.text := by
    cases result.file? <;> simp
  have hparts : result.Writable ↔ Utf8.Encodable result.name ∧ Json.Writable 3 result.typeName ∧
      (∀ file, result.file? = some file → Utf8.Encodable file.text) ∧
        ∀ reason, result.error? = some reason → Utf8.Encodable reason :=
    ⟨fun h => ⟨h.name, h.typeName, h.file, h.reason⟩, fun h => ⟨h.1, h.2.1, h.2.2.1, h.2.2.2⟩⟩
  rw [hparts, ← hfile]
  unfold Result.toValue
  cases result.error? <;> simp [hcount, hlabels]

/-- **A summary** can be written if its path and its results can, and the jobs be counted. -/
theorem Manifest.Summary.writable_toValue_iff {summary : Manifest.Summary}
    (hentries : ∀ result ∈ summary.results, result.entries < 2 ^ 64) :
    Json.Writable 0 summary.toValue ↔
      Utf8.Encodable summary.manifest.text ∧ summary.results.length < 2 ^ 64 ∧
        ∀ result ∈ summary.results, result.Writable := by
  have hwritten : summary.written ≤ summary.results.length := List.length_filter_le _ _
  have hresults : (∀ result ∈ summary.results, Json.Writable 2 result.toValue) ↔
      ∀ result ∈ summary.results, result.Writable :=
    forall₂_congr fun result hresult => Result.writable_toValue_iff (hentries result hresult)
  rw [← Json.isWord_natCast_iff, ← hresults]
  -- No more files were written than there are results.
  have hcount : Json.IsWord summary.results.length → Json.IsWord summary.written := by
    rw [Json.isWord_natCast_iff, Json.isWord_natCast_iff]
    exact hwritten.trans_lt
  have hparts : Json.Writable 0 summary.toValue ↔ Utf8.Encodable summary.manifest.text ∧
      Json.IsWord summary.results.length ∧ Json.IsWord summary.written ∧
        ∀ result ∈ summary.results, Json.Writable 2 result.toValue := by
    simp [Manifest.Summary.toValue]
  rw [hparts]
  exact ⟨fun h => ⟨h.1, h.2.1, h.2.2.2⟩, fun h => ⟨h.1, h.2.1, hcount h.2.1, h.2.2⟩⟩

end DocEnum
