import DocEnum.Java.Identifier
import DocEnum.Proofs.Comment
import DocEnum.Proofs.Listing

/-!
# The data model of entries

What the entries of every comment have in common.

**Invariant** (`Valid`). Codes are distinct and numbers of 31 bits; names are distinct and have the
form of constants; descriptions hold no comma and no line break.

**Steps.** Judging a segment keeps the invariant, if its characters may stand in segments
(`Valid.step`). The code is new because a segment with a known code is dropped, the name because
it is made distinct, and the description is taken from the segment.

**Names** of the form of constants are identifiers, because every reserved word starts with a
lower-case letter or is an underscore (`isIdentifier_of_isConstantForm`).

Main result: `parse_respects_dataModel`.
-/

namespace DocEnum.Entry

/-! ## Names are identifiers -/

theorem not_isConstantForm_of_reserved :
    ∀ word ∈ Java.reservedWords, ConstantName.isConstantForm word = false := by
  decide

theorem isIdentifier_of_isConstantForm {name : Text}
    (h : ConstantName.isConstantForm name = true) : Java.isIdentifier name = true := by
  -- No reserved word is in capitals.
  have hreserved : name ∉ Java.reservedWords := fun hmem => by
    rw [not_isConstantForm_of_reserved name hmem] at h
    cases h
  rw [Java.isIdentifier, Bool.and_eq_true]
  refine ⟨?_, by simpa using hreserved⟩
  cases name with
  | nil => simp [ConstantName.isConstantForm] at h
  | cons c rest =>
    rw [ConstantName.isConstantForm, Bool.and_eq_true, List.all_eq_true] at h
    obtain ⟨hc, hrest⟩ := h
    rw [Java.isIdentifierForm, Bool.and_eq_true, List.all_eq_true]
    refine ⟨by simp [Java.isIdentifierStart, CodePoint.isAlpha, hc], fun d hd => ?_⟩
    have hpart := hrest d hd
    simp only [ConstantName.isConstantPart, Bool.or_eq_true] at hpart
    rcases hpart with (h | h) | h <;>
      simp [Java.isIdentifierPart, CodePoint.isAlphanum, CodePoint.isAlpha, h]

/-! ## The invariant -/

/-- The invariants of the entries of one comment. -/
structure Valid (entries : List Entry) : Prop where
  codes_nodup : (entries.map Entry.code).Nodup
  names_nodup : (entries.map Entry.name).Nodup
  code_range : ∀ entry ∈ entries, 0 ≤ entry.code ∧ entry.code ≤ 2 ^ 31 - 1
  name_form : ∀ entry ∈ entries, ConstantName.isConstantForm entry.name = true
  description_chars : ∀ entry ∈ entries, ∀ c ∈ entry.description, Comment.isSegmentChar c = true

theorem normalize_sublist (description : Text) : (normalize description).Sublist description :=
  (Text.strip_sublist _).trans ((Text.trimEnd_sublist _ _).trans (Text.strip_sublist _))

theorem Lists.body_sublist {segment body : Text} {code : Nat} (h : Lists segment code body) :
    body.Sublist segment := by
  obtain ⟨digits, ⟨before, mark, after, rfl, -⟩, -⟩ := h
  have hmark := (List.sublist_append_right after body).cons mark
  exact (hmark.trans (List.sublist_append_right before _)).trans
    (List.sublist_append_right digits _)

namespace Valid

variable {entries : List Entry}

theorem nil : Valid [] := by
  constructor <;> simp

/-- An entry with a new code and a new name may be added. -/
theorem append (h : Valid entries) {entry : Entry}
    (hcode : entry.code ∉ entries.map Entry.code) (hname : entry.name ∉ entries.map Entry.name)
    (hrange : 0 ≤ entry.code ∧ entry.code ≤ 2 ^ 31 - 1)
    (hform : ConstantName.isConstantForm entry.name = true)
    (hchars : ∀ c ∈ entry.description, Comment.isSegmentChar c = true) :
    Valid (entries ++ [entry]) where
  codes_nodup := by
    rw [List.map_append, List.map_singleton]
    exact h.codes_nodup.append (List.nodup_singleton _) (List.disjoint_singleton.2 hcode)
  names_nodup := by
    rw [List.map_append, List.map_singleton]
    exact h.names_nodup.append (List.nodup_singleton _) (List.disjoint_singleton.2 hname)
  code_range := List.forall_mem_append.2 ⟨h.code_range, List.forall_mem_singleton.2 hrange⟩
  name_form := List.forall_mem_append.2 ⟨h.name_form, List.forall_mem_singleton.2 hform⟩
  description_chars := List.forall_mem_append.2
    ⟨h.description_chars, List.forall_mem_singleton.2 hchars⟩

/-- **Judging a segment keeps the invariant.** -/
theorem step (h : Valid entries) {segment : Text}
    (hsegment : ∀ c ∈ segment, Comment.isSegmentChar c = true) :
    Valid (entries ++ (judge entries segment).accepted?.toList) := by
  cases hverdict : (judge entries segment).accepted? with
  | none => simpa using h
  | some entry =>
    obtain ⟨code, body, hlists, hrange, hnew, hcode, hdescription, hname⟩ :=
      accepted?_judge_eq_some_iff.1 hverdict
    refine h.append (hcode ▸ hnew) hname.not_mem ?_ (hname.form (ConstantName.derive_form _ _)) ?_
    · rw [hcode]
      omega
    · intro c hc
      rw [hdescription] at hc
      exact hsegment c (hlists.body_sublist.subset ((normalize_sublist body).subset hc))

end Valid

/-- **The entries of every comment satisfy the invariant.** -/
theorem valid_parse (raw : Text) : Valid (parse raw) := by
  have h := parse_induct (motive := fun segments entries =>
    (∀ segment ∈ segments, ∀ c ∈ segment, Comment.isSegmentChar c = true) → Valid entries)
    (fun _ => Valid.nil) ?_ raw
  · exact h fun segment hmem c hc => (Comment.mem_and_isSegmentChar_of_mem_segments_clean hmem hc).2
  · intro done accepted segment hdone hall
    rw [List.forall_mem_append, List.forall_mem_singleton] at hall
    exact (hdone hall.1).step hall.2

/-- **The data model.** In the entries of every comment codes are distinct and numbers of 31 bits,
names are distinct identifiers of upper-case letters, digits and underscores with a letter first,
and no description holds a comma of either width or a line break. -/
theorem parse_respects_dataModel (raw : Text) :
    ((parse raw).map Entry.code).Nodup ∧ ((parse raw).map Entry.name).Nodup ∧
      ∀ entry ∈ parse raw,
        (0 ≤ entry.code ∧ entry.code ≤ 2 ^ 31 - 1) ∧
        (ConstantName.isConstantForm entry.name = true ∧
          Java.isIdentifier entry.name = true ∧ entry.name ∉ Java.reservedWords) ∧
        ∀ c ∈ entry.description, c ≠ ',' ∧ c ≠ '，' ∧ Text.isLineBreak c = false := by
  have h := valid_parse raw
  refine ⟨h.codes_nodup, h.names_nodup, fun entry hentry => ⟨h.code_range entry hentry, ?_, ?_⟩⟩
  · have hform := h.name_form entry hentry
    have hidentifier := isIdentifier_of_isConstantForm hform
    refine ⟨hform, hidentifier, ?_⟩
    rw [Java.isIdentifier, Bool.and_eq_true] at hidentifier
    simpa using hidentifier.2
  · intro c hc
    simpa [Comment.isSegmentChar, and_assoc] using h.description_chars entry hentry c hc

end DocEnum.Entry
