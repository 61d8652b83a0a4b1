import DocEnum.Java.Enum
import DocEnum.Proofs.DataModel

/-!
# Accepted requests

Which requests have a source.

**Names.** An identifier holds no point, so that identifiers joined by points are a package
(`isPackage_joinWith`).

**Constants.** A request without fault has distinct identifiers as constant names, none of them
named like the lookup table (`constantFault?_eq_none_iff`). Among distinct identifiers the table's
name is the only fault (`constantFault?_of_distinct`).

**Requests** (`fault?_eq_none_iff`). The conditions of all checks together.

Main result: a comment's entries have a source under all names that are identifiers, unless there
is no entry or one is named like the lookup table (`generate_parse`).
-/

namespace DocEnum.Java

/-! ## Names -/

theorem isIdentifierPart_of_isIdentifierStart {c : CodePoint} (h : isIdentifierStart c = true) :
    isIdentifierPart c = true := by
  simp only [isIdentifierStart, Bool.or_eq_true] at h
  rcases h with (h | h) | h <;> simp [isIdentifierPart, CodePoint.isAlphanum, h]

theorem all_of_isIdentifierForm {t : Text} (h : isIdentifierForm t = true) :
    t.all isIdentifierPart = true := by
  cases t with
  | nil => rfl
  | cons c rest =>
    rw [isIdentifierForm, Bool.and_eq_true] at h
    rw [List.all_cons, isIdentifierPart_of_isIdentifierStart h.1, h.2]
    rfl

theorem isIdentifierPart_of_mem {name : Text} (h : isIdentifier name = true) {c : CodePoint}
    (hc : c ∈ name) : isIdentifierPart c = true := by
  rw [isIdentifier, Bool.and_eq_true] at h
  exact List.all_eq_true.1 (all_of_isIdentifierForm h.1) c hc

theorem isIdentifier_ne_nil {name : Text} (h : isIdentifier name = true) : name ≠ [] := by
  rintro rfl
  simp [isIdentifier, isIdentifierForm] at h

/-- **Identifiers joined by points name a package**, and so does the empty text. -/
theorem isPackage_joinWith {parts : List Text} (h : ∀ part ∈ parts, isIdentifier part = true) :
    isPackage (Text.joinWith "." parts) = true := by
  rw [isPackage, Bool.or_eq_true]
  by_cases hnil : parts = []
  · exact .inl (by simp [hnil, Text.joinWith])
  · have hpoint : ∀ part ∈ parts, ∀ c ∈ part, (c == '.') = false := by
      intro part hpart c hc
      have hc := isIdentifierPart_of_mem (h part hpart) hc
      by_contra heq
      obtain rfl : c = '.' := by simpa using heq
      simp [isIdentifierPart] at hc
    have hsplit : Text.splitOn (· == .char '.') (Text.joinWith "." parts) = parts :=
      Text.splitOn_joinWith (by decide) hnil hpoint
    exact .inr (by rw [hsplit, List.all_eq_true]; exact h)

/-! ## Constants -/

theorem constantFault?_eq_none_iff {lookupField : Text} {seen : List Text}
    {entries : List Entry} :
    constantFault? lookupField seen entries = none ↔
      (∀ entry ∈ entries, isIdentifier entry.name = true) ∧
        (entries.map Entry.name).Nodup ∧ (∀ entry ∈ entries, entry.name ∉ seen) ∧
          lookupField ∉ entries.map Entry.name := by
  -- `seen` grows with each name, so that distinctness is from those before as well.
  induction entries generalizing seen with
  | nil => simp [constantFault?]
  | cons entry rest ih =>
    rw [constantFault?]
    split
    · next hname => simp_all
    · next hname =>
      split
      · next hseen => simp [hseen]
      · next hseen =>
        split
        · next hclash => simp [hclash]
        · next hclash =>
          rw [ih, List.forall_mem_cons, List.forall_mem_cons, List.map_cons, List.nodup_cons]
          simp only [List.mem_cons, List.mem_map, not_or]
          simp only [Bool.not_eq_true', Bool.not_eq_false] at hname
          constructor
          · rintro ⟨hid, hnodup, hnew, hlookup⟩
            exact ⟨⟨hname, hid⟩, ⟨fun ⟨other, hother, heq⟩ => (hnew other hother).1 heq, hnodup⟩,
              ⟨hseen, fun other hother => (hnew other hother).2⟩, fun heq => hclash heq.symm,
              hlookup⟩
          · rintro ⟨⟨-, hid⟩, ⟨hfirst, hnodup⟩, ⟨-, hnew⟩, -, hlookup⟩
            exact ⟨hid, hnodup, fun other hother =>
              ⟨fun heq => hfirst ⟨other, hother, heq⟩, hnew other hother⟩, hlookup⟩

/-- **Among distinct identifiers the name of the lookup table is the only fault.** -/
theorem constantFault?_of_distinct {lookupField : Text} {seen : List Text} {entries : List Entry}
    (hid : ∀ entry ∈ entries, isIdentifier entry.name = true)
    (hnodup : (entries.map Entry.name).Nodup) (hnew : ∀ entry ∈ entries, entry.name ∉ seen)
    (hclash : lookupField ∈ entries.map Entry.name) :
    constantFault? lookupField seen entries = some (.lookupClash lookupField) := by
  induction entries generalizing seen with
  | nil => simp at hclash
  | cons entry rest ih =>
    rw [List.forall_mem_cons] at hid hnew
    rw [List.map_cons, List.nodup_cons] at hnodup
    rw [constantFault?, if_neg (by simp [hid.1]), if_neg hnew.1]
    split
    · next heq => rw [heq]
    · next hne =>
      refine ih hid.2 hnodup.2 (fun other hother => ?_) ?_
      · rw [List.mem_cons, not_or]
        exact ⟨fun heq => hnodup.1 (heq ▸ List.mem_map_of_mem hother), hnew.2 other hother⟩
      · rw [List.map_cons, List.mem_cons] at hclash
        exact hclash.resolve_left fun heq => hne heq.symm

/-! ## Requests -/

theorem find?_members_eq_none_iff {style : Style} :
    (style.members.find? fun member => !isIdentifier member) = none ↔
      isIdentifier style.findMethod = true ∧ isIdentifier style.requireMethod = true ∧
        isIdentifier style.lookupField = true := by
  simp [Style.members]

/-- What all checks of a request ask for. -/
theorem fault?_eq_none_iff {style : Style} {request : Request} :
    fault? style request = none ↔
      request.entries ≠ [] ∧ isIdentifier request.typeName = true ∧
        isPackage request.package = true ∧
        (isIdentifier style.findMethod = true ∧ isIdentifier style.requireMethod = true ∧
          isIdentifier style.lookupField = true) ∧
        constantFault? style.lookupField [] request.entries = none := by
  rw [← find?_members_eq_none_iff, fault?]
  split
  · next h => simp_all
  · next hentries =>
    split
    · next h => simp_all
    · next htype =>
      split
      · next h => simp_all
      · next hpackage =>
        split
        · next member hmember => simp_all
        · next hmembers => simp_all

theorem generate_eq_ok_iff {style : Style} {request : Request} {source : Text} :
    generate style request = .ok source ↔
      fault? style request = none ∧ source = render style request := by
  rw [generate]
  split
  · next fault hfault => simp [hfault]
  · next hfault => simp [hfault, eq_comm]

theorem generate_eq_error_iff {style : Style} {request : Request} {fault : Fault} :
    generate style request = .error fault ↔ fault? style request = some fault := by
  rw [generate]
  cases fault? style request <;> simp

/-! ## Entries of a comment -/

/-- The check of a comment's entries in any package, under a type name and member names that are
identifiers. -/
theorem fault?_parse_in (raw typeName package : Text) (style : Style)
    (htype : isIdentifier typeName = true)
    (hmembers : (style.members.find? fun member => !isIdentifier member) = none) :
    fault? style ⟨package, typeName, Entry.parse raw⟩ =
      if Entry.parse raw = [] then some .noEntries
      else if isPackage package = true then
        if style.lookupField ∈ (Entry.parse raw).map Entry.name then
          some (.lookupClash style.lookupField)
        else none
      else some (.packageName package) := by
  have hvalid := Entry.valid_parse raw
  -- What the parser keeps of names leaves three of the checks to fail.
  have hid : ∀ entry ∈ Entry.parse raw, isIdentifier entry.name = true :=
    fun entry hentry => Entry.isIdentifier_of_isConstantForm (hvalid.name_form entry hentry)
  split
  · next hnil => simp [fault?, hnil]
  · next hne =>
    rw [fault?, if_neg (by simpa using hne), if_neg (by simp [htype])]
    by_cases hpackage : isPackage package = true
    · rw [if_neg (by simp [hpackage]), if_pos hpackage, hmembers]
      simp only
      split
      · next hclash =>
        exact constantFault?_of_distinct hid hvalid.names_nodup (by simp) hclash
      · next hclash =>
        exact constantFault?_eq_none_iff.2 ⟨hid, hvalid.names_nodup, by simp, hclash⟩
    · rw [if_pos (by simp [hpackage]), if_neg hpackage]

/-- The check of a comment's entries under names that are identifiers. -/
theorem fault?_parse (raw typeName : Text) (parts : List Text) (style : Style)
    (htype : isIdentifier typeName = true) (hparts : ∀ part ∈ parts, isIdentifier part = true)
    (hfind : isIdentifier style.findMethod = true)
    (hrequire : isIdentifier style.requireMethod = true)
    (hlookup : isIdentifier style.lookupField = true) :
    fault? style ⟨Text.joinWith "." parts, typeName, Entry.parse raw⟩ =
      if Entry.parse raw = [] then some .noEntries
      else if style.lookupField ∈ (Entry.parse raw).map Entry.name then
        some (.lookupClash style.lookupField)
      else none := by
  have hmembers := find?_members_eq_none_iff.2 ⟨hfind, hrequire, hlookup⟩
  rw [fault?_parse_in raw typeName _ style htype hmembers, if_pos (isPackage_joinWith hparts)]

/-- **When a comment has a source.** Under a type name, a package and member names that are
identifiers, the entries of a comment have a source exactly if there are any and none is named
like the lookup table. Otherwise the fault is one of these two, and never another. -/
theorem generate_parse (raw typeName : Text) (parts : List Text) (style : Style)
    (htype : isIdentifier typeName = true) (hparts : ∀ part ∈ parts, isIdentifier part = true)
    (hfind : isIdentifier style.findMethod = true)
    (hrequire : isIdentifier style.requireMethod = true)
    (hlookup : isIdentifier style.lookupField = true) :
    let outcome := generate style ⟨Text.joinWith "." parts, typeName, Entry.parse raw⟩
    ((∃ source, outcome = .ok source) ↔
      Entry.parse raw ≠ [] ∧ ∀ entry ∈ Entry.parse raw, entry.name ≠ style.lookupField) ∧
    (Entry.parse raw = [] → outcome = .error .noEntries) ∧
    ((∃ entry ∈ Entry.parse raw, entry.name = style.lookupField) →
      outcome = .error (.lookupClash style.lookupField)) := by
  have hfault := fault?_parse raw typeName parts style htype hparts hfind hrequire hlookup
  simp only [generate, hfault, List.mem_map]
  by_cases hnil : Entry.parse raw = []
  · simp [hnil]
  · by_cases hclash : ∃ entry ∈ Entry.parse raw, entry.name = style.lookupField
    · simp [hnil, hclash]
    · have hfree : ∀ entry ∈ Entry.parse raw, entry.name ≠ style.lookupField :=
        fun entry hentry heq => hclash ⟨entry, hentry, heq⟩
      simpa [hnil, if_neg hclash] using hfree

/-- A lookup table named like the second constant, in a nested package. -/
theorem generate_parse_clash :
    (isIdentifier "Status" = true ∧
      (∀ part ∈ [("com" : Text), "shop"], isIdentifier part = true) ∧
      isIdentifier "of" = true ∧ isIdentifier "get" = true ∧ isIdentifier "IN_REVIEW" = true) ∧
    (generate ⟨false, "", "of", "get", "IN_REVIEW"⟩
      ⟨Text.joinWith "." ["com", "shop"], "Status", Entry.parse "0-Open, 01：in review。"⟩ =
        .error (.lookupClash "IN_REVIEW")) :=
  ⟨by decide, (generate_parse "0-Open, 01：in review。" "Status" ["com", "shop"]
    ⟨false, "", "of", "get", "IN_REVIEW"⟩ (by decide) (by decide) (by decide) (by decide)
    (by decide)).2.2 (by decide)⟩

end DocEnum.Java
