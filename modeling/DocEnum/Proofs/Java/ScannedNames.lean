import Mathlib
import DocEnum.Java.Naming
import DocEnum.Proofs.Java.FirstType

/-!
# Scanned names

What the names in a source text are like, and which type names are made from them.

**Forms.** A declared name starts like an identifier and goes on with word characters of any script
(`isNameForm_className`, `isNameForm_field`). In ASCII this is the form of an identifier
(`isIdentifierForm_of_isAscii`).

**Type names** (`isIdentifier_enumTypeName`). From names of that form the type name of an enum is an
identifier. Without the marker of a data object there may be nothing left of the class name, but
then the field's name starts the type name, and a capital is a letter as well. A class or a field
may be named like a reserved word; the type name is not, since no such word ends in the suffix.
-/

namespace DocEnum.Java

variable {text t : Text} {name : Text} {field : Field}

/-! ## Forms -/

theorem isNameForm_of_nameAt? (h : nameAt? t = some name) : isNameForm name = true := by
  cases t with
  | nil => cases h
  | cons c rest =>
    rw [nameAt?] at h
    split at h
    · next hstart =>
      obtain rfl := Option.some.inj h
      rw [isNameForm, hstart, Bool.true_and, List.all_eq_true]
      intro d hd
      exact List.all_eq_true.1 List.all_takeWhile d hd
    · cases h

theorem isNameForm_className (h : (CompilationUnit.scan text).className = some name) :
    isNameForm name = true := by
  obtain ⟨place, hplace⟩ := exists_firstTypeAt h
  obtain ⟨-, hname⟩ := typeWord_of_typeAt? hplace.declared
  obtain ⟨rest, -, hname⟩ := Option.bind_eq_some_iff.1 hname
  exact isNameForm_of_nameAt? hname

theorem isNameForm_field (h : field ∈ (CompilationUnit.scan text).fields) :
    isNameForm field.name = true := by
  obtain ⟨n, hn⟩ := exists_declaredAt h
  obtain ⟨found, hfound, hname, -⟩ := hn.declaration
  rw [hname]
  exact isNameForm_of_nameAt? (Declaration.nameAt?_of_at? hfound)

/-- Whether all characters of a text are ASCII. -/
def isAscii (t : Text) : Bool :=
  t.all fun c => c.toNat < 128

theorem isIdentifierPart_of_isNamePart {c : CodePoint} (hascii : c.toNat < 128)
    (h : isNamePart c = true) : isIdentifierPart c = true := by
  rwa [isNamePart, Text.isWord, if_pos hascii] at h

/-- **In ASCII** a declared name has the form of an identifier. -/
theorem isIdentifierForm_of_isAscii (hascii : isAscii name = true) (h : isNameForm name = true) :
    isIdentifierForm name = true := by
  cases name with
  | nil => cases h
  | cons c rest =>
    rw [isNameForm, Bool.and_eq_true, List.all_eq_true] at h
    rw [isAscii, List.all_cons, Bool.and_eq_true, List.all_eq_true] at hascii
    rw [isIdentifierForm, Bool.and_eq_true, List.all_eq_true]
    exact ⟨h.1, fun d hd =>
      isIdentifierPart_of_isNamePart (of_decide_eq_true (hascii.2 d hd)) (h.2 d hd)⟩

/-! ## Type names -/

/-- A beginning of an identifier, which may be empty, in front of another one. -/
theorem isIdentifierForm_append {s : Text} (hs : s <+: name)
    (hname : isIdentifierForm name = true) (ht : isIdentifierForm t = true) :
    isIdentifierForm (s ++ t) = true := by
  cases s with
  | nil => exact ht
  | cons c s =>
    obtain ⟨dropped, rfl⟩ := hs
    rw [List.cons_append, isIdentifierForm, Bool.and_eq_true, List.all_append,
      Bool.and_eq_true] at hname
    rw [List.cons_append, isIdentifierForm, Bool.and_eq_true, List.all_append,
      all_of_isIdentifierForm ht, hname.2.1]
    exact ⟨hname.1, rfl⟩

theorem eq_append_of_dropEnding? {ending s : Text} (h : Text.dropEnding? ending t = some s) :
    t = s ++ ending := by
  obtain ⟨reversed, hdrop, rfl⟩ := Option.map_eq_some_iff.1 h
  rw [← List.reverse_reverse t, Text.dropBeginning?_eq_some_iff.1 hdrop, List.reverse_append,
    List.reverse_reverse]

/-- Without the marker of a data object a beginning of the name is left. -/
theorem beginning_of_dropMarker (t : Text) : dropMarker t <+: t := by
  unfold dropMarker
  cases h : objectMarkers.findSome? fun marker => Text.dropEnding? marker t with
  | none => exact List.prefix_rfl
  | some s =>
    obtain ⟨marker, -, hdrop⟩ := List.exists_of_findSome?_eq_some h
    exact ⟨marker, (eq_append_of_dropEnding? hdrop).symm⟩

theorem beginning_of_stripMarker (hfeed : .char '\n' ∉ name) : stripMarker name <+: name := by
  unfold stripMarker
  split
  · next line hline =>
    rw [eq_append_of_dropEnding? hline] at hfeed
    exact absurd (List.mem_append_right line (List.mem_singleton_self (.char '\n'))) hfeed
  · exact beginning_of_dropMarker name

/-- The capital of a character that starts an identifier is one character, which starts one too. -/
theorem exists_upper {c : CodePoint} (h : isIdentifierStart c = true) :
    ∃ capital, Text.upper c = [capital] ∧ isIdentifierStart capital = true := by
  simp only [isIdentifierStart, Bool.or_eq_true] at h
  rcases h with (h | h) | h
  · have hletter : c.isAlphanum = true := by simp [CodePoint.isAlphanum, h]
    refine ⟨c.toUpper, by rw [Text.upper, if_pos (toNat_lt_of_isAlphanum hletter)], ?_⟩
    rw [isIdentifierStart, CodePoint.isAlpha_toUpper_eq_isAlpha, h]
    rfl
  · obtain rfl : c = '_' := by simpa using h
    exact ⟨'_', rfl, rfl⟩
  · obtain rfl : c = '$' := by simpa using h
    exact ⟨'$', rfl, rfl⟩

theorem isIdentifierForm_capitalize (h : isIdentifierForm t = true) :
    isIdentifierForm (capitalize t) = true := by
  cases t with
  | nil => cases h
  | cons c rest =>
    rw [isIdentifierForm, Bool.and_eq_true] at h
    obtain ⟨capital, hupper, hcapital⟩ := exists_upper h.1
    rw [capitalize, hupper, List.singleton_append, isIdentifierForm, hcapital, h.2]
    rfl

/-- No reserved word ends in the usual suffix. -/
theorem not_defaultSuffix_suffix : ∀ word ∈ reservedWords, ¬defaultSuffix <:+ word := by
  decide

theorem isIdentifier_of_owner {owner : Text} (howner : isIdentifierForm owner = true)
    (hname : isIdentifierForm name = true) :
    isIdentifier (stripMarker owner ++ capitalize name ++ defaultSuffix) = true := by
  have hfeed : .char '\n' ∉ owner := by
    intro hmem
    exact absurd (List.all_eq_true.1 (all_of_isIdentifierForm howner) _ hmem) (by decide)
  have hform : isIdentifierForm (stripMarker owner ++ (capitalize name ++ defaultSuffix)) = true :=
    isIdentifierForm_append (beginning_of_stripMarker hfeed) howner
      (isIdentifierForm_append List.prefix_rfl (isIdentifierForm_capitalize hname) (by decide))
  have hfree : stripMarker owner ++ capitalize name ++ defaultSuffix ∉ reservedWords :=
    fun hmem => not_defaultSuffix_suffix _ hmem (List.suffix_append _ _)
  rw [← List.append_assoc] at hform
  rw [isIdentifier, hform]
  simpa using hfree

/-- **The type name** for a field is an identifier, if the names it is made from have the form of
identifiers. -/
theorem isIdentifier_enumTypeName {className : Option Text}
    (hclass : ∀ owner ∈ className, isIdentifierForm owner = true)
    (hname : isIdentifierForm name = true) :
    isIdentifier (enumTypeName className name defaultSuffix) = true := by
  cases className with
  | none => exact isIdentifier_of_owner (by decide) hname
  | some owner =>
    have howner := hclass owner rfl
    cases owner with
    | nil => cases howner
    | cons => exact isIdentifier_of_owner howner hname

end DocEnum.Java
