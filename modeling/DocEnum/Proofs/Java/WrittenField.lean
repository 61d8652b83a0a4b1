import Mathlib
import DocEnum.Proofs.Java.Blanking
import DocEnum.Proofs.Java.FieldParts

/-!
# Written fields

A documented field as its author writes it: the comment, annotations, modifiers, the type with its
arguments and brackets, the name, and the end with or without an initial value (`WrittenField`).

**Choice.** A declaration is searched for among several places where each part may start. The first
tries are right, but for a type that is spelled like a modifier. Then it is taken for a modifier and
the name for the type, which leads nowhere (`WrittenField.findSome?_afterModifier`).

Main result: a written field is declared by what it says (`WrittenField.at?_before`).
-/

namespace DocEnum.Java

variable {t u rest : Text}

/-! ## Fields -/

/-- The first declaration that reading a type at the start of a text leads to. -/
def declared? (doc t : Text) : Option Declaration :=
  (afterType t).findSome? (Declaration.ending? doc)

theorem at?_eq (t : Text) : Declaration.at? t = (docLength? t).bind fun length =>
    (afterAnnotations (Text.trimStart (t.drop length)).length
      (Text.trimStart (t.drop length)) []).findSome? fun t' =>
        (afterModifiers t'.length t').findSome? (declared? (t.take length)) :=
  rfl

theorem declared?_eq_none_of_head {doc t : Text} (ht : ∀ c ∈ t.head?, isTypeChar c = false) :
    declared? doc t = none := by
  have hempty : t.takeWhile isTypeChar = [] := by
    cases t with
    | nil => rfl
    | cons c t => exact List.takeWhile_cons_of_neg (by simpa using ht c rfl)
  rw [declared?, afterType]
  simp [hempty]

/-- Nothing is declared where no word starts. -/
theorem findSome?_afterModifiers_of_head (ht : ∀ c ∈ t.head?, isTypeChar c = false) (doc : Text)
    (fuel : Nat) : (afterModifiers fuel t).findSome? (declared? doc) = none := by
  rw [afterModifiers_of_none (afterModifier?_eq_none_of_head ht), List.findSome?_singleton,
    declared?_eq_none_of_head ht]

/-- The parts of a documented field. -/
structure WrittenField where
  /-- The inside of the comment. -/
  body : Text
  /-- The blanks behind the comment. -/
  gap : Text
  annotations : Text
  modifiers : Text
  /-- The type without its arguments and brackets. -/
  base : Text
  arguments : Text
  brackets : Text
  /-- The blanks between type and name. -/
  space : Text
  name : Text
  ending : Text
  isDocBody : IsDocBody body
  blanks_gap : Blanks gap
  isAnnotations : IsAnnotations annotations
  isModifiers : IsModifiers modifiers
  base_ne_nil : base ≠ []
  isTypeChar_base : ∀ c ∈ base, isTypeChar c = true
  isArguments : IsArguments arguments
  isBrackets : IsBrackets brackets
  blanks_space : Blanks space
  space_ne_nil : space ≠ []
  isNameForm_name : isNameForm name = true
  isEnding : IsEnding ending

namespace WrittenField

variable (field : WrittenField) (rest : Text)

/-- The text from the name on. -/
def fromName : Text :=
  field.name ++ (field.ending ++ rest)

/-- The text from the brackets on. -/
def fromBrackets : Text :=
  field.brackets ++ (field.space ++ field.fromName rest)

/-- The text from the type on. -/
def fromType : Text :=
  field.base ++ (field.arguments ++ field.fromBrackets rest)

/-- The text from the modifiers on. -/
def fromModifiers : Text :=
  field.modifiers ++ field.fromType rest

/-- The text of a field in front of another text. -/
def before : Text :=
  docComment field.body ++ (field.gap ++ (field.annotations ++ field.fromModifiers rest))

/-- The declaration that a field is written for. -/
def declaration : Declaration :=
  ⟨docComment field.body, field.name, field.fromName rest, rest⟩

theorem startsWord_fromName : StartsWord (field.fromName rest) :=
  (startsWord_of_isNameForm field.isNameForm_name).append _

/-- **Dead end.** Taking the name for the type leads nowhere: no name follows it. -/
theorem ending?_ending (doc : Text) : Declaration.ending? doc (field.ending ++ rest) = none := by
  obtain ⟨gap, sign, r, heq, hgap, hsign⟩ := field.isEnding.exists_eq rest
  have htrim := trimStart_sign hsign hgap r
  have hsame : ∀ fuel, dropArrays fuel (gap ++ sign :: r) = gap ++ sign :: r := by
    refine dropArrays_of_ne ?_
    intro r' hr'
    rw [htrim] at hr'
    rcases hsign with rfl | rfl <;> simp at hr'
  -- The sign is no name, and neither is a bracket of an array.
  have hname : nameAt? (sign :: r) = none := by
    rcases hsign with rfl | rfl <;> rfl
  rw [heq, Declaration.ending?, hsame]
  cases gap with
  | nil =>
    have hblank := not_isBlank_of_sign hsign
    simp [afterBlanks?, hblank]
  | cons b gap =>
    have hblanks : afterBlanks? (b :: gap ++ sign :: r) = some (sign :: r) :=
      afterBlanks?_append hgap (by simp) (by simpa using not_isBlank_of_sign hsign)
    rw [hblanks]
    simp [hname]

/-- **The brackets, the name and the end are read.** -/
theorem ending?_fromBrackets (doc : Text) :
    Declaration.ending? doc (field.fromBrackets rest) =
      some ⟨doc, field.name, field.fromName rest, rest⟩ := by
  have hname := field.startsWord_fromName rest
  have hspace : Text.trimStart (field.space ++ field.fromName rest) = field.fromName rest :=
    hname.trimStart_append field.blanks_space
  have harrays : dropArrays (field.fromBrackets rest).length (field.fromBrackets rest) =
      field.space ++ field.fromName rest := by
    refine field.isBrackets.dropArrays_append ?_ ?_
    · intro r
      rw [hspace]
      exact hname.ne_cons (by decide) r
    · rw [fromBrackets, List.length_append]
      exact Nat.le_add_right _ _
  have hblanks : afterBlanks? (field.space ++ field.fromName rest) = some (field.fromName rest) :=
    afterBlanks?_append field.blanks_space field.space_ne_nil hname.head_not_isBlank
  have hfound : nameAt? (field.fromName rest) = some field.name := by
    refine nameAt?_append field.isNameForm_name ?_
    intro c hc
    exact not_isNamePart_of_not_isTypeChar (field.isEnding.head_not_isTypeChar rest c hc)
  have hend : afterSemicolon? ((field.fromName rest).drop field.name.length) = some rest := by
    rw [fromName, List.drop_left, field.isEnding.afterSemicolon?_append]
  rw [Declaration.ending?, harrays]
  simp [hblanks, hfound, hend]

/-- No closing bracket stands between the arguments of the type and the end. -/
theorem closings_fromBrackets : closings (field.fromBrackets rest) = [] := by
  obtain ⟨gap, sign, r, heq, hgap, hsign⟩ := field.isEnding.exists_eq rest
  -- Type arguments cannot end past the brackets: nothing up to the sign closes any.
  have hclosing : ∀ {t : Text}, (∀ c ∈ t, isTypeChar c = true ∨ Text.isBlank c = true) →
      .char '>' ∉ t := by
    intro t ht hmem
    exact absurd (ht '>' hmem) (by decide)
  have hsplit : field.fromBrackets rest =
      field.brackets ++ field.space ++ field.name ++ gap ++ sign :: r := by
    simp [fromBrackets, fromName, heq]
  have hbrackets : .char '>' ∉ field.brackets := field.isBrackets.not_mem (by decide) (by decide)
  have hspace : .char '>' ∉ field.space := hclosing fun c hc => .inr (field.blanks_space c hc)
  have hname : .char '>' ∉ field.name := hclosing fun c hc =>
    .inl (isTypeChar_of_isNamePart (isNamePart_of_mem field.isNameForm_name c hc))
  have hgap : .char '>' ∉ gap := hclosing fun c hc => .inr (hgap c hc)
  rw [hsplit]
  refine closings_eq_nil ?_ ?_ r
  · simp [hbrackets, hspace, hname, hgap]
  · rcases hsign with rfl | rfl <;> rfl

/-- The text from the brackets on starts with blanks, and then a bracket or the name. -/
theorem fromBrackets_eq : ∃ gap t, field.fromBrackets rest = gap ++ t ∧ Blanks gap ∧
    (t = field.fromName rest ∧ gap ≠ [] ∨ ∃ r, t = .char '[' :: r) := by
  rcases field.isBrackets.eq_nil_or with hnil | ⟨gap, r, heq, hgap⟩
  · exact ⟨field.space, field.fromName rest, by rw [fromBrackets, hnil]; rfl, field.blanks_space,
      .inl ⟨rfl, field.space_ne_nil⟩⟩
  · exact ⟨gap, .char '[' :: (r ++ (field.space ++ field.fromName rest)),
      by rw [fromBrackets, heq]; simp, hgap, .inr ⟨_, rfl⟩⟩

/-- Behind the first word of the type stand blanks, and then a bracket or the name. -/
theorem fromArguments_eq : ∃ gap t, field.arguments ++ field.fromBrackets rest = gap ++ t ∧
    Blanks gap ∧ (t = field.fromName rest ∧ gap ≠ [] ∨
      ∃ sign r, t = sign :: r ∧ (sign = '<' ∨ sign = '[')) := by
  rcases field.isArguments.eq_nil_or with hnil | ⟨gap, inside, heq, hgap, -⟩
  · obtain ⟨gap, t, heq, hgap, ht⟩ := field.fromBrackets_eq rest
    refine ⟨gap, t, by rw [hnil, List.nil_append, heq], hgap, ht.imp_right ?_⟩
    rintro ⟨r, rfl⟩
    exact ⟨'[', r, rfl, .inr rfl⟩
  · exact ⟨gap, .char '<' :: (inside ++ .char '>' :: field.fromBrackets rest),
      by rw [heq]; simp, hgap,
      .inr ⟨'<', _, rfl, .inl rfl⟩⟩

theorem head_fromArguments :
    ∀ c ∈ (field.arguments ++ field.fromBrackets rest).head?, isTypeChar c = false := by
  obtain ⟨gap, t, heq, hgap, ht⟩ := field.fromArguments_eq rest
  rw [heq]
  refine head_blanks_append hgap ?_
  intro hnil
  rcases ht with ⟨-, hne⟩ | ⟨sign, r, rfl, hsign⟩
  · exact absurd hnil hne
  · intro c hc
    obtain rfl : sign = c := by simpa using hc
    rcases hsign with rfl | rfl <;> decide

theorem takeWhile_fromType : (field.fromType rest).takeWhile isTypeChar = field.base :=
  Text.takeWhile_run field.isTypeChar_base (field.head_fromArguments rest)

/-- **The type is read at the first try.** -/
theorem exists_afterType_eq :
    ∃ others, afterType (field.fromType rest) = field.fromBrackets rest :: others := by
  have hne : field.base.isEmpty = false := by simpa using field.base_ne_nil
  have hdrop : (field.fromType rest).drop field.base.length =
      field.arguments ++ field.fromBrackets rest := by rw [fromType, List.drop_left]
  rw [afterType]
  simp only [takeWhile_fromType, hne, hdrop, Bool.false_eq_true, if_false]
  -- Without type arguments the type ends at its name; with them, at the last closing bracket.
  rcases field.isArguments.eq_nil_or with hnil | ⟨gap, inside, heq, hgap, hinside⟩
  · obtain ⟨gap, t, heq, hgap, ht⟩ := field.fromBrackets_eq rest
    have hopen : ∀ r, Text.trimStart (field.fromBrackets rest) ≠ .char '<' :: r := by
      intro r
      rw [heq]
      rcases ht with ⟨rfl, -⟩ | ⟨r', rfl⟩
      · rw [(field.startsWord_fromName rest).trimStart_append hgap]
        exact (field.startsWord_fromName rest).ne_cons (by decide) r
      · rw [Text.trimStart_append hgap (by simp [Text.isBlank])]
        simp
    rw [hnil, List.nil_append]
    split
    · next r hr => exact absurd hr (hopen r)
    · exact ⟨[], rfl⟩
  · have htrim : Text.trimStart (field.arguments ++ field.fromBrackets rest) =
        .char '<' :: (inside ++ .char '>' :: field.fromBrackets rest) := by
      rw [heq, List.append_assoc, List.cons_append, List.append_assoc]
      exact Text.trimStart_append hgap (by simp [Text.isBlank])
    obtain ⟨others, hothers⟩ := exists_closings_eq hinside (field.closings_fromBrackets rest)
    rw [htrim]
    exact ⟨others ++ [field.arguments ++ field.fromBrackets rest], by simp [hothers]⟩

theorem declared?_fromType (doc : Text) : declared? doc (field.fromType rest) =
    some ⟨doc, field.name, field.fromName rest, rest⟩ := by
  obtain ⟨others, hothers⟩ := field.exists_afterType_eq rest
  rw [declared?, hothers, List.findSome?_cons, field.ending?_fromBrackets]

/-- **Dead end.** The name is no type. -/
theorem declared?_fromName (doc : Text) : declared? doc (field.fromName rest) = none := by
  have htake : (field.fromName rest).takeWhile isTypeChar = field.name :=
    Text.takeWhile_run
      (fun c hc => isTypeChar_of_isNamePart (isNamePart_of_mem field.isNameForm_name c hc))
      (field.isEnding.head_not_isTypeChar rest)
  have hne : field.name.isEmpty = false := by
    simpa using isNameForm_ne_nil field.isNameForm_name
  have hdrop : (field.fromName rest).drop field.name.length = field.ending ++ rest := by
    rw [fromName, List.drop_left]
  obtain ⟨gap, sign, r, heq, hgap, hsign⟩ := field.isEnding.exists_eq rest
  -- Taken for a type, the name has nothing behind it but the end of the declaration.
  have hafter : afterType (field.fromName rest) = [field.ending ++ rest] := by
    rw [afterType]
    simp only [htake, hne, hdrop]
    rw [heq, trimStart_sign hsign hgap]
    rcases hsign with rfl | rfl <;> rfl
  rw [declared?, hafter, List.findSome?_cons, field.ending?_ending]
  rfl

/-- **Dead ends.** All places behind a type that is taken for a modifier lead nowhere. -/
theorem findSome?_afterModifier (doc : Text)
    (h : afterModifier? (field.fromType rest) = some u) (fuel : Nat) :
    (afterModifiers fuel u).findSome? (declared? doc) = none := by
  obtain ⟨-, hu⟩ := word_of_afterModifier? field.isTypeChar_base (field.head_fromArguments rest) h
  obtain ⟨gap, t, heq, hgap, ht⟩ := field.fromArguments_eq rest
  rw [heq] at hu
  rcases ht with ⟨rfl, -⟩ | ⟨sign, r, rfl, hsign⟩
  · -- The name may be spelled like a modifier, too; then only the end is left.
    rw [(field.startsWord_fromName rest).trimStart_append hgap] at hu
    subst hu
    cases fuel with
    | zero => rw [afterModifiers, List.findSome?_singleton, declared?_fromName]
    | succ fuel =>
      rw [afterModifiers]
      split
      · next v hv =>
        have hname : ∀ c ∈ field.name, isTypeChar c = true := fun c hc =>
          isTypeChar_of_isNamePart (isNamePart_of_mem field.isNameForm_name c hc)
        obtain ⟨-, rfl⟩ := word_of_afterModifier? hname (field.isEnding.head_not_isTypeChar rest) hv
        obtain ⟨gap, sign, r, heq, hgap, hsign⟩ := field.isEnding.exists_eq rest
        rw [heq, trimStart_sign hsign hgap, List.findSome?_append,
          findSome?_afterModifiers_of_head, Option.none_or, List.findSome?_singleton,
          declared?_fromName]
        intro c hc
        obtain rfl : sign = c := by simpa using hc
        exact not_isTypeChar_of_sign hsign
      · rw [List.findSome?_singleton, declared?_fromName]
  · rw [hu, Text.trimStart_append hgap]
    · refine findSome?_afterModifiers_of_head ?_ doc fuel
      intro c hc
      obtain rfl : sign = c := by simpa using hc
      rcases hsign with rfl | rfl <;> decide
    · intro c hc
      obtain rfl : sign = c := by simpa using hc
      rcases hsign with rfl | rfl <;> decide

theorem startsWord_fromType : StartsWord (field.fromType rest) :=
  (startsWord_of_forall field.isTypeChar_base field.base_ne_nil).append _

/-- **Modifiers and the type are read.** -/
theorem findSome?_afterModifiers (doc : Text) {modifiers : Text} (h : IsModifiers modifiers)
    (fuel : Nat) (hfuel : modifiers.length ≤ fuel) :
    (afterModifiers fuel (modifiers ++ field.fromType rest)).findSome? (declared? doc) =
      some ⟨doc, field.name, field.fromName rest, rest⟩ := by
  induction h generalizing fuel with
  | nil =>
    rw [List.nil_append]
    cases fuel with
    | zero => rw [afterModifiers, List.findSome?_singleton, declared?_fromType]
    | succ fuel =>
      rw [afterModifiers]
      split
      · next u hu =>
        rw [List.findSome?_append, field.findSome?_afterModifier rest doc hu, Option.none_or,
          List.findSome?_singleton, declared?_fromType]
      · rw [List.findSome?_singleton, declared?_fromType]
  | @cons modifier gap modifiers hmodifier hgap hne hrest ih =>
    simp only [List.length_append] at hfuel
    have hlength := List.length_pos_of_ne_nil hne
    obtain ⟨fuel, rfl⟩ : ∃ k, fuel = k + 1 := ⟨fuel - 1, by omega⟩
    have hfirst := afterModifier?_append hmodifier hgap hne
      (hrest.startsWord_append (field.startsWord_fromType rest))
    rw [List.append_assoc, List.append_assoc, afterModifiers, hfirst, List.findSome?_append,
      ih fuel (by omega)]
    rfl

theorem startsWord_fromModifiers : StartsWord (field.fromModifiers rest) :=
  field.isModifiers.startsWord_append (field.startsWord_fromType rest)

/-- **A written field is declared by what it says.** -/
theorem at?_before : Declaration.at? (field.before rest) = some (field.declaration rest) := by
  have hword := field.startsWord_fromModifiers rest
  have hlength : docLength? (field.before rest) = some (docComment field.body).length :=
    docLength?_docComment field.isDocBody.no_end _
  have hbody : Text.trimStart ((field.before rest).drop (docComment field.body).length) =
      field.annotations ++ field.fromModifiers rest := by
    rw [before, List.drop_left]
    exact Text.trimStart_append field.blanks_gap (field.isAnnotations.head_append hword).1
  have hdoc : (field.before rest).take (docComment field.body).length = docComment field.body := by
    rw [before, List.take_left]
  have hmodifiers := field.findSome?_afterModifiers rest (docComment field.body)
    field.isModifiers (field.fromModifiers rest).length
    (by rw [fromModifiers, List.length_append]; exact Nat.le_add_right _ _)
  -- The first way to read the annotations is the right one, and no other is tried.
  obtain ⟨others, hothers⟩ := field.isAnnotations.exists_afterAnnotations_eq hword
    (field.annotations ++ field.fromModifiers rest).length
    (by rw [List.length_append]; exact Nat.le_add_right _ _) []
  rw [at?_eq, hlength, Option.bind_some, hbody, hdoc, hothers, List.findSome?_cons]
  rw [fromModifiers] at hmodifiers ⊢
  rw [hmodifiers]
  rfl

end WrittenField

/-! ## Plain fields -/

/-- Modifiers with a blank behind each. -/
def joinModifiers (written : List Text) : Text :=
  written.flatMap fun modifier => modifier ++ [.char ' ']

theorem isModifiers_joinModifiers {written : List Text}
    (h : ∀ modifier ∈ written, modifier ∈ modifiers) : IsModifiers (joinModifiers written) := by
  induction written with
  | nil => exact .nil
  | cons modifier written ih =>
    rw [List.forall_mem_cons] at h
    rw [joinModifiers, List.flatMap_cons, List.append_assoc]
    exact .cons h.1 (blanks_singleton rfl) (by simp) (ih h.2)

/-- The parts of a field without documentation, as simple as they come. -/
structure PlainField where
  modifiers : List Text
  type : Text
  name : Text
  isModifier : ∀ modifier ∈ modifiers, modifier ∈ Java.modifiers
  isIdentifierForm_type : isIdentifierForm type = true
  isIdentifierForm_name : isIdentifierForm name = true

namespace PlainField

/-- The text of a field up to its name. -/
def toName (field : PlainField) : Text :=
  joinModifiers field.modifiers ++ (field.type ++ [.char ' '])

/-- The field with a comment on the lines above it. -/
def documented (field : PlainField) (body : Text) (hbody : IsDocBody body) : WrittenField where
  body := body
  gap := [.char '\n']
  annotations := []
  modifiers := joinModifiers field.modifiers
  base := field.type
  arguments := []
  brackets := []
  space := [.char ' ']
  name := field.name
  ending := [.char ';']
  isDocBody := hbody
  blanks_gap := blanks_singleton rfl
  isAnnotations := .nil
  isModifiers := isModifiers_joinModifiers field.isModifier
  base_ne_nil := isNameForm_ne_nil (isNameForm_of_isIdentifierForm field.isIdentifierForm_type)
  isTypeChar_base := isTypeChar_of_isIdentifierForm field.isIdentifierForm_type
  isArguments := .none
  isBrackets := .nil
  blanks_space := blanks_singleton rfl
  space_ne_nil := by simp
  isNameForm_name := isNameForm_of_isIdentifierForm field.isIdentifierForm_name
  isEnding := .plain (by simp [Blanks] : Blanks [])

end PlainField

end DocEnum.Java
