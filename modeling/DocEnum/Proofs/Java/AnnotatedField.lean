import Mathlib
import DocEnum.Proofs.Java.FieldSearch
import DocEnum.Proofs.Java.FirstType

/-!
# Annotated fields

Which fields of a source text are found, wherever in the text they stand.

**Theorem (`written_field_reported`).** A written field at depth one is reported with its comment,
so that its name is found, if

* no declaration that starts before the field reaches into it, and
* no annotation of the field has a closing parenthesis among its arguments.

The search comes to the field with the depth of braces in front of it and nothing left to skip.
There the field is declared by what it says.

The second condition is part of a written field (`IsAnnotations`), and it is real: the arguments of
an annotation are taken to end at the first closing parenthesis, also in a literal or in an
annotation inside of the arguments. What stands behind it is read as the rest of the declaration. If
no annotation and no word starts there, the field is not reported (`EarlyEnd.not_mem_places`). The
definition of a column with its width is enough (`not_found_annotated`).
-/

namespace DocEnum.Java

variable {before after : Text}

theorem exists_eq_append_of_le {code s : Text} (h : s.length ≤ code.length) :
    ∃ cs rest, code = cs ++ rest ∧ cs.length = s.length ∧ code.take s.length = cs :=
  ⟨code.take s.length, code.drop s.length, (List.take_append_drop _ code).symm,
    List.length_take_of_le h, rfl⟩

/-- No declaration starts in plain code, so none reaches over its end. -/
theorem PlainCode.endsBefore (h : PlainCode before) (after : Text) : EndsBefore before after := by
  intro k hk found hfound
  rw [h.at?_drop_eq_none after k hk] at hfound
  cases hfound

/-- **A written field is reported** with its comment, and its name is found. -/
theorem written_field_reported (field : WrittenField) (before after : Text)
    (hdepth : braceDepth ((blank (before ++ field.before after)).take before.length) = 1)
    (hends : EndsBefore before (field.before after)) :
    let unit := CompilationUnit.scan (before ++ field.before after)
    field.reported (1 + lineFeeds before) ∈ unit.fields ∧
      (unit.field? field.name).isSome = true := by
  intro unit
  have hlength : (blank (before ++ field.before after)).length =
      before.length + (field.text.length + after.length) := by
    rw [length_blank, ← field.text_append, List.length_append, List.length_append]
  obtain ⟨cs, rest, hcode, hcs, htake⟩ :=
    exists_eq_append_of_le (s := before) (hlength ▸ Nat.le_add_right _ _)
  have hrest : field.text.length ≤ rest.length := by
    rw [hcode, List.length_append, hcs] at hlength
    omega
  obtain ⟨cs', rest', rfl, hcs', -⟩ := exists_eq_append_of_le hrest
  rw [htake] at hdepth
  -- The scan comes to the field by itself: no declaration before reaches into it.
  obtain ⟨fields, hfields⟩ := exists_fieldsFrom_eq hcs hends (cs' ++ rest') 0 0 1
    (Nat.zero_le _)
  have hmem : field.reported (1 + lineFeeds before) ∈ unit.fields := by
    change _ ∈ fieldsFrom 0 0 1 _ (blank _)
    rw [hcode, hfields, ← field.text_append, field.fieldsFrom_append hcs', hdepth]
    simp
  refine ⟨hmem, ?_⟩
  rw [CompilationUnit.field?, List.find?_isSome]
  exact ⟨_, hmem, by simp [WrittenField.reported]⟩

/-- A column with its length. -/
def columnField : WrittenField :=
  let plain : PlainField :=
    ⟨["public"], "Long", "size", by decide, by decide, by decide⟩
  { plain.documented " 2-b " ⟨by decide, by decide⟩ with
    annotations := .char '@' ::
      (("Column" : Text) ++ ([] ++ .char '(' :: (("length = 1" : Text) ++ .char ')' ::
      ([.char '\n'] ++ []))))
    isAnnotations := .cons (isTypeChar_of_isIdentifierForm (by decide)) (by decide)
      (by simp [Blanks]) (by decide) (by simp [Blanks, Text.isBlank]) .nil }

/-- The field of a class, on the fourth line. -/
theorem written_field_reported_column :
    let before : Text := "class A \x7b\n"
    let text := before ++ columnField.before "\n\x7d\n"
    braceDepth ((blank text).take before.length) = 1 ∧
      EndsBefore before (columnField.before "\n\x7d\n") ∧
      ⟨"size", "/** 2-b */", 4⟩ ∈ (CompilationUnit.scan text).fields := by
  intro before text
  have hdepth : braceDepth ((blank text).take before.length) = 1 := by decide
  have hends : EndsBefore before (columnField.before "\n\x7d\n") :=
    PlainCode.endsBefore (by decide) _
  exact ⟨hdepth, hends, (written_field_reported columnField before "\n\x7d\n" hdepth hends).1⟩

/-! ## Arguments with a closing parenthesis -/

/-- An annotated field as it goes on from its comment: the arguments of its annotation are closed
early, and what stands behind the parenthesis starts neither an annotation nor a word. -/
structure EarlyEnd where
  body : Text
  gap : Text
  annotation : Text
  gap' : Text
  arguments : Text
  rest : Text
  no_end : ¬[.char '*', .char '/'] <:+: body
  blanks_gap : Blanks gap
  isTypeChar_annotation : ∀ c ∈ annotation, isTypeChar c = true
  annotation_ne_nil : annotation ≠ []
  blanks_gap' : Blanks gap'
  no_parenthesis : .char ')' ∉ arguments
  head_rest : ∀ c ∈ (Text.trimStart rest).head?, c ≠ '@' ∧ isTypeChar c = false

/-- The text from the comment on. -/
def EarlyEnd.text (early : EarlyEnd) : Text :=
  docComment early.body ++
    (early.gap ++ .char '@' :: (early.annotation ++ (early.gap' ++ .char '(' ::
    (early.arguments ++ .char ')' :: early.rest))))

/-- **Nothing is declared** where the arguments of an annotation end early. -/
theorem EarlyEnd.at?_text (early : EarlyEnd) : Declaration.at? early.text = none := by
  have htrim : ∀ t, Text.trimStart (early.gap ++ .char '@' :: t) = .char '@' :: t :=
    fun t => Text.trimStart_append early.blanks_gap (by simp [Text.isBlank])
  have hsign : ∀ r, Text.trimStart early.rest ≠ .char '@' :: r := by
    intro r hr
    exact (early.head_rest '@' (by rw [hr]; rfl)).1 rfl
  have hword : ∀ c ∈ (Text.trimStart early.rest).head?, isTypeChar c = false :=
    fun c hc => (early.head_rest c hc).2
  rw [text, at?_eq, docLength?_docComment early.no_end, Option.bind_some, List.drop_left, htrim,
    List.length_cons, afterAnnotations_arguments early.isTypeChar_annotation
      early.annotation_ne_nil early.blanks_gap' early.no_parenthesis,
    afterAnnotations_of_ne hsign, List.findSome?_singleton, findSome?_afterModifiers_of_head hword]

/-- **No field is reported** where the arguments of an annotation end early. -/
theorem EarlyEnd.not_mem_places (early : EarlyEnd) (before : Text) {places : List Nat}
    (h : PlacesOf (before ++ early.text) places) : before.length ∉ places := by
  intro hmem
  obtain ⟨field, hfield⟩ := h.exists_declaredAt hmem
  obtain ⟨found, hfound, -⟩ := hfield.declaration
  rw [List.drop_left, early.at?_text] at hfound
  cases hfound

/-- A field whose annotation holds a closing parenthesis in a literal or in an annotation inside of
its arguments is not found. -/
theorem not_found_annotated :
    (CompilationUnit.scan ("class A \x7b\n/** 1-a */\n" ++
      "@Column(columnDefinition = \"tinyint(1)\")\nInteger kind;\n\x7d\n")).field? "kind" = none ∧
    (CompilationUnit.scan ("class A \x7b\n/** 1-a */\n@Size(@Max(1)) Integer kind;\n\x7d\n")).field?
      "kind" = none := by
  decide

end DocEnum.Java
