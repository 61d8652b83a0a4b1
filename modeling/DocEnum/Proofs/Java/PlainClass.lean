import Mathlib
import DocEnum.Proofs.Java.FieldSearch
import DocEnum.Proofs.Java.FirstType

/-!
# Plain classes

What is found in a class that is written line by line.

**Members.** A member is a field or a nested class, with a documentation comment above it or without
one. Nested classes have members of their own, to any depth (`Members`).

**Theorem (`scan_plainClass`).** The scan of a class finds the name of the class and exactly the
documented fields among its own members, in order, each with its comment and the number of its line,
if no comment of a nested class ends with an empty comment.

The search passes the members one after the other and comes back to the same depth behind each
(`Members.fieldsFrom_append`). A field is a written field or plain code. In the comment of a nested
class other comments may open, but all of them end where the comment does
(`length_of_docLength?_drop`), and then the head of a class follows, which is no field
(`at?_eq_none_of_opening`).

The condition is real. If the comment ends with an empty comment, a further one opens at its last
slash and goes on through the code up to the next end of a comment. A field behind it is taken for a
member of the outer class or gets another comment (`not_documented`).
-/

namespace DocEnum.Java

variable {s t u before rest : Text} {depth : Int}

/-! ## Texts -/

/-- The inside of a documentation comment. -/
structure DocBody where
  text : Text
  isDocBody : IsDocBody text

/-- A name of ASCII letters, digits, underscores and dollar signs. -/
structure TypeName where
  text : Text
  isIdentifierForm_text : isIdentifierForm text = true

/-- The lines of a documentation comment, if there is one. -/
def docLines : Option DocBody → Text
  | none => []
  | some body => docComment body.text ++ [.char '\n']

/-- The line that opens a class. -/
def opening (name : TypeName) : Text :=
  ("class" : Text) ++ ([.char ' '] ++ (name.text ++ (" \x7b\n" : Text)))

/-- The line that closes a class. -/
def closing : Text := "\x7d\n"

/-- The text of a field without documentation. -/
def PlainField.text (field : PlainField) : Text :=
  field.toName ++ (field.name ++ [.char ';'])

/-- The members of a class. -/
inductive Members where
  | nil
  | field (doc : Option DocBody) (plain : PlainField) (rest : Members)
  | nested (doc : Option DocBody) (name : TypeName) (inner rest : Members)

/-- The lines of the members. -/
def Members.text : Members → Text
  | nil => []
  | field doc plain rest => docLines doc ++ (plain.text ++ ([.char '\n'] ++ rest.text))
  | nested doc name inner rest =>
    docLines doc ++ (opening name ++ (inner.text ++ (closing ++ rest.text)))

/-- The text of a class. -/
def classText (name : TypeName) (members : Members) : Text :=
  opening name ++ (members.text ++ closing)

/-- The number, from one, of the line that a text leads into. -/
def lineBehind (before : Text) : Nat :=
  1 + lineFeeds before

/-- What is documented of a field, given the text in front of it. -/
def PlainField.reported (field : PlainField) (before : Text) : Option DocBody → List Field
  | none => []
  | some body =>
    [⟨field.name, docComment body.text, lineBehind (before ++ (docLines body ++ field.toName))⟩]

/-- The documented fields among the members themselves, given the text in front of them. -/
def Members.documented (before : Text) : Members → List Field
  | nil => []
  | field doc plain rest =>
    plain.reported before doc ++
      rest.documented (before ++ (docLines doc ++ (plain.text ++ [.char '\n'])))
  | nested doc name inner rest =>
    rest.documented (before ++ (docLines doc ++ (opening name ++ (inner.text ++ closing))))

/-- No comment of a nested class ends with an empty comment. -/
def Members.EndsPlain : Members → Prop
  | nil => True
  | field _ _ rest => rest.EndsPlain
  | nested doc _ inner rest =>
    (∀ body ∈ doc, ¬("/*" : Text) <:+ body.text) ∧ inner.EndsPlain ∧ rest.EndsPlain

instance Members.decidableEndsPlain : DecidablePred EndsPlain
  | nil => isTrue trivial
  | field _ _ rest => decidableEndsPlain rest
  | nested doc _ inner rest =>
    have := decidableEndsPlain inner
    have := decidableEndsPlain rest
    inferInstanceAs (Decidable ((∀ body ∈ doc, ¬("/*" : Text) <:+ body.text) ∧ _ ∧ _))

/-! ## Comments in comments -/

/-- A comment that opens before the end of another one ends there. -/
theorem docLength?_append_end {n : Nat} (hs : ¬[.char '*', .char '/'] <:+: s)
    (hempty : ¬[.char '/', .char '*'] <:+ s)
    (h : docLength? (s ++ .char '*' :: .char '/' :: t) = some n) : n = s.length + 2 := by
  obtain ⟨inside, m, heq, hm, rfl⟩ := exists_of_docLength? h
  -- The opening takes three characters; a shorter `s` would be the empty comment.
  match s with
  | [] => simp at heq
  | [c] => simp at heq
  | [c, d] =>
    obtain ⟨rfl, rfl, -⟩ : c = '/' ∧ d = '*' ∧
        .char '*' :: .char '/' :: t = .char '*' :: inside := by
      simpa using heq
    exact absurd (List.suffix_refl _) hempty
  | c :: d :: e :: s =>
    obtain ⟨-, -, -, rfl⟩ : c = '/' ∧ d = '*' ∧ e = '*' ∧
        s ++ .char '*' :: .char '/' :: t = inside := by
      simpa using heq
    have hrest : ¬[.char '*', .char '/'] <:+: s := by
      intro hmem
      exact hs (hmem.trans (List.suffix_append [c, d, e] s).isInfix)
    rw [blockLength?_append hrest] at hm
    rw [← Option.some.inj hm]
    rfl

/-- **A comment that opens in another one ends with it**, unless the other one ends with an empty
comment. -/
theorem length_of_docLength?_drop {body : Text} {k n : Nat}
    (hbody : ¬[.char '*', .char '/'] <:+: body)
    (hempty : ¬[.char '/', .char '*'] <:+ body) (ht : ∀ c ∈ t.head?, c ≠ '*')
    (hk : k < (docComment body).length)
    (h : docLength? ((docComment body ++ t).drop k) = some n) :
    k + n = (docComment body).length := by
  have hlength : (docComment body).length = body.length + 5 := by simp [docComment]
  -- The first three characters open the comment itself.
  rcases k with _ | _ | _ | k
  · rw [List.drop_zero, docLength?_docComment hbody] at h
    rw [zero_add, Option.some.inj h]
  · obtain ⟨inside, m, heq, -⟩ := exists_of_docLength? h
    simp [docComment] at heq
  · obtain ⟨inside, m, heq, -⟩ := exists_of_docLength? h
    simp [docComment] at heq
  · have hdrop : (docComment body ++ t).drop (k + 3) =
      (body ++ .char '*' :: .char '/' :: t).drop k := by
      simp [docComment]
    rw [hdrop] at h
    by_cases hinside : k ≤ body.length
    · rw [List.drop_append_of_le_length hinside] at h
      have hsuffix := List.drop_suffix k body
      have hn := docLength?_append_end (fun hmem => hbody (hmem.trans hsuffix.isInfix))
        (fun hend => hempty (hend.trans hsuffix)) h
      rw [List.length_drop] at hn
      omega
    · obtain rfl : k = body.length + 1 := by omega
      have hlast : (body ++ .char '*' :: .char '/' :: t).drop (body.length + 1) =
          .char '/' :: t := by
        rw [List.drop_length_add_append]
        rfl
      rw [hlast] at h
      obtain ⟨inside, m, heq, -⟩ := exists_of_docLength? h
      injection heq with _ heq
      exact absurd rfl (ht '*' (by rw [heq]; rfl))

/-! ## The head of a class -/

namespace TypeName

variable (name : TypeName) (t : Text)

/-- The text of a class from its name on. -/
def fromName : Text :=
  name.text ++ ((" \x7b\n" : Text) ++ t)

theorem opening_append :
    opening name ++ t = ("class" : Text) ++ ([.char ' '] ++ name.fromName t) := by
  unfold opening fromName
  simp only [List.append_assoc]

theorem startsWord_opening : StartsWord (opening name ++ t) := by
  rw [opening_append]
  exact (startsWord_of_forall (isTypeChar_of_isIdentifierForm (by decide)) (by decide)).append _

theorem startsWord_fromName : StartsWord (name.fromName t) :=
  (startsWord_of_isNameForm (isNameForm_of_isIdentifierForm name.isIdentifierForm_text)).append _

theorem trimStart_fromName : Text.trimStart ([.char ' '] ++ name.fromName t) = name.fromName t :=
  (name.startsWord_fromName t).trimStart_append (blanks_singleton rfl)

theorem afterBlanks?_fromName :
    afterBlanks? ([.char ' '] ++ name.fromName t) = some (name.fromName t) :=
  afterBlanks?_append (blanks_singleton rfl) (by simp) (name.startsWord_fromName t).head_not_isBlank

theorem nameAt?_fromName : nameAt? (name.fromName t) = some name.text := by
  refine nameAt?_append (isNameForm_of_isIdentifierForm name.isIdentifierForm_text) ?_
  intro c hc
  obtain rfl : ' ' = c := by simpa using hc
  decide

/-- The head of a class declares the class. -/
theorem typeAt?_opening : typeAt? (opening name ++ t) = some name.text := by
  rw [opening_append]
  exact typeAt?_append (by decide) (blanks_singleton rfl) (by simp) (name.startsWord_fromName t)
    (name.nameAt?_fromName t)

theorem takeWhile_opening : (opening name ++ t).takeWhile isTypeChar = ("class" : Text) := by
  rw [opening_append]
  refine Text.takeWhile_run (isTypeChar_of_isIdentifierForm (by decide)) ?_
  exact head_blanks_append (blanks_singleton rfl) (by simp)

theorem afterType_opening : afterType (opening name ++ t) = [[.char ' '] ++ name.fromName t] := by
  rw [afterType, takeWhile_opening, opening_append, List.drop_left]
  simp only [trimStart_fromName]
  split
  · next h => cases h
  · split
    · next r hr => exact absurd hr ((name.startsWord_fromName t).ne_cons (by decide) r)
    · rfl

/-- A class has a brace where a field has its end. -/
theorem ending?_fromName (doc : Text) :
    Declaration.ending? doc ([.char ' '] ++ name.fromName t) = none := by
  have harrays : ∀ fuel, dropArrays fuel ([.char ' '] ++ name.fromName t) =
      [.char ' '] ++ name.fromName t := by
    refine dropArrays_of_ne ?_
    rw [trimStart_fromName]
    exact (name.startsWord_fromName t).ne_cons (by decide)
  have hend : afterSemicolon? ((name.fromName t).drop name.text.length) = none := by
    rw [fromName, List.drop_left]
    rfl
  rw [Declaration.ending?, harrays, afterBlanks?_fromName]
  simp [nameAt?_fromName, hend]

/-- **The head of a class is no field.** -/
theorem findSome?_opening (doc : Text) (fuel : Nat) :
    (afterModifiers fuel (opening name ++ t)).findSome? (declared? doc) = none := by
  have hnone : afterModifier? (opening name ++ t) = none := by
    by_contra hsome
    obtain ⟨u, hu⟩ := Option.ne_none_iff_exists'.1 hsome
    rw [opening_append] at hu
    have hmem := (word_of_afterModifier? (isTypeChar_of_isIdentifierForm (by decide))
      (head_blanks_append (blanks_singleton rfl) (by simp)) hu).1
    exact absurd hmem (by decide)
  rw [afterModifiers_of_none hnone, List.findSome?_singleton, declared?, afterType_opening,
    List.findSome?_singleton, ending?_fromName]

end TypeName

/-- **No field is declared** where a comment ends in front of the head of a class. -/
theorem at?_eq_none_of_opening (name : TypeName) (t : Text)
    (h : ∀ n, docLength? u = some n → u.drop n = .char '\n' :: (opening name ++ t)) :
    Declaration.at? u = none := by
  rw [at?_eq]
  cases hlength : docLength? u with
  | none => rfl
  | some n =>
    have htrim : Text.trimStart (.char '\n' :: (opening name ++ t)) = opening name ++ t := rfl
    have hsign : ∀ r, opening name ++ t ≠ .char '@' :: r :=
      (name.startsWord_opening t).ne_cons (by decide)
    rw [Option.bind_some, h n hlength, htrim, afterAnnotations_of_ne hsign,
      List.findSome?_singleton, name.findSome?_opening]

/-! ## The search -/

theorem lineBehind_append (s t : Text) : lineBehind (s ++ t) = lineBehind s + lineFeeds t := by
  rw [lineBehind, lineBehind, lineFeeds_append, add_assoc]

theorem PlainCode.fieldsFrom_behind (hs : PlainCode s) (before t : Text) :
    fieldsFrom 0 depth (lineBehind before) (s ++ t) (blank (s ++ t)) =
      fieldsFrom 0 (depth + braceDepth s) (lineBehind (before ++ s)) t (blank t) := by
  rw [hs.fieldsFrom_append, lineBehind_append]

theorem IsToken.braceDepth_blank {token : Text} (h : IsToken token) :
    braceDepth (blank token) = 0 := by
  have hdepth := braceDepth_blanked token (Piece.noise token).blanked.length
  rwa [List.take_length, ← h.blank_eq] at hdepth

theorem flat_typeName (name : TypeName) : Flat name.text :=
  flat_of_isTypeChar (isTypeChar_of_isIdentifierForm name.isIdentifierForm_text)

theorem plainCode_opening (name : TypeName) : PlainCode (opening name) := by
  unfold opening
  rw [plainCode_append, plainCode_append, plainCode_append]
  exact ⟨by decide, by decide, (flat_typeName name).1, by decide⟩

theorem braceDepth_opening (name : TypeName) : braceDepth (opening name) = 1 := by
  unfold opening
  rw [braceDepth_append, braceDepth_append, braceDepth_append, (flat_typeName name).braceDepth_eq]
  rfl

theorem plainCode_closing : PlainCode closing := by
  decide

theorem braceDepth_closing : braceDepth closing = -1 := by
  decide

namespace PlainField

variable (field : PlainField)

theorem isTypeChar_or_gap_of_mem_text {c : CodePoint} (hc : c ∈ field.text) :
    isTypeChar c = true ∨ c = ' ' ∨ c = ';' := by
  simp only [text, toName, joinModifiers, List.mem_append, List.mem_flatMap,
    List.mem_singleton] at hc
  rcases hc with (⟨modifier, hmodifier, hc | rfl⟩ | hc | rfl) | hc | rfl
  · exact .inl (isTypeChar_of_mem_modifier (field.isModifier modifier hmodifier) c hc)
  · exact .inr (.inl rfl)
  · exact .inl (isTypeChar_of_isIdentifierForm field.isIdentifierForm_type c hc)
  · exact .inr (.inl rfl)
  · exact .inl (isTypeChar_of_isIdentifierForm field.isIdentifierForm_name c hc)
  · exact .inr (.inr rfl)

theorem flat_text : Flat field.text := by
  refine flat_of_forall ?_
  intro c hc
  rcases field.isTypeChar_or_gap_of_mem_text hc with hc | rfl | rfl
  · exact ⟨isPlainCode_of_isTypeChar hc, not_isBrace_of_isTypeChar hc⟩
  · exact ⟨rfl, rfl⟩
  · exact ⟨rfl, rfl⟩

theorem text_documented (body : DocBody) :
    (field.documented body.text body.isDocBody).text = docLines body ++ field.text := by
  simp [documented, WrittenField.text, WrittenField.before, WrittenField.fromModifiers,
    WrittenField.fromType, WrittenField.fromBrackets, WrittenField.fromName, docLines, text, toName]

theorem toName_documented (body : DocBody) :
    (field.documented body.text body.isDocBody).toName = docLines body ++ field.toName := by
  simp [documented, WrittenField.toName, docLines, toName]

/-- **A field is passed**, and reported if it is documented. -/
theorem fieldsFrom_append (doc : Option DocBody) (before rest : Text) :
    fieldsFrom 0 depth (lineBehind before) (docLines doc ++ (field.text ++ rest))
        (blank (docLines doc ++ (field.text ++ rest))) =
      (if depth = 1 then field.reported before doc else []) ++
        fieldsFrom 0 depth (lineBehind (before ++ (docLines doc ++ field.text))) rest
          (blank rest) := by
  cases doc with
  | none =>
    rw [docLines, List.nil_append, List.nil_append, field.flat_text.1.fieldsFrom_behind,
      field.flat_text.braceDepth_eq, add_zero]
    split <;> rfl
  | some body =>
    have hdoc := isToken_docComment body.isDocBody
    have hplain : PlainCode ([.char '\n'] ++ field.text) :=
      plainCode_append.2 ⟨rfl, field.flat_text.1⟩
    have hsplit : (field.documented body.text body.isDocBody).text =
        docComment body.text ++ ([.char '\n'] ++ field.text) := by simp [text_documented, docLines]
    have hsettled : Settled (field.documented body.text body.isDocBody).text :=
      hsplit ▸ hdoc.settled.append hplain.settled
    have hdepth : braceDepth (blank (field.documented body.text body.isDocBody).text) = 0 := by
      rw [hsplit, hdoc.settled.blank_append, braceDepth_append, hdoc.braceDepth_blank,
        hplain.blank_eq, braceDepth_append, field.flat_text.braceDepth_eq]
      rfl
    rw [← List.append_assoc, ← text_documented, hsettled.blank_append,
      WrittenField.fieldsFrom_append _ (length_blank _), hdepth, add_zero, ← lineBehind_append,
      WrittenField.reported, toName_documented, ← lineBehind_append]
    rfl

end PlainField

/-- **The comment of a nested class is passed** without a field. -/
theorem fieldsFrom_docLines {doc : Option DocBody}
    (hdoc : ∀ body ∈ doc, ¬[.char '/', .char '*'] <:+ body.text)
    (before : Text) (name : TypeName) (t : Text) :
    fieldsFrom 0 depth (lineBehind before) (docLines doc ++ (opening name ++ t))
        (blank (docLines doc ++ (opening name ++ t))) =
      fieldsFrom 0 depth (lineBehind (before ++ docLines doc)) (opening name ++ t)
        (blank (opening name ++ t)) := by
  cases doc with
  | none => rw [docLines, List.nil_append, List.append_nil]
  | some body =>
    have htoken := isToken_docComment body.isDocBody
    have hfeed : PlainCode [.char '\n'] := rfl
    have hdepth : braceDepth [.char '\n'] = 0 := rfl
    -- A declaration that opened in the comment would have to be the type behind it.
    have hnone : ∀ k < (docComment body.text).length, Declaration.at?
        ((docComment body.text ++ (([.char '\n'] : Text) ++ (opening name ++ t))).drop k) =
          none := by
      intro k hk
      refine at?_eq_none_of_opening name t ?_
      intro n hn
      have hlength :=
        length_of_docLength?_drop body.isDocBody.no_end (hdoc body rfl) (by simp) hk hn
      rw [List.drop_drop, hlength, List.drop_left]
      rfl
    rw [docLines, List.append_assoc, htoken.settled.fieldsFrom_append hnone,
      htoken.braceDepth_blank, ← lineBehind_append, hfeed.fieldsFrom_behind, hdepth, add_zero,
      add_zero, List.append_assoc]

namespace Members

/-- **Members are passed**, and the documented ones reported at depth one. -/
theorem fieldsFrom_append (members : Members) (hends : members.EndsPlain) (hdepth : 1 ≤ depth)
    (before rest : Text) :
    fieldsFrom 0 depth (lineBehind before) (members.text ++ rest) (blank (members.text ++ rest)) =
      (if depth = 1 then members.documented before else []) ++
        fieldsFrom 0 depth (lineBehind (before ++ members.text)) rest (blank rest) := by
  induction members generalizing depth before rest with
  | nil =>
    rw [text, documented, List.nil_append, List.append_nil]
    split <;> rfl
  | field doc plain members ih =>
    have hfeed : PlainCode [.char '\n'] := rfl
    have hzero : braceDepth [.char '\n'] = 0 := rfl
    have hsplit : (field doc plain members).text ++ rest =
        docLines doc ++ (plain.text ++ ([.char '\n'] ++ (members.text ++ rest))) := by simp [text]
    have hbefore : before ++ (docLines doc ++ plain.text) ++ [.char '\n'] =
        before ++ (docLines doc ++ (plain.text ++ [.char '\n'])) := by simp
    have hbehind : before ++ (docLines doc ++ (plain.text ++ [.char '\n'])) ++ members.text =
        before ++ (field doc plain members).text := by simp [text]
    rw [hsplit, plain.fieldsFrom_append, hfeed.fieldsFrom_behind, hzero, add_zero, hbefore,
      ih hends hdepth, hbehind, documented]
    split
    · rw [List.append_assoc]
    · rfl
  | nested doc name inner members ihinner ih =>
    obtain ⟨hdoc, hinner, hmembers⟩ := hends
    have hsplit : (nested doc name inner members).text ++ rest =
        docLines doc ++ (opening name ++ (inner.text ++ (closing ++ (members.text ++ rest)))) := by
      simp [text]
    have hbefore : before ++ docLines doc ++ opening name ++ inner.text ++ closing =
        before ++ (docLines doc ++ (opening name ++ (inner.text ++ closing))) := by simp
    have hbehind : before ++ (docLines doc ++ (opening name ++ (inner.text ++ closing))) ++
        members.text = before ++ (nested doc name inner members).text := by simp [text]
    rw [hsplit, fieldsFrom_docLines hdoc, (plainCode_opening name).fieldsFrom_behind,
      braceDepth_opening, ihinner hinner (by omega), if_neg (by omega), List.nil_append,
      plainCode_closing.fieldsFrom_behind, braceDepth_closing, Int.add_neg_cancel_right, hbefore,
      ih hmembers hdepth, hbehind, documented]

end Members

/-! ## Plain classes -/

/-- **The scan of a class** finds its name and the documented fields among its own members. -/
theorem scan_plainClass (name : TypeName) (members : Members) (hends : members.EndsPlain) :
    let unit := CompilationUnit.scan (classText name members)
    unit.className = some name.text ∧ unit.fields = members.documented (opening name) := by
  intro unit
  have hopening := plainCode_opening name
  constructor
  · change typeFrom? false (blank (opening name ++ _)) = _
    rw [hopening.settled.blank_append, hopening.blank_eq]
    exact typeFrom?_of_typeAt? (name.typeAt?_opening _)
  · change fieldsFrom 0 0 (lineBehind []) (opening name ++ (members.text ++ closing))
      (blank (opening name ++ (members.text ++ closing))) = _
    have hclosing : ∀ line, fieldsFrom 0 1 line closing (blank closing) = [] := fun _ => rfl
    rw [hopening.fieldsFrom_behind, braceDepth_opening, zero_add, List.nil_append,
      members.fieldsFrom_append hends le_rfl, if_pos rfl, hclosing, List.append_nil]

/-- Members of every kind: a field, a nested class with a comment that holds another one, in which a
class is nested without a comment, and a field whose type and name are modifiers. -/
def sampleMembers : Members :=
  .field (some ⟨" \x7b \"1-a ", by decide, by decide⟩)
    ⟨["private", "final"], "int", "kind", by decide, by decide, by decide⟩
    (.nested (some ⟨"\n/** 2-b ", by decide, by decide⟩) ⟨"B", by decide⟩
      (.nested none ⟨"C", by decide⟩
        (.field (some ⟨"", by decide, by decide⟩)
          ⟨[], "T", "n", by decide, by decide, by decide⟩ .nil)
        .nil)
      (.field none ⟨[], "T", "m", by decide, by decide, by decide⟩
        (.field (some ⟨" /*", by decide, by decide⟩)
          ⟨["static"], "final", "static", by decide, by decide, by decide⟩ .nil)))

theorem scan_plainClass_sample :
    let unit := CompilationUnit.scan (classText ⟨"A", by decide⟩ sampleMembers)
    sampleMembers.EndsPlain ∧ unit.className = some ("A" : Text) ∧
      unit.fields = [⟨"kind", "/** \x7b \"1-a */", 3⟩, ⟨"static", "/** /**/", 14⟩] := by
  intro unit
  have hends : sampleMembers.EndsPlain := by decide
  obtain ⟨hname, hfields⟩ := scan_plainClass ⟨"A", by decide⟩ sampleMembers hends
  have hmembers : sampleMembers.documented (opening ⟨"A", by decide⟩) =
      [⟨"kind", "/** \x7b \"1-a */", 3⟩, ⟨"static", "/** /**/", 14⟩] := by decide
  exact ⟨hends, hname, hfields.trans hmembers⟩

/-- A nested class, with a comment that ends with an empty comment, and then more members. -/
def strayMembers (inner rest : Members) : Members :=
  .nested (some ⟨" /*", by decide, by decide⟩) ⟨"D", by decide⟩ inner rest

/-- A field, documented by `1-a`, and no further member. -/
def documentedField : Members :=
  .field (some ⟨" 1-a ", by decide, by decide⟩)
    ⟨[], "int", "x", by decide, by decide, by decide⟩ .nil

/-- The fields found in a class `C`. -/
def fieldsOfClass (members : Members) : List Field :=
  (CompilationUnit.scan (classText ⟨"C", by decide⟩ members)).fields

/-- A field of the nested class is reported, and a field below it is reported with another comment,
which starts above the nested class. -/
theorem not_documented :
    fieldsOfClass (strayMembers documentedField .nil) =
        [⟨"x", "/**/\nclass D \x7b\n/** 1-a */", 5⟩] ∧
      (strayMembers documentedField .nil).documented (opening ⟨"C", by decide⟩) = [] ∧
      fieldsOfClass (strayMembers .nil documentedField) =
        [⟨"x", "/**/\nclass D \x7b\n\x7d\n/** 1-a */", 6⟩] ∧
      (strayMembers .nil documentedField).documented (opening ⟨"C", by decide⟩) =
        [⟨"x", "/** 1-a */", 6⟩] := by
  decide

end DocEnum.Java
