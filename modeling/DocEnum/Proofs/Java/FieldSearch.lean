import Mathlib
import DocEnum.Proofs.Java.Blanking
import DocEnum.Proofs.Java.Braces
import DocEnum.Proofs.Java.WrittenField

/-!
# The search for fields

How the search for fields gets through a text, stretch by stretch. Its state at a place is the depth
of braces, the line, and the number of characters still to skip.

**A stretch is passed** without a field if no declaration starts in it (`fieldsFrom_of_none`). A
stretch that is a declaration adds a field at depth one (`fieldsFrom_of_some`), and the search goes
on behind it.

**Any stretch** is passed, with some fields, if no declaration reaches over its end
(`exists_fieldsFrom_eq`). In each case depth and line are counted over the whole stretch.
-/

namespace DocEnum.Java

variable {s t cs code : Text} {depth : Int} {line : Nat}

theorem lineFeeds_append (s t : Text) : lineFeeds (s ++ t) = lineFeeds s + lineFeeds t :=
  List.count_append

theorem lineFeeds_cons (c : CodePoint) (t : Text) :
    lineFeeds (c :: t) = lineFeeds [c] + lineFeeds t :=
  lineFeeds_append [c] t

/-- The characters of a declaration are skipped. -/
theorem fieldsFrom_skip (hlength : cs.length = s.length) :
    fieldsFrom s.length depth line (s ++ t) (cs ++ code) =
      fieldsFrom 0 (depth + braceDepth cs) (line + lineFeeds s) t code := by
  induction s generalizing cs depth line with
  | nil =>
    obtain rfl := List.eq_nil_of_length_eq_zero hlength
    rw [braceDepth_nil, add_zero]
    rfl
  | cons c s ih =>
    obtain ⟨b, cs, rfl⟩ := List.exists_cons_of_length_eq_add_one hlength
    have hcs : cs.length = s.length := Nat.succ.inj hlength
    rw [List.length_cons, List.cons_append, List.cons_append, fieldsFrom, ih hcs,
      braceDepth_cons, lineFeeds_cons c s, add_assoc, add_assoc]

/-- **A stretch in which no declaration starts** has no fields. -/
theorem fieldsFrom_of_none (hlength : cs.length = s.length)
    (hnone : ∀ k < s.length, Declaration.at? ((s ++ t).drop k) = none) :
    fieldsFrom 0 depth line (s ++ t) (cs ++ code) =
      fieldsFrom 0 (depth + braceDepth cs) (line + lineFeeds s) t code := by
  -- Depth and line are carried along, so that they are generalized.
  induction s generalizing cs depth line with
  | nil =>
    obtain rfl := List.eq_nil_of_length_eq_zero hlength
    rw [braceDepth_nil, add_zero]
    rfl
  | cons c s ih =>
    obtain ⟨b, cs, rfl⟩ := List.exists_cons_of_length_eq_add_one hlength
    have hcs : cs.length = s.length := Nat.succ.inj hlength
    have hfirst : Declaration.at? (c :: (s ++ t)) = none := hnone 0 (Nat.succ_pos _)
    have hrest : ∀ k < s.length, Declaration.at? ((s ++ t).drop k) = none := by
      intro k hk
      exact hnone (k + 1) (Nat.succ_lt_succ hk)
    rw [List.cons_append, List.cons_append, fieldsFrom]
    simp only [hfirst]
    rw [ih hcs hrest, braceDepth_cons, lineFeeds_cons c s, add_assoc, add_assoc]

/-- **A stretch that is a declaration** has one field at depth one. -/
theorem fieldsFrom_of_some {found : Declaration} (hlength : cs.length = s.length) (hne : s ≠ [])
    (hfound : Declaration.at? (s ++ t) = some found) (hrest : found.rest = t) :
    fieldsFrom 0 depth line (s ++ t) (cs ++ code) =
      (if depth = 1 then [⟨found.name, found.doc,
        line + lineFeeds ((s ++ t).take ((s ++ t).length - found.fromName.length))⟩] else []) ++
        fieldsFrom 0 (depth + braceDepth cs) (line + lineFeeds s) t code := by
  obtain ⟨c, s, rfl⟩ := List.exists_cons_of_ne_nil hne
  obtain ⟨b, cs, rfl⟩ := List.exists_cons_of_length_eq_add_one hlength
  have hcs : cs.length = s.length := Nat.succ.inj hlength
  have hskip : (s ++ t).length - t.length = s.length := by
    rw [List.length_append, Nat.add_sub_cancel]
  rw [List.cons_append] at hfound
  rw [List.cons_append, List.cons_append, fieldsFrom]
  simp only [hfound, hrest, hskip]
  rw [fieldsFrom_skip hcs, braceDepth_cons, lineFeeds_cons c s, add_assoc, add_assoc]
  split <;> rfl

/-- No declaration that starts in a text reaches into the text behind it. -/
def EndsBefore (s t : Text) : Prop :=
  ∀ k < s.length, ∀ found, Declaration.at? ((s ++ t).drop k) = some found →
    t.length ≤ found.rest.length

/-- **Any stretch is passed**, if no declaration reaches over its end. -/
theorem exists_fieldsFrom_eq (hlength : cs.length = s.length) (hends : EndsBefore s t)
    (code : Text) (skip : Nat) (depth : Int) (line : Nat) (hskip : skip ≤ s.length) :
    ∃ fields, fieldsFrom skip depth line (s ++ t) (cs ++ code) =
      fields ++ fieldsFrom 0 (depth + braceDepth cs) (line + lineFeeds s) t code := by
  induction s generalizing cs depth line skip with
  | nil =>
    obtain rfl := List.eq_nil_of_length_eq_zero hlength
    obtain rfl : skip = 0 := Nat.le_zero.1 hskip
    rw [braceDepth_nil, add_zero]
    exact ⟨[], rfl⟩
  | cons c s ih =>
    obtain ⟨b, cs, rfl⟩ := List.exists_cons_of_length_eq_add_one hlength
    have hcs : cs.length = s.length := Nat.succ.inj hlength
    have hrest : EndsBefore s t := by
      intro k hk
      exact hends (k + 1) (Nat.succ_lt_succ hk)
    rw [List.cons_append, List.cons_append, braceDepth_cons, lineFeeds_cons c s, ← add_assoc,
      ← add_assoc]
    cases skip with
    | succ skip => exact ih hcs hrest skip _ _ (Nat.le_of_succ_le_succ hskip)
    | zero =>
      rw [fieldsFrom]
      split
      · exact ih hcs hrest 0 _ _ (Nat.zero_le _)
      · next found hfound =>
        -- The declaration ends before `t`, so that what is skipped lies in `s`.
        have hreach := hends 0 (Nat.succ_pos _) found hfound
        obtain ⟨fields, hfields⟩ := ih hcs hrest ((s ++ t).length - found.rest.length)
          (depth + braceStep b) (line + lineFeeds [c]) (by rw [List.length_append]; omega)
        simp only [hfields]
        split
        · exact ⟨_ :: fields, rfl⟩
        · exact ⟨fields, rfl⟩

/-! ## Settled stretches -/

/-- No declaration starts in plain code. -/
theorem PlainCode.at?_drop_eq_none (hs : PlainCode s) (t : Text) :
    ∀ k < s.length, Declaration.at? ((s ++ t).drop k) = none := by
  intro k hk
  obtain ⟨c, rest, hrest⟩ : ∃ c rest, s.drop k = c :: rest :=
    List.exists_cons_of_ne_nil (by simpa using hk)
  have hplain : isPlainCode c = true :=
    List.all_eq_true.1 hs c (List.mem_of_mem_drop (hrest ▸ List.mem_cons_self))
  rw [List.drop_append_of_le_length hk.le, hrest, List.cons_append]
  have hdoc : docLength? (c :: (rest ++ t)) = none := by
    by_contra hsome
    obtain ⟨n, hn⟩ := Option.ne_none_iff_exists'.1 hsome
    obtain ⟨inside, m, heq, -⟩ := exists_of_docLength? hn
    rw [(List.cons.inj heq).1] at hplain
    cases hplain
  rw [at?_eq, hdoc, Option.bind_none]

/-- **A settled stretch in which no declaration starts** is passed in text and code alike. -/
theorem Settled.fieldsFrom_append (hs : Settled s)
    (hnone : ∀ k < s.length, Declaration.at? ((s ++ t).drop k) = none) :
    fieldsFrom 0 depth line (s ++ t) (blank (s ++ t)) =
      fieldsFrom 0 (depth + braceDepth (blank s)) (line + lineFeeds s) t (blank t) := by
  rw [hs.blank_append, fieldsFrom_of_none (length_blank s) hnone]

theorem PlainCode.fieldsFrom_append (hs : PlainCode s) :
    fieldsFrom 0 depth line (s ++ t) (blank (s ++ t)) =
      fieldsFrom 0 (depth + braceDepth s) (line + lineFeeds s) t (blank t) := by
  rw [hs.settled.fieldsFrom_append (hs.at?_drop_eq_none t), hs.blank_eq]

/-! ## Written fields -/

namespace WrittenField

variable (field : WrittenField)

/-- The text of a field. -/
def text : Text :=
  field.before []

/-- The text of a field up to its name. -/
def toName : Text :=
  docComment field.body ++ (field.gap ++ (field.annotations ++ (field.modifiers ++
    (field.base ++ (field.arguments ++ (field.brackets ++ field.space))))))

theorem text_append (rest : Text) : field.text ++ rest = field.before rest := by
  simp [text, before, fromModifiers, fromType, fromBrackets, fromName]

theorem toName_append (rest : Text) : field.toName ++ field.fromName rest = field.before rest := by
  simp [toName, before, fromModifiers, fromType, fromBrackets]

/-- What the search reports of a field whose text starts in a line. -/
def reported (line : Nat) : Field :=
  ⟨field.name, docComment field.body, line + lineFeeds field.toName⟩

/-- **A written field is reported** at depth one. -/
theorem fieldsFrom_append (hlength : cs.length = field.text.length) (rest : Text) :
    fieldsFrom 0 depth line (field.text ++ rest) (cs ++ code) =
      (if depth = 1 then [field.reported line] else []) ++
        fieldsFrom 0 (depth + braceDepth cs) (line + lineFeeds field.text) rest code := by
  have hne : field.text ≠ [] := by simp [text, before, docComment]
  have hfound : Declaration.at? (field.text ++ rest) = some (field.declaration rest) := by
    rw [text_append]
    exact field.at?_before rest
  have htake : (field.text ++ rest).take ((field.text ++ rest).length -
      (field.declaration rest).fromName.length) = field.toName := by
    rw [text_append, ← toName_append, List.length_append, declaration, Nat.add_sub_cancel,
      List.take_left]
  rw [fieldsFrom_of_some hlength hne hfound rfl, htake]
  rfl

end WrittenField

end DocEnum.Java
