import DocEnum.Proofs.Descriptions
import DocEnum.Proofs.Encoding
import DocEnum.Proofs.Java.Occurrences
import DocEnum.Proofs.Java.ReadBack

/-!
# The characters of a source

A source is made of its frame, of the indent and of the descriptions in it, with backslashes and
quotes escaped. So a class of characters that holds the frame holds a source exactly if it holds the
descriptions (`all_render_iff`).

**Bytes.** A source has bytes if its indent and its descriptions have (`encodable_generate`). The
entries of a comment, or of a field of a source text, have them if these texts have
(`encodable_descriptions`, `encodable_doc`).
-/

namespace DocEnum

/-- A description is made of the characters of the comment. -/
theorem Entry.mem_of_mem_description {raw : Text} {entry : Entry} {c : CodePoint}
    (h : entry ∈ parse raw) (hc : c ∈ entry.description) : c ∈ raw := by
  obtain ⟨segment, hsegment, code, body, hlists, -, hdescription⟩ :=
    Entry.exists_lists_of_mem_parse h
  rw [hdescription] at hc
  have hbody := hlists.body_sublist.subset ((Entry.normalize_sublist body).subset hc)
  exact (Comment.mem_and_isSegmentChar_of_mem_segments_clean hsegment hbody).1

namespace Java

variable {style : Style} {request : Request} {p : CodePoint → Bool} {t : Text}

theorem all_escape_iff (hbackslash : p '\\' = true) :
    (escape t).all p = true ↔ t.all p = true := by
  induction t with
  | nil => exact Iff.rfl
  | cons c t ih =>
    have hescape : escape (c :: t) = escapeChar c ++ escape t := rfl
    rw [hescape, List.all_append, List.all_cons, Bool.and_eq_true, Bool.and_eq_true, ih]
    rcases escapeChar_cases c with ⟨-, heq⟩ | ⟨-, heq⟩
    · simp [heq, hbackslash]
    · simp [heq]

section Characters

variable (hp : ∀ c, isFrameChar c = true → p c = true)

include hp

theorem all_constant_iff (hbackslash : p '\\' = true) (hindent : style.indent.all p = true)
    {entry : Entry} (hname : isIdentifier entry.name = true) :
    (style.constant entry).all p = true ↔ entry.description.all p = true := by
  have hwords : ∀ {c}, isFrameChar c = true → p c = true := fun h => hp _ h
  have hliteral : (literal entry.description).all p = (escape entry.description).all p := by
    have hquote : ("\"" : Text) = [.char '"'] := rfl
    rw [literal, hquote]
    simp (disch := decide) only [List.all_append, List.all_cons, List.all_nil, hwords,
      Bool.true_and, Bool.and_true]
  refine Iff.trans ?_ (all_escape_iff hbackslash)
  rw [constant_eq]
  simp (disch := decide) only [List.all_append, List.all_cons, List.all_nil, hindent, hliteral,
    all_of_isIdentifier hp hname, all_ofInt hp, hwords, Bool.true_and, Bool.and_true]

/-- **A source is of a class of characters** that holds its frame and its indent, if and only if its
descriptions are. -/
theorem all_render_iff (hbackslash : p '\\' = true) (hfeed : p '\n' = true)
    (hindent : style.indent.all p = true) (hfault : fault? style request = none) :
    (render style request).all p = true ↔
      ∀ entry ∈ request.entries, entry.description.all p = true := by
  obtain ⟨-, -, -, -, hconstants⟩ := fault?_eq_none_iff.1 hfault
  have hnames := (constantFault?_eq_none_iff.1 hconstants).1
  have hconstant : ∀ entry ∈ request.entries, ∀ terminator : CodePoint,
      terminator = ';' ∨ terminator = ',' →
      ((style.constant entry ++ [terminator]).all p = true ↔
        entry.description.all p = true) := by
    intro entry hentry terminator hterminator
    have hsign : p terminator = true := by
      rcases hterminator with rfl | rfl <;> exact hp _ (by decide)
    rw [List.all_append, Bool.and_eq_true,
      all_constant_iff hp hbackslash hindent (hnames entry hentry)]
    simp [hsign]
  -- Every line but those of the constants passes by itself.
  have hlines : (render style request).all p = true ↔
      ∀ line ∈ style.sourceLines request, line.all p = true := by
    have hend : ("\n" : Text).all p = true := by simp [hfeed]
    rw [render, List.all_flatMap, List.all_eq_true]
    simp only [List.all_append, hend, Bool.and_true]
  rw [hlines, sourceLines_eq]
  simp only [List.forall_mem_append, List.forall_mem_cons, List.all_nil, true_and]
  constructor
  · rintro ⟨-, -, hall, -⟩ entry hentry
    obtain ⟨i, hi⟩ := List.mem_iff_getElem?.1 hentry
    have hline := getElem?_constants style request.entries i
    rw [hi, Option.map_some] at hline
    refine (hconstant entry hentry _ ?_).1 (hall _ (List.mem_of_getElem? hline))
    split
    · exact .inl rfl
    · exact .inr rfl
  · intro hall
    refine ⟨all_headerLines hp hfault, all_opening hp hfault, ?_, all_bodyLines hp hindent hfault⟩
    intro line hline
    obtain ⟨entry, hentry, terminator, hterminator, rfl⟩ := mem_constants hline
    exact (hconstant entry hentry terminator hterminator).2 (hall entry hentry)

end Characters

/-! ## Bytes -/

theorem isHalf_of_isFrameChar {c : CodePoint} (h : isFrameChar c = true) : (!c.isHalf) = true := by
  cases c with
  | char c => rfl
  | half unit =>
    have hmin : CodePoint.firstHalf ≤ (CodePoint.half unit).toNat := Nat.le_add_right _ _
    simp only [isFrameChar, CodePoint.firstHalf, Bool.and_eq_true, decide_eq_true_eq] at h hmin
    omega

theorem encodable_iff_all : Utf8.Encodable t ↔ t.all (fun c => !c.isHalf) = true := by
  simp [Utf8.Encodable]

theorem encodable_of_isIdentifier {name : Text} (h : isIdentifier name = true) :
    Utf8.Encodable name :=
  encodable_iff_all.2 (all_of_isIdentifier (fun _ => isHalf_of_isFrameChar) h)

/-- **A source has bytes** if its indent and its descriptions have. -/
theorem encodable_generate {content : Text} (h : generate style request = .ok content)
    (hindent : Utf8.Encodable style.indent)
    (hdescriptions : ∀ entry ∈ request.entries, Utf8.Encodable entry.description) :
    Utf8.Encodable content := by
  obtain ⟨hfault, rfl⟩ := generate_eq_ok_iff.1 h
  rw [encodable_iff_all] at hindent ⊢
  rw [all_render_iff (fun _ => isHalf_of_isFrameChar) rfl rfl hindent hfault]
  exact fun entry hentry => encodable_iff_all.1 (hdescriptions entry hentry)

theorem encodable_descriptions {raw : Text} (h : Utf8.Encodable raw) :
    ∀ entry ∈ Entry.parse raw, Utf8.Encodable entry.description :=
  fun _ hentry c hc => h c (Entry.mem_of_mem_description hentry hc)

/-- The comment of a field is a part of its text. -/
theorem encodable_doc {text : Text} {field : Field} (h : Utf8.Encodable text)
    (hfield : field ∈ (CompilationUnit.scan text).fields) : Utf8.Encodable field.doc := by
  obtain ⟨n, hn⟩ := exists_declaredAt hfield
  obtain ⟨found, hfound, -, hdoc⟩ := hn.declaration
  intro c hc
  rw [hdoc] at hc
  exact h c (List.mem_of_mem_drop ((Declaration.doc_prefix_of_at? hfound).subset hc))

end Java

end DocEnum
