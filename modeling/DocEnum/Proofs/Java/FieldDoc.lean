import Mathlib
import DocEnum.Java.CompilationUnit
import DocEnum.Proofs.Java.Pieces

/-!
# Documentation of fields

Where the doc of a field stands in the source text.

Fields are looked for in the raw text, braces are counted in the blanked text. So the doc of a field
need not be a comment: it may stand in a literal or in another comment (`stray_docs`).

**Theorem (`doc_token_or_astray`).** The doc of a field starts in a noise token at brace depth one,
never in code. It is exactly this token, unless it starts behind the first character of the token,
or the token is the empty comment; then the doc goes on to the next end of a comment.

A declaration is tried at every place, and a place is inside one piece. A doc that starts with a
piece opens like a block comment, so this piece is a token. Both end at the first end of a comment
they see. The doc looks for it one character later, which matters for the empty comment only
(`tokenLength_of_docLength?`).

**Plain texts** (`IsPlain`). Where no doc is opened inside a token and there is no empty comment,
every doc is a token (`doc_mem_pieces`).
-/

namespace DocEnum.Java

variable {text t : Text} {found : Declaration} {field : Field}

/-! ## Declarations -/

/-- The end of a declaration keeps the doc and starts with the name. -/
theorem Declaration.doc_and_name_of_ending? {doc : Text} (h : ending? doc t = some found) :
    found.doc = doc ∧ nameAt? found.fromName = some found.name := by
  unfold ending? at h
  simp only [Option.bind_eq_bind, Option.bind_eq_some_iff, Option.pure_def, Option.some.injEq] at h
  obtain ⟨fromName, -, name, hname, rest, -, rfl⟩ := h
  exact ⟨rfl, hname⟩

/-- A declaration starts with its documentation comment and ends in a name. -/
theorem Declaration.doc_and_name_of_at? (h : at? t = some found) :
    (∃ length, docLength? t = some length ∧ found.doc = t.take length) ∧
      nameAt? found.fromName = some found.name := by
  unfold at? at h
  simp only [Option.bind_eq_bind, Option.bind_eq_some_iff] at h
  obtain ⟨length, hlength, h⟩ := h
  obtain ⟨_, -, h⟩ := List.exists_of_findSome?_eq_some h
  obtain ⟨_, -, h⟩ := List.exists_of_findSome?_eq_some h
  obtain ⟨_, -, h⟩ := List.exists_of_findSome?_eq_some h
  obtain ⟨hdoc, hname⟩ := doc_and_name_of_ending? h
  exact ⟨⟨length, hlength, hdoc⟩, hname⟩

theorem Declaration.doc_of_at? (h : at? t = some found) :
    ∃ length, docLength? t = some length ∧ found.doc = t.take length :=
  (doc_and_name_of_at? h).1

theorem Declaration.nameAt?_of_at? (h : at? t = some found) :
    nameAt? found.fromName = some found.name :=
  (doc_and_name_of_at? h).2

/-! ## Comments -/

/-- The comment that is closed as soon as it is opened. -/
def emptyComment : Text :=
  "/**/"

theorem blockLength?_star {c : CodePoint} (hc : c ≠ '/') (rest : Text) :
    blockLength? (.char '*' :: c :: rest) = (blockLength? (c :: rest)).map (· + 1) := by
  rw [blockLength?]
  intro _ _ h
  exact hc (List.cons.inj h).1

/-- A documentation comment is a token, unless it starts with a closed comment. -/
theorem tokenLength_of_docLength? {length : Nat} (h : docLength? t = some length) :
    (emptyComment <+: t ∧ tokenLength t = emptyComment.length ∧ emptyComment.length < length) ∨
      ¬emptyComment <+: t ∧ tokenLength t = length := by
  unfold docLength? at h
  split at h
  · next rest =>
    obtain ⟨n, hn, rfl⟩ := Option.map_eq_some_iff.1 h
    -- The token may end with the second star, the doc only behind it.
    cases rest with
    | nil => cases hn
    | cons c rest =>
      by_cases hc : c = '/'
      · subst hc
        have htwo := two_le_blockLength? hn
        refine .inl ⟨⟨rest, rfl⟩, rfl, ?_⟩
        change 4 < n + 3
        omega
      · refine .inr ⟨?_, ?_⟩
        · rintro ⟨rest', hrest'⟩
          simp [emptyComment, Ne.symm hc] at hrest'
        · rw [tokenLength, blockLength?_star hc, hn]
          rfl
  · cases h

theorem docLength?_le {length : Nat} (h : docLength? t = some length) : length ≤ t.length := by
  unfold docLength? at h
  split at h
  · obtain ⟨n, hn, rfl⟩ := Option.map_eq_some_iff.1 h
    exact Nat.add_le_add_right (blockLength?_le hn) 3
  · cases h

theorem docLength?_pos {length : Nat} (h : docLength? t = some length) : 0 < length := by
  unfold docLength? at h
  split at h
  · obtain ⟨n, -, rfl⟩ := Option.map_eq_some_iff.1 h
    exact Nat.succ_pos _
  · cases h

/-- A documentation comment does not start with code. -/
theorem tokenLength_ne_zero {length : Nat} (h : docLength? t = some length) :
    tokenLength t ≠ 0 := by
  have hpos := docLength?_pos h
  rcases tokenLength_of_docLength? h with ⟨-, htoken, -⟩ | ⟨-, htoken⟩
  · rw [htoken]
    decide
  · omega

/-! ## Fields -/

/-- The depth of braces after some code. -/
def braceDepth (code : Text) : Int :=
  (code.map braceStep).sum

/-- A field is declared at a place of a text, at depth one. -/
structure DeclaredAt (depth : Int) (text code : Text) (n : Nat) (field : Field) : Prop where
  lt_length : n < text.length
  declaration : ∃ found, Declaration.at? (text.drop n) = some found ∧
    field.name = found.name ∧ field.doc = found.doc
  depth_eq : depth + braceDepth (code.take n) = 1

/-- A place moves on with the text in front of it. -/
theorem DeclaredAt.cons {depth : Int} {code : Text} {n : Nat} {b c : CodePoint}
    (h : DeclaredAt (depth + braceStep b) text code n field) :
    DeclaredAt depth (c :: text) (b :: code) (n + 1) field where
  lt_length := Nat.succ_lt_succ h.lt_length
  declaration := h.declaration
  depth_eq := by
    have hdepth := h.depth_eq
    simp only [braceDepth, List.take_succ_cons, List.map_cons, List.sum_cons] at hdepth ⊢
    omega

/-- **Every field** is declared somewhere at depth one. What is skipped after a declaration counts
for the depth like all other code. -/
theorem exists_declaredAt {skip line : Nat} {depth : Int} {code : Text}
    (h : field ∈ fieldsFrom skip depth line text code) :
    ∃ n, DeclaredAt depth text code n field := by
  fun_induction fieldsFrom skip depth line text code with
  | case1 depth line c text b code depth' line' skip ih =>
    obtain ⟨n, hn⟩ := ih h
    exact ⟨n + 1, hn.cons⟩
  | case2 depth line c text b code depth' line' hnone ih =>
    obtain ⟨n, hn⟩ := ih h
    exact ⟨n + 1, hn.cons⟩
  | case3 line c text b code line' found hfound before depth' fields ih =>
    rcases List.mem_cons.1 h with rfl | h
    · exact ⟨0, Nat.succ_pos _, ⟨found, hfound, rfl, rfl⟩, rfl⟩
    · obtain ⟨n, hn⟩ := ih h
      exact ⟨n + 1, hn.cons⟩
  | case4 depth line c text b code depth' line' found hfound fields hdepth ih =>
    obtain ⟨n, hn⟩ := ih h
    exact ⟨n + 1, hn.cons⟩
  | case5 => cases h

/-! ## Tokens and fields -/

/-- The declaration of a field starts some characters into a token, at depth one. -/
structure StartsIn (text : Text) (before : List Piece) (token : Text) (after : List Piece) (k : Nat)
    (field : Field) : Prop where
  pieces_eq : pieces text = before ++ .noise token :: after
  lt_length : k < token.length
  declaration : ∃ found, Declaration.at? (token.drop k ++ after.flatMap Piece.text) = some found ∧
    field.name = found.name ∧ field.doc = found.doc
  depth_eq : braceDepth (before.flatMap Piece.blanked) = 1

theorem braceDepth_append (code code' : Text) :
    braceDepth (code ++ code') = braceDepth code + braceDepth code' := by
  simp [braceDepth]

/-- Blanked noise has no braces. -/
theorem braceDepth_blanked (token : Text) (k : Nat) :
    braceDepth ((Piece.noise token).blanked.take k) = 0 := by
  refine List.sum_eq_zero fun step hstep => ?_
  obtain ⟨b, hb, rfl⟩ := List.mem_map.1 hstep
  obtain ⟨c, -, rfl⟩ := List.mem_map.1 (List.mem_of_mem_take hb)
  by_cases hc : (c == '\n') = true
  · obtain rfl : c = '\n' := by simpa using hc
    rfl
  · rw [if_neg hc]
    rfl

/-- **Every field** starts in a token. -/
theorem exists_startsIn (h : field ∈ (CompilationUnit.scan text).fields) :
    ∃ before token after k, StartsIn text before token after k field := by
  obtain ⟨n, hn⟩ := exists_declaredAt h
  have hlt : n < ((pieces text).flatMap Piece.text).length := by
    rw [flatMap_text_pieces]
    exact hn.lt_length
  obtain ⟨before, piece, after, k, hpieces, hk, rfl⟩ := exists_piece_of_lt hlt
  obtain ⟨found, hfound, hname, hdoc⟩ := hn.declaration
  rw [drop_of_pieces hpieces hk.le] at hfound
  have hdepth := hn.depth_eq
  rw [take_blank_of_pieces hpieces hk.le] at hdepth
  -- A documentation comment begins no piece of code, so that the place lies in a token.
  cases piece with
  | code c =>
    obtain ⟨length, hlength, -⟩ := Declaration.doc_of_at? hfound
    obtain rfl : k = 0 := Nat.lt_one_iff.1 hk
    cases (pieces_eq_cons (pieces_of_suffix hpieces)).1 with
    | code hzero => exact absurd hzero (tokenLength_ne_zero hlength)
  | noise token =>
    rw [braceDepth_append, braceDepth_blanked] at hdepth
    rw [zero_add, add_zero] at hdepth
    exact ⟨before, token, after, k, hpieces, hk, ⟨found, hfound, hname, hdoc⟩, hdepth⟩

/-- A doc that starts where a token does is this token, unless it goes on after an empty comment. -/
theorem StartsIn.doc_cases {before after : List Piece} {token : Text}
    (h : StartsIn text before token after 0 field) :
    (token ≠ emptyComment ∧ field.doc = token) ∨
      (token = emptyComment ∧ ∃ rest, rest ≠ [] ∧ field.doc = token ++ rest ∧
        rest <+: after.flatMap Piece.text) := by
  obtain ⟨found, hfound, -, hdoc⟩ := h.declaration
  obtain ⟨length, hlength, htake⟩ := Declaration.doc_of_at? hfound
  rw [List.drop_zero] at hlength htake
  have hle := docLength?_le hlength
  rw [List.length_append] at hle
  cases (pieces_eq_cons (pieces_of_suffix h.pieces_eq)).1 with
  | noise htoken hne =>
    rw [List.flatMap_cons, Piece.text] at htoken
    -- After the empty comment the doc reads on to the next closing sign, past its token's end.
    rcases tokenLength_of_docLength? hlength with ⟨hempty, hfour, hlt⟩ | ⟨hempty, heq⟩
    · have hsame : token.length = emptyComment.length := htoken.symm.trans hfour
      have htoken : emptyComment = token :=
        (List.prefix_of_prefix_length_le hempty (List.prefix_append token _)
          hsame.ge).eq_of_length hsame.symm
      refine .inr ⟨htoken.symm, (after.flatMap Piece.text).take (length - token.length), ?_, ?_,
        List.take_prefix _ _⟩
      · rw [← List.length_pos_iff, List.length_take]
        omega
      · have htake' : token.take length = token := List.take_of_length_le (by omega)
        rw [hdoc, htake, List.take_append, htake']
    · have hsame : token.length = length := htoken.symm.trans heq
      refine .inl ⟨?_, ?_⟩
      · rintro rfl
        exact hempty (List.prefix_append _ _)
      · rw [hdoc, htake, ← hsame, List.take_left]

/-- **The doc of a field** is one token, unless it starts inside a token or with an empty
comment. -/
theorem doc_token_or_astray (h : field ∈ (CompilationUnit.scan text).fields) :
    ∃ before token after k, StartsIn text before token after k field ∧
      (0 < k ∨ (token ≠ emptyComment ∧ field.doc = token) ∨
        token = emptyComment ∧ ∃ rest, rest ≠ [] ∧ field.doc = token ++ rest ∧
          rest <+: after.flatMap Piece.text) := by
  obtain ⟨before, token, after, k, hstarts⟩ := exists_startsIn h
  refine ⟨before, token, after, k, hstarts, ?_⟩
  rcases Nat.eq_zero_or_pos k with rfl | hpos
  · exact .inr hstarts.doc_cases
  · exact .inl hpos

/-- The doc of the only field is a token. -/
theorem doc_token_or_astray_only :
    let text : Text := "class A \x7b/** 1-a */ int x;\x7d"
    let field : Field := ⟨"x", "/** 1-a */", 1⟩
    field ∈ (CompilationUnit.scan text).fields ∧
      ∃ before token after k, StartsIn text before token after k field ∧
        (0 < k ∨ (token ≠ emptyComment ∧ field.doc = token) ∨
          token = emptyComment ∧ ∃ rest, rest ≠ [] ∧ field.doc = token ++ rest ∧
            rest <+: after.flatMap Piece.text) := by
  intro text field
  have hmem : field ∈ (CompilationUnit.scan text).fields := by decide
  exact ⟨hmem, doc_token_or_astray hmem⟩

/-- A text with a field whose doc is no token. -/
def HasStrayDoc (text : Text) : Prop :=
  ∃ field ∈ (CompilationUnit.scan text).fields, Piece.noise field.doc ∉ pieces text

/-- A field in a line comment, in a literal and in a block comment, and a doc that goes on through
code after an empty comment. -/
theorem stray_docs :
    HasStrayDoc "class A \x7b\n  // /** 0-off */ int kind;\n\x7d" ∧
      HasStrayDoc "class A \x7b\n  String s = \"/** 0-off */ int kind;\";\n\x7d" ∧
      HasStrayDoc "class A \x7b\n  /* /** 0-off */ int kind;\n\x7d" ∧
      HasStrayDoc "class A \x7b\n  /**/ int a; /** 0-off */ int kind;\n\x7d" := by
  unfold HasStrayDoc
  decide

/-! ### Plain texts -/

/-- A text without empty comments in which no documentation comment opens inside a token. -/
structure IsPlain (text : Text) : Prop where
  no_empty : Piece.noise emptyComment ∉ pieces text
  no_hidden : ∀ before token after k, pieces text = before ++ .noise token :: after →
    0 < k → k < token.length → docLength? (token.drop k ++ after.flatMap Piece.text) = none

/-- **In a plain text** every doc is one token. -/
theorem doc_mem_pieces (hplain : IsPlain text) (h : field ∈ (CompilationUnit.scan text).fields) :
    Piece.noise field.doc ∈ pieces text := by
  obtain ⟨before, token, after, k, hstarts⟩ := exists_startsIn h
  rcases Nat.eq_zero_or_pos k with rfl | hpos
  · rcases hstarts.doc_cases with ⟨-, hdoc⟩ | ⟨rfl, -⟩
    · rw [hdoc, hstarts.pieces_eq]
      exact List.mem_append_right _ List.mem_cons_self
    · refine absurd ?_ hplain.no_empty
      rw [hstarts.pieces_eq]
      exact List.mem_append_right _ List.mem_cons_self
  · obtain ⟨found, hfound, -⟩ := hstarts.declaration
    obtain ⟨length, hlength, -⟩ := Declaration.doc_of_at? hfound
    rw [hplain.no_hidden before token after k hstarts.pieces_eq hpos hstarts.lt_length] at hlength
    cases hlength

end DocEnum.Java
