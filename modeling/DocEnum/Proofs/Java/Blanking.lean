import Mathlib
import DocEnum.Proofs.Java.FieldDoc
import DocEnum.Proofs.Java.Reading

/-!
# Blanking part by part

A source text that is made of parts is blanked part by part, if no part leaves a token open.

**Settled parts** (`Settled`). The pieces of a settled text stay the same, whatever follows it.
Plain code is settled, and so is everything that ends where its own token ends: a comment with its
closing delimiter (`isToken_docComment`) and a literal with its closing quote (`isToken_literal`).
-/

namespace DocEnum.Java

variable {s t : Text}

/-! ## Settled texts -/

/-- The pieces of a text do not depend on what follows it. -/
def Settled (t : Text) : Prop :=
  ∀ rest, pieces (t ++ rest) = pieces t ++ pieces rest

theorem settled_nil : Settled [] := fun _ => rfl

theorem Settled.append (hs : Settled s) (ht : Settled t) : Settled (s ++ t) := by
  intro rest
  rw [List.append_assoc, hs, ht, hs t, List.append_assoc]

/-- **A settled text is blanked on its own.** -/
theorem Settled.blank_append (hs : Settled s) (rest : Text) :
    blank (s ++ rest) = blank s ++ blank rest := by
  rw [blank, hs rest, List.flatMap_append]
  rfl

/-! ### Code -/

/-- A character that opens no token. -/
def isPlainCode (c : CodePoint) : Bool :=
  c != '/' && c != '"' && c != '\''

/-- A text in which no token opens. -/
def PlainCode (t : Text) : Prop :=
  t.all isPlainCode = true

instance (t : Text) : Decidable (PlainCode t) :=
  inferInstanceAs (Decidable (_ = _))

theorem plainCode_append : PlainCode (s ++ t) ↔ PlainCode s ∧ PlainCode t := by
  simp [PlainCode]

theorem plainCode_cons {c : CodePoint} :
    PlainCode (c :: t) ↔ isPlainCode c = true ∧ PlainCode t := by
  simp [PlainCode]

theorem tokenLength_of_isPlainCode {c : CodePoint} (h : isPlainCode c = true) (rest : Text) :
    tokenLength (c :: rest) = 0 := by
  simp only [isPlainCode, Bool.and_eq_true, bne_iff_ne, ne_eq] at h
  obtain ⟨⟨hslash, hdouble⟩, hsingle⟩ := h
  unfold tokenLength
  split <;> simp_all

theorem pieces_cons_of_isPlainCode {c : CodePoint} (h : isPlainCode c = true) (rest : Text) :
    pieces (c :: rest) = .code c :: pieces rest := by
  rw [pieces, piecesFrom, tokenLength_of_isPlainCode h]
  rfl

theorem PlainCode.settled (h : PlainCode t) : Settled t := by
  induction t with
  | nil => exact settled_nil
  | cons c t ih =>
    rw [plainCode_cons] at h
    intro rest
    rw [List.cons_append, pieces_cons_of_isPlainCode h.1, pieces_cons_of_isPlainCode h.1, ih h.2,
      List.cons_append]

theorem PlainCode.pieces_eq (h : PlainCode t) : pieces t = t.map .code := by
  induction t with
  | nil => rfl
  | cons c t ih =>
    rw [plainCode_cons] at h
    rw [pieces_cons_of_isPlainCode h.1, ih h.2, List.map_cons]

/-- A text without noise is not changed by blanking. -/
theorem blank_eq_of_pieces (h : pieces t = t.map .code) : blank t = t := by
  rw [blank, h, List.flatMap_map]
  exact List.flatMap_singleton' t

/-- **Plain code is not changed by blanking.** -/
theorem PlainCode.blank_eq (h : PlainCode t) : blank t = t :=
  blank_eq_of_pieces h.pieces_eq

/-! ### Tokens -/

/-- A text that is one token, whatever follows it. -/
structure IsToken (token : Text) : Prop where
  ne_nil : token ≠ []
  tokenLength_append : ∀ rest, tokenLength (token ++ rest) = token.length

theorem IsToken.pieces_append {token : Text} (h : IsToken token) (rest : Text) :
    pieces (token ++ rest) = .noise token :: pieces rest := by
  have hfirst : IsFirst ((Piece.noise token).text ++ rest) (.noise token) :=
    .noise (h.tokenLength_append rest) h.ne_nil
  exact hfirst.pieces_append

theorem IsToken.pieces_eq {token : Text} (h : IsToken token) : pieces token = [.noise token] := by
  have hpieces := h.pieces_append []
  rwa [List.append_nil] at hpieces

theorem IsToken.settled {token : Text} (h : IsToken token) : Settled token := by
  intro rest
  rw [h.pieces_append, h.pieces_eq]
  rfl

theorem IsToken.blank_eq {token : Text} (h : IsToken token) :
    blank token = (Piece.noise token).blanked := by
  rw [blank, h.pieces_eq, List.flatMap_cons, List.flatMap_nil, List.append_nil]

/-! ### Comments -/

/-- A text can stand in a documentation comment: it does not end the comment. -/
structure IsDocBody (body : Text) : Prop where
  no_end : ¬[.char '*', .char '/'] <:+: body
  not_slash : body.head? ≠ some (.char '/')

/-- The documentation comment with the given text inside. -/
def docComment (body : Text) : Text :=
  .char '/' :: .char '*' :: .char '*' :: (body ++ [.char '*', .char '/'])

theorem blockLength?_cons {c : CodePoint} (h : ¬(c = '*' ∧ t.head? = some (.char '/'))) :
    blockLength? (c :: t) = (blockLength? t).map (· + 1) := by
  rw [blockLength?]
  rintro rest rfl rfl
  exact h ⟨rfl, rfl⟩

/-- A comment ends at the first closing delimiter. -/
theorem blockLength?_append {body : Text} (h : ¬[.char '*', .char '/'] <:+: body) (rest : Text) :
    blockLength? (body ++ .char '*' :: .char '/' :: rest) = some (body.length + 2) := by
  induction body with
  | nil => rfl
  | cons c body ih =>
    have hbody : ¬[.char '*', .char '/'] <:+: body := fun hmem => h (List.infix_cons hmem)
    have hopen : ¬(c = '*' ∧
        (body ++ .char '*' :: .char '/' :: rest).head? = some (.char '/')) := by
      rintro ⟨rfl, hhead⟩
      cases body with
      | nil => simp at hhead
      | cons d body =>
        obtain rfl : d = '/' := by simpa using hhead
        exact h ⟨[], body, rfl⟩
    rw [List.cons_append, blockLength?_cons hopen, ih hbody, List.length_cons]
    rfl

theorem exists_of_docLength? {n : Nat} (h : docLength? t = some n) :
    ∃ inside m, t = .char '/' :: .char '*' :: .char '*' :: inside ∧ blockLength? inside = some m ∧
      n = m + 3 := by
  unfold docLength? at h
  split at h
  · next inside =>
    obtain ⟨m, hm, rfl⟩ := Option.map_eq_some_iff.1 h
    exact ⟨inside, m, rfl, hm, rfl⟩
  · cases h

theorem docLength?_docComment {body : Text} (h : ¬[.char '*', .char '/'] <:+: body) (rest : Text) :
    docLength? (docComment body ++ rest) = some (docComment body).length := by
  have hlength := blockLength?_append h rest
  simp only [docComment, List.cons_append, List.append_assoc, List.nil_append]
  rw [docLength?, hlength]
  simp

/-- **A documentation comment is one token.** -/
theorem isToken_docComment {body : Text} (h : IsDocBody body) : IsToken (docComment body) where
  ne_nil := by simp [docComment]
  tokenLength_append := by
    intro rest
    have hopen : ¬[.char '*', .char '/'] <:+: .char '*' :: body := by
      intro hmem
      rcases List.infix_cons_iff.1 hmem with hprefix | hmem
      · obtain ⟨rest, hrest⟩ := hprefix
        have hbody : body = .char '/' :: rest := by simpa using hrest.symm
        exact h.not_slash (by rw [hbody]; rfl)
      · exact h.no_end hmem
    have hlength := blockLength?_append hopen rest
    simp only [docComment, List.cons_append, List.append_assoc, List.nil_append] at hlength ⊢
    rw [tokenLength, hlength]
    simp

/-! ### Literals -/

theorem literalLength?_cons {quote c : CodePoint} (hquote : c ≠ quote) (hfeed : c ≠ '\n')
    (hbackslash : c ≠ '\\') (t : Text) :
    literalLength? quote (c :: t) = (literalLength? quote t).map (· + 1) := by
  rw [literalLength?]
  · simp [hquote, hfeed]
  all_goals simp [hbackslash]

/-- A literal ends at the quote behind its escaped text. -/
theorem literalLength?_escape (h : .char '\n' ∉ t) (rest : Text) :
    literalLength? '"' (escape t ++ .char '"' :: rest) = some ((escape t).length + 1) := by
  induction t with
  | nil => rfl
  | cons c t ih =>
    rw [List.mem_cons, not_or] at h
    have ih := ih h.2
    rw [escape, List.flatMap_cons, ← escape, List.append_assoc]
    rcases escapeChar_cases c with ⟨-, heq⟩ | ⟨⟨hbackslash, hquote⟩, heq⟩
    · rw [heq, List.cons_append, List.singleton_append, literalLength?, ih]
      simp
    · rw [heq, List.singleton_append, literalLength?_cons hquote (Ne.symm h.1) hbackslash, ih]
      simp

/-- **A literal is one token**, if its text holds no line feed. -/
theorem isToken_literal (h : .char '\n' ∉ t) : IsToken (literal t) where
  ne_nil := by simp [literal]
  tokenLength_append := by
    intro rest
    have hlength := literalLength?_escape h rest
    have happend : escape t ++ ("\"" : Text) ++ rest = escape t ++ .char '"' :: rest := by simp
    rw [literal, List.cons_append, happend, tokenLength, hlength]
    simp

end DocEnum.Java
