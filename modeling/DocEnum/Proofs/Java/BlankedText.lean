import Mathlib
import DocEnum.Proofs.Java.Blanking

/-!
# Blanked texts

No noise is left in a blanked text: blanking it again changes nothing.

**Masks** (`Masked`). A blanked text is its text with some characters masked by spaces. No line feed
is masked, and behind a masked backslash stands a space or the end of a line. The second condition
holds since a token is masked as a whole, and it ends with a slash, with a quote or at the end of a
line (`token_end`).

**No token opens under a mask.** A comment or a literal that is closed under a mask is closed in the
text itself (`Masked.blockLength?_eq_none`, `Masked.literalLength?_eq_none`). So no token opens at a
character of code, where none opens in the text (`pieces_blank`). Without the condition on
backslashes this fails: a quote behind a masked backslash would close a literal.

Main result: `blank_projects`.
-/

namespace DocEnum.Java

variable {t b rest token : Text} {n : Nat}

/-! ## Ends of tokens -/

theorem getLast?_take_blockLength? (h : blockLength? t = some n) :
    (t.take n).getLast? = some (.char '/') := by
  fun_induction blockLength? t generalizing n with
  | case1 => cases h
  | case2 rest =>
    obtain rfl := Option.some.inj h
    rfl
  | case3 c rest _ ih =>
    obtain ⟨n', hn', rfl⟩ := Option.map_eq_some_iff.1 h
    rw [List.take_succ_cons, List.getLast?_cons, ih hn']
    rfl

theorem getLast?_take_literalLength? {quote : CodePoint} (h : literalLength? quote t = some n) :
    (t.take n).getLast? = some quote := by
  fun_induction literalLength? quote t generalizing n with
  | case1 => cases h
  | case2 => cases h
  | case3 c rest ih =>
    obtain ⟨n', hn', rfl⟩ := Option.map_eq_some_iff.1 h
    rw [List.take_succ_cons, List.take_succ_cons, List.getLast?_cons, List.getLast?_cons, ih hn']
    rfl
  | case4 c rest _ _ hquote =>
    obtain rfl := Option.some.inj h
    simpa using hquote
  | case5 => cases h
  | case6 c rest _ _ _ _ ih =>
    obtain ⟨n', hn', rfl⟩ := Option.map_eq_some_iff.1 h
    rw [List.take_succ_cons, List.getLast?_cons, ih hn']
    rfl

/-- How a token ends: with a sign that is no plain code, or at the end of its only line. -/
inductive TokenEnd (token rest : Text) : Prop
  | sign {c : CodePoint} (hlast : token.getLast? = some c) (hc : isPlainCode c = false)
  | line (hline : .char '\n' ∉ token) (hrest : ∀ c ∈ rest.head?, c = '\n')

theorem literal_end {quote : CodePoint} {rest : Text} (hquote : isPlainCode quote = false)
    (h : 0 < ((literalLength? quote rest).map (· + 1)).getD 0) :
    TokenEnd ((quote :: rest).take (((literalLength? quote rest).map (· + 1)).getD 0))
      ((quote :: rest).drop (((literalLength? quote rest).map (· + 1)).getD 0)) := by
  cases hlength : literalLength? quote rest with
  | none => simp [hlength] at h
  | some n =>
    have hlast : (quote :: rest.take n).getLast? = some quote := by
      rw [List.getLast?_cons, getLast?_take_literalLength? hlength]
      rfl
    exact .sign hlast hquote

theorem lineComment_end (rest : Text) :
    TokenEnd (.char '/' :: .char '/' :: rest.takeWhile (· != .char '\n'))
      (rest.dropWhile (· != .char '\n')) := by
  refine .line ?_ ?_
  · intro hmem
    have hfeed : .char '\n' ∈ rest.takeWhile (· != .char '\n') := by simpa using hmem
    exact absurd (List.mem_takeWhile_imp hfeed) (by decide)
  · intro c hc
    have hhead := List.head?_dropWhile_not (· != .char '\n') rest
    rw [Option.mem_def.1 hc] at hhead
    simpa using hhead

/-- **Every token ends** with a slash, with a quote or at the end of a line. -/
theorem token_end (h : 0 < tokenLength t) :
    TokenEnd (t.take (tokenLength t)) (t.drop (tokenLength t)) := by
  unfold tokenLength at h ⊢
  split at h
  · next rest =>
    cases hlength : blockLength? rest with
    | none => simp [hlength] at h
    | some n =>
      have hlast : (.char '/' :: .char '*' :: rest.take n).getLast? = some (.char '/') := by
        rw [List.getLast?_cons, List.getLast?_cons, getLast?_take_blockLength? hlength]
        rfl
      exact .sign hlast rfl
  · next rest =>
    show TokenEnd (.char '/' :: .char '/' :: rest.take _) (rest.drop _)
    rw [Text.take_length_takeWhile, Text.drop_length_takeWhile]
    exact lineComment_end rest
  · exact literal_end rfl h
  · exact literal_end rfl h
  · exact absurd h (Nat.lt_irrefl 0)

/-! ## Masks -/

/-- A text with some of its characters masked by spaces. -/
inductive Masked : Text → Text → Prop
  | nil : Masked [] []
  | keep (c : CodePoint) {t b : Text} (h : Masked t b) : Masked (c :: t) (c :: b)
  | mask {c : CodePoint} {t b : Text} (hfeed : c ≠ '\n')
      (hbackslash : c = '\\' → ∀ d ∈ b.head?, d = ' ' ∨ d = '\n') (h : Masked t b) :
      Masked (c :: t) (.char ' ' :: b)

namespace Masked

/-- What is not closed in a text is not closed under a mask. -/
theorem blockLength?_eq_none (h : Masked t b) (ht : blockLength? t = none) :
    blockLength? b = none := by
  -- A masked character is no sign, so that masking closes no comment.
  fun_induction blockLength? t generalizing b with
  | case1 =>
    cases h
    rfl
  | case2 => cases ht
  | case3 c rest hopen ih =>
    have hrest : blockLength? rest = none := Option.map_eq_none_iff.1 ht
    cases h with
    | @keep _ _ b h =>
      rw [blockLength?_cons, ih h hrest]
      · rfl
      · rintro ⟨rfl, hhead⟩
        cases h with
        | nil => cases hhead
        | @keep d rest b h =>
          obtain rfl : d = '/' := by simpa using hhead
          exact hopen rest rfl rfl
        | mask => simp at hhead
    | @mask _ _ b _ _ h =>
      rw [blockLength?_cons (by simp), ih h hrest]
      rfl

theorem literalLength?_space {quote : CodePoint} (hquote : isPlainCode quote = false) (b : Text) :
    literalLength? quote (.char ' ' :: b) = (literalLength? quote b).map (· + 1) := by
  have hspace : ' ' ≠ quote := by rintro rfl; cases hquote
  exact literalLength?_cons hspace (by decide) (by decide) b

theorem literalLength?_feed {quote : CodePoint} (hquote : isPlainCode quote = false) (b : Text) :
    literalLength? quote (.char '\n' :: b) = none := by
  have hfeed : '\n' ≠ quote := by rintro rfl; cases hquote
  rw [literalLength?]
  · simp [hfeed]
  all_goals simp

/-- Behind a masked backslash nothing closes: a space or a line feed comes first. -/
theorem literalLength?_masked_escape {quote : CodePoint} (hquote : isPlainCode quote = false)
    {c : CodePoint} (hc : c = ' ' ∨ c = '\n') {b : Text} (hb : literalLength? quote b = none) :
    literalLength? quote (.char ' ' :: c :: b) = none := by
  rw [literalLength?_space hquote]
  rcases hc with rfl | rfl
  · rw [literalLength?_space hquote, hb]
    rfl
  · rw [literalLength?_feed hquote]
    rfl

/-- What is not closed in a text is not closed under a mask. -/
theorem literalLength?_eq_none {quote : CodePoint} (hquote : isPlainCode quote = false)
    (h : Masked t b) (ht : literalLength? quote t = none) : literalLength? quote b = none := by
  have hskip := literalLength?_space hquote
  have hbreak := literalLength?_feed hquote
  fun_induction literalLength? quote t generalizing b with
  | case1 =>
    cases h
    rfl
  | case2 =>
    cases h with
    | keep _ h =>
      cases h
      rfl
    | mask _ _ h =>
      cases h
      rw [hskip]
      rfl
  | case3 c rest ih =>
    have hrest : literalLength? quote rest = none := Option.map_eq_none_iff.1 ht
    cases h with
    | keep _ h =>
      cases h with
      | keep _ h => rw [literalLength?, ih h hrest]; rfl
      | mask _ _ h => rw [literalLength?, ih h hrest]; rfl
    | @mask _ _ b _ hbackslash hmasked =>
      have hnext : ∃ d b', b = d :: b' ∧ Masked rest b' := by
        cases hmasked with
        | keep _ h => exact ⟨c, _, rfl, h⟩
        | mask _ _ h => exact ⟨' ', _, rfl, h⟩
      obtain ⟨d, b, rfl, h⟩ := hnext
      exact literalLength?_masked_escape hquote (hbackslash rfl d rfl) (ih h hrest)
  | case4 => cases ht
  | case5 c rest _ _ _ hc =>
    obtain rfl : c = '\n' := by simpa using hc
    cases h with
    | keep => exact hbreak _
    | mask hne => exact absurd rfl hne
  | case6 c rest hend hnext hc hc' ih =>
    have hrest : literalLength? quote rest = none := Option.map_eq_none_iff.1 ht
    have hbackslash : c ≠ '\\' := by
      rintro rfl
      cases rest with
      | nil => exact hend rfl rfl
      | cons d rest => exact hnext d rest rfl rfl
    cases h with
    | keep _ h =>
      rw [literalLength?_cons (by simpa using hc) (by simpa using hc') hbackslash, ih h hrest]
      rfl
    | mask _ _ h =>
      rw [hskip, ih h hrest]
      rfl

/-- **No token opens under a mask** where none opens in the text. -/
theorem tokenLength_eq_zero {c : CodePoint} (h : Masked t b) (hc : tokenLength (c :: t) = 0) :
    tokenLength (c :: b) = 0 := by
  by_cases hplain : isPlainCode c = true
  · exact tokenLength_of_isPlainCode hplain b
  -- Only a slash or a quote can begin a token.
  have hsign : c = '/' ∨ c = '"' ∨ c = '\'' := by
    simp only [isPlainCode, Bool.and_eq_true, bne_iff_ne, ne_eq] at hplain
    tauto
  rcases hsign with rfl | rfl | rfl
  · cases h with
    | nil => rfl
    | @keep d t b h =>
      by_cases hstar : d = '*'
      · subst hstar
        rw [tokenLength] at hc ⊢
        cases hlength : blockLength? t with
        | none => rw [h.blockLength?_eq_none hlength]; rfl
        | some n => simp [hlength] at hc
      by_cases hslash : d = '/'
      · subst hslash
        rw [tokenLength] at hc
        exact absurd hc (Nat.succ_ne_zero _)
      · rw [tokenLength]
        all_goals simp [hstar, hslash]
    | mask =>
      rw [tokenLength]
      all_goals simp
  · rw [tokenLength] at hc ⊢
    cases hlength : literalLength? '"' t with
    | none => rw [h.literalLength?_eq_none rfl hlength]; rfl
    | some n => simp [hlength] at hc
  · rw [tokenLength] at hc ⊢
    cases hlength : literalLength? '\'' t with
    | none => rw [h.literalLength?_eq_none rfl hlength]; rfl
    | some n => simp [hlength] at hc

theorem head?_eq_feed (h : Masked t b) (ht : ∀ c ∈ t.head?, c = '\n') :
    ∀ d ∈ b.head?, d = '\n' := by
  cases h with
  | nil => simp
  | keep c h => exact ht
  | mask hfeed => exact absurd (ht _ rfl) hfeed

/-- A masked character was no line feed, and is a space. -/
theorem forall₂ (h : Masked t b) :
    List.Forall₂ (fun (c d : CodePoint) => d = c ∨ c ≠ '\n' ∧ d = ' ') t b := by
  induction h with
  | nil => exact .nil
  | keep c _ ih => exact .cons (.inl rfl) ih
  | mask hfeed _ _ ih => exact .cons (.inr ⟨hfeed, rfl⟩) ih

theorem map_feed (h : Masked t b) : b.map (· == .char '\n') = t.map (· == .char '\n') := by
  induction h with
  | nil => rfl
  | keep c _ ih => rw [List.map_cons, List.map_cons, ih]
  | @mask c _ _ hfeed _ _ ih =>
    have hc : (c == '\n') = false := by simpa using hfeed
    rw [List.map_cons, List.map_cons, ih, hc]
    rfl

/-- **Line feeds stay** at their places. -/
theorem getElem?_eq_feed_iff (h : Masked t b) (place : Nat) :
    b[place]? = some (.char '\n') ↔ t[place]? = some (.char '\n') := by
  have hfeed : (b[place]?).map (· == .char '\n') = (t[place]?).map (· == .char '\n') := by
    rw [← List.getElem?_map, ← List.getElem?_map, h.map_feed]
  cases hb : b[place]? <;> cases ht : t[place]? <;> simp_all

/-- A token is masked in front of a masked rest. -/
theorem noise_append (h : Masked rest b)
    (hlast : token.getLast? = some (.char '\\') → ∀ d ∈ b.head?, d = ' ' ∨ d = '\n') :
    Masked (token ++ rest) ((Piece.noise token).blanked ++ b) := by
  induction token with
  | nil => exact h
  | cons c token ih =>
    have htoken : Masked (token ++ rest) ((Piece.noise token).blanked ++ b) := by
      refine ih fun hend => hlast ?_
      rw [List.getLast?_cons, hend]
      rfl
    show Masked (c :: (token ++ rest))
      ((if c == '\n' then c else ' ') :: ((Piece.noise token).blanked ++ b))
    by_cases hfeed : c = '\n'
    · rw [if_pos (by simpa using hfeed)]
      exact .keep c htoken
    rw [if_neg (by simpa using hfeed)]
    refine .mask hfeed ?_ htoken
    -- A masked backslash must not escape anything: what follows it is blank.
    rintro rfl
    cases token with
    | nil => exact hlast rfl
    | cons d token =>
      intro e he
      obtain rfl : (if d == '\n' then d else ' ') = e := by simpa [Piece.blanked] using he
      split
      · next hd => exact .inr (by simpa using hd)
      · exact .inl rfl

end Masked

/-! ## Blanking twice -/

/-- **A blanked text** is its text under a mask. -/
theorem masked_blank (t : Text) : Masked t (blank t) := by
  -- Induction on the pieces: code is kept, and a token of noise is masked as a whole.
  induction t using pieces_induction with
  | nil => exact .nil
  | cons piece rest hfirst ih =>
    rw [hfirst.blank_append]
    cases hfirst with
    | @code c => exact .keep c ih
    | @noise token hlength hne =>
      refine ih.noise_append ?_
      intro hlast
      have hpos : 0 < tokenLength (token ++ rest) := by
        rw [show tokenLength (token ++ rest) = token.length from hlength]
        exact List.length_pos_iff.2 hne
      have hend := token_end hpos
      rw [show tokenLength (token ++ rest) = token.length from hlength, List.take_left,
        List.drop_left] at hend
      cases hend with
      | sign hsign hc =>
        obtain rfl := Option.some.inj (hsign.symm.trans hlast)
        cases hc
      | line _ hrest => exact fun d hd => .inr (ih.head?_eq_feed hrest d hd)

theorem plainCode_blanked (token : Text) : PlainCode (Piece.noise token).blanked := by
  refine List.all_eq_true.2 ?_
  intro c hc
  obtain ⟨d, -, rfl⟩ := List.mem_map.1 hc
  split
  · next hd =>
    obtain rfl : d = '\n' := by simpa using hd
    rfl
  · rfl

/-- **No noise is left** in a blanked text. -/
theorem pieces_blank (t : Text) : pieces (blank t) = (blank t).map .code := by
  induction t using pieces_induction with
  | nil => rfl
  | cons piece rest hfirst ih =>
    rw [hfirst.blank_append]
    cases hfirst with
    | @code c hc =>
      have hfirst : IsFirst ((Piece.code c).text ++ blank rest) (.code c) :=
        .code ((masked_blank rest).tokenLength_eq_zero hc)
      show pieces ((Piece.code c).text ++ blank rest) = _
      rw [hfirst.pieces_append, ih]
      rfl
    | @noise token =>
      have hplain := plainCode_blanked token
      rw [hplain.settled, hplain.pieces_eq, ih, List.map_append]

/-- **Blanking twice is blanking once.** -/
theorem blank_blank (t : Text) : blank (blank t) = blank t :=
  blank_eq_of_pieces (pieces_blank t)

/-! ## Projection -/

/-- **Blanking is a projection** that keeps places. The blanked text is as long as the text, differs
from it only by spaces, and has its line feeds at the same places. Nothing in it opens a token, so
that blanking it again changes nothing. -/
theorem blank_projects (t : Text) :
    (blank t).length = t.length ∧
      List.Forall₂ (fun (c d : CodePoint) => d = c ∨ c ≠ '\n' ∧ d = ' ') t (blank t) ∧
      (∀ place : Nat, (blank t)[place]? = some (.char '\n') ↔ t[place]? = some (.char '\n')) ∧
      pieces (blank t) = (blank t).map .code ∧ blank (blank t) = blank t := by
  have hmasked := masked_blank t
  exact ⟨length_blank t, hmasked.forall₂, hmasked.getElem?_eq_feed_iff, pieces_blank t,
    blank_blank t⟩

end DocEnum.Java
