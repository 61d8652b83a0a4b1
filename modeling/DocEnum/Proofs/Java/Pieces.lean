import Mathlib
import DocEnum.Java.Noise

/-!
# Pieces of a source text

Where the noise tokens of a source text lie.

**Suffixes.** The pieces of a text from the end of a piece on are the pieces of the rest of the text
(`pieces_of_suffix`). So the first piece of a rest is told by the rest alone (`pieces_eq_cons`).

**Induction.** A text that is not empty is a first piece and a rest, whose pieces come behind it
(`pieces_induction`).

**Places.** Every place in a text is inside one piece (`exists_piece_of_lt`), and the text and the
blanked text can be cut there (`drop_of_pieces`, `take_blank_of_pieces`).
-/

namespace DocEnum.Java

variable {t rest : Text} {piece : Piece} {ps before after : List Piece} {n : Nat}

/-! ## Tokens -/

theorem blockLength?_le (h : blockLength? t = some n) : n ≤ t.length := by
  fun_induction blockLength? t generalizing n with
  | case1 => cases h
  | case2 rest =>
    obtain rfl := Option.some.inj h
    simp
  | case3 c rest _ ih =>
    obtain ⟨n', hn', rfl⟩ := Option.map_eq_some_iff.1 h
    exact Nat.succ_le_succ (ih hn')

theorem two_le_blockLength? (h : blockLength? t = some n) : 2 ≤ n := by
  fun_induction blockLength? t generalizing n with
  | case1 => cases h
  | case2 rest =>
    obtain rfl := Option.some.inj h
    exact Nat.le_refl 2
  | case3 c rest _ ih =>
    obtain ⟨n', hn', rfl⟩ := Option.map_eq_some_iff.1 h
    exact Nat.le_succ_of_le (ih hn')

theorem literalLength?_le {quote : CodePoint} (h : literalLength? quote t = some n) :
    n ≤ t.length := by
  fun_induction literalLength? quote t generalizing n with
  | case1 => cases h
  | case2 => cases h
  | case3 c rest ih =>
    obtain ⟨n', hn', rfl⟩ := Option.map_eq_some_iff.1 h
    exact Nat.add_le_add_right (ih hn') 2
  | case4 =>
    obtain rfl := Option.some.inj h
    simp
  | case5 => cases h
  | case6 c rest _ _ _ _ ih =>
    obtain ⟨n', hn', rfl⟩ := Option.map_eq_some_iff.1 h
    exact Nat.succ_le_succ (ih hn')

theorem getD_map_le {found : Option Nat} {bound k : Nat} (h : ∀ n, found = some n → n ≤ bound) :
    (found.map (· + k)).getD 0 ≤ bound + k := by
  cases found with
  | none => exact Nat.zero_le _
  | some n => exact Nat.add_le_add_right (h n rfl) k

/-- A token is part of its text. -/
theorem tokenLength_le (t : Text) : tokenLength t ≤ t.length := by
  unfold tokenLength
  split
  · exact getD_map_le fun _ => blockLength?_le
  · next rest =>
    exact Nat.add_le_add_right (List.takeWhile_sublist (· != .char '\n') (l := rest)).length_le 2
  · exact getD_map_le fun _ => literalLength?_le
  · exact getD_map_le fun _ => literalLength?_le
  · exact Nat.zero_le _

/-! ## Suffixes -/

theorem piecesFrom_eq_pieces_drop (skip : Nat) (t : Text) :
    piecesFrom skip t = pieces (t.drop skip) := by
  fun_induction piecesFrom skip t with
  | case1 skip => simp [pieces, piecesFrom]
  | case2 skip c rest ih => simpa using ih
  | case3 c rest h => simp [pieces, piecesFrom, h]
  | case4 c rest n h => simp [pieces, piecesFrom, h]

/-- A piece is the first one of a text. -/
inductive IsFirst (t : Text) : Piece → Prop
  | code {c : CodePoint} (h : tokenLength t = 0) : IsFirst t (.code c)
  | noise {token : Text} (h : tokenLength t = token.length) (hne : token ≠ []) :
      IsFirst t (.noise token)

theorem pieces_eq_cons (h : pieces t = piece :: ps) :
    IsFirst t piece ∧ pieces (t.drop piece.text.length) = ps := by
  cases t with
  | nil => cases h
  | cons c rest =>
    unfold pieces at h
    rw [piecesFrom] at h
    split at h
    · next hlength =>
      obtain ⟨rfl, rfl⟩ := List.cons.inj h
      exact ⟨.code hlength, rfl⟩
    · next n hlength =>
      obtain ⟨rfl, rfl⟩ := List.cons.inj h
      have hle := tokenLength_le (c :: rest)
      have htake : ((c :: rest).take (n + 1)).length = n + 1 := by
        rw [List.length_take]
        omega
      refine ⟨.noise (by rw [htake, hlength]) (by simp), ?_⟩
      rw [Piece.text, htake, piecesFrom_eq_pieces_drop]
      rfl

/-- **The pieces of a suffix** are a suffix of the pieces. -/
theorem pieces_of_suffix (h : pieces t = before ++ after) :
    pieces (after.flatMap Piece.text) = after := by
  induction before generalizing t with
  | nil =>
    rw [← show pieces t = after from h, flatMap_text_pieces]
  | cons piece before ih => exact ih (pieces_eq_cons h).2

/-! ## First pieces -/

/-- A first piece in front of the pieces of the rest. -/
theorem IsFirst.pieces_append (h : IsFirst (piece.text ++ rest) piece) :
    pieces (piece.text ++ rest) = piece :: pieces rest := by
  cases h with
  | @code c h =>
    show pieces (c :: rest) = _
    rw [pieces, piecesFrom, show tokenLength (c :: rest) = 0 from h]
    rfl
  | @noise token h hne =>
    obtain ⟨c, token, rfl⟩ := List.exists_cons_of_ne_nil hne
    show pieces (c :: (token ++ rest)) = _
    rw [pieces, piecesFrom, show tokenLength (c :: (token ++ rest)) = token.length + 1 from h]
    show Piece.noise ((c :: (token ++ rest)).take (token.length + 1)) ::
      piecesFrom token.length (token ++ rest) = _
    rw [piecesFrom_eq_pieces_drop, List.drop_left, List.take_succ_cons, List.take_left]

theorem IsFirst.blank_append (h : IsFirst (piece.text ++ rest) piece) :
    blank (piece.text ++ rest) = piece.blanked ++ blank rest := by
  rw [blank, h.pieces_append, List.flatMap_cons]
  rfl

/-- **Induction over the pieces** of a text. -/
theorem pieces_induction {P : Text → Prop} (nil : P [])
    (cons : ∀ piece rest, IsFirst (piece.text ++ rest) piece → P rest → P (piece.text ++ rest))
    (t : Text) : P t := by
  -- The pieces of the rest are the rest of the pieces, so that the list carries the induction.
  have h : ∀ ps t, pieces t = ps → P t := by
    intro ps
    induction ps with
    | nil =>
      intro t ht
      have htext := flatMap_text_pieces t
      rw [ht] at htext
      exact htext ▸ nil
    | cons piece ps ih =>
      intro t ht
      have htext : piece.text ++ t.drop piece.text.length = t := by
        have hwhole := flatMap_text_pieces t
        rw [ht, List.flatMap_cons] at hwhole
        rw [← hwhole, List.drop_left]
      obtain ⟨hfirst, hps⟩ := pieces_eq_cons ht
      rw [← htext] at hfirst ⊢
      exact cons piece _ hfirst (ih _ hps)
  exact h (pieces t) t rfl

/-! ## Places -/

/-- **Every place** of a text is inside one piece. -/
theorem exists_piece_of_lt (h : n < (ps.flatMap Piece.text).length) :
    ∃ before piece after k, ps = before ++ piece :: after ∧ k < piece.text.length ∧
      n = (before.flatMap Piece.text).length + k := by
  induction ps generalizing n with
  | nil => cases h
  | cons piece ps ih =>
    by_cases hn : n < piece.text.length
    · exact ⟨[], piece, ps, n, rfl, hn, by simp⟩
    · rw [List.flatMap_cons, List.length_append] at h
      obtain ⟨before, found, after, k, rfl, hk, hn'⟩ := ih (n := n - piece.text.length) (by omega)
      refine ⟨piece :: before, found, after, k, rfl, hk, ?_⟩
      rw [List.flatMap_cons, List.length_append]
      omega

theorem length_flatMap_blanked (ps : List Piece) :
    (ps.flatMap Piece.blanked).length = (ps.flatMap Piece.text).length := by
  simp [List.length_flatMap, Piece.length_blanked]

theorem drop_of_pieces (h : pieces t = before ++ piece :: after) {k : Nat}
    (hk : k ≤ piece.text.length) :
    t.drop ((before.flatMap Piece.text).length + k) =
      piece.text.drop k ++ after.flatMap Piece.text := by
  have htext := flatMap_text_pieces t
  rw [h, List.flatMap_append, List.flatMap_cons] at htext
  rw [← htext, List.drop_length_add_append, List.drop_append_of_le_length hk]

theorem take_blank_of_pieces (h : pieces t = before ++ piece :: after) {k : Nat}
    (hk : k ≤ piece.text.length) :
    (blank t).take ((before.flatMap Piece.text).length + k) =
      before.flatMap Piece.blanked ++ piece.blanked.take k := by
  rw [← Piece.length_blanked] at hk
  unfold blank
  rw [h, List.flatMap_append, List.flatMap_cons, ← length_flatMap_blanked,
    List.take_length_add_append, List.take_append_of_le_length hk]

end DocEnum.Java
