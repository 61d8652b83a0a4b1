import DocEnum.Text.Basic

/-!
# Noise

Comments and literals are noise to a reader who looks for braces and declarations.

**Pieces.** `pieces` cuts a source text from the left into noise tokens and single characters of
code. A token is a block comment, a line comment, or a string or character literal on one line. A
comment or literal that is never closed is no token: its first character is code.

**Blanking.** `blank` puts a space for every character of a token but keeps line feeds, so every
offset and every line number stays: the pieces make up the text (`flatMap_text_pieces`), and
blanking keeps its length (`length_blank`).
-/

namespace DocEnum.Java

/-! ## Tokens -/

/-- The length of a block comment after its opening. -/
def blockLength? : Text → Option Nat
  | [] => none
  | '*' :: '/' :: _ => some 2
  | _ :: rest => (blockLength? rest).map (· + 1)

/-- The length of a literal after its opening quote. A backslash takes the next character with
it; a line feed of its own ends the search. -/
def literalLength? (quote : CodePoint) : Text → Option Nat
  | [] => none
  | ['\\'] => none
  | '\\' :: _ :: rest => (literalLength? quote rest).map (· + 2)
  | c :: rest =>
    if c == quote then some 1
    else if c == '\n' then none
    else (literalLength? quote rest).map (· + 1)

/-- The length of the noise token at the start of a text, zero for none. -/
def tokenLength : Text → Nat
  | '/' :: '*' :: rest => ((blockLength? rest).map (· + 2)).getD 0
  | '/' :: '/' :: rest => (rest.takeWhile (· != .char '\n')).length + 2
  | '"' :: rest => ((literalLength? '"' rest).map (· + 1)).getD 0
  | '\'' :: rest => ((literalLength? '\'' rest).map (· + 1)).getD 0
  | _ => 0

/-! ## Pieces -/

/-- A character of code or a whole noise token. -/
inductive Piece where
  | code (c : CodePoint)
  | noise (token : Text)
deriving DecidableEq, Repr

/-- The pieces of a text, after `skip` characters that belong to the token before. -/
def piecesFrom : (skip : Nat) → Text → List Piece
  | _, [] => []
  | skip + 1, _ :: rest => piecesFrom skip rest
  | 0, c :: rest =>
    match tokenLength (c :: rest) with
    | 0 => .code c :: piecesFrom 0 rest
    | n + 1 => .noise ((c :: rest).take (n + 1)) :: piecesFrom n rest

def pieces (t : Text) : List Piece :=
  piecesFrom 0 t

namespace Piece

def text : Piece → Text
  | code c => [c]
  | noise token => token

/-- The characters of a piece, those of noise blanked. -/
def blanked : Piece → Text
  | code c => [c]
  | noise token => token.map fun (c : CodePoint) => if c == '\n' then c else ' '

end Piece

/-- A source text with its noise blanked. -/
def blank (t : Text) : Text :=
  (pieces t).flatMap Piece.blanked

/-! ## Offsets -/

theorem flatMap_text_piecesFrom (skip : Nat) (t : Text) :
    (piecesFrom skip t).flatMap Piece.text = t.drop skip := by
  fun_induction piecesFrom skip t with
  | case1 => simp
  | case2 skip c rest ih => simpa using ih
  | case3 c rest h ih => simpa [Piece.text] using ih
  | case4 c rest n h ih => simp [Piece.text, ih]

/-- The pieces make up the text. -/
theorem flatMap_text_pieces (t : Text) : (pieces t).flatMap Piece.text = t :=
  flatMap_text_piecesFrom 0 t

theorem Piece.length_blanked (p : Piece) : p.blanked.length = p.text.length := by
  cases p <;> simp [blanked, text]

/-- Blanking keeps the length. -/
theorem length_blank (t : Text) : (blank t).length = t.length := by
  have h := congrArg List.length (flatMap_text_pieces t)
  simpa [blank, List.length_flatMap, Piece.length_blanked, Function.comp_def] using h

end DocEnum.Java
