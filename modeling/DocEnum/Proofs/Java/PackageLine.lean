import Mathlib
import DocEnum.Proofs.Java.BlankedText
import DocEnum.Proofs.Java.FieldParts

/-!
# The package and the noise

What comments and literals do to the package and the type of a source text.

**Package lines** (`IsPackageLine`). A package is declared by blanks, the word `package`, blanks, a
name, blanks and a semicolon, from the start of a line on. `packageAt?` reads these texts and no
others (`packageAt?_eq_some_iff`), and the package of a source text is that of the first such place
(`firstPackage`).

**Theorem (`scan_blank`).** A source text and its blanked text have the same type. They have the
same package, unless

* the first package of the text is declared inside a token, or
* the first package of the blanked text is declared around the blanks of a token.

The type is searched for in the blanked text, which is not changed by blanking it again. The package
is searched for in the text itself. A package line is plain code. If its start is code, it is all
code and stays in the blanked text (`PackageAt.inToken_or_blank`). In the other direction a package
line of the blanked text is one of the text if no character of it is noise
(`PackageAt.of_blank`). Lines start at the same places, since blanking keeps line feeds.

The exceptions are real: the package of a comment is taken for that of the source, and a comment on
the line of the package hides it (`package_changes`).
-/

namespace DocEnum.Java

variable {s t u line name : Text} {n place : Nat}

/-! ## Package lines -/

/-- The text of a package declaration, from the start of its line to the semicolon. -/
inductive IsPackageLine (name : Text) : Text → Prop
  | mk {before gap after : Text} (hbefore : Blanks before) (hgap : Blanks gap) (hne : gap ≠ [])
      (hname : name ≠ []) (hletters : ∀ c ∈ name, isTypeChar c = true) (hafter : Blanks after) :
      IsPackageLine name
        (before ++ (("package" : Text) ++ (gap ++ (name ++ (after ++ [.char ';'])))))

theorem isPlainCode_of_isBlank {c : CodePoint} (h : Text.isBlank c = true) :
    isPlainCode c = true := by
  by_contra hplain
  simp only [isPlainCode, Bool.and_eq_true, bne_iff_ne, ne_eq, not_and_or, not_not] at hplain
  rcases hplain with (rfl | rfl) | rfl <;> exact absurd h (by decide)

theorem Blanks.plainCode (h : Blanks t) : PlainCode t :=
  List.all_eq_true.2 fun c hc => isPlainCode_of_isBlank (h c hc)

theorem IsPackageLine.plainCode (h : IsPackageLine name line) : PlainCode line := by
  cases h with
  | mk hbefore hgap _ _ hletters hafter =>
    have hname : PlainCode name := (flat_of_isTypeChar hletters).1
    have hword : PlainCode ("package" : Text) := by decide
    have hend : PlainCode [.char ';'] := by decide
    simp only [plainCode_append]
    exact ⟨hbefore.plainCode, hword, hgap.plainCode, hname, hafter.plainCode, hend⟩

theorem IsPackageLine.ne_nil (h : IsPackageLine name line) : line ≠ [] := by
  cases h
  simp

theorem exists_of_trimStart (t : Text) : ∃ gap, Blanks gap ∧ t = gap ++ Text.trimStart t :=
  ⟨t.takeWhile Text.isBlank, fun _ => List.mem_takeWhile_imp,
    List.takeWhile_append_dropWhile.symm⟩

theorem exists_of_afterBlanks? (h : afterBlanks? t = some u) :
    ∃ gap, Blanks gap ∧ gap ≠ [] ∧ t = gap ++ u := by
  cases t with
  | nil => cases h
  | cons c t =>
    rw [afterBlanks?] at h
    split at h
    · next hc =>
      obtain ⟨gap, hgap, htrim⟩ := exists_of_trimStart t
      obtain rfl : Text.trimStart t = u := Option.some.inj h
      refine ⟨c :: gap, ?_, by simp, ?_⟩
      · exact List.forall_mem_cons.2 ⟨hc, hgap⟩
      · rw [List.cons_append, ← htrim]
    · cases h

theorem packageAt?_append (h : IsPackageLine name line) (rest : Text) :
    packageAt? (line ++ rest) = some name := by
  cases h with
  | @mk before gap after hbefore hgap hne hname hletters hafter =>
    have hword : StartsWord ("package" : Text) := ⟨'p', ("ackage" : Text), rfl, by decide⟩
    have hstart : StartsWord name := startsWord_of_forall hletters hname
    have hsign : ∀ c ∈ (after ++ .char ';' :: rest).head?, isTypeChar c = false :=
      head_blanks_append hafter (by simp [not_isTypeChar_of_sign])
    have hblanks : afterBlanks? (gap ++ (name ++ (after ++ .char ';' :: rest))) =
        some (name ++ (after ++ .char ';' :: rest)) :=
      afterBlanks?_append hgap hne (hstart.append _).head_not_isBlank
    have hend : Text.trimStart (after ++ .char ';' :: rest) = .char ';' :: rest :=
      trimStart_sign (.inl rfl) hafter rest
    simp only [List.append_assoc, List.singleton_append]
    rw [packageAt?, (hword.append _).trimStart_append hbefore, Text.dropBeginning?_append]
    simp only [Option.bind_eq_bind, Option.bind_some, hblanks, Text.takeWhile_run hletters hsign]
    rw [if_neg (by simpa using hname), List.drop_left, hend]
    rfl

/-- **A package is read** where a package line stands, and only there. -/
theorem packageAt?_eq_some_iff :
    packageAt? t = some name ↔ ∃ line, IsPackageLine name line ∧ line <+: t := by
  constructor
  · intro h
    unfold packageAt? at h
    simp only [Option.bind_eq_bind, Option.bind_eq_some_iff] at h
    obtain ⟨behind, hdrop, rest, hrest, h⟩ := h
    split at h
    · cases h
    next hname =>
    split at h
    · next tail htail =>
      obtain rfl := Option.some.inj h
      -- What each step of the search drops is a part of the line; together they are a prefix.
      obtain ⟨before, hbefore, ht⟩ := exists_of_trimStart t
      obtain ⟨gap, hgap, hne, hbehind⟩ := exists_of_afterBlanks? hrest
      obtain ⟨after, hafter, hend⟩ :=
        exists_of_trimStart (rest.drop (rest.takeWhile isTypeChar).length)
      have hsplit : rest.takeWhile isTypeChar ++ rest.drop (rest.takeWhile isTypeChar).length =
          rest := by
        rw [Text.drop_length_takeWhile, List.takeWhile_append_dropWhile]
      refine ⟨_, .mk hbefore hgap hne (by simpa using hname)
        (fun _ => List.mem_takeWhile_imp) hafter, tail, ?_⟩
      rw [htail] at hend
      rw [hend] at hsplit
      rw [Text.dropBeginning?_eq_some_iff.1 hdrop, hbehind] at ht
      conv_rhs => rw [ht, ← hsplit]
      simp only [List.append_assoc, List.singleton_append]
    · cases h
  · rintro ⟨line, hline, rest, rfl⟩
    exact packageAt?_append hline rest

/-! ## Places -/

/-- Whether a line starts behind a text. -/
def endsLine (t : Text) : Bool :=
  (t.getLast?.map (· == .char '\n')).getD true

theorem endsLine_concat (t : Text) (c : CodePoint) : endsLine (t ++ [c]) = (c == '\n') := by
  rw [endsLine, List.getLast?_concat]
  rfl

/-- A package is declared at a place of a text, by a line of its own. -/
structure PackageAt (text : Text) (place : Nat) (line name : Text) : Prop where
  lineStart : endsLine (text.take place) = true
  isLine : IsPackageLine name line
  declared : line <+: text.drop place

theorem PackageAt.lt_length (h : PackageAt t place line name) : place < t.length := by
  by_contra hle
  have hdeclared := h.declared
  rw [List.drop_eq_nil_of_le (not_lt.1 hle), List.prefix_nil] at hdeclared
  exact h.isLine.ne_nil hdeclared

theorem PackageAt.packageAt?_eq (h : PackageAt t place line name) :
    packageAt? (t.drop place) = some name :=
  packageAt?_eq_some_iff.2 ⟨line, h.isLine, h.declared⟩

/-- The first package of a text is declared at a place. -/
structure FirstPackageAt (text : Text) (place : Nat) (line name : Text) : Prop
    extends PackageAt text place line name where
  first : ∀ earlier < place, ∀ line name, ¬PackageAt text earlier line name

/-- What a search for the first package answers. -/
inductive FirstPackage (text : Text) : Option Text → Prop
  | found {place : Nat} {line name : Text} (h : FirstPackageAt text place line name) :
      FirstPackage text (some name)
  | absent (h : ∀ place line name, ¬PackageAt text place line name) : FirstPackage text none

/-- The search goes on behind a part of the text in which no package is declared. -/
theorem firstPackage_append {before : Text} (rest : Text)
    (hbefore : ∀ earlier < before.length, ∀ line name,
      ¬PackageAt (before ++ rest) earlier line name) :
    FirstPackage (before ++ rest) (packageFrom? (endsLine before) rest) := by
  induction rest generalizing before with
  | nil =>
    refine .absent ?_
    intro place line name h
    refine hbefore place ?_ line name h
    simpa using h.lt_length
  | cons c rest ih =>
    have htake : (before ++ c :: rest).take before.length = before := List.take_left
    have hdrop : (before ++ c :: rest).drop before.length = c :: rest := List.drop_left
    rw [packageFrom?]
    split
    · next name hname =>
      split at hname
      · next hstart =>
        obtain ⟨line, hline, hprefix⟩ := packageAt?_eq_some_iff.1 hname
        have hat : PackageAt (before ++ c :: rest) before.length line name := by
          refine ⟨?_, hline, ?_⟩
          · rw [htake, hstart]
          · rw [hdrop]
            exact hprefix
        exact .found ⟨hat, hbefore⟩
      · cases hname
    · next hnone =>
      -- No package is declared here either, and so none up to the next character.
      have hnext := @ih (before ++ [c])
      rw [endsLine_concat, List.append_assoc, List.singleton_append] at hnext
      apply hnext
      intro earlier hlt line name h
      rw [List.length_append, List.length_singleton] at hlt
      by_cases hearlier : earlier < before.length
      · exact hbefore earlier hearlier line name h
      · obtain rfl : earlier = before.length := by omega
        have hstart := h.lineStart
        have hsome := h.packageAt?_eq
        rw [htake] at hstart
        rw [hdrop] at hsome
        rw [if_pos hstart, hsome] at hnone
        cases hnone

/-- **The package** is that of the first place where one is declared. -/
theorem firstPackage (t : Text) : FirstPackage t (packageFrom? true t) :=
  @firstPackage_append [] t fun _ hlt => absurd hlt (Nat.not_lt_zero _)

/-- Two texts have the same package, if the first package of each is declared in the other one at
its place. -/
theorem packageFrom?_congr
    (ht : ∀ place line name, FirstPackageAt t place line name → PackageAt s place line name)
    (hs : ∀ place line name, FirstPackageAt s place line name → PackageAt t place line name) :
    packageFrom? true s = packageFrom? true t := by
  cases hsearch : packageFrom? true t with
  | none =>
    cases hsearch' : packageFrom? true s with
    | none => rfl
    | some name =>
      cases hsearch ▸ firstPackage t with
      | absent habsent =>
        cases hsearch' ▸ firstPackage s with
        | found hfirst => exact absurd (hs _ _ _ hfirst) (habsent _ _ _)
  | some name =>
    cases hsearch ▸ firstPackage t with
    | @found place line _ hfirst =>
      have hplace := ht _ _ _ hfirst
      cases hsearch' : packageFrom? true s with
      | none =>
        cases hsearch' ▸ firstPackage s with
        | absent habsent => exact absurd hplace (habsent _ _ _)
      | some name' =>
        cases hsearch' ▸ firstPackage s with
        | @found place' line' _ hfirst' =>
          -- Neither first place can come before the other.
          rcases lt_trichotomy place place' with hlt | rfl | hlt
          · exact absurd hplace (hfirst'.first _ hlt _ _)
          · exact hfirst'.packageAt?_eq.symm.trans hplace.packageAt?_eq
          · exact absurd (hs _ _ _ hfirst') (hfirst.first _ hlt _ _)

/-! ## Blanking -/

/-- A part of a text, given by its place and its length, lies in one noise token. -/
def InToken (text : Text) (place length : Nat) : Prop :=
  ∃ before token after k, pieces text = before ++ .noise token :: after ∧
    place = (before.flatMap Piece.text).length + k ∧ k + length ≤ token.length

/-- A place of a text is code: no token holds it, and blanking starts afresh there. -/
theorem drop_blank_of_code (hlt : n < t.length) (h : ¬InToken t n 1) :
    (blank t).drop n = blank (t.drop n) ∧ (blank t)[n]? = t[n]? := by
  rw [← flatMap_text_pieces t] at hlt
  obtain ⟨before, piece, after, k, hpieces, hk, rfl⟩ := exists_piece_of_lt hlt
  cases piece with
  | noise token => exact absurd ⟨before, token, after, k, hpieces, rfl, hk⟩ h
  | code c =>
    obtain rfl : k = 0 := Nat.lt_one_iff.1 hk
    have hdrop := drop_of_pieces hpieces (Nat.zero_le _)
    have hblank : (blank t).drop (before.flatMap Piece.text).length =
        c :: after.flatMap Piece.blanked := by
      rw [blank, hpieces, List.flatMap_append, ← length_flatMap_blanked, List.drop_left]
      rfl
    have hrest : blank (c :: after.flatMap Piece.text) = c :: after.flatMap Piece.blanked := by
      rw [blank, show pieces (c :: after.flatMap Piece.text) = .code c :: after from
        pieces_of_suffix hpieces]
      rfl
    rw [Nat.add_zero] at hdrop ⊢
    rw [show t.drop _ = c :: after.flatMap Piece.text from hdrop, hblank, hrest]
    refine ⟨rfl, ?_⟩
    rw [← List.head?_drop, ← List.head?_drop, hblank, hdrop]
    rfl

/-- Lines start at the same places in a text and in its blanked text. -/
theorem endsLine_take_blank (t : Text) (n : Nat) :
    endsLine ((blank t).take n) = endsLine (t.take n) := by
  rw [endsLine, endsLine, ← List.getLast?_map, ← List.getLast?_map, List.map_take, List.map_take,
    (masked_blank t).map_feed]

/-- A package line in noise lies in one token. -/
theorem PackageAt.inToken {k : Nat} {before after : List Piece} {token : Text}
    (h : PackageAt t place line name) (hpieces : pieces t = before ++ .noise token :: after)
    (hplace : place = (before.flatMap Piece.text).length + k) (hk : k < token.length) :
    k + line.length ≤ token.length := by
  by_contra hlong
  have hdeclared := h.declared
  rw [hplace, drop_of_pieces hpieces hk.le] at hdeclared
  have hinside : token.drop k <+: line := by
    refine List.prefix_of_prefix_length_le (List.prefix_append _ _) hdeclared ?_
    rw [List.length_drop]
    omega
  have hplain : ∀ c ∈ token.drop k, isPlainCode c = true := fun c hc =>
    List.all_eq_true.1 h.isLine.plainCode c (hinside.subset hc)
  cases (pieces_eq_cons (pieces_of_suffix hpieces)).1 with
  | noise hfirst hne =>
    have hlength : tokenLength (token ++ after.flatMap Piece.text) = token.length := hfirst
    have hpos : 0 < tokenLength (token ++ after.flatMap Piece.text) := by omega
    have hend := token_end hpos
    rw [hlength, List.take_left, List.drop_left] at hend
    cases hend with
    | @sign c hlast hc =>
      have hmem : c ∈ token.drop k := by
        refine List.mem_of_getLast? ?_
        rw [List.getLast?_drop, if_neg (by omega), hlast]
      rw [hplain c hmem] at hc
      cases hc
    | line hline _ =>
      cases k with
      | zero =>
        -- A token does not start with plain code.
        obtain ⟨c, token, rfl⟩ := List.exists_cons_of_ne_nil hne
        rw [List.cons_append, tokenLength_of_isPlainCode (hplain c List.mem_cons_self)] at hpos
        exact absurd hpos (Nat.lt_irrefl 0)
      | succ k =>
        -- A token of one line does not go on where a line starts.
        have hstart := h.lineStart
        have htake : t.take place = before.flatMap Piece.text ++ token.take (k + 1) := by
          have htext := flatMap_text_pieces t
          rw [hpieces, List.flatMap_append, List.flatMap_cons] at htext
          rw [hplace, ← htext, List.take_length_add_append, Piece.text,
            List.take_append_of_le_length hk.le]
        rw [htake, List.take_succ_eq_append_getElem (by omega), ← List.append_assoc,
          endsLine_concat] at hstart
        refine hline ?_
        have hfeed : token[k] = '\n' := by simpa using hstart
        rw [← hfeed]
        exact List.getElem_mem _

/-- **A package line of a text** lies in a token or stays in the blanked text. -/
theorem PackageAt.inToken_or_blank (h : PackageAt t place line name) :
    InToken t place line.length ∨ PackageAt (blank t) place line name := by
  by_cases hcode : InToken t place 1
  · obtain ⟨before, token, after, k, hpieces, hplace, hk⟩ := hcode
    exact .inl ⟨before, token, after, k, hpieces, hplace, h.inToken hpieces hplace hk⟩
  · refine .inr ⟨?_, h.isLine, ?_⟩
    · rw [endsLine_take_blank]
      exact h.lineStart
    · obtain ⟨rest, hrest⟩ := h.declared
      have hplain := h.isLine.plainCode
      rw [(drop_blank_of_code h.lt_length hcode).1, ← hrest, hplain.settled.blank_append,
        hplain.blank_eq]
      exact List.prefix_append _ _

/-- **A package line of a blanked text** is one of the text, if no character of it is noise. -/
theorem PackageAt.of_blank (h : PackageAt (blank t) place line name)
    (hcode : ∀ k < line.length, ¬InToken t (place + k) 1) : PackageAt t place line name := by
  refine ⟨?_, h.isLine, ?_⟩
  · rw [← endsLine_take_blank]
    exact h.lineStart
  · refine List.prefix_iff_getElem?.2 ?_
    intro k hk
    have hblank := List.prefix_iff_getElem?.1 h.declared k hk
    rw [List.getElem?_drop] at hblank
    obtain ⟨hlt, -⟩ := List.getElem?_eq_some_iff.1 hblank
    rw [length_blank] at hlt
    rw [List.getElem?_drop, ← (drop_blank_of_code hlt (hcode k hk)).2, hblank]

/-- **Blanking keeps the type.** It keeps the package, unless the first package of the text is
declared inside a token or that of the blanked text around one. -/
theorem scan_blank (t : Text) :
    (CompilationUnit.scan (blank t)).className = (CompilationUnit.scan t).className ∧
      ((CompilationUnit.scan (blank t)).package = (CompilationUnit.scan t).package ∨
        (∃ place line name, FirstPackageAt t place line name ∧ InToken t place line.length) ∨
        ∃ place line name, FirstPackageAt (blank t) place line name ∧
          ∃ k < line.length, InToken t (place + k) 1) := by
  refine ⟨congrArg (typeFrom? false) (blank_blank t), ?_⟩
  by_cases hinside : ∃ place line name,
      FirstPackageAt t place line name ∧ InToken t place line.length
  · exact .inr (.inl hinside)
  by_cases haround : ∃ place line name, FirstPackageAt (blank t) place line name ∧
      ∃ k < line.length, InToken t (place + k) 1
  · exact .inr (.inr haround)
  refine .inl (congrArg (·.getD []) (packageFrom?_congr ?_ ?_))
  · intro place line name h
    rcases h.inToken_or_blank with htoken | hblank
    · exact absurd ⟨place, line, name, h, htoken⟩ hinside
    · exact hblank
  · intro place line name h
    refine h.of_blank ?_
    intro k hk htoken
    exact haround ⟨place, line, name, h, k, hk, htoken⟩

/-- A package inside a comment is taken for that of the source, and a comment hides the package that
is declared behind it on the same line. -/
theorem package_changes :
    (let text : Text := "/*\npackage x;\n*/ class A \x7b\n\x7d\n"
    (CompilationUnit.scan text).package = "x" ∧ (CompilationUnit.scan (blank text)).package = []) ∧
      (let text : Text := "/* c */ package x;\nclass A \x7b\n\x7d\n"
      (CompilationUnit.scan text).package = [] ∧
        (CompilationUnit.scan (blank text)).package = "x") := by
  decide

end DocEnum.Java
