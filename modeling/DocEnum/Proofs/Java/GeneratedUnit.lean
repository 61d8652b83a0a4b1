import Mathlib
import DocEnum.Java.Naming
import DocEnum.Proofs.Java.SourceParts

/-!
# Generated sources are scanned

A generated source is scanned for what it was generated from.

**Package.** It is declared on the first line, or on none: every other line starts with another
word than `package` (`packageFrom?_linesText`). In particular this holds for the lines of constants,
since no name is a reserved word.

**Type.** No type is declared above the enum: the words in front of blanks are no type words there
(`noType_headerLines`).

**Theorem (`generate_scan`).** The scan of a generated source finds the package and the type of its
request. Blanking the source puts blanks for the literals that it was written with and changes
nothing else. The depth of braces is never negative, and between the first brace and the last it is
not zero.
-/

namespace DocEnum.Java

variable {s t : Text} {style : Style} {request : Request}

/-! ## Package -/

/-- A package is declared by the whole first word. -/
theorem packageAt?_eq_none (h : (Text.trimStart t).takeWhile isTypeChar ≠ ("package" : Text)) :
    packageAt? t = none := by
  have hletters : ∀ c ∈ ("package" : Text), isTypeChar c = true :=
    isTypeChar_of_isIdentifierForm (by decide)
  by_contra hsome
  obtain ⟨name, hname⟩ := Option.ne_none_iff_exists'.1 hsome
  unfold packageAt? at hname
  simp only [Option.bind_eq_bind, Option.bind_eq_some_iff] at hname
  obtain ⟨behind, hdrop, rest, hrest, -⟩ := hname
  exact h (eq_of_dropBeginning?_of_afterBlanks? hletters hdrop hrest).1

/-- **A package line is read.** -/
theorem packageAt?_packageLine {package : Text} (hne : package ≠ [])
    (hpackage : ∀ c ∈ package, isTypeChar c = true) (rest : Text) :
    packageAt? (("package " : Text) ++ package ++ [.char ';'] ++ rest) = some package := by
  have hword : StartsWord (package ++ .char ';' :: rest) :=
    (startsWord_of_forall hpackage hne).append _
  -- The keyword, a blank, the name as a run of type characters, and the semicolon.
  have hsplit : ("package " : Text) ++ package ++ [.char ';'] ++ rest =
      ("package" : Text) ++ ([.char ' '] ++ (package ++ .char ';' :: rest)) := by simp
  have htrim : Text.trimStart (("package" : Text) ++
      ([.char ' '] ++ (package ++ .char ';' :: rest))) =
      ("package" : Text) ++ ([.char ' '] ++ (package ++ .char ';' :: rest)) := rfl
  have hblanks : afterBlanks? ([.char ' '] ++ (package ++ .char ';' :: rest)) =
      some (package ++ .char ';' :: rest) :=
    afterBlanks?_append (blanks_singleton rfl) (by simp) hword.head_not_isBlank
  have htake : (package ++ .char ';' :: rest).takeWhile isTypeChar = package :=
    Text.takeWhile_run hpackage (by simp [not_isTypeChar_of_sign])
  have hend : Text.trimStart (.char ';' :: rest) = .char ';' :: rest := rfl
  rw [hsplit, packageAt?, htrim, Text.dropBeginning?_append]
  simp only [Option.bind_eq_bind, Option.bind_some, hblanks, htake]
  rw [if_neg (by simpa using hne), List.drop_left, hend]
  rfl

/-- No package is declared where a text starts, whatever follows it. -/
def NoPackage (s : Text) : Prop :=
  ∀ t, packageAt? (s ++ t) = none

theorem noPackage_append_left (hs : Blanks s) : NoPackage (s ++ t) ↔ NoPackage t := by
  have htrim : ∀ rest, Text.trimStart (s ++ t ++ rest) = Text.trimStart (t ++ rest) := by
    intro rest
    rw [List.append_assoc]
    exact List.dropWhile_append_of_pos hs
  have hsame : ∀ rest, packageAt? (s ++ t ++ rest) = packageAt? (t ++ rest) := by
    intro rest
    rw [packageAt?, htrim]
    rfl
  simp only [NoPackage, hsame]

theorem noPackage_of_isIdentifier {name : Text} (h : isIdentifier name = true) (sign : CodePoint)
    (hsign : isTypeChar sign = false) (s : Text) : NoPackage (name ++ sign :: s) := by
  intro t
  have hletters := isTypeChar_of_isIdentifier h
  have hblanks : Blanks [] := by simp [Blanks]
  have htrim : Text.trimStart (name ++ sign :: (s ++ t)) = name ++ sign :: (s ++ t) :=
    ((startsWord_of_forall hletters (isIdentifier_ne_nil h)).append _).trimStart_append hblanks
  refine packageAt?_eq_none ?_
  rw [List.append_assoc, List.cons_append, htrim,
    Text.takeWhile_run hletters (by simpa using hsign)]
  rintro rfl
  exact absurd h (by decide)

theorem packageFrom?_false (hs : .char '\n' ∉ s) (rest : Text) :
    packageFrom? false (s ++ .char '\n' :: rest) = packageFrom? true rest := by
  induction s with
  | nil => rfl
  | cons c s ih =>
    rw [List.mem_cons, not_or] at hs
    have hc : (c == '\n') = false := by simpa using Ne.symm hs.1
    rw [List.cons_append, packageFrom?, hc]
    exact ih hs.2

/-- A line on which no package is declared is passed. -/
theorem packageFrom?_true {line : Text} (hline : .char '\n' ∉ line) (rest : Text)
    (h : packageAt? (line ++ .char '\n' :: rest) = none) :
    packageFrom? true (line ++ .char '\n' :: rest) = packageFrom? true rest := by
  cases line with
  | nil =>
    rw [List.nil_append] at h ⊢
    rw [packageFrom?, if_pos rfl, h]
    rfl
  | cons c line =>
    rw [List.mem_cons, not_or] at hline
    have hc : (c == '\n') = false := by simpa using Ne.symm hline.1
    rw [List.cons_append] at h ⊢
    rw [packageFrom?, if_pos rfl, h, hc]
    exact packageFrom?_false hline.2 rest

/-- **No package is declared** in lines of which none starts with a package. -/
theorem packageFrom?_linesText {lines : List Text}
    (h : ∀ line ∈ lines, .char '\n' ∉ line ∧ (line = [] ∨ NoPackage line)) :
    packageAt? (linesText lines) = none ∧ packageFrom? true (linesText lines) = none := by
  induction lines with
  | nil => decide
  | cons line lines ih =>
    rw [List.forall_mem_cons] at h
    obtain ⟨⟨hfeed, hline⟩, hlines⟩ := h
    obtain ⟨hat, hfrom⟩ := ih hlines
    have hfirst : packageAt? (line ++ .char '\n' :: linesText lines) = none := by
      -- Blanks are skipped, so that an empty line leads to the next one.
      rcases hline with rfl | hline
      · exact hat
      · exact hline _
    rw [linesText_cons]
    exact ⟨hfirst, (packageFrom?_true hfeed _ hfirst).trans hfrom⟩

/-! ### The lines of a source -/

/-- A line on which no package is declared. -/
def IsOther (line : Text) : Prop :=
  .char '\n' ∉ line ∧ (line = [] ∨ NoPackage line)

section Lines

variable (h : Unbroken style request)

include h

theorem blanks_indent : Blanks style.indent := by
  intro c hc
  rcases h.indent c hc with rfl | rfl <;> rfl

theorem noPackage_line {steps : Nat} : NoPackage (style.line steps t) ↔ NoPackage t := by
  refine noPackage_append_left ?_
  intro c hc
  obtain ⟨indent, hmem, hc⟩ := List.mem_flatten.1 hc
  rw [List.eq_of_mem_replicate hmem] at hc
  exact blanks_indent h c hc

theorem inert_of_unbroken : Inert style.indent := by
  refine List.all_eq_true.2 ?_
  intro c hc
  rcases h.indent c hc with rfl | rfl <;> rfl

variable (hfault : fault? style request = none)

include hfault

theorem noPackage_table : ∀ line ∈ style.table request.typeName, line = [] ∨ NoPackage line := by
  obtain ⟨-, -, -, ⟨-, -, hlookup⟩, -⟩ := fault?_eq_none_iff.1 hfault
  have hassign := noPackage_of_isIdentifier hlookup ' ' (by decide)
    "= Collections.unmodifiableMap(m);"
  simp only [Style.table, List.forall_mem_cons, noPackage_line h, true_or, true_and]
  exact ⟨.inr fun _ => rfl, .inr fun _ => rfl, .inr fun _ => rfl, .inr fun _ => rfl,
    .inr fun _ => rfl, .inr fun _ => rfl, .inr fun _ => rfl, .inr fun _ => rfl, .inr hassign,
    .inr fun _ => rfl, by simp⟩

theorem noPackage_accessors :
    ∀ line ∈ style.accessors request.typeName, line = [] ∨ NoPackage line := by
  obtain ⟨-, htype, -⟩ := fault?_eq_none_iff.1 hfault
  have hconstructor := noPackage_of_isIdentifier htype '(' (by decide)
    "int code, String description) \x7b"
  simp only [Style.accessors, List.forall_mem_cons, noPackage_line h, true_or, true_and]
  exact ⟨.inr hconstructor, .inr fun _ => rfl, .inr fun _ => rfl, .inr fun _ => rfl,
    .inr fun _ => rfl, .inr fun _ => rfl, .inr fun _ => rfl, .inr fun _ => rfl,
    .inr fun _ => rfl, .inr fun _ => rfl, by simp⟩

theorem noPackage_lookups :
    ∀ line ∈ style.lookups request.typeName, line = [] ∨ NoPackage line := by
  obtain ⟨-, htype, -⟩ := fault?_eq_none_iff.1 hfault
  have hlocal : NoPackage (request.typeName ++ (" e = " : Text) ++ style.lookupField ++
      (".get(code);" : Text)) := by
    rw [List.append_assoc, List.append_assoc]
    exact noPackage_of_isIdentifier htype ' ' (by decide) _
  simp only [Style.lookups, List.forall_mem_cons, noPackage_line h, true_or, true_and]
  exact ⟨.inr fun _ => rfl, .inr fun _ => rfl, .inr fun _ => rfl, .inr fun _ => rfl,
    .inr hlocal, .inr fun _ => rfl, .inr fun _ => rfl, .inr fun _ => rfl, .inr fun _ => rfl,
    .inr fun _ => rfl, .inr fun _ => rfl, by simp⟩

theorem noPackage_constants :
    ∀ line ∈ style.constants request.entries, line = [] ∨ NoPackage line := by
  intro line hline
  obtain ⟨-, -, -, -, hconstants⟩ := fault?_eq_none_iff.1 hfault
  have hnames := (constantFault?_eq_none_iff.1 hconstants).1
  obtain ⟨entry, hentry, terminator, -, rfl⟩ := mem_constants hline
  have hsplit : style.constant entry ++ [terminator] =
      style.indent ++ (entry.name ++ .char '(' :: (Text.ofInt entry.code ++
        .char ',' :: .char ' ' :: (literal entry.description ++ [.char ')', terminator]))) := by
    simp [constant_eq]
  rw [hsplit, noPackage_append_left (blanks_indent h)]
  exact .inr (noPackage_of_isIdentifier (hnames entry hentry) '(' (by decide) _)

theorem noPackage_bodyLines :
    ∀ line ∈ bodyLines style request.typeName, line = [] ∨ NoPackage line := by
  simp only [bodyLines, List.forall_mem_append]
  refine ⟨⟨noPackage_table h hfault, ?_⟩, noPackage_lookups h hfault⟩
  split
  · simp
  · exact noPackage_accessors h hfault

theorem feed_not_mem_constants : ∀ line ∈ style.constants request.entries, .char '\n' ∉ line := by
  intro line hline
  obtain ⟨-, -, -, -, hconstants⟩ := fault?_eq_none_iff.1 hfault
  have hnames := (constantFault?_eq_none_iff.1 hconstants).1
  obtain ⟨entry, hentry, terminator, hterminator, rfl⟩ := mem_constants hline
  have hindent : .char '\n' ∉ style.indent := (inert_of_unbroken h).not_mem rfl
  have hname : .char '\n' ∉ entry.name := (inert_of_isIdentifier (hnames entry hentry)).not_mem rfl
  have hcode : .char '\n' ∉ Text.ofInt entry.code := (inert_ofInt entry.code).not_mem rfl
  have hliteral := not_mem_literal (h.descriptions entry hentry)
  rw [constant_eq]
  rcases hterminator with rfl | rfl <;> simp [hindent, hname, hcode, hliteral]

/-- Without a package no line declares one. -/
theorem isOther_sourceLines (hpackage : request.package = []) :
    ∀ line ∈ style.sourceLines request, IsOther line := by
  have hframe : ∀ c, isFrameChar c = true → isInert c = true := fun _ => isInert_of_isFrameChar
  have hheader : ∀ line ∈ headerLines style request.package, Inert line :=
    all_headerLines hframe hfault
  have hbody : ∀ line ∈ bodyLines style request.typeName, Inert line :=
    all_bodyLines hframe (inert_of_unbroken h) hfault
  have hopening : Inert (Style.opening request.typeName) := all_opening hframe hfault
  have hfirst : ∀ line ∈ headerLines style request.package, line = [] ∨ NoPackage line := by
    simp only [headerLines, List.forall_mem_append, List.forall_mem_map]
    refine ⟨⟨⟨?_, fun _ _ => .inr fun _ => rfl⟩, by simp⟩, ?_⟩
    · simp [Style.packageLines, hpackage]
    · split
      · simp only [Style.lombokAnnotations, List.forall_mem_cons]
        exact ⟨.inr fun _ => rfl, .inr fun _ => rfl, by simp⟩
      · simp
  rw [sourceLines_eq]
  simp only [List.forall_mem_append, List.forall_mem_cons]
  refine ⟨?_, ⟨hopening.not_mem rfl, .inr fun _ => rfl⟩, ⟨by simp, .inl rfl⟩, ?_,
    ⟨by simp, .inl rfl⟩, ?_⟩
  · intro line hline
    exact ⟨(hheader line hline).not_mem rfl, hfirst line hline⟩
  · intro line hline
    exact ⟨feed_not_mem_constants h hfault line hline, noPackage_constants h hfault line hline⟩
  · intro line hline
    exact ⟨(hbody line hline).not_mem rfl, noPackage_bodyLines h hfault line hline⟩

end Lines

theorem packageFrom?_of_packageAt? {name : Text} (h : packageAt? t = some name) :
    packageFrom? true t = some name := by
  cases t with
  | nil =>
    have hnone : packageAt? [] = none := by decide
    rw [hnone] at h
    cases h
  | cons c t => rw [packageFrom?, if_pos rfl, h]

theorem exists_sourceLines_eq (style : Style) (hpackage : request.package ≠ []) :
    ∃ lines, style.sourceLines request =
      (("package " : Text) ++ request.package ++ [.char ';']) :: lines := by
  have hempty : ¬request.package.isEmpty = true := by simpa using hpackage
  rw [sourceLines_eq, headerLines, Style.packageLines, if_neg hempty]
  exact ⟨_, rfl⟩

/-- **The package of a source** is that of its request. -/
theorem packageFrom?_render (h : Unbroken style request) (hfault : fault? style request = none) :
    (packageFrom? true (render style request)).getD [] = request.package := by
  rw [render_eq_linesText]
  by_cases hempty : request.package = []
  · rw [(packageFrom?_linesText (isOther_sourceLines h hfault hempty)).2, hempty]
    rfl
  · obtain ⟨-, -, hpackage, -⟩ := fault?_eq_none_iff.1 hfault
    obtain ⟨lines, hlines⟩ := exists_sourceLines_eq style hempty
    rw [hlines, linesText_cons, packageFrom?_of_packageAt?
      (packageAt?_packageLine hempty (isTypeChar_of_isPackage hpackage) _)]
    rfl

/-! ## Type -/

theorem noType_sign {sign : CodePoint} (hsign : isTypeChar sign = false) : NoType [sign] := by
  have hword : ∀ c ∈ ([] : Text), isTypeChar c = true := by simp
  have hempty : ∀ typeWord ∈ typeWords, ¬typeWord <:+ [] := by decide
  exact noType_concat hword hsign fun _ => hempty

/-- A word, a blank, a name and a semicolon declare no type, if the word is no type word. -/
theorem noType_statement (word : Text) {name : Text} (hword : ∀ c ∈ word, isTypeChar c = true)
    (hother : ∀ typeWord ∈ typeWords, ¬typeWord <:+ word)
    (hname : ∀ c ∈ name, isTypeChar c = true) :
    NoType (word ++ .char ' ' :: name ++ [.char ';'] ++ [.char '\n']) := by
  have hfirst : NoType (word ++ [.char ' ']) := noType_concat hword (by decide) fun _ => hother
  have hsecond : NoType (name ++ [.char ';']) :=
    noType_concat hname (by decide) (by simp [Text.isBlank])
  have hsplit : word ++ .char ' ' :: name ++ [.char ';'] ++ [.char '\n'] =
      word ++ [.char ' '] ++ (name ++ [.char ';']) ++ [.char '\n'] := by simp
  rw [hsplit]
  exact (hfirst.append hsecond).append (noType_sign (by decide))

/-- An annotation declares no type, if it does not end with a type word. -/
theorem noType_marker (name : Text) (hname : ∀ c ∈ name, isTypeChar c = true)
    (hother : ∀ typeWord ∈ typeWords, ¬typeWord <:+ name) :
      NoType (.char '@' :: name ++ [.char '\n']) :=
  (noType_sign (by decide)).append (noType_concat hname (by decide) fun _ => hother)

theorem isTypeChar_of_mem_imports : ∀ name ∈ style.imports, ∀ c ∈ name, isTypeChar c = true := by
  have hletters : ∀ name ∈ Style.lombokImports ++ Style.lookupImports,
      name.all (fun c => c.isAlphanum || c == '.') = true := by decide
  have himports : ∀ name ∈ style.imports, name ∈ Style.lombokImports ++ Style.lookupImports := by
    intro name hname
    rw [Style.imports] at hname
    split at hname
    · exact hname
    · exact List.mem_append_right _ hname
  intro name hname c hc
  have hc := List.all_eq_true.1 (hletters name (himports name hname)) c hc
  rw [Bool.or_eq_true, beq_iff_eq] at hc
  rcases hc with hc | rfl
  · exact isTypeChar_of_isAlphanum hc
  · decide

theorem noType_headerLines {package : Text} (hpackage : ∀ c ∈ package, isTypeChar c = true) :
    ∀ line ∈ headerLines style package, NoType (line ++ [.char '\n']) := by
  have hempty : NoType ([] ++ [.char '\n']) := noType_sign (by decide)
  simp only [headerLines, List.forall_mem_append, List.forall_mem_map]
  refine ⟨⟨⟨?_, ?_⟩, by simpa using hempty⟩, ?_⟩
  · rw [Style.packageLines]
    split
    · simp
    · simp only [List.forall_mem_cons]
      exact ⟨noType_statement "package" (isTypeChar_of_isIdentifierForm (by decide))
        (by decide) hpackage, hempty, by simp⟩
  · intro name hname
    exact noType_statement "import" (isTypeChar_of_isIdentifierForm (by decide))
      (by decide) (isTypeChar_of_mem_imports name hname)
  · split
    · simp only [Style.lombokAnnotations, List.forall_mem_cons]
      exact ⟨noType_marker "Getter" (isTypeChar_of_isIdentifierForm (by decide)) (by decide),
        noType_marker "RequiredArgsConstructor" (isTypeChar_of_isIdentifierForm (by decide))
          (by decide), by simp⟩
    · simp

/-- **The type of a source** is the enum. -/
theorem typeFrom?_codeAbove (hname : isIdentifier request.typeName = true)
    (hpackage : isPackage request.package = true) (rest : Text) :
    typeFrom? false (codeAbove style request ++ rest) = some request.typeName := by
  have hletters := isTypeChar_of_isIdentifier hname
  have hheader : NoType (linesText (headerLines style request.package)) :=
    NoType.flatMap (noType_headerLines (isTypeChar_of_isPackage hpackage))
  have hpublic : NoType (("public" : Text) ++ [.char ' ']) :=
    noType_concat (isTypeChar_of_isIdentifierForm (by decide)) (by decide) fun _ => by decide
  have hword : ∀ inWord, endsInWord inWord (("public" : Text) ++ [.char ' ']) = false :=
    fun _ => rfl
  have hstart : StartsWord (request.typeName ++ .char ' ' :: rest) :=
    (startsWord_of_forall hletters (isIdentifier_ne_nil hname)).append _
  have hfound : nameAt? (request.typeName ++ .char ' ' :: rest) = some request.typeName := by
    rw [isIdentifier, Bool.and_eq_true] at hname
    refine nameAt?_append (isNameForm_of_isIdentifierForm hname.1) ?_
    intro c hc
    obtain rfl : ' ' = c := by simpa using hc
    decide
  have hsplit : codeAbove style request ++ rest =
      linesText (headerLines style request.package) ++ (("public" : Text) ++ [.char ' '] ++
        (("enum" : Text) ++ ([.char ' '] ++ (request.typeName ++ .char ' ' :: rest)))) := by
    unfold codeAbove
    simp
  -- No type above the word `enum`, and behind it the name.
  rw [hsplit, hheader.typeFrom?_append, hpublic.typeFrom?_append, hword]
  exact typeFrom?_of_typeAt? (typeAt?_append (by decide) (blanks_singleton rfl) (by simp) hstart
    hfound)

/-! ## Qualified names -/

theorem packageOf_of_not_mem {name : Text} (h : .char '.' ∉ name) : packageOf (some name) = [] := by
  have hdrop : name.reverse.dropWhile (· != .char '.') = [] := by
    rw [List.dropWhile_eq_nil_iff]
    intro c hc
    rw [bne_iff_ne]
    rintro rfl
    exact h (List.mem_reverse.1 hc)
  rw [packageOf, hdrop]

theorem packageOf_qualified {package name : Text} (h : .char '.' ∉ name) :
    packageOf (some (package ++ .char '.' :: name)) = package := by
  have hdrop : (package ++ .char '.' :: name).reverse.dropWhile (· != .char '.') =
      .char '.' :: package.reverse := by
    have hsplit : (package ++ .char '.' :: name).reverse =
        name.reverse ++ .char '.' :: package.reverse := by
      simp
    rw [hsplit]
    refine Text.dropWhile_run ?_ (by simp)
    intro c hc
    rw [bne_iff_ne]
    rintro rfl
    exact h (List.mem_reverse.1 hc)
  rw [packageOf, hdrop]
  exact List.reverse_reverse package

theorem point_not_mem {name : Text} (h : isIdentifier name = true) : .char '.' ∉ name := by
  intro hmem
  exact absurd (isIdentifierPart_of_mem h hmem) (by decide)

/-- The package of a qualified name is the package that it was qualified with. -/
theorem packageOf_qualifiedName {unit : CompilationUnit} {name : Text}
    (hname : unit.className = some name) (hpoint : .char '.' ∉ name) :
    packageOf unit.qualifiedName = unit.package := by
  rw [CompilationUnit.qualifiedName, hname, Option.map_some]
  by_cases hempty : unit.package.isEmpty = true
  · rw [if_pos hempty, packageOf_of_not_mem hpoint, List.isEmpty_iff.1 hempty]
  · have hsplit : unit.package ++ ("." : Text) ++ name =
      unit.package ++ .char '.' :: name := by simp
    rw [if_neg hempty, hsplit, packageOf_qualified hpoint]

/-! ## Generated sources -/

/-- A source is code without quotes and string literals in turn, and blanking puts blanks for the
literals, quotes included, and keeps the code. -/
def BlankedAs (source : Text) (values : List Text) : Prop :=
  ∃ parts : List Part, source = parts.flatMap Part.text ∧
    parts.filterMap Part.value? = values ∧ (∀ t, Part.code t ∈ parts → .char '"' ∉ t) ∧
      blank source = parts.flatMap Part.blanked

/-- The depth of braces is zero up to the first brace and from the last one on, which ends the last
line, and positive between them. -/
def IsBlock (code : Text) : Prop :=
  ∃ first last, code[first]? = some (.char '{') ∧ code.drop last = [.char '}', .char '\n'] ∧
    ∀ n, 0 ≤ braceDepth (code.take n) ∧
      (braceDepth (code.take n) = 0 ↔ n ≤ first ∨ last < n)

theorem blankedAs_render (h : Unbroken style request) (hfault : fault? style request = none) :
    BlankedAs (render style request)
      (request.entries.map Entry.description ++ [unknownCode]) := by
  have hwritable := h.writable hfault
  refine ⟨sourceParts style request, (flatMap_text_sourceParts style request).symm,
    filterMap_value?_sourceParts style request, ?_, blank_render hwritable⟩
  intro t ht hquote
  exact absurd (List.all_eq_true.1 (valid_sourceParts hwritable _ ht) '"' hquote) (by decide)

theorem OneBlock.isBlock {code before inside : Text}
    (h : OneBlock code before inside [.char '\n']) :
    IsBlock code := by
  refine ⟨before.length, before.length + inside.length + 1, ?_, ?_, h.depth_iff⟩
  · rw [h.code_eq]
    simp
  · have hsplit : code = (before ++ .char '{' :: inside) ++ [.char '}', .char '\n'] := by
      rw [h.code_eq]
      simp
    have hlength : before.length + inside.length + 1 = (before ++ .char '{' :: inside).length := by
      rw [List.length_append, List.length_cons, add_assoc]
    rw [hlength, hsplit, List.drop_left]

theorem package_scan (text : Text) :
    (CompilationUnit.scan text).package = (packageFrom? true text).getD [] := rfl

theorem className_scan (text : Text) :
    (CompilationUnit.scan text).className = typeFrom? false (blank text) := rfl

/-- **A generated source is scanned** for its package and its type. Blanking it is blanking its
literals, and its braces are those of one block. -/
theorem generate_scan (style : Style) (request : Request) (source : Text)
    (hsource : generate style request = .ok source) (h : Unbroken style request) :
    ((CompilationUnit.scan source).package = request.package ∧
      (CompilationUnit.scan source).className = some request.typeName ∧
      packageOf (CompilationUnit.scan source).qualifiedName = request.package) ∧
    BlankedAs source (request.entries.map Entry.description ++ [unknownCode]) ∧
    IsBlock (blank source) := by
  obtain ⟨hfault, rfl⟩ := generate_eq_ok_iff.1 hsource
  obtain ⟨-, hname, hpackage, -⟩ := fault?_eq_none_iff.1 hfault
  have hblock := oneBlock_render (h.writable hfault)
  have hfound : (CompilationUnit.scan (render style request)).package = request.package := by
    rw [package_scan, packageFrom?_render h hfault]
  have hclass : (CompilationUnit.scan (render style request)).className =
      some request.typeName := by
    rw [className_scan, hblock.code_eq, typeFrom?_codeAbove hname hpackage]
  refine ⟨⟨hfound, hclass, ?_⟩, blankedAs_render h hfault, hblock.isBlock⟩
  rw [packageOf_qualifiedName hclass (point_not_mem hname), hfound]

/-- Names and descriptions that look like a package, types, comments and braces. -/
theorem generate_scan_lookalikes :
    let style : Style := { lombok := false, indent := "\t", findMethod := "record" }
    let request : Request := ⟨"record.a", "interfaceOf",
      [⟨"packages", 0, "\x7b /* \" \\ class B"⟩, ⟨"C", -1, "package x;"⟩, ⟨"D", 2, "// \x7d"⟩]⟩
    let source := render style request
    generate style request = .ok source ∧ Unbroken style request ∧
      (CompilationUnit.scan source).package = ("record.a" : Text) ∧
      (CompilationUnit.scan source).className = some ("interfaceOf" : Text) ∧
      IsBlock (blank source) := by
  intro style request source
  have hsource : generate style request = .ok source :=
    generate_eq_ok_iff.2 ⟨by decide, rfl⟩
  have hunbroken : Unbroken style request := ⟨by decide, by simp [style]⟩
  obtain ⟨⟨hpackage, hclass, -⟩, -, hblock⟩ := generate_scan style request source hsource hunbroken
  exact ⟨hsource, hunbroken, hpackage, hclass, hblock⟩

end DocEnum.Java
