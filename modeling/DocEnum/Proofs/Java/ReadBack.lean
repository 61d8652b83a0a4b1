import DocEnum.Proofs.Java.Reading

/-!
# Constants are read back

No constant of a generated source is lost or changed by writing it down.

**Frame.** The lines around the constants are made of fixed words, of names that are identifiers and
of the indent (`all_headerLines`, `all_opening`, `all_bodyLines`). In particular they are inert:
they hold no line end and no backslash. So a source has the lines it was written from
(`linesOf_render`), and its backslashes stand in literals.

**Constants.** The first line that starts like the opening of an enum is the opening, an empty line
follows, and the constants are the lines up to the next blank one (`constantLines_render`).

**Conditions** (`Plain`). Descriptions without line ends, which the entries of all comments have
(`plain_parse`), and an indent of spaces and tabs.

Main result: `generate_read_back`.
-/

namespace DocEnum.Java

/-! ## Inert lines -/

/-- A character that neither ends a line nor escapes. -/
def isInert (c : CodePoint) : Bool :=
  c != '\n' && c != '\r' && c != '\\'

/-- A text of inert characters. -/
def Inert (t : Text) : Prop :=
  t.all isInert = true

instance (t : Text) : Decidable (Inert t) :=
  inferInstanceAs (Decidable (_ = _))

theorem Inert.not_mem {t : Text} (h : Inert t) {c : CodePoint} (hc : isInert c = false) : c ∉ t :=
  fun hmem => by simp [List.all_eq_true.1 h c hmem] at hc

theorem Inert.oneLine {t : Text} (h : Inert t) : OneLine t :=
  ⟨h.not_mem rfl, h.not_mem rfl⟩

theorem Inert.closed {t : Text} (h : Inert t) : Closed t :=
  closed_of_no_backslash (h.not_mem rfl)

/-! ## The frame of a source -/

/-- The lines before the opening of the enum. -/
def headerLines (style : Style) (package : Text) : List Text :=
  Style.packageLines package ++ style.imports.map Style.importLine ++ [[]] ++
    (if style.lombok then Style.lombokAnnotations else [])

/-- The lines after the constants and the empty line below them. -/
def bodyLines (style : Style) (typeName : Text) : List Text :=
  style.table typeName ++ (if style.lombok then [] else style.accessors typeName) ++
    style.lookups typeName

theorem sourceLines_eq (style : Style) (request : Request) :
    style.sourceLines request = headerLines style request.package ++
      Style.opening request.typeName :: [] :: (style.constants request.entries ++
        [] :: bodyLines style request.typeName) := by
  simp [Style.sourceLines, headerLines, bodyLines]

/-- A character of the fixed words of a source and of identifiers: printable ASCII without the
backslash. -/
def isFrameChar (c : CodePoint) : Bool :=
  32 ≤ c.toNat && c.toNat < 127 && c != '\\'

theorem isFrameChar_of_isIdentifierPart {c : CodePoint} (h : isIdentifierPart c = true) :
    isFrameChar c = true := by
  have hbackslash : c ≠ '\\' := by
    rintro rfl
    cases h
  simp only [isIdentifierPart, CodePoint.isAlphanum, CodePoint.isAlpha, Bool.or_eq_true,
    CodePoint.isUpper_iff_toNat, CodePoint.isLower_iff_toNat, CodePoint.isDigit_iff_toNat,
    beq_iff_eq] at h
  simp only [isFrameChar, Bool.and_eq_true, decide_eq_true_eq, bne_iff_ne]
  refine ⟨?_, hbackslash⟩
  rcases h with (h | rfl) | rfl
  · simp at h
    omega
  · decide
  · decide

theorem isInert_of_isFrameChar {c : CodePoint} (h : isFrameChar c = true) : isInert c = true := by
  by_contra hinert
  simp only [isInert, Bool.and_eq_true, bne_iff_ne, ne_eq, not_and_or, not_not] at hinert
  rcases hinert with (rfl | rfl) | rfl <;> exact absurd h (by decide)

section Frame

variable {style : Style} {request : Request} {p : CodePoint → Bool}

theorem all_line (hindent : style.indent.all p = true) {steps : Nat} {t : Text} :
    (style.line steps t).all p = true ↔ t.all p = true := by
  have hsteps : (List.replicate steps style.indent).flatten.all p = true := by
    rw [List.all_flatten, List.all_eq_true]
    intro indent hmem
    rw [List.eq_of_mem_replicate hmem]
    exact hindent
  rw [Style.line, List.all_append, hsteps, Bool.true_and]

variable (hp : ∀ c, isFrameChar c = true → p c = true)

include hp

theorem all_of_isFrameChar {t : Text} (h : t.all isFrameChar = true) : t.all p = true :=
  List.all_eq_true.2 fun c hc => hp c (List.all_eq_true.1 h c hc)

theorem all_of_isIdentifier {name : Text} (h : isIdentifier name = true) : name.all p = true :=
  List.all_eq_true.2 fun _ hc =>
    hp _ (isFrameChar_of_isIdentifierPart (isIdentifierPart_of_mem h hc))

theorem all_of_isPackage {package : Text} (h : isPackage package = true) :
    package.all p = true := by
  rw [isPackage, Bool.or_eq_true] at h
  rcases h with hempty | hparts
  · rw [List.isEmpty_iff.1 hempty]
    rfl
  · rw [List.all_eq_true] at hparts
    refine List.all_eq_true.2 fun c hc => ?_
    rcases Text.mem_of_splitOn (· == .char '.') hc with hpoint | ⟨part, hpart, hc⟩
    · rw [show c = '.' by simpa using hpoint]
      exact hp _ (by decide)
    · exact List.all_eq_true.1 (all_of_isIdentifier hp (hparts part hpart)) c hc

theorem all_ofInt (n : Int) : (Text.ofInt n).all p = true := by
  have hdigits : ∀ n, (Text.ofNat n).all p = true := by
    intro n
    refine List.all_eq_true.2 fun c hc => hp c (isFrameChar_of_isIdentifierPart ?_)
    simp [isIdentifierPart, CodePoint.isAlphanum, Text.isDigit_of_mem_ofNat hc]
  cases n with
  | ofNat n => exact hdigits n
  | negSucc n =>
    rw [Text.ofInt, List.all_cons, Bool.and_eq_true]
    exact ⟨hp _ (by decide), hdigits (n + 1)⟩

/-- **The lines around the constants** have only characters of the frame and of the indent. -/
theorem all_bodyLines (hindent : style.indent.all p = true)
    (hfault : fault? style request = none) :
    ∀ line ∈ bodyLines style request.typeName, line.all p = true := by
  obtain ⟨-, htype, -, ⟨hfind, hrequire, hlookup⟩, -⟩ := fault?_eq_none_iff.1 hfault
  have hwords : ∀ {t : Text}, t.all isFrameChar = true → t.all p = true := all_of_isFrameChar hp
  have htype := all_of_isIdentifier hp htype
  have hlookup := all_of_isIdentifier hp hlookup
  have hempty : (∀ line ∈ ([] : List Text), line.all p = true) ↔ True := by simp
  have htable : ∀ line ∈ style.table request.typeName, line.all p = true := by
    simp (disch := decide) only [Style.table, List.forall_mem_cons, all_line hindent,
      List.all_append, Bool.and_eq_true, htype, hlookup, hwords, hempty, and_true]
  have haccessors : ∀ line ∈ style.accessors request.typeName, line.all p = true := by
    simp (disch := decide) only [Style.accessors, List.forall_mem_cons, all_line hindent,
      List.all_append, Bool.and_eq_true, htype, hwords, hempty, and_true]
  have hlookups : ∀ line ∈ style.lookups request.typeName, line.all p = true := by
    simp (disch := decide) only [Style.lookups, List.forall_mem_cons, all_line hindent,
      List.all_append, Bool.and_eq_true, htype, all_of_isIdentifier hp hfind,
      all_of_isIdentifier hp hrequire, hlookup, hwords, hempty, and_true]
  simp only [bodyLines, List.forall_mem_append]
  refine ⟨⟨htable, ?_⟩, hlookups⟩
  split
  · simp
  · exact haccessors

theorem all_headerLines (hfault : fault? style request = none) :
    ∀ line ∈ headerLines style request.package, line.all p = true := by
  obtain ⟨-, -, hpackage, -, -⟩ := fault?_eq_none_iff.1 hfault
  suffices hframe : ∀ line ∈ headerLines style request.package, line.all isFrameChar = true from
    fun line hline => all_of_isFrameChar hp (hframe line hline)
  simp only [headerLines, List.forall_mem_append]
  refine ⟨⟨⟨?_, ?_⟩, by simp⟩, ?_⟩
  · rw [Style.packageLines]
    split
    · simp
    · simp only [List.forall_mem_cons, List.all_append, all_of_isPackage (fun _ => id) hpackage]
      decide
  · rw [Style.imports]
    split <;> decide
  · split <;> decide

theorem all_opening (hfault : fault? style request = none) :
    (Style.opening request.typeName).all p = true := by
  obtain ⟨-, htype, -⟩ := fault?_eq_none_iff.1 hfault
  have hwords : ∀ {t : Text}, t.all isFrameChar = true → t.all p = true := all_of_isFrameChar hp
  unfold Style.opening
  simp (disch := decide) only [List.all_append, all_of_isIdentifier hp htype, hwords, Bool.and_self]

end Frame

theorem inert_of_isIdentifier {name : Text} (h : isIdentifier name = true) : Inert name :=
  all_of_isIdentifier (fun _ => isInert_of_isFrameChar) h

theorem inert_ofInt (n : Int) : Inert (Text.ofInt n) :=
  all_ofInt (fun _ => isInert_of_isFrameChar) n

/-- A line of the header does not start like the opening of an enum. -/
theorem startsWith_headerLines (style : Style) (package : Text) :
    ∀ line ∈ headerLines style package, Text.startsWith "public enum " line = false := by
  simp only [headerLines, List.forall_mem_append]
  refine ⟨⟨⟨?_, ?_⟩, by simp; decide⟩, ?_⟩
  · rw [Style.packageLines]
    split
    · simp
    · simp only [List.forall_mem_cons]
      exact ⟨rfl, by decide⟩
  · rw [Style.imports]
    split <;> decide
  · split <;> decide

/-! ## The lines of a source -/

/-- What a source must not have in places that a request leaves open: line ends in descriptions,
and an indent of other characters than spaces and tabs. -/
structure Plain (style : Style) (request : Request) : Prop where
  descriptions : ∀ entry ∈ request.entries, .char '\n' ∉ entry.description ∧
    .char '\r' ∉ entry.description
  indent : ∀ c ∈ style.indent, c = ' ' ∨ c = '\t'

theorem plain_parse (raw : Text) :
    ∀ entry ∈ Entry.parse raw, .char '\n' ∉ entry.description ∧ .char '\r' ∉ entry.description := by
  intro entry hentry
  have hchars := (Entry.valid_parse raw).description_chars entry hentry
  exact ⟨fun hmem => absurd (hchars _ hmem) (by decide),
    fun hmem => absurd (hchars _ hmem) (by decide)⟩

section Render

variable {style : Style} {request : Request}

namespace Plain

theorem isIndent (h : Plain style request) : ∀ c ∈ style.indent, isIndent c = true := by
  intro c hc
  rcases h.indent c hc with rfl | rfl <;> rfl

theorem inert_indent (h : Plain style request) : Inert style.indent := by
  refine List.all_eq_true.2 fun c hc => ?_
  rcases h.indent c hc with rfl | rfl <;> rfl

theorem readable (h : Plain style request) (hfault : fault? style request = none) :
    ∀ entry ∈ request.entries, Readable entry := by
  obtain ⟨-, -, -, -, hconstants⟩ := fault?_eq_none_iff.1 hfault
  have hnames := (constantFault?_eq_none_iff.1 hconstants).1
  exact fun entry hentry =>
    ⟨hnames entry hentry, (h.descriptions entry hentry).1, (h.descriptions entry hentry).2⟩

end Plain

theorem mem_constants {line : Text} (h : line ∈ style.constants request.entries) :
    ∃ entry ∈ request.entries, ∃ terminator : CodePoint, (terminator = ';' ∨ terminator = ',') ∧
      line = style.constant entry ++ [terminator] := by
  obtain ⟨i, hi⟩ := List.mem_iff_getElem?.1 h
  rw [getElem?_constants, Option.map_eq_some_iff] at hi
  obtain ⟨entry, hentry, rfl⟩ := hi
  refine ⟨entry, List.mem_of_getElem? hentry, _, ?_, rfl⟩
  split
  · exact .inl rfl
  · exact .inr rfl

theorem oneLine_constant (hindent : Inert style.indent) {entry : Entry} (h : Readable entry) :
    OneLine (style.constant entry) := by
  have hliteral : OneLine (literal entry.description) := by
    rw [literal, oneLine_cons, oneLine_append]
    exact ⟨by decide, oneLine_escape h.description, by simp [OneLine]⟩
  rw [constant_eq]
  simp only [oneLine_append, oneLine_cons, hindent.oneLine, (inert_of_isIdentifier h.name).oneLine,
    (inert_ofInt entry.code).oneLine, hliteral]
  simp [OneLine]

theorem closed_constant (hindent : Closed style.indent) {entry : Entry}
    (hname : isIdentifier entry.name = true) : Closed (style.constant entry) := by
  have hdescription : Closed (literal entry.description ++ [.char ')']) :=
    (closed_literal entry.description).append (closed_singleton (by decide))
  have hcode : Closed (Text.ofInt entry.code ++
      .char ',' :: .char ' ' :: (literal entry.description ++ [.char ')'])) :=
    (inert_ofInt entry.code).closed.append
      (closed_cons (by decide) (closed_cons (by decide) hdescription))
  rw [constant_eq]
  exact hindent.append
    ((inert_of_isIdentifier hname).closed.append (closed_cons (by decide) hcode))

theorem startsWith_opening (typeName : Text) :
    Text.startsWith "public enum " (Style.opening typeName) = true := by
  unfold Style.opening
  rw [List.append_assoc]
  rfl

/-- The lines of an accepted request hold no line end, and none leaves a backslash open. -/
theorem oneLine_and_closed_of_mem_sourceLines (hplain : Plain style request)
    (hfault : fault? style request = none) :
    ∀ line ∈ style.sourceLines request, OneLine line ∧ Closed line := by
  have hinert : ∀ line, Inert line → OneLine line ∧ Closed line :=
    fun _ h => ⟨h.oneLine, h.closed⟩
  have hempty : Inert [] := by decide
  have hframe : ∀ c, isFrameChar c = true → isInert c = true := fun _ => isInert_of_isFrameChar
  have hconstants : ∀ line ∈ style.constants request.entries, OneLine line ∧ Closed line := by
    intro line hline
    obtain ⟨entry, hentry, terminator, hterminator, rfl⟩ := mem_constants hline
    have hreadable := hplain.readable hfault entry hentry
    have hend : Inert [terminator] := by rcases hterminator with rfl | rfl <;> decide
    exact ⟨oneLine_append.2 ⟨oneLine_constant hplain.inert_indent hreadable, hend.oneLine⟩,
      (closed_constant hplain.inert_indent.closed hreadable.name).append hend.closed⟩
  -- Only constants hold quotes; everything around them is inert.
  rw [sourceLines_eq]
  simp only [List.forall_mem_append, List.forall_mem_cons]
  exact ⟨fun line hline => hinert line (all_headerLines hframe hfault line hline),
    hinert _ (all_opening hframe hfault), hinert _ hempty, hconstants, hinert _ hempty,
    fun line hline => hinert line (all_bodyLines hframe hplain.inert_indent hfault line hline)⟩

/-- **The lines of a source are the lines it was written from**, and an empty one at the end. -/
theorem linesOf_render (hplain : Plain style request) (hfault : fault? style request = none) :
    linesOf (render style request) = headerLines style request.package ++
      Style.opening request.typeName :: [] :: (style.constants request.entries ++
        [] :: (bodyLines style request.typeName ++ [[]])) := by
  have hlines := linesOf_flatMap fun line hline =>
    (oneLine_and_closed_of_mem_sourceLines hplain hfault line hline).1
  rw [sourceLines_eq] at hlines
  rw [render, sourceLines_eq]
  simpa using hlines

theorem not_hasUnicodeEscape_render (hplain : Plain style request)
    (hfault : fault? style request = none) : ¬HasUnicodeEscape (render style request) :=
  not_hasUnicodeEscape_of_scan (Closed.flatMap fun line hline =>
    (oneLine_and_closed_of_mem_sourceLines hplain hfault line hline).2.append
      (closed_singleton (by decide)))

theorem not_isBlankLine_constant {line : Text} (h : line ∈ style.constants request.entries) :
    isBlankLine line = false := by
  obtain ⟨entry, -, terminator, -, rfl⟩ := mem_constants h
  rw [← Bool.not_eq_true, isBlankLine, List.all_eq_true]
  intro hall
  exact absurd (hall '(' (by simp [constant_eq])) (by decide)

/-- **The constants are the lines from the opening to the next blank line.** -/
theorem constantLines_render (hplain : Plain style request) (hfault : fault? style request = none) :
    constantLines (render style request) = style.constants request.entries := by
  have hheader : ∀ line ∈ headerLines style request.package,
      (!Text.startsWith "public enum " line) = true := fun line hline => by
    rw [startsWith_headerLines style request.package line hline]
    rfl
  have hopening : ∀ rest : List Text, ∀ line ∈ (Style.opening request.typeName :: rest).head?,
      (!Text.startsWith "public enum " line) = false := by
    rintro rest line ⟨⟩
    rw [startsWith_opening]
    rfl
  have hconstants : ∀ line ∈ style.constants request.entries, (!isBlankLine line) = true :=
    fun line hline => by simp [not_isBlankLine_constant hline]
  have hempty : isBlankLine [] = true := rfl
  -- The constants begin behind the line that opens the enum, and end at the next empty line.
  rw [constantLines, linesOf_render hplain hfault,
    Text.dropWhile_run hheader (hopening _)]
  dsimp only
  rw [if_pos hempty, Text.takeWhile_run hconstants (by simp [hempty])]

theorem readEntries_render (hplain : Plain style request) (hfault : fault? style request = none) :
    readEntries (render style request) = some request.entries := by
  rw [readEntries, constantLines_render hplain hfault]
  exact readConstants_constants hplain.isIndent (fault?_eq_none_iff.1 hfault).1
    (hplain.readable hfault)

end Render

/-! ## Reading back -/

/-- `lines` stand in a source after the opening of the enum and an empty line, up to the next blank
line. -/
def ConstantsOf (source typeName : Text) (lines : List Text) : Prop :=
  ∃ before after,
    linesOf source = before ++ Style.opening typeName :: [] :: (lines ++ [] :: after) ∧
      Style.opening typeName ∉ before ∧ ∀ line ∈ lines, isBlankLine line = false

/-- Each line spells the entry in its place, with a semicolon after the last and a comma after the
others. -/
def SpellAll (indent : Text) (entries : List Entry) (lines : List Text) : Prop :=
  lines.length = entries.length ∧
    ∀ i entry, entries[i]? = some entry →
      ∃ line, lines[i]? = some line ∧
        Spells indent entry (if i + 1 = entries.length then ';' else ',') line

section Source

variable {style : Style} {request : Request}

theorem constantsOf_render (hplain : Plain style request) (hfault : fault? style request = none) :
    ConstantsOf (render style request) request.typeName (style.constants request.entries) := by
  refine ⟨_, _, linesOf_render hplain hfault, fun hmem => ?_, fun _ => not_isBlankLine_constant⟩
  have hstart := startsWith_headerLines style request.package _ hmem
  rw [startsWith_opening] at hstart
  cases hstart

theorem spellAll_constants (hreadable : ∀ entry ∈ request.entries, Readable entry) :
    SpellAll style.indent request.entries (style.constants request.entries) := by
  refine ⟨length_constants style request.entries, fun i entry hentry => ?_⟩
  refine ⟨_, by rw [getElem?_constants, hentry, Option.map_some], ?_⟩
  exact spells_constant (hreadable entry (List.mem_of_getElem? hentry)) _

end Source

/-- **The constants of a source are read back without loss.** They stand one a line in the order of
the entries, no Unicode escape disturbs them, and reading them gives the entries of the request. So
sources of different entries differ. -/
theorem generate_read_back (style : Style) (request : Request) (source : Text)
    (hsource : generate style request = .ok source) (hplain : Plain style request) :
    (∃ lines, ConstantsOf source request.typeName lines ∧
      SpellAll style.indent request.entries lines) ∧
    ¬HasUnicodeEscape source ∧
    readEntries source = some request.entries ∧
    (∀ style' request', generate style' request' = .ok source → Plain style' request' →
      request'.entries = request.entries) ∧
    ∀ raw, ∀ entry ∈ Entry.parse raw, .char '\n' ∉ entry.description ∧
      .char '\r' ∉ entry.description := by
  obtain ⟨hfault, rfl⟩ := generate_eq_ok_iff.1 hsource
  have hread := readEntries_render hplain hfault
  refine ⟨⟨_, constantsOf_render hplain hfault, spellAll_constants (hplain.readable hfault)⟩,
    not_hasUnicodeEscape_render hplain hfault, hread, ?_, plain_parse⟩
  intro style' request' hsource' hplain'
  obtain ⟨hfault', hrender⟩ := generate_eq_ok_iff.1 hsource'
  rw [hrender, readEntries_render hplain' hfault'] at hread
  exact Option.some.inj hread

/-- Descriptions with backslashes at either end, and one spelled like the end of its constant and
another constant. -/
theorem generate_read_back_escapes :
    let style : Style := { indent := "\t" }
    let request : Request :=
      ⟨"a.b", "T", [⟨"A", -5, "\\u0041\\"⟩, ⟨"B_2", 7, "x\"), C(1, \"y\");"⟩]⟩
    let source := render style request
    generate style request = .ok source ∧ Plain style request ∧ ¬HasUnicodeEscape source ∧
      readEntries source = some request.entries := by
  intro style request source
  have hsource : generate style request = .ok source :=
    generate_eq_ok_iff.2 ⟨by decide, rfl⟩
  have hplain : Plain style request := ⟨by decide, by simp [style]⟩
  obtain ⟨-, hescape, hread, -⟩ := generate_read_back style request source hsource hplain
  exact ⟨hsource, hplain, hescape, hread⟩

end DocEnum.Java
