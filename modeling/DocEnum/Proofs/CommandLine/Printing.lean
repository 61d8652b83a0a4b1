import DocEnum.Proofs.CommandLine.Agreement

/-!
# Printing a source instead of writing it

The command that makes an enum from a comment writes its source to a file, or prints it on request.

**Two ends of one command** (`Work.produce`). Up to the last step the command does the same, whether
it prints or writes: it reads the comment and its entries, and stops if there are none. In the last
step nothing but the source of the request is printed (`advance_printSource`), and the same source
is written (`read_of_writeFile`). Every other way ends with a fault or with code one.

**Theorem (`prints_what_it_writes`).** If both forms of the command succeed, the printed text is
what a console shows of the written one. It is the written text itself if and only if no description
holds a tab or one of the controls U+0007 and U+0008: these are not escaped, and no other character
of a source is changed by a console. Line breaks of all kinds, which a console would change too, are
not in any description.

The exception is real: a tab in a comment is printed as spaces (`not_printsContent`).
-/

namespace DocEnum

open World CommandLine

variable {w w₂ : World}

/-! ## Reading a comment -/

namespace World

variable {output : Text} {path : Path}

/-- The comment at a path, or in the input stream for a single hyphen. -/
def commentOf (w : World) (path : Path) : Except Error Text :=
  if path.text = ("-" : Text) then Workspace.text w.input
  else (w.perform (Workspace.readText path)).1

theorem advance_perform {α : Type} (work : ExceptT Error (StateM World) α) :
    w.advance output (Work.perform work) =
      (((w.perform work).1.mapError Ending.error, output), (w.perform work).2) := by
  unfold Work.perform
  rw [advance_bind, advance_attempt]
  rcases w.perform work with ⟨_ | _, w'⟩ <;> rfl

theorem perform_isFile_snd (w : World) (path : Path) :
    (w.perform (Workspace.isFile path)).2 = w := by
  have hkind : w.act (Workspace.kind path) = (w.store.kind path, w) := rfl
  unfold Workspace.isFile
  rw [perform_bind, perform_lift, hkind]
  rcases w.store.kind path with ⟨cause, path⟩ | kind
  · cases cause <;> rfl
  · rfl

/-- **A comment is read**, or the command ends with an error or a fault. -/
theorem advance_readComment (w : World) (output : Text) (path : Path) :
    ∃ outcome, w.advance output (Work.readComment path) = ((outcome, output), w) ∧
      (∀ text, outcome = .ok text → w.commentOf path = .ok text) ∧
      ∀ code, outcome ≠ .error (.exit code) := by
  -- An error of reading is an ending, but never an exit code.
  have hread : ∀ (read : Except Error Text),
      (∀ text, read.mapError Ending.error = .ok text → read = .ok text) ∧
        ∀ code, read.mapError Ending.error ≠ .error (.exit code) := by
    rintro (e | text)
    · exact ⟨fun _ h => (nomatch h), fun _ h => (nomatch h)⟩
    · exact ⟨fun _ h => congrArg Except.ok (Except.ok.inj h), fun _ h => (nomatch h)⟩
  unfold Work.readComment commentOf
  by_cases hpath : path.text = ("-" : Text)
  · rw [if_pos hpath, if_pos hpath]
    have hinput : w.advance output (ExceptT.lift (StateT.lift Workspace.input)) =
        ((.ok w.input, output), w) := rfl
    refine ⟨_, ?_, hread (Workspace.text w.input)⟩
    rw [advance_bind, hinput]
    exact advance_perform _
  · rw [if_neg hpath, if_neg hpath]
    have hfile := perform_isFile_snd w path
    unfold Work.expectFile
    rw [bind_assoc, advance_bind, advance_perform]
    rcases hkind : w.perform (Workspace.isFile path) with ⟨e | present, w'⟩
    · rw [hkind] at hfile
      subst hfile
      exact ⟨_, rfl, fun _ h => (nomatch h), fun _ h => (nomatch h)⟩
    · rw [hkind] at hfile
      subst hfile
      cases present with
      | false => exact ⟨_, rfl, fun _ h => (nomatch h), fun _ h => (nomatch h)⟩
      | true =>
        refine ⟨_, ?_, hread (w'.perform (Workspace.readText path)).1⟩
        show w'.advance output (Work.perform (Workspace.readText path)) = _
        rw [advance_perform, perform_readText]

/-- The entries of a comment, with the surroundings after their records. -/
theorem perform_entriesOf (w : World) (text : Text) :
    w.perform (ExceptT.lift (Java.Request.entriesOf text)) =
      (.ok (Entry.parse text), (w.act (Workspace.recordAll (Entry.parseLog text))).2) := by
  show w.perform (liftM (Java.Request.entriesOf (m := StateM World) text)) = _
  rw [perform_lift, act_entriesOf]

/-- **The entries of a comment are read**, or the command ends with an error or a fault. -/
theorem advance_readEntries (w : World) (output : Text) (path : Path) :
    ∃ outcome w', w.advance output (Work.readEntries path) = ((outcome, output), w') ∧
      w'.store = w.store ∧
      (∀ entries, outcome = .ok entries →
        ∃ text, w.commentOf path = .ok text ∧ entries = Entry.parse text) ∧
      ∀ code, outcome ≠ .error (.exit code) := by
  obtain ⟨outcome, hadvance, hcomment, hexit⟩ := advance_readComment w output path
  unfold Work.readEntries
  rw [advance_bind, hadvance]
  cases outcome with
  | error ending =>
    refine ⟨_, w, rfl, rfl, fun _ h => (nomatch h), fun code h => hexit code ?_⟩
    rw [Except.error.inj h]
  | ok text =>
    have hentries := perform_entriesOf w text
    refine ⟨_, _, advance_perform _, ?_, ?_, ?_⟩ <;> simp only [hentries, Except.mapError]
    · exact store_act_recordAll w (Entry.parseLog text)
    · intro entries hentries
      exact ⟨text, hcomment text rfl, (Except.ok.inj hentries).symm⟩
    · exact fun _ h => (nomatch h)

end World

/-! ## Producing -/

namespace CommandLine

variable {request : Java.Request} {style : Java.Style} {directory : Path} {force stdout : Bool}

theorem output_of_ok (output : Text) : (Report.of (.ok (), output)).output = output := rfl

/-- A text that was delivered can be read at its place. -/
theorem read_of_placed {s s₁ s' : File.Store} {d : File.Location} {name : Text} {overwrite : Bool}
    {bytes : List UInt8} (h : Placed s s₁ directory d name overwrite bytes s') :
    s'.read (File.Store.child directory name) = .ok bytes := by
  have hnode := h.get? (d ++ [Utf8.bytes name])
  rw [if_pos rfl] at hnode
  unfold File.Store.read
  rw [File.Store.resolve_of_keeps h.keeps h.resolve_target]
  simp only [hnode]

/-- A written source stands at its place. -/
theorem read_of_writeFile {path : Path}
    (h : w.perform (request.writeFile directory style force) = (.ok path, w₂)) :
    ∃ content bytes, Java.generate style request = .ok content ∧
      Utf8.encode content = .ok bytes ∧
      w₂.store.read (directory.join request.fileName) = .ok bytes := by
  have hcame : (draftOf request).Came style directory force w.store w₂.store (.ok path) :=
    came_writeFile h
  cases hcame with
  | delivered hrequest hsource hdelivered =>
    obtain rfl := Option.some.inj hrequest
    cases hdelivered with
    | written hbytes hplaced =>
      have htype := (Java.fault?_eq_none_iff.1 (Java.generate_eq_ok_iff.1 hsource).1).2.1
      have hname : File.Store.IsProper request.fileName := isProper_fileName htype
      refine ⟨_, _, hsource, hbytes, ?_⟩
      rw [hname.join_eq]
      exact read_of_placed hplaced

section Ends

variable [Display]

/-- Some work ends a command with success. -/
def Ends (w : World) (work : Work (StateM World) Unit) : Prop :=
  (Report.of (w.advance [] work).1).ending = .exit 0

theorem not_ends_warn_bind (w : World) (message : Text)
    (next : Unit → Work (StateM World) Unit) : ¬Ends w (Work.warn message >>= next) := by
  unfold Ends
  rw [advance_bind, advance_warn]
  cases Display.message (warning message) with
  | ok shown => exact fun h => absurd (Ending.exit.inj h) (by decide)
  | error fault => exact fun h => nomatch h

theorem not_ends_failGeneration (w : World) (e : Error) : ¬Ends w (Work.failGeneration e) := by
  unfold Work.failGeneration
  split
  · rw [← bind_pure (Work.warn e.message)]
    exact not_ends_warn_bind w e.message pure
  · split <;> exact fun h => (nomatch h)

/-- **Printing** shows the source of a request, and changes nothing. -/
theorem advance_printSource (h : Ends w (Work.printSource style request)) :
    ∃ content shown, Java.generate style request = .ok content ∧
      Display.data content = .ok shown ∧
      w.advance [] (Work.printSource style request) = ((.ok (), shown ++ [.char '\n']), w) := by
  unfold Ends Work.printSource Java.synthesize at h
  unfold Work.printSource Java.synthesize
  cases hsource : Java.generate style request with
  | error fault =>
    rw [hsource] at h
    exact absurd h (not_ends_failGeneration w (.request fault))
  | ok content =>
    simp only [hsource, Except.map] at h ⊢
    cases hshown : Display.data content with
    | error fault =>
      rw [hshown] at h
      exact absurd h (not_ends_failGeneration w fault.error)
    | ok shown => exact ⟨content, shown, rfl, hshown, rfl⟩

/-- **Writing** puts the source of a request into its file. -/
theorem advance_writeSource (h : Ends w (Work.writeSource directory style force request)) :
    ∃ content bytes, Java.generate style request = .ok content ∧
      Utf8.encode content = .ok bytes ∧
      (w.advance [] (Work.writeSource directory style force request)).2.store.read
        (directory.join request.fileName) = .ok bytes := by
  unfold Ends Work.writeSource at h
  unfold Work.writeSource
  rcases hwrite : w.perform (request.writeFile directory style force) with ⟨e | path, w₂⟩
  · rw [advance_attempt_bind hwrite] at h
    exact absurd h (not_ends_failGeneration w₂ e)
  · obtain ⟨content, bytes, hsource, hbytes, hread⟩ := read_of_writeFile hwrite
    have hquiet : (w₂.advance [] (Work.conclude request (.ok path))).2 = w₂ :=
      advance_print_snd w₂ [] _
    refine ⟨content, bytes, hsource, hbytes, ?_⟩
    rw [advance_attempt_bind hwrite, hquiet]
    exact hread

/-- **Up to the last step** the work on a comment is the same, printing or writing. -/
theorem exists_advance_generate {comment : Path} {typeName package : Text} {lombok : Bool}
    (h : Ends w (Work.generate comment typeName package directory lombok force stdout)) :
    ∃ text, ∃ w₁ : World, w.commentOf comment = .ok text ∧
      w.advance [] (Work.generate comment typeName package directory lombok force stdout) =
        w₁.advance [] (Work.produce directory { lombok } force stdout
          ⟨package, typeName, Entry.parse text⟩) := by
  obtain ⟨outcome, w₁, hadvance, -, hcomment, hexit⟩ := advance_readEntries w [] comment
  unfold Ends Work.generate at h
  unfold Work.generate
  rw [advance_bind, hadvance] at h ⊢
  cases outcome with
  | error ending => exact absurd (congrArg Except.error h) (hexit 0)
  | ok entries =>
    obtain ⟨text, htext, rfl⟩ := hcomment entries rfl
    refine ⟨text, w₁, htext, ?_⟩
    simp only at h ⊢
    -- Without entries there is a warning, which is no success.
    cases hentries : Entry.parse text with
    | nil =>
      rw [hentries] at h
      exact absurd h (not_ends_warn_bind _ _ _)
    | cons entry rest => rfl

end Ends

/-! ## Printing and writing -/

theorem isVerbatim_of_isFrameChar {c : CodePoint} (h : Java.isFrameChar c = true) :
    Console.isVerbatim c = true := by
  have htab : c ≠ '\t' := by
    rintro rfl
    cases h
  simp only [Java.isFrameChar, Bool.and_eq_true, decide_eq_true_eq] at h
  simp only [Console.isVerbatim, Console.isDropped, Bool.and_eq_true, Bool.not_eq_true',
    Bool.or_eq_false_iff, beq_eq_false_iff_ne, bne_iff_ne]
  exact ⟨by omega, htab⟩

/-- **A source is shown as it is** if and only if its descriptions are. -/
theorem shown_source_iff {package typeName content : Text} {entries : List Entry} {lombok : Bool}
    (h : Java.generate { lombok } ⟨package, typeName, entries⟩ = .ok content) :
    Console.shown content = content ↔
      ∀ entry ∈ entries, entry.description.all Console.isVerbatim = true := by
  obtain ⟨hfault, rfl⟩ := Java.generate_eq_ok_iff.1 h
  have hindent : ("    " : Text).all Console.isVerbatim = true := by decide
  rw [Console.shown_eq_self_iff, ← List.all_eq_true]
  exact Java.all_render_iff (fun _ => isVerbatim_of_isFrameChar) (by decide) (by decide) hindent
    hfault

/-- No tab and no control that a console does not show. -/
def WithoutControls (description : Text) : Prop :=
  .char '\t' ∉ description ∧ .char '\x07' ∉ description ∧ .char '\x08' ∉ description

instance (description : Text) : Decidable (WithoutControls description) :=
  inferInstanceAs (Decidable (_ ∧ _))

/-- No other control that a console does not show is in any description. -/
theorem all_isVerbatim_iff {text : Text} {entry : Entry} (h : entry ∈ Entry.parse text) :
    entry.description.all Console.isVerbatim = true ↔ WithoutControls entry.description := by
  obtain ⟨-, -, hvalid⟩ := Entry.parse_respects_dataModel text
  obtain ⟨-, -, hchars⟩ := hvalid entry h
  rw [List.all_eq_true]
  constructor
  · intro hall
    refine ⟨?_, ?_, ?_⟩ <;> exact fun hmem => absurd (hall _ hmem) (by decide)
  · -- A description of the parser has no line break; the other dropped controls are ruled out.
    rintro ⟨htab, hbell, hback⟩ c hc
    obtain ⟨-, -, hbreak⟩ := hchars c hc
    have htab : c ≠ '\t' := fun heq => htab (heq ▸ hc)
    have hbell : c.toNat ≠ 7 := by
      intro heq
      obtain rfl : c = '\x07' := CodePoint.toNat_inj.1 heq
      exact hbell hc
    have hback : c.toNat ≠ 8 := by
      intro heq
      obtain rfl : c = '\x08' := CodePoint.toNat_inj.1 heq
      exact hback hc
    simp only [Text.isLineBreak, Bool.or_eq_false_iff, Bool.and_eq_false_iff,
      decide_eq_false_iff_not] at hbreak
    simp only [Console.isVerbatim, Console.isDropped, Bool.and_eq_true, Bool.not_eq_true',
      Bool.or_eq_false_iff, beq_eq_false_iff_ne, bne_iff_ne]
    exact ⟨by omega, htab⟩

section Succeeding

variable [Display] [JsonWriter] [YamlLibrary]

/-- A command succeeds in some surroundings. -/
def Succeeds (w : World) (command : Command) : Prop :=
  (w.act command.run).1.ending = .exit 0

theorem ends_of_succeeds {command : Command} (h : Succeeds w command) : Ends w command.work := by
  unfold Succeeds at h
  rwa [act_run] at h

variable {comment directory' : Path} {typeName package : Text} {lombok force' : Bool}

/-- **A successful command** on a comment comes to its last step. -/
theorem exists_act_generate {stdout : Bool}
    (h : Succeeds w (.generate comment typeName package directory lombok force stdout)) :
    ∃ text, ∃ w₁ : World, w.commentOf comment = .ok text ∧
      Ends w₁ (Work.produce directory { lombok } force stdout
        ⟨package, typeName, Entry.parse text⟩) ∧
      w.act (Command.generate comment typeName package directory lombok force stdout).run =
        (.of (w₁.advance [] (Work.produce directory { lombok } force stdout
            ⟨package, typeName, Entry.parse text⟩)).1,
          (w₁.advance [] (Work.produce directory { lombok } force stdout
            ⟨package, typeName, Entry.parse text⟩)).2) := by
  have hends : Ends w (Work.generate comment typeName package directory lombok force stdout) :=
    ends_of_succeeds h
  obtain ⟨text, w₁, hcomment, hadvance⟩ := exists_advance_generate hends
  refine ⟨text, w₁, hcomment, ?_, ?_⟩
  · unfold Ends
    rw [← hadvance]
    exact hends
  · rw [← hadvance]
    exact act_run _

theorem exists_printed
    (h : Succeeds w (.generate comment typeName package directory lombok force true)) :
    ∃ text content shown, w.commentOf comment = .ok text ∧
      Java.generate { lombok } ⟨package, typeName, Entry.parse text⟩ = .ok content ∧
      Display.data content = .ok shown ∧
      (w.act (Command.generate comment typeName package directory lombok force true).run).1.output =
        shown ++ [.char '\n'] := by
  obtain ⟨text, w₁, hcomment, hends, hrun⟩ := exists_act_generate h
  unfold Work.produce at hends hrun
  rw [if_pos rfl] at hends hrun
  obtain ⟨content, shown, hsource, hshown, hprinted⟩ := advance_printSource hends
  refine ⟨text, content, shown, hcomment, hsource, hshown, ?_⟩
  rw [hrun, hprinted, output_of_ok]

theorem exists_written
    (h : Succeeds w (.generate comment typeName package directory lombok force false)) :
    ∃ text content bytes, w.commentOf comment = .ok text ∧
      Java.generate { lombok } ⟨package, typeName, Entry.parse text⟩ = .ok content ∧
      Utf8.encode content = .ok bytes ∧
      (w.act (Command.generate comment typeName package directory lombok force
        false).run).2.store.read (directory.join (Java.fileName typeName Java.extension)) =
          .ok bytes := by
  obtain ⟨text, w₁, hcomment, hends, hrun⟩ := exists_act_generate h
  unfold Work.produce at hends hrun
  rw [if_neg Bool.false_ne_true] at hends hrun
  obtain ⟨content, bytes, hsource, hbytes, hread⟩ := advance_writeSource hends
  have hname : Java.Request.fileName ⟨package, typeName, Entry.parse text⟩ =
      Java.fileName typeName Java.extension := rfl
  rw [hname] at hread
  refine ⟨text, content, bytes, hcomment, hsource, hbytes, ?_⟩
  simp only [hrun, hread]

/-- **Both ways a command has one content.** It prints what a console shows of the content that it
writes to the file of the enum. -/
theorem exists_content [Display.Lawful]
    (hprint : Succeeds w (.generate comment typeName package directory lombok force true))
    (hwrite : Succeeds w (.generate comment typeName package directory' lombok force' false)) :
    ∃ text content bytes, w.commentOf comment = .ok text ∧
      Java.generate { lombok } ⟨package, typeName, Entry.parse text⟩ = .ok content ∧
      Utf8.encode content = .ok bytes ∧
      (w.act (Command.generate comment typeName package directory' lombok force'
        false).run).2.store.read (directory'.join (Java.fileName typeName Java.extension)) =
          .ok bytes ∧
      (w.act (Command.generate comment typeName package directory lombok force true).run).1.output =
        Console.shown content ++ [.char '\n'] := by
  obtain ⟨text, content, shown, hcomment, hsource, hshown, hprinted⟩ := exists_printed hprint
  obtain ⟨text', content', bytes, hcomment', hsource', hbytes, hread⟩ := exists_written hwrite
  obtain rfl : text = text' := Except.ok.inj (hcomment.symm.trans hcomment')
  obtain rfl : content = content' := Except.ok.inj (hsource.symm.trans hsource')
  -- What could be written has bytes, so the display shows it as data.
  have hdata := Display.Lawful.data_eq (Utf8.encode_eq_ok_iff.1 hbytes).1
  obtain rfl := Except.ok.inj (hshown.symm.trans hdata)
  exact ⟨text, content, bytes, hcomment, hsource, hbytes, hread, hprinted⟩

/-- **Printing shows what writing writes.** If a command on a comment succeeds both ways, it prints
what a console shows of the content that it writes to the file of the enum, and one line feed. This
is the content itself if and only if no description holds a tab or one of two controls. -/
theorem prints_what_it_writes [Display.Lawful]
    (hprint : Succeeds w (.generate comment typeName package directory lombok force true))
    (hwrite : Succeeds w (.generate comment typeName package directory' lombok force' false)) :
    ∃ text content bytes, w.commentOf comment = .ok text ∧
      Java.generate { lombok } ⟨package, typeName, Entry.parse text⟩ = .ok content ∧
      Utf8.encode content = .ok bytes ∧
      (w.act (Command.generate comment typeName package directory' lombok force'
        false).run).2.store.read (directory'.join (Java.fileName typeName Java.extension)) =
          .ok bytes ∧
      (w.act (Command.generate comment typeName package directory lombok force true).run).1.output =
        Console.shown content ++ [.char '\n'] ∧
      (Console.shown content = content ↔
        ∀ entry ∈ Entry.parse text, WithoutControls entry.description) := by
  obtain ⟨text, content, bytes, hcomment, hsource, hbytes, hread, hprinted⟩ :=
    exists_content hprint hwrite
  refine ⟨text, content, bytes, hcomment, hsource, hbytes, hread, hprinted, ?_⟩
  rw [shown_source_iff hsource]
  exact forall₂_congr fun entry hentry => all_isVerbatim_iff hentry

end Succeeding

/-- Surroundings with a comment in a file. -/
def withComment (comment : Text) : World :=
  ⟨⟨[([Utf8.bytes "c.txt"], .file (Utf8.bytes comment))], []⟩, [], []⟩

/-- The command that makes an enum from the comment in the file. -/
def generateT (stdout : Bool) : Command :=
  .generate (Path.ofText "c.txt") "T" [] .current true false stdout

section Comments

variable [Display] [Display.Lawful] [JsonWriter] [YamlLibrary] {comment : Text}

theorem succeeds_print (htext : Workspace.text (Utf8.bytes comment) = .ok comment)
    (hbytes : Utf8.Encodable comment)
    (hfault : Java.fault? { } ⟨[], "T", Entry.parse comment⟩ = none) :
    Succeeds (withComment comment) (generateT true) := by
  let w := withComment comment
  have hpath : (Path.ofText "c.txt").text ≠ ("-" : Text) := by decide
  have hfile : w.store.read (Path.ofText "c.txt") = .ok (Utf8.bytes comment) := rfl
  have hsource := Java.generate_eq_ok_iff.2 ⟨hfault, rfl⟩
  have hcontent := Java.encodable_generate hsource (by decide) (by
    simp only
    exact Java.encodable_descriptions hbytes)
  have hne := (Java.fault?_eq_none_iff.1 hfault).1
  unfold Succeeds
  rw [act_run]
  show (Report.of (w.advance [] (Work.generate (Path.ofText "c.txt") "T" [] .current true false
    true)).1).ending = .exit 0
  unfold Work.generate Work.readEntries Work.produce Work.printSource Java.synthesize
  rw [bind_assoc, advance_readComment_bind hpath hfile,
    advance_perform_bind (perform_readText_ok hfile htext),
    advance_perform_bind (perform_entriesOf w comment)]
  unfold Work.expectEntries
  rw [if_neg (by simpa using hne), if_pos rfl, hsource]
  simp only [Except.map, Display.Lawful.data_eq hcontent]
  rfl

theorem succeeds_write (htext : Workspace.text (Utf8.bytes comment) = .ok comment)
    (hjob : ((withComment comment).perform (Recipe.job
      (.comment (Path.ofText "c.txt") "T" [] .current) [] true false).run).1.toOption.bind
        Result.file? = some (Path.ofText "T.java")) :
    Succeeds (withComment comment) (generateT false) := by
  have hpath : (Path.ofText "c.txt").text ≠ ("-" : Text) := by decide
  have hfile : (withComment comment).store.read (Path.ofText "c.txt") =
      .ok (Utf8.bytes comment) := rfl
  obtain ⟨result, hrun, hwritten⟩ := exists_perform_eq_ok hjob
  have hanswers := answers_run (w := withComment comment)
    (.comment (Path.ofText "c.txt") "T" [] .current) [] true false hpath hfile htext
  exact hanswers.1.corresponds.announces (congrArg Prod.fst hrun) hwritten (by decide) (by decide)

end Comments

/-- A comment of one entry. -/
theorem prints_what_it_writes_plain :
    let _ : Display := Console.display 80
    let _ : JsonWriter := Json.writer
    let _ : YamlLibrary := Yaml.library
    let w := withComment "1-a"
    Display.Lawful ∧ Succeeds w (generateT true) ∧ Succeeds w (generateT false) ∧
      ∃ content, (w.act (generateT false).run).2.store.read (Path.ofText "T.java") =
          .ok (Utf8.bytes content) ∧
        (w.act (generateT true).run).1.output = content ++ [.char '\n'] := by
  intro _ _ _ w
  have hlawful : Display.Lawful := Console.lawful_display 80
  have hprint : Succeeds w (generateT true) := succeeds_print rfl (by decide) (by decide)
  have hwrite : Succeeds w (generateT false) := succeeds_write rfl (by decide +kernel)
  obtain ⟨text, content, bytes, hcomment, -, hbytes, hread, hprinted, hiff⟩ :=
    prints_what_it_writes hprint hwrite
  have htext : w.commentOf (Path.ofText "c.txt") = .ok "1-a" := rfl
  obtain rfl := Except.ok.inj (hcomment.symm.trans htext)
  have hpath : Path.current.join (Java.fileName "T" Java.extension) = Path.ofText "T.java" := by
    decide
  rw [hpath, (Utf8.encode_eq_ok_iff.1 hbytes).2] at hread
  refine ⟨hlawful, hprint, hwrite, content, ?_⟩
  unfold generateT
  exact ⟨hread, by rw [hprinted, hiff.2 (by decide)]⟩

/-- The command prints the content that it writes to the file of the enum, and one line feed. -/
def PrintsContent [Display] [JsonWriter] [YamlLibrary] (w : World) (comment directory : Path)
    (typeName package : Text) (lombok force : Bool) : Prop :=
  ∀ content bytes, Utf8.encode content = .ok bytes →
    (w.act (Command.generate comment typeName package directory lombok force
        false).run).2.store.read (directory.join (Java.fileName typeName Java.extension)) =
          .ok bytes →
      (w.act (Command.generate comment typeName package directory lombok force true).run).1.output =
        content ++ [.char '\n']

/-- A tab in a description is written, but printed as spaces. -/
theorem not_printsContent :
    let _ : Display := Console.display 80
    let _ : JsonWriter := Json.writer
    let _ : YamlLibrary := Yaml.library
    let w := withComment "1-a\tb"
    Succeeds w (generateT true) ∧ Succeeds w (generateT false) ∧
      ¬PrintsContent w (Path.ofText "c.txt") .current "T" [] true false := by
  intro _ _ _ w
  have hlawful : Display.Lawful := Console.lawful_display 80
  have hprint : Succeeds w (generateT true) := succeeds_print rfl (by decide) (by decide)
  have hwrite : Succeeds w (generateT false) := succeeds_write rfl (by decide +kernel)
  refine ⟨hprint, hwrite, ?_⟩
  intro hall
  obtain ⟨text, content, bytes, hcomment, hsource, hbytes, hread, hprinted⟩ :=
    exists_content hprint hwrite
  have htext : w.commentOf (Path.ofText "c.txt") = .ok "1-a\tb" := rfl
  obtain rfl := Except.ok.inj (hcomment.symm.trans htext)
  have hsame := hall content bytes hbytes hread
  rw [hprinted] at hsame
  exact absurd ((shown_source_iff hsource).1 (List.append_cancel_right hsame)) (by decide)

end CommandLine

end DocEnum
