import DocEnum.Proofs.Console.Protection
import DocEnum.Proofs.Console.Verbatim
import DocEnum.Proofs.Libraries

/-!
# Headed messages

A message starts with styled words, and a text comes behind them in markup as it is. What a console
shows of the message is the words and the text, if the text has nothing that counts in markup.

**Characters.** A plain text has no tags and no emoji, no controls and no tabs (`shown_of_isPlain`),
and as many columns as characters (`width_of_isPlain`). Words are plain and escape nothing
(`isPlain_of_isWording`).

**Tags.** Where no brackets follow, the style of the words is opened and closed and there is no
other tag (`pieces_headed`), so the message can always be shown (`render_headed`).

**Lines.** The words of a line make up the line (`flatten_wordsFrom`), so a line that fits is not
broken (`wrap_of_isPlain`).

Main result: `render_headed_plain`. Nothing of the kind holds where brackets follow: they can be
read as a tag.
-/

namespace DocEnum.Console

variable {t words : Text}

/-! ## Plain texts -/

theorem isPlain_append {s t : Text} : IsPlain (s ++ t) ↔ IsPlain s ∧ IsPlain t := by
  simp [IsPlain]

theorem IsPlain.not_mem (h : IsPlain t) {c : CodePoint} (hc : isPlain c = false) : c ∉ t :=
  fun hmem => by simp [List.all_eq_true.1 h c hmem] at hc

theorem isPlain_ofNat (n : Nat) : IsPlain (Text.ofNat n) := by
  refine List.all_eq_true.2 fun c hc => ?_
  obtain ⟨hmin, hmax⟩ := CodePoint.isDigit_iff_toNat.1 (Text.isDigit_of_mem_ofNat hc)
  have hbracket : c ≠ '[' := by
    rintro rfl
    exact absurd hmax (by decide)
  have hcolon : c ≠ ':' := by
    rintro rfl
    exact absurd hmax (by decide)
  have hzero : '0'.toNat = 48 := rfl
  have hnine : '9'.toNat = 57 := rfl
  simp only [isPlain, Bool.and_eq_true, decide_eq_true_eq, bne_iff_ne]
  exact ⟨⟨⟨by omega, by omega⟩, hbracket⟩, hcolon⟩

theorem toNat_of_isAlphanum {c : CodePoint} (h : c.isAlphanum = true) :
    (48 ≤ c.toNat ∧ c.toNat ≤ 57) ∨ (65 ≤ c.toNat ∧ c.toNat ≤ 90) ∨
      (97 ≤ c.toNat ∧ c.toNat ≤ 122) := by
  simp only [CodePoint.isAlphanum, CodePoint.isAlpha, Bool.or_eq_true,
    CodePoint.isUpper_iff_toNat, CodePoint.isLower_iff_toNat, CodePoint.isDigit_iff_toNat] at h
  rcases h with (h | h) | h
  · exact .inr (.inl h)
  · exact .inr (.inr h)
  · exact .inl h

/-- Words hold nothing that counts in markup. -/
theorem isPlain_and_ne_backslash_of_mem (h : isWording words = true) {c : CodePoint}
    (hc : c ∈ words) : isPlain c = true ∧ c ≠ '\\' := by
  rw [isWording, Bool.and_eq_true, List.all_eq_true] at h
  have hcases := h.2 c hc
  rw [Bool.or_eq_true] at hcases
  rcases hcases with halnum | hspace
  · have hrange := toNat_of_isAlphanum halnum
    have hne : ∀ d : CodePoint, d.toNat = 91 ∨ d.toNat = 58 ∨ d.toNat = 92 → c ≠ d := by
      rintro d hd rfl
      omega
    have hbracket : c ≠ .char '[' := hne _ (.inl rfl)
    have hcolon : c ≠ .char ':' := hne _ (.inr (.inl rfl))
    simp only [isPlain, Bool.and_eq_true, decide_eq_true_eq, bne_iff_ne]
    exact ⟨⟨⟨⟨by omega, by omega⟩, hbracket⟩, hcolon⟩, hne _ (.inr (.inr rfl))⟩
  · obtain rfl : c = .char ' ' := by simpa using hspace
    exact ⟨rfl, by decide⟩

theorem isPlain_of_isWording (h : isWording words = true) : IsPlain words :=
  List.all_eq_true.2 fun _ hc => (isPlain_and_ne_backslash_of_mem h hc).1

/-! ## Pieces -/

/-- Without an opening bracket there is no tag. -/
theorem piecesFrom_of_no_bracket (h : .char '[' ∉ t) (fuel : Nat) (before : Text) :
    piecesFrom fuel before t = [.text (before.reverse ++ t)] := by
  induction fuel generalizing before t with
  | zero => rfl
  | succ fuel ih =>
    cases t with
    | nil => simp [piecesFrom]
    | cons c rest =>
      -- A tag needs its opening bracket.
      have hnone : tagAt? ((c :: rest).drop ((c :: rest).takeWhile (· == .char '\\')).length) =
          none := by
        by_contra hsome
        obtain ⟨tag, htag⟩ := Option.ne_none_iff_exists'.1 hsome
        obtain ⟨d, behind, heq, -⟩ := exists_tagAt?_iff.1 ⟨tag, htag⟩
        have hmem : .char '[' ∈
            (c :: rest).drop ((c :: rest).takeWhile (· == .char '\\')).length := by
          rw [heq]
          exact List.mem_cons_self
        exact h (List.mem_of_mem_drop hmem)
      rw [piecesFrom]
      simp only [hnone]
      rw [ih fun hmem => h (List.mem_cons_of_mem _ hmem)]
      simp

/-- A run without brackets and backslashes is taken character by character. -/
theorem piecesFrom_run {run : Text}
    (h : run.all (fun (c : CodePoint) => c != '[' && c != '\\') = true)
    (fuel : Nat) (before rest : Text) :
    piecesFrom (run.length + fuel) before (run ++ rest) =
      piecesFrom fuel (run.reverse ++ before) rest := by
  induction run generalizing before with
  | nil => simp
  | cons c run ih =>
    rw [List.all_cons, Bool.and_eq_true, Bool.and_eq_true] at h
    have hhead : ∀ d ∈ (c :: (run ++ rest)).head?, (d == '\\') = false := by
      rintro d ⟨⟩
      simpa using h.1.2
    -- No character of the run opens a tag, and none is a backslash that could hide one.
    have hnone : tagAt? (c :: (run ++ rest)) = none := by
      by_contra hsome
      obtain ⟨tag, htag⟩ := Option.ne_none_iff_exists'.1 hsome
      obtain ⟨d, behind, heq, -⟩ := exists_tagAt?_iff.1 ⟨tag, htag⟩
      rw [(List.cons.inj heq).1] at h
      exact absurd h.1.1 (by decide)
    have hfuel : (c :: run).length + fuel = run.length + fuel + 1 := by
      rw [List.length_cons]
      omega
    rw [hfuel, List.cons_append, piecesFrom_of_none (s := 0) rfl hhead hnone, ih h.2]
    simp

/-- The style of the words. -/
def wordingStyle : Text := "bold green"

/-- Markup that starts with styled words. -/
theorem headed_eq (words t : Text) :
    ("[bold green]" : Text) ++ words ++ ("[/]" : Text) ++ t =
      .char '[' :: .char 'b' :: (("old green" : Text) ++ .char ']' ::
        (words ++ .char '[' :: .char '/' :: .char ']' :: t)) := by
  have hopening : ("[bold green]" : Text) =
      .char '[' :: .char 'b' :: (("old green" : Text) ++ [.char ']']) := rfl
  have hclosing : ("[/]" : Text) = [.char '[', .char '/', .char ']'] := rfl
  rw [hopening, hclosing]
  simp only [List.append_assoc, List.cons_append, List.nil_append]

/-- **The pieces of a headed message**, where no brackets follow. -/
theorem pieces_headed (hwords : isWording words = true) (h : .char '[' ∉ t) :
    pieces ("[bold green]" ++ words ++ "[/]" ++ t) =
      [.text [], .text [], .tag wordingStyle, .text words, .text [], .tag [.char '/'],
        .text t] := by
  have hrun : words.all (fun (c : CodePoint) => c != '[' && c != '\\') = true := by
    refine List.all_eq_true.2 fun c hc => ?_
    have hbracket := (isPlain_of_isWording hwords).not_mem (c := '[') rfl
    have hne : c ≠ '[' := fun heq => hbracket (heq ▸ hc)
    simpa using ⟨hne, (isPlain_and_ne_backslash_of_mem hwords hc).2⟩
  have hbody : ("old green" : Text).any isBracket = false := rfl
  have htag : tagAt? (.char '[' :: .char '/' :: .char ']' :: t) = some ([.char '/'], t) :=
    tagAt?_eq_some_iff.2 ⟨'/', [], rfl, rfl, rfl, by simp⟩
  have hhead : ∀ c ∈ (.char '[' :: .char '/' :: .char ']' :: t).head?, (c == '\\') = false := by
    rintro c ⟨⟩
    rfl
  -- The fuel is split as it is used: one for each character of the words, one for the tag.
  have hfuel : (.char 'b' :: (("old green" : Text) ++ .char ']' ::
      (words ++ .char '[' :: .char '/' :: .char ']' :: t))).length =
        words.length + (13 + t.length + 1) := by
    have hstyle : ("old green" : Text).length = 9 := rfl
    simp only [List.length_cons, List.length_append, hstyle]
    omega
  have hclosing := piecesFrom_of_tag hhead htag (13 + t.length) (words.reverse ++ []) 0
  rw [List.replicate_zero, List.nil_append] at hclosing
  rw [headed_eq, pieces_styled rfl hbody, hfuel, piecesFrom_run hrun, hclosing,
    piecesFrom_of_no_bracket h, List.append_nil, List.reverse_reverse]
  rfl

/-- **Styled words** with no brackets behind them can be shown. -/
theorem render_headed (width : Nat) (hwords : isWording words = true) (h : .char '[' ∉ t) :
    render width ("[bold green]" ++ words ++ "[/]" ++ t) = .ok (Text.joinWith [.char '\n']
      (shownLines width (plainText (pieces ("[bold green]" ++ words ++ "[/]" ++ t))))) := by
  have htags : tags (pieces ("[bold green]" ++ words ++ "[/]" ++ t)) =
      [⟨wordingStyle, none⟩, closingTag] := by
    rw [pieces_headed hwords h]
    rfl
  exact render_of_tags width (by decide) (by decide) (.inr htags)

/-! ## Shown text -/

theorem unescape_of_no_bracket (h : .char '[' ∉ t) : unescape t = t := by
  fun_induction unescape t with
  | case1 => simp at h
  | case2 c rest hne ih => rw [ih fun hmem => h (List.mem_cons_of_mem _ hmem)]
  | case3 => rfl

/-- A plain text is shown as it is. -/
theorem withEmoji_unescape_of_isPlain (h : IsPlain t) : withEmoji (unescape t) = t := by
  have hcolon : t.contains (.char ':') = false := by simpa using h.not_mem (c := ':') rfl
  rw [unescape_of_no_bracket (h.not_mem rfl), withEmoji, hcolon]
  rfl

theorem plainText_headed (hwords : isWording words = true) (h : IsPlain t) :
    plainText (pieces ("[bold green]" ++ words ++ "[/]" ++ t)) = words ++ t := by
  have hempty : withEmoji (unescape []) = [] := rfl
  rw [pieces_headed hwords (h.not_mem rfl)]
  simp only [plainText, List.flatMap_cons, List.flatMap_nil, hempty,
    withEmoji_unescape_of_isPlain (isPlain_of_isWording hwords), withEmoji_unescape_of_isPlain h,
    List.nil_append, List.append_nil]

theorem shown_of_isPlain (h : IsPlain t) : shown t = t := by
  refine shown_eq_self_iff.2 ?_
  intro c hc
  have hplain := List.all_eq_true.1 h c hc
  have htab : c ≠ '\t' := by
    rintro rfl
    cases hplain
  simp only [isPlain, Bool.and_eq_true, decide_eq_true_eq] at hplain
  simp only [isVerbatim, isDropped, Bool.and_eq_true, Bool.not_eq_true', Bool.or_eq_false_iff,
    beq_eq_false_iff_ne, bne_iff_ne]
  exact ⟨by omega, htab⟩

theorem beq_eq_false_of_isPlain {c d : CodePoint} (h : isPlain c = true)
    (hd : isPlain d = false) : (c == d) = false := by
  rw [beq_eq_false_iff_ne]
  rintro rfl
  exact Bool.false_ne_true (hd.symm.trans h)

theorem charWidth_of_isPlain {c : CodePoint} (h : isPlain c = true) : Text.charWidth c = 1 := by
  have hsoft : (c == '\xad') = false := beq_eq_false_of_isPlain h (by decide)
  simp only [isPlain, Bool.and_eq_true, decide_eq_true_eq] at h
  have hcontrol : Text.isControl c = false := by
    simp only [Text.isControl, Bool.or_eq_false_iff, Bool.and_eq_false_iff,
      decide_eq_false_iff_not]
    omega
  have hlow : c.toNat < 0x300 := by omega
  simp [Text.charWidth, hcontrol, hlow, hsoft]

theorem width_of_isPlain (h : IsPlain t) : Text.width t = t.length := by
  -- The base matters to a selector only, and no plain character is one.
  have hwidth : ∀ base, Text.widthFrom base t = t.length := by
    induction t with
    | nil => exact fun _ => rfl
    | cons c t ih =>
      intro base
      rw [IsPlain, List.all_cons, Bool.and_eq_true] at h
      have hjoiner : (c == Text.joiner) = false := beq_eq_false_of_isPlain h.1 (by decide)
      have hselector : (c == Text.wideSelector) = false :=
        beq_eq_false_of_isPlain h.1 (by decide)
      have hstep : Text.widthFrom base (c :: t) = 1 + Text.widthFrom (some c) t := by
        rw [Text.widthFrom.eq_def]
        simp [hjoiner, hselector, charWidth_of_isPlain h.1]
      rw [hstep, ih h.2, List.length_cons, Nat.add_comm]
  exact hwidth none

/-! ## Lines -/

/-- **A line that begins with no blank** begins with a word and the blanks behind it. -/
theorem exists_wordsFrom_cons {c : CodePoint} (hc : Text.isBlank c = false) (t : Text)
    (fuel : Nat) :
    ∃ word rest, wordsFrom (fuel + 1) (c :: t) = word :: wordsFrom fuel rest ∧
      word ++ rest = c :: t ∧ rest.length ≤ t.length ∧
      ∀ d ∈ rest.head?, Text.isBlank d = false := by
  let behind := t.dropWhile fun d => !Text.isBlank d
  refine ⟨c :: (t.takeWhile (fun d => !Text.isBlank d) ++ behind.takeWhile Text.isBlank),
    behind.dropWhile Text.isBlank, ?_, ?_, ?_, ?_⟩
  · simp [wordsFrom, spanOf, hc, behind]
  · rw [List.cons_append, List.append_assoc, List.takeWhile_append_dropWhile,
      List.takeWhile_append_dropWhile]
  · exact (List.dropWhile_suffix _).length_le.trans (List.dropWhile_suffix _).length_le
  · intro d hd
    have hnot := List.head?_dropWhile_not Text.isBlank behind
    rw [Option.mem_def.1 hd] at hnot
    simpa using hnot

/-- **The words of a line make up the line**, if it does not begin with a blank. -/
theorem flatten_wordsFrom {fuel : Nat} (hfuel : t.length ≤ fuel)
    (hhead : ∀ c ∈ t.head?, Text.isBlank c = false) : (wordsFrom fuel t).flatten = t := by
  induction fuel generalizing t with
  | zero =>
    rw [List.length_eq_zero_iff.1 (Nat.le_zero.1 hfuel)]
    rfl
  | succ fuel ih =>
    cases t with
    | nil => rfl
    | cons c t =>
      obtain ⟨word, rest, hwords, hwhole, hlength, hrest⟩ :=
        exists_wordsFrom_cons (hhead c rfl) t fuel
      rw [hwords, List.flatten_cons, ih (hlength.trans (Nat.le_of_succ_le_succ hfuel)) hrest,
        hwhole]

/-- Words that fit into a line are written into it. -/
theorem foldl_addWord {limit : Nat} {words : List Text} {line : Text}
    (hwords : ∀ word ∈ words, IsPlain word)
    (hfits : line.length + words.flatten.length ≤ limit) :
    words.foldl (Filling.addWord limit) ⟨[], line, line.length⟩ =
      ⟨[], line ++ words.flatten, line.length + words.flatten.length⟩ := by
  induction words generalizing line with
  | nil => simp
  | cons word words ih =>
    rw [List.forall_mem_cons] at hwords
    rw [List.flatten_cons, List.length_append] at hfits
    -- The blanks at the end of a word do not count when it is fitted in.
    have htrimmed : (Text.trimEnd Text.isBlank word).Sublist word := Text.trimEnd_sublist _ _
    have hplain : IsPlain (Text.trimEnd Text.isBlank word) :=
      List.all_eq_true.2 fun c hc => List.all_eq_true.1 hwords.1 c (htrimmed.subset hc)
    have hneeded : line.length + Text.width (Text.trimEnd Text.isBlank word) ≤ limit := by
      rw [width_of_isPlain hplain]
      have hle := htrimmed.length_le
      omega
    have hadd : Filling.addWord limit ⟨[], line, line.length⟩ word =
        ⟨[], line ++ word, (line ++ word).length⟩ := by
      unfold Filling.addWord
      rw [if_pos hneeded, width_of_isPlain hwords.1, List.length_append]
    rw [List.foldl_cons, hadd, ih hwords.2 (by rw [List.length_append]; omega)]
    simp [Nat.add_assoc]

/-- **A plain line that fits is not broken.** -/
theorem wrap_of_isPlain {limit : Nat} (h : IsPlain t) (hfits : t.length ≤ limit)
    (hhead : ∀ c ∈ t.head?, Text.isBlank c = false) : wrap limit t = [t] := by
  have hflatten : (words t).flatten = t := flatten_wordsFrom (Nat.le_refl _) hhead
  have hwords : ∀ word ∈ words t, IsPlain word := fun word hword =>
    List.all_eq_true.2 fun c hc =>
      List.all_eq_true.1 h c (hflatten ▸ List.mem_flatten.2 ⟨word, hword, hc⟩)
  -- The line fits, so that nothing of it is in excess and no word begins another.
  have hexcess : withoutExcess limit t = t := by
    unfold withoutExcess
    have hzero : t.length - limit = 0 := Nat.sub_eq_zero_of_le hfits
    simp only [hzero, Nat.min_zero, Nat.sub_zero, List.take_length, width_of_isPlain h,
      if_pos hfits]
  have hfilled : (words t).foldl (Filling.addWord limit) ⟨[], [], 0⟩ = ⟨[], t, t.length⟩ := by
    have hline : ([] : Text).length + (words t).flatten.length ≤ limit := by
      rw [hflatten, List.length_nil, Nat.zero_add]
      exact hfits
    have hfilled := foldl_addWord hwords hline
    simpa [hflatten] using hfilled
  unfold wrap
  split
  · simp [hexcess]
  · rw [hfilled]
    simp [Filling.lines, hexcess]

/-! ## Messages -/

/-- Words do not start with a blank. -/
theorem not_isBlank_of_head?_wording (h : isWording words = true) :
    ∀ c ∈ (words ++ t).head?, Text.isBlank c = false := by
  rw [isWording, Bool.and_eq_true] at h
  cases words with
  | nil => exact absurd h.1 Bool.false_ne_true
  | cons d rest =>
    rintro c ⟨⟩
    have halpha : d.isAlphanum = true := by
      rw [CodePoint.isAlphanum, Bool.or_eq_true]
      exact .inl h.1
    have hrange := toNat_of_isAlphanum halpha
    simp only [Text.isBlank, Bool.or_eq_false_iff, Bool.and_eq_false_iff, decide_eq_false_iff_not,
      beq_eq_false_iff_ne]
    omega

/-- **A plain message that fits into a line** is shown without its markup. -/
theorem render_headed_plain {width : Nat} (hwords : isWording words = true) (h : IsPlain t)
    (hfits : (words ++ t).length ≤ width) :
    render width ("[bold green]" ++ words ++ "[/]" ++ t) = .ok (words ++ t) := by
  have hplain : IsPlain (words ++ t) := isPlain_append.2 ⟨isPlain_of_isWording hwords, h⟩
  have hfeeds : ∀ c ∈ words ++ t, (c == '\n') = false := fun c hc => by
    simpa using fun heq : c = '\n' => hplain.not_mem rfl (heq ▸ hc)
  have hlines : shownLines width (words ++ t) = [words ++ t] := by
    unfold shownLines
    rw [shown_of_isPlain hplain, Text.splitOn_of_none hfeeds, List.flatMap_singleton,
      wrap_of_isPlain hplain hfits (not_isBlank_of_head?_wording hwords)]
  rw [render_headed width hwords (h.not_mem rfl), plainText_headed hwords h, hlines]
  rfl

end DocEnum.Console
