import DocEnum.Proofs.Lines
import DocEnum.Proofs.Listing

/-!
# Normal descriptions

How far the description of an entry is normalized.

**Normal texts.** Normalizing leaves a text alone exactly if the text has no blank at either end and
no sentence mark at its end (`normalize_eq_self_iff`).

**Ends** (`EndsTwice`). Blanks are dropped at both ends, then one run of sentence marks, then blanks
again. So no blank is left at an end. But the blanks that are dropped last may stand behind another
run of sentence marks, which is not dropped.

Main result: a description is normal, unless the body it was made from ends in sentence marks behind
sentence marks and blanks (`description_normal_or_endsTwice`).
-/

namespace DocEnum.Entry

open Text (isBlank strip)

variable {t : Text} {c : CodePoint}

/-! ## Normal texts -/

theorem isBlank_of_isSentenceMark (h : isSentenceMark c = true) : isBlank c = false := by
  simp only [isSentenceMark, Bool.or_eq_true, beq_iff_eq] at h
  rcases h with (((rfl | rfl) | rfl) | rfl) | rfl <;> decide

theorem not_isBlank_of_head?_normalize (t : Text) :
    ∀ c ∈ (normalize t).head?, isBlank c = false :=
  Text.not_of_head?_trim

theorem not_isBlank_of_getLast?_normalize (t : Text) :
    ∀ c ∈ (normalize t).getLast?, isBlank c = false :=
  Text.not_of_getLast?_trim

theorem strip_normalize (t : Text) : strip (normalize t) = normalize t :=
  Text.strip_strip _

/-- **A text is normal** exactly if it has no blank at either end and no sentence mark at its
end. -/
theorem normalize_eq_self_iff :
    normalize t = t ↔
      (∀ c ∈ t.head?, isBlank c = false) ∧
        ∀ c ∈ t.getLast?, isBlank c = false ∧ isSentenceMark c = false := by
  constructor
  · intro h
    -- Trimming shortens unless it keeps the text, and the result is as long as `t`.
    have hmarks : Text.trimEnd isSentenceMark t = t := by
      refine (Text.trimEnd_sublist _ _).eq_of_length_le ?_
      have hstrip : strip t = t := by rw [← h, strip_normalize]
      have hle := (Text.strip_sublist (Text.trimEnd isSentenceMark (strip t))).length_le
      rwa [← normalize, h, hstrip] at hle
    refine ⟨h ▸ not_isBlank_of_head?_normalize t, fun c hc => ⟨?_, ?_⟩⟩
    · exact not_isBlank_of_getLast?_normalize t c (h.symm ▸ hc)
    · exact Text.not_of_getLast?_rdropWhile c (hmarks.symm ▸ hc)
  · rintro ⟨hhead, hlast⟩
    have hstrip : strip t = t := Text.trim_eq_self hhead fun c hc => (hlast c hc).1
    have hmarks : Text.trimEnd isSentenceMark t = t := by
      refine List.rdropWhile_eq_self_iff.2 fun hne => ?_
      simpa using (hlast _ (List.getLast?_eq_getLast_of_ne_nil hne)).2
    rw [normalize, hstrip, hmarks, hstrip]

/-- Only a sentence mark can be left to drop. -/
theorem normalize_normalize_iff (t : Text) :
    normalize (normalize t) = normalize t ↔
      ∀ c ∈ (normalize t).getLast?, isSentenceMark c = false := by
  rw [normalize_eq_self_iff]
  refine ⟨fun h c hc => (h.2 c hc).2, fun h => ?_⟩
  exact ⟨not_isBlank_of_head?_normalize t, fun c hc =>
    ⟨not_isBlank_of_getLast?_normalize t c hc, h c hc⟩⟩

/-! ## Ends -/

/-- A text ends in sentence marks behind a sentence mark and blanks. -/
def EndsTwice (t : Text) : Prop :=
  ∃ before mark gap marks, t = before ++ mark :: (gap ++ marks) ∧ isSentenceMark mark = true ∧
    gap ≠ [] ∧ (∀ c ∈ gap, isBlank c = true) ∧
    marks ≠ [] ∧ ∀ c ∈ marks, isSentenceMark c = true

/-- A text without blanks at its ends is normalized at its end only. -/
theorem normalize_eq_rdropWhile (hhead : ∀ c ∈ t.head?, isBlank c = false)
    (hlast : ∀ c ∈ t.getLast?, isBlank c = false) :
    normalize t = (t.rdropWhile isSentenceMark).rdropWhile isBlank := by
  have hstart : ∀ c ∈ (t.rdropWhile isSentenceMark).head?, isBlank c = false := by
    intro c hc
    obtain ⟨rest, hrest⟩ := List.rdropWhile_prefix isSentenceMark t
    refine hhead c ?_
    rw [← hrest, List.head?_append, Option.mem_def.1 hc]
    rfl
  have hdrop : ([] ++ t.rdropWhile isSentenceMark).dropWhile isBlank =
      t.rdropWhile isSentenceMark := Text.dropWhile_run (by simp) hstart
  rw [List.nil_append] at hdrop
  rw [normalize, Text.strip_eq_trim t, Text.trim_eq_self hhead hlast, Text.strip_eq_trim,
    Text.trim, show Text.trimEnd isSentenceMark t = t.rdropWhile isSentenceMark from rfl, hdrop]

theorem rdropWhile_append_of_all {p : CodePoint → Bool} {run : Text} (hrun : ∀ c ∈ run, p c = true)
    (t : Text) : (t ++ run).rdropWhile p = t.rdropWhile p := by
  rw [Text.rdropWhile_append, if_pos (List.rdropWhile_eq_nil_iff.2 hrun)]

/-- A mark that is left stands before the dropped blanks, and these before the dropped marks. -/
theorem endsTwice_of_mark {mark : CodePoint} (hlast : ∀ c ∈ t.getLast?, isBlank c = false)
    (hmark : mark ∈ ((t.rdropWhile isSentenceMark).rdropWhile isBlank).getLast?)
    (hsentence : isSentenceMark mark = true) : EndsTwice t := by
  obtain ⟨before, hbefore⟩ := List.getLast?_eq_some_iff.1 hmark
  have hgap := List.rdropWhile_append_rtakeWhile (p := isBlank)
    (l := t.rdropWhile isSentenceMark)
  have hmarks := List.rdropWhile_append_rtakeWhile (p := isSentenceMark) (l := t)
  generalize hg : (t.rdropWhile isSentenceMark).rtakeWhile isBlank = gap at hgap
  generalize hm : t.rtakeWhile isSentenceMark = marks at hmarks
  rw [hbefore, List.append_assoc, List.singleton_append] at hgap
  have hgapBlank : ∀ c ∈ gap, isBlank c = true := by
    intro c hc
    exact List.mem_rtakeWhile_imp (hg ▸ hc)
  -- Without blanks the mark would have been dropped, and without marks behind them the blanks.
  have hgapNe : gap ≠ [] := by
    rintro rfl
    have hleft : isSentenceMark mark = false := by
      refine Text.not_of_getLast?_rdropWhile (l := t) mark ?_
      rw [← hgap, List.getLast?_concat]
      rfl
    rw [hsentence] at hleft
    cases hleft
  have hmarksNe : marks ≠ [] := by
    rintro rfl
    rw [List.append_nil] at hmarks
    obtain ⟨first, blank, rfl⟩ := List.eq_nil_or_concat gap |>.resolve_left hgapNe
    have hend := hlast blank (by
      rw [← hmarks, ← hgap, List.concat_eq_append, ← List.cons_append, ← List.append_assoc,
        List.getLast?_concat]
      rfl)
    rw [hgapBlank blank (by simp)] at hend
    cases hend
  refine ⟨before, mark, gap, marks, ?_, hsentence, hgapNe, hgapBlank, hmarksNe, ?_⟩
  · rw [← List.cons_append, ← List.append_assoc, hgap, hmarks]
  · intro c hc
    exact List.mem_rtakeWhile_imp (hm ▸ hc)

/-- The marks at the end are dropped, then the blanks, and the mark before them is left. -/
theorem EndsTwice.exists_mark (h : EndsTwice t) :
    ∃ c ∈ ((t.rdropWhile isSentenceMark).rdropWhile isBlank).getLast?,
      isSentenceMark c = true := by
  obtain ⟨before, mark, gap, marks, rfl, hmark, hgapNe, hgap, -, hmarks⟩ := h
  refine ⟨mark, ?_, hmark⟩
  -- The gap ends in a blank, which stops the stripping of marks and hides the earlier mark.
  obtain ⟨first, blank, rfl⟩ := List.eq_nil_or_concat gap |>.resolve_left hgapNe
  have hblank := hgap blank (by simp)
  have hkept : ¬isSentenceMark blank = true := by
    intro h
    rw [isBlank_of_isSentenceMark h] at hblank
    cases hblank
  have hdrop : (before ++ mark :: (first.concat blank ++ marks)).rdropWhile isSentenceMark =
      before ++ [mark] ++ first.concat blank := by
    rw [← List.cons_append, ← List.append_assoc, rdropWhile_append_of_all hmarks,
      List.concat_eq_append, ← List.cons_append, ← List.append_assoc,
      List.rdropWhile_concat_neg _ _ _ hkept]
    simp
  rw [hdrop, rdropWhile_append_of_all hgap,
    List.rdropWhile_concat_neg _ _ _ (by simp [isBlank_of_isSentenceMark hmark]),
    List.getLast?_concat]
  rfl

/-- **A sentence mark is left** exactly if the text ends twice. -/
theorem exists_mark_iff_endsTwice (hhead : ∀ c ∈ t.head?, isBlank c = false)
    (hlast : ∀ c ∈ t.getLast?, isBlank c = false) :
    (∃ c ∈ (normalize t).getLast?, isSentenceMark c = true) ↔ EndsTwice t := by
  rw [normalize_eq_rdropWhile hhead hlast]
  constructor
  · rintro ⟨mark, hmark, hsentence⟩
    exact endsTwice_of_mark hlast hmark hsentence
  · exact EndsTwice.exists_mark

/-! ## Descriptions -/

/-- The body of a segment has no blank at either end. -/
theorem Lists.ends {segment body : Text} {code : Nat} (h : Lists segment code body)
    (hsegment : strip segment = segment) :
    (∀ c ∈ body.head?, isBlank c = false) ∧ ∀ c ∈ body.getLast?, isBlank c = false := by
  obtain ⟨digits, ⟨before, mark, after, hsplit, -, -, -, -, -, first, rest, rfl, hfirst⟩, -⟩ := h
  refine ⟨by simpa using hfirst, fun c hc => ?_⟩
  have hend : c ∈ segment.getLast? := by
    rw [hsplit, ← List.append_assoc, ← List.cons_append, ← List.append_assoc,
      List.getLast?_append, Option.mem_def.1 hc]
    rfl
  rw [← hsegment] at hend
  exact Text.not_of_getLast?_trim c hend

/-- Every entry is listed by a segment. -/
theorem exists_lists_of_mem_parse {raw : Text} {entry : Entry} (h : entry ∈ parse raw) :
    ∃ segment ∈ Comment.segments (Comment.clean raw), ∃ code body, Lists segment code body ∧
      entry.code = (code : Int) ∧ entry.description = normalize body := by
  obtain ⟨placed, hlisted, hparse⟩ := exists_listedAt_parse raw
  rw [← hparse] at h
  obtain ⟨⟨position, entry⟩, hplaced, rfl⟩ := List.mem_map.1 h
  obtain ⟨code, body, ⟨⟨segment, hsegment, hlists⟩, -⟩, hcode, hdescription⟩ :=
    (hlisted.mem_iff position entry.code entry.description).1 ⟨entry.name, hplaced⟩
  exact ⟨segment, List.mem_of_getElem? hsegment, code, body, hlists, hcode, hdescription⟩

theorem strip_of_mem_segments {segment : Text} (h : segment ∈ Comment.segments t) :
    strip segment = segment := by
  rw [Comment.segments, List.mem_filter, List.mem_map] at h
  obtain ⟨⟨piece, -, rfl⟩, -⟩ := h
  exact Text.strip_strip piece

/-- **A description is normal or its body ends twice.** A description never has a blank at an end.
It is normal exactly if no sentence mark is left at its end, and so exactly if the body that its
segment lists does not end in sentence marks behind a sentence mark and blanks. -/
theorem description_normal_or_endsTwice (raw : Text) :
    ∀ entry ∈ parse raw,
      strip entry.description = entry.description ∧
      (normalize entry.description = entry.description ↔
        ∀ c ∈ entry.description.getLast?, isSentenceMark c = false) ∧
      ∃ segment ∈ Comment.segments (Comment.clean raw), ∃ code body, Lists segment code body ∧
        entry.code = (code : Int) ∧ entry.description = normalize body ∧
        (normalize entry.description = entry.description ↔ ¬EndsTwice body) := by
  intro entry hentry
  obtain ⟨segment, hsegment, code, body, hlists, hcode, hdescription⟩ :=
    exists_lists_of_mem_parse hentry
  obtain ⟨hhead, hlast⟩ := hlists.ends (strip_of_mem_segments hsegment)
  have hnormal := normalize_normalize_iff body
  rw [hdescription]
  refine ⟨strip_normalize body, hnormal, segment, hsegment, code, body, hlists, hcode, rfl, ?_⟩
  rw [hnormal, ← exists_mark_iff_endsTwice hhead hlast]
  simp

/-- One description is normal, the other is not. -/
theorem description_normal_or_endsTwice_two :
    let entry : Entry := ⟨"OPEN", 0, "Open"⟩
    let entry' : Entry := ⟨"IN_REVIEW", 1, "In review."⟩
    parse "0-Open 。;, 1: In review. ;" = [entry, entry'] ∧
      normalize entry.description = entry.description ∧
      normalize entry'.description ≠ entry'.description := by
  intro entry entry'
  have hparse : parse "0-Open 。;, 1: In review. ;" = [entry, entry'] := by decide +kernel
  have hnormal := description_normal_or_endsTwice "0-Open 。;, 1: In review. ;"
  rw [hparse] at hnormal
  obtain ⟨-, hopen, -⟩ := hnormal entry List.mem_cons_self
  obtain ⟨-, hreview, -⟩ := hnormal entry' (List.mem_cons_of_mem _ List.mem_cons_self)
  have hlast : entry.description.getLast? = some (.char 'n') := by decide +kernel
  refine ⟨hparse, hopen.2 ?_, fun h => ?_⟩
  · rw [hlast]
    simp [isSentenceMark]
  · have hmark : isSentenceMark '.' = false := hreview.1 h '.' rfl
    exact absurd hmark (by decide)

/-- A sentence mark behind a sentence mark and a blank is dropped, and the first one is left. -/
theorem not_description_normal :
    ¬∀ raw, ∀ entry ∈ parse raw, normalize entry.description = entry.description := by
  intro h
  have hmem : (⟨"A", 1, "a."⟩ : Entry) ∈ parse "1-a. ." := by decide +kernel
  exact absurd (h _ _ hmem) (by decide)

end DocEnum.Entry
