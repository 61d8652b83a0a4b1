import DocEnum.Proofs.Console.Headed

/-!
# The console keeps the laws of displays

**Bytes.** A console prints what it shows if that has bytes. It shows the characters of the text,
spaces for tabs, line feeds where lines are broken, and emoji; so it shows a text that has bytes if
the markup has them (`encodable_of_render`).

**Laws** (`lawful_display`). With that, the laws follow from what is shown of protected and of
headed messages.
-/

namespace DocEnum.Console

variable {t line : Text} {limit : Nat}

/-! ## Pieces -/

theorem encodable_tagAt? {inside after : Text} (h : tagAt? t = some (inside, after))
    (ht : Utf8.Encodable t) : Utf8.Encodable inside ∧ Utf8.Encodable after := by
  obtain ⟨c, body, rfl, rfl, -, -⟩ := tagAt?_eq_some_iff.1 h
  simp_all

/-- The plain texts among pieces have bytes. -/
def EncodableTexts (pieces : List Piece) : Prop :=
  ∀ t, .text t ∈ pieces → Utf8.Encodable t

theorem encodableTexts_piecesFrom {fuel : Nat} {before : Text} (hbefore : Utf8.Encodable before)
    (ht : Utf8.Encodable t) : EncodableTexts (piecesFrom fuel before t) := by
  have hreverse : ∀ {u : Text}, Utf8.Encodable u → Utf8.Encodable u.reverse :=
    fun hu c hc => hu c (List.mem_reverse.1 hc)
  have hleaf : ∀ {u : Text}, Utf8.Encodable u → EncodableTexts [.text u] := by
    intro u hu t ht
    obtain rfl : t = u := by simpa using ht
    exact hu
  induction fuel generalizing before t with
  | zero => exact hleaf (Utf8.encodable_append.2 ⟨hreverse hbefore, ht⟩)
  | succ fuel ih =>
    cases t with
    | nil => exact hleaf (hreverse hbefore)
    | cons c rest =>
      obtain ⟨hc, hrest⟩ := Utf8.encodable_cons.1 ht
      rw [piecesFrom]
      simp only
      split
      · exact ih (Utf8.encodable_cons.2 ⟨hc, hbefore⟩) hrest
      · -- Four pieces: the text before, half of the backslashes, the tag or its text, and the rest.
        next inside after htag =>
        obtain ⟨hinside, hafter⟩ := encodable_tagAt? htag (ht.sublist (List.drop_sublist _ _))
        intro u hu
        rcases List.mem_cons.1 hu with hu | hu
        · obtain rfl := Piece.text.inj hu
          exact hreverse hbefore
        rcases List.mem_cons.1 hu with hu | hu
        · obtain rfl := Piece.text.inj hu
          exact Utf8.encodable_replicate _ '\\'
        rcases List.mem_cons.1 hu with hu | hu
        · split_ifs at hu
          obtain rfl := Piece.text.inj hu
          simp [hinside]
        · exact ih Utf8.encodable_nil hafter u hu

/-! ## Emoji -/

theorem unescape_sublist (t : Text) : (unescape t).Sublist t := by
  fun_induction unescape t with
  | case1 rest ih => exact (ih.cons_cons _).cons _
  | case2 c rest _ ih => exact ih.cons_cons _
  | case3 => exact .slnil

theorem encodable_of_mem_pairUp {words : List Text} (h : ∀ word ∈ words, Utf8.Encodable word)
    {pair : Text × Text} (hpair : pair ∈ pairUp words) : Utf8.Encodable pair.2 := by
  fun_induction pairUp words with
  | case1 name emoji rest ih =>
    simp only [List.forall_mem_cons] at h
    rcases List.mem_cons.1 hpair with rfl | hpair
    · exact h.2.1
    · exact ih h.2.2 hpair
  | case2 => cases hpair

/-- The emoji of a table have bytes, because the table is written in characters. -/
theorem encodable_of_lookup {words : String} {name emoji : Text}
    (h : (emojiList words).lookup name = some emoji) : Utf8.Encodable emoji := by
  obtain ⟨before, after, hlist, -⟩ := List.lookup_eq_some_iff.1 h
  have hpair : (name, emoji) ∈ emojiList words := by
    rw [hlist]
    exact List.mem_append_right _ List.mem_cons_self
  refine encodable_of_mem_pairUp (fun word hword c hc => ?_) hpair
  have hpiece := (List.mem_filter.1 hword).1
  exact Utf8.encodable_map_char words.toList c (Text.mem_and_not_of_mem_splitOn hpiece hc).1

theorem encodable_withTone {tone : CodePoint} (htone : tone.isHalf = false)
    (ht : Utf8.Encodable t) : Utf8.Encodable (withTone tone t) := by
  cases t with
  | nil => exact Utf8.encodable_nil
  | cons c rest =>
    obtain ⟨hc, hrest⟩ := Utf8.encodable_cons.1 ht
    have htail := hrest.sublist (List.tail_sublist rest)
    unfold withTone
    simp only
    split <;> simp [hc, htone, hrest, htail]

theorem encodable_emoji? {name emoji : Text} (h : emoji? name = some emoji) :
    Utf8.Encodable emoji := by
  have htones : ∀ pair ∈ tones, pair.2.isHalf = false := by decide
  unfold emoji? at h
  simp only [Option.orElse_eq_orElse, Option.orElse_eq_or, Option.or_eq_some_iff] at h
  rcases h with (h | ⟨-, h | ⟨-, h⟩⟩) | ⟨-, h | ⟨-, h⟩⟩
  · exact encodable_of_lookup h
  · exact encodable_of_lookup h
  · exact encodable_of_lookup h
  · obtain ⟨⟨ending, tone⟩, hmem, h⟩ := List.exists_of_findSome?_eq_some h
    obtain ⟨base, -, h⟩ := Option.bind_eq_some_iff.1 h
    obtain ⟨plain, hplain, rfl⟩ := Option.map_eq_some_iff.1 h
    exact encodable_withTone (htones _ hmem) (encodable_of_lookup hplain)
  · obtain ⟨base, -, h⟩ := Option.bind_eq_some_iff.1 h
    exact encodable_of_lookup h

theorem encodable_emojiText? {between emoji : Text} (h : emojiText? between = some emoji) :
    Utf8.Encodable emoji := by
  have hsign : ∀ name, Utf8.Encodable (splitForm name).2 := by
    intro name
    unfold splitForm
    split <;> simp [emojiSign, textSign]
  unfold emojiText? at h
  obtain ⟨plain, hplain, rfl⟩ := Option.map_eq_some_iff.1 h
  exact Utf8.encodable_append.2 ⟨encodable_emoji? hplain, hsign between⟩

theorem encodable_replaceEmoji {fuel : Nat} (ht : Utf8.Encodable t) :
    Utf8.Encodable (replaceEmoji fuel t) := by
  induction fuel generalizing t with
  | zero =>
    rw [replaceEmoji.eq_def]
    exact ht
  | succ fuel ih =>
    cases t with
    | nil =>
      rw [replaceEmoji.eq_def]
      exact ht
    | cons c rest =>
      obtain ⟨hc, hrest⟩ := Utf8.encodable_cons.1 ht
      have hbetween : Utf8.Encodable
          (rest.takeWhile fun (c : CodePoint) => c != ':' && !Text.isBlank c) :=
        hrest.sublist (List.takeWhile_sublist _)
      rw [replaceEmoji.eq_def]
      simp only
      split
      · next after hafter =>
        have hafter : Utf8.Encodable after := by
          have hdrop := hafter ▸ hrest.sublist (List.drop_sublist _ _)
          exact (Utf8.encodable_cons.1 hdrop).2
        refine Utf8.encodable_append.2 ⟨?_, ih hafter⟩
        cases hemoji : emojiText? _ with
        | none => simp [hbetween]
        | some emoji => exact encodable_emojiText? hemoji
      · exact Utf8.encodable_cons.2 ⟨hc, ih hrest⟩

theorem encodable_withEmoji (ht : Utf8.Encodable t) : Utf8.Encodable (withEmoji t) := by
  unfold withEmoji
  split
  · exact encodable_replaceEmoji ht
  · exact ht

/-- Markup that has bytes has them without its tags, too. -/
theorem encodable_plainText {pieces : List Piece} (h : EncodableTexts pieces) :
    Utf8.Encodable (plainText pieces) := by
  intro c hc
  obtain ⟨piece, hpiece, hc⟩ := List.mem_flatMap.1 hc
  cases piece with
  | tag inside => cases hc
  | text t => exact encodable_withEmoji ((h t hpiece).sublist (unescape_sublist t)) c hc

/-! ## Lines -/

theorem mem_of_mem_wordsFrom {fuel : Nat} {word : Text} (h : word ∈ wordsFrom fuel t)
    {c : CodePoint}
    (hc : c ∈ word) : c ∈ t := by
  induction fuel generalizing t with
  | zero => cases h
  | succ fuel ih =>
    have hblanks := List.dropWhile_sublist Text.isBlank (l := t)
    have hword := List.dropWhile_sublist (fun c => !Text.isBlank c) (l := t.dropWhile Text.isBlank)
    unfold wordsFrom spanOf at h
    simp only at h
    split at h
    · cases h
    · rcases List.mem_cons.1 h with rfl | h
      · rcases List.mem_append.1 hc with hc | hc
        · rcases List.mem_append.1 hc with hc | hc
          · exact (List.takeWhile_sublist _).subset hc
          · exact hblanks.subset ((List.takeWhile_sublist _).subset hc)
        · exact hblanks.subset (hword.subset ((List.takeWhile_sublist _).subset hc))
      · exact hblanks.subset (hword.subset ((List.dropWhile_sublist _).subset (ih h)))

theorem mem_of_mem_chopFrom {piece part : Text} {columns : Nat}
    (h : part ∈ chopFrom limit piece columns t) {c : CodePoint} (hc : c ∈ part) :
    c ∈ piece ∨ c ∈ t := by
  induction t generalizing piece columns with
  | nil =>
    obtain rfl := List.mem_singleton.1 h
    exact .inl (List.mem_reverse.1 hc)
  | cons d rest ih =>
    rw [chopFrom] at h
    -- The next character goes on with the piece, or begins a new one.
    split at h
    · rcases ih h with hc | hc
      · exact (List.mem_cons.1 hc).elim (fun heq => .inr (heq ▸ List.mem_cons_self)) .inl
      · exact .inr (List.mem_cons_of_mem _ hc)
    · rcases List.mem_cons.1 h with rfl | h
      · exact .inl (List.mem_reverse.1 hc)
      · rcases ih h with hc | hc
        · obtain rfl := List.mem_singleton.1 hc
          exact .inr List.mem_cons_self
        · exact .inr (List.mem_cons_of_mem _ hc)

theorem encodable_of_mem_chop (ht : Utf8.Encodable t) :
    ∀ part ∈ chop limit t, Utf8.Encodable part := by
  intro part hpart c hc
  rcases mem_of_mem_chopFrom hpart hc with hc | hc
  · cases hc
  · exact ht c hc

/-- What was filled has bytes. -/
structure Filling.HasBytes (s : Filling) : Prop where
  full : ∀ line ∈ s.full, Utf8.Encodable line
  line : Utf8.Encodable s.line

namespace Filling.HasBytes

variable {s : Filling}

theorem startLine (h : s.HasBytes) (ht : Utf8.Encodable t) : (s.startLine t).HasBytes where
  full := by
    unfold Filling.startLine
    split
    · exact h.full
    · exact List.forall_mem_cons.2 ⟨h.line, h.full⟩
  line := ht

theorem foldl_startLine {parts : List Text} (h : s.HasBytes)
    (hparts : ∀ part ∈ parts, Utf8.Encodable part) :
    (parts.foldl Filling.startLine s).HasBytes := by
  induction parts generalizing s with
  | nil => exact h
  | cons part rest ih =>
    rw [List.forall_mem_cons] at hparts
    exact ih (h.startLine hparts.1) hparts.2

theorem addWord (h : s.HasBytes) (ht : Utf8.Encodable t) : (s.addWord limit t).HasBytes := by
  unfold Filling.addWord
  simp only
  split_ifs
  · exact ⟨h.full, Utf8.encodable_append.2 ⟨h.line, ht⟩⟩
  · exact h.startLine ht
  · exact h.foldl_startLine (encodable_of_mem_chop ht)

theorem foldl_addWord (limit : Nat) {words : List Text} (h : s.HasBytes)
    (hwords : ∀ word ∈ words, Utf8.Encodable word) :
    (words.foldl (Filling.addWord limit) s).HasBytes := by
  induction words generalizing s with
  | nil => exact h
  | cons word rest ih =>
    rw [List.forall_mem_cons] at hwords
    exact ih (h.addWord hwords.1) hwords.2

end Filling.HasBytes

theorem encodable_withoutExcess (h : Utf8.Encodable line) :
    Utf8.Encodable (withoutExcess limit line) := by
  have htake : ∀ n, Utf8.Encodable (line.take n) := fun n => h.sublist (List.take_sublist n line)
  unfold withoutExcess
  simp only
  split
  · exact htake _
  · cases hchop : chop limit _ with
    | nil => exact Utf8.encodable_nil
    | cons part rest =>
      exact encodable_of_mem_chop (htake _) part (hchop ▸ List.mem_cons_self)

theorem encodable_of_mem_wrap (h : Utf8.Encodable line) :
    ∀ part ∈ wrap limit line, Utf8.Encodable part := by
  have hwords : ∀ word ∈ words line, Utf8.Encodable word :=
    fun word hword c hc => h c (mem_of_mem_wordsFrom hword hc)
  have hempty : Filling.HasBytes ⟨[], [], 0⟩ := ⟨List.forall_mem_nil _, Utf8.encodable_nil⟩
  have hfilled : ∀ part ∈ ((words line).foldl (Filling.addWord limit) ⟨[], [], 0⟩).lines,
      Utf8.Encodable part := by
    intro part hpart
    have hbytes := hempty.foldl_addWord limit hwords
    rcases List.mem_cons.1 (List.mem_reverse.1 hpart) with rfl | hpart
    · exact hbytes.line
    · exact hbytes.full part hpart
  unfold wrap
  refine List.forall_mem_map.2 fun part hpart => encodable_withoutExcess ?_
  split at hpart
  · exact List.mem_singleton.1 hpart ▸ h
  · exact hfilled part hpart

theorem encodable_shown (h : Utf8.Encodable t) : Utf8.Encodable (shown t) := by
  refine Utf8.encodable_joinWith (by simp) (List.forall_mem_map.2 fun line hline c hc => ?_)
  rcases mem_expandTabs hc with rfl | ⟨hc, -⟩
  · rfl
  · exact h c (List.mem_filter.1 (Text.mem_and_not_of_mem_splitOn hline hc).1).1

theorem encodable_of_mem_shownLines (limit : Nat) (h : Utf8.Encodable t) :
    ∀ line ∈ shownLines limit t, Utf8.Encodable line := by
  intro part hpart
  obtain ⟨line, hline, hpart⟩ := List.mem_flatMap.1 hpart
  refine encodable_of_mem_wrap (fun c hc => ?_) part hpart
  exact encodable_shown h c (Text.mem_and_not_of_mem_splitOn hline hc).1

/-- **What is shown of markup** has bytes if the markup has. -/
theorem encodable_of_render {width : Nat} {markup shown : Text} (h : Utf8.Encodable markup)
    (hshown : render width markup = .ok shown) : Utf8.Encodable shown := by
  have htexts : EncodableTexts (pieces markup) :=
    encodableTexts_piecesFrom Utf8.encodable_nil h
  have hlines := encodable_of_mem_shownLines width (encodable_plainText htexts)
  unfold render at hshown
  simp only [bind, Except.bind] at hshown
  split at hshown
  · cases hshown
  · split at hshown
    · cases hshown
    · obtain rfl := Except.ok.inj hshown
      exact Utf8.encodable_joinWith (by simp) hlines

/-! ## Laws -/

theorem printed_of_encodable (h : Utf8.Encodable t) : printed t = .ok t := by
  unfold printed
  rw [Utf8.encode_of_encodable h]

theorem message_of_render {width : Nat} {markup shown : Text} (h : Utf8.Encodable markup)
    (hshown : render width markup = .ok shown) :
    (display width).message markup = .ok shown := by
  change render width markup >>= printed = .ok shown
  rw [hshown]
  exact printed_of_encodable (encodable_of_render h hshown)

theorem encodable_protect (h : Utf8.Encodable t) : Utf8.Encodable (protect t) := by
  have hfrom : ∀ skip, Utf8.Encodable (protectFrom skip t) := by
    intro skip
    fun_induction protectFrom skip t <;> simp_all
  unfold protect
  simp only
  split <;> simp [hfrom]

theorem encodable_of_isPlain (h : IsPlain t) : Utf8.Encodable t := by
  intro c hc
  have hplain := List.all_eq_true.1 h c hc
  cases c with
  | char c => rfl
  | half unit =>
    have hmin : CodePoint.firstHalf ≤ (CodePoint.half unit).toNat := Nat.le_add_right _ _
    simp only [isPlain, CodePoint.firstHalf, Bool.and_eq_true, decide_eq_true_eq] at hplain hmin
    omega

theorem encodable_headed {words : Text} (hwords : isWording words = true) (h : Utf8.Encodable t) :
    Utf8.Encodable (("[bold green]" : Text) ++ words ++ ("[/]" : Text) ++ t) := by
  have hwords := encodable_of_isPlain (isPlain_of_isWording hwords)
  simp [hwords, h]

/-- **A console keeps the laws of displays**, however wide it is. -/
theorem lawful_display (width : Nat) : @Display.Lawful (display width) :=
  let _ := display width
  { data_eq := fun h => printed_of_encodable (encodable_shown h)
    message_protect := fun {t} h => by
      have hprotected : Utf8.Encodable (Display.protect t) := encodable_protect h
      obtain ⟨shown, hshown⟩ := exists_render_warning width t
      exact ⟨shown, message_of_render (by simp [hprotected]) hshown⟩
    message_headed := fun hwords hbracket h =>
      ⟨_, message_of_render (encodable_headed hwords h) (render_headed width hwords hbracket)⟩
    message_plain := fun hwords hplain hfits =>
      message_of_render (encodable_headed hwords (encodable_of_isPlain hplain))
        (render_headed_plain hwords hplain hfits) }

end DocEnum.Console
