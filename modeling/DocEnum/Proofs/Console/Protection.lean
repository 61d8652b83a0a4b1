import Mathlib
import DocEnum.Console.Markup
import DocEnum.Proofs.Text

/-!
# Protected messages

A warning is written in markup, with the message protected between a tag that styles it and one that
closes the style. It can always be shown, whatever the message is.

**Tags.** A tag starts at an opening bracket if a character that may start a tag follows, and the
next bracket after it closes (`exists_tagAt?_iff`).

**Protection.** Only backslashes are added to a message, so the next bracket after any place stays
(`find?_protectFrom`) and no new tag comes up (`tagAt?_protectFrom`). An old tag comes to stand
behind an odd number of backslashes (`protectFrom_of_tag`), and so it is text.

**Pieces.** Hence the only tag behind a protected message is the closing one, and backslashes at the
end of the message may take this one away, too (`tags_protected`). Either way the markup is good.

Main result: `exists_render_warning`.
-/

namespace DocEnum.Console

variable {t u inside after : Text}

/-! ## Tags -/

/-- The characters that tags are made with. -/
def isBracket (c : CodePoint) : Bool :=
  c == '[' || c == ']'

/-- A tag starts at the start of a text. -/
def OpensTag (t : Text) : Prop :=
  ∃ c rest, t = .char '[' :: c :: rest ∧ isTagStart c = true ∧
    rest.find? isBracket = some (.char ']')

theorem tagAt?_eq_some_iff : tagAt? t = some (inside, after) ↔
    ∃ c body, inside = c :: body ∧ t = .char '[' :: c :: (body ++ .char ']' :: after) ∧
      isTagStart c = true ∧ ∀ x ∈ body, isBracket x = false := by
  have hbracket : ∀ x : CodePoint, (x != '[' && x != ']') = !isBracket x := fun x => by
    simp [isBracket, bne]
  constructor
  · intro h
    unfold tagAt? at h
    split at h
    · next c rest =>
      simp only [hbracket, Text.drop_length_takeWhile] at h
      split at h
      · cases h
      · next hstart =>
        split at h
        · next behind hrest =>
          obtain ⟨rfl, rfl⟩ := Prod.mk.inj (Option.some.inj h)
          refine ⟨c, _, rfl, ?_, by simpa using hstart, fun x hx => ?_⟩
          · rw [← hrest, List.takeWhile_append_dropWhile]
          · simpa using List.mem_takeWhile_imp hx
        · cases h
    · cases h
  · rintro ⟨c, body, rfl, rfl, hstart, hbody⟩
    have hrun : ∀ x ∈ body, (!isBracket x) = true := fun x hx => by rw [hbody x hx]; rfl
    have hend : ∀ x ∈ (.char ']' :: after).head?, (!isBracket x) = false := by
      rintro x ⟨⟩
      rfl
    simp only [tagAt?, hbracket, hstart, Text.takeWhile_run hrun hend, List.drop_left]
    rfl

theorem exists_tagAt?_iff : (∃ tag, tagAt? t = some tag) ↔ OpensTag t := by
  constructor
  · rintro ⟨⟨inside, after⟩, h⟩
    obtain ⟨c, body, -, rfl, hstart, hbody⟩ := tagAt?_eq_some_iff.1 h
    refine ⟨c, _, rfl, hstart, ?_⟩
    rw [List.find?_append, List.find?_eq_none.2 fun x hx => by simp [hbody x hx]]
    rfl
  · rintro ⟨c, rest, rfl, hstart, hfind⟩
    obtain ⟨-, body, after, rfl, hbody⟩ := List.find?_eq_some_iff_append.1 hfind
    exact ⟨_, tagAt?_eq_some_iff.2 ⟨c, body, rfl, rfl, hstart, fun x hx => by
      simpa using hbody x hx⟩⟩

/-! ## Backslashes -/

theorem exists_slashes (t : Text) :
    ∃ (s : Nat) (u : Text), t = List.replicate s (CodePoint.char '\\') ++ u ∧
      ∀ c ∈ u.head?, (c == '\\') = false := by
  refine ⟨(t.takeWhile (· == .char '\\')).length, t.dropWhile (· == .char '\\'), ?_, fun c hc => ?_⟩
  · have hslashes : t.takeWhile (· == .char '\\') =
        List.replicate (t.takeWhile (· == .char '\\')).length (CodePoint.char '\\') :=
      List.eq_replicate_iff.2 ⟨rfl, fun c hc => by simpa using List.mem_takeWhile_imp hc⟩
    rw [← hslashes, List.takeWhile_append_dropWhile]
  · have hhead := List.head?_dropWhile_not (· == .char '\\') t
    rw [Option.mem_def.1 hc] at hhead
    simpa using hhead

theorem takeWhile_slashes (hu : ∀ c ∈ u.head?, (c == '\\') = false) (s : Nat) :
    (List.replicate s (CodePoint.char '\\') ++ u).takeWhile (· == .char '\\') =
      List.replicate s (CodePoint.char '\\') :=
  Text.takeWhile_run (fun c hc => by simp [(List.mem_replicate.1 hc).2]) hu

theorem drop_slashes (s : Nat) (u : Text) :
    (List.replicate s (CodePoint.char '\\') ++ u).drop s = u := by
  rw [List.drop_append_of_le_length (by simp)]
  simp

/-! ## Protection -/

/-- Protection adds backslashes only. -/
theorem filter_protectFrom (n : Nat) (t : Text) :
    (protectFrom n t).filter (· != .char '\\') = t.filter (· != .char '\\') := by
  fun_induction protectFrom n t with
  | case1 => rfl
  | case2 skip c rest ih => rw [List.filter_cons, List.filter_cons, ih]
  | case3 c rest slashes hlength ih => rw [List.filter_cons, List.filter_cons, ih]
  | case4 c rest slashes length hlength ih =>
    have hslashes : (List.replicate (slashes + 1) (CodePoint.char '\\')).filter (· != .char '\\') =
        [] := by simp
    rw [List.filter_append, hslashes, List.nil_append, List.filter_cons, List.filter_cons, ih]

/-- The first bracket of a text is the first one of its markup. -/
theorem find?_protectFrom (t : Text) :
    (protectFrom 0 t).find? isBracket = t.find? isBracket := by
  have hfilter : ∀ t : Text, (t.filter (· != .char '\\')).find? isBracket = t.find? isBracket := by
    intro t
    rw [List.find?_filter]
    congr 1
    funext c
    by_cases hc : c = '\\'
    · rw [hc]
      rfl
    · simp [hc]
  rw [← hfilter, filter_protectFrom, hfilter]

theorem protectFrom_length_append (u v : Text) :
    protectFrom u.length (u ++ v) = u ++ protectFrom 0 v := by
  induction u with
  | nil => rfl
  | cons c u ih => rw [List.length_cons, List.cons_append, protectFrom, ih, List.cons_append]

/-- Where no tag follows some backslashes, protection keeps them. -/
theorem protectFrom_of_none (hu : ∀ c ∈ u.head?, (c == '\\') = false) (hnone : tagAt? u = none)
    (s : Nat) :
    protectFrom 0 (List.replicate s (CodePoint.char '\\') ++ u) =
      List.replicate s (CodePoint.char '\\') ++ protectFrom 0 u := by
  induction s with
  | zero => rfl
  | succ s ih =>
    have htake := takeWhile_slashes hu (s + 1)
    have hdrop := drop_slashes (s + 1) u
    rw [List.replicate_succ, List.cons_append] at htake hdrop ⊢
    rw [protectFrom]
    simp only [htake, List.length_cons, List.length_replicate, hdrop, tagLength, hnone,
      Option.elim_none]
    rw [ih, List.cons_append]

/-- **A tag comes to stand behind an odd number of backslashes.** -/
theorem protectFrom_of_tag (hu : ∀ c ∈ u.head?, (c == '\\') = false)
    (htag : tagAt? u = some (inside, after)) (s : Nat) :
    protectFrom 0 (List.replicate s (CodePoint.char '\\') ++ u) =
      List.replicate (2 * s + 1) (CodePoint.char '\\') ++
        (.char '[' :: (inside ++ .char ']' :: protectFrom 0 after)) := by
  have hu_eq : u = (.char '[' :: (inside ++ [.char ']'])) ++ after := by
    obtain ⟨c, body, rfl, rfl, -, -⟩ := tagAt?_eq_some_iff.1 htag
    simp
  -- The characters that protection keeps as they are: the backslashes and the tag.
  obtain ⟨c, front, hfront⟩ : ∃ c front,
      List.replicate s (CodePoint.char '\\') ++ .char '[' :: (inside ++ [.char ']']) = c :: front :=
    List.exists_cons_of_ne_nil (by simp)
  have hlength : front.length = s + (inside.length + 1) := by
    have hlength := congrArg List.length hfront
    simp only [List.length_append, List.length_replicate, List.length_cons, List.length_nil]
      at hlength
    omega
  have htext : List.replicate s (CodePoint.char '\\') ++ u = c :: (front ++ after) := by
    rw [hu_eq, ← List.append_assoc, hfront, List.cons_append]
  have htake := takeWhile_slashes hu s
  have hdrop := drop_slashes s u
  rw [htext] at htake hdrop
  rw [htext, protectFrom]
  simp only [htake, List.length_replicate, hdrop, tagLength, htag, Option.elim_some]
  rw [← hlength, protectFrom_length_append, ← List.cons_append, ← hfront]
  have hcount : List.replicate (2 * s + 1) (CodePoint.char '\\') =
      List.replicate (s + 1) (CodePoint.char '\\') ++ List.replicate s (CodePoint.char '\\') := by
    rw [List.replicate_append_replicate]
    congr 1
    omega
  rw [hcount]
  simp only [List.append_assoc, List.cons_append, List.nil_append]

/-- The text behind a protected message: backslashes and the closing tag. -/
def closing (k : Nat) : Text :=
  List.replicate k (CodePoint.char '\\') ++ [.char '[', .char '/', .char ']']

theorem find?_closing (k : Nat) : (closing k).find? isBracket = some (.char '[') := by
  rw [closing, List.find?_append, List.find?_eq_none.2 fun c hc => by
    rw [(List.mem_replicate.1 hc).2]
    decide]
  rfl

theorem protectFrom_cons (c : CodePoint) (t : Text) :
    protectFrom 0 (c :: t) = c :: protectFrom 0 t ∨
      ∃ rest, protectFrom 0 (c :: t) = .char '\\' :: rest := by
  rw [protectFrom]
  split
  · exact .inl rfl
  · exact .inr ⟨_, rfl⟩

theorem protectFrom_cons_of_none {c : CodePoint} (hc : (c == '\\') = false)
    (hnone : tagAt? (c :: t) = none) : protectFrom 0 (c :: t) = c :: protectFrom 0 t := by
  have hu : ∀ d ∈ (c :: t).head?, (d == '\\') = false := by
    rintro d ⟨⟩
    exact hc
  have htake := takeWhile_slashes hu 0
  rw [List.replicate_zero, List.nil_append] at htake
  rw [protectFrom]
  simp only [htake, List.length_nil, List.drop_zero, tagLength, hnone, Option.elim_none]

/-- **No tag comes up** in a protected message. -/
theorem tagAt?_protectFrom {d : CodePoint} (h : tagAt? (d :: t) = none) (k : Nat) :
    tagAt? (d :: (protectFrom 0 t ++ closing k)) = none := by
  by_contra hsome
  obtain ⟨c, rest, hopen, hstart, hfind⟩ :=
    exists_tagAt?_iff.1 (Option.ne_none_iff_exists'.1 hsome)
  obtain ⟨rfl, hrest⟩ := List.cons.inj hopen
  -- A tag of the protected text would open at its second character, and there stands what
  -- begins no tag, a backslash or the closing bracket, unless `t` had the tag already.
  cases t with
  | nil =>
    cases k with
    | zero =>
      obtain ⟨rfl, -⟩ := List.cons.inj hrest
      exact absurd hstart (by decide)
    | succ k =>
      obtain ⟨rfl, -⟩ := List.cons.inj hrest
      exact absurd hstart (by decide)
  | cons x t =>
    rcases protectFrom_cons x t with heq | ⟨behind, heq⟩
    · rw [heq, List.cons_append] at hrest
      obtain ⟨rfl, rfl⟩ := List.cons.inj hrest
      rw [List.find?_append, find?_protectFrom, find?_closing] at hfind
      have hfound : t.find? isBracket = some (.char ']') := by
        cases hbracket : t.find? isBracket with
        | none => simp [hbracket] at hfind
        | some b => simpa [hbracket] using hfind
      obtain ⟨tag, htag⟩ := exists_tagAt?_iff.2 ⟨x, t, rfl, hstart, hfound⟩
      rw [htag] at h
      cases h
    · rw [heq] at hrest
      obtain ⟨rfl, -⟩ := List.cons.inj hrest
      exact absurd hstart (by decide)

/-! ## Pieces -/

theorem piecesFrom_of_tag (hu : ∀ c ∈ u.head?, (c == '\\') = false)
    (htag : tagAt? u = some (inside, after)) (fuel : Nat) (before : Text) (s : Nat) :
    piecesFrom (fuel + 1) before (List.replicate s (CodePoint.char '\\') ++ u) =
      .text before.reverse :: .text (List.replicate (s / 2) (CodePoint.char '\\')) ::
        (if s % 2 = 0 then .tag inside else .text (.char '[' :: inside ++ [.char ']'])) ::
          piecesFrom fuel [] after := by
  have htake := takeWhile_slashes hu s
  have hdrop := drop_slashes s u
  obtain ⟨c, rest, hcons⟩ : ∃ c rest, List.replicate s (CodePoint.char '\\') ++ u = c :: rest := by
    obtain ⟨d, body, -, rfl, -, -⟩ := tagAt?_eq_some_iff.1 htag
    exact List.exists_cons_of_ne_nil (by simp)
  rw [hcons] at htake hdrop ⊢
  rw [piecesFrom]
  simp only [htake, List.length_replicate, hdrop, htag]

theorem piecesFrom_of_none {c : CodePoint} {rest : Text} {s : Nat}
    (hcons : List.replicate s (CodePoint.char '\\') ++ u = c :: rest)
    (hu : ∀ c ∈ u.head?, (c == '\\') = false) (hnone : tagAt? u = none) (fuel : Nat)
    (before : Text) :
    piecesFrom (fuel + 1) before (c :: rest) = piecesFrom fuel (c :: before) rest := by
  have htake := takeWhile_slashes hu s
  have hdrop := drop_slashes s u
  rw [hcons] at htake hdrop
  rw [piecesFrom]
  simp only [htake, List.length_replicate, hdrop, hnone]

theorem tags_piecesFrom_nil (fuel : Nat) (before : Text) :
    tags (piecesFrom fuel before []) = [] := by
  cases fuel <;> rfl

/-- The tag that closes the last style. -/
def closingTag : Tag := .ofText [.char '/']

theorem tags_closing (fuel : Nat) (before : Text) (s : Nat) :
    tags (piecesFrom (fuel + 1) before (closing s)) = [] ∨
      tags (piecesFrom (fuel + 1) before (closing s)) = [closingTag] := by
  have hhead : ∀ c ∈ ([.char '[', .char '/', .char ']'] : Text).head?, (c == '\\') = false := by
    rintro c ⟨⟩
    rfl
  have htag : tagAt? [.char '[', .char '/', .char ']'] = some ([.char '/'], []) := by rfl
  have hrest := tags_piecesFrom_nil fuel []
  rw [closing, piecesFrom_of_tag hhead htag]
  unfold tags at hrest ⊢
  split
  · exact .inr (by simp [hrest, closingTag])
  · exact .inl (by simp [hrest])

/-- A protected tag is a piece of text. -/
theorem tags_protected_tag (hu : ∀ c ∈ u.head?, (c == '\\') = false)
    (htag : tagAt? u = some (inside, after)) (fuel : Nat) (before : Text) (s k : Nat) :
    tags (piecesFrom (fuel + 1) before
        (protectFrom 0 (List.replicate s (CodePoint.char '\\') ++ u) ++ closing k)) =
      tags (piecesFrom fuel [] (protectFrom 0 after ++ closing k)) := by
  have hnew : tagAt? (.char '[' :: (inside ++ .char ']' :: (protectFrom 0 after ++ closing k))) =
      some (inside, protectFrom 0 after ++ closing k) := by
    obtain ⟨c, body, rfl, -, hstart, hbody⟩ := tagAt?_eq_some_iff.1 htag
    exact tagAt?_eq_some_iff.2 ⟨c, body, rfl, by simp, hstart, hbody⟩
  have hhead : ∀ c ∈
      (.char '[' :: (inside ++ .char ']' :: (protectFrom 0 after ++ closing k))).head?,
      (c == '\\') = false := by
    rintro c ⟨⟩
    rfl
  -- Protecting doubles the backslashes and adds one: an odd number takes the tag back.
  have hodd : ¬(2 * s + 1) % 2 = 0 := by omega
  have hmarkup : protectFrom 0 (List.replicate s (CodePoint.char '\\') ++ u) ++ closing k =
      List.replicate (2 * s + 1) (CodePoint.char '\\') ++
        (.char '[' :: (inside ++ .char ']' :: (protectFrom 0 after ++ closing k))) := by
    rw [protectFrom_of_tag hu htag]
    simp
  rw [hmarkup, piecesFrom_of_tag hhead hnew fuel before (2 * s + 1), if_neg hodd]
  rfl

/-- Elsewhere one character is taken: the first backslash, or the one behind all backslashes. -/
theorem exists_piecesFrom_protected {d : CodePoint} {u : Text} (hd : (d == '\\') = false)
    (hnone : tagAt? (d :: u) = none) (fuel : Nat) (before : Text) (s k : Nat) :
    ∃ before' t, piecesFrom (fuel + 1) before
        (protectFrom 0 (List.replicate s (CodePoint.char '\\') ++ d :: u) ++ closing k) =
      piecesFrom fuel before' (protectFrom 0 t ++ closing k) := by
  have hu : ∀ c ∈ (d :: u).head?, (c == '\\') = false := by
    rintro c ⟨⟩
    exact hd
  have hhead : ∀ c ∈ (d :: (protectFrom 0 u ++ closing k)).head?, (c == '\\') = false := by
    rintro c ⟨⟩
    exact hd
  have hbehind := tagAt?_protectFrom hnone k
  -- One character is consumed: a backslash of the run, or `d` behind it.
  cases s with
  | zero =>
    have hmarkup : protectFrom 0 (List.replicate 0 (CodePoint.char '\\') ++ d :: u) ++ closing k =
        d :: (protectFrom 0 u ++ closing k) := by
      rw [List.replicate_zero, List.nil_append, protectFrom_cons_of_none hd hnone,
        List.cons_append]
    rw [hmarkup, piecesFrom_of_none (s := 0) rfl hhead hbehind]
    exact ⟨_, _, rfl⟩
  | succ s =>
    have hmarkup : protectFrom 0 (List.replicate (s + 1) (CodePoint.char '\\') ++ d :: u) ++
        closing k =
        .char '\\' :: (protectFrom 0 (List.replicate s (CodePoint.char '\\') ++ d :: u) ++
          closing k) := by
      rw [protectFrom_of_none hu hnone, protectFrom_of_none hu hnone]
      rfl
    have hslashes : List.replicate (s + 1) (CodePoint.char '\\') ++ d ::
        (protectFrom 0 u ++ closing k) =
        .char '\\' :: (protectFrom 0 (List.replicate s (CodePoint.char '\\') ++ d :: u) ++
          closing k) := by
      rw [protectFrom_of_none hu hnone, protectFrom_cons_of_none hd hnone, List.append_assoc]
      rfl
    rw [hmarkup, piecesFrom_of_none hslashes hhead hbehind]
    exact ⟨_, _, rfl⟩

/-- **Only the closing tag is left** behind a protected message. -/
theorem tags_protected (fuel : Nat) (before t : Text) (k : Nat) :
    tags (piecesFrom fuel before (protectFrom 0 t ++ closing k)) = [] ∨
      tags (piecesFrom fuel before (protectFrom 0 t ++ closing k)) = [closingTag] := by
  induction fuel generalizing before t with
  | zero => exact .inl rfl
  | succ fuel ih =>
    -- After a run of backslashes comes a tag, the end, or a character that opens none.
    obtain ⟨s, u, rfl, hu⟩ := exists_slashes t
    cases htag : tagAt? u with
    | some tag =>
      rw [tags_protected_tag hu htag]
      exact ih [] tag.2
    | none =>
      cases u with
      | nil =>
        have hend : protectFrom 0 (List.replicate s (CodePoint.char '\\') ++ []) ++ closing k =
            closing (s + k) := by
          rw [protectFrom_of_none hu htag, protectFrom, List.append_nil, closing, closing,
            ← List.append_assoc, List.replicate_append_replicate]
        rw [hend]
        exact tags_closing fuel before (s + k)
      | cons d u =>
        obtain ⟨before', t, hpieces⟩ := exists_piecesFrom_protected (hu d rfl) htag fuel before s k
        rw [hpieces]
        exact ih before' t

/-! ## Styles -/

/-- A word is no color that is mixed of numbers. -/
def NoMixture (word : Text) : Prop :=
  Style.mixedParts? (Text.lower word) = none ∧
    Style.mixedParts? (Text.lower (Text.lower word)) = none

instance (word : Text) : Decidable (NoMixture word) :=
  inferInstanceAs (Decidable (_ ∧ _))

theorem colorOf_ne_number {word : Text} (h : Style.mixedParts? (Text.lower word) = none)
    (fault : Value.Fault) : Style.colorOf word ≠ .error (.number fault) := by
  unfold Style.colorOf
  simp only [h]
  split <;> simp [pure, Except.pure, throw, throwThe, MonadExceptOf.throw]

/-- Only the numbers of a mixed color can be wrong. -/
theorem addWords_ne_number {style : Style} {words : List Text}
    (h : ∀ word ∈ words, NoMixture word) (fault : Value.Fault) :
    Style.addWords style words ≠ .error (.number fault) := by
  -- Only a color of a mixture has numbers in it.
  fun_induction Style.addWords style words with
  | case1 => simp
  | case2 => simp
  | case3 _ _ _ _ color _ _ hcolor =>
    intro heq
    rw [Except.error.inj heq] at hcolor
    exact colorOf_ne_number (h color (by simp)).1 fault hcolor
  | case4 _ _ _ _ _ _ _ _ ih => exact ih fun word hword => h word (by simp [hword])
  | case5 => simp
  | case6 => simp
  | case7 _ _ _ _ _ _ _ _ _ ih => exact ih fun word hword => h word (by simp [hword])
  | case8 => simp
  | case9 _ _ _ _ _ _ _ _ ih => exact ih fun word hword => h word (by simp [hword])
  | case10 _ _ _ _ _ _ _ _ _ ih => exact ih fun word hword => h word (by simp [hword])
  | case11 _ word _ _ _ _ _ _ _ hcolor =>
    intro heq
    rw [Except.error.inj heq] at hcolor
    exact colorOf_ne_number (h word (by simp)).2 fault hcolor
  | case12 _ _ _ _ _ _ _ _ _ _ ih => exact ih fun word hword => h word (by simp [hword])

section Tags

variable {name : Text} (h : ∀ word ∈ Text.fields Text.isBlank name, NoMixture word)

include h

theorem parse_ne_number (fault : Value.Fault) : Style.parse name ≠ .error (.number fault) := by
  unfold Style.parse
  split
  · simp
  · exact addWords_ne_number h fault

theorem exists_normalName : ∃ normal, normalName name = .ok normal := by
  unfold normalName Style.normalize
  split
  · exact ⟨_, rfl⟩
  · exact ⟨_, rfl⟩
  · next fault hparse => exact absurd hparse (parse_ne_number h fault)

theorem checkStyle_name : checkStyle ⟨name, none⟩ = .ok () := by
  unfold checkStyle
  split
  · next fault hparse => exact absurd hparse (parse_ne_number h fault)
  · rfl

end Tags

theorem checkStyle_closing : checkStyle closingTag = .ok () :=
  checkStyle_name (by decide)

theorem applyTag_closing (name : Text) : applyTag [⟨name, none⟩] closingTag = .ok [] := by
  have hclosable : (⟨name, none⟩ : Tag).isClosable = true := by
    unfold Tag.isClosable
    split
    · next heq => cases heq
    · rfl
  change (if (⟨name, none⟩ : Tag).isClosable then .ok [] else .error .tag :
    Except Display.Fault (List Tag)) = _
  rw [if_pos hclosable]

theorem forM_eq_ok {α : Type} {check : α → Except Display.Fault Unit} {l : List α}
    (h : ∀ a ∈ l, check a = .ok ()) : l.forM check = .ok () := by
  induction l with
  | nil => rfl
  | cons a l ih =>
    rw [List.forall_mem_cons] at h
    rw [List.forM_eq_forM, List.forM_cons, h.1]
    exact ih h.2

theorem exists_applyTag_name {name : Text}
    (hname : ∀ word ∈ Text.fields Text.isBlank name, NoMixture word)
    (hslash : name.head? ≠ some (.char '/')) :
    ∃ normal, applyTag [] ⟨name, none⟩ = .ok [⟨normal, none⟩] := by
  obtain ⟨normal, hnormal⟩ := exists_normalName hname
  refine ⟨normal, ?_⟩
  unfold applyTag
  split
  · next rest heq =>
    rw [show name = .char '/' :: rest from heq] at hslash
    exact absurd rfl hslash
  · simp only [hnormal]
    rfl

/-- **Markup that opens one style** and closes it, or leaves it open, can be shown. -/
theorem render_of_tags (width : Nat) {markup name : Text}
    (hname : ∀ word ∈ Text.fields Text.isBlank name, NoMixture word)
    (hslash : name.head? ≠ some (.char '/'))
    (htags : tags (pieces markup) = [⟨name, none⟩] ∨
      tags (pieces markup) = [⟨name, none⟩, closingTag]) :
    render width markup =
      .ok (Text.joinWith [.char '\n'] (shownLines width (plainText (pieces markup)))) := by
  obtain ⟨normal, hopen⟩ := exists_applyTag_name hname hslash
  -- The opening tag is applied, and the closing one takes it off again.
  have hfold : ∃ openTags, (tags (pieces markup)).foldlM applyTag [] = .ok openTags := by
    rcases htags with htags | htags
    · rw [htags, List.foldlM_cons, hopen]
      exact ⟨_, rfl⟩
    · rw [htags, List.foldlM_cons, hopen]
      exact ⟨[], by simp [applyTag_closing, bind, Except.bind, pure, Except.pure]⟩
  have hcheck : (tags (pieces markup)).forM checkStyle = .ok () := by
    refine forM_eq_ok fun tag htag => ?_
    have hcases : tag = ⟨name, none⟩ ∨ tag = closingTag := by
      rcases htags with htags | htags <;> simp_all
    rcases hcases with rfl | rfl
    · exact checkStyle_name hname
    · exact checkStyle_closing
  obtain ⟨openTags, hfold⟩ := hfold
  unfold render
  simp only [hfold, hcheck, bind, Except.bind, pure, Except.pure]

/-- A tag that closes a style is refused where none is open. -/
theorem applyTag_stray {name : Text}
    (hname : ∀ word ∈ Text.fields Text.isBlank (Text.strip name), NoMixture word) :
    applyTag [] ⟨.char '/' :: name, none⟩ = .error .tag := by
  obtain ⟨normal, hnormal⟩ := exists_normalName hname
  change closeTag [] (Text.strip name) = .error .tag
  unfold closeTag
  simp only [hnormal]
  cases (Text.strip name).isEmpty <;> rfl

/-- **Markup with a stray tag** after a closed style cannot be shown. -/
theorem render_of_stray (width : Nat) {markup style name : Text}
    (hstyle : ∀ word ∈ Text.fields Text.isBlank style, NoMixture word)
    (hslash : style.head? ≠ some (.char '/'))
    (hname : ∀ word ∈ Text.fields Text.isBlank (Text.strip name), NoMixture word)
    (htags : tags (pieces markup) = [⟨style, none⟩, closingTag, ⟨.char '/' :: name, none⟩]) :
    render width markup = .error .tag := by
  obtain ⟨normal, hopen⟩ := exists_applyTag_name hstyle hslash
  have hfold : (tags (pieces markup)).foldlM applyTag [] = .error .tag := by
    rw [htags]
    simp only [List.foldlM_cons, hopen, applyTag_closing, applyTag_stray hname, bind, Except.bind]
  unfold render
  simp only [hfold, bind, Except.bind]

/-! ## Warnings -/

/-- A tag at the start of markup. -/
theorem pieces_styled {c : CodePoint} {body : Text} (hstart : isTagStart c = true)
    (hbody : body.any isBracket = false) (rest : Text) :
    pieces (.char '[' :: c :: (body ++ .char ']' :: rest)) =
      .text [] :: .text [] :: .tag (c :: body) ::
      piecesFrom (c :: (body ++ .char ']' :: rest)).length [] rest := by
  have htag : tagAt? (.char '[' :: c :: (body ++ .char ']' :: rest)) = some (c :: body, rest) :=
    tagAt?_eq_some_iff.2 ⟨c, body, rfl, rfl, hstart, fun x hx => by
      simpa using List.any_eq_false.1 hbody x hx⟩
  have hhead : ∀ x ∈ (.char '[' :: c :: (body ++ .char ']' :: rest)).head?, (x == '\\') =
      false := by
    rintro x ⟨⟩
    rfl
  exact piecesFrom_of_tag hhead htag _ [] 0

theorem exists_protect_eq (message : Text) :
    ∃ k, protect message ++ [.char '[', .char '/', .char ']'] =
      protectFrom 0 message ++ closing k := by
  unfold protect
  simp only
  split
  · exact ⟨0, rfl⟩
  · exact ⟨1, by simp [closing]⟩
  · exact ⟨0, rfl⟩

/-- The style of warnings. -/
def warningStyle : Text := "bold yellow"

theorem tags_warning (message : Text) :
    tags (pieces ("[bold yellow]" ++ protect message ++ "[/]")) = [⟨warningStyle, none⟩] ∨
      tags (pieces ("[bold yellow]" ++ protect message ++ "[/]")) =
        [⟨warningStyle, none⟩, closingTag] := by
  obtain ⟨k, hprotect⟩ := exists_protect_eq message
  have hmarkup : ("[bold yellow]" : Text) ++ protect message ++ ("[/]" : Text) =
      .char '[' :: .char 'b' ::
        (("old yellow" : Text) ++ .char ']' :: (protectFrom 0 message ++ closing k)) := by
    have hopening : ("[bold yellow]" : Text) =
        .char '[' :: .char 'b' :: (("old yellow" : Text) ++ [.char ']']) := rfl
    have hclosing : ("[/]" : Text) = [.char '[', .char '/', .char ']'] := rfl
    rw [← hprotect, hopening, hclosing]
    simp only [List.append_assoc, List.cons_append, List.nil_append]
  have hopening : Tag.ofText (.char 'b' :: ("old yellow" : Text)) = ⟨warningStyle, none⟩ := by rfl
  have hbody : ("old yellow" : Text).any isBracket = false := rfl
  have hpieces := pieces_styled (c := 'b') rfl hbody (protectFrom 0 message ++ closing k)
  rw [hmarkup, hpieces]
  have htags : ∀ rest,
      tags (.text [] :: .text [] :: .tag (.char 'b' :: ("old yellow" : Text)) :: rest) =
      ⟨warningStyle, none⟩ :: tags rest := by
    intro rest
    rw [← hopening]
    rfl
  rw [htags]
  rcases tags_protected _ [] message k with hrest | hrest
  · exact .inl (by rw [hrest])
  · exact .inr (by rw [hrest])

/-- **Every warning can be shown.** -/
theorem exists_render_warning (width : Nat) (message : Text) :
    ∃ shown, render width ("[bold yellow]" ++ protect message ++ "[/]") = .ok shown :=
  ⟨_, render_of_tags width (by decide) (by decide) (tags_warning message)⟩

end DocEnum.Console
