import DocEnum.Json.Printer
import DocEnum.Proofs.Libraries

/-!
# The writer of JSON keeps its laws

**Values.** A value has a JSON text at a level if and only if it can be written there
(`isSome_textAt?_iff`). The proof goes down the value: each kind of value asks for the same of its
parts as the predicate does.

**Bytes.** A JSON text has bytes (`encodable_of_textAt?`): names and texts without halves of
surrogate pairs stand in it, digits, and signs.
-/

namespace DocEnum

variable {level : Nat} {t u : Text}

/-! ## Numbers and times -/

theorem Utf8.encodable_ofInt (n : Int) : Utf8.Encodable (Text.ofInt n) := by
  cases n <;> simp [Text.ofInt]

theorem Utf8.encodable_padded (places n : Nat) : Utf8.Encodable (Text.padded places n) := by
  simp [Text.padded, Text.zeroFilled]

theorem Day.encodable_plain (day : Day) : Utf8.Encodable day.plain := by
  simp [Day.plain, Utf8.encodable_padded]

theorem Clock.encodable_plain (clock : Clock) : Utf8.Encodable clock.plain := by
  have hoffset : ∀ offset, Utf8.Encodable (Clock.plainOffset offset) := by
    intro offset
    unfold Clock.plainOffset
    simp only
    split_ifs <;> simp [Utf8.encodable_padded]
  unfold Clock.plain
  cases clock.offset <;> split_ifs <;> simp [Utf8.encodable_padded, hoffset]

theorem Binary64.encodable_pointed {digits : Text} (h : Utf8.Encodable digits) :
    Utf8.Encodable (Binary64.pointed digits) := by
  unfold Binary64.pointed
  split <;> simp_all

theorem Binary64.encodable_placed {digits : Text} (h : Utf8.Encodable digits) (point : Int) :
    Utf8.Encodable (Binary64.placed digits point) := by
  have htake := h.sublist (List.take_sublist point.toNat digits)
  have hdrop := h.sublist (List.drop_sublist point.toNat digits)
  unfold Binary64.placed
  simp only
  split_ifs <;> simp [Utf8.encodable_padded, Binary64.encodable_pointed, h, htake, hdrop]

theorem Binary64.encodable_text (x : Binary64) : Utf8.Encodable x.text := by
  have hdigits : ∀ d : Decimal, Utf8.Encodable d.significant.1 := fun d =>
    (Utf8.encodable_ofNat d.digits).sublist (Text.trimEnd_sublist _ _)
  unfold Binary64.text
  simp only
  split_ifs <;> split <;> simp [Binary64.encodable_placed, hdigits]

namespace Json

/-! ## Strings -/

theorem encodable_stringChar {c : CodePoint} (h : c.isHalf = false) :
    Utf8.Encodable (stringChar c) := by
  unfold stringChar
  split_ifs <;> simp [h]

theorem stringText?_eq_some_iff :
    stringText? t = some u ↔ Utf8.Encodable t ∧
      u = .char '"' :: (t.flatMap stringChar ++ [.char '"']) := by
  have hhalves : t.any CodePoint.isHalf = false ↔ Utf8.Encodable t := by simp [Utf8.Encodable]
  unfold stringText?
  split
  · next h => exact ⟨nofun,
    fun hu => absurd (hhalves.2 hu.1) (by simp only [h, reduceCtorEq, not_false_iff])⟩
  · next h => simp [← hhalves, h, eq_comm]

theorem isSome_stringText?_iff : (stringText? t).isSome = true ↔ Utf8.Encodable t := by
  simp [Option.isSome_iff_exists, stringText?_eq_some_iff]

theorem encodable_stringText? (h : stringText? t = some u) : Utf8.Encodable u := by
  obtain ⟨ht, rfl⟩ := stringText?_eq_some_iff.1 h
  have hchars : Utf8.Encodable (t.flatMap stringChar) := by
    intro c hc
    obtain ⟨d, hd, hc⟩ := List.mem_flatMap.1 hc
    exact encodable_stringChar (ht d hd) c hc
  simp [hchars]

/-! ## Values -/

theorem isSome_intText?_iff {n : Int} : (intText? n).isSome = true ↔ IsWord n := by
  unfold intText? IsWord
  split_ifs with h <;> simp at h ⊢ <;> omega

theorem isSome_itemTexts?_iff {items : List Value} :
    (itemTexts? level items).isSome = true ↔
      ∀ item ∈ items, (textAt? level item).isSome = true := by
  induction items with
  | nil => simp [itemTexts?]
  | cons item rest ih =>
    rw [itemTexts?, List.forall_mem_cons, ← ih]
    cases textAt? level item <;> cases itemTexts? level rest <;> simp

theorem isSome_memberTexts?_iff {pairs : List (Value × Value)} :
    (memberTexts? level pairs).isSome = true ↔ ∀ pair ∈ pairs,
      (∃ key, pair.1 = .text key ∧ Utf8.Encodable key) ∧ (textAt? level pair.2).isSome = true := by
  induction pairs with
  | nil => simp [memberTexts?]
  | cons pair rest ih =>
    rw [List.forall_mem_cons, ← ih]
    obtain ⟨key, value⟩ := pair
    cases key with
    | text key =>
      simp only [memberTexts?, Value.text.injEq, exists_eq_left', ← isSome_stringText?_iff]
      cases stringText? key <;> cases textAt? level value <;> cases memberTexts? level rest <;>
        simp
    | _ => simp [memberTexts?]

theorem textAt?_tuple (items : List Value) :
    textAt? level (.tuple items) = textAt? level (.list items) := by
  cases items with
  | nil => rw [textAt?, textAt?]
  | cons item rest => rw [textAt?, textAt?] <;> exact nofun

theorem isSome_textAt?_list {items : List Value} :
    (textAt? level (.list items)).isSome = true ↔ (items ≠ [] → level < 254) ∧
      ∀ item ∈ items, (textAt? (level + 1) item).isSome = true := by
  cases items with
  | nil => simp [textAt?]
  | cons item rest =>
    rw [← isSome_itemTexts?_iff, textAt?, maxWrittenLevel]
    · split_ifs with hlevel <;> simp <;> omega
    · exact nofun

theorem isSome_textAt?_mapping {pairs : List (Value × Value)} :
    (textAt? level (.mapping pairs)).isSome = true ↔ level < 254 ∧ ∀ pair ∈ pairs,
      (∃ key, pair.1 = .text key ∧ Utf8.Encodable key) ∧
        (textAt? (level + 1) pair.2).isSome = true := by
  rw [← isSome_memberTexts?_iff, textAt?, maxWrittenLevel]
  split_ifs with hlevel <;> simp <;> omega

theorem sizeOf_lt_mapping {pairs : List (Value × Value)} {pair : Value × Value}
    (h : pair ∈ pairs) : sizeOf pair.2 < sizeOf (Value.mapping pairs) := by
  have hpair := List.sizeOf_lt_of_mem h
  have hvalue : sizeOf pair.2 < sizeOf pair := by
    cases pair
    simp
  simp only [Value.mapping.sizeOf_spec]
  omega

/-- **A value has a JSON text** exactly where it can be written. -/
theorem isSome_textAt?_iff (level : Nat) (value : Value) :
    (textAt? level value).isSome = true ↔ Writable level value := by
  -- Containers ask the same of their parts one level deeper; bytes and sets have no text.
  match value with
  | .null => exact iff_of_true rfl .null
  | .bool true => exact iff_of_true rfl (.bool true)
  | .bool false => exact iff_of_true rfl (.bool false)
  | .int n => rw [textAt?, isSome_intText?_iff, writable_int_iff]
  | .float x => exact iff_of_true rfl (.float x)
  | .text t => rw [textAt?, isSome_stringText?_iff, writable_text_iff]
  | .date day =>
    rw [textAt?, isSome_stringText?_iff]
    exact iff_of_true day.encodable_plain (.date day)
  | .moment day clock =>
    rw [textAt?, isSome_stringText?_iff]
    exact iff_of_true (by simp [day.encodable_plain, clock.encodable_plain]) (.moment day clock)
  | .list items =>
    have ih : ∀ item ∈ items, ((textAt? (level + 1) item).isSome = true ↔
        Writable (level + 1) item) := fun item _ => isSome_textAt?_iff (level + 1) item
    rw [isSome_textAt?_list, forall₂_congr ih, writable_list_iff]
  | .tuple items =>
    have ih : ∀ item ∈ items, ((textAt? (level + 1) item).isSome = true ↔
        Writable (level + 1) item) := fun item _ => isSome_textAt?_iff (level + 1) item
    rw [textAt?_tuple, isSome_textAt?_list, forall₂_congr ih, writable_tuple_iff]
  | .mapping pairs =>
    have ih : ∀ pair ∈ pairs, ((textAt? (level + 1) pair.2).isSome = true ↔
        Writable (level + 1) pair.2) := fun pair _ => isSome_textAt?_iff (level + 1) pair.2
    rw [isSome_textAt?_mapping, writable_mapping_iff]
    exact and_congr_right' (forall₂_congr fun pair hpair => and_congr_right' (ih pair hpair))
  | .bytes bs => exact iff_of_false (by simp [textAt?]) nofun
  | .set items => exact iff_of_false (by simp [textAt?]) nofun
  | .sameList => exact iff_of_false (by simp [textAt?]) nofun
  | .sameMapping => exact iff_of_false (by simp [textAt?]) nofun
termination_by value
decreasing_by
  · decreasing_tactic
  · decreasing_tactic
  · exact sizeOf_lt_mapping ‹pair ∈ pairs›

/-! ## Bytes -/

theorem encodable_floatText (x : Binary64) : Utf8.Encodable (floatText x) := by
  unfold floatText
  split
  · exact Utf8.encodable_map_char _
  · exact Utf8.encodable_map_char _
  · exact x.encodable_text

theorem encodable_enclosed {opening closing : CodePoint} {pieces : List Text}
    (hopening : opening.isHalf = false) (hclosing : closing.isHalf = false)
    (h : ∀ piece ∈ pieces, Utf8.Encodable piece) :
    Utf8.Encodable (enclosed level opening closing pieces) := by
  have hline : ∀ level, Utf8.Encodable (newLine level) := fun level => by simp [newLine]
  have hjoined : ∀ level, Utf8.Encodable (Text.joinWith (.char ',' :: newLine level) pieces) :=
    fun level => Utf8.encodable_joinWith (by simp [hline]) h
  unfold enclosed
  split
  · simp [hopening, hclosing]
  · simp [hopening, hclosing, hline, hjoined]

theorem encodable_itemTexts {items : List Value} {texts : List Text}
    (hitems : ∀ item ∈ items, ∀ t, textAt? level item = some t → Utf8.Encodable t)
    (h : itemTexts? level items = some texts) : ∀ t ∈ texts, Utf8.Encodable t := by
  induction items generalizing texts with
  | nil =>
    obtain rfl := Option.some.inj h
    exact List.forall_mem_nil _
  | cons item rest ih =>
    rw [List.forall_mem_cons] at hitems
    simp only [itemTexts?, Option.bind_eq_bind, Option.bind_eq_some_iff] at h
    obtain ⟨t, ht, texts', htexts, h⟩ := h
    obtain rfl := Option.some.inj h
    exact List.forall_mem_cons.2 ⟨hitems.1 t ht, ih hitems.2 htexts⟩

theorem encodable_memberTexts {pairs : List (Value × Value)} {texts : List Text}
    (hpairs : ∀ pair ∈ pairs, ∀ t, textAt? level pair.2 = some t → Utf8.Encodable t)
    (h : memberTexts? level pairs = some texts) : ∀ t ∈ texts, Utf8.Encodable t := by
  induction pairs generalizing texts with
  | nil =>
    obtain rfl := Option.some.inj h
    exact List.forall_mem_nil _
  | cons pair rest ih =>
    obtain ⟨key, value⟩ := pair
    rw [List.forall_mem_cons] at hpairs
    cases key with
    | text key =>
      simp only [memberTexts?, Option.bind_eq_bind, Option.bind_eq_some_iff] at h
      obtain ⟨name, hname, t, ht, texts', htexts, h⟩ := h
      obtain rfl := Option.some.inj h
      refine List.forall_mem_cons.2 ⟨?_, ih hpairs.2 htexts⟩
      simp [encodable_stringText? hname, hpairs.1 t ht]
    | _ => cases h

theorem exists_texts_of_textAt?_list {items : List Value}
    (h : textAt? level (.list items) = some t) :
    ∃ texts, itemTexts? (level + 1) items = some texts ∧
      t = enclosed level (.char '[') (.char ']') texts := by
  cases items with
  | nil => exact ⟨[], rfl, (Option.some.inj h).symm⟩
  | cons item rest =>
    rw [textAt?] at h
    · split_ifs at h
      obtain ⟨texts, htexts, rfl⟩ := Option.map_eq_some_iff.1 h
      exact ⟨texts, htexts, rfl⟩
    · exact nofun

/-- **A JSON text has bytes.** -/
theorem encodable_of_textAt? (level : Nat) (value : Value) :
    ∀ t, textAt? level value = some t → Utf8.Encodable t := by
  intro t h
  match value with
  | .null | .bool true | .bool false =>
    obtain rfl := Option.some.inj h
    exact Utf8.encodable_map_char _
  | .int n =>
    rw [textAt?, intText?] at h
    split_ifs at h
    obtain rfl := Option.some.inj h
    exact Utf8.encodable_ofInt n
  | .float x =>
    obtain rfl := Option.some.inj h
    exact encodable_floatText x
  | .text _ | .date _ | .moment _ _ => exact encodable_stringText? h
  | .list items =>
    obtain ⟨texts, htexts, rfl⟩ := exists_texts_of_textAt?_list h
    exact encodable_enclosed rfl rfl
      (encodable_itemTexts (fun item _ => encodable_of_textAt? (level + 1) item) htexts)
  | .tuple items =>
    rw [textAt?_tuple] at h
    obtain ⟨texts, htexts, rfl⟩ := exists_texts_of_textAt?_list h
    exact encodable_enclosed rfl rfl
      (encodable_itemTexts (fun item _ => encodable_of_textAt? (level + 1) item) htexts)
  | .mapping pairs =>
    rw [textAt?] at h
    split_ifs at h
    obtain ⟨texts, htexts, rfl⟩ := Option.map_eq_some_iff.1 h
    exact encodable_enclosed rfl rfl
      (encodable_memberTexts (fun pair _ => encodable_of_textAt? (level + 1) pair.2) htexts)
  | .bytes _ | .set _ | .sameList | .sameMapping => cases h
termination_by value
decreasing_by
  · decreasing_tactic
  · decreasing_tactic
  · exact sizeOf_lt_mapping ‹pair ∈ pairs›

/-- **The writer of JSON** keeps the laws. -/
theorem lawful_writer : @JsonWriter.Lawful writer :=
  let _ := writer
  { isSome_text?_iff := isSome_textAt?_iff 0
    encodable_text := encodable_of_textAt? 0 _ _ }

end Json

end DocEnum
