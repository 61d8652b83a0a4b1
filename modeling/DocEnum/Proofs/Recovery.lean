import DocEnum.Proofs.DataModel
import DocEnum.Proofs.Segments

/-!
# Entries in writing

A list of codes and descriptions, written down in any of the forms that comments allow.

**Items** (`Item`). A code with leading zeros, a mark with spaces and tabs around it, and a
description. The description is normal, but may hold marks, digits, stars and slashes. Reading an
item gives its code and its description (`Item.lists`), and an item is one segment
(`Item.segments_text`).

**Listings** (`Listing`). Items with joints between them: separators, spaces and tabs. So the
segments of a listing are its items (`Listing.segments_text`).

**Cleaning.** Every line of a listing starts with a digit or a comma, behind spaces and tabs
(`Listing.linesUnmarked_text`), and nothing but the last description can close a comment
(`Listing.not_isDelimited_text`). So cleaning keeps the items.

Main result: a listing of distinct codes is read back in full and in order (`parse_listing`).
-/

namespace DocEnum

namespace Comment

/-! ## Unmarked lines -/

/-- No line starts with a marker, whatever unmarked text stands before the first line break. -/
def LinesUnmarked (t : Text) : Prop :=
  ∀ line, IsUnmarked line.reverse → ∀ l ∈ Text.linesFrom line t, IsUnmarked l

theorem linesUnmarked_nil : LinesUnmarked [] := by
  intro line hline l hl
  rw [Text.linesFrom] at hl
  split at hl
  · cases hl
  · rwa [List.mem_singleton.1 hl]

theorem LinesUnmarked.cons_feed {t : Text} (h : LinesUnmarked t) :
    LinesUnmarked (.char '\n' :: t) := by
  intro line hline l hl
  rw [Text.linesFrom_cons_of_break (by decide) (by simp), List.mem_cons] at hl
  rcases hl with rfl | hl
  · exact hline
  · exact h [] isUnmarked_nil l hl

/-- A part of a line that starts with no marker. -/
theorem LinesUnmarked.append {part t : Text} (hpart : IsUnmarked part)
    (hbreak : ∀ c ∈ part, Text.isLineBreak c = false) (h : LinesUnmarked t) :
    LinesUnmarked (part ++ t) := by
  intro line hline l hl
  rw [Text.linesFrom_append hbreak] at hl
  refine h _ ?_ l hl
  rw [List.reverse_append, List.reverse_reverse]
  exact hline.append hpart

/-- Line feeds, and characters within a line that are no markers. -/
theorem LinesUnmarked.append_gap {gap t : Text}
    (hgap : ∀ c ∈ gap, c = '\n' ∨ (Text.isLineBreak c = false ∧ c ≠ '/' ∧ c ≠ '*'))
    (h : LinesUnmarked t) : LinesUnmarked (gap ++ t) := by
  induction gap with
  | nil => exact h
  | cons c gap ih =>
    rw [List.forall_mem_cons] at hgap
    rcases hgap.1 with rfl | ⟨hbreak, hslash, hstar⟩
    · exact (ih hgap.2).cons_feed
    · have hc : IsUnmarked [c] := by
        intro d hd
        obtain rfl : d = c := List.mem_singleton.1
          ((List.dropWhile_sublist Text.isBlank).subset (List.mem_of_mem_head? hd))
        exact ⟨hstar, hslash⟩
      rw [List.cons_append, ← List.singleton_append]
      exact (ih hgap.2).append hc (by simpa using hbreak)

theorem isUnmarked_cons {c : CodePoint} (hstar : c ≠ '*') (hslash : c ≠ '/')
    (hblank : Text.isBlank c = false) (rest : Text) : IsUnmarked (c :: rest) := by
  intro d hd
  rw [Text.trimStart, List.dropWhile_cons_of_neg (by simp [hblank])] at hd
  obtain rfl : c = d := by simpa using hd
  exact ⟨hstar, hslash⟩

/-! ## Delimiters -/

/-- A closing delimiter does not reach over characters that are no part of it. -/
theorem closing_suffix_of_append {gap t : Text} (hgap : ∀ c ∈ gap, c ≠ '/' ∧ c ≠ '*')
    (h : [.char '*', .char '/'] <:+ gap ++ t) : [.char '*', .char '/'] <:+ t := by
  induction gap with
  | nil => exact h
  | cons c gap ih =>
    rw [List.forall_mem_cons] at hgap
    exact ih hgap.2 (closing_suffix_of_append_cons (t := []) hgap.1.1 hgap.1.2 h)

end Comment

namespace Entry

open Comment (IsDelimited IsUnmarked LinesUnmarked isSegmentChar isSeparator segments clean)

/-! ## Characters -/

/-- A space or a tab. -/
def isSpace (c : CodePoint) : Bool :=
  c == ' ' || c == '\t'

theorem isBlank_of_isSpace {c : CodePoint} (h : isSpace c = true) : Text.isBlank c = true := by
  simp only [isSpace, Bool.or_eq_true, beq_iff_eq] at h
  rcases h with rfl | rfl <;> rfl

theorem isSegmentChar_of_isSpace {c : CodePoint} (h : isSpace c = true) :
    isSegmentChar c = true := by
  simp only [isSpace, Bool.or_eq_true, beq_iff_eq] at h
  rcases h with rfl | rfl <;> rfl

theorem not_delimiter_of_isSpace {c : CodePoint} (h : isSpace c = true) : c ≠ '/' ∧ c ≠ '*' := by
  constructor <;> rintro rfl <;> exact absurd h (by decide)

theorem isSegmentChar_of_isMark {c : CodePoint} (h : isMark c = true) : isSegmentChar c = true := by
  simp only [isMark, Bool.or_eq_true, beq_iff_eq] at h
  rcases h with ((((rfl | rfl) | rfl) | rfl) | rfl) | rfl <;> decide

theorem not_delimiter_of_isMark {c : CodePoint} (h : isMark c = true) : c ≠ '/' ∧ c ≠ '*' := by
  constructor <;> rintro rfl <;> exact absurd h (by decide)

theorem not_isBlank_of_isDigit {c : CodePoint} (h : c.isDigit = true) : Text.isBlank c = false := by
  by_contra hblank
  rw [Bool.not_eq_false] at hblank
  rw [not_isDigit_of_isBlank hblank] at h
  cases h

theorem isSegmentChar_of_isDigit {c : CodePoint} (h : c.isDigit = true) :
    isSegmentChar c = true := by
  have hcomma : c ≠ ',' := by
    rintro rfl
    exact absurd h (by decide)
  have hwide : c ≠ '，' := by
    rintro rfl
    exact absurd h (by decide)
  have hbreak : Text.isLineBreak c = false := by
    by_contra hbreak
    rw [Bool.not_eq_false] at hbreak
    have hblank := Text.isBlank_of_isLineBreak hbreak
    rw [not_isBlank_of_isDigit h] at hblank
    cases hblank
  simp [isSegmentChar, hcomma, hwide, hbreak]

theorem not_isSeparator_of_isSegmentChar {c : CodePoint} (h : isSegmentChar c = true) :
    isSeparator c = false := by
  have hfeed : c ≠ '\n' := by
    rintro rfl
    exact absurd h (by decide)
  simp only [isSegmentChar, Bool.and_eq_true, bne_iff_ne] at h
  simp [isSeparator, h.1.1, h.1.2, hfeed]

theorem not_isLineBreak_of_isSegmentChar {c : CodePoint} (h : isSegmentChar c = true) :
    Text.isLineBreak c = false := by
  simp only [isSegmentChar, Bool.and_eq_true, Bool.not_eq_true'] at h
  exact h.2

/-! ## Items -/

/-- An entry in writing. -/
structure Item where
  zeros : Nat
  code : Nat
  before : Text
  mark : CodePoint
  after : Text
  description : Text
  code_le : code ≤ 2 ^ 31 - 1
  isSpace_before : ∀ c ∈ before, isSpace c = true
  isMark_mark : isMark mark = true
  isSpace_after : ∀ c ∈ after, isSpace c = true
  description_ne_nil : description ≠ []
  normalize_description : normalize description = description
  isSegmentChar_description : ∀ c ∈ description, isSegmentChar c = true

namespace Item

/-- The digits of the code, with leading zeros. -/
def digits (item : Item) : Text :=
  (List.replicate item.zeros '0' : Text) ++ Text.ofNat item.code

/-- The item as it is written. -/
def text (item : Item) : Text :=
  item.digits ++ (item.before ++ item.mark :: (item.after ++ item.description))

variable (item : Item)

theorem isDigit_digits : ∀ c ∈ item.digits, c.isDigit = true := by
  refine List.forall_mem_append.2 ⟨fun c hc => ?_, fun c => Text.isDigit_of_mem_ofNat⟩
  rw [List.eq_of_mem_replicate hc]
  decide

theorem digits_ne_nil : item.digits ≠ [] :=
  List.append_ne_nil_of_right_ne_nil _ (Text.ofNat_ne_nil _)

theorem toNat_digits : Text.toNat item.digits = item.code := by
  rw [digits]
  induction item.zeros with
  | zero => exact Text.toNat_ofNat item.code
  | succ zeros ih => rw [List.replicate_succ, List.cons_append, Text.toNat_zero_cons, ih]

theorem strip_description : Text.strip item.description = item.description := by
  rw [← item.normalize_description, normalize, Text.strip_strip]

theorem text_eq_cons : ∃ digit rest, item.text = digit :: rest ∧ digit.isDigit = true := by
  obtain ⟨digit, rest, hcons⟩ := List.exists_cons_of_ne_nil item.digits_ne_nil
  exact ⟨digit, _, by rw [text, hcons, List.cons_append],
    item.isDigit_digits digit (hcons ▸ List.mem_cons_self)⟩

theorem getLast?_text : item.text.getLast? = item.description.getLast? := by
  rw [text, List.getLast?_append_of_ne_nil _ (by simp), List.getLast?_append_of_ne_nil _ (by simp),
    ← List.singleton_append, ← List.append_assoc,
    List.getLast?_append_of_ne_nil _ item.description_ne_nil]

/-- An item has no blank at its end. -/
theorem not_isBlank_of_getLast?_text : ∀ c ∈ item.text.getLast?, Text.isBlank c = false := by
  rw [getLast?_text, ← strip_description]
  exact Text.not_of_getLast?_trim

/-- An item holds characters of segments only. -/
theorem isSegmentChar_text : ∀ c ∈ item.text, isSegmentChar c = true := by
  simp only [text, List.forall_mem_append, List.forall_mem_cons]
  refine ⟨fun c hc => isSegmentChar_of_isDigit (item.isDigit_digits c hc), fun c hc => ?_,
    isSegmentChar_of_isMark item.isMark_mark, fun c hc => ?_, item.isSegmentChar_description⟩
  · exact isSegmentChar_of_isSpace (item.isSpace_before c hc)
  · exact isSegmentChar_of_isSpace (item.isSpace_after c hc)

theorem text_ne_nil : item.text ≠ [] := by
  obtain ⟨digit, rest, hcons, -⟩ := item.text_eq_cons
  rw [hcons]
  exact List.cons_ne_nil digit rest

theorem strip_text : Text.strip item.text = item.text := by
  refine Text.trim_eq_self ?_ item.not_isBlank_of_getLast?_text
  obtain ⟨digit, rest, hcons, hdigit⟩ := item.text_eq_cons
  rw [hcons]
  simpa using not_isBlank_of_isDigit hdigit

/-- **An item is one segment.** -/
theorem segments_text : segments item.text = [item.text] := by
  refine Comment.segments_eq_singleton item.text_ne_nil item.strip_text fun c hc => ?_
  exact not_isSeparator_of_isSegmentChar (item.isSegmentChar_text c hc)

theorem isUnmarked_text : IsUnmarked item.text := by
  obtain ⟨digit, rest, hcons, hdigit⟩ := item.text_eq_cons
  rw [hcons]
  refine Comment.isUnmarked_cons ?_ ?_ (not_isBlank_of_isDigit hdigit) rest
  · rintro rfl
    exact absurd hdigit (by decide)
  · rintro rfl
    exact absurd hdigit (by decide)

theorem linesUnmarked_append {t : Text} (h : LinesUnmarked t) : LinesUnmarked (item.text ++ t) :=
  h.append item.isUnmarked_text fun c hc =>
    not_isLineBreak_of_isSegmentChar (item.isSegmentChar_text c hc)

/-- Behind anything, only the description of an item can close a comment. -/
theorem closing_suffix_description {front : Text}
    (h : [.char '*', .char '/'] <:+ front ++ item.text) :
    [.char '*', .char '/'] <:+ item.description := by
  have hassoc : front ++ item.text =
      (front ++ item.digits ++ item.before) ++ item.mark :: (item.after ++ item.description) := by
    simp [text]
  rw [hassoc] at h
  obtain ⟨hslash, hstar⟩ := not_delimiter_of_isMark item.isMark_mark
  have hmark := Comment.closing_suffix_of_append_cons hslash hstar h
  exact Comment.closing_suffix_of_append
    (fun c hc => not_delimiter_of_isSpace (item.isSpace_after c hc)) hmark

/-- **An item lists its code** with its description. -/
theorem lists : Lists item.text item.code item.description := by
  refine ⟨item.digits, ⟨item.before, item.mark, item.after, rfl, item.digits_ne_nil,
    item.isDigit_digits, ?_, item.isMark_mark, ?_, ?_⟩, item.toNat_digits⟩
  · exact fun c hc => isBlank_of_isSpace (item.isSpace_before c hc)
  · exact fun c hc => isBlank_of_isSpace (item.isSpace_after c hc)
  · obtain ⟨first, rest, hcons⟩ := List.exists_cons_of_ne_nil item.description_ne_nil
    refine ⟨first, rest, hcons, ?_⟩
    have hfirst : first ∈ (Text.strip item.description).head? := by
      rw [item.strip_description, hcons]
      rfl
    exact Text.not_of_head?_trim first hfirst

/-- An item with a new code becomes an entry. -/
theorem accepted?_judge {accepted : List Entry}
    (hnew : (item.code : Int) ∉ accepted.map Entry.code) :
    ∃ name, (judge accepted item.text).accepted? = some ⟨name, item.code, item.description⟩ := by
  exact ⟨_, accepted?_judge_eq_some_iff.2 ⟨item.code, item.description, item.lists, item.code_le,
    hnew, rfl, item.normalize_description.symm, ConstantName.madeDistinct_fresh _ _⟩⟩

end Item

/-- **Items of distinct codes** all become entries. -/
theorem judgeAll_items {accepted : List Entry} {items : List Item}
    (hcodes : (items.map Item.code).Nodup)
    (hnew : ∀ item ∈ items, (item.code : Int) ∉ accepted.map Entry.code) :
    ((judgeAll accepted (items.map Item.text)).filterMap Verdict.accepted?).map
        (fun entry => (entry.code, entry.description)) =
      items.map fun item => ((item.code : Int), item.description) := by
  induction items generalizing accepted with
  | nil => rfl
  | cons item items ih =>
    rw [List.map_cons, List.nodup_cons] at hcodes
    rw [List.forall_mem_cons] at hnew
    obtain ⟨name, haccepted⟩ := item.accepted?_judge hnew.1
    rw [List.map_cons, judgeAll, List.filterMap_cons_some haccepted, haccepted, List.map_cons,
      List.map_cons, ih hcodes.2]
    intro later hlater
    rw [Option.toList_some, List.map_append, List.map_singleton, List.mem_append, not_or]
    refine ⟨hnew.2 later hlater, fun hmem => hcodes.1 ?_⟩
    rw [List.mem_singleton, Int.ofNat_inj] at hmem
    exact hmem ▸ List.mem_map_of_mem hlater

/-! ## Listings -/

/-- What holds two items apart: separators, spaces and tabs, with at least one separator. -/
structure Joint where
  text : Text
  isSpace_or_isSeparator : ∀ c ∈ text, (isSpace c || isSeparator c) = true
  exists_isSeparator : ∃ c ∈ text, isSeparator c = true

namespace Joint

variable (joint : Joint)

theorem isGap_text : ∀ c ∈ joint.text, Comment.isGap c = true := by
  intro c hc
  rcases Bool.or_eq_true_iff.1 (joint.isSpace_or_isSeparator c hc) with h | h
  · exact Comment.isGap_of_isBlank (isBlank_of_isSpace h)
  · rw [Comment.isGap, h, Bool.true_or]

theorem feed_or_plain :
    ∀ c ∈ joint.text, c = '\n' ∨ (Text.isLineBreak c = false ∧ c ≠ '/' ∧ c ≠ '*') := by
  intro c hc
  rcases Bool.or_eq_true_iff.1 (joint.isSpace_or_isSeparator c hc) with h | h
  · exact .inr ⟨not_isLineBreak_of_isSegmentChar (isSegmentChar_of_isSpace h),
      not_delimiter_of_isSpace h⟩
  · simp only [isSeparator, Bool.or_eq_true, beq_iff_eq] at h
    rcases h with (rfl | rfl) | rfl
    · exact .inr (by decide)
    · exact .inr (by decide)
    · exact .inl rfl

end Joint

/-- Items in writing, each behind the first one with the joint before it. -/
structure Listing where
  first : Item
  rest : List (Joint × Item)

namespace Listing

/-- The items in order. -/
def items (listing : Listing) : List Item :=
  listing.first :: listing.rest.map Prod.snd

/-- The last item. -/
def last (listing : Listing) : Item :=
  listing.items.getLast (List.cons_ne_nil _ _)

/-- Items behind the first one, with their joints. -/
def written (rest : List (Joint × Item)) : Text :=
  rest.flatMap fun (joint, item) => joint.text ++ item.text

/-- The listing as it is written. -/
def text (listing : Listing) : Text :=
  listing.first.text ++ written listing.rest

variable (listing : Listing)

theorem exists_text_eq_append : ∃ front, listing.text = front ++ listing.last.text := by
  rcases listing with ⟨first, rest⟩
  rcases List.eq_nil_or_concat rest with rfl | ⟨init, ⟨joint, item⟩, rfl⟩
  · exact ⟨[], by simp [text, written, last, items]⟩
  · exact ⟨first.text ++ (written init ++ joint.text), by simp [text, written, last, items]⟩

theorem segments_append_written (t : Text) (rest : List (Joint × Item)) :
    segments (t ++ written rest) = segments t ++ (rest.map Prod.snd).map Item.text := by
  induction rest generalizing t with
  | nil => simp [written]
  | cons next rest ih =>
    obtain ⟨joint, item⟩ := next
    rw [written, List.flatMap_cons, List.append_assoc,
      Comment.segments_append_gap_append joint.isGap_text joint.exists_isSeparator, ← written, ih,
      item.segments_text]
    rfl

/-- **The segments of a listing** are its items. -/
theorem segments_text : segments listing.text = listing.items.map Item.text := by
  rw [text, segments_append_written, listing.first.segments_text]
  rfl

theorem isSegmentChar_or_isSeparator_of_mem_text :
    ∀ c ∈ listing.text, isSegmentChar c = true ∨ isSeparator c = true := by
  intro c hc
  simp only [text, written, List.mem_append, List.mem_flatMap] at hc
  rcases hc with hc | ⟨⟨joint, item⟩, -, hc | hc⟩
  · exact .inl (listing.first.isSegmentChar_text c hc)
  · exact (Bool.or_eq_true_iff.1 (joint.isSpace_or_isSeparator c hc)).imp_left
      isSegmentChar_of_isSpace
  · exact .inl (item.isSegmentChar_text c hc)

theorem eq_feed_of_isLineBreak :
    ∀ c ∈ listing.text, Text.isLineBreak c = true → c = '\n' := by
  intro c hc hbreak
  rcases listing.isSegmentChar_or_isSeparator_of_mem_text c hc with h | h
  · rw [not_isLineBreak_of_isSegmentChar h] at hbreak
    cases hbreak
  · simp only [isSeparator, Bool.or_eq_true, beq_iff_eq] at h
    rcases h with (rfl | rfl) | rfl
    · exact absurd hbreak (by decide)
    · exact absurd hbreak (by decide)
    · rfl

theorem linesUnmarked_written (rest : List (Joint × Item)) : LinesUnmarked (written rest) := by
  induction rest with
  | nil => exact Comment.linesUnmarked_nil
  | cons next rest ih =>
    obtain ⟨joint, item⟩ := next
    rw [written, List.flatMap_cons, List.append_assoc]
    exact (item.linesUnmarked_append ih).append_gap joint.feed_or_plain

/-- **No line of a listing** starts with a marker. -/
theorem linesUnmarked_text : LinesUnmarked listing.text :=
  listing.first.linesUnmarked_append (linesUnmarked_written listing.rest)

theorem strip_text : Text.strip listing.text = listing.text := by
  refine Text.trim_eq_self ?_ ?_
  · obtain ⟨digit, rest, hcons, hdigit⟩ := listing.first.text_eq_cons
    rw [text, hcons]
    simpa using not_isBlank_of_isDigit hdigit
  · obtain ⟨front, hfront⟩ := listing.exists_text_eq_append
    rw [hfront, List.getLast?_append_of_ne_nil _ listing.last.text_ne_nil]
    exact listing.last.not_isBlank_of_getLast?_text

/-- **A listing has no delimiter**, unless its last description closes a comment. -/
theorem not_isDelimited_text (hlast : ¬[.char '*', .char '/'] <:+ listing.last.description) :
    ¬IsDelimited listing.text := by
  rintro (hopen | hclose)
  · obtain ⟨digit, rest, hcons, hdigit⟩ := listing.first.text_eq_cons
    rw [text, hcons, List.cons_append, List.cons_prefix_cons] at hopen
    rw [← hopen.1] at hdigit
    exact absurd hdigit (by decide)
  · obtain ⟨front, hfront⟩ := listing.exists_text_eq_append
    rw [hfront] at hclose
    exact hlast (listing.last.closing_suffix_description hclose)

/-- **Cleaning keeps the items** of a listing. -/
theorem segments_clean_text (hlast : ¬[.char '*', .char '/'] <:+ listing.last.description) :
    segments (clean listing.text) = listing.items.map Item.text := by
  rw [Comment.segments_clean_of_isUnmarked _ listing.eq_feed_of_isLineBreak
    (listing.linesUnmarked_text [] Comment.isUnmarked_nil), listing.segments_text]
  rw [listing.strip_text]
  exact listing.not_isDelimited_text hlast

end Listing

/-- **Every listing is read back.** If the codes are distinct and the last description does not
close a comment, the entries have exactly the codes and descriptions of the items, in order. -/
theorem parse_listing {listing : Listing} (hcodes : (listing.items.map Item.code).Nodup)
    (hlast : ¬[.char '*', .char '/'] <:+ listing.last.description) :
    (parse listing.text).map (fun entry => (entry.code, entry.description)) =
      listing.items.map fun item => ((item.code : Int), item.description) := by
  rw [parse, verdicts, listing.segments_clean_text hlast]
  exact judgeAll_items hcodes (by simp)

/-- Descriptions that start like a mark, a line comment and a block comment, the greatest code, and
an item that ends in a closing delimiter. -/
theorem parse_listing_joints :
    let first : Item := ⟨2, 0, " \t", '：', "", "*/", by decide, List.all_eq_true.1 (by decide),
      by decide, by simp, by decide, by decide, List.all_eq_true.1 (by decide)⟩
    let second : Item := ⟨0, 2147483647, "", '-', " ", "-* // 3=c*/", by decide, by simp,
      by decide, List.all_eq_true.1 (by decide), by decide, by decide,
      List.all_eq_true.1 (by decide)⟩
    let third : Item := ⟨0, 7, "", '=', "", "/* d", by decide, by simp, by decide, by simp,
      by decide, by decide, List.all_eq_true.1 (by decide)⟩
    let lines : Joint :=
      ⟨"\n\t,\n", List.all_eq_true.1 (by decide), List.any_eq_true.1 (by decide)⟩
    let comma : Joint :=
      ⟨" ，", List.all_eq_true.1 (by decide), List.any_eq_true.1 (by decide)⟩
    let listing : Listing := ⟨first, [(lines, second), (comma, third)]⟩
    let plain : Text := "000 \t：*/\n\t,\n2147483647- -* // 3=c*/ ，7=/* d"
    listing.text = plain ∧ (listing.items.map Item.code).Nodup ∧
      ¬[.char '*', .char '/'] <:+ listing.last.description ∧
      (parse plain).map (fun entry => (entry.code, entry.description)) =
        [((0 : Int), ("*/" : Text)), (2147483647, "-* // 3=c*/"), (7, "/* d")] := by
  intro first second third lines comma listing plain
  have htext : listing.text = plain := by decide +kernel
  have hcodes : (listing.items.map Item.code).Nodup := by decide
  have hlast : ¬[.char '*', .char '/'] <:+ listing.last.description := by decide
  exact ⟨htext, hcodes, hlast, htext ▸ parse_listing hcodes hlast⟩

end Entry

end DocEnum
