import Mathlib
import DocEnum.Benchmark
import DocEnum.Proofs.CanonicalName
import DocEnum.Proofs.Decoration
import DocEnum.Proofs.Descriptions
import DocEnum.Proofs.Recovery

/-!
# Benchmark comments are read back

What the parser makes of the comments that measure it.

**Segments.** The line of a code without its decoration (`item`) is one segment of one line. So the
segments of a benchmark comment are these items, one for each code (`segments_clean_comment`).

**Entries** (`entry`). An item lists its code, and its description in normal form has two words,
the code and a word of its own. So its derived name says the code, and no two of them are equal
(`name_entry_injective`).

**Theorem (`parse_comment`).** A comment with at most `2 ^ 31` codes is read back in full: every
code has its entry, in order, with the name that is derived from its description.

The step (`accepted?_judge_item`) is that the item of a code becomes its entry after the entries of
all smaller codes. From `2 ^ 31` on an item becomes nothing, so that a larger comment lists no more
than a comment of this size (`parse_comment_eq`).
-/

namespace DocEnum.Benchmark

open Comment (EndedLine isSegmentChar segments clean)
open Entry (Lists judge isMark)

variable {i j n : Nat}

/-! ## Items -/

/-- What an item says of its code. -/
def body (i : Nat) : Text :=
  "状态 " ++ Text.ofNat i ++ " state。"

/-- The line of a code without its decoration. -/
def item (i : Nat) : Text :=
  Text.ofNat i ++ mark i ++ body i

/-- A separator is a mark between spaces. -/
theorem mark_eq (i : Nat) :
    ∃ (before : Text) (sign : CodePoint) (after : Text),
      mark i = before ++ sign :: after ∧ isMark sign = true ∧
      (∀ c ∈ before, c = ' ') ∧ ∀ c ∈ after, c = ' ' := by
  rw [mark]
  split
  · exact ⟨[], '-', [], rfl, by decide, by simp, by simp⟩
  · exact ⟨[], ':', [], rfl, by decide, by simp, by simp⟩
  · exact ⟨[], '：', [], rfl, by decide, by simp, by simp⟩
  · exact ⟨[.char ' '], '=', [.char ' '], rfl, by decide, by simp, by simp⟩
  · exact ⟨[.char ' '], '-', [.char ' '], rfl, by decide, by simp, by simp⟩

theorem line_eq (i : Nat) : line i = " * " ++ item i := by
  simp [line, item, body]

/-- An item starts with a digit and ends with a sentence mark. -/
theorem item_ends (i : Nat) :
    (∃ digit rest, item i = digit :: rest ∧ digit.isDigit = true) ∧
      ∃ front, item i = front ++ [.char '。'] := by
  constructor
  · obtain ⟨digit, rest, hcons⟩ := List.exists_cons_of_ne_nil (Text.ofNat_ne_nil i)
    have hdigit : digit.isDigit = true :=
      Text.isDigit_of_mem_ofNat (n := i) (hcons ▸ List.mem_cons_self)
    exact ⟨digit, rest ++ mark i ++ body i, by rw [item, hcons]; rfl, hdigit⟩
  · exact ⟨Text.ofNat i ++ mark i ++ ("状态 " ++ Text.ofNat i ++ " state"), by simp [item, body]⟩

theorem item_ne_nil (i : Nat) : item i ≠ [] := by
  obtain ⟨⟨digit, rest, hcons, -⟩, -⟩ := item_ends i
  rw [hcons]
  exact List.cons_ne_nil digit rest

theorem isSegmentChar_item (i : Nat) : ∀ c ∈ item i, isSegmentChar c = true := by
  have hdigits : ∀ c ∈ Text.ofNat i, isSegmentChar c = true :=
    fun c hc => Entry.isSegmentChar_of_isDigit (Text.isDigit_of_mem_ofNat hc)
  have hmark : ∀ c ∈ mark i, isSegmentChar c = true := by
    obtain ⟨before, sign, after, heq, hsign, hbefore, hafter⟩ := mark_eq i
    rw [heq, List.forall_mem_append, List.forall_mem_cons]
    refine ⟨fun c hc => ?_, Entry.isSegmentChar_of_isMark hsign, fun c hc => ?_⟩
    · rw [hbefore c hc]
      decide
    · rw [hafter c hc]
      decide
  have hfixed : (∀ c ∈ ("状态 " : Text), isSegmentChar c = true) ∧
      ∀ c ∈ (" state。" : Text), isSegmentChar c = true :=
    ⟨List.all_eq_true.1 (by decide), List.all_eq_true.1 (by decide)⟩
  simp only [item, body, List.forall_mem_append]
  exact ⟨⟨hdigits, hmark⟩, ⟨hfixed.1, hdigits⟩, hfixed.2⟩

theorem strip_item (i : Nat) : Text.strip (item i) = item i := by
  obtain ⟨⟨digit, rest, hcons, hdigit⟩, front, hfront⟩ := item_ends i
  refine Text.trim_eq_self ?_ ?_
  · rw [hcons]
    simpa using Entry.not_isBlank_of_isDigit hdigit
  · rw [hfront, List.getLast?_concat]
    rintro c ⟨⟩
    decide

/-- An item has no decoration. -/
theorem cleanLine_item (i : Nat) : Comment.cleanLine (item i) = item i := by
  obtain ⟨⟨digit, rest, hcons, hdigit⟩, -⟩ := item_ends i
  have hunmarked : Comment.IsUnmarked (item i) := by
    rw [hcons]
    refine Comment.isUnmarked_cons ?_ ?_ (Entry.not_isBlank_of_isDigit hdigit) rest
    · rintro rfl
      exact absurd hdigit (by decide)
    · rintro rfl
      exact absurd hdigit (by decide)
  rw [Comment.cleanLine_of_isUnmarked hunmarked, strip_item]

theorem segments_item (i : Nat) : segments (item i) = [item i] :=
  Comment.segments_eq_singleton (item_ne_nil i) (strip_item i) fun c hc =>
    Entry.not_isSeparator_of_isSegmentChar (isSegmentChar_item i c hc)

/-! ## Segments -/

/-- The line of a code in a documentation comment. -/
def endedLine (i : Nat) : EndedLine where
  line := item i
  newline := "\n"
  oneLine c hc := Entry.not_isLineBreak_of_isSegmentChar (isSegmentChar_item i c hc)
  isNewline := Text.isNewline_feed

/-- A benchmark comment is a documentation comment around its items. -/
theorem comment_eq_javadoc (hn : 0 < n) :
    comment n = Comment.javadoc "\n" ((List.range n).map endedLine) := by
  have hne : (List.range n).map line ≠ [] := by simpa using hn.ne'
  have hlines : ((List.range n).map line).flatMap (fun piece => piece ++ [.char '\n']) =
      ((List.range n).map endedLine).flatMap fun ended => ended.decorated ++ ended.newline := by
    rw [List.flatMap_map, List.flatMap_map]
    refine List.flatMap_congr fun i _ => ?_
    rw [line_eq]
    rfl
  have hjoin := Text.joinWith_append_separator '\n' hne
  rw [hlines] at hjoin
  rw [Comment.javadoc, Comment.inside, ← hjoin, comment]
  simp

/-- **The segments of a benchmark comment** are its items. -/
theorem segments_clean_comment (n : Nat) :
    segments (clean (comment n)) = (List.range n).map item := by
  rcases Nat.eq_zero_or_pos n with rfl | hn
  · decide
  · have hclean : ((List.range n).map endedLine).map (fun ended => Comment.cleanLine ended.line) =
        (List.range n).map item := by
      rw [List.map_map]
      exact List.map_congr_left fun i _ => cleanLine_item i
    have hitems : ∀ line ∈ (List.range n).map item, line.isEmpty = false :=
      List.forall_mem_map.2 fun i _ => by simpa using item_ne_nil i
    -- No line is empty, so that trimming drops none of them.
    have htrim : Text.trimLines ((List.range n).map item) = (List.range n).map item :=
      Text.trim_eq_self (fun line hline => hitems line (List.mem_of_mem_head? hline))
        fun line hline => hitems line (List.mem_of_mem_getLast? hline)
    have hfeed : Text.IsNewline "\n" := Text.isNewline_feed
    rw [Comment.segments_clean, comment_eq_javadoc hn, Comment.contents_javadoc hfeed,
      Comment.lineSegments_eq_cleanedLines, Comment.cleanedLines_inside hfeed, hclean, htrim,
      List.flatMap_map]
    simp only [segments_item]
    exact List.flatMap_pure_eq_map item _

/-! ## Entries -/

/-- The description of a code. -/
def description (i : Nat) : Text :=
  "状态 " ++ Text.ofNat i ++ " state"

/-- The entry of a code. -/
def entry (i : Nat) : Entry :=
  ⟨"C_" ++ Text.ofNat i ++ "_STATE", i, description i⟩

/-- **An item lists its code.** -/
theorem lists_item (i : Nat) : Lists (item i) i (body i) := by
  obtain ⟨before, sign, after, heq, hsign, hbefore, hafter⟩ := mark_eq i
  have hdigits : ∀ c ∈ Text.ofNat i, c.isDigit = true := fun c => Text.isDigit_of_mem_ofNat
  refine ⟨Text.ofNat i, ⟨before, sign, after, ?_, Text.ofNat_ne_nil i, hdigits, fun c hc => ?_,
    hsign, fun c hc => ?_, '状', _, rfl, by decide⟩, Text.toNat_ofNat i⟩
  · simp [item, heq]
  · rw [hbefore c hc]
    decide
  · rw [hafter c hc]
    decide

theorem normalize_body (i : Nat) : Entry.normalize (body i) = description i := by
  -- The description ends in a letter, where the stripping of marks and blanks stops.
  obtain ⟨front, hfront⟩ : ∃ front, description i = front ++ [.char 'e'] :=
    ⟨"状态 " ++ Text.ofNat i ++ " stat", by simp [description]⟩
  have hbody : body i = description i ++ [.char '。'] := by simp [body, description]
  have hhead : ∀ c ∈ (body i).head?, Text.isBlank c = false := by
    rintro c ⟨⟩
    decide
  have hlast : ∀ c ∈ (body i).getLast?, Text.isBlank c = false := by
    rw [hbody, List.getLast?_concat]
    rintro c ⟨⟩
    decide
  calc Entry.normalize (body i)
      = ((body i).rdropWhile Entry.isSentenceMark).rdropWhile Text.isBlank :=
        Entry.normalize_eq_rdropWhile hhead hlast
    _ = ((description i).rdropWhile Entry.isSentenceMark).rdropWhile Text.isBlank := by
        rw [hbody, List.rdropWhile_concat_pos _ _ _ (by decide)]
    _ = description i := by
        rw [hfront, List.rdropWhile_concat_neg _ _ _ (by decide),
          List.rdropWhile_concat_neg _ _ _ (by decide)]

/-- The words of a description are the code and one more. -/
theorem hasWords_description (i : Nat) :
    ConstantName.HasWords (description i) [Text.ofNat i, "state"] := by
  have hdigits : ∀ c ∈ Text.ofNat i, ConstantName.isNameChar c = true := by
    intro c hc
    simp [ConstantName.isNameChar, CodePoint.isAlphanum, Text.isDigit_of_mem_ofNat hc]
  have hlast : ConstantName.HasWords " state" ["state"] :=
    @ConstantName.HasWords.word " " "state" [] [] (by simp; decide) (by simp) (by simp; decide)
      (by simp) (.gap (by simp))
  have hall : ConstantName.HasWords ("状态 " ++ (Text.ofNat i ++ " state"))
      [Text.ofNat i, "state"] :=
    .word (by simp; decide) (Text.ofNat_ne_nil i) hdigits (by simp; decide) hlast
  rwa [← List.append_assoc] at hall

/-- **The name of an entry** is the one that its description has. -/
theorem derive_description (i : Nat) :
    ConstantName.derive (description i) i = "C_" ++ Text.ofNat i ++ "_STATE" := by
  obtain ⟨digit, rest, hcons⟩ := List.exists_cons_of_ne_nil (Text.ofNat_ne_nil i)
  have hdigit : digit.isDigit = true :=
    Text.isDigit_of_mem_ofNat (n := i) (hcons ▸ List.mem_cons_self)
  have hletter : ConstantName.startsWithLetter (Text.ofNat i) = false := by
    rw [hcons]
    exact ConstantName.not_isAlpha_of_isDigit hdigit
  have hupper : Text.upperAscii (Text.ofNat i) = Text.ofNat i :=
    Text.upperAscii_eq_self fun c hc =>
      ConstantName.toUpper_of_isDigit (Text.isDigit_of_mem_ofNat hc)
  rw [(hasWords_description i).derive_eq, ConstantName.nameWords]
  simp only [hletter, List.map_cons, hupper]
  simp [Text.joinWith, Text.upperAscii]

theorem name_entry_injective (h : (entry i).name = (entry j).name) : i = j :=
  Text.ofNat_injective (List.append_cancel_left (List.append_cancel_right h))

/-- **The step.** After the entries of all smaller codes, the item of a code becomes its entry. -/
theorem accepted?_judge_item (hi : i < 2 ^ 31) :
    (judge ((List.range i).map entry) (item i)).accepted? = some (entry i) := by
  have hcode : ((i : Nat) : Int) ∉ ((List.range i).map entry).map Entry.code := by
    simp [entry]
  have hname : (entry i).name ∉ ((List.range i).map entry).map Entry.name := by
    intro hmem
    obtain ⟨other, hother, heq⟩ := List.mem_map.1 hmem
    obtain ⟨j, hj, rfl⟩ := List.mem_map.1 hother
    exact absurd (name_entry_injective heq) (List.mem_range.1 hj).ne
  refine Entry.accepted?_judge_eq_some_iff.2 ⟨i, body i, lists_item i, by omega, hcode, rfl,
    (normalize_body i).symm, ?_⟩
  have hderived : ConstantName.derive (description i) i = (entry i).name := derive_description i
  rw [normalize_body, hderived, ConstantName.MadeDistinct, if_neg hname]

/-- An item of a larger code is dropped. -/
theorem accepted?_judge_item_of_le (hi : 2 ^ 31 ≤ i) (accepted : List Entry) :
    (judge accepted (item i)).accepted? = none := by
  by_contra hsome
  obtain ⟨found, hfound⟩ := Option.ne_none_iff_exists'.1 hsome
  obtain ⟨code, text, hlists, hle, -⟩ := Entry.accepted?_judge_eq_some_iff.1 hfound
  obtain ⟨rfl, -⟩ := hlists.unique (lists_item i)
  omega

/-- **A benchmark comment is read back** as far as codes go. -/
theorem parse_comment_eq (n : Nat) :
    Entry.parse (comment n) = (List.range (min n (2 ^ 31))).map entry := by
  -- The invariant: the first `k` items give the entries of the codes below both bounds.
  have hall := Entry.parse_induct
    (motive := fun done accepted =>
      ∀ k, done = (List.range k).map item → accepted = (List.range (min k (2 ^ 31))).map entry)
    ?start ?step (comment n)
  · exact hall n (segments_clean_comment n)
  case start =>
    intro k hk
    obtain rfl : k = 0 := by simpa using hk
    rfl
  case step =>
    intro done accepted segment ih k hk
    cases k with
    | zero => simp at hk
    | succ k =>
      rw [List.range_succ, List.map_append, List.map_singleton] at hk
      obtain ⟨hdone, hsegment⟩ := List.append_inj' hk rfl
      obtain rfl : segment = item k := by simpa using hsegment
      rw [ih k hdone]
      by_cases hlt : k < 2 ^ 31
      · rw [Nat.min_eq_left hlt.le, Nat.min_eq_left (Nat.succ_le_of_lt hlt),
          accepted?_judge_item hlt, List.range_succ, List.map_append]
        rfl
      · have hle : 2 ^ 31 ≤ k := Nat.le_of_not_lt hlt
        rw [accepted?_judge_item_of_le hle, Nat.min_eq_right hle,
          Nat.min_eq_right (Nat.le_succ_of_le hle)]
        exact List.append_nil _

/-- **Benchmark comments are read back in full** as long as there are codes. Each code has its entry
at its place, and its name is the derived one, without a number behind it. -/
theorem parse_comment (hn : n ≤ 2 ^ 31) :
    (Entry.parse (comment n)).length = n ∧
      ∀ i < n,
        (Entry.parse (comment n))[i]? =
            some ⟨"C_" ++ Text.ofNat i ++ "_STATE", i, "状态 " ++ Text.ofNat i ++ " state"⟩ ∧
          ConstantName.derive ("状态 " ++ Text.ofNat i ++ " state") i =
            "C_" ++ Text.ofNat i ++ "_STATE" := by
  have hparse := parse_comment_eq n
  rw [Nat.min_eq_left hn] at hparse
  rw [hparse]
  refine ⟨by simp, fun i hi => ⟨?_, derive_description i⟩⟩
  rw [List.getElem?_map, List.getElem?_range hi]
  rfl

/-- A comment that uses every code, and its last entry. -/
theorem parse_comment_all :
    let size : Nat := 2 ^ 31
    size ≤ 2 ^ 31 ∧ (Entry.parse (comment size)).length = size ∧
      (Entry.parse (comment size))[2147483647]? =
        some ⟨"C_2147483647_STATE", 2147483647, "状态 2147483647 state"⟩ := by
  intro size
  obtain ⟨hlength, hentry⟩ := parse_comment (le_refl (2 ^ 31))
  have hlast := (hentry 2147483647 (by decide)).1
  have hdigits : Text.ofNat 2147483647 = ("2147483647" : Text) := by decide
  rw [hdigits] at hlast
  exact ⟨le_rfl, hlength, hlast⟩

end DocEnum.Benchmark
