import Mathlib
import DocEnum.Entry
import DocEnum.Proofs.ConstantName

/-!
# What a comment lists

The entries of a comment, told without running through its segments.

**Grammar** (`Lists`). A segment lists a code with a body when it is a run of digits, a mark with
blanks allowed on both sides, and a body that starts with no blank. At most one code and one body
are listed (`Lists.unique`), and `listed?` finds them.

**Range.** Counting the significant digits before reading them refuses the same codes as comparing
their value (`isCode_significant`).

**Entries** (`ListedAt`). The positions of the entries are those of segments that list a code in
range which no earlier segment lists. Each entry has the code and the normalized body listed at its
position, and the derived name made distinct from the names before it.

**One segment** (`accepted?_judge_eq_some_iff`). A segment becomes an entry exactly if it lists a
code in range that no entry has yet. This step keeps `ListedAt`, and so do all steps together.

Main result: the entries of a comment are the only ones that its segments list
(`parse_eq_iff_listedAt`).
-/

namespace DocEnum.Entry

/-! ## The grammar of one segment -/

/-- `segment` is `digits`, a mark with blanks allowed around it, and `body`. -/
def Splits (segment digits body : Text) : Prop :=
  ∃ before mark after, segment = digits ++ (before ++ mark :: (after ++ body)) ∧
    digits ≠ [] ∧ (∀ c ∈ digits, c.isDigit = true) ∧
    (∀ c ∈ before, Text.isBlank c = true) ∧ isMark mark = true ∧
    (∀ c ∈ after, Text.isBlank c = true) ∧
    ∃ first rest, body = first :: rest ∧ Text.isBlank first = false

/-- `segment` lists `code` with `body`; leading zeros do not count. -/
def Lists (segment : Text) (code : Nat) (body : Text) : Prop :=
  ∃ digits, Splits segment digits body ∧ Text.toNat digits = code

theorem Splits.isDigit {segment digits body : Text} (h : Splits segment digits body) :
    ∀ c ∈ digits, c.isDigit = true := by
  obtain ⟨_, _, _, -, -, hdigits, -⟩ := h
  exact hdigits

theorem not_isDigit_of_isBlank {c : CodePoint} (h : Text.isBlank c = true) : c.isDigit = false := by
  rw [← Bool.not_eq_true, CodePoint.isDigit_iff_toNat]
  simp only [Text.isBlank, Bool.or_eq_true, Bool.and_eq_true, decide_eq_true_eq, beq_iff_eq] at h
  change ¬(48 ≤ c.toNat ∧ c.toNat ≤ 57)
  omega

theorem not_isDigit_of_isMark {c : CodePoint} (h : isMark c = true) : c.isDigit = false := by
  simp only [isMark, Bool.or_eq_true, beq_iff_eq] at h
  rcases h with ((((rfl | rfl) | rfl) | rfl) | rfl) | rfl <;> rfl

theorem not_isBlank_of_isMark {c : CodePoint} (h : isMark c = true) : Text.isBlank c = false := by
  simp only [isMark, Bool.or_eq_true, beq_iff_eq] at h
  rcases h with ((((rfl | rfl) | rfl) | rfl) | rfl) | rfl <;> rfl

/-- Blanks and a mark end a run of digits. -/
theorem head_not_isDigit {before : Text} (hbefore : ∀ c ∈ before, Text.isBlank c = true)
    {mark : CodePoint} (hmark : isMark mark = true) (rest : Text) :
    ∀ c ∈ (before ++ mark :: rest).head?, c.isDigit = false := by
  cases before with
  | nil => simpa using not_isDigit_of_isMark hmark
  | cons c before => simpa using not_isDigit_of_isBlank (hbefore c List.mem_cons_self)

/-- **`listed?` reads the grammar.** -/
theorem listed?_eq_some_iff {segment digits body : Text} :
    listed? segment = some (digits, body) ↔ Splits segment digits body := by
  constructor
  · intro h
    simp only [listed?] at h
    split at h
    · simp at h
    · next hdigits =>
      split at h
      · simp at h
      · next mark rest hrest =>
        split at h
        · next hmark =>
          rw [Bool.and_eq_true, Bool.not_eq_true', List.isEmpty_eq_false_iff] at hmark
          obtain ⟨rfl, rfl⟩ : segment.takeWhile CodePoint.isDigit = digits ∧
            Text.trimStart rest = body := by simpa using h
          obtain ⟨first, tail, htail⟩ := List.exists_cons_of_ne_nil hmark.2
          refine ⟨(segment.dropWhile CodePoint.isDigit).takeWhile Text.isBlank, mark,
            rest.takeWhile Text.isBlank, ?_, by simpa using hdigits,
            fun c => List.mem_takeWhile_imp, fun c => List.mem_takeWhile_imp, hmark.1,
            fun c => List.mem_takeWhile_imp, first, tail, htail, Text.head_trimStart htail⟩
          rw [Text.trimStart, List.takeWhile_append_dropWhile, ← hrest, Text.trimStart,
            List.takeWhile_append_dropWhile, List.takeWhile_append_dropWhile]
        · simp at h
  · rintro ⟨before, mark, after, rfl, hne, hdigits, hbefore, hmark, hafter, hbody⟩
    obtain ⟨first, tail, rfl, hfirst⟩ := hbody
    have hhead := head_not_isDigit hbefore hmark (after ++ first :: tail)
    have htake : (digits ++
        (before ++ mark :: (after ++ first :: tail))).takeWhile CodePoint.isDigit =
        digits := Text.takeWhile_run hdigits hhead
    have hdrop : (digits ++
        (before ++ mark :: (after ++ first :: tail))).dropWhile CodePoint.isDigit =
        before ++ mark :: (after ++ first :: tail) := Text.dropWhile_run hdigits hhead
    have hmid : Text.trimStart (before ++ mark :: (after ++ first :: tail)) =
        mark :: (after ++ first :: tail) :=
      Text.trimStart_append hbefore (by simpa using not_isBlank_of_isMark hmark)
    have hbody : Text.trimStart (after ++ first :: tail) = first :: tail :=
      Text.trimStart_append hafter (by simpa using hfirst)
    simp [listed?, htake, hdrop, hmid, hbody, hne, hmark]

/-- A segment lists at most one code with one body. -/
theorem Lists.unique {segment body body' : Text} {code code' : Nat}
    (h : Lists segment code body) (h' : Lists segment code' body') :
    code = code' ∧ body = body' := by
  obtain ⟨digits, hsplits, rfl⟩ := h
  obtain ⟨digits', hsplits', rfl⟩ := h'
  have heq := (listed?_eq_some_iff.2 hsplits).symm.trans (listed?_eq_some_iff.2 hsplits')
  simp only [Option.some.injEq, Prod.mk.injEq] at heq
  exact ⟨by rw [heq.1], heq.2⟩

/-! ## Range -/

theorem toNat_significant (digits : Text) :
    Text.toNat (significant digits) = Text.toNat digits := by
  induction digits with
  | nil => rfl
  | cons c digits ih =>
    by_cases hc : c = '0'
    · subst hc
      rw [Text.toNat_zero_cons, ← ih]
      rfl
    · rw [significant, List.dropWhile_cons_of_neg (by simpa using hc)]

/-- Significant digits are a single zero or start with another digit. -/
theorem significant_cases {digits : Text} (hdigits : ∀ c ∈ digits, c.isDigit = true) :
    significant digits = [.char '0'] ∨
      ∃ c rest, significant digits = c :: rest ∧ c.isDigit = true ∧ c ≠ '0' := by
  rw [significant]
  split
  · exact .inl rfl
  · next hne =>
    obtain ⟨c, rest, hrest⟩ := List.exists_cons_of_ne_nil hne
    have hhead := List.head?_dropWhile_not (· == .char '0') digits
    rw [hrest] at hhead
    have hmem : c ∈ digits := (List.dropWhile_sublist _).subset (hrest ▸ List.mem_cons_self)
    exact .inr ⟨c, rest, hrest, hdigits c hmem, by simpa using hhead⟩

/-- **Counting digits first changes no verdict**: a longer run of significant digits is too large
anyway. -/
theorem isCode_significant {digits : Text} (hdigits : ∀ c ∈ digits, c.isDigit = true) :
    isCode (significant digits) = true ↔ Text.toNat digits ≤ 2 ^ 31 - 1 := by
  have hmax : maxCodeDigits = 10 := by decide
  rw [isCode, Bool.and_eq_true, decide_eq_true_eq, decide_eq_true_eq, toNat_significant, hmax,
    show maxCode = 2 ^ 31 - 1 by decide]
  refine ⟨And.right, fun hle => ⟨?_, hle⟩⟩
  rcases significant_cases hdigits with hzero | ⟨c, rest, hcons, hc, hne⟩
  · simp [hzero]
  · have hpow : 10 ^ rest.length ≤ Text.toNat (c :: rest) := Text.pow_le_toNat hc hne
    rw [← hcons, toNat_significant] at hpow
    have hlt : 10 ^ rest.length < 10 ^ 10 := by omega
    have hlength := (Nat.pow_lt_pow_iff_right (by decide)).1 hlt
    rw [hcons, List.length_cons]
    omega

/-! ## One segment -/

/-- **What a step can do.** A segment becomes an entry exactly if it lists a code in range that no
entry has yet; the entry has that code, the normalized body and a distinct name. -/
theorem accepted?_judge_eq_some_iff {accepted : List Entry} {segment : Text} {entry : Entry} :
    (judge accepted segment).accepted? = some entry ↔
      ∃ code body, Lists segment code body ∧ code ≤ 2 ^ 31 - 1 ∧
        (code : Int) ∉ accepted.map Entry.code ∧
        entry.code = code ∧ entry.description = normalize body ∧
        ConstantName.MadeDistinct (accepted.map Entry.name)
          (ConstantName.derive (normalize body) code) entry.name := by
  constructor
  · intro h
    rw [judge] at h
    split at h
    · simp [Verdict.accepted?] at h
    · next digits body hlisted =>
      have hsplits := listed?_eq_some_iff.1 hlisted
      simp only [toNat_significant] at h
      split at h
      · simp [Verdict.accepted?] at h
      · next hcode =>
        split at h
        · simp [Verdict.accepted?] at h
        · next hnew =>
          rw [Verdict.accepted?, Option.some.injEq] at h
          subst h
          have hrange := (isCode_significant hsplits.isDigit).1 (by simpa using hcode)
          exact ⟨_, body, ⟨digits, hsplits, rfl⟩, hrange, hnew, rfl, rfl,
            ConstantName.madeDistinct_fresh _ _⟩
  · -- The least free suffix is unique, so that the name found by the search is the one
    -- described.
    rcases entry with ⟨name, _, _⟩
    rintro ⟨_, body, ⟨digits, hsplits, rfl⟩, hrange, hnew, rfl, rfl, hname⟩
    have hfresh := (ConstantName.madeDistinct_fresh _ _).unique hname
    have hcode := (isCode_significant hsplits.isDigit).2 hrange
    simp only [judge, listed?_eq_some_iff.2 hsplits, toNat_significant, hcode, Bool.not_true,
      Bool.false_eq_true, if_false]
    rw [if_neg hnew, hfresh]
    rfl

/-- The entries of all segments: what holds before any segment and is kept by each one holds after
all of them. -/
theorem judgeAll_induct {motive : List Text → List Entry → Prop}
    (step : ∀ done accepted segment, motive done accepted →
      motive (done ++ [segment]) (accepted ++ (judge accepted segment).accepted?.toList))
    {done : List Text} {accepted : List Entry} (h : motive done accepted) (rest : List Text) :
    motive (done ++ rest) (accepted ++ (judgeAll accepted rest).filterMap Verdict.accepted?) := by
  induction rest generalizing done accepted with
  | nil => simpa [judgeAll] using h
  | cons segment rest ih =>
    have hnext := ih (step done accepted segment h)
    rw [judgeAll, List.filterMap_cons]
    cases hverdict : (judge accepted segment).accepted? with
    | none => simpa [hverdict] using hnext
    | some entry => simpa [hverdict] using hnext

theorem parse_induct {motive : List Text → List Entry → Prop} (start : motive [] [])
    (step : ∀ done accepted segment, motive done accepted →
      motive (done ++ [segment]) (accepted ++ (judge accepted segment).accepted?.toList))
    (raw : Text) : motive (Comment.segments (Comment.clean raw)) (parse raw) := by
  have h := judgeAll_induct step start (Comment.segments (Comment.clean raw))
  rwa [List.nil_append, List.nil_append] at h

/-! ## All segments -/

/-- The segment at `position` lists `code` with `body`, the code is in range, and no earlier
segment lists it. -/
def FirstListing (segments : List Text) (position code : Nat) (body : Text) : Prop :=
  (∃ segment, segments[position]? = some segment ∧ Lists segment code body) ∧
    code ≤ 2 ^ 31 - 1 ∧
    ∀ earlier < position, ∀ segment, segments[earlier]? = some segment →
      ∀ body', ¬Lists segment code body'

/-- The entries that segments list, each with its position. -/
structure ListedAt (segments : List Text) (placed : List (Nat × Entry)) : Prop where
  increasing : (placed.map Prod.fst).Pairwise (· < ·)
  mem_iff : ∀ position code description,
    (∃ name, (position, (⟨name, code, description⟩ : Entry)) ∈ placed) ↔
      ∃ (c : Nat) (body : Text), FirstListing segments position c body ∧
        code = c ∧ description = normalize body
  named : ∀ k position entry, placed[k]? = some (position, entry) →
    ConstantName.MadeDistinct ((placed.take k).map fun earlier => earlier.2.name)
      (ConstantName.derive entry.description entry.code) entry.name

theorem FirstListing.unique {segments : List Text} {position code code' : Nat} {body body' : Text}
    (h : FirstListing segments position code body)
    (h' : FirstListing segments position code' body') : code = code' ∧ body = body' := by
  obtain ⟨⟨segment, hsegment, hlists⟩, -⟩ := h
  obtain ⟨⟨segment', hsegment', hlists'⟩, -⟩ := h'
  rw [hsegment, Option.some.injEq] at hsegment'
  subst hsegment'
  exact hlists.unique hlists'

theorem FirstListing.lt_length {segments : List Text} {position code : Nat} {body : Text}
    (h : FirstListing segments position code body) : position < segments.length := by
  obtain ⟨⟨segment, hsegment, -⟩, -⟩ := h
  exact (List.getElem?_eq_some_iff.1 hsegment).1

/-- A code in range that some segment lists is listed first by one of them. -/
theorem exists_firstListing_iff {segments : List Text} {code : Nat} :
    (∃ position body, FirstListing segments position code body) ↔
      code ≤ 2 ^ 31 - 1 ∧ ∃ segment ∈ segments, ∃ body, Lists segment code body := by
  constructor
  · rintro ⟨position, body, ⟨segment, hsegment, hlists⟩, hrange, -⟩
    exact ⟨hrange, segment, List.mem_of_getElem? hsegment, body, hlists⟩
  · rintro ⟨hrange, segment, hmem, body, hlists⟩
    classical
    have hex : ∃ position : Nat, ∃ segment, segments[position]? = some segment ∧
        ∃ body, Lists segment code body := by
      obtain ⟨position, hposition⟩ := List.mem_iff_getElem?.1 hmem
      exact ⟨position, segment, hposition, body, hlists⟩
    obtain ⟨first, hfirst, body', hlists'⟩ := Nat.find_spec hex
    refine ⟨Nat.find hex, body', ⟨first, hfirst, hlists'⟩, hrange, ?_⟩
    intro earlier hearlier segment hsegment body hlists
    exact Nat.find_min hex hearlier ⟨segment, hsegment, body, hlists⟩

/-- One more segment keeps the first listings, and may be one itself. -/
theorem firstListing_append_iff {segments : List Text} {segment : Text} {position code : Nat}
    {body : Text} :
    FirstListing (segments ++ [segment]) position code body ↔
      FirstListing segments position code body ∨
        position = segments.length ∧ Lists segment code body ∧ code ≤ 2 ^ 31 - 1 ∧
          ∀ earlier ∈ segments, ∀ body', ¬Lists earlier code body' := by
  -- A listing stands among the old segments, in the new one, or nowhere.
  rcases Nat.lt_trichotomy position segments.length with hlt | rfl | hgt
  · have hget : ∀ i ≤ position, (segments ++ [segment])[i]? = segments[i]? :=
      fun i hi => List.getElem?_append_left (by omega)
    rw [or_iff_left (by omega), FirstListing, FirstListing, hget position le_rfl]
    refine and_congr_right fun _ => and_congr_right fun _ => forall₂_congr fun i hi => ?_
    rw [hget i hi.le]
  · have hold : ¬FirstListing segments segments.length code body :=
      fun hfirst => Nat.lt_irrefl _ hfirst.lt_length
    have hlast : (segments ++ [segment])[segments.length]? = some segment := by simp
    rw [or_iff_right hold, FirstListing, hlast]
    simp only [Option.some.injEq, exists_eq_left', true_and]
    refine and_congr_right fun _ => and_congr_right fun _ => ⟨fun h earlier hmem body' => ?_, ?_⟩
    · obtain ⟨i, hi⟩ := List.mem_iff_getElem?.1 hmem
      have hlt := (List.getElem?_eq_some_iff.1 hi).1
      exact h i hlt earlier (by rwa [List.getElem?_append_left hlt]) body'
    · intro h i hi earlier hget body'
      rw [List.getElem?_append_left hi] at hget
      exact h earlier (List.mem_of_getElem? hget) body'
  · refine iff_of_false (fun hfirst => ?_) ?_
    · have hlt := hfirst.lt_length
      rw [List.length_append, List.length_singleton] at hlt
      omega
    · rintro (hfirst | ⟨rfl, -⟩)
      · exact Nat.lt_asymm hgt hfirst.lt_length
      · exact Nat.lt_irrefl _ hgt

namespace ListedAt

variable {segments : List Text} {placed placed' : List (Nat × Entry)}

theorem firstListing_of_mem (h : ListedAt segments placed) {position : Nat} {entry : Entry}
    (hmem : (position, entry) ∈ placed) :
    ∃ (code : Nat) (body : Text), FirstListing segments position code body ∧
      entry.code = code ∧ entry.description = normalize body :=
  (h.mem_iff position entry.code entry.description).1 ⟨entry.name, hmem⟩

theorem mem_positions_iff (h : ListedAt segments placed) (position : Nat) :
    position ∈ placed.map Prod.fst ↔ ∃ code body, FirstListing segments position code body := by
  constructor
  · intro hmem
    obtain ⟨⟨_, entry⟩, hentry, rfl⟩ := List.mem_map.1 hmem
    obtain ⟨code, body, hfirst, -⟩ := h.firstListing_of_mem hentry
    exact ⟨code, body, hfirst⟩
  · rintro ⟨code, body, hfirst⟩
    obtain ⟨name, hmem⟩ :=
      (h.mem_iff position code (normalize body)).2 ⟨code, body, hfirst, rfl, rfl⟩
    exact List.mem_map.2 ⟨_, hmem, rfl⟩

/-- The codes of the entries are the codes in range that segments list. -/
theorem mem_codes_iff (h : ListedAt segments placed) {code : Nat} :
    (code : Int) ∈ (placed.map Prod.snd).map Entry.code ↔
      ∃ position body, FirstListing segments position code body := by
  rw [List.map_map, List.mem_map]
  constructor
  · rintro ⟨⟨position, entry⟩, hmem, hcode⟩
    obtain ⟨code', body, hfirst, hcode', -⟩ := h.firstListing_of_mem hmem
    obtain rfl : code = code' := Int.ofNat_inj.1 (hcode.symm.trans hcode')
    exact ⟨position, body, hfirst⟩
  · rintro ⟨position, body, hfirst⟩
    obtain ⟨name, hmem⟩ :=
      (h.mem_iff position code (normalize body)).2 ⟨code, body, hfirst, rfl, rfl⟩
    exact ⟨_, hmem, rfl⟩

theorem lt_length (h : ListedAt segments placed) {position : Nat} {entry : Entry}
    (hmem : (position, entry) ∈ placed) : position < segments.length := by
  obtain ⟨code, body, hfirst, -⟩ := h.firstListing_of_mem hmem
  exact hfirst.lt_length

/-- The last of some segments is a first listing if its code is in range and no entry has it. -/
theorem firstListing_append_iff (h : ListedAt segments placed) {segment : Text}
    {position code : Nat} {body : Text} :
    FirstListing (segments ++ [segment]) position code body ↔
      FirstListing segments position code body ∨
        position = segments.length ∧ Lists segment code body ∧ code ≤ 2 ^ 31 - 1 ∧
          (code : Int) ∉ (placed.map Prod.snd).map Entry.code := by
  rw [Entry.firstListing_append_iff, h.mem_codes_iff, exists_firstListing_iff]
  refine or_congr_right (and_congr_right fun _ => and_congr_right fun _ =>
    and_congr_right fun hrange => ?_)
  push Not
  exact ⟨fun hnone _ => hnone, fun hnone => hnone hrange⟩

theorem nil : ListedAt [] [] where
  increasing := List.Pairwise.nil
  mem_iff position code description := by simp [FirstListing]
  named k position entry hget := by simp at hget

/-- A segment that is not accepted adds no entry. -/
theorem append_none (h : ListedAt segments placed) {segment : Text}
    (hverdict : (judge (placed.map Prod.snd) segment).accepted? = none) :
    ListedAt (segments ++ [segment]) placed where
  increasing := h.increasing
  named := h.named
  mem_iff position code description := by
    rw [h.mem_iff]
    refine exists_congr fun c => exists_congr fun body => and_congr_left fun _ => ?_
    rw [h.firstListing_append_iff, or_iff_left]
    rintro ⟨-, hlists, hrange, hnew⟩
    have hsome : (judge (placed.map Prod.snd) segment).accepted? = some ⟨_, c, normalize body⟩ :=
      accepted?_judge_eq_some_iff.2 ⟨c, body, hlists, hrange, hnew, rfl, rfl,
        ConstantName.madeDistinct_fresh _ _⟩
    rw [hverdict] at hsome
    cases hsome

/-- An accepted segment adds its entry at its position. -/
theorem append_some (h : ListedAt segments placed) {segment : Text} {entry : Entry}
    (hverdict : (judge (placed.map Prod.snd) segment).accepted? = some entry) :
    ListedAt (segments ++ [segment]) (placed ++ [(segments.length, entry)]) := by
  obtain ⟨code, body, hlists, hrange, hnew, hcode, hdescription, hname⟩ :=
    accepted?_judge_eq_some_iff.1 hverdict
  -- Places still increase; one more first listing is listed; one more name is distinct.
  refine ⟨?_, fun position code' description => ?_, fun k position entry' hget => ?_⟩
  · rw [List.map_append, List.pairwise_append]
    refine ⟨h.increasing, List.pairwise_singleton _ _, fun i hi j hj => ?_⟩
    obtain ⟨⟨_, earlier⟩, hearlier, rfl⟩ := List.mem_map.1 hi
    rw [List.map_singleton, List.mem_singleton] at hj
    exact hj ▸ h.lt_length hearlier
  · simp only [List.mem_append, List.mem_singleton, exists_or, h.mem_iff, Prod.mk.injEq,
      h.firstListing_append_iff, or_and_right]
    refine or_congr_right ⟨?_, ?_⟩
    · rintro ⟨name, rfl, rfl⟩
      exact ⟨code, body, ⟨rfl, hlists, hrange, hnew⟩, hcode, hdescription⟩
    · rintro ⟨c, body', ⟨rfl, hlists', -⟩, rfl, rfl⟩
      obtain ⟨rfl, rfl⟩ := hlists.unique hlists'
      exact ⟨entry.name, rfl, by rw [← hcode, ← hdescription]⟩
  · rcases Nat.lt_trichotomy k placed.length with hlt | rfl | hgt
    · rw [List.getElem?_append_left hlt] at hget
      rw [List.take_append_of_le_length hlt.le]
      exact h.named k position entry' hget
    · rw [List.getElem?_concat_length, Option.some.injEq, Prod.mk.injEq] at hget
      obtain ⟨-, rfl⟩ := hget
      rw [List.take_left, hcode, hdescription]
      rwa [List.map_map] at hname
    · rw [List.getElem?_eq_none (by simp; omega)] at hget
      cases hget

/-- **One segment keeps the listing.** -/
theorem step (h : ListedAt segments placed) (segment : Text) :
    ∃ placed', ListedAt (segments ++ [segment]) placed' ∧
      placed'.map Prod.snd = placed.map Prod.snd ++
        (judge (placed.map Prod.snd) segment).accepted?.toList := by
  cases hverdict : (judge (placed.map Prod.snd) segment).accepted? with
  | none => exact ⟨placed, h.append_none hverdict, by simp⟩
  | some entry => exact ⟨_, h.append_some hverdict, by simp⟩

/-- Segments list their entries in one way only. -/
theorem unique (h : ListedAt segments placed) (h' : ListedAt segments placed') :
    placed = placed' := by
  have hpositions : placed.map Prod.fst = placed'.map Prod.fst :=
    h.increasing.eq_of_mem_iff h'.increasing fun position => by
      rw [h.mem_positions_iff, h'.mem_positions_iff]
  have hlength : placed.length = placed'.length := by
    simpa using congrArg List.length hpositions
  -- The names depend on the names before them, so the lists are compared from the front.
  have htake : ∀ k ≤ placed.length, placed.take k = placed'.take k := by
    intro k
    induction k with
    | zero => simp
    | succ k ih =>
      intro hk
      obtain ⟨⟨position, entry⟩, hget⟩ : ∃ pair, placed[k]? = some pair :=
        ⟨_, List.getElem?_eq_getElem hk⟩
      obtain ⟨⟨position', entry'⟩, hget'⟩ : ∃ pair, placed'[k]? = some pair :=
        ⟨_, List.getElem?_eq_getElem (hlength ▸ hk)⟩
      have hposition : position = position' := by
        have hk := congrArg (·[k]?) hpositions
        simpa [hget, hget'] using hk
      subst hposition
      obtain ⟨code, body, hfirst, hcode, hdescription⟩ :=
        h.firstListing_of_mem (List.mem_of_getElem? hget)
      obtain ⟨code', body', hfirst', hcode', hdescription'⟩ :=
        h'.firstListing_of_mem (List.mem_of_getElem? hget')
      obtain ⟨rfl, rfl⟩ := hfirst.unique hfirst'
      have hname := h.named k position entry hget
      have hname' := h'.named k position entry' hget'
      rw [hcode, hdescription, ih (Nat.le_of_succ_le hk)] at hname
      rw [hcode', hdescription'] at hname'
      have hentry : entry = entry' := by
        cases entry
        cases entry'
        simp_all only [Entry.mk.injEq, and_self, and_true]
        exact hname.unique hname'
      rw [List.take_add_one, List.take_add_one, hget, hget', ih (Nat.le_of_succ_le hk), hentry]
  have hall := htake placed.length le_rfl
  rwa [List.take_length, hlength, List.take_length] at hall

end ListedAt

theorem exists_listedAt_parse (raw : Text) :
    ∃ placed, ListedAt (Comment.segments (Comment.clean raw)) placed ∧
      placed.map Prod.snd = parse raw := by
  refine parse_induct (motive := fun segments entries =>
    ∃ placed, ListedAt segments placed ∧ placed.map Prod.snd = entries)
    ⟨[], ListedAt.nil, rfl⟩ ?_ raw
  rintro done _ segment ⟨placed, h, rfl⟩
  exact h.step segment

/-- **A comment has exactly the entries that its segments list.** -/
theorem parse_eq_iff_listedAt (raw : Text) (entries : List Entry) :
    parse raw = entries ↔
      ∃ placed, ListedAt (Comment.segments (Comment.clean raw)) placed ∧
        placed.map Prod.snd = entries := by
  obtain ⟨placed, h, hparse⟩ := exists_listedAt_parse raw
  constructor
  · rintro rfl
    exact ⟨placed, h, hparse⟩
  · rintro ⟨placed', h', rfl⟩
    rw [← hparse, h.unique h']

end DocEnum.Entry
