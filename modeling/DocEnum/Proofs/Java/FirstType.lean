import Mathlib
import DocEnum.Proofs.Java.FieldParts

/-!
# Fields and the first type

Where the fields of a source text stand in relation to the type that is reported with them.

**Types.** A type is declared by a type word, blanks and a name (`typeAt?_append`), and in no other
way (`typeWord_of_typeAt?`). Text in which no such word ends is passed (`NoType.typeFrom?_append`).

**The first type** (`FirstTypeAt`). The class name is declared at the first place of the blanked
text where a type can be declared. Its body starts at the next opening brace (`bodyOpening`).

**Places.** Fields are reported in the order of their declarations, one for each place
(`exists_places`).

**Theorem (`fields_in_body_or_beyond`).** A field is declared directly in a block that starts at
depth zero. This block is the body of the first type, unless

* the body has not started at its place,
* the body has been closed before its place, or
* more braces are closed than opened before the body.

The search for fields counts braces from the start of the text and does not know the type. A field
is at depth one, so that a block at depth zero is open there since the last place of that depth
(`exists_outermost`). If the body is still open there, the body's own brace is at depth zero or
below. At depth zero the field is one level inside the body: it is in no nested type and in no
method.

The exceptions are real. The fields of a second type are reported under the name of the first one,
and after a stray closing brace those of a method body are (`not_fieldsInBody`). In a text that is
one block there are none (`PlacesOf.directlyIn_of_oneBlock`).
-/

namespace DocEnum.Java

variable {text code s t : Text} {inWord : Bool} {name : Text} {opening n : Nat}

/-! ## Types -/

theorem isTypeChar_of_mem_typeWords {word : Text} (h : word ∈ typeWords) :
    ∀ c ∈ word, isTypeChar c = true := by
  have hletters : ∀ word ∈ typeWords, word.all CodePoint.isAlphanum = true := by decide
  intro c hc
  exact isTypeChar_of_isAlphanum (List.all_eq_true.1 (hletters word h) c hc)

/-- A type is declared by the whole first word, blanks and a name. -/
theorem typeWord_of_typeAt? (h : typeAt? t = some name) :
    t.takeWhile isTypeChar ∈ typeWords ∧
      (afterBlanks? (t.dropWhile isTypeChar)).bind nameAt? = some name := by
  obtain ⟨word, hword, h⟩ := List.exists_of_findSome?_eq_some h
  obtain ⟨rest, hrest, hname⟩ := Option.bind_eq_some_iff.1 h
  obtain ⟨behind, hdrop, hbehind⟩ := Option.bind_eq_some_iff.1 hrest
  obtain ⟨hfirst, hdropWhile, -⟩ := eq_of_dropBeginning?_of_afterBlanks?
    (isTypeChar_of_mem_typeWords hword) hdrop hbehind
  rw [hfirst, hdropWhile, hbehind]
  exact ⟨hword, hname⟩

/-- **A type is declared** by a type word, blanks and its name. -/
theorem typeAt?_append {word gap : Text} (hword : word ∈ typeWords) (hgap : Blanks gap)
    (hne : gap ≠ []) (ht : StartsWord t) (hname : nameAt? t = some name) :
    typeAt? (word ++ (gap ++ t)) = some name := by
  have hletters := isTypeChar_of_mem_typeWords hword
  have hhead : ∀ c ∈ (gap ++ t).head?, isTypeChar c = false :=
    head_blanks_append hgap fun hnil => absurd hnil hne
  have hblanks := afterBlanks?_append hgap hne ht.head_not_isBlank
  cases h : typeAt? (word ++ (gap ++ t)) with
  | some found =>
    obtain ⟨-, hfound⟩ := typeWord_of_typeAt? h
    rw [Text.dropWhile_run hletters hhead, hblanks, Option.bind_some, hname] at hfound
    exact hfound.symm
  | none =>
    have hnone := List.findSome?_eq_none_iff.1 h word hword
    rw [Text.dropBeginning?_append, Option.bind_some, hblanks, Option.bind_some, hname] at hnone
    cases hnone

theorem typeFrom?_of_typeAt? (h : typeAt? t = some name) : typeFrom? false t = some name := by
  cases t with
  | nil =>
    have hnone : typeAt? [] = none := by decide
    rw [hnone] at h
    cases h
  | cons c t =>
    rw [typeFrom?]
    simp [h]

/-- Whether a text ends in a word; `inWord` answers for the empty text. -/
def endsInWord (inWord : Bool) (t : Text) : Bool :=
  t.foldl (fun _ c => Text.isWord c) inWord

/-- No type is declared in a text, whatever follows it. -/
def NoType (s : Text) : Prop :=
  ∀ t, ∀ k < s.length, typeAt? ((s ++ t).drop k) = none

theorem NoType.append (hs : NoType s) (ht : NoType t) : NoType (s ++ t) := by
  intro rest k hk
  rw [List.append_assoc]
  by_cases hfirst : k < s.length
  · exact hs _ k hfirst
  · rw [List.length_append] at hk
    rw [List.drop_append, List.drop_eq_nil_of_le (by omega), List.nil_append]
    exact ht rest _ (by omega)

theorem NoType.flatMap {α : Type} {f : α → Text} {l : List α} (h : ∀ x ∈ l, NoType (f x)) :
    NoType (l.flatMap f) := by
  induction l with
  | nil =>
    intro rest k hk
    cases hk
  | cons x l ih =>
    rw [List.forall_mem_cons] at h
    rw [List.flatMap_cons]
    exact h.1.append (ih h.2)

/-- No type is declared in a word and the sign behind it, if the sign is no blank or the word does
not end with a type word. -/
theorem noType_concat {word : Text} {sign : CodePoint} (hword : ∀ c ∈ word, isTypeChar c = true)
    (hsign : isTypeChar sign = false)
    (hblank : Text.isBlank sign = true → ∀ typeWord ∈ typeWords, ¬typeWord <:+ word) :
    NoType (word ++ [sign]) := by
  intro t k hk
  rw [List.length_append, List.length_singleton] at hk
  have hdrop : (word ++ [sign] ++ t).drop k = word.drop k ++ sign :: t := by
    rw [List.append_assoc, List.drop_append_of_le_length (by omega)]
    rfl
  have hrun : ∀ c ∈ word.drop k, isTypeChar c = true :=
    fun c hc => hword c (List.mem_of_mem_drop hc)
  have hhead : ∀ c ∈ (sign :: t).head?, isTypeChar c = false := by simpa using hsign
  -- A type here would need its word as the end of `word`, and a blank after it.
  by_contra hsome
  obtain ⟨name, hname⟩ := Option.ne_none_iff_exists'.1 hsome
  rw [hdrop] at hname
  obtain ⟨hmem, hbehind⟩ := typeWord_of_typeAt? hname
  rw [Text.takeWhile_run hrun hhead] at hmem
  rw [Text.dropWhile_run hrun hhead, afterBlanks?] at hbehind
  split at hbehind
  · next hb => exact hblank hb _ hmem (List.drop_suffix k word)
  · cases hbehind

theorem NoType.typeFrom?_append (h : NoType s) (inWord : Bool) (t : Text) :
    typeFrom? inWord (s ++ t) = typeFrom? (endsInWord inWord s) t := by
  induction s generalizing inWord with
  | nil => rfl
  | cons c s ih =>
    have hfirst : typeAt? (c :: (s ++ t)) = none := h t 0 (Nat.succ_pos _)
    have hrest : NoType s := fun t k hk => h t (k + 1) (Nat.succ_lt_succ hk)
    rw [List.cons_append, typeFrom?]
    simp only [hfirst, ite_self]
    exact ih hrest (Text.isWord c)

/-! ## The first type -/

/-- The first type of some code is declared at a place, under a name. -/
structure FirstTypeAt (inWord : Bool) (code : Text) (place : Nat) (name : Text) : Prop where
  not_inWord : endsInWord inWord (code.take place) = false
  declared : typeAt? (code.drop place) = some name
  first : ∀ earlier < place, endsInWord inWord (code.take earlier) = false →
    typeAt? (code.drop earlier) = none

theorem FirstTypeAt.unique {place place' : Nat} (h : FirstTypeAt inWord code place name)
    (h' : FirstTypeAt inWord code place' name) :
    place = place' := by
  rcases lt_trichotomy place place' with hlt | heq | hgt
  · have hnone := h'.first place hlt h.not_inWord
    rw [h.declared] at hnone
    cases hnone
  · exact heq
  · have hnone := h.first place' hgt h'.not_inWord
    rw [h'.declared] at hnone
    cases hnone

theorem FirstTypeAt.cons {c : CodePoint} {place : Nat}
    (h : FirstTypeAt (Text.isWord c) code place name)
    (hskip : inWord = false → typeAt? (c :: code) = none) :
    FirstTypeAt inWord (c :: code) (place + 1) name where
  not_inWord := h.not_inWord
  declared := h.declared
  first := by
    intro earlier hlt hword
    cases earlier with
    | zero => exact hskip hword
    | succ earlier => exact h.first earlier (by omega) hword

/-- **The class name** is that of the first type. -/
theorem exists_firstTypeAt (h : typeFrom? inWord code = some name) :
    ∃ place, FirstTypeAt inWord code place name := by
  -- Where a word goes on, a type at this place does not count.
  induction code generalizing inWord with
  | nil => cases h
  | cons c code ih =>
    rw [typeFrom?] at h
    split at h
    · next name' hname =>
      obtain rfl : name' = name := Option.some.inj h
      cases inWord with
      | true => cases hname
      | false =>
        refine ⟨0, ⟨rfl, hname, ?_⟩⟩
        intro earlier hlt
        cases hlt
    · next hnone =>
      obtain ⟨place, hplace⟩ := ih h
      refine ⟨place + 1, hplace.cons ?_⟩
      rintro rfl
      exact hnone

/-- Where the body of a type starts that is declared at a place: the next opening brace. -/
def bodyOpening (code : Text) (place : Nat) : Nat :=
  place + ((code.drop place).takeWhile (· != .char '{')).length

/-- A place is in the block that an opening brace starts: the depth has not come back to that of the
brace. -/
structure InBlock (code : Text) (opening n : Nat) : Prop where
  brace : code[opening]? = some (.char '{')
  lt : opening < n
  deeper : ∀ m, opening < m → m ≤ n → braceDepth (code.take opening) < braceDepth (code.take m)

/-- A place is in a block and in no block inside of it. -/
structure DirectlyIn (code : Text) (opening n : Nat) : Prop extends InBlock code opening n where
  depth_eq : braceDepth (code.take n) = braceDepth (code.take opening) + 1

theorem getElem?_bodyOpening {place : Nat} (h : bodyOpening code place < code.length) :
    code[bodyOpening code place]? = some (.char '{') := by
  have hsplit := List.takeWhile_append_dropWhile (p := (· != .char '{')) (l := code.drop place)
  have hget : code[bodyOpening code place]? =
      ((code.drop place).dropWhile (· != .char '{'))[0]? := by
    rw [bodyOpening, ← List.getElem?_drop, ← hsplit, List.getElem?_append_right (by simp)]
    simp
  have hlength : 0 < ((code.drop place).dropWhile (· != .char '{')).length := by
    have hsum := congrArg List.length hsplit
    rw [List.length_append, List.length_drop] at hsum
    rw [bodyOpening] at h
    omega
  rw [hget, List.getElem?_eq_getElem hlength]
  have hhead := List.head?_dropWhile_not (· != .char '{') (code.drop place)
  rw [List.head?_eq_getElem?, List.getElem?_eq_getElem hlength] at hhead
  simpa using hhead

/-- A place is directly in a block that starts at depth zero. -/
def InOutermost (code : Text) (n : Nat) : Prop :=
  ∃ opening, DirectlyIn code opening n ∧ braceDepth (code.take opening) = 0

/-- **A place of depth one is directly in a block at depth zero.** -/
theorem exists_outermost (hn : n ≤ code.length) (hdepth : braceDepth (code.take n) = 1) :
    InOutermost code n := by
  -- The block starts at the last place before the given one that is in no block.
  let opening := Nat.findGreatest (fun m => braceDepth (code.take m) ≤ 0) n
  have hout : braceDepth (code.take opening) ≤ 0 :=
    Nat.findGreatest_spec (P := fun m => braceDepth (code.take m) ≤ 0) (Nat.zero_le n) le_rfl
  have hdeep : ∀ m, opening < m → m ≤ n → 0 < braceDepth (code.take m) := by
    intro m hlt hle
    exact not_le.1 (Nat.findGreatest_is_greatest hlt hle)
  have hlt : opening < n := by
    refine lt_of_le_of_ne (Nat.findGreatest_le n) fun heq => ?_
    rw [heq, hdepth] at hout
    exact absurd hout (by decide)
  have hget : code[opening]? = some code[opening] := List.getElem?_eq_getElem (by omega)
  have hnext := hdeep (opening + 1) (Nat.lt_succ_self _) hlt
  rw [braceDepth_take_succ hget] at hnext
  have hbrace : code[opening] = '{' := eq_opening_of_braceStep_pos (by omega)
  have hzero : braceDepth (code.take opening) = 0 := by
    rw [hbrace, braceStep_opening] at hnext
    omega
  refine ⟨opening, ⟨⟨hget.trans (congrArg some hbrace), hlt, ?_⟩, by omega⟩, hzero⟩
  intro m hlt hle
  rw [hzero]
  exact hdeep m hlt hle

/-! ## Places of fields -/

/-- **Fields are reported in the order of their places**, each declared at depth one. -/
theorem exists_places (skip line : Nat) (depth : Int) (text code : Text) :
    ∃ places : List Nat, places.Pairwise (· < ·) ∧
      List.Forall₂ (DeclaredAt depth text code) places (fieldsFrom skip depth line text code) := by
  have hshift : ∀ {depth c b text code} {places : List Nat} {fields : List Field},
      List.Forall₂ (DeclaredAt (depth + braceStep b) text code) places fields →
        List.Forall₂ (DeclaredAt depth (c :: text) (b :: code)) (places.map (· + 1)) fields := by
    intro depth c b text code places fields h
    rw [List.forall₂_map_left_iff]
    exact h.imp fun _ _ => DeclaredAt.cons
  have hsorted : ∀ {places : List Nat}, places.Pairwise (· < ·) →
      (places.map (· + 1)).Pairwise (· < ·) := by
    intro places h
    exact List.pairwise_map.2 (h.imp Nat.succ_lt_succ)
  -- Each step of the scan moves all later places one on.
  fun_induction fieldsFrom skip depth line text code with
  | case1 depth line c text b code depth' line' skip ih =>
    obtain ⟨places, horder, hfields⟩ := ih
    exact ⟨_, hsorted horder, hshift hfields⟩
  | case2 depth line c text b code depth' line' hnone ih =>
    obtain ⟨places, horder, hfields⟩ := ih
    exact ⟨_, hsorted horder, hshift hfields⟩
  | case3 line c text b code line' found hfound before depth' fields ih =>
    obtain ⟨places, horder, hfields⟩ := ih
    refine ⟨0 :: places.map (· + 1), List.pairwise_cons.2 ⟨?_, hsorted horder⟩, ?_⟩
    · intro n hn
      obtain ⟨k, -, rfl⟩ := List.mem_map.1 hn
      exact Nat.succ_pos k
    · exact .cons ⟨Nat.succ_pos _, ⟨found, hfound, rfl, rfl⟩, rfl⟩ (hshift hfields)
  | case4 depth line c text b code depth' line' found hfound fields hdepth ih =>
    obtain ⟨places, horder, hfields⟩ := ih
    exact ⟨_, hsorted horder, hshift hfields⟩
  | case5 => exact ⟨[], .nil, .nil⟩

/-! ## Fields and the body -/

/-- The fields of a text and the places they are declared at, in order. -/
structure PlacesOf (text : Text) (places : List Nat) : Prop where
  sorted : places.Pairwise (· < ·)
  declared : List.Forall₂ (DeclaredAt 0 text (blank text)) places
    (CompilationUnit.scan text).fields

theorem PlacesOf.exists_declaredAt {places : List Nat} (h : PlacesOf text places)
    (hn : n ∈ places) : ∃ field, DeclaredAt 0 text (blank text) n field := by
  obtain ⟨i, hi, rfl⟩ := List.getElem_of_mem hn
  exact ⟨_, h.declared.get hi (h.declared.length_eq ▸ hi)⟩

theorem exists_placesOf (text : Text) : ∃ places, PlacesOf text places := by
  obtain ⟨places, hsorted, hdeclared⟩ := exists_places 0 1 0 text (blank text)
  exact ⟨places, hsorted, hdeclared⟩

/-- Where a place lies in relation to a block that starts at an opening brace. -/
inductive Relative (code : Text) (opening n : Nat) : Prop
  /-- In the block, and in no block inside of it. -/
  | inside (h : DirectlyIn code opening n)
  /-- The block has not started. -/
  | before (h : n ≤ opening)
  /-- The block has been closed. -/
  | behind (m : Nat) (hopening : opening < m) (hplace : m ≤ n)
      (h : braceDepth (code.take m) ≤ braceDepth (code.take opening))
  /-- More braces are closed than opened before the block. -/
  | unbalanced (h : braceDepth (code.take opening) < 0)

/-- A place of depth one is directly in a block that is still open there. -/
theorem relative_of_depth (hbrace : opening < code.length → code[opening]? = some (.char '{'))
    (hn : n ≤ code.length) (hdepth : braceDepth (code.take n) = 1) :
    Relative code opening n := by
  by_cases hbefore : n ≤ opening
  · exact .before hbefore
  -- Either the body was closed before the place, or the depth stayed above its opening.
  by_cases hclosed : ∃ m, opening < m ∧ m ≤ n ∧
      braceDepth (code.take m) ≤ braceDepth (code.take opening)
  · obtain ⟨m, hopening, hplace, hm⟩ := hclosed
    exact .behind m hopening hplace hm
  · have hdeeper : ∀ m, opening < m → m ≤ n →
        braceDepth (code.take opening) < braceDepth (code.take m) := by
      intro m hopening hplace
      by_contra hm
      exact hclosed ⟨m, hopening, hplace, not_lt.1 hm⟩
    have hlast := hdeeper n (by omega) le_rfl
    by_cases hzero : braceDepth (code.take opening) = 0
    · exact .inside ⟨⟨hbrace (by omega), by omega, hdeeper⟩, by omega⟩
    · exact .unbalanced (by omega)

theorem PlacesOf.depth_eq {places : List Nat} (h : PlacesOf text places) (hn : n ∈ places) :
    n ≤ (blank text).length ∧ braceDepth ((blank text).take n) = 1 := by
  obtain ⟨field, hfield⟩ := h.exists_declaredAt hn
  rw [length_blank]
  exact ⟨hfield.lt_length.le, by simpa using hfield.depth_eq⟩

theorem PlacesOf.relative {places : List Nat} (h : PlacesOf text places) (hn : n ∈ places)
    (place : Nat) : Relative (blank text) (bodyOpening (blank text) place) n := by
  obtain ⟨hle, hdepth⟩ := h.depth_eq hn
  exact relative_of_depth getElem?_bodyOpening hle hdepth

/-- **Every field is directly in a block at depth zero.** The block is the body of the first type,
unless the body has not started or is closed at its place, or the braces before the body are
unbalanced. -/
theorem fields_in_body_or_beyond (h : (CompilationUnit.scan text).className = some name) :
    ∃ place places, FirstTypeAt false (blank text) place name ∧ PlacesOf text places ∧
      ∀ n ∈ places, InOutermost (blank text) n ∧
        Relative (blank text) (bodyOpening (blank text) place) n := by
  obtain ⟨place, hplace⟩ := exists_firstTypeAt h
  obtain ⟨places, hplaces⟩ := exists_placesOf text
  refine ⟨place, places, hplace, hplaces, ?_⟩
  intro n hn
  obtain ⟨hle, hdepth⟩ := hplaces.depth_eq hn
  exact ⟨exists_outermost hle hdepth, hplaces.relative hn place⟩

/-- The field of the only type, and its place. -/
theorem fields_in_body_or_beyond_only :
    let text : Text := "class A \x7b/** 1-a */ int x;\x7d"
    (CompilationUnit.scan text).className = some ("A" : Text) ∧
      ∃ place places, FirstTypeAt false (blank text) place "A" ∧ PlacesOf text places ∧
        ∀ n ∈ places, InOutermost (blank text) n ∧
          Relative (blank text) (bodyOpening (blank text) place) n := by
  intro text
  have hclass : (CompilationUnit.scan text).className = some ("A" : Text) := by decide
  exact ⟨hclass, fields_in_body_or_beyond hclass⟩

/-- All fields of a text are directly in the body of its first type. -/
def FieldsInBody (text : Text) : Prop :=
  ∀ name, (CompilationUnit.scan text).className = some name →
    ∃ place places, FirstTypeAt false (blank text) place name ∧ PlacesOf text places ∧
      ∀ n ∈ places, DirectlyIn (blank text) (bodyOpening (blank text) place) n

/-- The only declaration of a text with fields is the place of a field. -/
theorem PlacesOf.mem_of_only {places : List Nat} (h : PlacesOf text places)
    (hne : (CompilationUnit.scan text).fields ≠ [])
    (honly : ∀ k < text.length, (Declaration.at? (text.drop k)).isSome = true → k = n) :
    n ∈ places := by
  have hplaces : places ≠ [] := by
    rintro rfl
    exact hne (List.forall₂_nil_left_iff.1 h.declared)
  obtain ⟨k, hk⟩ := List.exists_mem_of_ne_nil places hplaces
  obtain ⟨field, hfield⟩ := h.exists_declaredAt hk
  obtain ⟨found, hfound, -⟩ := hfield.declaration
  rw [← honly k hfield.lt_length (by rw [hfound]; rfl)]
  exact hk

/-- A field of a second type is not in the body of the first. After a stray closing brace the
variables of a method are taken for fields. -/
theorem not_fieldsInBody :
    ¬FieldsInBody "class A \x7b\x7d\nclass B \x7b/** 1-a */ int x;\x7d" ∧
      ¬FieldsInBody "\x7dclass A \x7bvoid f() \x7b/** 1-a */ int x;\x7d\x7d" := by
  constructor
  · intro h
    obtain ⟨place, places, hfirst, hplaces, hall⟩ := h "A" (by decide)
    obtain rfl : place = 0 := hfirst.unique ⟨rfl, by decide, by decide⟩
    have hdirect := hall 20 (hplaces.mem_of_only (by decide) (by decide))
    -- The body of the first type is closed after ten characters.
    exact absurd (hdirect.deeper 10 (by decide) (by decide)) (by decide)
  · intro h
    obtain ⟨place, places, hfirst, hplaces, hall⟩ := h "A" (by decide)
    obtain rfl : place = 1 := hfirst.unique ⟨rfl, by decide, by decide⟩
    have hdirect := hall 20 (hplaces.mem_of_only (by decide) (by decide))
    exact absurd hdirect.depth_eq (by decide)

/-! ## Texts of one block -/

/-- Some code is one block, with no brace around it. -/
structure OneBlock (code before inside after : Text) : Prop where
  code_eq : code = before ++ (.char '{' :: (inside ++ [.char '}']) ++ after)
  before : braces before = []
  inside : Balanced inside
  after : braces after = []

/-- **The depth around a block** is zero, and positive inside of it. -/
theorem OneBlock.depth_iff {before inside after : Text} (h : OneBlock code before inside after)
    (n : Nat) : 0 ≤ braceDepth (code.take n) ∧ (braceDepth (code.take n) = 0 ↔
      n ≤ before.length ∨ before.length + inside.length + 1 < n) := by
  rw [h.code_eq]
  exact depth_block_iff h.before h.inside h.after n

/-- The brace of a block is the next one after every place before it. -/
theorem OneBlock.bodyOpening_eq {before inside after : Text} {place : Nat}
    (h : OneBlock code before inside after) (hplace : place ≤ before.length) :
    bodyOpening code place = before.length := by
  have hdrop : code.drop place =
      before.drop place ++ .char '{' :: (inside ++ [.char '}'] ++ after) := by
    rw [h.code_eq, List.drop_append_of_le_length hplace]
    simp
  have hrun : ∀ c ∈ before.drop place, (c != '{') = true := by
    intro c hc
    have hbrace := braces_eq_nil_iff.1 h.before c (List.mem_of_mem_drop hc)
    simp only [isBrace, Bool.or_eq_false_iff] at hbrace
    simp [bne, hbrace.1]
  rw [bodyOpening, hdrop, Text.takeWhile_run hrun (by simp), List.length_drop]
  omega

/-- **In a text of one block**, whose type is declared before the block, all fields are directly in
the body of the type. -/
theorem PlacesOf.directlyIn_of_oneBlock {before inside after : Text} {place : Nat}
    {places : List Nat} (h : PlacesOf text places)
    (hblock : OneBlock (blank text) before inside after) (hplace : place ≤ before.length)
    (hn : n ∈ places) : DirectlyIn (blank text) (bodyOpening (blank text) place) n := by
  have hopening := hblock.bodyOpening_eq hplace
  have hzero : braceDepth ((blank text).take before.length) = 0 :=
    (hblock.depth_iff before.length).2.2 (.inl le_rfl)
  obtain ⟨-, hdepth⟩ := h.depth_eq hn
  have hinside : ¬(n ≤ before.length ∨ before.length + inside.length + 1 < n) := by
    intro hout
    have hdepth' := (hblock.depth_iff n).2.2 hout
    omega
  cases h.relative hn place with
  | inside hdirect => exact hdirect
  | before hle => omega
  | behind m hlt hle hclosed =>
    rw [hopening] at hlt hclosed
    obtain ⟨hnonneg, hiff⟩ := hblock.depth_iff m
    have hout := hiff.1 (by omega)
    omega
  | unbalanced hneg =>
    rw [hopening] at hneg
    omega

end DocEnum.Java
