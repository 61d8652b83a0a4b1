import Mathlib
import DocEnum.Proofs.Java.FieldSearch

/-!
# Occurrences of declarations

The fields of a source text, told without a running count.

**Occurrences** (`Occurrences`). A text is searched for declarations from the left. The next one
starts at the first place that one starts at, behind the end of the last one. Each search ends, with
one result (`exists_occurrences`, `Occurrences.unique`), because a declaration is a stretch of the
text that is not empty (`Declaration.rest_lt`).

**Theorem (`fields_eq_occurrences`).** The fields of a text are its occurrences at depth one, in
their order. The depth is the number of opening braces in the whole code before the occurrence less
the number of closing ones. The line of a field is the piece between line feeds that the first
character of its name is in.

The search keeps depth and line up to date as it moves on. What it still finds at a place therefore
depends on the place alone (`fieldsAt`), and the braces inside a declaration count whether it was
taken or not (`fieldsAt_of_some`).
-/

namespace DocEnum.Java

variable {text t u base doc : Text} {n k line : Nat} {found : Declaration}

/-! ## Parts as suffixes

Each part is read off the start of a text, so that whatever is left is a suffix. -/

theorem suffix_of_trimStart (h : Text.trimStart t = u) : u <:+ t :=
  h ▸ List.dropWhile_suffix _

theorem suffix_of_trimStart_cons {c : CodePoint} (h : Text.trimStart t = c :: u) : u <:+ t :=
  (List.suffix_cons c u).trans (suffix_of_trimStart h)

theorem suffix_of_afterBlanks? (h : afterBlanks? t = some u) : u <:+ t :=
  suffix_of_trimStart (startsBlank_of_afterBlanks? h).1.symm

theorem suffix_of_afterModifier? (h : afterModifier? t = some u) : u <:+ t := by
  obtain ⟨modifier, -, h⟩ := List.exists_of_findSome?_eq_some h
  obtain ⟨behind, hdrop, hbehind⟩ := Option.bind_eq_some_iff.1 h
  rw [Text.dropBeginning?_eq_some_iff.1 hdrop]
  exact (suffix_of_afterBlanks? hbehind).trans (List.suffix_append modifier behind)

theorem suffix_of_mem_shortened {length : Nat} (h : u ∈ shortened length t) : u <:+ t := by
  obtain ⟨k, -, rfl⟩ := List.mem_map.1 h
  exact List.drop_suffix _ t

/-- Where modifiers may start. The fallback has places in front of the text, so that both are
compared with one text around them. -/
theorem suffix_of_mem_afterAnnotations {fuel : Nat} {fallback : List Text} (ht : t <:+ base)
    (hfallback : ∀ u ∈ fallback, u <:+ base) (h : u ∈ afterAnnotations fuel t fallback) :
    u <:+ base := by
  -- Everything the search steps over lies in front, so that suffixes are kept.
  fun_induction afterAnnotations fuel t fallback with
  | case1 => cases h
  | case2 => cases h
  | case3 _ fuel rest name _ arguments harguments c behind hbehind ih =>
    have hrest : rest <:+ base := (List.suffix_cons (.char '@') rest).trans ht
    have harguments : arguments <:+ base :=
      (suffix_of_trimStart_cons harguments).trans ((List.drop_suffix _ rest).trans hrest)
    have hbehind : c :: behind <:+ base := hbehind ▸ (List.dropWhile_suffix _).trans harguments
    exact ih ((List.dropWhile_suffix _).trans ((List.suffix_cons c behind).trans hbehind))
      (fun u hu => absurd hu List.not_mem_nil) h
  | case4 _ fuel rest name _ hnext ih =>
    have hrest : rest <:+ base := (List.suffix_cons (.char '@') rest).trans ht
    have hnext : Text.trimStart (rest.drop name.length) <:+ base :=
      (List.dropWhile_suffix _).trans ((List.drop_suffix _ rest).trans hrest)
    exact ih hnext (fun u hu => (suffix_of_mem_shortened hu).trans hrest) h
  | case5 fuel t fallback =>
    rcases List.mem_cons.1 h with rfl | h
    · exact ht
    · exact hfallback u h

theorem suffix_of_mem_singleton (h : u ∈ [t]) : u <:+ t :=
  List.mem_singleton.1 h ▸ List.suffix_refl t

theorem suffix_of_mem_afterModifiers {fuel : Nat} (h : u ∈ afterModifiers fuel t) : u <:+ t := by
  fun_induction afterModifiers fuel t with
  | case1 t => exact suffix_of_mem_singleton h
  | case2 t fuel rest hrest ih =>
    rcases List.mem_append.1 h with h | h
    · exact (ih h).trans (suffix_of_afterModifier? hrest)
    · exact suffix_of_mem_singleton h
  | case3 t => exact suffix_of_mem_singleton h

theorem suffix_of_mem_closings (h : u ∈ closings t) : u <:+ t := by
  fun_induction closings t with
  | case1 => cases h
  | case2 => cases h
  | case3 c rest _ _ ih =>
    rcases List.mem_append.1 h with h | h
    · exact (ih h).trans (List.suffix_cons c rest)
    · exact (suffix_of_mem_singleton h).trans (List.suffix_cons c rest)
  | case4 c rest _ _ ih => exact (ih h).trans (List.suffix_cons c rest)

theorem suffix_of_mem_afterType (h : u ∈ afterType t) : u <:+ t := by
  simp only [afterType] at h
  split at h
  · cases h
  · have hrest := List.drop_suffix (t.takeWhile isTypeChar).length t
    split at h
    · next arguments harguments =>
      rcases List.mem_append.1 h with h | h
      · exact (suffix_of_mem_closings h).trans ((suffix_of_trimStart_cons harguments).trans hrest)
      · exact (suffix_of_mem_singleton h).trans hrest
    · exact (suffix_of_mem_singleton h).trans hrest

theorem dropArrays_suffix (fuel : Nat) (t : Text) : dropArrays fuel t <:+ t := by
  fun_induction dropArrays fuel t with
  | case1 t => exact List.suffix_refl t
  | case2 fuel t rest hrest inside hinside ih =>
    exact ih.trans ((suffix_of_trimStart_cons hinside).trans (suffix_of_trimStart_cons hrest))
  | case3 fuel t => exact List.suffix_refl t
  | case4 fuel t => exact List.suffix_refl t

theorem suffix_of_afterSemicolon? (h : afterSemicolon? t = some u) : u <:+ t := by
  unfold afterSemicolon? at h
  split at h
  · next rest hrest => exact Option.some.inj h ▸ suffix_of_trimStart_cons hrest
  · next value hvalue =>
    have htail : u <:+ value.dropWhile (· != .char ';') := by
      cases hbehind : value.dropWhile (· != .char ';') with
      | nil => simp [hbehind] at h
      | cons c behind =>
        rw [hbehind] at h
        exact Option.some.inj h ▸ List.suffix_cons c behind
    exact htail.trans ((List.dropWhile_suffix _).trans (suffix_of_trimStart_cons hvalue))
  · cases h

/-! ## Declarations -/

namespace Declaration

/-- The name stands in a text, and what is left behind it. -/
structure EndsIn (found : Declaration) (t : Text) : Prop where
  fromName : found.fromName <:+ t
  rest : found.rest <:+ found.fromName

theorem EndsIn.trans (h : found.EndsIn t) (ht : t <:+ u) : found.EndsIn u :=
  ⟨h.fromName.trans ht, h.rest⟩

theorem endsIn_of_ending? (h : ending? doc t = some found) : found.EndsIn t := by
  unfold ending? at h
  simp only [Option.bind_eq_bind, Option.bind_eq_some_iff, Option.pure_def, Option.some.injEq] at h
  obtain ⟨fromName, hfromName, name, -, rest, hrest, rfl⟩ := h
  exact ⟨(suffix_of_afterBlanks? hfromName).trans (dropArrays_suffix _ t),
    (suffix_of_afterSemicolon? hrest).trans (List.drop_suffix _ fromName)⟩

/-- **A declaration ends in its text**, behind the comment. -/
theorem endsIn_drop_of_at? {length : Nat} (hlength : docLength? t = some length)
    (h : at? t = some found) : found.EndsIn (t.drop length) := by
  rw [at?_eq, hlength, Option.bind_some] at h
  obtain ⟨fromModifiers, hmodifiers, h⟩ := List.exists_of_findSome?_eq_some h
  obtain ⟨fromType, htype, h⟩ := List.exists_of_findSome?_eq_some h
  obtain ⟨behindType, hbehind, h⟩ := List.exists_of_findSome?_eq_some h
  refine (endsIn_of_ending? h).trans ?_
  calc behindType <:+ fromType := suffix_of_mem_afterType hbehind
    _ <:+ fromModifiers := suffix_of_mem_afterModifiers htype
    _ <:+ Text.trimStart (t.drop length) :=
      suffix_of_mem_afterAnnotations (List.suffix_refl _) (by simp) hmodifiers
    _ <:+ t.drop length := List.dropWhile_suffix _

theorem endsIn_of_at? (h : at? t = some found) : found.EndsIn t := by
  obtain ⟨length, hlength, -⟩ := doc_of_at? h
  exact (endsIn_drop_of_at? hlength h).trans (List.drop_suffix length t)

theorem doc_prefix_of_at? (h : at? t = some found) : found.doc <+: t := by
  obtain ⟨length, -, hdoc⟩ := doc_of_at? h
  exact hdoc ▸ List.take_prefix length t

/-- A declaration is not empty. -/
theorem rest_lt (h : at? t = some found) : found.rest.length < t.length := by
  obtain ⟨length, hlength, -⟩ := doc_of_at? h
  have hpos := docLength?_pos hlength
  have hle := docLength?_le hlength
  have hends := endsIn_drop_of_at? hlength h
  calc found.rest.length ≤ found.fromName.length := hends.rest.length_le
    _ ≤ (t.drop length).length := hends.fromName.length_le
    _ < t.length := by rw [List.length_drop]; omega

end Declaration

/-- A declared name starts a text, and not with a line feed. -/
theorem prefix_of_nameAt? {name : Text} (h : nameAt? t = some name) :
    name <+: t ∧ ∃ c ∈ t.head?, c ≠ '\n' := by
  cases t with
  | nil => cases h
  | cons c t =>
    rw [nameAt?] at h
    split at h
    · next hstart =>
      refine ⟨?_, c, rfl, ?_⟩
      · rw [← Option.some.inj h, List.prefix_cons_inj]
        exact List.takeWhile_prefix isNamePart
      · rintro rfl
        exact absurd hstart (by decide)
    · cases h

/-! ## Occurrences -/

/-- A declaration and the place of a text where it starts. -/
structure Occurrence where
  start : Nat
  declaration : Declaration

/-- The declarations found from a place of a text on. -/
inductive Occurrences (text : Text) : Nat → List Occurrence → Prop
  | none {n : Nat} (hnone : ∀ k ≥ n, Declaration.at? (text.drop k) = none) : Occurrences text n []
  | next {n k : Nat} {found : Declaration} {later : List Occurrence} (hle : n ≤ k)
      (hnone : ∀ j, n ≤ j → j < k → Declaration.at? (text.drop j) = none)
      (hfound : Declaration.at? (text.drop k) = some found)
      (hlater : Occurrences text (text.length - found.rest.length) later) :
      Occurrences text n (⟨k, found⟩ :: later)

/-- The search goes on behind a declaration. -/
theorem lt_of_at? (h : Declaration.at? (text.drop n) = some found) :
    n < text.length - found.rest.length := by
  have hlt := Declaration.rest_lt h
  rw [List.length_drop] at hlt
  omega

/-- **The search for declarations ends.** -/
theorem exists_occurrences (text : Text) (n : Nat) :
    ∃ occurrences, Occurrences text n occurrences := by
  -- Induction on what is left of the text: less is left behind each declaration.
  induction hleft : text.length - n using Nat.strong_induction_on generalizing n with
  | _ left ih =>
    by_cases hany : ∃ k, n ≤ k ∧ Declaration.at? (text.drop k) ≠ none
    · obtain ⟨hle, hne⟩ := Nat.find_spec hany
      obtain ⟨found, hfound⟩ := Option.ne_none_iff_exists'.1 hne
      have hlt := lt_of_at? hfound
      obtain ⟨later, hlater⟩ := ih (text.length - (text.length - found.rest.length))
        (by omega) _ rfl
      refine ⟨_, .next hle (fun j hj hlt => ?_) hfound hlater⟩
      by_contra hne
      exact Nat.find_min hany hlt ⟨hj, hne⟩
    · push Not at hany
      exact ⟨[], .none hany⟩

/-- **The search for declarations has one result.** -/
theorem Occurrences.unique {first second : List Occurrence} (hfirst : Occurrences text n first)
    (hsecond : Occurrences text n second) : first = second := by
  induction hfirst generalizing second with
  | none hnone =>
    cases hsecond with
    | none => rfl
    | next hle _ hfound _ => rw [hnone _ hle] at hfound; cases hfound
  | @next n k found later hle hnone hfound _ ih =>
    cases hsecond with
    | none hnone' => rw [hnone' _ hle] at hfound; cases hfound
    | @next _ k' found' later' hle' hnone' hfound' hlater' =>
      -- Nothing is found before the first place, of either list.
      obtain rfl : k = k' := by
        rcases lt_trichotomy k k' with hlt | heq | hlt
        · rw [hnone' k hle hlt] at hfound; cases hfound
        · exact heq
        · rw [hnone k' hle' hlt] at hfound'; cases hfound'
      obtain rfl : found = found' := Option.some.inj (hfound.symm.trans hfound')
      rw [ih hlater']

/-! ## Depth and line at a place -/

/-- The braces opened before a place of a text, in the code, less those closed. -/
def depthAt (text : Text) (n : Nat) : Int :=
  ((blank text).take n).count (.char '{') - ((blank text).take n).count (.char '}')

/-- One more than the number of line feeds before a place of a text. -/
def lineAt (text : Text) (n : Nat) : Nat :=
  1 + lineFeeds (text.take n)

theorem braceDepth_eq_count (code : Text) :
    braceDepth code = (code.count (.char '{') : Int) - code.count (.char '}') := by
  induction code with
  | nil => rfl
  | cons c code ih =>
    rw [braceDepth_cons, ih, braceStep, List.count_cons, List.count_cons]
    by_cases hopen : c = '{'
    · subst hopen
      simp
      omega
    · by_cases hclose : c = '}'
      · subst hclose
        simp
        omega
      · simp [hopen, hclose]

theorem depthAt_add (text : Text) (n k : Nat) :
    depthAt text (n + k) = depthAt text n + braceDepth (((blank text).drop n).take k) := by
  simp only [depthAt, ← braceDepth_eq_count]
  rw [List.take_add, braceDepth_append]

theorem lineAt_add (text : Text) (n k : Nat) :
    lineAt text (n + k) = lineAt text n + lineFeeds ((text.drop n).take k) := by
  rw [lineAt, List.take_add, lineFeeds_append, ← add_assoc]
  rfl

/-! ## The search from a place on -/

/-- The fields that the search still finds at a place. -/
def fieldsAt (text : Text) (n : Nat) : List Field :=
  fieldsFrom 0 (depthAt text n) (lineAt text n) (text.drop n) ((blank text).drop n)

theorem fieldsAt_length (text : Text) : fieldsAt text text.length = [] := by
  rw [fieldsAt, List.drop_length, fieldsFrom]
  intro _ _ _ _ h
  cases h

theorem length_take_drop_blank (text : Text) (n k : Nat) :
    (((blank text).drop n).take k).length = ((text.drop n).take k).length := by
  simp [length_blank]

/-- **Places where no declaration starts** are passed. -/
theorem fieldsAt_of_none (hnone : ∀ j < k, Declaration.at? (text.drop (n + j)) = none) :
    fieldsAt text n = fieldsAt text (n + k) := by
  have hnone' : ∀ j < ((text.drop n).take k).length,
      Declaration.at? (((text.drop n).take k ++ (text.drop n).drop k).drop j) = none := by
    intro j hj
    rw [List.take_append_drop, List.drop_drop]
    exact hnone j (lt_of_lt_of_le hj (List.length_take_le _ _))
  have hpassed := @fieldsFrom_of_none _ _ (((blank text).drop n).take k)
    (((blank text).drop n).drop k) (depthAt text n) (lineAt text n)
    (length_take_drop_blank text n k) hnone'
  rwa [List.take_append_drop, List.take_append_drop, ← depthAt_add, ← lineAt_add, List.drop_drop,
    List.drop_drop] at hpassed

/-- An occurrence is at depth one. -/
def Occurrence.IsTopLevel (text : Text) (occurrence : Occurrence) : Prop :=
  depthAt text occurrence.start = 1

instance (text : Text) : DecidablePred (Occurrence.IsTopLevel text) :=
  fun occurrence => inferInstanceAs (Decidable (depthAt text occurrence.start = 1))

/-- The field of an occurrence. -/
def Occurrence.field (text : Text) (occurrence : Occurrence) : Field where
  name := occurrence.declaration.name
  doc := occurrence.declaration.doc
  line := lineAt text (text.length - occurrence.declaration.fromName.length)

/-- **A declaration** is passed as a whole, and adds its field at depth one. -/
theorem fieldsAt_of_some (hfound : Declaration.at? (text.drop n) = some found) :
    fieldsAt text n =
      (if Occurrence.IsTopLevel text ⟨n, found⟩ then [Occurrence.field text ⟨n, found⟩] else []) ++
        fieldsAt text (text.length - found.rest.length) := by
  have hends := Declaration.endsIn_of_at? hfound
  have hname := hends.fromName.length_le
  have hlt := Declaration.rest_lt hfound
  rw [List.length_drop] at hname hlt
  obtain ⟨k, hk⟩ : ∃ k, text.length - found.rest.length = n + k :=
    Nat.exists_eq_add_of_le (by omega)
  have hrest : found.rest = (text.drop n).drop k := by
    rw [List.suffix_iff_eq_drop.1 (hends.rest.trans hends.fromName), List.length_drop]
    congr 1
    omega
  have hne : (text.drop n).take k ≠ [] := by
    rw [← List.length_pos_iff, List.length_take, List.length_drop]
    omega
  have hplace : text.length - found.fromName.length =
      n + ((text.drop n).length - found.fromName.length) := by
    rw [List.length_drop]
    omega
  have hpassed := @fieldsFrom_of_some _ _ (((blank text).drop n).take k)
    (((blank text).drop n).drop k) (depthAt text n) (lineAt text n) found
    (length_take_drop_blank text n k) hne (by rwa [List.take_append_drop]) hrest
  rw [List.take_append_drop, List.take_append_drop, ← depthAt_add, ← lineAt_add, ← lineAt_add,
    List.drop_drop, List.drop_drop] at hpassed
  rw [hk, Occurrence.field, hplace]
  exact hpassed

/-! ## The run of the search -/

/-- **From a place on** the search finds the fields of the occurrences at depth one. -/
theorem fieldsAt_eq {occurrences : List Occurrence} (h : Occurrences text n occurrences)
    (hn : n ≤ text.length) : fieldsAt text n =
      (occurrences.filter (Occurrence.IsTopLevel text)).map (Occurrence.field text) := by
  -- `fieldsAt` carries depth and line, so that taken and skipped declarations are passed alike.
  induction h with
  | @none n hnone =>
    obtain ⟨k, hk⟩ := Nat.exists_eq_add_of_le hn
    rw [fieldsAt_of_none fun j _ => hnone _ (Nat.le_add_right n j), ← hk, fieldsAt_length]
    rfl
  | @next n start found later hle hnone hfound _ ih =>
    obtain ⟨k, rfl⟩ := Nat.exists_eq_add_of_le hle
    have hpassed : fieldsAt text n = fieldsAt text (n + k) :=
      fieldsAt_of_none fun j hj => hnone _ (Nat.le_add_right n j) (Nat.add_lt_add_left hj n)
    rw [hpassed, fieldsAt_of_some hfound, ih (Nat.sub_le _ _)]
    by_cases hdepth : Occurrence.IsTopLevel text ⟨n + k, found⟩
    · simp [hdepth]
    · simp [hdepth]

theorem Occurrences.at?_of_mem {occurrences : List Occurrence} {occurrence : Occurrence}
    (h : Occurrences text n occurrences) (hmem : occurrence ∈ occurrences) :
    n ≤ occurrence.start ∧
      Declaration.at? (text.drop occurrence.start) = some occurrence.declaration := by
  induction h with
  | none => cases hmem
  | next hle _ hfound _ ih =>
    rcases List.mem_cons.1 hmem with rfl | hmem
    · exact ⟨hle, hfound⟩
    · have hlt := lt_of_at? hfound
      obtain ⟨hle', hfound'⟩ := ih hmem
      exact ⟨by omega, hfound'⟩

/-- Occurrences are found from the left to the right. -/
theorem Occurrences.pairwise_lt {occurrences : List Occurrence}
    (h : Occurrences text n occurrences) :
    occurrences.Pairwise fun first second => first.start < second.start := by
  induction h with
  | none => exact List.Pairwise.nil
  | next _ _ hfound hlater ih =>
    refine List.Pairwise.cons (fun occurrence hmem => ?_) ih
    exact lt_of_lt_of_le (lt_of_at? hfound) (hlater.at?_of_mem hmem).1

/-! ## Lines -/

/-- A place of a text is inside of this piece between line feeds, counted from one. -/
def OnLine (text : Text) (place line : Nat) : Prop :=
  ∃ before piece after, Text.splitOn (· == .char '\n') text = before ++ piece :: after ∧
    line = before.length + 1 ∧ (before.map (·.length + 1)).sum ≤ place ∧
      place < (before.map (·.length + 1)).sum + piece.length

theorem onLine_first {c : CodePoint} (hc : c ≠ '\n') : OnLine (c :: text) 0 1 := by
  obtain ⟨first, others, -, hsplit⟩ :=
    Text.splitOn_cons_of_none (p := (· == .char '\n')) (by simpa using hc) text
  exact ⟨[], c :: first, others, hsplit, rfl, le_rfl, by simp⟩

/-- A line feed in front ends a line of its own. -/
theorem OnLine.feed (h : OnLine text n line) : OnLine (.char '\n' :: text) (n + 1) (line + 1) := by
  obtain ⟨before, piece, after, hsplit, rfl, hle, hlt⟩ := h
  refine ⟨[] :: before, piece, after, by simp [Text.splitOn, hsplit], rfl, ?_, ?_⟩
  · simp only [List.map_cons, List.sum_cons, List.length_nil]
    omega
  · simp only [List.map_cons, List.sum_cons, List.length_nil]
    omega

/-- Another character in front belongs to the first line. -/
theorem OnLine.cons {c : CodePoint} (hc : c ≠ '\n') (h : OnLine text n line) :
    OnLine (c :: text) (n + 1) line := by
  obtain ⟨before, piece, after, hsplit, rfl, hle, hlt⟩ := h
  obtain ⟨first, others, hsplit', hcons⟩ :=
    Text.splitOn_cons_of_none (p := (· == .char '\n')) (by simpa using hc) text
  rw [hsplit'] at hsplit
  -- The character joins the first line, which is the one of the place or one before it.
  cases before with
  | nil =>
    obtain ⟨rfl, rfl⟩ := List.cons.inj hsplit
    exact ⟨[], c :: first, others, hcons, rfl, Nat.zero_le _, by simpa using hlt⟩
  | cons line before =>
    obtain ⟨rfl, rfl⟩ := List.cons.inj hsplit
    refine ⟨(c :: first) :: before, piece, after, hcons, rfl, ?_, ?_⟩
    · simp only [List.map_cons, List.sum_cons, List.length_cons] at hle ⊢
      omega
    · simp only [List.map_cons, List.sum_cons, List.length_cons] at hlt ⊢
      omega

/-- **The line of a character** that is no line feed is told by the line feeds before it. -/
theorem onLine_lineAt {c : CodePoint} (h : text[n]? = some c) (hc : c ≠ '\n') :
    OnLine text n (lineAt text n) := by
  induction text generalizing n with
  | nil => cases h
  | cons d text ih =>
    cases n with
    | zero =>
      obtain rfl : d = c := Option.some.inj h
      exact onLine_first hc
    | succ n =>
      have hrest : OnLine text n (lineAt text n) := ih h
      by_cases hd : d = '\n'
      · subst hd
        have hline : lineAt (.char '\n' :: text) (n + 1) = lineAt text n + 1 := by
          simp [lineAt, lineFeeds, add_assoc]
        exact hline ▸ hrest.feed
      · have hline : lineAt (d :: text) (n + 1) = lineAt text n := by
          simp [lineAt, lineFeeds, hd]
        exact hline ▸ hrest.cons hd

/-! ## Fields -/

/-- A field says what an occurrence declares, and the line of the name. -/
structure Reports (text : Text) (occurrence : Occurrence) (field : Field) : Prop where
  name : field.name = occurrence.declaration.name
  doc : field.doc = occurrence.declaration.doc
  doc_prefix : field.doc <+: text.drop occurrence.start
  line : ∃ place, text.drop place = occurrence.declaration.fromName ∧
    field.name <+: text.drop place ∧ OnLine text place field.line

theorem reports_field {occurrence : Occurrence}
    (h : Declaration.at? (text.drop occurrence.start) = some occurrence.declaration) :
    Reports text occurrence (occurrence.field text) := by
  have hends := (Declaration.endsIn_of_at? h).trans (List.drop_suffix occurrence.start text)
  obtain ⟨hname, c, hc, hne⟩ := prefix_of_nameAt? (Declaration.nameAt?_of_at? h)
  have hplace : text.drop (text.length - occurrence.declaration.fromName.length) =
      occurrence.declaration.fromName := (List.suffix_iff_eq_drop.1 hends.fromName).symm
  refine ⟨rfl, rfl, Declaration.doc_prefix_of_at? h, _, hplace, ?_, ?_⟩
  · rw [hplace]
    exact hname
  · refine onLine_lineAt ?_ hne
    rw [← List.head?_drop, hplace]
    exact hc

/-- **The fields of a text** are its occurrences at depth one, each with the line of its name. -/
theorem fields_eq_occurrences (text : Text) : ∃ occurrences,
    (∀ candidates, Occurrences text 0 candidates ↔ candidates = occurrences) ∧
      (occurrences.Pairwise fun first second => first.start < second.start) ∧
      List.Forall₂ (Reports text) (occurrences.filter (Occurrence.IsTopLevel text))
        (fieldsFrom 0 0 1 text (blank text)) := by
  obtain ⟨occurrences, h⟩ := exists_occurrences text 0
  refine ⟨occurrences, fun candidates => ⟨fun hcandidates => hcandidates.unique h, ?_⟩,
    h.pairwise_lt, ?_⟩
  · rintro rfl
    exact h
  · have hfields : fieldsFrom 0 0 1 text (blank text) =
        (occurrences.filter (Occurrence.IsTopLevel text)).map (Occurrence.field text) :=
      fieldsAt_eq h (Nat.zero_le _)
    rw [hfields, List.forall₂_map_right_iff, List.forall₂_same]
    intro occurrence hmem
    exact reports_field (h.at?_of_mem (List.mem_of_mem_filter hmem)).2

/-- A brace inside a declaration counts for those behind it. -/
example :
    let text : Text := "class A {/** a */ int a = new B(){int x; /** b */ int b;}; /** c */ int c;}"
    (fieldsFrom 0 0 1 text (blank text)).map Field.name = ["a", "c"] := by
  decide

end DocEnum.Java
