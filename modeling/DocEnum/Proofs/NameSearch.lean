import Mathlib
import DocEnum.Proofs.Listing

/-!
# The search for a free name

How a name is made distinct turn by turn, and names one after another.

**The search** (`search`). It looks at the name itself and then at the names with the numbers from 2
on, as long as what it looks at is used. Nothing bounds its turns, so that its result is partial.

**It ends** (`Search.ends`). Names with different numbers differ, so that from any number on there
is a free one. Each turn brings the search closer to it.

**Its result** (`Search.Standing`). Every turn keeps that the name and all smaller numbers are used.
So a search that ends has found the name that is made distinct, which is the one that `fresh` gives
(`search_eq_fresh`).

**Names in turn** (`freshAll_concat`). One more name is made distinct from the names that were used
at first and from all results. Each step keeps the results distinct, and so does the whole run.

Main result: `names_made_distinct`. The names of a comment's entries are an instance
(`names_parse`).
-/

namespace DocEnum

namespace ConstantName

open StateTransition (Reaches eval mem_eval)

variable {used used' : List Text} {name : Text}

/-! ## The search -/

/-- Where a search stands: what it looks at, and the number of the name that comes next. -/
structure Search where
  candidate : Text
  number : Nat

namespace Search

/-- A search starts with the name itself. -/
def start (name : Text) : Search :=
  ⟨name, 2⟩

/-- What comes next, whether it is needed or not. -/
def following (name : Text) (s : Search) : Search :=
  ⟨numbered name s.number, s.number + 1⟩

/-- A turn is taken as long as the candidate is used. -/
def turn? (used : List Text) (name : Text) (s : Search) : Option Search :=
  if s.candidate ∈ used then some (s.following name) else none

variable {s s' : Search}

theorem turn?_eq_some_iff :
    turn? used name s = some s' ↔ s.candidate ∈ used ∧ s.following name = s' := by
  simp [turn?]

theorem turn?_eq_none_iff : turn? used name s = none ↔ s.candidate ∉ used := by
  simp [turn?]

/-! ## The search ends -/

/-- Going on from `s` leads to a free candidate. -/
def Ends (used : List Text) (name : Text) (s : Search) : Prop :=
  ∃ last, Reaches (turn? used name) s last ∧ last.candidate ∉ used

theorem Ends.of_following (h : Ends used name (s.following name)) : Ends used name s := by
  by_cases hused : s.candidate ∈ used
  · obtain ⟨last, hreaches, hfree⟩ := h
    exact ⟨last, .head (turn?_eq_some_iff.2 ⟨hused, rfl⟩) hreaches, hfree⟩
  · exact ⟨s, .refl, hused⟩

/-- A search ends if one of the numbers ahead of it is free. -/
theorem Ends.of_free {d : Nat} (hfree : numbered name (s.number + d) ∉ used) :
    Ends used name s := by
  induction d generalizing s with
  | zero => exact .of_following ⟨s.following name, .refl, hfree⟩
  | succ d ih =>
    have hahead : numbered name ((s.following name).number + d) ∉ used := by
      rwa [following, Nat.add_assoc, Nat.add_comm 1 d]
    exact .of_following (ih hahead)

/-- **Every search ends**, from whatever state it goes on. -/
theorem ends (used : List Text) (name : Text) (s : Search) : Ends used name s := by
  obtain ⟨d, -, hfree⟩ := exists_free used name s.number
  exact .of_free hfree

/-! ## The result of the search -/

/-- The states of a search that has found all candidates before the present one used. -/
inductive Standing (used : List Text) (name : Text) : Search → Prop
  | first : Standing used name (start name)
  | later {k : Nat} : name ∈ used → 2 ≤ k → (∀ j, 2 ≤ j → j < k → numbered name j ∈ used) →
      Standing used name ⟨numbered name k, k + 1⟩

namespace Standing

/-- **Every turn keeps it**: the candidate that is left behind is used. -/
theorem turn (h : Standing used name s) (hturn : turn? used name s = some s') :
    Standing used name s' := by
  obtain ⟨hused, rfl⟩ := turn?_eq_some_iff.1 hturn
  cases h with
  | first => exact .later hused le_rfl fun j hj hlt => absurd hj (Nat.not_le.2 hlt)
  | @later k hname hk hbefore =>
    refine .later hname (Nat.le_succ_of_le hk) fun j hj hlt => ?_
    rcases Nat.lt_succ_iff_lt_or_eq.1 hlt with hlt | rfl
    · exact hbefore j hj hlt
    · exact hused

theorem of_reaches (h : Reaches (turn? used name) (start name) s) : Standing used name s := by
  induction h with
  | refl => exact .first
  | tail _ hturn ih => exact ih.turn hturn

/-- A free candidate is the name made distinct. -/
theorem madeDistinct (h : Standing used name s) (hfree : s.candidate ∉ used) :
    MadeDistinct used name s.candidate := by
  rw [MadeDistinct]
  cases h with
  | first =>
    have hname : name ∉ used := hfree
    rw [if_neg hname]
    rfl
  | @later k hname hk hbefore =>
    rw [if_pos hname]
    exact ⟨k, hk, rfl, hfree, hbefore⟩

end Standing

end Search

/-- What the search for a free name finds, if it ends. -/
def search (used : List Text) (name : Text) : Part Text :=
  (eval (Search.turn? used name) (Search.start name)).map Search.candidate

/-- **The search ends, and `fresh` is its result**: the bound on the turns of `fresh` never cuts the
search off. -/
theorem search_eq_fresh (used : List Text) (name : Text) :
    search used name = Part.some (fresh used name) := by
  obtain ⟨last, hreaches, hfree⟩ := Search.ends used name (Search.start name)
  have hend : last ∈ eval (Search.turn? used name) (Search.start name) :=
    mem_eval.2 ⟨hreaches, Search.turn?_eq_none_iff.2 hfree⟩
  have hcandidate : last.candidate = fresh used name :=
    ((Search.Standing.of_reaches hreaches).madeDistinct hfree).unique (madeDistinct_fresh used name)
  rw [search, Part.eq_some_iff.2 hend, Part.map_some, hcandidate]

/-! ## Names in turn -/

theorem fresh_not_mem (used : List Text) (name : Text) : fresh used name ∉ used :=
  (madeDistinct_fresh used name).not_mem

/-- Used names are a set: their order and how often they occur do not matter. -/
theorem fresh_congr (h : ∀ other, other ∈ used ↔ other ∈ used') (name : Text) :
    fresh used name = fresh used' name := by
  have hdistinct := madeDistinct_fresh used name
  simp only [MadeDistinct, h] at hdistinct
  exact MadeDistinct.unique hdistinct (madeDistinct_fresh used' name)

/-- **The step.** One more name is made distinct from the used names and from all results. -/
theorem freshAll_concat (used names : List Text) (name : Text) :
    freshAll used (names ++ [name]) =
      freshAll used names ++ [fresh (used ++ freshAll used names) name] := by
  induction names generalizing used with
  | nil => simp [freshAll]
  | cons first names ih =>
    simp only [List.cons_append, freshAll, ih]
    -- The first result stands before the used names on one side and behind them on the other.
    rw [fresh_congr fun _ => List.perm_middle.mem_iff]

theorem length_freshAll (used names : List Text) : (freshAll used names).length = names.length := by
  induction names generalizing used with
  | nil => rfl
  | cons name names ih => simp [freshAll, ih]

/-- **The run.** The results are distinct from each other and from the names used at first. -/
theorem freshAll_distinct (used names : List Text) :
    (freshAll used names).Nodup ∧ (freshAll used names).Disjoint used := by
  induction names using List.reverseRecOn with
  | nil => simp [freshAll]
  | append_singleton names name ih =>
    obtain ⟨hnodup, hdisjoint⟩ := ih
    have hnew := fresh_not_mem (used ++ freshAll used names) name
    rw [List.mem_append, not_or] at hnew
    rw [freshAll_concat, List.disjoint_append_left]
    exact ⟨hnodup.append (List.nodup_singleton _) (List.disjoint_singleton.2 hnew.2),
      hdisjoint, List.singleton_disjoint.2 hnew.1⟩

/-- **Names are made distinct.** The search for a free name ends, whatever names are used. What it
finds is not used: it is the name itself, or the name with the least number from 2 on that is free.
Names that are searched for in turn, each after the results so far, get results that are distinct
from each other and from the names used at first. -/
theorem names_made_distinct (used : List Text) :
    (∀ name, search used name = Part.some (fresh used name) ∧ fresh used name ∉ used ∧
      MadeDistinct used name (fresh used name)) ∧
    ∀ names,
      ((freshAll used names).length = names.length ∧
        ∀ name, freshAll used (names ++ [name]) =
          freshAll used names ++ [fresh (used ++ freshAll used names) name]) ∧
      (freshAll used names).Nodup ∧ (freshAll used names).Disjoint used :=
  ⟨fun name => ⟨search_eq_fresh used name, fresh_not_mem used name, madeDistinct_fresh used name⟩,
    fun names => ⟨⟨length_freshAll used names, freshAll_concat used names⟩,
      freshAll_distinct used names⟩⟩

end ConstantName

/-! ## Names of entries -/

/-- **The names of a comment's entries** are those of their descriptions, made distinct in turn. -/
theorem Entry.names_parse (raw : Text) :
    (parse raw).map name = ConstantName.freshAll [] ((parse raw).map fun entry =>
      ConstantName.derive entry.description entry.code) := by
  refine parse_induct (motive := fun _ entries => entries.map name =
    ConstantName.freshAll [] (entries.map fun entry =>
      ConstantName.derive entry.description entry.code)) rfl ?_ raw
  intro _ accepted segment ih
  cases hverdict : (judge accepted segment).accepted? with
  | none => simpa using ih
  | some entry =>
    obtain ⟨code, body, -, -, -, hcode, hdescription, hname⟩ :=
      accepted?_judge_eq_some_iff.1 hverdict
    rw [← hdescription, ← hcode] at hname
    have hfresh := hname.unique (ConstantName.madeDistinct_fresh _ _)
    simp only [Option.toList_some, List.map_append, List.map_singleton]
    rw [ConstantName.freshAll_concat, ← ih, List.nil_append, hfresh]

end DocEnum
