import Mathlib.Data.List.Induction
import Mathlib.Tactic.Linarith
import Scorekeeper.Proofs.Totals.Loose
import Scorekeeper.Proofs.Totals.Settling

set_option autoImplicit false

/-!
# Points on their way up

The roll-up counts the points of categories again in the sums above them.  Counted at the top alone,
what it makes of a base is worth what the base is, less what stands in the base for categories that
sums are formed for.
-/

namespace Scorekeeper

open Exact Relation
open Scope (worthAt worthAt_eq_elim)

namespace Forest

variable {R : Type} {forest : Forest R} {formed ids : List String} {id key : String}

-- No child is listed twice, neither by one parent nor by two.
structure Branching (forest : Forest R) : Prop where
  once : ∀ id, (forest.children id).Nodup
  single : ∀ child parent other, child ∈ forest.children parent →
    child ∈ forest.children other → parent = other

def Outer (forest : Forest R) (formed : List String) (key : String) : Prop :=
  ∀ parent ∈ formed, key ∉ forest.children parent

instance : Decidable (forest.Outer formed key) :=
  inferInstanceAs (Decidable (∀ parent ∈ formed, key ∉ forest.children parent))

theorem outer_concat_iff :
    forest.Outer (formed ++ [id]) key ↔ forest.Outer formed key ∧ key ∉ forest.children id := by
  simp [Outer, or_imp, forall_and]

variable [Scalar R] [Exact R]

/-- The points under the keys that no sum has counted by now. -/
def points (forest : Forest R) (formed : List String) (totals : Table R) : ℚ :=
  totals.worth fun key x => if forest.Outer formed key then value x else 0

theorem value_sumChildren (totals : Table R) (id : String) :
    value (forest.sumChildren totals id) = ((forest.children id).map (worthAt totals)).sum := by
  have sum : value (forest.sumChildren totals id) = _ := value_sum _
  rw [sum, List.map_map]
  rfl

-- A sum takes over the points of its children, and what it had itself is gone.
theorem points_formSum (branching : forest.Branching) (new : id ∉ formed)
    (own : forest.Outer (formed ++ [id]) id) (totals : Table R) :
    forest.points (formed ++ [id]) (forest.formSum totals id) + worthAt totals id =
      forest.points formed totals := by
  have put := Table.worth_put
    (fun key x => if forest.Outer (formed ++ [id]) key then value x else 0) totals id
    (forest.sumChildren totals id)
  simp only [if_pos own, ← worthAt_eq_elim, value_sumChildren] at put
  have children : ((forest.children id).map (worthAt totals)).sum =
      totals.worth fun key x => if key ∈ forest.children id then value x else 0 := by
    rw [Table.worth_among (fun _ x => value x) totals (branching.once id)]
    exact congrArg List.sum (List.map_congr_left fun key _ => worthAt_eq_elim totals key)
  rw [points, points, formSum, put, children, ← Table.worth_add]
  refine congrArg (Table.worth · totals) (funext₂ fun key x => ?_)
  by_cases child : key ∈ forest.children id
  -- No sum before this one has counted the child, which has no other parent.
  · have outer : forest.Outer formed key := fun parent member also =>
      new (branching.single key parent id also child ▸ member)
    rw [if_neg fun outer => (outer_concat_iff.1 outer).2 child, if_pos child, if_pos outer,
      zero_add]
  · simp only [outer_concat_iff, child, not_false_eq_true, and_true, if_false, add_zero]

theorem points_formSums (branching : forest.Branching) (ordered : forest.Ordered ids)
    (apart : ∀ id ∈ ids, id ∉ forest.children id) (base : Table R) :
    forest.points ids (ids.foldl forest.formSum base) + (ids.map (worthAt base)).sum =
      base.worth fun _ x => value x := by
  induction ids using List.reverseRecOn with
  | nil => simp [points, Outer]
  | append_singleton before last ih =>
    obtain ⟨ordered, -, later⟩ := List.pairwise_append.1 ordered
    have after {first : String} (member : first ∈ before) := later first member last (by simp)
    have new : last ∉ before := fun member => (after member).1 rfl
    have own : forest.Outer (before ++ [last]) last :=
      outer_concat_iff.2 ⟨fun first member => (after member).2, apart last (by simp)⟩
    have kept : worthAt (before.foldl forest.formSum base) last = worthAt base last := by
      rw [worthAt, worthAt, get?_formSums_of_not_mem forest base new]
    have step := points_formSum branching new own (before.foldl forest.formSum base)
    have earlier := ih ordered fun id member => apart id (List.mem_append_left _ member)
    rw [kept] at step
    rw [List.foldl_append, List.foldl_cons, List.foldl_nil, List.map_append, List.sum_append,
      List.map_singleton, List.sum_singleton, ← earlier, ← step]
    ring

end Forest

section Categories

variable {R : Type} {categories : List (Category R)}

theorem branching_ofList (distinct : (categories.map Category.id).Nodup) :
    (Forest.ofList categories).Branching where
  once _ := distinct.sublist (List.filter_sublist.map Category.id)
  single _ _ _ below also :=
    under_unique distinct (Forest.mem_children_ofList_iff.1 below)
      (Forest.mem_children_ofList_iff.1 also)

def hasParent (categories : List (Category R)) (id : String) : Bool :=
  categories.any fun category => category.id = id && category.parent?.isSome

theorem hasParent_iff {id : String} :
    hasParent categories id = true ↔ ∃ parent, Under categories id parent := by
  simp only [hasParent, List.any_eq_true, Bool.and_eq_true, decide_eq_true_eq,
    Option.isSome_iff_exists, Under]
  constructor
  · rintro ⟨category, member, same, parent, above⟩
    exact ⟨parent, category, member, same, above⟩
  · rintro ⟨parent, category, member, same, above⟩
    exact ⟨category, member, same, parent, above⟩

def topTotals {A : Type} (categories : List (Category R)) (totals : Table A) : List A :=
  (totals.pairs.filter fun pair => hasParent categories pair.1 = false).map Prod.snd

variable {book : Book R} {session : String} {player : Option String}

def HasEntries (book : Book R) (session : String) (player : Option String) (id : String) : Prop :=
  ∃ entry ∈ playerEntries book session player, entry.category = some id

def looseEntries (book : Book R) (session : String) (player : Option String) : List (Entry R) :=
  (playerEntries book session player).filter fun entry => present entry.category = none

theorem bucket_of_loose {posting : Posting R} (loose : present posting.category = none) :
    posting.bucket = uncategorized := by
  rw [Posting.bucket, loose, Option.getD_none]

variable [Scalar R]

-- With all sums formed, what none of them has counted has no parent.
theorem outer_sums_iff (wellFormed : IsForest categories) {base : Table R} {key : String}
    (kept : key ∈ (nestedTotals categories base).keys) :
    (Forest.ofList categories).Outer ((Forest.ofList categories).sums base.keys) key ↔
      hasParent categories key = false := by
  rw [← Bool.not_eq_true, hasParent_iff]
  refine ⟨?_, fun top parent _ child => top ⟨parent, Forest.mem_children_ofList_iff.1 child⟩⟩
  rintro outer ⟨parent, step⟩
  refine outer parent ((mem_sums_iff wellFormed).2 ⟨⟨key, step⟩, ?_⟩)
    (Forest.mem_children_ofList_iff.2 step)
  by_cases formed : key ∈ (Forest.ofList categories).sums base.keys
  · obtain ⟨-, first, present, ancestor, above, path⟩ := (mem_sums_iff wellFormed).1 formed
    rcases ReflTransGen.cases_head path with rfl | ⟨next, also, path⟩
    · exact ⟨first, present, parent, above.tail step, .refl⟩
    · obtain rfl := under_unique wellFormed.distinct step also
      exact ⟨first, present, ancestor, above, path⟩
  · rw [Table.mem_keys_iff] at kept
    have same : (nestedTotals categories base).get? key = base.get? key :=
      Forest.get?_formSums_of_not_mem _ base formed
    rw [same, ← Table.mem_keys_iff] at kept
    exact ⟨key, kept, parent, .single step, .refl⟩

-- Where no parent has entries, the only ones in the bucket of a sum are those of no category.
theorem loose_of_mem_sums (wellFormed : IsForest categories)
    (leaves : ∀ id, (∃ child, Under categories child id) → ¬ HasEntries book session player id)
    {entry : Entry R} (listed : entry ∈ playerEntries book session player)
    (formed : entry.bucket ∈
      (Forest.ofList categories).sums (baseTotals book session player).keys) :
    present entry.category = none := by
  cases given : present entry.category with
  | none => rfl
  | some id =>
    have bucket : entry.bucket = id := by rw [Posting.bucket, given, Option.getD_some]
    obtain ⟨parent, -⟩ := (mem_sums_iff wellFormed).1 formed
    exact absurd ⟨entry, listed, (Option.filter_eq_some_iff.1 given).1⟩ (leaves id (bucket ▸ parent))

variable [Exact R]

theorem value_topTotals (totals : Table R) :
    value (Scalar.sum (topTotals categories totals)) =
      totals.worth fun key x => if hasParent categories key = false then value x else 0 := by
  rw [value_sum, topTotals, List.map_map, Table.worth, List.sum_map_ite, List.map_const',
    List.sum_replicate, nsmul_zero, add_zero]
  rfl

-- What the base has under the keys of sums does not get to the top.
theorem value_topTotals_nested (wellFormed : IsForest categories) (base : Table R) :
    value (Scalar.sum (topTotals categories (nestedTotals categories base))) =
      base.worth fun key x =>
        if key ∉ (Forest.ofList categories).sums base.keys then value x else 0 := by
  have counted := Forest.points_formSums (branching_ofList wellFormed.distinct)
    (ordered_sums_ofList wellFormed.distinct base.keys) (apart_of_mem_sums wellFormed.distinct) base
  have top : value (Scalar.sum (topTotals categories (nestedTotals categories base))) =
      (Forest.ofList categories).points ((Forest.ofList categories).sums base.keys)
        (nestedTotals categories base) := by
    rw [value_topTotals]
    refine congrArg List.sum (List.map_congr_left fun pair member => ?_)
    have kept : pair.1 ∈ (nestedTotals categories base).keys := List.mem_map_of_mem member
    simp only [outer_sums_iff wellFormed kept]
  have replaced : (((Forest.ofList categories).sums base.keys).map (worthAt base)).sum =
      base.worth fun key x =>
        if key ∈ (Forest.ofList categories).sums base.keys then value x else 0 := by
    rw [Table.worth_among (fun _ x => value x) base (nodup_sums_ofList wellFormed.distinct _)]
    exact congrArg List.sum (List.map_congr_left fun key _ => worthAt_eq_elim base key)
  refine top.trans (add_right_cancel (counted.trans ?_))
  rw [replaced, ← Table.worth_add]
  refine congrArg (Table.worth · base) (funext₂ fun key x => ?_)
  by_cases formed : key ∈ (Forest.ofList categories).sums base.keys <;> simp [formed]

theorem worth_addToTotals (counts : String → Prop) [DecidablePred counts] (totals : Table R)
    (entry : Entry R) :
    (addToTotals totals entry).worth (fun key x => if counts key then value x else 0) =
      totals.worth (fun key x => if counts key then value x else 0) +
        if counts entry.bucket then value entry.value else 0 := by
  have put := Table.worth_put (fun key x => if counts key then value x else 0) totals entry.bucket
    ((totals.get? entry.bucket).getD Scalar.zero + entry.value)
  rw [addToTotals]
  by_cases counted : counts entry.bucket
  · simp only [if_pos counted, ← worthAt_eq_elim] at put ⊢
    rw [value_add, ← worthAt] at put
    linarith
  · have nothing : (totals.get? entry.bucket).elim (0 : ℚ) (fun _ => 0) = 0 := by
      cases totals.get? entry.bucket <;> rfl
    simpa only [if_neg counted, nothing, add_zero] using put

theorem worth_foldl_addToTotals (counts : String → Prop) [DecidablePred counts]
    (totals : Table R) (entries : List (Entry R)) :
    (entries.foldl addToTotals totals).worth (fun key x => if counts key then value x else 0) =
      totals.worth (fun key x => if counts key then value x else 0) +
        ((entries.filter fun entry => counts entry.bucket).map fun entry =>
          value entry.value).sum := by
  induction entries generalizing totals with
  | nil => simp
  | cons entry rest ih =>
    rw [List.foldl_cons, ih, worth_addToTotals, add_assoc]
    by_cases counted : counts entry.bucket <;> simp [counted]

theorem value_sum_values (entries : List (Entry R)) :
    value (Scalar.sum (entries.map (·.value))) = (entries.map fun entry => value entry.value).sum := by
  rw [value_sum, List.map_map]
  rfl

theorem sum_topTotals (wellFormed : IsForest categories) :
    Scalar.sum (topTotals categories (nestedTotals categories (baseTotals book session player))) =
      Scalar.sum (((playerEntries book session player).filter fun entry => entry.bucket ∉
        (Forest.ofList categories).sums (baseTotals book session player).keys).map (·.value)) := by
  apply value_injective
  rw [value_topTotals_nested wellFormed, value_sum_values, baseTotals, worth_foldl_addToTotals]
  exact zero_add _

theorem sum_topTotals_of_not_swept (wellFormed : IsForest categories)
    (leaves : ∀ id, (∃ child, Under categories child id) → ¬ HasEntries book session player id)
    (kept : ¬ Swept categories (baseTotals book session player).keys uncategorized) :
    Scalar.sum (topTotals categories (nestedTotals categories (baseTotals book session player))) =
      Scalar.sum ((playerEntries book session player).map (·.value)) := by
  rw [sum_topTotals wellFormed, List.filter_eq_self.2 fun entry listed => ?_]
  refine decide_eq_true fun formed => kept ((mem_sums_iff wellFormed).1 ?_)
  rwa [← bucket_of_loose (loose_of_mem_sums wellFormed leaves listed formed)]

theorem sum_topTotals_of_swept (wellFormed : IsForest categories)
    (leaves : ∀ id, (∃ child, Under categories child id) → ¬ HasEntries book session player id)
    (swept : Swept categories (baseTotals book session player).keys uncategorized) :
    Scalar.sum (topTotals categories (nestedTotals categories (baseTotals book session player))) +
        Scalar.sum ((looseEntries book session player).map (·.value)) =
      Scalar.sum ((playerEntries book session player).map (·.value)) := by
  have named : (playerEntries book session player).filter (fun entry => entry.bucket ∉
      (Forest.ofList categories).sums (baseTotals book session player).keys) =
        (playerEntries book session player).filter fun entry =>
          ¬ present entry.category = none := by
    refine List.filter_congr fun entry listed => decide_eq_decide.2 (not_congr ⟨?_, fun loose => ?_⟩)
    · exact loose_of_mem_sums wellFormed leaves listed
    · exact bucket_of_loose loose ▸ (mem_sums_iff wellFormed).2 swept
  apply value_injective
  rw [sum_topTotals wellFormed, named, value_add, value_sum_values, value_sum_values,
    value_sum_values, looseEntries, add_comm, List.sum_map_filter_add_sum_map_filter_not]

/-- No entry is lost, and none is counted twice, on the way to the tops of a forest, unless what has
no category shares its bucket with a category that is rolled up. -/
theorem sum_topTotals_eq_sum_entries_iff (wellFormed : IsForest categories)
    (leaves : ∀ id, (∃ child, Under categories child id) → ¬ HasEntries book session player id) :
    Scalar.sum (topTotals categories (nestedTotals categories (baseTotals book session player))) =
        Scalar.sum ((playerEntries book session player).map (·.value)) ↔
      (Swept categories (baseTotals book session player).keys uncategorized →
        Scalar.sum ((looseEntries book session player).map (·.value)) = Scalar.zero) := by
  constructor
  · intro conserved swept
    have short := sum_topTotals_of_swept wellFormed leaves swept
    rw [← conserved, ← value_inj, value_add, add_eq_left] at short
    rw [← value_inj, short, value_zero]
  · intro weightless
    by_cases swept : Swept categories (baseTotals book session player).keys uncategorized
    · have short := sum_topTotals_of_swept wellFormed leaves swept
      rw [weightless swept, ← value_inj, value_add, value_zero, add_zero] at short
      exact value_injective short
    · exact sum_topTotals_of_not_swept wellFormed leaves swept

end Categories

def branch (id : String) (parentId : Option String) : Category ℚ :=
  ⟨id, "s", id, .sum, parentId, none, none, 0⟩

-- A root with a branch of two categories, one of a single category, and one without entries.
def branches : List (Category ℚ) :=
  [branch "a" none, branch "b" (some "a"), branch "c" (some "b"), branch "d" (some "a"),
    branch "e" (some "a"), branch "f" (some "e")]

def filed (id : String) (category : Option String) (value : ℚ) : String × Entry ℚ :=
  (id, ⟨⟨"s", some "p", value, 0, category, none, none, .manual⟩, id⟩)

def filedBook : Book ℚ :=
  { Book.empty with
    entries := Table.ofList [filed "1" (some "c") 2, filed "2" (some "d") 3, filed "3" none 5,
      filed "4" (some "lost") 7, filed "5" (some "c") (-1)] }

theorem under_branches_iff {child parent : String} :
    Under branches child parent ↔
      child = "b" ∧ parent = "a" ∨ child = "c" ∧ parent = "b" ∨ child = "d" ∧ parent = "a" ∨
      child = "e" ∧ parent = "a" ∨ child = "f" ∧ parent = "e" := by
  simp [Under, branches, branch, Category.parent?, present, Option.filter,
    @eq_comm _ _ child, @eq_comm _ _ parent]

theorem isForest_branches : IsForest branches where
  distinct := by decide
  defined child parent step := by
    rcases under_branches_iff.1 step with ⟨-, rfl⟩ | ⟨-, rfl⟩ | ⟨-, rfl⟩ | ⟨-, rfl⟩ | ⟨-, rfl⟩ <;>
      decide
  acyclic := by
    refine not_below_self_of_rank
      (fun id => if id = "a" then 0 else if id = "c" ∨ id = "f" then 2 else 1) ?_
    intro child parent step
    rcases under_branches_iff.1 step with
      ⟨rfl, rfl⟩ | ⟨rfl, rfl⟩ | ⟨rfl, rfl⟩ | ⟨rfl, rfl⟩ | ⟨rfl, rfl⟩ <;> decide

theorem sum_topTotals_branches :
    IsForest branches ∧
    (∀ id, (∃ child, Under branches child id) → ¬ HasEntries filedBook "s" (some "p") id) ∧
    Scalar.sum (topTotals branches
      (nestedTotals branches (baseTotals filedBook "s" (some "p")))) = (16 : ℚ) := by
  have leaves (id : String) (parent : ∃ child, Under branches child id) :
      ¬ HasEntries filedBook "s" (some "p") id := by
    rintro ⟨entry, member, named⟩
    obtain ⟨child, step⟩ := parent
    have others : ∀ entry ∈ playerEntries filedBook "s" (some "p"),
        entry.category ∉ [some "a", some "b", some "e"] := by decide +kernel
    refine others entry member ?_
    rcases under_branches_iff.1 step with
      ⟨-, rfl⟩ | ⟨-, rfl⟩ | ⟨-, rfl⟩ | ⟨-, rfl⟩ | ⟨-, rfl⟩ <;> simp [named]
  have childless : ¬ ∃ child, Under branches child uncategorized := by
    simp [under_branches_iff, uncategorized]
  refine ⟨isForest_branches, leaves, ?_⟩
  rw [(sum_topTotals_eq_sum_entries_iff isForest_branches leaves).2 fun swept =>
    absurd swept.1 childless]
  decide +kernel

-- A category with the id of the bucket of what has no category, and one below it.
def shadowed : List (Category ℚ) :=
  [branch uncategorized none, branch "x" (some uncategorized)]

def shadowedBook : Book ℚ :=
  { Book.empty with entries := Table.ofList [filed "1" none 5, filed "2" (some "x") 1] }

theorem under_shadowed_iff {child parent : String} :
    Under shadowed child parent ↔ child = "x" ∧ parent = uncategorized := by
  simp [Under, shadowed, branch, Category.parent?, present, Option.filter, uncategorized,
    @eq_comm _ _ child, @eq_comm _ _ parent]

theorem isForest_shadowed : IsForest shadowed where
  distinct := by decide
  defined child parent step := by
    obtain ⟨-, rfl⟩ := under_shadowed_iff.1 step
    decide
  acyclic := by
    refine not_below_self_of_rank (fun id => if id = "x" then 1 else 0) fun child parent step => ?_
    obtain ⟨rfl, rfl⟩ := under_shadowed_iff.1 step
    decide

theorem sum_topTotals_ne_sum_entries : ¬ ∀ (categories : List (Category ℚ)) (book : Book ℚ)
    (session : String) (player : Option String), IsForest categories →
      (∀ id, (∃ child, Under categories child id) → ¬ HasEntries book session player id) →
      Scalar.sum (topTotals categories
          (nestedTotals categories (baseTotals book session player))) =
        Scalar.sum ((playerEntries book session player).map (·.value)) := by
  intro conserved
  have leaves (id : String) (parent : ∃ child, Under shadowed child id) :
      ¬ HasEntries shadowedBook "s" (some "p") id := by
    rintro ⟨entry, member, named⟩
    obtain ⟨child, step⟩ := parent
    obtain ⟨-, rfl⟩ := under_shadowed_iff.1 step
    have others : ∀ entry ∈ playerEntries shadowedBook "s" (some "p"),
        entry.category ≠ some uncategorized := by decide +kernel
    exact others entry member named
  have swept : Swept shadowed (baseTotals shadowedBook "s" (some "p")).keys uncategorized :=
    ⟨⟨"x", under_shadowed_iff.2 ⟨rfl, rfl⟩⟩, "x", by decide +kernel, uncategorized,
      .single (under_shadowed_iff.2 ⟨rfl, rfl⟩), .refl⟩
  have short := sum_topTotals_of_swept isForest_shadowed leaves swept
  rw [conserved shadowed shadowedBook "s" (some "p") isForest_shadowed leaves] at short
  revert short
  decide +kernel

end Scorekeeper
