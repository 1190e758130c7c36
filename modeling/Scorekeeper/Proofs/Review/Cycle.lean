import Mathlib.Data.List.Chain
import Mathlib.Data.List.Rotate
import Scorekeeper.Proofs.Totals.Ancestry

set_option autoImplicit false

/-!
# Cycles of parents

Where ids are distinct a category has one parent at most, so what stands above a category on a cycle
stands below it too, and two cycles that meet are the same but for where they start.
-/

namespace Scorekeeper

open Relation

variable {R : Type} {categories : List (Category R)}

/-- Ids along the parents, each once, the last with the first as its parent. -/
structure IsCycle (categories : List (Category R)) (cycle : List String) : Prop where
  nonempty : cycle ≠ []
  distinct : cycle.Nodup
  closed : (cycle ++ cycle.take 1).IsChain (Under categories)

theorem mem_ids_of_under {child parent : String} (above : Under categories child parent) :
    child ∈ categories.map Category.id := by
  obtain ⟨category, member, rfl, -⟩ := above
  exact List.mem_map_of_mem member

theorem mem_ids_of_below {id above : String} (path : Below categories id above) :
    id ∈ categories.map Category.id := by
  obtain ⟨parent, step, -⟩ := TransGen.head'_iff.1 path
  exact mem_ids_of_under step

theorem below_of_reached (distinct : (categories.map Category.id).Nodup) {start id : String}
    (loop : Below categories start start) (path : ReflTransGen (Under categories) start id) :
    Below categories id start := by
  induction path with
  | refl => exact loop
  | tail _ step ih =>
    obtain ⟨parent, first, rest⟩ := TransGen.head'_iff.1 ih
    rw [under_unique distinct step first]
    exact TransGen.trans_right rest loop

theorem below_of_isChain {first last : String} {between : List String}
    (chain : (first :: (between ++ [last])).IsChain (Under categories)) :
    Below categories first last := by
  induction between generalizing first with
  | nil => exact .single (List.isChain_pair.1 chain)
  | cons next rest ih =>
    obtain ⟨step, chain⟩ := List.isChain_cons_cons.1 chain
    exact .head step (ih chain)

namespace IsCycle

variable {cycle other : List String} {id : String}

theorem swap {left right : List String} (isCycle : IsCycle categories (left ++ right)) :
    IsCycle categories (right ++ left) := by
  have closed := isCycle.closed
  refine ⟨?_, ?_, ?_⟩
  · simpa [and_comm] using isCycle.nonempty
  · exact List.nodup_append_comm.1 isCycle.distinct
  cases left with
  | nil => simpa using closed
  | cons first left =>
    cases right with
    | nil => simpa using closed
    | cons second right =>
      -- The two parts of the way around, each up to where the other begins.
      have around : (first :: left ++ [second] ++ (right ++ [first])).IsChain (Under categories) := by
        simpa using closed
      have before : ([first] ++ (left ++ [second])).IsChain (Under categories) := by
        simpa using around.left_of_append
      have after : (second :: right ++ [first]).IsChain (Under categories) := by
        rw [List.append_assoc] at around
        simpa using around.right_of_append
      have joined := after.append_overlap before (by simp)
      simpa using joined

theorem exists_cons (isCycle : IsCycle categories cycle) (member : id ∈ cycle) :
    ∃ rest, (id :: rest) ~r cycle ∧ IsCycle categories (id :: rest) := by
  obtain ⟨left, right, rfl⟩ := List.append_of_mem member
  have rotated : (id :: right) ++ left ~r left ++ (id :: right) := List.isRotated_append
  exact ⟨right ++ left, rotated, isCycle.swap⟩

theorem below_self (isCycle : IsCycle categories cycle) (member : id ∈ cycle) :
    Below categories id id := by
  obtain ⟨rest, -, started⟩ := isCycle.exists_cons member
  exact below_of_isChain (by simpa using started.closed)

theorem mem_ids (isCycle : IsCycle categories cycle) (member : id ∈ cycle) :
    id ∈ categories.map Category.id :=
  mem_ids_of_below (isCycle.below_self member)

theorem mem_of_under (isCycle : IsCycle categories cycle)
    (distinct : (categories.map Category.id).Nodup) {parent : String} (member : id ∈ cycle)
    (above : Under categories id parent) : parent ∈ cycle := by
  obtain ⟨rest, rotated, started⟩ := isCycle.exists_cons member
  rw [← rotated.mem_iff]
  have closed := started.closed
  cases rest with
  | nil => simp [under_unique distinct above (List.isChain_pair.1 closed)]
  | cons next rest =>
    have step := (List.isChain_cons_cons.1 closed).1
    simp [under_unique distinct above step]

theorem mem_of_reached (isCycle : IsCycle categories cycle)
    (distinct : (categories.map Category.id).Nodup) {start : String} (member : start ∈ cycle)
    (path : ReflTransGen (Under categories) start id) : id ∈ cycle := by
  induction path with
  | refl => exact member
  | tail _ step ih => exact isCycle.mem_of_under distinct ih step

theorem rest_unique (distinct : (categories.map Category.id).Nodup) {last : String}
    {left right : List String} (leftNew : last ∉ left) (rightNew : last ∉ right)
    (leftChain : (id :: (left ++ [last])).IsChain (Under categories))
    (rightChain : (id :: (right ++ [last])).IsChain (Under categories)) : left = right := by
  induction left generalizing id right with
  | nil =>
    cases right with
    | nil => rfl
    | cons next right =>
      have same := under_unique distinct (List.isChain_pair.1 leftChain)
        (List.isChain_cons_cons.1 rightChain).1
      exact absurd (same ▸ List.mem_cons_self) rightNew
  | cons first left ih =>
    obtain ⟨step, leftChain⟩ := List.isChain_cons_cons.1 leftChain
    cases right with
    | nil =>
      have same := under_unique distinct (List.isChain_pair.1 rightChain) step
      exact absurd (same ▸ List.mem_cons_self) leftNew
    | cons next right =>
      obtain ⟨also, rightChain⟩ := List.isChain_cons_cons.1 rightChain
      obtain rfl := under_unique distinct step also
      rw [ih (fun old => leftNew (List.mem_cons_of_mem _ old))
        (fun old => rightNew (List.mem_cons_of_mem _ old)) leftChain rightChain]

theorem isRotated (isCycle : IsCycle categories cycle) (also : IsCycle categories other)
    (distinct : (categories.map Category.id).Nodup) (member : id ∈ cycle) (shared : id ∈ other) :
    cycle ~r other := by
  obtain ⟨left, leftRotated, leftCycle⟩ := isCycle.exists_cons member
  obtain ⟨right, rightRotated, rightCycle⟩ := also.exists_cons shared
  have same : left = right :=
    rest_unique distinct (List.nodup_cons.1 leftCycle.distinct).1
      (List.nodup_cons.1 rightCycle.distinct).1 (by simpa using leftCycle.closed)
      (by simpa using rightCycle.closed)
  exact leftRotated.symm.trans (same ▸ rightRotated)

end IsCycle

end Scorekeeper
