import Scorekeeper.Proofs.Totals.Rollup

set_option autoImplicit false

namespace Scorekeeper

open Relation

namespace Forest

variable {R : Type} {forest : Forest R} {visited : List String} {visits : List Visit} {id : String}

theorem exists_order_append (visited : List String) (visits later : List Visit) :
    ∃ seen, (∀ id ∈ visited, id ∈ seen) ∧
      (∀ id ∈ forest.order visited visits, id ∈ seen ∨ Visit.leave id ∈ visits) ∧
      forest.order visited (visits ++ later) =
        forest.order visited visits ++ forest.order seen later := by
  fun_induction order forest visited visits with
  | case1 visited => exact ⟨visited, fun _ member => member, by simp, rfl⟩
  | case2 visited top rest ih =>
    obtain ⟨seen, kept, found, same⟩ := ih
    refine ⟨seen, kept, fun id member => ?_, by rw [List.cons_append, order, same, List.cons_append]⟩
    rcases List.mem_cons.1 member with rfl | lower
    · exact .inr List.mem_cons_self
    · exact (found id lower).imp_right (List.mem_cons_of_mem _)
  | case3 visited top rest skip ih =>
    obtain ⟨seen, kept, found, same⟩ := ih
    refine ⟨seen, kept, fun id member => ?_, by rw [List.cons_append, order, dif_pos skip, same]⟩
    exact (found id member).imp_right (List.mem_cons_of_mem _)
  | case4 visited top rest new ih =>
    obtain ⟨seen, kept, found, same⟩ := ih
    refine ⟨seen, fun id member => kept id (List.mem_cons_of_mem top member), fun id member => ?_, ?_⟩
    · rcases found id member with old | pending
      · exact .inl old
      · rcases leave_mem_below_iff.1 pending with rfl | lower
        · exact .inl (kept id List.mem_cons_self)
        · exact .inr (List.mem_cons_of_mem _ lower)
    · rw [List.cons_append, order, dif_neg new, ← same, List.append_assoc, List.cons_append]

theorem new_of_mem_order (member : id ∈ forest.order visited visits) :
    id ∉ visited ∨ Visit.leave id ∈ visits := by
  fun_induction order forest visited visits with
  | case1 => simp at member
  | case2 visited top rest ih =>
    rcases List.mem_cons.1 member with rfl | lower
    · exact .inr List.mem_cons_self
    · exact (ih lower).imp_right (List.mem_cons_of_mem _)
  | case3 visited top rest skip ih => exact (ih member).imp_right (List.mem_cons_of_mem _)
  | case4 visited top rest new ih =>
    rcases ih member with fresh | pending
    · exact .inl fun old => fresh (List.mem_cons_of_mem top old)
    · rcases leave_mem_below_iff.1 pending with rfl | lower
      · exact .inl fun old => new (.inl old)
      · exact .inr (List.mem_cons_of_mem _ lower)

theorem exists_sums_append (forest : Forest R) (keys more : List String) :
    ∃ others, forest.sums (keys ++ more) = forest.sums keys ++ others ∧
      ∀ id ∈ forest.sums keys, id ∉ others := by
  obtain ⟨seen, -, found, same⟩ := forest.exists_order_append []
    ((keys.flatMap forest.ancestors).map Visit.enter)
    ((more.flatMap forest.ancestors).map Visit.enter)
  refine ⟨_, by rw [sums, List.flatMap_append, List.map_append, same, sums], fun id member => ?_⟩
  have old : id ∈ seen := (found id member).resolve_right (by simp)
  exact fun again => (new_of_mem_order again).elim (· old) (by simp)

variable {A : Type} [Scalar R] [Amount R A]

-- Two tables that are alike on a region closed under children.
structure Alike (forest : Forest R) (region : String → Prop) (left right : Table A) : Prop where
  children : ∀ id, region id → ∀ child ∈ forest.children id, region child
  totals : ∀ id, region id → left.get? id = right.get? id

variable {region : String → Prop} {left right : Table A} {top : String}

theorem sumChildren_congr
    (same : ∀ child ∈ forest.children top, left.get? child = right.get? child) :
    forest.sumChildren left top = forest.sumChildren right top := by
  rw [Forest.sumChildren, Forest.sumChildren]
  refine congrArg _ (List.map_congr_left fun child member => ?_)
  rw [same child member]

theorem Alike.sumChildren (alike : forest.Alike region left right)
    (below : ∀ child ∈ forest.children top, region child) :
    forest.sumChildren left top = forest.sumChildren right top :=
  sumChildren_congr fun child member => alike.totals child (below child member)

theorem Alike.formSum (alike : forest.Alike region left right) (top : String) :
    forest.Alike region (forest.formSum left top) (forest.formSum right top) where
  children := alike.children
  totals id inside := by
    rw [Forest.formSum, Forest.formSum, Table.get?_put, Table.get?_put]
    by_cases same : id = top
    · rw [if_pos same, if_pos same, alike.sumChildren (same ▸ alike.children id inside)]
    · rw [if_neg same, if_neg same, alike.totals id inside]

theorem Alike.formSums (alike : forest.Alike region left right) (ids : List String) :
    forest.Alike region (ids.foldl forest.formSum left) (ids.foldl forest.formSum right) := by
  induction ids generalizing left right with
  | nil => exact alike
  | cons first rest ih => exact ih (alike.formSum first)

theorem Alike.get?_formSums (alike : forest.Alike region left right)
    (below : ∀ child ∈ forest.children top, region child) {ids : List String}
    (formed : top ∈ ids ∨ left.get? top = right.get? top) :
    (ids.foldl forest.formSum left).get? top = (ids.foldl forest.formSum right).get? top := by
  induction ids generalizing left right with
  | nil => exact formed.resolve_left (List.not_mem_nil)
  | cons first rest ih =>
    refine ih (alike.formSum first) ?_
    rw [Forest.formSum, Forest.formSum, Table.get?_put, Table.get?_put]
    by_cases same : top = first
    · subst same
      rw [if_pos rfl, if_pos rfl, alike.sumChildren below]
      exact .inr rfl
    · rw [if_neg same, if_neg same]
      exact formed.imp_left fun member => (List.mem_cons.1 member).resolve_left same

end Forest

variable {R A : Type} {categories : List (Category R)} {bucket : String} (base : Table A)
  (amount : A)

theorem not_below_of_isSum (distinct : (categories.map Category.id).Nodup) {id : String}
    (sum : (Forest.ofList categories).isSum id = true) : ¬ Below categories id id :=
  ((Forest.isSum_ofList_iff distinct).1 sum).2

theorem exists_sums_put (forest : Forest R) (bucket : String) :
    ∃ others, forest.sums (base.put bucket amount).keys = forest.sums base.keys ++ others ∧
      (∀ id ∈ forest.sums base.keys, id ∉ others) ∧ (bucket ∈ base.keys → others = []) := by
  rw [Table.keys_put]
  by_cases known : bucket ∈ base.keys
  · exact ⟨[], by rw [if_pos known, List.append_nil], by simp, fun _ => rfl⟩
  · obtain ⟨others, same, apart⟩ := forest.exists_sums_append base.keys [bucket]
    exact ⟨others, by rw [if_neg known, same], apart, fun present => absurd present known⟩

theorem alike_put_below (distinct : (categories.map Category.id).Nodup)
    (sum : (Forest.ofList categories).isSum bucket = true) :
    (Forest.ofList categories).Alike (fun id => Below categories id bucket)
      (base.put bucket amount) base where
  children _ inside _ below := .head (Forest.mem_children_ofList_iff.1 below) inside
  totals id inside := by
    have other : id ≠ bucket := fun same => not_below_of_isSum distinct sum (same ▸ inside)
    rw [Table.get?_put, if_neg other]

variable [Scalar R] [Amount R A]

theorem get?_nestedTotals_put_of_not_mem
    (unformed : bucket ∉ (Forest.ofList categories).sums (base.put bucket amount).keys) :
    (nestedTotals categories (base.put bucket amount)).get? bucket = some amount ∧
      (nestedTotals categories base).get? bucket = base.get? bucket := by
  obtain ⟨others, same, -⟩ := exists_sums_put base amount (Forest.ofList categories) bucket
  have before : bucket ∉ (Forest.ofList categories).sums base.keys := fun member =>
    unformed (same ▸ List.mem_append_left others member)
  exact ⟨(Forest.get?_formSums_of_not_mem _ _ unformed).trans (by rw [Table.get?_put, if_pos rfl]),
    Forest.get?_formSums_of_not_mem _ _ before⟩

theorem get?_nestedTotals_put_of_mem (distinct : (categories.map Category.id).Nodup)
    (formed : bucket ∈ (Forest.ofList categories).sums (base.put bucket amount).keys) :
    (nestedTotals categories (base.put bucket amount)).get? bucket =
      (nestedTotals categories base).get? bucket ∨
    (nestedTotals categories base).get? bucket = none ∧ ∃ sum,
      (nestedTotals categories (base.put bucket amount)).get? bucket = some sum ∧ Barren sum := by
  have sum := (Forest.mem_sums formed).1
  obtain ⟨others, same, apart, none⟩ :=
    exists_sums_put base amount (Forest.ofList categories) bucket
  by_cases before : bucket ∈ (Forest.ofList categories).sums base.keys
  -- The sum was formed before as well, from children that the bucket does not reach.
  · refine .inl ?_
    have extended : nestedTotals categories (base.put bucket amount) =
        others.foldl (Forest.ofList categories).formSum
          (((Forest.ofList categories).sums base.keys).foldl (Forest.ofList categories).formSum
            (base.put bucket amount)) := by
      rw [← List.foldl_append, ← same]
      rfl
    rw [extended, Forest.get?_formSums_of_not_mem _ _ (apart bucket before)]
    exact (alike_put_below base amount distinct sum).get?_formSums
      (fun child below => .single (Forest.mem_children_ofList_iff.1 below)) (.inl before)
  · have unknown : bucket ∉ base.keys := fun known =>
      before (by rwa [same, none known, List.append_nil] at formed)
    -- A key below the bucket would have had its sum formed before.
    have off : ∀ key ∈ (base.put bucket amount).keys, ¬ Below categories key bucket := by
      intro key present path
      rw [Table.keys_put, if_neg unknown, List.mem_append, List.mem_singleton] at present
      rcases present with old | rfl
      · exact before (((Forest.ofList categories).closed_sums base.keys).1 key old bucket
          ((Forest.mem_ancestors_ofList_iff distinct).2 path) sum)
      · exact not_below_of_isSum distinct sum path
    have absent : base.get? bucket = .none := Table.get?_eq_none_iff.2 unknown
    exact .inr ⟨(Forest.get?_formSums_of_not_mem _ _ before).trans absent,
      (bare_of_off _).formSums off (.inl formed)⟩

theorem get?_nestedTotals_put_of_top (distinct : (categories.map Category.id).Nodup)
    (top : ∀ parent, ¬ Under categories bucket parent) :
    (∀ id, id ≠ bucket → (nestedTotals categories (base.put bucket amount)).get? id =
      (nestedTotals categories base).get? id) ∧
    (bucket ∈ (Forest.ofList categories).sums (base.put bucket amount).keys →
      (nestedTotals categories (base.put bucket amount)).get? bucket =
        (nestedTotals categories base).get? bucket) := by
  have unclimbed : (Forest.ofList categories).ancestors bucket = [] := by
    refine List.eq_nil_iff_forall_not_mem.2 fun ancestor above => ?_
    obtain ⟨parent, step, -⟩ :=
      TransGen.head'_iff.1 ((Forest.mem_ancestors_ofList_iff distinct).1 above)
    exact top parent step
  have same : (Forest.ofList categories).sums (base.put bucket amount).keys =
      (Forest.ofList categories).sums base.keys := by
    rw [Table.keys_put]
    split
    · rfl
    · rw [Forest.sums, List.flatMap_append, List.flatMap_singleton, unclimbed, List.append_nil,
        Forest.sums]
  have alike : (Forest.ofList categories).Alike (· ≠ bucket) (base.put bucket amount) base := by
    refine ⟨fun id _ child below same => ?_, fun id other => by rw [Table.get?_put, if_neg other]⟩
    exact top id (same ▸ Forest.mem_children_ofList_iff.1 below)
  have run : nestedTotals categories (base.put bucket amount) =
      ((Forest.ofList categories).sums base.keys).foldl (Forest.ofList categories).formSum
        (base.put bucket amount) := by
    rw [← same]
    rfl
  rw [run, same]
  refine ⟨(alike.formSums _).totals, fun formed => alike.get?_formSums ?_ (.inl formed)⟩
  rintro child below rfl
  exact top child (Forest.mem_children_ofList_iff.1 below)

end Scorekeeper
