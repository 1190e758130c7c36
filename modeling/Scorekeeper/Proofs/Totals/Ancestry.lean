import Mathlib.Logic.Relation
import Scorekeeper.Proofs.Table
import Scorekeeper.Totals.Rollup

set_option autoImplicit false

namespace Scorekeeper

open Relation

variable {R : Type}

def Under (categories : List (Category R)) (child parent : String) : Prop :=
  ∃ category ∈ categories, category.id = child ∧ category.parent? = some parent

def Below (categories : List (Category R)) : String → String → Prop :=
  TransGen (Under categories)

structure IsForest (categories : List (Category R)) : Prop where
  distinct : (categories.map Category.id).Nodup
  defined : ∀ child parent, Under categories child parent → parent ∈ categories.map Category.id
  acyclic : ∀ id, ¬ Below categories id id

namespace Forest

def Step (forest : Forest R) (child parent : String) : Prop :=
  forest.parent? child = some parent

variable {forest : Forest R}

theorem reached_of_mem_ancestorsAfter {seen : List String} {category : Category R} {id : String}
    (member : id ∈ forest.ancestorsAfter seen category) :
    ∃ parent, category.parent? = some parent ∧ ReflTransGen forest.Step parent id := by
  fun_induction ancestorsAfter forest seen category with
  | case1 => simp at member
  | case2 => simp at member
  | case3 seen category parent above new unknown =>
    exact ⟨parent, above, by simpa using List.mem_singleton.1 member ▸ ReflTransGen.refl⟩
  | case4 seen category parent above new next found ih =>
    refine ⟨parent, above, ?_⟩
    rcases List.mem_cons.1 member with rfl | higher
    · exact .refl
    · obtain ⟨grandparent, step, rest⟩ := ih higher
      exact .head (by simp [Step, parent?, found, step]) rest

theorem closed_ancestorsAfter {seen : List String} {category : Category R}
    (climbed : ∀ id ∈ seen, ∀ parent, forest.Step id parent →
      parent ∈ seen ∨ category.parent? = some parent) :
    (∀ parent, category.parent? = some parent →
      parent ∈ seen ++ forest.ancestorsAfter seen category) ∧
    ∀ id ∈ seen ++ forest.ancestorsAfter seen category, ∀ parent, forest.Step id parent →
      parent ∈ seen ++ forest.ancestorsAfter seen category := by
  -- What the climb has seen is closed under parents but for the parent of where it is.
  fun_induction ancestorsAfter forest seen category with
  | case1 seen category top =>
    simp only [List.append_nil]
    refine ⟨fun parent above => by simp [top] at above, fun id member parent step => ?_⟩
    exact (climbed id member parent step).resolve_right (by simp [top])
  | case2 seen category parent above met =>
    simp only [List.append_nil]
    have known : ∀ other, category.parent? = some other → other ∈ seen := by
      intro other same
      obtain rfl : parent = other := by simpa [above] using same
      exact met
    refine ⟨known, fun key member other step => ?_⟩
    exact (climbed key member other step).elim id (known other)
  | case3 seen category parent above new unknown =>
    have known : ∀ other, category.parent? = some other → other ∈ seen ++ [parent] := by
      intro other same
      obtain rfl : parent = other := by simpa [above] using same
      simp
    refine ⟨known, fun id member other step => ?_⟩
    rcases List.mem_append.1 member with old | last
    · exact (climbed id old other step).elim (List.mem_append_left _) (known other)
    · rw [List.mem_singleton.1 last] at step
      simp [Step, parent?, unknown] at step
  | case4 seen category parent above new next found ih =>
    have step_iff (other : String) : forest.Step parent other ↔ next.parent? = some other := by
      simp [Step, parent?, found]
    have climbed' : ∀ id ∈ parent :: seen, ∀ other, forest.Step id other →
        other ∈ parent :: seen ∨ next.parent? = some other := by
      intro id member other step
      rcases List.mem_cons.1 member with rfl | old
      · exact .inr ((step_iff other).1 step)
      · rcases climbed id old other step with met | same
        · exact .inl (List.mem_cons_of_mem _ met)
        · obtain rfl : parent = other := by simpa [above] using same
          exact .inl List.mem_cons_self
    have moved : ∀ id, id ∈ seen ++ parent :: forest.ancestorsAfter (parent :: seen) next ↔
        id ∈ (parent :: seen) ++ forest.ancestorsAfter (parent :: seen) next := by
      intro id
      simp only [List.mem_append, List.mem_cons]
      rw [or_left_comm, or_assoc]
    obtain ⟨-, closed⟩ := ih climbed'
    refine ⟨fun other same => ?_, fun id member other step => ?_⟩
    · obtain rfl : parent = other := by simpa [above] using same
      simp
    · exact (moved other).2 (closed id ((moved id).1 member) other step)

theorem mem_ancestors_iff {id ancestor : String} :
    ancestor ∈ forest.ancestors id ↔ TransGen forest.Step id ancestor := by
  rw [ancestors]
  cases found : forest.byId.get? id with
  | none =>
    refine ⟨fun member => by simp at member, fun path => ?_⟩
    obtain ⟨parent, step, -⟩ := TransGen.head'_iff.1 path
    simp [Step, parent?, found] at step
  | some category =>
    have step_iff (parent : String) : forest.Step id parent ↔ category.parent? = some parent := by
      simp [Step, parent?, found]
    refine ⟨fun member => ?_, fun path => ?_⟩
    · obtain ⟨parent, above, rest⟩ := reached_of_mem_ancestorsAfter member
      exact TransGen.head' ((step_iff parent).2 above) rest
    · obtain ⟨first, closed⟩ :=
        @closed_ancestorsAfter R forest [] category (by simp)
      induction path with
      | single step => exact first _ ((step_iff _).1 step)
      | tail _ step ih => exact closed _ ih _ step

variable {categories : List (Category R)}

theorem map_fst_withIds (categories : List (Category R)) :
    (categories.map fun category => (category.id, category)).map Prod.fst =
      categories.map Category.id := by
  rw [List.map_map]
  rfl

theorem byId_ofList_iff (distinct : (categories.map Category.id).Nodup) {id : String}
    {category : Category R} :
    (ofList categories).byId.get? id = some category ↔
      category ∈ categories ∧ category.id = id := by
  rw [ofList, Table.get?_eq_some_iff,
    Table.pairs_ofList ((map_fst_withIds categories).symm ▸ distinct), List.mem_map]
  constructor
  · rintro ⟨other, member, same⟩
    obtain ⟨rfl, rfl⟩ := Prod.mk.inj same
    exact ⟨member, rfl⟩
  · rintro ⟨member, rfl⟩
    exact ⟨category, member, rfl⟩

theorem contains_byId_iff {id : String} :
    (ofList categories).byId.contains id = true ↔ id ∈ categories.map Category.id := by
  rw [Table.contains, ofList, Table.ofList, ← map_fst_withIds]
  constructor
  · intro present
    rcases Table.get?_foldl_put .empty
      (categories.map fun category => (category.id, category)) id with same | ⟨_, stored, -⟩
    · rw [same] at present
      cases present
    · exact List.mem_map_of_mem stored
  · intro listed
    obtain ⟨_, -, found⟩ := Table.get?_foldl_put_of_mem listed
    exact Option.isSome_of_eq_some found

theorem step_ofList_iff (distinct : (categories.map Category.id).Nodup) {child parent : String} :
    (ofList categories).Step child parent ↔ Under categories child parent := by
  simp only [Step, parent?, Option.bind_eq_some_iff, byId_ofList_iff distinct, Under, and_assoc]

theorem mem_ancestors_ofList_iff (distinct : (categories.map Category.id).Nodup)
    {id ancestor : String} :
    ancestor ∈ (ofList categories).ancestors id ↔ Below categories id ancestor := by
  have same : (ofList categories).Step = Under categories := by
    ext child parent
    exact step_ofList_iff distinct
  rw [mem_ancestors_iff, same, Below]

theorem mem_children_ofList_iff {child parent : String} :
    child ∈ (ofList categories).children parent ↔ Under categories child parent := by
  simp only [children, ofList, List.mem_map, List.mem_filter, Category.isChildOf, beq_iff_eq, Under]
  constructor
  · rintro ⟨category, ⟨member, above⟩, same⟩
    exact ⟨category, member, same, above⟩
  · rintro ⟨category, member, same, above⟩
    exact ⟨category, ⟨member, above⟩, same⟩

theorem inCycle_ofList_iff (distinct : (categories.map Category.id).Nodup) {id : String} :
    (ofList categories).inCycle id = true ↔ Below categories id id := by
  rw [inCycle, decide_eq_true_iff, mem_ancestors_ofList_iff distinct]

theorem isSum_ofList_iff (distinct : (categories.map Category.id).Nodup) {id : String} :
    (ofList categories).isSum id = true ↔
      (∃ child, Under categories child id) ∧ ¬ Below categories id id := by
  rw [isSum, Bool.and_eq_true, Bool.not_eq_true', Bool.not_eq_true',
    List.isEmpty_eq_false_iff_exists_mem, ← inCycle_ofList_iff distinct, Bool.not_eq_true]
  simp only [mem_children_ofList_iff]

theorem isSum_iff_of_isForest (wellFormed : IsForest categories) {id : String} :
    (ofList categories).isSum id = true ↔ ∃ child, Under categories child id := by
  rw [isSum_ofList_iff wellFormed.distinct, and_iff_left (wellFormed.acyclic id)]

end Forest

theorem under_unique {categories : List (Category R)} (distinct : (categories.map Category.id).Nodup)
    {child parent other : String} (above : Under categories child parent)
    (also : Under categories child other) : parent = other := by
  rw [← Forest.step_ofList_iff distinct] at above also
  exact Option.some.inj (above.symm.trans also)

theorem not_below_self_of_rank {categories : List (Category R)} (rank : String → Nat)
    (lower : ∀ child parent, Under categories child parent → rank parent < rank child)
    (id : String) : ¬ Below categories id id := by
  have falls : ∀ {child ancestor : String}, Below categories child ancestor →
      rank ancestor < rank child := by
    intro child ancestor path
    induction path with
    | single step => exact lower _ _ step
    | tail _ step ih => exact Nat.lt_trans (lower _ _ step) ih
  exact fun path => Nat.lt_irrefl _ (falls path)

end Scorekeeper
