import Scorekeeper.Object.Evaluation
import Scorekeeper.Proofs.Totals.Entry
import Scorekeeper.Proofs.Totals.Simultaneous

set_option autoImplicit false

namespace Scorekeeper

open Relation

variable {R : Type} [Scalar R]

theorem mem_keys_foldl_addToTotals {totals : Table R} {entries : List (Entry R)} {key : String} :
    key ∈ (entries.foldl addToTotals totals).keys ↔
      key ∈ totals.keys ∨ ∃ entry ∈ entries, entry.bucket = key := by
  induction entries generalizing totals with
  | nil => simp
  | cons first rest ih =>
    rw [List.foldl_cons, ih, addToTotals, Table.keys_put]
    split <;> grind

theorem getD_foldl_addToTotals (totals : Table R) (entries : List (Entry R)) (key : String) :
    ((entries.foldl addToTotals totals).get? key).getD Scalar.zero =
      (entries.filter (·.bucket = key)).foldl (fun sum entry => sum + entry.value)
        ((totals.get? key).getD Scalar.zero) := by
  induction entries generalizing totals with
  | nil => rfl
  | cons first rest ih =>
    rw [List.foldl_cons, ih, addToTotals, Table.get?_put]
    by_cases same : first.bucket = key
    · rw [List.filter_cons_of_pos (by simpa using same), if_pos same.symm, List.foldl_cons, same,
        Option.getD_some]
    · rw [List.filter_cons_of_neg (by simpa using same), if_neg (Ne.symm same)]

namespace Forest

variable {A : Type} {categories : List (Category R)} {name : String}

theorem weigh_of_not_mem [Amount R A] (loose : name ∉ categories.map Category.id) :
    (ofList categories).weigh name = (id : A → A) := by
  funext total
  have unknown : (ofList categories).byId.get? name = none :=
    Option.not_isSome_iff_eq_none.1 (mt contains_byId_iff.1 loose)
  rw [weigh, unknown]
  rfl

omit [Scalar R] in
theorem mem_ancestors_of_mem_sums {keys : List String} (loose : name ∉ categories.map Category.id)
    (formed : name ∈ (ofList categories).sums keys) :
    ∃ key ∈ keys, name ∈ (ofList categories).ancestors key := by
  obtain ⟨-, key, present, ancestor, above, path⟩ := mem_sums formed
  cases path with
  | refl => exact ⟨key, present, above⟩
  | tail _ below =>
    obtain ⟨category, listed, same⟩ := List.mem_map.1 below
    exact absurd (List.mem_map.2 ⟨category, (List.mem_filter.1 listed).1, same⟩) loose

end Forest

namespace Scope

variable {scope : Scope R} {name : String}

def entries (scope : Scope R) : List (Entry R) :=
  playerEntries scope.book scope.session scope.player

theorem exists_entry_of_mem_keys (kept : name ∈ scope.base.keys) :
    ∃ entry ∈ scope.entries, entry.bucket = name :=
  (mem_keys_foldl_addToTotals.1 kept).resolve_left nofun

theorem getD_base (scope : Scope R) (key : String) : (scope.base.get? key).getD Scalar.zero =
    (scope.entries.filter (·.bucket = key)).foldl (fun sum entry => sum + entry.value)
      Scalar.zero :=
  getD_foldl_addToTotals .empty scope.entries key

theorem get?_nested_of_loose (loose : name ∉ scope.categories.map Category.id)
    (apart : ∀ entry ∈ scope.entries, entry.bucket ≠ name ∧
      name ∉ (Forest.ofList scope.categories).ancestors entry.bucket) :
    scope.nested.get? name = none := by
  have unformed : name ∉ (Forest.ofList scope.categories).sums scope.base.keys := by
    intro formed
    obtain ⟨key, kept, above⟩ := Forest.mem_ancestors_of_mem_sums loose formed
    obtain ⟨entry, listed, rfl⟩ := exists_entry_of_mem_keys kept
    exact (apart entry listed).2 above
  refine (Forest.get?_formSums_of_not_mem _ _ unformed).trans (Table.get?_eq_none_iff.2 ?_)
  intro kept
  obtain ⟨entry, listed, same⟩ := exists_entry_of_mem_keys kept
  exact (apart entry listed).1 same

theorem get?_nested_of_childless
    (childless : ∀ category ∈ scope.categories, category.parent? ≠ some name) :
    scope.nested.get? name = scope.base.get? name := by
  refine Forest.get?_formSums_of_not_mem _ _ fun formed => ?_
  have sum := (Forest.mem_sums formed).1
  have none : (Forest.ofList scope.categories).children name = [] := by
    rw [Forest.children, List.map_eq_nil_iff, List.filter_eq_nil_iff]
    intro category listed child
    exact childless category listed (by simpa [Category.isChildOf] using child)
  simp [Forest.isSum, none] at sum

theorem Plain.total_of_childless (plain : scope.Plain)
    (childless : ∀ category ∈ scope.categories, category.parent? ≠ some name) :
    scope.total name =
      ((scope.base.get? name).map ((Forest.ofList scope.categories).weigh name)).getD
        Scalar.zero := by
  rw [total, plain.categoryTotals_eq, applyWeights, Table.get?_mapWithKey,
    get?_nested_of_childless childless]

theorem categoryTotals_eq_base (plain : scope.categories = []) :
    categoryTotals scope = scope.base := by
  have rolled (base : Table R) : (Forest.ofList ([] : List (Category R))).rollUp base = base := by
    have ancestors : base.keys.flatMap (Forest.ofList ([] : List (Category R))).ancestors = [] :=
      List.flatMap_eq_nil_iff.2 fun _ _ => rfl
    rw [Forest.rollUp, ancestors, List.map_nil, Forest.order, List.foldl_nil]
  have weighed (totals : Table R) : applyWeights ([] : List (Category R)) totals = totals := by
    refine Table.ext_get? (Table.keys_mapWithKey _ _) fun key => ?_
    rw [applyWeights, Table.get?_mapWithKey, Forest.weigh_of_not_mem List.not_mem_nil, Option.map_id]
    rfl
  rw [categoryTotals, plain, nestedTotals, rolled, weighed]
  rfl

/-- The totals that a formula is evaluated on: at the turn of a category those that the formulas
before it leave, and for an object those that all passes leave. -/
inductive Shows (scope : Scope R) : Table R → Prop
  | category {before after : List (Category R)} {category : Category R}
      (played : scope.player.isSome = true)
      (turn : scope.categories = before ++ category :: after) :
      scope.Shows (applyFormulas scope before scope.nested)
  | object : scope.Shows scope.objectTotals

def kept (scope : Scope R) (name : String) : R :=
  if scope.player.isSome then (scope.nested.get? name).getD Scalar.zero else Scalar.zero

theorem Shows.getD_eq_kept {totals : Table R} (shown : scope.Shows totals)
    (loose : name ∉ scope.categories.map Category.id) :
    (totals.get? name).getD Scalar.zero = scope.kept name := by
  have apart (category : Category R) (listed : category ∈ scope.categories)
      (same : category.id = name) : category.effective? = none :=
    absurd (List.mem_map.2 ⟨category, listed, same⟩) loose
  cases shown with
  | category played turn =>
    rw [kept, if_pos played, get?_applyFormulas_of_plain fun category listed =>
      apart category (turn ▸ List.mem_append_left _ listed)]
  | object =>
    rw [objectTotals, kept]
    split
    · rw [get?_categoryTotals_of_plain apart, Forest.weigh_of_not_mem loose, Option.map_id]
      rfl
    · rfl

end Scope

end Scorekeeper
