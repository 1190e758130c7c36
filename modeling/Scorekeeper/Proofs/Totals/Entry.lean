import Scorekeeper.Proofs.Ledger.Calls
import Scorekeeper.Proofs.Scalar.Exact
import Scorekeeper.Proofs.Totals.Bucket
import Scorekeeper.Totals.Pipeline

set_option autoImplicit false

namespace Scorekeeper

variable {R : Type} [Scalar R]

def weightOf (categories : List (Category R)) (id : String) : R :=
  (((Forest.ofList categories).byId.get? id).bind Category.effectiveWeight?).getD Scalar.one

namespace Scope

variable {scope : Scope R} {entry : Entry R}

def withEntry (scope : Scope R) (entry : Entry R) : Scope R :=
  { scope with book := scope.book.addEntry entry }

omit [Scalar R] in
@[simp] theorem categories_withEntry (scope : Scope R) (entry : Entry R) :
    (scope.withEntry entry).categories = scope.categories := rfl

def base (scope : Scope R) : Table R :=
  baseTotals scope.book scope.session scope.player

def nested (scope : Scope R) : Table R :=
  nestedTotals scope.categories scope.base

def total (scope : Scope R) (id : String) : R :=
  ((categoryTotals scope).get? id).getD Scalar.zero

def RollsUp (scope : Scope R) (id : String) : Prop :=
  id ∈ (Forest.ofList scope.categories).sums scope.base.keys

instance (id : String) : Decidable (scope.RollsUp id) :=
  inferInstanceAs (Decidable (id ∈ (Forest.ofList scope.categories).sums scope.base.keys))

-- Whether no formula decides a total.
def Plain (scope : Scope R) : Prop :=
  ∀ category ∈ scope.categories, category.effective? = none

theorem plain_of_display (display : ∀ category ∈ scope.categories, category.display ≠ .formula) :
    scope.Plain := by
  intro category member
  rw [Category.effective?]
  cases shown : category.display with
  | formula => exact absurd shown (display category member)
  | sum | weighted => rfl

theorem applyFormulas_of_plain (scope : Scope R) {categories : List (Category R)}
    (plain : ∀ category ∈ categories, category.effective? = none) (totals : Table R) :
    applyFormulas scope categories totals = totals := by
  induction categories with
  | nil => rfl
  | cons category rest ih =>
    have first : applyFormula scope totals category = totals := by
      rw [applyFormula, plain category List.mem_cons_self]
    rw [applyFormulas, List.foldl_cons, first]
    exact ih fun other member => plain other (List.mem_cons_of_mem category member)

theorem Plain.categoryTotals_eq (plain : scope.Plain) :
    categoryTotals scope = applyWeights scope.categories scope.nested := by
  rw [categoryTotals, applyFormulas_of_plain scope plain]
  rfl

-- An entry of the scope's player in the scope's session, under an id of its own.
structure Takes (scope : Scope R) (entry : Entry R) : Prop where
  unused : entry.id ∉ scope.book.entries.keys
  session : entry.session = scope.session
  player : entry.player = scope.player

theorem Takes.base_withEntry (takes : scope.Takes entry) :
    (scope.withEntry entry).base = scope.base.put entry.bucket
      ((scope.base.get? entry.bucket).getD Scalar.zero + entry.value) := by
  have distinct : (scope.book.entries.keys ++ [entry].map Entry.id).Nodup := by
    rw [List.nodup_append]
    refine ⟨scope.book.entries.nodup, by simp, fun id known other given same => ?_⟩
    simp only [List.map_cons, List.map_nil, List.mem_singleton] at given
    exact takes.unused (given ▸ same ▸ known)
  have entries : playerEntries (scope.book.addEntry entry) scope.session scope.player =
      playerEntries scope.book scope.session scope.player ++ [entry] := by
    have appended : (scope.book.addEntry entry).sessionEntries scope.session = _ :=
      Book.sessionEntries_addEntries scope.session distinct
    rw [playerEntries, appended, List.filter_append]
    simp [playerEntries, takes.session, takes.player]
  rw [base, withEntry, baseTotals, entries, List.foldl_append]
  rfl

def filled (scope : Scope R) (entry : Entry R) : R :=
  (scope.base.get? entry.bucket).getD Scalar.zero + entry.value

theorem Takes.nested_withEntry (takes : scope.Takes entry) : (scope.withEntry entry).nested =
    nestedTotals scope.categories (scope.base.put entry.bucket (scope.filled entry)) := by
  rw [nested, takes.base_withEntry]
  rfl

theorem Takes.rollsUp_iff (takes : scope.Takes entry) :
    (scope.withEntry entry).RollsUp entry.bucket ↔ entry.bucket ∈
      (Forest.ofList scope.categories).sums
        (scope.base.put entry.bucket (scope.filled entry)).keys := by
  rw [RollsUp.eq_def, takes.base_withEntry]
  rfl

end Scope

open Exact

variable [Exact R]

theorem value_weigh (categories : List (Category R)) (id : String) (x : R) :
    value ((Forest.ofList categories).weigh id x) = value x * value (weightOf categories id) := by
  rw [Forest.weigh, weightOf]
  cases ((Forest.ofList categories).byId.get? id).bind Category.effectiveWeight? with
  | none => simp
  | some weight => exact value_mul x weight

theorem Barren.value_eq_zero {amount : R} (barren : Barren amount) : value amount = 0 := by
  induction barren with
  | absent => exact value_zero
  | sum amounts _ ih =>
    have sum : value (Amount.sum amounts) = (amounts.map value).sum := value_sum amounts
    rw [sum]
    refine List.sum_eq_zero fun x member => ?_
    obtain ⟨amount, given, rfl⟩ := List.mem_map.1 member
    exact ih amount given

namespace Scope

variable {scope : Scope R} {entry : Entry R}

theorem Plain.value_total (plain : scope.Plain) (id : String) :
    value (scope.total id) =
      value ((scope.nested.get? id).getD Scalar.zero) * value (weightOf scope.categories id) := by
  rw [total, plain.categoryTotals_eq, applyWeights, Table.get?_mapWithKey]
  cases scope.nested.get? id with
  | none => simp
  | some x => exact value_weigh scope.categories id x

theorem Plain.value_playerTotal (plain : scope.Plain) :
    value (playerTotal scope) =
      scope.nested.worth fun id x => value x * value (weightOf scope.categories id) := by
  rw [playerTotal, value_sum, plain.categoryTotals_eq, applyWeights, Table.worth, Table.values,
    Table.mapWithKey, List.map_map, List.map_map]
  refine congrArg _ (List.map_congr_left fun pair _ => ?_)
  exact value_weigh scope.categories pair.1 pair.2

def gain (scope : Scope R) (entry : Entry R) : ℚ :=
  if (scope.withEntry entry).RollsUp entry.bucket then 0
  else value entry.value * value (weightOf scope.categories entry.bucket)

def worthAt (totals : Table R) (id : String) : ℚ :=
  value ((totals.get? id).getD Scalar.zero)

theorem worthAt_eq_elim (totals : Table R) (id : String) :
    worthAt totals id = (totals.get? id).elim 0 value := by
  rw [worthAt]
  cases totals.get? id with
  | none => exact value_zero
  | some x => rfl

theorem worthAt_nested_withEntry (distinct : (scope.categories.map Category.id).Nodup)
    (takes : scope.Takes entry) :
    worthAt (scope.withEntry entry).nested entry.bucket = worthAt scope.nested entry.bucket +
      if (scope.withEntry entry).RollsUp entry.bucket then 0 else value entry.value := by
  have rolls := takes.rollsUp_iff
  rw [takes.nested_withEntry, worthAt, worthAt]
  by_cases formed : (scope.withEntry entry).RollsUp entry.bucket
  · rw [if_pos formed, add_zero]
    rcases get?_nestedTotals_put_of_mem scope.base (scope.filled entry) distinct (rolls.1 formed) with
      same | ⟨absent, sum, found, barren⟩
    · rw [same]
      rfl
    · rw [found, nested, absent]
      simp [barren.value_eq_zero]
  · obtain ⟨put, before⟩ :=
      get?_nestedTotals_put_of_not_mem scope.base (scope.filled entry) (mt rolls.2 formed)
    rw [if_neg formed, put, nested, before]
    exact value_add _ _

theorem value_total_withEntry (plain : scope.Plain)
    (distinct : (scope.categories.map Category.id).Nodup) (takes : scope.Takes entry) :
    value ((scope.withEntry entry).total entry.bucket) =
      value (scope.total entry.bucket) + scope.gain entry := by
  have later : (scope.withEntry entry).Plain := plain
  have moved := worthAt_nested_withEntry distinct takes
  rw [worthAt, worthAt] at moved
  rw [later.value_total, plain.value_total, moved, gain, add_mul]
  refine congrArg _ ?_
  split
  · exact zero_mul _
  · rfl

theorem value_playerTotal_withEntry (plain : scope.Plain)
    (distinct : (scope.categories.map Category.id).Nodup) (takes : scope.Takes entry)
    (top : ∀ parent, ¬ Under scope.categories entry.bucket parent) :
    value (playerTotal (scope.withEntry entry)) = value (playerTotal scope) + scope.gain entry := by
  have later : (scope.withEntry entry).Plain := plain
  have rolls := takes.rollsUp_iff
  -- The bucket has no parent, so no other total counts the entry as well.
  obtain ⟨others, own⟩ :=
    get?_nestedTotals_put_of_top scope.base (scope.filled entry) distinct top
  rw [later.value_playerTotal, plain.value_playerTotal, gain, takes.nested_withEntry,
    categories_withEntry]
  by_cases formed : (scope.withEntry entry).RollsUp entry.bucket
  · rw [if_pos formed, add_zero]
    refine Table.worth_congr _ fun id => ?_
    by_cases same : id = entry.bucket
    · exact same ▸ own (rolls.1 formed)
    · exact others id same
  · obtain ⟨put, before⟩ :=
      get?_nestedTotals_put_of_not_mem scope.base (scope.filled entry) (mt rolls.2 formed)
    have same : ∀ id, (nestedTotals scope.categories
        (scope.base.put entry.bucket (scope.filled entry))).get? id =
          (scope.nested.put entry.bucket (scope.filled entry)).get? id := by
      intro id
      rw [Table.get?_put]
      split
      next here => rw [here, put]
      next other => exact others id other
    have before : scope.nested.get? entry.bucket = scope.base.get? entry.bucket := before
    have moved := Table.worth_put (fun id x => value x * value (weightOf scope.categories id))
      scope.nested entry.bucket (scope.filled entry)
    rw [if_neg formed, Table.worth_congr _ same]
    have holds : value (scope.filled entry) =
        value ((scope.base.get? entry.bucket).getD Scalar.zero) + value entry.value := value_add _ _
    rw [before, holds, add_mul] at moved
    cases held : scope.base.get? entry.bucket with
    | none =>
      simp only [held, Option.elim_none, Option.getD_none, value_zero, zero_mul] at moved
      linarith
    | some x =>
      simp only [held, Option.elim_some, Option.getD_some] at moved
      linarith

end Scope

end Scorekeeper
