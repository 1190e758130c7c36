import Mathlib.Data.List.Find
import Scorekeeper.Proofs.Formula.Acceptance
import Scorekeeper.Proofs.Formula.Dependence
import Scorekeeper.Proofs.Scalar.Exact
import Scorekeeper.Proofs.Table
import Scorekeeper.Proofs.Totals.Failing

set_option autoImplicit false

/-!
# Formulas at once

Each formula is given the totals as the formulas before it leave them.  As long as no formula refers
to a total that a formula decides, that makes no difference: all of them come out as they do on the
totals there were, in whatever order they are gone through.
-/

namespace Scorekeeper

variable {R A : Type}

def totalKey (categories : List (Category R)) (name : String) : String :=
  match categories.find? fun category => Template.refersTo name category.name category.id with
  | some category => category.id
  | none => name

variable [Scalar R]

def Category.reevaluated? (totals : Table A) (category : Category R) : Option String :=
  if totals.contains category.id then category.effective? else none

def Independent (scope : Scope R) (categories : List (Category R)) (totals : Table A) : Prop :=
  ∀ category ∈ categories, ∀ formula, category.reevaluated? totals = some formula →
    ∀ name ∈ Formula.references formula, name ≠ totalReference ∧
      ∀ other ∈ categories, (other.reevaluated? totals).isSome →
        totalKey scope.categories name ≠ other.id

theorem Independent.subset {scope : Scope R} {categories others : List (Category R)}
    {totals : Table A} (independent : Independent scope categories totals)
    (known : others ⊆ categories) : Independent scope others totals := by
  intro category member formula decides name referred
  obtain ⟨ordinary, apart⟩ := independent category (known member) formula decides name referred
  exact ⟨ordinary, fun other member => apart other (known member)⟩

variable [Amount R A]

def Category.outcome (scope : Scope R) (totals : Table A) (category : Category R) (total : A) : A :=
  match category.effective? with
  | none => total
  | some formula =>
    match Formula.evaluate (scope.context totals) formula with
    | .ok x => Amount.ofReal x
    | .error _ => total

def simultaneous (scope : Scope R) (categories : List (Category R)) (totals : Table A) : Table A :=
  totals.mapWithKey fun key total =>
    match categories.find? (·.id = key) with
    | none => total
    | some category => category.outcome scope totals total

theorem categoryTotal_eq {categories : List (Category R)} {totals : Table A} {name : String}
    (ordinary : name ≠ totalReference) : categoryTotal categories totals name =
      Amount.toReal ((totals.get? (totalKey categories name)).getD Amount.absent) := by
  rw [categoryTotal, if_neg ordinary, totalKey]
  cases categories.find? fun category => Template.refersTo name category.name category.id <;> rfl

variable {scope : Scope R} {categories : List (Category R)} {totals : Table A}

theorem evaluate_eq_of_get?_eq {left right : Table A} {formula : String}
    (same : ∀ name ∈ Formula.references formula, name ≠ totalReference ∧
      left.get? (totalKey scope.categories name) = right.get? (totalKey scope.categories name)) :
    Formula.evaluate (scope.context left) formula =
      Formula.evaluate (scope.context right) formula := by
  refine Formula.Context.AgreesOn.evaluate_eq
    ⟨fun name referred => ?_, .some fun _ _ => rfl, .some fun _ _ => rfl, rfl, rfl, rfl⟩
  obtain ⟨ordinary, total⟩ := same name referred
  exact (categoryTotal_eq ordinary).trans (total ▸ (categoryTotal_eq ordinary).symm)

theorem keys_applyFormula (category : Category R) :
    (applyFormula scope totals category).keys = totals.keys := by
  rw [applyFormula]
  split
  · rename_i present
    split
    · rw [Table.keys_put, if_pos (Table.mem_keys_iff.2 (Option.isSome_iff_exists.1 present))]
    · rfl
  · rfl

theorem outcome_of_plain {category : Category R} (plain : category.effective? = none) :
    category.outcome scope totals = id := by
  funext total
  rw [Category.outcome, plain, id]

theorem get?_applyFormula (category : Category R) (key : String) :
    (applyFormula scope totals category).get? key =
      if key = category.id then (totals.get? key).map (category.outcome scope totals)
      else totals.get? key := by
  rw [applyFormula]
  cases decides : category.effective? with
  | none =>
    rw [outcome_of_plain decides, Option.map_id, id, ite_self]
  | some formula =>
    cases held : totals.get? category.id with
    | none =>
      simp only [Table.contains, held, Option.isSome_none]
      split
      · rename_i same
        rw [same, held, Option.map_none]
      · rfl
    | some total =>
      simp only [Table.contains, held, Option.isSome_some]
      cases outcome : Formula.evaluate (scope.context totals) formula with
      | ok x =>
        simp only [Table.get?_put]
        by_cases same : key = category.id
        · simp only [same, if_true, held, Option.map_some, Category.outcome, decides, outcome]
        · rw [if_neg same, if_neg same]
      | error fault =>
        by_cases same : key = category.id
        · simp only [same, if_true, held, Option.map_some, Category.outcome, decides, outcome]
        · rw [if_neg same]

theorem get?_applyFormulas_of_plain {key : String}
    (plain : ∀ category ∈ categories, category.id = key → category.effective? = none) :
    (applyFormulas scope categories totals).get? key = totals.get? key := by
  induction categories generalizing totals with
  | nil => rfl
  | cons category rest ih =>
    rw [List.forall_mem_cons] at plain
    rw [applyFormulas, List.foldl_cons, ← applyFormulas, ih plain.2, get?_applyFormula]
    split
    · rename_i same
      rw [outcome_of_plain (plain.1 same.symm), Option.map_id, id]
    · rfl

theorem get?_categoryTotals_of_plain {key : String}
    (plain : ∀ category ∈ scope.categories, category.id = key → category.effective? = none) :
    (categoryTotals scope).get? key =
      ((nestedTotals scope.categories
        (baseTotals scope.book scope.session scope.player)).get? key).map
          ((Forest.ofList scope.categories).weigh key) := by
  rw [categoryTotals, applyWeights, Table.get?_mapWithKey, get?_applyFormulas_of_plain plain]

theorem keys_simultaneous : (simultaneous scope categories totals).keys = totals.keys := by
  rw [simultaneous, Table.keys_mapWithKey]

theorem get?_simultaneous (key : String) :
    (simultaneous scope categories totals).get? key =
      match categories.find? (·.id = key) with
      | none => totals.get? key
      | some category => (totals.get? key).map (category.outcome scope totals) := by
  rw [simultaneous, Table.get?_mapWithKey]
  cases categories.find? (·.id = key) with
  | none => exact Option.map_id'
  | some category => rfl

theorem get?_simultaneous_of_apart {key : String}
    (apart : ∀ category ∈ categories, (category.reevaluated? totals).isSome → key ≠ category.id) :
    (simultaneous scope categories totals).get? key = totals.get? key := by
  rw [get?_simultaneous]
  cases found : categories.find? (·.id = key) with
  | none => rfl
  | some category =>
    have same : category.id = key := by simpa using List.find?_some found
    have idle := apart category (List.mem_of_find?_eq_some found)
    rw [Category.reevaluated?, same, Table.contains] at idle
    cases held : totals.get? key with
    | none => rfl
    | some total =>
      have unasked : category.effective? = none := by
        simpa [held] using idle
      simp only [Option.map_some, Category.outcome, unasked]

theorem outcome_simultaneous {before : List (Category R)} {category : Category R}
    (independent : Independent scope (before ++ [category]) totals)
    (present : totals.contains category.id = true) :
    category.outcome scope (simultaneous scope before totals) = category.outcome scope totals := by
  funext total
  rw [Category.outcome, Category.outcome]
  cases decides : category.effective? with
  | none => rfl
  | some formula =>
    have settled : category.reevaluated? totals = some formula := by
      rw [Category.reevaluated?, if_pos present, decides]
    -- What the formula refers to is as it was, whatever came before it.
    have unseen : Formula.evaluate (scope.context (simultaneous scope before totals)) formula =
        Formula.evaluate (scope.context totals) formula := by
      refine evaluate_eq_of_get?_eq fun name referred => ?_
      obtain ⟨ordinary, apart⟩ := independent category (by simp) formula settled name referred
      refine ⟨ordinary, get?_simultaneous_of_apart fun other member => ?_⟩
      exact apart other (List.mem_append_left _ member)
    simp only [unseen]

theorem applyFormula_simultaneous {before : List (Category R)} {category : Category R}
    (fresh : category.id ∉ before.map Category.id)
    (independent : Independent scope (before ++ [category]) totals) :
    applyFormula scope (simultaneous scope before totals) category =
      simultaneous scope (before ++ [category]) totals := by
  refine Table.ext_get? ?_ fun key => ?_
  · rw [keys_applyFormula, keys_simultaneous, keys_simultaneous]
  rw [get?_applyFormula, get?_simultaneous, get?_simultaneous, List.find?_append,
    List.find?_singleton]
  by_cases same : key = category.id
  · subst same
    have missing : before.find? (·.id = category.id) = none := by
      rw [List.find?_eq_none]
      intro other member found
      exact fresh (List.mem_map.2 ⟨other, member, of_decide_eq_true found⟩)
    simp only [missing, if_true, decide_true, Option.none_or]
    cases held : totals.get? category.id with
    | none => simp only [Option.map_none]
    | some total =>
      have present : totals.contains category.id = true := by
        rw [Table.contains, held, Option.isSome_some]
      rw [outcome_simultaneous independent present]
  · simp only [same, Ne.symm same, if_false, decide_false, Bool.false_eq_true, Option.or_none]

theorem applyFormulas_eq_of_independent (distinct : (categories.map Category.id).Nodup)
    (independent : Independent scope categories totals) :
    applyFormulas scope categories totals = simultaneous scope categories totals := by
  induction categories using List.reverseRecOn with
  | nil =>
    refine Table.ext_get? keys_simultaneous.symm fun key => ?_
    exact (get?_simultaneous_of_apart (by simp)).symm
  | append_singleton before category ih =>
    rw [List.map_append, List.map_singleton, List.nodup_append] at distinct
    have fresh : category.id ∉ before.map Category.id := fun member =>
      distinct.2.2 _ member _ (List.mem_singleton_self _) rfl
    have earlier := ih distinct.1 (independent.subset (List.subset_append_left _ _))
    rw [applyFormulas] at earlier ⊢
    rw [List.foldl_append, List.foldl_cons, List.foldl_nil, earlier]
    exact applyFormula_simultaneous fresh independent

theorem simultaneous_eq_of_perm {order : List (Category R)} (permuted : order.Perm categories)
    (distinct : (categories.map Category.id).Nodup) :
    simultaneous scope order totals = simultaneous scope categories totals := by
  refine Table.ext_get? ?_ fun key => ?_
  · rw [keys_simultaneous, keys_simultaneous]
  · have single : order.find? (·.id = key) = categories.find? (·.id = key) := by
      refine (List.find?_eq_find?_of_perm permuted.symm ?_).symm
      rintro one ⟨member, here⟩ other ⟨otherMember, there⟩
      refine List.inj_on_of_nodup_map distinct member otherMember ?_
      exact (of_decide_eq_true here).trans (of_decide_eq_true there).symm
    rw [get?_simultaneous, get?_simultaneous, single]

theorem applyFormulas_eq_simultaneous {order : List (Category R)}
    (permuted : order.Perm categories) (distinct : (categories.map Category.id).Nodup)
    (independent : Independent scope categories totals) :
    applyFormulas scope order totals = simultaneous scope categories totals := by
  have distinctOrder : (order.map Category.id).Nodup :=
    (permuted.map Category.id).nodup_iff.2 distinct
  rw [← simultaneous_eq_of_perm permuted distinct]
  exact applyFormulas_eq_of_independent distinctOrder (independent.subset permuted.subset)

def sharedCategories : List (Category ℚ) :=
  [⟨"points", "s", "Points", .sum, none, none, none, 0⟩,
    ⟨"double", "s", "Double", .formula, none, some "{points}*2", none, 1⟩,
    ⟨"left", "s", "Left", .formula, none, some "1-{POINTS}", none, 2⟩]

def sharedScope : Scope ℚ where
  book :=
    { Book.empty with
      categories := Table.ofList (sharedCategories.map fun category => (category.id, category)) }
  session := "s"

def sharedTotals : Table ℚ :=
  Table.ofList [("points", 3), ("double", 5), ("left", 7)]

theorem read_double : Formula.tokenize (Text.trimmed "{points}*2") =
    .ok [.reference "points", .operator .times, .number "2"] := by
  rw [Formula.tokenize, show (Text.trimmed "{points}*2").toList = "{points}*2".toList by decide]
  repeat first
    | exact Formula.scan_nil
    | refine Formula.scan_cons rfl rfl ?_

theorem read_left : Formula.tokenize (Text.trimmed "1-{POINTS}") =
    .ok [.number "1", .operator .minus, .reference "POINTS"] := by
  rw [Formula.tokenize, show (Text.trimmed "1-{POINTS}").toList = "1-{POINTS}".toList by decide]
  repeat first
    | exact Formula.scan_nil
    | refine Formula.scan_cons rfl rfl ?_

theorem reevaluated?_shared {category : Category ℚ} {formula : String}
    (member : category ∈ sharedCategories)
    (decides : category.reevaluated? sharedTotals = some formula) :
    category.id ≠ "points" ∧ (formula = "{points}*2" ∨ formula = "1-{POINTS}") := by
  rw [Category.reevaluated?] at decides
  split at decides
  · have given := effective?_eq_some decides
    simp only [sharedCategories, List.mem_cons, List.not_mem_nil, or_false] at member
    rcases member with rfl | rfl | rfl <;> simp_all
  · cases decides

theorem independent_shared : Independent sharedScope sharedCategories sharedTotals := by
  intro category member formula decides name referred
  have points : name ≠ totalReference ∧ totalKey sharedScope.categories name = "points" := by
    rcases (reevaluated?_shared member decides).2 with rfl | rfl
    · obtain rfl : name = "points" := by
        simpa using (Formula.mem_references_iff_of_read read_double).1 referred
      decide
    · obtain rfl : name = "POINTS" := by
        simpa using (Formula.mem_references_iff_of_read read_left).1 referred
      decide
  refine ⟨points.1, fun other member decided => ?_⟩
  obtain ⟨_, decides⟩ := Option.isSome_iff_exists.1 decided
  rw [points.2]
  exact (reevaluated?_shared member decides).1.symm

theorem evaluate_double :
    Formula.evaluate (sharedScope.context sharedTotals) "{points}*2" = .ok 6 := by
  have ordered : Formula.toPostfix (Formula.resolveSigns
      [.reference "points", .operator .times, .number "2"]) =
      .ok [.reference "points", .number "2", .operator .times] := rfl
  have object : sharedScope.objectScore? "points" = .ok none := rfl
  have total : categoryTotal sharedScope.categories sharedTotals "points" = .ok 3 := by
    rw [categoryTotal_eq (by decide)]
    rfl
  rw [Formula.evaluate_eq_run (by decide) read_double ordered]
  simp [Formula.run, Formula.runFrom, Formula.Item.step, Formula.read_two,
    Formula.Operand.toNumber, Formula.Context.resolve, Formula.Operator.apply, Scope.context,
    object, total, Scalar.ofNumeral]
  change (Except.ok ((3 : ℚ) * 2) : Except (Formula.Fault ℚ) ℚ) = .ok 6
  norm_num

theorem applyFormulas_eq_simultaneous_shared :
    applyFormulas sharedScope sharedCategories.reverse sharedTotals =
      simultaneous sharedScope sharedCategories sharedTotals ∧
    (applyFormulas sharedScope sharedCategories.reverse sharedTotals).get? "double" = some 6 := by
  have same := applyFormulas_eq_simultaneous (List.reverse_perm sharedCategories) (by decide)
    independent_shared
  refine ⟨same, ?_⟩
  have decides : (⟨"double", "s", "Double", .formula, none, some "{points}*2", none, 1⟩ :
      Category ℚ).effective? = some "{points}*2" := rfl
  rw [same, get?_simultaneous]
  change Option.map (Category.outcome sharedScope sharedTotals _) (some 5) = some 6
  rw [Option.map_some, Category.outcome, decides]
  simp only [evaluate_double]
  rfl

end Scorekeeper
