import Scorekeeper.Proofs.Totals.Frame

set_option autoImplicit false

namespace Scorekeeper

variable {R A : Type}

def Category.withoutFormula (category : Category R) : Category R :=
  { category with formula := none }

namespace Scope

def withCategories (scope : Scope R) (categories : Table (Category R)) : Scope R :=
  { scope with book := { scope.book with categories } }

end Scope

variable [Scalar R] [Amount R A]

section Removal

variable {scope : Scope R} {categories : Table (Category R)}

theorem applyFormulas_withCategories
    (same : labels (scope.withCategories categories).categories = labels scope.categories)
    (given : List (Category R)) (totals : Table A) :
    applyFormulas (scope.withCategories categories) given totals =
      applyFormulas scope given totals := by
  have read : (scope.withCategories categories).book.ReadAlikeIn scope.session scope.book :=
    ⟨rfl, rfl, rfl, rfl, same⟩
  exact applyFormulas_within read given totals

theorem effective?_eq_some {category : Category R} {formula : String}
    (effective : category.effective? = some formula) : category.formula = some formula := by
  rw [Category.effective?] at effective
  split at effective
  · rename_i text _ given
    split at effective
    · cases effective
    · cases effective
      exact (Option.filter_eq_some_iff.1 given).1
  · cases effective

theorem applyFormula_of_fails {category : Category R} {formula : String} {totals : Table A}
    {fault : Formula.Fault R} (given : category.formula = some formula)
    (fails : Formula.evaluate (scope.context totals) formula = .error fault) :
    applyFormula scope totals category = totals := by
  rw [applyFormula]
  split
  · rename_i other effective _
    have same := given.symm.trans (effective?_eq_some effective)
    cases same
    rw [fails]
  · rfl

theorem applyFormula_withoutFormula (category : Category R) (totals : Table A) :
    applyFormula scope totals category.withoutFormula = totals := by
  have idle : category.withoutFormula.effective? = none := by
    rw [Category.effective?]
    cases category.withoutFormula.display <;> rfl
  rw [applyFormula, idle]

theorem applyFormulas_of_fails {before after : List (Category R)} {category : Category R}
    {formula : String} {totals : Table A} {fault : Formula.Fault R}
    (given : category.formula = some formula)
    (fails : Formula.evaluate (scope.context (applyFormulas scope before totals)) formula =
      .error fault)
    (same : labels (scope.withCategories categories).categories = labels scope.categories) :
    applyFormulas (scope.withCategories categories)
        (before ++ category.withoutFormula :: after) totals =
      applyFormulas scope (before ++ category :: after) totals := by
  rw [applyFormulas_withCategories same]
  simp only [applyFormulas, List.foldl_append, List.foldl_cons] at fails ⊢
  rw [applyFormula_of_fails given fails, applyFormula_withoutFormula]

end Removal

end Scorekeeper
