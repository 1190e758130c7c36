import Scorekeeper.Formula.Evaluation
import Scorekeeper.Object.Resolution

set_option autoImplicit false

/-!
# Formula categories

A formula category that has a total is evaluated against the totals as they are at its turn.  A
formula that fails leaves the total as it is, and so does one that is a bare number, which only says
how much to add at once.
-/

namespace Scorekeeper

variable {R A : Type} [Scalar R] [Amount R A]

def isBareNumber (R : Type) [Scalar R] (formula : String) : Bool :=
  match Scalar.read? (R := R) (Text.trimmed formula) with
  | some x => Scalar.isFinite x
  | none => false

def Category.effective? (category : Category R) : Option String :=
  match category.display, present category.formula with
  | .formula, some formula => if isBareNumber R formula then none else some formula
  | _, _ => none

def applyFormula (scope : Scope R) (totals : Table A) (category : Category R) : Table A :=
  match category.effective?, totals.contains category.id with
  | some formula, true =>
    -- Formulas of categories further on see the total that is put here.
    match Formula.evaluate (scope.context totals) formula with
    | .ok x => totals.put category.id (Amount.ofReal x)
    | .error _ => totals
  | _, _ => totals

def applyFormulas (scope : Scope R) (categories : List (Category R)) (totals : Table A) : Table A :=
  categories.foldl (applyFormula scope) totals

end Scorekeeper
