import Scorekeeper.Totals.Rollup

set_option autoImplicit false

namespace Scorekeeper

variable {R A : Type} [Scalar R] [Amount R A]

def Category.effectiveWeight? (category : Category R) : Option R :=
  match category.display with
  | .weighted => some (category.weight.getD Scalar.one)
  | _ => none

def Forest.weigh (forest : Forest R) (id : String) (total : A) : A :=
  match (forest.byId.get? id).bind Category.effectiveWeight? with
  | some weight => Amount.scale total weight
  | none => total

def applyWeights (categories : List (Category R)) (totals : Table A) : Table A :=
  totals.mapWithKey (Forest.ofList categories).weigh

end Scorekeeper
