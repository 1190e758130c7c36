import Scorekeeper.Totals.Pipeline

set_option autoImplicit false

namespace Scorekeeper

variable {R : Type} [Scalar R]

def Quantity.isNear (left right : Quantity R) : Except ArithmeticFault Bool := do
  return (← left.sub right).abs.lt (.real Scalar.tolerance)

def Quantity.isFar (left right : Quantity R) : Except ArithmeticFault Bool := do
  return Quantity.le (.real Scalar.tolerance) (← left.sub right).abs

def Comparison.holds (comparison : Comparison) (left right : Quantity R) :
    Except ArithmeticFault Bool :=
  match comparison with
  | .atLeast => .ok (right.le left)
  | .atMost => .ok (left.le right)
  | .equal => left.isNear right
  | .unequal => left.isFar right
  | .above => .ok (right.lt left)
  | .below => .ok (left.lt right)

def compareBySign (sign : String) (left right : Quantity R) : Except ArithmeticFault Bool :=
  match Comparison.ofText? sign with
  | some comparison => comparison.holds left right
  | none => .ok false

def roundEntries (scope : Scope R) (round : Option String) : List (Entry R) :=
  (playerEntries scope.book scope.session scope.player).filter (·.round = round)

/-- What a condition looks at: the player's total, a category's total or else the object of that
name, or the number of the player's entries in a round. -/
def Condition.measured? (condition : Condition R) (scope : Scope R) :
    Except ArithmeticFault (Option (Quantity R)) :=
  match condition.subject with
  | .total => .ok (some (.real (playerTotal scope)))
  | .category =>
    match present condition.category with
    | none => .ok none
    | some id =>
      match (categoryTotals scope).get? id with
      | some total => .ok (some (.real total))
      | none => scope.objectNumber? id
  | .round => .ok (some (.real (Scalar.whole (roundEntries scope condition.round).length)))

def Condition.holds (condition : Condition R) (scope : Scope R) : Except ArithmeticFault Bool := do
  match ← condition.measured? scope with
  | none => return false
  | some left => condition.comparison.holds left (.real condition.value.amount)

end Scorekeeper
