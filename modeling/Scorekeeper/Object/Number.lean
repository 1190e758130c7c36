import Scorekeeper.Game.Object

set_option autoImplicit false

/-!
# The number of an object

In formulas an identical set is its count and an element set the sum of its quantities, a whole zero
when it is empty.  What is no number otherwise has none.
-/

namespace Scorekeeper

variable {R : Type} [Scalar R]

def Value.held? : Value R → Option (Quantity R)
  | .element _ quantity _ => quantity.quantity?
  | .record fields => (Value.field? "quantity" fields).bind Value.quantity?
  | _ => none

def scoreOf : Option (Quantity R) → Except ArithmeticFault R
  | some quantity => quantity.toReal
  | none => .ok Scalar.zero

def elementSum (items : List (Value R)) : Except ArithmeticFault (Quantity R) := do
  let quantities ← items.mapM fun item => scoreOf item.held?
  return if quantities.isEmpty then .whole 0 else .real (Scalar.sum quantities)

def ObjectDefinition.number? (definition : ObjectDefinition R) (raw : Value R) :
    Except ArithmeticFault (Option (Quantity R)) :=
  match definition.kind, definition.setKind, raw with
  | .set, some .identical, raw => do
    return some (.real (← scoreOf raw.quantity?))
  | .set, some .elements, .list items => do
    return some (← elementSum items)
  | .set, some .elements, _ => .ok (some (.real Scalar.zero))
  | _, _, raw =>
    match raw.quantity? with
    | some quantity => do return some (.real (← quantity.toReal))
    | none => .ok none

end Scorekeeper
