import Scorekeeper.Quantity
import Scorekeeper.Table

set_option autoImplicit false

/-!
# Amounts

A total is kept as an amount.  In a game all amounts are scores.  Totals given from outside may also
be whole numbers, which stay whole as long as they meet whole numbers alone; once one of them is
beyond the range of scores where a score is needed, what depends on it has no value.
-/

namespace Scorekeeper

class Amount (R : outParam Type) (A : Type) where
  zero : A
  ofReal : R → A
  add : A → A → A
  scale : A → R → A
  toReal : A → Except ArithmeticFault R
  compare? : A → A → Option Ordering

variable {R A : Type}

namespace Amount

def sum [Amount R A] (amounts : List A) : A :=
  amounts.foldl add zero

def absent [Scalar R] [Amount R A] : A :=
  ofReal Scalar.zero

def sumScore [Amount R A] (amounts : List A) : Except ArithmeticFault R :=
  toReal (sum amounts)

end Amount

instance scoreAmount [Scalar R] : Amount R R where
  zero := Scalar.zero
  ofReal x := x
  add x y := x + y
  scale x weight := x * weight
  toReal x := .ok x
  compare? := Quantity.compareReal?

/-- A number given from outside, or why there is none. -/
structure Given (R : Type) where
  quantity : Except ArithmeticFault (Quantity R)

namespace Given

def ofQuantity (quantity : Quantity R) : Given R := ⟨.ok quantity⟩

instance [Scalar R] : Amount R (Given R) where
  zero := ofQuantity (.whole 0)
  ofReal x := ofQuantity (.real x)
  add left right := ⟨do (← left.quantity).add (← right.quantity)⟩
  scale given weight := ⟨do return .real ((← (← given.quantity).toReal) * weight)⟩
  toReal given := do (← given.quantity).toReal
  compare? left right :=
    match left.quantity, right.quantity with
    | .ok x, .ok y => x.compare? y
    | _, _ => none

end Given

def Table.quantities (totals : Table (Given R)) :
    Except ArithmeticFault (List (String × Quantity R)) :=
  totals.pairs.mapM fun (key, given) => do return (key, ← given.quantity)

end Scorekeeper
