import Scorekeeper.Scalar

set_option autoImplicit false

/-!
# Quantities

A number as it stands in a record is whole, of any size, or a score.  Whole numbers add up exactly;
one that meets a score is turned into a score first, which fails beyond the range of scores.
-/

namespace Scorekeeper

inductive ArithmeticFault
  | tooLarge
  | loneArgument
  | zeroFactor
deriving Repr, DecidableEq

def ArithmeticFault.message : ArithmeticFault → String
  | .tooLarge => "int too large to convert to float"
  | .loneArgument => "'float' object is not iterable"
  | .zeroFactor => "float division by zero"

inductive Quantity (R : Type) where
  | whole (n : Int)
  | real (x : R)

namespace Quantity

variable {R : Type} [Scalar R]

def toReal : Quantity R → Except ArithmeticFault R
  | .whole n => if Scalar.holds R n then .ok (Scalar.whole n) else .error .tooLarge
  | .real x => .ok x

def combine (exact : Int → Int → Int) (rounded : R → R → R) :
    Quantity R → Quantity R → Except ArithmeticFault (Quantity R)
  | .whole m, .whole n => .ok (.whole (exact m n))
  | left, right => do
    let x ← left.toReal
    let y ← right.toReal
    return .real (rounded x y)

def add : Quantity R → Quantity R → Except ArithmeticFault (Quantity R) :=
  combine (· + ·) (· + ·)

def sub : Quantity R → Quantity R → Except ArithmeticFault (Quantity R) :=
  combine (· - ·) (· - ·)

def abs : Quantity R → Quantity R
  | .whole n => .whole n.natAbs
  | .real x => .real (Scalar.abs x)

def compareReal? (x y : R) : Option Ordering :=
  if Scalar.lt x y then some .lt
  else if Scalar.eq x y then some .eq
  else if Scalar.lt y x then some .gt
  else none

def compare? : Quantity R → Quantity R → Option Ordering
  | .whole m, .whole n => some (compare m n)
  | .whole m, .real y => (Scalar.compareWhole? y m).map Ordering.swap
  | .real x, .whole n => Scalar.compareWhole? x n
  | .real x, .real y => compareReal? x y

def lt (left right : Quantity R) : Bool :=
  left.compare? right == some .lt

def eq (left right : Quantity R) : Bool :=
  left.compare? right == some .eq

def le (left right : Quantity R) : Bool :=
  left.lt right || left.eq right

def isNumber (quantity : Quantity R) : Bool :=
  quantity.eq quantity

/-- Equality of quantities; what is no number equals itself where it is `shared`. -/
def sameWhere (shared : Bool) (left right : Quantity R) : Bool :=
  left.eq right || (shared && !left.isNumber && !right.isNumber)

def text : Quantity R → String
  | .whole n => toString n
  | .real x => Scalar.text x

end Quantity

end Scorekeeper
