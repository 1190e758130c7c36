import Scorekeeper.Quantity

set_option autoImplicit false

/-!
# Functions on numbers

The functions that a formula can apply to numbers alone.  Extremes keep the first of equal or
incomparable arguments; rounding goes half up, through a whole number, at a number of decimals that
need not be whole.
-/

namespace Scorekeeper.Formula

variable {R : Type} [Scalar R]

inductive Function
  | max
  | min
  | sum
  | avg
  | round
  | abs
  | floor
  | ceil
deriving Repr, DecidableEq

def Function.ofName? : String → Option Function
  | "max" => some .max
  | "min" => some .min
  | "sum" => some .sum
  | "avg" => some .avg
  | "round" => some .round
  | "abs" => some .abs
  | "floor" => some .floor
  | "ceil" => some .ceil
  | _ => none

def Function.mostArguments? : Function → Option Nat
  | .round => some 2
  | .abs | .floor | .ceil => some 1
  | _ => none

def isSpecial (name : String) : Bool :=
  name ∈ ["state", "owns", "round", "phase", "if"]

def isFunction (name : String) : Bool :=
  (Function.ofName? name).isSome || isSpecial name

inductive FunctionFault
  | rounding (fault : RoundingFault)
  | decimalsOutOfRange
  | arithmetic (fault : ArithmeticFault)
deriving Repr, DecidableEq

def extreme (better : R → R → Bool) (first : R) (rest : List R) : R :=
  rest.foldl (fun best x => if better x best then x else best) first

def extremeOf (better : R → R → Bool) : List R → Except FunctionFault R
  | first :: second :: rest => .ok (extreme better first (second :: rest))
  | _ => .error (.arithmetic .loneArgument)

def wholePart (part : R → Except RoundingFault Int) (x : R) : Except FunctionFault Int :=
  match part x with
  | .ok n => .ok n
  | .error fault => .error (.rounding fault)

def half : R :=
  Scalar.ofNumeral (.finite false 5 (-1))

def roundHalfUp (x : R) : Except FunctionFault R := do
  return Scalar.whole (← wholePart Scalar.floor (x + half))

def roundAt (x decimals : R) : Except FunctionFault R := do
  let some factor := Scalar.powerOfTen? decimals | throw .decimalsOutOfRange
  -- Far below zero decimals the factor is zero, which shows in the division alone.
  let n ← wholePart Scalar.floor (x * factor + half)
  if Scalar.eq factor Scalar.zero then throw (.arithmetic .zeroFactor)
  return (Scalar.whole n : R) / factor

def Function.apply : Function → List R → Except FunctionFault R
  | .max, xs => extremeOf (fun x best => Scalar.lt best x) xs
  | .min, xs => extremeOf Scalar.lt xs
  | .sum, xs => .ok (Scalar.sum xs)
  | .avg, xs => .ok (Scalar.sum xs / Scalar.whole xs.length)
  | .round, [x] => roundHalfUp x
  | .round, x :: decimals :: _ => roundAt x decimals
  | .abs, x :: _ => .ok (Scalar.abs x)
  | .floor, x :: _ => (wholePart Scalar.floor x).map Scalar.whole
  | .ceil, x :: _ => (wholePart Scalar.ceil x).map Scalar.whole
  | _, [] => .ok Scalar.zero

end Scorekeeper.Formula
