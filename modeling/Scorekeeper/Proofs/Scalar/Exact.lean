import Mathlib.Algebra.BigOperators.Group.List.Basic
import Mathlib.Algebra.Order.Field.Rat
import Mathlib.Algebra.Order.AbsoluteValue.Basic
import Mathlib.Data.Rat.Floor
import Scorekeeper.Scalar

set_option autoImplicit false

/-!
# Exact scores

Scores are exact when each of them is a rational number and is added, subtracted, multiplied and
compared as such.  What powers are, and how scores are written, is left open.
-/

namespace Scorekeeper

class Exact (R : Type) [Scalar R] where
  value : R → ℚ
  value_injective : Function.Injective value
  value_whole (n : Int) : value (Scalar.whole n) = n
  value_decimal (digits : Nat) (exponent : Int) :
    value (Scalar.ofNumeral (.finite false digits exponent)) = digits * 10 ^ exponent
  value_add (x y : R) : value (x + y) = value x + value y
  value_sub (x y : R) : value (x - y) = value x - value y
  value_mul (x y : R) : value (x * y) = value x * value y
  value_abs (x : R) : value (Scalar.abs x) = |value x|
  lt_iff (x y : R) : Scalar.lt x y = true ↔ value x < value y
  le_iff (x y : R) : Scalar.le x y = true ↔ value x ≤ value y

namespace Exact

attribute [simp] value_whole value_decimal value_add value_sub value_mul value_abs lt_iff le_iff

variable {R : Type} [Scalar R] [Exact R]

@[simp] theorem value_inj {x y : R} : value x = value y ↔ x = y :=
  value_injective.eq_iff

@[simp] theorem value_zero : value (Scalar.zero : R) = 0 := by
  simp [Scalar.zero]

@[simp] theorem value_one : value (Scalar.one : R) = 1 := by
  simp [Scalar.one]

@[simp] theorem lt_eq_false_iff (x y : R) : Scalar.lt x y = false ↔ value y ≤ value x := by
  rw [← Bool.not_eq_true, lt_iff, not_lt]

theorem value_tolerance_pos : 0 < value (Scalar.tolerance : R) := by
  simp [Scalar.tolerance]

theorem value_sum (xs : List R) : value (Scalar.sum xs) = (xs.map value).sum := by
  have from_any (start : R) : value (xs.foldl (· + ·) start) = value start + (xs.map value).sum := by
    induction xs generalizing start with
    | nil => simp
    | cons x rest ih => rw [List.foldl_cons, ih, value_add, List.map_cons, List.sum_cons, add_assoc]
  rw [Scalar.sum, from_any, value_zero, zero_add]

end Exact

instance : Scalar ℚ where
  whole n := n
  holds _ := true
  ofNumeral
    | .finite negative digits exponent => (if negative then -1 else 1) * digits * 10 ^ exponent
    | .infinite _ | .undefined => 0
  lt x y := decide (x < y)
  le x y := decide (x ≤ y)
  eq x y := decide (x = y)
  abs x := |x|
  isFinite _ := true
  power base exponent := if exponent.den = 1 then .ok (base ^ exponent.num) else .error .domain
  powerOfTen? exponent := if exponent.den = 1 then some (10 ^ exponent.num) else none
  floor x := .ok ⌊x⌋
  ceil x := .ok ⌈x⌉
  toWhole? x := if x.den = 1 then some x.num else none
  compareWhole? x n := some (compare x n)
  text x := toString x
  brief x := toString x

instance : Exact ℚ where
  value x := x
  value_injective _ _ same := same
  value_whole _ := rfl
  value_decimal digits exponent := by simp [Scalar.ofNumeral]
  value_add _ _ := rfl
  value_sub _ _ := rfl
  value_mul _ _ := rfl
  value_abs _ := rfl
  lt_iff _ _ := decide_eq_true_iff
  le_iff _ _ := decide_eq_true_iff

end Scorekeeper
