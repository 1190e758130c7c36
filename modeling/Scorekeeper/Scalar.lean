import Scorekeeper.Decimal.Numeral

set_option autoImplicit false

/-!
# The numbers that scores are kept in

Everything in the engine is stated over a type `R` of scores, with the operations below and no law,
so that it runs on machine numbers and can be reasoned about over exact ones.  `whole n` is the
member of `R` nearest to `n`; `holds n` says whether `n` lies within the range of `R` at all.
-/

namespace Scorekeeper

open Scorekeeper.Decimal

inductive PowerFault
  | domain
  | range
deriving Repr, DecidableEq

inductive RoundingFault
  | infinite
  | undefined
deriving Repr, DecidableEq

def PowerFault.message : PowerFault → String
  | .domain => "math domain error"
  | .range => "math range error"

def RoundingFault.message : RoundingFault → String
  | .infinite => "cannot convert float infinity to integer"
  | .undefined => "cannot convert float NaN to integer"

class Scalar (R : Type) extends Add R, Sub R, Mul R, Div R where
  whole : Int → R
  holds : Int → Bool
  ofNumeral : Numeral → R
  lt : R → R → Bool
  le : R → R → Bool
  eq : R → R → Bool
  abs : R → R
  isFinite : R → Bool
  power : R → R → Except PowerFault R
  /-- A power of ten, when it does not exceed the range of `R`. -/
  powerOfTen? : R → Option R
  floor : R → Except RoundingFault Int
  ceil : R → Except RoundingFault Int
  toWhole? : R → Option Int
  compareWhole? : R → Int → Option Ordering
  text : R → String
  brief : R → String

namespace Scalar

variable {R : Type} [Scalar R]

def zero : R := whole 0

def one : R := whole 1

def whole? (n : Int) : Option R :=
  if holds R n then some (whole n) else none

def tolerance : R := ofNumeral (.finite false 1 (-3))

def read? (text : String) : Option R :=
  (Numeral.read? text).map ofNumeral

def sum (xs : List R) : R :=
  xs.foldl (· + ·) zero

end Scalar

end Scorekeeper
