import Scorekeeper.Scalar
import Scorekeeper.Decimal.Layout
import Scorekeeper.Decimal.Shortest

set_option autoImplicit false

/-!
# Scores in double precision

A finite double is a significand below 2^53 times a power of two.  Reading rounds to the nearest
double, a tie going to the even significand; whole parts and comparisons with whole numbers are
exact.
-/

namespace Scorekeeper.Double

open Scorekeeper.Decimal

def signBit : Nat := Nat.pow 2 63

def hiddenBit : Nat := Nat.pow 2 52

structure Parts where
  negative : Bool
  significand : Nat
  exponent : Int

def isNegative (x : Float) : Bool :=
  x.toBits.toNat / signBit = 1

def parts (x : Float) : Parts :=
  let bits := x.toBits.toNat % signBit
  let field : Nat := bits / hiddenBit
  let fraction : Nat := bits % hiddenBit
  { negative := isNegative x
    significand := if field = 0 then fraction else hiddenBit + fraction
    exponent := if field = 0 then -1074 else (field : Int) - 1075 }

def ofMagnitude (negative : Bool) (bits : Nat) : Float :=
  -- What is larger than every finite double is infinite.
  let magnitude := min bits (2047 * hiddenBit)
  Float.ofBits (UInt64.ofNat (magnitude + if negative then signBit else 0))

/-- The double nearest to a quotient.  The exponent field and the significand are added, so that a
significand rounded up to the next power of two carries into the exponent. -/
def nearest (negative : Bool) (numerator denominator : Nat) : Float :=
  if numerator = 0 then ofMagnitude negative 0
  else
    -- The quotient scaled by this exponent lies above 2^52 and below 2^54.
    let guess : Int := (numerator.log2 : Int) - denominator.log2 - 53
    let scaled (exponent : Int) : Nat × Nat :=
      (numerator * Nat.pow 2 (-exponent).toNat, denominator * Nat.pow 2 exponent.toNat)
    let reaches (exponent : Int) : Bool :=
      (scaled exponent).1 / (scaled exponent).2 < 2 * hiddenBit
    -- Below 2^-1074 there is nothing finer, and the significand has fewer bits.
    let exponent := max (-1074) (if reaches guess then guess else guess + 1)
    let (top, bottom) := scaled exponent
    ofMagnitude negative ((exponent + 1074).toNat * hiddenBit + roundHalfEven top bottom)

def infinite (negative : Bool) : Float :=
  ofMagnitude negative (2047 * hiddenBit)

def undefined : Float :=
  Float.ofBits 0x7FF8000000000000

/-- Decimals far outside the range of a double are decided before any power of ten is formed. -/
def ofDecimal (negative : Bool) (digits : Nat) (exponent : Int) : Float :=
  if digits = 0 then ofMagnitude negative 0
  else
    let top : Int := digitCount digits + exponent
    if 400 < top then infinite negative
    else if top < -400 then ofMagnitude negative 0
    else nearest negative (digits * Nat.pow 10 exponent.toNat) (Nat.pow 10 (-exponent).toNat)

def ofNumeral : Numeral → Float
  | .finite negative digits exponent => ofDecimal negative digits exponent
  | .infinite negative => infinite negative
  | .undefined => undefined

def whole (n : Int) : Float :=
  nearest (n < 0) n.natAbs 1

def holds (n : Int) : Bool :=
  (whole n).isFinite

def signed (negative : Bool) (n : Nat) : Int :=
  if negative then -n else n

def floorFinite (x : Float) : Int :=
  let { negative, significand, exponent } := parts x
  signed negative (significand * Nat.pow 2 exponent.toNat) / (Nat.pow 2 (-exponent).toNat : Nat)

def rounded (finite : Float → Int) (x : Float) : Except RoundingFault Int :=
  if x.isNaN then .error .undefined
  else if x.isInf then .error .infinite
  else .ok (finite x)

def toWhole? (x : Float) : Option Int :=
  if x.isFinite then
    let n := floorFinite x
    -- The floor and the ceiling agree on whole numbers alone.
    if n = -floorFinite (-x) then some n else none
  else none

def compareWhole? (x : Float) (n : Int) : Option Ordering :=
  if x.isNaN then none
  else if x.isInf then some (if isNegative x then .lt else .gt)
  else
    let { negative, significand, exponent } := parts x
    some (compare (signed negative (significand * Nat.pow 2 exponent.toNat))
      (n * (Nat.pow 2 (-exponent).toNat : Nat)))

/-- A power of finite numbers that is no number is outside the domain; an infinite one is too when
the base is zero, and else out of range. -/
def power (base exponent : Float) : Except PowerFault Float :=
  let result := Float.pow base exponent
  if base.isFinite && exponent.isFinite && !result.isFinite then
    .error (if result.isNaN || base == 0 then .domain else .range)
  else .ok result

def powerOfTen? (exponent : Float) : Option Float :=
  let result := Float.pow 10 exponent
  if exponent.isFinite && !result.isFinite then none else some result

def write (finite : Parts → String) (x : Float) : String :=
  if x.isNaN then "nan"
  else if x.isInf then if isNegative x then "-inf" else "inf"
  else finite (parts x)

def text : Float → String :=
  write fun { negative, significand, exponent } =>
    let (digits, last) :=
      if significand = 0 then (0, 0)
      else (Interval.around significand exponent
        (significand = hiddenBit && exponent ≠ -1074)).shortest
    Style.full.write negative digits last

def brief : Float → String :=
  write fun { negative, significand, exponent } =>
    let (digits, last) :=
      if significand = 0 then (0, 0)
      else significant 6 (significand * Nat.pow 2 exponent.toNat) (Nat.pow 2 (-exponent).toNat)
    Style.brief.write negative digits last

instance : Scalar Float where
  whole := whole
  holds := holds
  ofNumeral := ofNumeral
  lt x y := x < y
  le x y := x ≤ y
  eq x y := x == y
  abs := Float.abs
  isFinite := Float.isFinite
  power := power
  powerOfTen? := powerOfTen?
  floor := rounded floorFinite
  ceil := rounded fun x => -floorFinite (-x)
  toWhole? := toWhole?
  compareWhole? := compareWhole?
  text := text
  brief := brief

end Scorekeeper.Double
