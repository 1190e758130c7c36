import Scorekeeper.Decimal.Rounding

set_option autoImplicit false

/-!
# The shortest decimal of a binary fraction

The numbers that round to a binary fraction form an interval around it.  Of the decimals in the
interval the one with the fewest digits is taken, and of two of these the nearer.
-/

namespace Scorekeeper.Decimal

/-- The reals that round to `significand` times the power of two `exponent`, in quarters of its
last place. -/
structure Interval where
  value : Nat
  low : Nat
  high : Nat
  closed : Bool
  exponent : Int

/-- The spacing below the smallest significand of a binade is half of that above it. -/
def Interval.around (significand : Nat) (exponent : Int) (halfBelow : Bool) : Interval :=
  { value := 4 * significand
    low := 4 * significand - if halfBelow then 1 else 2
    high := 4 * significand + 2
    closed := significand % 2 = 0
    exponent := exponent - 2 }

def Interval.contains (interval : Interval) (digits : Nat) (last : Int) : Bool :=
  let decimal := digits * Nat.pow 10 last.toNat * Nat.pow 2 (-interval.exponent).toNat
  let unit := Nat.pow 10 (-last).toNat * Nat.pow 2 interval.exponent.toNat
  if interval.closed then interval.low * unit ≤ decimal && decimal ≤ interval.high * unit
  else interval.low * unit < decimal && decimal < interval.high * unit

def Interval.neighbour? (interval : Interval) (last : Int) : Option Nat :=
  let (scaled, unit) := scaleTen (interval.value * Nat.pow 2 interval.exponent.toNat)
    (Nat.pow 2 (-interval.exponent).toNat) (-last)
  let below := scaled / unit
  -- If any number of the grid lies in the interval, so does one of these two.
  match interval.contains below last, interval.contains (below + 1) last with
  | true, true => some (roundHalfEven scaled unit)
  | true, false => some below
  | false, true => some (below + 1)
  | false, false => none

/-- Seventeen digits tell all binary fractions of fifty-three bits apart. -/
def Interval.shortest (interval : Interval) : Nat × Int :=
  let first := decimalExponent (interval.value * Nat.pow 2 interval.exponent.toNat)
    (Nat.pow 2 (-interval.exponent).toNat)
  let tried := (List.range 17).findSome? fun (extra : Nat) =>
    let last := first - extra
    (interval.neighbour? last).map (·, last)
  tried.getD (0, 0)

end Scorekeeper.Decimal
