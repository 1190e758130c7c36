import Scorekeeper.Decimal.Rounding

set_option autoImplicit false

/-!
# The written form of decimal numbers

A number is a row of significant digits and the exponent of the first.  A style decides which
exponents are written positionally and whether a whole number keeps its point.
-/

namespace Scorekeeper.Decimal

structure Style where
  positionalFrom : Int
  positionalBelow : Int
  keepPoint : Bool

def Style.full : Style := ⟨-4, 16, true⟩

def Style.brief : Style := ⟨-4, 6, false⟩

def digitsOf (n : Nat) : List Char :=
  Nat.toDigits 10 n

def withoutTrailingZeros (digits : List Char) : List Char :=
  (digits.reverse.dropWhile (· = '0')).reverse

def positional (keepPoint : Bool) (digits : List Char) (exponent : Int) : List Char :=
  let (whole, fraction) :=
    if exponent < 0 then (['0'], List.replicate (-exponent - 1).toNat '0' ++ digits)
    else
      let places := exponent.toNat + 1
      (digits.take places ++ List.replicate (places - digits.length) '0', digits.drop places)
  if fraction.isEmpty then whole ++ if keepPoint then ['.', '0'] else []
  else whole ++ '.' :: fraction

def scientific (digits : List Char) (exponent : Int) : List Char :=
  let power := digitsOf exponent.natAbs
  digits.take 1 ++ (if digits.length ≤ 1 then [] else '.' :: digits.drop 1) ++
    ['e', if exponent < 0 then '-' else '+'] ++ List.replicate (2 - power.length) '0' ++ power

/-- The number `significand` times the power of ten `last`. -/
def Style.write (style : Style) (negative : Bool) (significand : Nat) (last : Int) : String :=
  let all := digitsOf significand
  let digits := if significand = 0 then ['0'] else withoutTrailingZeros all
  let exponent := if significand = 0 then 0 else last + all.length - 1
  String.ofList <| (if negative then ['-'] else []) ++
    if style.positionalFrom ≤ exponent ∧ exponent < style.positionalBelow then
      positional style.keepPoint digits exponent
    else scientific digits exponent

end Scorekeeper.Decimal
