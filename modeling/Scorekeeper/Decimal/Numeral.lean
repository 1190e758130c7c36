import Scorekeeper.Text.Blank
import Scorekeeper.Text.Digit

set_option autoImplicit false

/-!
# Numbers in texts

A number is a sign, digits with at most one point among them, and an exponent; single underscores
may stand between digits, and the digits of every script count.  `inf`, `infinity` and `nan` are
numbers too, in any case.
-/

namespace Scorekeeper.Decimal

open Scorekeeper.Text

inductive Numeral
  | finite (negative : Bool) (digits : Nat) (exponent : Int)
  | infinite (negative : Bool)
  | undefined
deriving Repr, DecidableEq

/-- The value of each digit, `none` when an underscore does not stand between two digits. -/
def digitRow? (afterDigit : Bool) : List Char → Option (List Nat)
  | [] => if afterDigit then some [] else none
  | '_' :: rest =>
    match afterDigit, rest with
    | true, c :: _ => if c = '_' then none else digitRow? false rest
    | _, _ => none
  | c :: rest =>
    match digitValue? c with
    | some value => (digitRow? true rest).map (value :: ·)
    | none => none

def ofDigits (digits : List Nat) : Nat :=
  digits.foldl (fun total digit => 10 * total + digit) 0

def optionalRow? (text : List Char) : Option (List Nat) :=
  if text.isEmpty then some [] else digitRow? false text

def splitSign : List Char → Bool × List Char
  | '-' :: rest => (true, rest)
  | '+' :: rest => (false, rest)
  | text => (false, text)

def splitAtChar (isMark : Char → Bool) (text : List Char) : List Char × Option (List Char) :=
  match text.dropWhile (!isMark ·) with
  | [] => (text, none)
  | _ :: rest => (text.takeWhile (!isMark ·), some rest)

def readWhole? (text : List Char) : Option Int :=
  let (negative, rest) := splitSign text
  (digitRow? false rest).map fun digits =>
    if negative then -(ofDigits digits : Int) else ofDigits digits

def readFinite? (negative : Bool) (text : List Char) : Option Numeral := do
  let (mantissa, power) := splitAtChar (fun c => c = 'e' || c = 'E') text
  let exponent ← match power with
    | none => some 0
    | some power => readWhole? power
  let (whole, fraction) := splitAtChar (· = '.') mantissa
  let wholeDigits ← optionalRow? whole
  let fractionDigits ← optionalRow? (fraction.getD [])
  let digits := wholeDigits ++ fractionDigits
  if digits.isEmpty then none
  else some (.finite negative (ofDigits digits) (exponent - fractionDigits.length))

/-- The blanks that may surround a number: those of ASCII but for the four separators. -/
def isPadding (c : Char) : Bool :=
  c = ' ' || (0x09 ≤ c.toNat && c.toNat ≤ 0x0D) || (0x80 ≤ c.toNat && isBlank c)

def trimNumber (text : List Char) : List Char :=
  ((text.dropWhile isPadding).reverse.dropWhile isPadding).reverse

def Numeral.read? (text : String) : Option Numeral :=
  let (negative, rest) := splitSign (trimNumber text.toList)
  let word := String.ofList (rest.map Char.toLower)
  if word = "inf" ∨ word = "infinity" then some (.infinite negative)
  else if word = "nan" then some .undefined
  else readFinite? negative rest

def digitLimit : Nat := 4300

def wholeNumber? (text : String) : Option Int :=
  let digits := text.toList.countP fun c => (digitValue? c).isSome
  if digits ≤ digitLimit then readWhole? (trimNumber text.toList) else none

end Scorekeeper.Decimal
