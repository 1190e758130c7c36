set_option autoImplicit false

namespace Scorekeeper.Text

def hexCode (width code : Nat) : List Char :=
  let digits := Nat.toDigits 16 code
  List.replicate (width - digits.length) '0' ++ digits

def hexValue? (c : Char) : Option Nat :=
  if c.isDigit then some (c.toNat - '0'.toNat)
  else if 'a' ≤ c ∧ c ≤ 'f' then some (c.toNat - 'a'.toNat + 10)
  else if 'A' ≤ c ∧ c ≤ 'F' then some (c.toNat - 'A'.toNat + 10)
  else none

def readHex? (digits : List Char) : Option Nat := do
  return (← digits.mapM hexValue?).foldl (fun code digit => 16 * code + digit) 0

end Scorekeeper.Text
