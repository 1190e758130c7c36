import Scorekeeper.Text.Hex
import Scorekeeper.Value

set_option autoImplicit false

namespace Scorekeeper.Document

open Scorekeeper.Decimal Scorekeeper.Text

inductive Token (R : Type)
  | leaf (value : Value R)
  | openList
  | closeList
  | openRecord
  | closeRecord
  | colon
  | comma

abbrev Rest (text : List Char) := { rest : List Char // rest.length < text.length }

def escaped? : Char → Option Nat
  | '"' => some 0x22
  | '\\' => some 0x5C
  | '/' => some 0x2F
  | 'b' => some 0x08
  | 'f' => some 0x0C
  | 'n' => some 0x0A
  | 'r' => some 0x0D
  | 't' => some 0x09
  | _ => none

def readCodes : (text : List Char) → Option (List Nat × Rest text)
  | [] => none
  | '"' :: rest => some ([], ⟨rest, by simp⟩)
  | '\\' :: 'u' :: a :: b :: c :: d :: rest => do
    let code ← readHex? [a, b, c, d]
    let (codes, ⟨after, shorter⟩) ← readCodes rest
    return (code :: codes, ⟨after, by simp only [List.length_cons]; omega⟩)
  | '\\' :: c :: rest => do
    let code ← escaped? c
    let (codes, ⟨after, shorter⟩) ← readCodes rest
    return (code :: codes, ⟨after, by simp only [List.length_cons]; omega⟩)
  | c :: rest =>
    if c.toNat < 0x20 then none
    else do
      let (codes, ⟨after, shorter⟩) ← readCodes rest
      return (c.toNat :: codes, ⟨after, by simp only [List.length_cons]; omega⟩)

/-- Pairs of surrogate codes are one character; a lone surrogate has none and is replaced. -/
def joinCodes : List Nat → List Char
  | [] => []
  | [code] => [if (0xD800 ≤ code ∧ code < 0xE000) then '\uFFFD' else Char.ofNat code]
  | high :: low :: rest =>
    if 0xD800 ≤ high ∧ high < 0xDC00 ∧ 0xDC00 ≤ low ∧ low < 0xE000 then
      Char.ofNat (0x10000 + (high - 0xD800) * 0x400 + (low - 0xDC00)) :: joinCodes rest
    else
      (if 0xD800 ≤ high ∧ high < 0xE000 then '\uFFFD' else Char.ofNat high) ::
        joinCodes (low :: rest)

variable {R : Type} [Scalar R]

def isWordChar (c : Char) : Bool :=
  c.isAlphanum || c = '-' || c = '+' || c = '.'

def isDigits (text : List Char) : Bool :=
  !text.isEmpty && text.all Char.isDigit

/-- A number as a document writes it: no sign but a minus, no superfluous zero, and digits on both
sides of the point. -/
def isNumber (text : List Char) : Bool :=
  let unsigned := if text.head? = some '-' then text.drop 1 else text
  let (mantissa, exponent) := splitAtChar (fun c => c = 'e' || c = 'E') unsigned
  let (whole, fraction) := splitAtChar (· = '.') mantissa
  isDigits whole && (whole.length = 1 || whole.head? ≠ some '0') && fraction.all isDigits &&
    exponent.all fun power => isDigits (splitSign power).2

def ofWord? (word : List Char) : Option (Value R) :=
  match String.ofList word with
  | "null" => some .null
  | "true" => some (.bool true)
  | "false" => some (.bool false)
  | "NaN" => some (.real (Scalar.ofNumeral .undefined))
  | "Infinity" => some (.real (Scalar.ofNumeral (.infinite false)))
  | "-Infinity" => some (.real (Scalar.ofNumeral (.infinite true)))
  | text =>
    if isNumber word then
      match readWhole? word with
      | some n => some (.whole n)
      | none => (Scalar.read? text).map .real
    else none

def isSpace (c : Char) : Bool :=
  c = ' ' || c = '\t' || c = '\n' || c = '\r'

def mark? : Char → Option (Token R)
  | '[' => some .openList
  | ']' => some .closeList
  | '\x7b' => some .openRecord
  | '\x7d' => some .closeRecord
  | ':' => some .colon
  | ',' => some .comma
  | _ => none

def firstToken? (c : Char) (rest : List Char) : Option (Token R × Rest (c :: rest)) :=
  match mark? c with
  | some mark => some (mark, ⟨rest, by simp⟩)
  | none =>
    if c = '"' then do
      let (codes, ⟨after, shorter⟩) ← readCodes rest
      return (.leaf (.text (String.ofList (joinCodes codes))),
        ⟨after, by simp only [List.length_cons]; omega⟩)
    else do
      let value ← ofWord? (c :: rest.takeWhile isWordChar)
      return (.leaf value, ⟨rest.dropWhile isWordChar, by
        have := (List.dropWhile_sublist (l := rest) isWordChar).length_le
        simp only [List.length_cons]
        omega⟩)

def scan : List Char → Option (List (Token R))
  | [] => some []
  | c :: rest =>
    if isSpace c then scan rest
    else do
      let (token, ⟨after, _shorter⟩) ← firstToken? c rest
      let tokens ← scan after
      return token :: tokens
termination_by text => text.length
decreasing_by all_goals simp_all

end Scorekeeper.Document
