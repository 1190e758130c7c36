import Scorekeeper.Decimal.Numeral
import Scorekeeper.Record.Checked

set_option autoImplicit false

/-!
# Whole numbers in the texts of fields

A field may give a whole number as a text of ASCII digits with a sign before them.  What does not
count in it is taken off: blanks around it, zeros and underscores before its first digit, zeros
behind a point, and single underscores inside it.  Zeros may also stand before the sign.  A text that
is too long as it stands says so; one that is too long once it is bared is no number at all.
-/

namespace Scorekeeper.Record

open Scorekeeper.Decimal

def withoutUnderscores? (characters : List Char) : Option (List Char) :=
  let isMark := fun c : Char => c = '_'
  let doubled := (characters.zip (characters.drop 1)).any fun (c, next) => isMark c && isMark next
  if !characters.any isMark || characters.head?.any isMark || characters.getLast?.any isMark ||
      doubled then none
  else some (characters.filter (!isMark ·))

/-- What follows the zeros and underscores at the start of a text; `last` is the one just before
it, which stays when a point follows or nothing does. -/
def afterZeros? (last : Char) : List Char → Option (List Char)
  | [] => some [last]
  | c :: rest =>
    if c = '0' || c = '_' then afterZeros? c rest
    else if c = '.' then some (last :: c :: rest)
    else if c.isDigit || c = '-' then some (c :: rest)
    else none

def withoutZeros? : List Char → Option (List Char)
  | '0' :: rest => afterZeros? '0' rest
  | c :: rest => if c.isDigit then some (c :: rest) else none
  | [] => none

def withoutFraction (text : List Char) : List Char :=
  match splitAtChar (· = '.') text with
  | (whole, some zeros) => if !zeros.isEmpty && zeros.all (· = '0') then whole else text
  | (whole, none) => whole

def bared? (text : List Char) : Option (List Char) := do
  let (negative, rest) := splitSign (trimNumber text)
  let counted := withoutFraction (← withoutZeros? rest)
  let digits := (withoutUnderscores? counted).getD counted
  return if negative then '-' :: digits else digits

/-- The whole number of digits with at most a minus sign before them, which counts as a digit in the
length of the text.  Too great a length counts before what follows the digits. -/
def plainWhole (text : List Char) : Except FieldFault Int :=
  let negative := text.head? = some '-'
  let rest := if negative then text.drop 1 else text
  let row := rest.takeWhile Char.isDigit
  let size : Int := ofDigits (row.map fun c => c.toNat - '0'.toNat)
  if row.isEmpty || (row.length ≠ 1 && row.head? = some '0') then .error .intParsing
  else if row.length + (if negative then 1 else 0) > digitLimit then .error .intParsingSize
  else if row.length < rest.length then .error .intParsing
  else .ok (if negative then -size else size)

def baredWhole (text : List Char) : Except FieldFault Int :=
  match (bared? text).map plainWhole with
  | some (.ok n) => .ok n
  | _ => .error .intParsing

def wholeOfText (text : String) : Except FieldFault Int :=
  match plainWhole text.toList with
  | .error .intParsing => baredWhole text.toList
  | read => read

end Scorekeeper.Record
