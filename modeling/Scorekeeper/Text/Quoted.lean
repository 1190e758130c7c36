import Scorekeeper.Text.Hex
import Scorekeeper.Text.Printable

set_option autoImplicit false

/-!
# Quoted texts

A text in quotes shows every character: a text is put between single quotes unless it holds a single
quote and no double quote; the quote in use and the backslash stand behind a backslash, and a
character that cannot be printed is written by its code.
-/

namespace Scorekeeper.Text

def quotedChar (quote c : Char) : List Char :=
  if c = quote ∨ c = '\\' then ['\\', c]
  else if c = '\t' then ['\\', 't']
  else if c = '\n' then ['\\', 'n']
  else if c = '\r' then ['\\', 'r']
  else if isPrintable c then [c]
  else if c.toNat < 0x100 then '\\' :: 'x' :: hexCode 2 c.toNat
  else if c.toNat < 0x10000 then '\\' :: 'u' :: hexCode 4 c.toNat
  else '\\' :: 'U' :: hexCode 8 c.toNat

def quoted (text : String) : String :=
  let characters := text.toList
  let quote := if '\'' ∈ characters ∧ '"' ∉ characters then '"' else '\''
  String.ofList (quote :: characters.flatMap (quotedChar quote) ++ [quote])

end Scorekeeper.Text
