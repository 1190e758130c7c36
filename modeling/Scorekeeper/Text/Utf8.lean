set_option autoImplicit false

/-!
# Texts and bytes

Bytes in UTF-8 as characters, and characters as bytes.  The longest run of bytes that begins a
character without completing it, and each byte that begins none, stands for one replacement
character.
-/

namespace Scorekeeper.Text

/-- A character that has begun: its code so far, how many bytes it still wants, and the range of the
next one. -/
structure BegunChar where
  code : Nat
  wanted : Nat
  least : Nat
  most : Nat

def replacement : Char := '\uFFFD'

def firstByte (byte : Nat) : List Char × Option BegunChar :=
  if byte < 0x80 then ([Char.ofNat byte], none)
  else if 0xC2 ≤ byte ∧ byte < 0xE0 then ([], some ⟨byte - 0xC0, 1, 0x80, 0xBF⟩)
  else if 0xE0 ≤ byte ∧ byte < 0xF0 then
    ([], some ⟨byte - 0xE0, 2, if byte = 0xE0 then 0xA0 else 0x80,
      if byte = 0xED then 0x9F else 0xBF⟩)
  else if 0xF0 ≤ byte ∧ byte < 0xF5 then
    ([], some ⟨byte - 0xF0, 3, if byte = 0xF0 then 0x90 else 0x80,
      if byte = 0xF4 then 0x8F else 0xBF⟩)
  else ([replacement], none)

def nextByte (begun : Option BegunChar) (byte : Nat) : List Char × Option BegunChar :=
  match begun with
  | none => firstByte byte
  | some char =>
    if char.least ≤ byte ∧ byte ≤ char.most then
      let code := 0x40 * char.code + (byte - 0x80)
      if char.wanted = 1 then ([Char.ofNat code], none)
      else ([], some ⟨code, char.wanted - 1, 0x80, 0xBF⟩)
    else
      -- What has begun is given up, and the byte begins anew.
      let (characters, next) := firstByte byte
      (replacement :: characters, next)

def decodeFrom (begun : Option BegunChar) : List Nat → List Char
  | [] => if begun.isSome then [replacement] else []
  | byte :: rest =>
    let (characters, next) := nextByte begun byte
    characters ++ decodeFrom next rest

def bytewise (text : List Char) : List Char :=
  (String.ofList text).toUTF8.toList.map fun byte => Char.ofNat byte.toNat

end Scorekeeper.Text
