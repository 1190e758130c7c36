import Scorekeeper.Text.CaseTable

set_option autoImplicit false

/-!
# Small and capital forms of a text

Full case mapping: a character may become several, and a capital sigma becomes the final sigma when
it ends a word.
-/

namespace Scorekeeper.Text

def isCased (c : Char) : Bool :=
  inRanges casedRanges c.toNat

def isIgnorable (c : Char) : Bool :=
  inRanges ignorableRanges c.toNat

def mapped (runs : Array CaseRun) (c : Char) : Char :=
  match runs.findSome? (CaseRun.image? · c.toNat) with
  | some code => Char.ofNat code
  | none => c

def smallForm (c : Char) : List Char :=
  if c.toNat < 0x80 then [c.toLower]
  else if c = '\u0130' then ['i', '\u0307']
  else [mapped smallRuns c]

def capitalForm (c : Char) : List Char :=
  if c.toNat < 0x80 then [c.toUpper]
  else
    match capitalExpansions.find? fun expansion => expansion.1 == c.toNat with
    | some (_, codes) => codes.map Char.ofNat
    | none => [mapped capitalRuns c]

def meetsCased (neighbours : List Char) : Bool :=
  match neighbours.dropWhile isIgnorable with
  | [] => false
  | c :: _ => isCased c

/-- The small form of a text that stands after the characters `before`, the nearest first. -/
def lowercaseAfter (before : List Char) : List Char → List Char
  | [] => []
  | c :: after =>
    (if c = 'Σ' then
      if meetsCased before && !meetsCased after then ['ς'] else ['σ']
    else smallForm c) ++ lowercaseAfter (c :: before) after

def lowercase (text : String) : String :=
  String.ofList (lowercaseAfter [] text.toList)

def uppercase (text : String) : String :=
  String.ofList (text.toList.flatMap capitalForm)

end Scorekeeper.Text
