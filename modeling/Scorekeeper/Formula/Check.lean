import Scorekeeper.Formula.Function
import Scorekeeper.Formula.Token
import Scorekeeper.Text.Case

set_option autoImplicit false

namespace Scorekeeper.Formula

open Scorekeeper.Text

inductive Objection
  | empty
  | noTokens
  | malformed (cause : Malformed)
  | emptyReference
deriving Repr, DecidableEq

def Objection.message : Objection → String
  | .empty => "Formula cannot be empty"
  | .noTokens => "No valid tokens found"
  | .malformed cause => cause.message
  | .emptyReference => "Empty object reference"

def balanceObjection? (depth : Nat) : List Token → Option Objection
  | [] => if depth = 0 then none else some (.malformed .unmatchedOpening)
  | .openParen :: rest => balanceObjection? (depth + 1) rest
  | .closeParen :: rest =>
    match depth with
    | 0 => some (.malformed .unmatchedClosing)
    | outer + 1 => balanceObjection? outer rest
  | _ :: rest => balanceObjection? depth rest

def Token.objection? : Token → Option Objection
  | .reference "" => some .emptyReference
  | .function name =>
    if isFunction (lowercase name) then none else some (.malformed (.unknownFunction name))
  | _ => none

def objection? (formula : String) : Option Objection :=
  if (trim formula.toList).isEmpty then some .empty
  else
    match tokenize (trimmed formula) with
    | .error cause => some (.malformed cause)
    | .ok [] => some .noTokens
    -- Parentheses come before names, wherever the two stand.
    | .ok tokens => (balanceObjection? 0 tokens).or (tokens.findSome? Token.objection?)

def Token.reference? : Token → Option String
  | .reference name => some name
  | _ => none

def references (formula : String) : List String :=
  match tokenize (trimmed formula) with
  | .error _ => []
  | .ok tokens => (tokens.filterMap Token.reference?).eraseDups.mergeSort (fun a b => a ≤ b)

end Scorekeeper.Formula
