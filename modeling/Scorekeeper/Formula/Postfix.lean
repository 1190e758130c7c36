import Scorekeeper.Formula.Sign

set_option autoImplicit false

/-!
# Postfix order

Operators wait on a stack until one of lower or equal precedence, a comma, a closing parenthesis or
the end of the formula releases them; all of them associate to the left.  A frame is kept for each
open parenthesis, which counts the commas of a call.
-/

namespace Scorekeeper.Formula

inductive Item
  | number (text : String)
  | reference (name : String)
  | operator (op : Operator)
  | call (function : String) (arguments : Nat)
deriving Repr, DecidableEq

inductive Pending
  | operator (op : Operator)
  | function (name : String)
  | openParen
deriving Repr, DecidableEq

/-- The step that a released token makes; a function released without its parentheses is called
without arguments. -/
def Pending.item? : Pending → Option Item
  | .operator op => some (.operator op)
  | .function name => some (.call name 0)
  | .openParen => none

structure Frame where
  isCall : Bool
  commas : Nat
deriving Repr, DecidableEq

structure Yard where
  pending : List Pending
  frames : List Frame
  previous : Option Token
deriving Repr, DecidableEq

def Yard.start : Yard := ⟨[], [], none⟩

def Pending.yieldsTo (op : Operator) : Pending → Bool
  | .operator waiting => op.precedence ≤ waiting.precedence
  | _ => false

def Pending.inside : Pending → Bool
  | .openParen => false
  | _ => true

def release (waiting : Pending → Bool) (pending : List Pending) : List Item × List Pending :=
  ((pending.takeWhile waiting).filterMap Pending.item?, pending.dropWhile waiting)

theorem release_cons (waiting : Pending → Bool) (first : Pending) (pending : List Pending) :
    release waiting (first :: pending) =
      if waiting first
      then (first.item?.toList ++ (release waiting pending).1, (release waiting pending).2)
      else ([], first :: pending) := by
  cases stays : waiting first <;> cases item : first.item? <;> simp [release, stays, item]

theorem release_of_stops {waiting : Pending → Bool} {pending : List Pending}
    (stops : ∀ first ∈ pending.head?, waiting first = false) :
    release waiting pending = ([], pending) := by
  cases pending with
  | nil => rfl
  | cons first below => rw [release_cons, stops first rfl, if_neg Bool.false_ne_true]

def checkCall (previous : Option Token) (token : Token) : Except Malformed Unit :=
  match previous with
  | some (.function name) => if token.text = "(" then .ok () else .error (.functionWithoutParen name)
  | _ => .ok ()

def Yard.close (yard : Yard) : Except Malformed (List Item × List Pending × List Frame) :=
  match yard.frames with
  | [] => .error .unmatchedClosing
  | frame :: frames => do
    let (released, opened) := release Pending.inside yard.pending
    -- Every frame has its open parenthesis, so that one is left here.
    let .openParen :: outer := opened | throw .lostStep
    if frame.isCall then
      if yard.previous = some .comma then throw .missingArgument
      let arguments := if yard.previous = some .openParen then 0 else frame.commas + 1
      -- The parenthesis of a call was pushed right on its function.
      let .function name :: rest := outer | throw .lostStep
      return (released ++ [.call name arguments], rest, frames)
    else return (released, outer, frames)

def Yard.separate (yard : Yard) : Except Malformed (List Item × List Pending × List Frame) :=
  match yard.frames with
  -- A comma separates arguments, and each of them must have something in it.
  | ⟨true, commas⟩ :: frames =>
    if yard.previous = some .comma ∨ yard.previous = some .openParen then .error .missingArgument
    else
      let (released, pending) := release Pending.inside yard.pending
      .ok (released, pending, ⟨true, commas + 1⟩ :: frames)
  | _ => .error .strayComma

def Yard.step (yard : Yard) (token : Token) : Except Malformed (List Item × Yard) := do
  checkCall yard.previous token
  let (items, pending, frames) ← match token with
    | .number text => .ok ([.number text], yard.pending, yard.frames)
    | .reference name => .ok ([.reference name], yard.pending, yard.frames)
    | .function name => .ok ([], .function name :: yard.pending, yard.frames)
    | .operator op =>
      let (released, pending) := release (Pending.yieldsTo op) yard.pending
      .ok (released, .operator op :: pending, yard.frames)
    | .openParen =>
      let isCall := match yard.previous with
        | some (.function _) => true
        | _ => false
      .ok ([], .openParen :: yard.pending, ⟨isCall, 0⟩ :: yard.frames)
    | .closeParen => yard.close
    | .comma => yard.separate
  return (items, ⟨pending, frames, some token⟩)

def Yard.finish (yard : Yard) : Except Malformed (List Item) :=
  match yard.previous with
  | some (.function name) => .error (.functionWithoutParen name)
  | _ =>
    if yard.frames.isEmpty then .ok (yard.pending.filterMap Pending.item?)
    else .error .unmatchedOpening

def Yard.run (yard : Yard) : List Token → Except Malformed (List Item)
  | [] => yard.finish
  | token :: rest => do
    let (items, next) ← yard.step token
    let later ← next.run rest
    return items ++ later

def toPostfix (tokens : List Token) : Except Malformed (List Item) :=
  Yard.start.run tokens

end Scorekeeper.Formula
