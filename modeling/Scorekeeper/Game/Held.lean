import Scorekeeper.Value

set_option autoImplicit false

/-!
# Held values

A value that an instance holds, and where it is from.  What is no number equals nothing, not even
itself.  Inside a list or a record it is yet the same as itself: a text has one such number for all
places, and a value that is taken over whole keeps those that it has.
-/

namespace Scorekeeper

variable {R : Type}

inductive Origin
  /-- The one text that a whole book is read from. -/
  | text
  /-- A single value that was given on its own. -/
  | single (number : Nat)
deriving Repr, DecidableEq

def Origin.number : Origin → Nat
  | .text => 0
  | .single number => number

structure Held (R : Type) where
  value : Value R
  origin : Origin

namespace Held

def ofText (value : Value R) : Held R := ⟨value, .text⟩

/-- A score that was worked out.  The origin of a plain number never shows. -/
def ofScore (x : R) : Held R := ⟨.real x, .text⟩

def nothing : Held R := ⟨.null, .text⟩

def same [Scalar R] (left right : Held R) : Bool :=
  match left.value.quantity?, right.value.quantity? with
  | some x, some y => x.eq y
  | _, _ => left.value.sameBy (Quantity.sameWhere (left.origin = right.origin)) right.value

end Held

end Scorekeeper
