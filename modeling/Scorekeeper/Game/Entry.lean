set_option autoImplicit false

namespace Scorekeeper

/-- A text that is given and not empty. -/
def present (text : Option String) : Option String :=
  text.filter (· ≠ "")

inductive Source
  | manual
  | ruleEngine
deriving Repr, DecidableEq

structure Posting (R : Type) where
  session : String
  player : Option String
  value : R
  createdAt : R
  category : Option String
  round : Option String
  note : Option String
  source : Source

structure Entry (R : Type) extends Posting R where
  id : String

def Posting.toEntry {R : Type} (posting : Posting R) (id : String) : Entry R :=
  { posting with id := id }

end Scorekeeper
