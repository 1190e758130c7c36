import Scorekeeper.Quantity
import Scorekeeper.Game.Entry

set_option autoImplicit false

namespace Scorekeeper

inductive Comparison
  | atLeast
  | atMost
  | equal
  | unequal
  | above
  | below
deriving Repr, DecidableEq

def Comparison.ofText? : String → Option Comparison
  | ">=" => some .atLeast
  | "<=" => some .atMost
  | "==" => some .equal
  | "!=" => some .unequal
  | ">" => some .above
  | "<" => some .below
  | _ => none

def Comparison.text : Comparison → String
  | .atLeast => ">="
  | .atMost => "<="
  | .equal => "=="
  | .unequal => "!="
  | .above => ">"
  | .below => "<"

inductive Subject
  | total
  | category
  | round
deriving Repr, DecidableEq

/-- A number in a rule, and whether it was written as a text. -/
structure Figure (R : Type) where
  amount : R
  quoted : Bool

structure Condition (R : Type) where
  subject : Subject
  comparison : Comparison
  value : Figure R
  category : Option String
  round : Option String

inductive Effect
  | add
  | multiply
  | set
deriving Repr, DecidableEq

structure Action (R : Type) where
  effect : Effect
  value : Figure R
  target : Option String

structure Rule (R : Type) where
  id : String
  session : String
  name : String
  condition : Condition R
  action : Action R
  enabled : Bool
  templateRule : Option String

structure RuleTemplate (R : Type) where
  id : String
  name : String
  condition : Condition R
  action : Action R
  enabled : Bool
  required : Bool
  description : Option String

variable {R : Type} [Scalar R]

/-- Whether two figures are the same.  What is no number is the same in all of one text, but for
figures in quotes, each of which is read on its own. -/
def Figure.same (oneText : Bool) (left right : Figure R) : Bool :=
  Quantity.sameWhere (oneText && !left.quoted && !right.quoted) (.real left.amount)
    (.real right.amount)

def Condition.same (oneText : Bool) (left right : Condition R) : Bool :=
  left.subject = right.subject && left.comparison = right.comparison &&
    left.value.same oneText right.value && left.category = right.category &&
    left.round = right.round

def Action.same (oneText : Bool) (left right : Action R) : Bool :=
  left.effect = right.effect && left.value.same oneText right.value && left.target = right.target

end Scorekeeper
