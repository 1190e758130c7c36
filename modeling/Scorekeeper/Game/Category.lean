import Scorekeeper.Game.Entry

set_option autoImplicit false

namespace Scorekeeper

inductive DisplayType
  | sum
  | formula
  | weighted
deriving Repr, DecidableEq

structure Category (R : Type) where
  id : String
  session : String
  name : String
  display : DisplayType
  parentId : Option String
  formula : Option String
  weight : Option R
  order : Int

namespace Category

variable {R : Type}

def parent? (category : Category R) : Option String :=
  present category.parentId

def isChildOf (parent : String) (category : Category R) : Bool :=
  category.parent? == some parent

end Category

end Scorekeeper
