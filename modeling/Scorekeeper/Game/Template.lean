import Scorekeeper.Game.Object
import Scorekeeper.Game.Rule
import Scorekeeper.Text.Case

set_option autoImplicit false

namespace Scorekeeper

open Scorekeeper.Text

structure Mechanic (R : Type) where
  id : String
  kind : String
  name : String
  enabled : Bool
  config : List (String × Value R)

structure Template (R : Type) where
  id : String
  name : String
  objects : List (ObjectDefinition R)
  rules : List (RuleTemplate R)
  mechanics : List (Mechanic R)
  version : String

namespace Template

variable {R : Type}

def definition? (template : Template R) (id : String) : Option (ObjectDefinition R) :=
  template.objects.find? (·.id = id)

/-- Whether a reference in a formula, without regard to case, is a name, or is an id as it is. -/
def refersTo (reference name id : String) : Bool :=
  lowercase name = lowercase reference || id = reference

def named? (template : Template R) (reference : String) : Option (ObjectDefinition R) :=
  template.objects.find? fun definition => refersTo reference definition.name definition.id

def hasMechanic (template : Template R) (kind : String) : Bool :=
  template.mechanics.any fun mechanic => mechanic.kind = kind && mechanic.enabled

end Template

end Scorekeeper
