import Scorekeeper.Game.Held

set_option autoImplicit false

namespace Scorekeeper

inductive ObjectKind
  | number
  | boolean
  | string
  | resource
  | territory
  | card
  | custom
  | set
deriving Repr, DecidableEq

def ObjectKind.isNumeric : ObjectKind → Bool
  | .number | .resource | .territory | .card => true
  | _ => false

inductive SetKind
  | identical
  | elements
deriving Repr, DecidableEq

inductive Ownership
  | shared
  | player
  /-- Defined but switched off. -/
  | inactive
  | ofObject (id : String)
deriving Repr, DecidableEq

inductive Window
  | always
  /-- Open in one round, by id or by index, or in any round. -/
  | round (id : Option String) (index : Option Int)
  /-- Open when the template has an enabled phase mechanic. -/
  | phase (id : Option String)
  | whileObject (id : String)
deriving Repr, DecidableEq

structure ObjectDefinition (R : Type) where
  id : String
  name : String
  kind : ObjectKind
  ownership? : Option Ownership
  window? : Option Window
  calculation : Option String
  scoreImpact : Option String
  defaultValue : Value R
  least : Option R
  most : Option R
  options : Option (List String)
  setKind : Option SetKind
  setElements : List String
  description : Option String

structure ObjectInstance (R : Type) where
  id : String
  session : String
  definition : String
  stored : Held R
  player : Option String
  /-- Null where nothing has been computed, and the stored value where a calculation failed. -/
  computed : Held R
  state : Option String
  updatedAt : R
  updatedBy : String
  lastComputedAt : Option R

variable {R : Type}

namespace ObjectDefinition

def ownership (definition : ObjectDefinition R) : Ownership :=
  definition.ownership?.getD (if definition.kind = .string then .shared else .player)

def window (definition : ObjectDefinition R) : Window :=
  definition.window?.getD .always

def initialValue (definition : ObjectDefinition R) : Value R :=
  if definition.defaultValue.isNull then
    match definition.kind, definition.setKind with
    | .boolean, _ => .bool false
    | .string, _ | .custom, _ => .text ""
    | .set, some .identical => .whole 0
    | .set, _ => .list []
    | _, _ => .whole 0
  else definition.defaultValue

end ObjectDefinition

namespace ObjectInstance

def value (object : ObjectInstance R) : Value R :=
  object.stored.value

def computedValue (object : ObjectInstance R) : Value R :=
  object.computed.value

def current (object : ObjectInstance R) : Value R :=
  if object.computedValue.isNull then object.value else object.computedValue

def latestOrigin (object : ObjectInstance R) : Nat :=
  max object.stored.origin.number object.computed.origin.number

def withOrigins (object : ObjectInstance R) (stored computed : Nat) : ObjectInstance R :=
  { object with
    stored := ⟨object.value, .single stored⟩
    computed := ⟨object.computedValue, .single computed⟩ }

end ObjectInstance

end Scorekeeper
