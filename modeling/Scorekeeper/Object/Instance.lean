import Scorekeeper.Object.Lifecycle

set_option autoImplicit false

namespace Scorekeeper

variable {R : Type}

/-- A player's object has one instance for each player, any other a single one.  What is owned by
way of another object starts inactive. -/
def ObjectDefinition.instances (definition : ObjectDefinition R) (session : String)
    (players : List String) (now : R) : List (ObjectInstance R) :=
  let fresh (id : String) (player state : Option String) : ObjectInstance R :=
    { id, session, definition := definition.id, stored := .ofText definition.initialValue, player
      computed := .nothing, state, updatedAt := now, updatedBy := "manual", lastComputedAt := none }
  let shared := definition.id ++ "-session-" ++ session
  match definition.ownership with
  | .player => players.map fun player => fresh (definition.id ++ "-" ++ player) (some player) none
  | .ofObject _ => [fresh shared none (some "inactive")]
  | .shared | .inactive => [fresh shared none none]

def Template.instances (template : Template R) (session : String) (players : List String)
    (now : R) : List (ObjectInstance R) :=
  template.objects.flatMap fun definition => definition.instances session players now

def instancesWhere (book : Book R) (session : String) (wanted : ObjectDefinition R → Bool) :
    List (ObjectInstance R) :=
  match book.template? session with
  | none => []
  | some template =>
    (book.sessionObjects session).filter fun object =>
      (template.definition? object.definition).any wanted

def instancesOwned (book : Book R) (session : String) (ownership : Ownership) :
    List (ObjectInstance R) :=
  instancesWhere book session fun definition => definition.ownership = ownership

def openInstances (scope : Scope R) : List (ObjectInstance R) :=
  instancesWhere scope.book scope.session scope.isOpen

end Scorekeeper
