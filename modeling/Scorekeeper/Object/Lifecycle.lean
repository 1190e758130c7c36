import Scorekeeper.Object.Scope

set_option autoImplicit false

/-!
# The lifecycle of objects

An explicit state of an instance wins.  Else an object is inactive without a value, without an owner
or outside its window; it is active when it is everybody's, and owned when it is a player's.
Ownership and windows may refer to other objects.  A reference that leads back to an object on the
way to it counts as inactive, so each reference followed leaves fewer definitions to be entered.
-/

namespace Scorekeeper

variable {R : Type}

/-- The words for an owner that is everybody and one that is nobody. -/
def sharedOwner : String := "global"

def inactiveOwner : String := "inactive"

def isLive (state : String) : Bool :=
  state = "active" || state = "owned"

namespace Scope

/-- The definition referred to and its instance in the scope, unless the reference loops. -/
def referenced? (scope : Scope R) (definition reference : String) :
    Option (ObjectDefinition R × ObjectInstance R) := do
  let template ← scope.template?
  let found ← template.definition? reference
  if found.id = definition ∨ found.id ∈ scope.resolving then none
  let object ← scope.instance? reference
  return (found, object)

def unentered (scope : Scope R) (definition : String) : List (ObjectDefinition R) :=
  scope.definitions.filter fun other => other.id ≠ definition ∧ other.id ∉ scope.resolving

theorem referenced?_eq_some {scope : Scope R} {definition reference : String}
    {found : ObjectDefinition R} {object : ObjectInstance R}
    (reached : scope.referenced? definition reference = some (found, object)) :
    found ∈ scope.definitions ∧ found.id ≠ definition ∧ found.id ∉ scope.resolving ∧
      found.id = reference ∧ scope.instance? reference = some object := by
  unfold referenced? at reached
  simp only [Option.bind_eq_bind, Option.bind_eq_some_iff] at reached
  obtain ⟨template, isTemplate, other, isOther, rest⟩ := reached
  split at rest
  · simp at rest
  · rename_i fresh
    simp only [Option.pure_def, Option.bind_eq_some_iff, Option.some.injEq, Prod.mk.injEq] at rest
    obtain ⟨_, stored, rfl, rfl⟩ := rest
    rw [not_or] at fresh
    refine ⟨?_, fresh.1, fresh.2, ?_, stored⟩
    · simp only [definitions, isTemplate]
      exact List.mem_of_find?_eq_some isOther
    · simpa using List.find?_some isOther

theorem unentered_lt {scope : Scope R} {definition reference : String}
    {found : ObjectDefinition R} {object : ObjectInstance R}
    (reached : scope.referenced? definition reference = some (found, object)) :
    ((scope.entering definition).unentered found.id).length <
      (scope.unentered definition).length := by
  obtain ⟨member, other, fresh, -, -⟩ := referenced?_eq_some reached
  have present : found ∈ scope.unentered definition := by
    simp [unentered, member, other, fresh]
  have fewer : (scope.entering definition).unentered found.id =
      (scope.unentered definition).filter fun next => next.id ≠ found.id := by
    simp only [unentered, entering, definitions, template?, List.filter_filter]
    apply List.filter_congr
    intro next _
    simp only [List.mem_cons, not_or]
    grind
  rw [fewer]
  exact List.length_filter_lt_length_iff_exists.2 ⟨found, present, by simp⟩

/-- Who owns an object: a player, everybody, nobody, or `none` where a player's object is looked at
without a player.  `follow` gives the state and the instance behind a reference. -/
def ownerWith (scope : Scope R) (follow : String → Option (String × ObjectInstance R))
    (definition : ObjectDefinition R) : Option String :=
  match definition.ownership with
  | .inactive => some inactiveOwner
  | .shared => some sharedOwner
  | .player => scope.player
  | .ofObject reference =>
    match follow reference with
    | none => some inactiveOwner
    | some (state, object) =>
      if isLive state then (present object.player).orElse fun _ => some inactiveOwner
      else some inactiveOwner

def isOpenWith (scope : Scope R) (follow : String → Option (String × ObjectInstance R))
    (definition : ObjectDefinition R) : Bool :=
  match definition.window with
  | .always => true
  | .round id index =>
    match present id, index with
    | some id, _ => scope.round = some id
    | none, some index =>
      match scope.book.roundAt? scope.session index with
      | none => false
      | some round => some round.id = scope.round
    | none, none =>
      match scope.book.session? scope.session with
      | none => false
      | some session => session.settings.roundsEnabled && scope.round.isSome
  | .phase _ =>
    match scope.template? with
    | none => false
    | some template => template.hasMechanic "phase"
  | .whileObject reference =>
    match follow reference with
    | none => false
    | some (state, _) => isLive state

def stateWith (scope : Scope R) (follow : String → Option (String × ObjectInstance R))
    (definition : ObjectDefinition R) (object : ObjectInstance R) : String :=
  match present object.state with
  | some state => state
  | none =>
    if object.value.isNull then "inactive"
    else
      -- Ownership is settled before the window is looked at.
      let owner := scope.ownerWith follow definition
      if owner = some inactiveOwner then "inactive"
      else if !scope.isOpenWith follow definition then "inactive"
      else if owner = some sharedOwner then "active"
      else if (present owner).isSome then "owned"
      else if (present object.player).isSome then "owned"
      else "active"

def state (scope : Scope R) (definition : ObjectDefinition R) (object : ObjectInstance R) :
    String :=
  scope.stateWith (fun reference =>
    match _reached : scope.referenced? definition.id reference with
    | none => none
    | some (found, next) => some ((scope.entering definition.id).state found next, next))
    definition object
termination_by (scope.unentered definition.id).length
decreasing_by exact unentered_lt _reached

def follow (scope : Scope R) (definition : ObjectDefinition R) (reference : String) :
    Option (String × ObjectInstance R) :=
  (scope.referenced? definition.id reference).map fun (found, next) =>
    ((scope.entering definition.id).state found next, next)

theorem state_eq (scope : Scope R) (definition : ObjectDefinition R) (object : ObjectInstance R) :
    scope.state definition object =
      scope.stateWith (scope.follow definition) definition object := by
  rw [state]
  congr 1
  funext reference
  unfold follow
  split <;> simp_all

def owner (scope : Scope R) (definition : ObjectDefinition R) : Option String :=
  scope.ownerWith (scope.follow definition) definition

def isOpen (scope : Scope R) (definition : ObjectDefinition R) : Bool :=
  scope.isOpenWith (scope.follow definition) definition

def stateOf (scope : Scope R) (definition : String) : String :=
  let found := do
    let template ← scope.template?
    let definition ← template.definition? definition
    let object ← scope.instance? definition.id
    return scope.state definition object
  found.getD "inactive"

end Scope

end Scorekeeper
