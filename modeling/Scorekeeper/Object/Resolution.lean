import Scorekeeper.Formula.Context
import Scorekeeper.Object.Lifecycle
import Scorekeeper.Object.Number
import Scorekeeper.Totals.Amount

set_option autoImplicit false

/-!
# What references mean

A reference in a formula means an object of the scope's player, else one of nobody in particular,
else a category's total.  `total` means the sum of all totals.
-/

namespace Scorekeeper

variable {R A : Type}

namespace Scope

def owners (scope : Scope R) : List (Option String) :=
  if scope.player.isSome then [scope.player, none] else [none]

def named? (scope : Scope R) (name : String) : Option (ObjectDefinition R) :=
  scope.template?.bind (·.named? name)

def stateByName (scope : Scope R) (name : String) : String :=
  match scope.named? name with
  | none => "inactive"
  | some definition =>
    let object? := (scope.instance? definition.id).orElse fun _ =>
      (scope.forPlayer none).instance? definition.id
    match object? with
    | none => "inactive"
    | some object => scope.state definition object

/-- Whether a player, else the scope's player, owns an object: an instance of their own that is
live, or one of nobody in particular whose owner they are. -/
def owns (scope : Scope R) (name : String) (player : Option String) : Bool :=
  match (present player).orElse fun _ => scope.player, scope.named? name with
  | some target, some definition =>
    let targetScope := scope.forPlayer (some target)
    match targetScope.instance? definition.id with
    | some object => isLive (targetScope.state definition object)
    | none =>
      ((scope.forPlayer none).instance? definition.id).isSome &&
        targetScope.owner definition = some target
  | _, _ => false

end Scope

variable [Scalar R]

def totalReference : String := "total"

def categoryTotal [Amount R A] (categories : List (Category R)) (totals : Table A) (name : String) :
    Except ArithmeticFault R :=
  let totalOf (key : String) : Except ArithmeticFault R :=
    Amount.toReal ((totals.get? key).getD Amount.absent)
  if name = totalReference then Amount.sumScore totals.values
  else
    match categories.find? fun category => Template.refersTo name category.name category.id with
    | some category => totalOf category.id
    | none => totalOf name

namespace Scope

def numberAmong? (scope : Scope R) (definition : ObjectDefinition R) :
    List (Option String) → Except ArithmeticFault (Option (Quantity R))
  | [] => .ok none
  | player :: others =>
    match scope.book.instance? scope.session definition.id player with
    | none => scope.numberAmong? definition others
    | some object =>
      -- Without a value, or with one that is no number, the next owner is asked.
      if object.current.isNull then scope.numberAmong? definition others
      else do
        match ← definition.number? object.current with
        | some number => return some number
        | none => scope.numberAmong? definition others

def objectNumber? (scope : Scope R) (name : String) :
    Except ArithmeticFault (Option (Quantity R)) :=
  match scope.named? name with
  | none => .ok none
  | some definition => scope.numberAmong? definition scope.owners

def objectScore? (scope : Scope R) (name : String) : Except ArithmeticFault (Option R) := do
  match ← scope.objectNumber? name with
  | none => return none
  | some number => return some (← number.toReal)

/-- What a formula sees in a scope where the totals are as given.  There are no phases yet, so none
is ever current. -/
def context [Amount R A] (scope : Scope R) (totals : Table A) : Formula.Context R :=
  { category := categoryTotal scope.categories totals
    object? := some scope.objectScore?
    state? := some scope.stateByName
    owns? := some scope.owns
    round? := some scope.roundIndex
    phase? := some none }

end Scope

end Scorekeeper
