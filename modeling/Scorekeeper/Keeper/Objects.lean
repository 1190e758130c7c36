import Scorekeeper.Keeper.Ledger
import Scorekeeper.Object.Evaluation
import Scorekeeper.Object.Validity

set_option autoImplicit false

/-!
# The keeper of objects

Values are checked against their definition before they are stored.  A refresh stores computed
values alone: a stored state would be explicit and hold the object fast.
-/

namespace Scorekeeper

variable {R : Type} [Scalar R]

inductive StoreObjection (R : Type)
  | value (objection : ValueObjection R)
  | notNumeric (name : String)

def StoreObjection.message : StoreObjection R → String
  | .value objection => objection.message
  | .notNumeric name => "Object '" ++ name ++ "' is not numeric"

namespace Keeper

def requireObject (keeper : Keeper R) (session definition : String) (player : Option String) :
    Except Refusal (ObjectDefinition R × ObjectInstance R) := do
  let _ ← keeper.requireSession session
  let some found := (keeper.book.template? session).bind (·.definition? definition)
    | throw (.unknownDefinition definition)
  let some object := keeper.book.instance? session definition player
    | throw (.noInstance definition player)
  return (found, object)

def storeObject (keeper : Keeper R) (object : ObjectInstance R) : Keeper R :=
  { keeper with book := keeper.book.putObject object }

def storeValue (keeper : Keeper R) (definition : ObjectDefinition R) (object : ObjectInstance R)
    (value : Value R) (now : R) : Option (StoreObjection R) × Keeper R :=
  match definition.objection? value with
  | some objection => (some (.value objection), keeper)
  | none =>
    let stored : Held R := ⟨value, .single keeper.book.unusedOrigin⟩
    (none, keeper.storeObject { object with stored, updatedAt := now, updatedBy := "manual" })

def setValue (keeper : Keeper R) (session definition : String) (value : Value R)
    (player : Option String) (now : R) : Except Refusal (Option (StoreObjection R) × Keeper R) := do
  let (found, object) ← keeper.requireObject session definition player
  return keeper.storeValue found object value now

def incremented (old : Value R) (sum : R) : Value R :=
  match old.isWhole, Scalar.toWhole? sum with
  | true, some n => .whole n
  | _, _ => .real sum

def increment (keeper : Keeper R) (session definition : String) (amount : Quantity R)
    (player : Option String) (now : R) : Except Refusal (Option (StoreObjection R) × Keeper R) := do
  let (found, object) ← keeper.requireObject session definition player
  match ← (found.number? object.value).mapError Refusal.arithmetic with
  | none => return (some (.notNumeric found.name), keeper)
  | some number =>
    match ← (number.add amount).mapError Refusal.arithmetic with
    -- Only an empty element set counts as a whole number.
    | .whole _ => throw .wholeIncrement
    | .real sum => return keeper.storeValue found object (incremented object.value sum) now

def reset (keeper : Keeper R) (session definition : String) (player : Option String) (now : R) :
    Except Refusal (ObjectInstance R × Keeper R) := do
  let (found, object) ← keeper.requireObject session definition player
  let stored : Held R := ⟨found.initialValue, keeper.book.templateOrigin⟩
  let fresh := { object with
    stored, computed := .nothing, state := none, updatedAt := now, updatedBy := "manual" }
  return (fresh, keeper.storeObject fresh)

def merged? (book : Book R) (updated : ObjectInstance R) : Option (ObjectInstance R) := do
  let object ← book.objects.get? updated.id
  if object.computed.same updated.computed then none
  else some { object with
    computed := updated.computed, lastComputedAt := updated.lastComputedAt }

def refresh (keeper : Keeper R) (session : String) (round : Option String) (now : R) :
    Except Refusal (ObjectEvaluation R × Keeper R) := do
  let _ ← keeper.requireSession session
  let evaluation := evaluateObjects keeper.book session round now
  let merged := evaluation.updated.filterMap (merged? keeper.book)
  return (evaluation, { keeper with book := keeper.book.putObjects merged })

end Keeper

end Scorekeeper
