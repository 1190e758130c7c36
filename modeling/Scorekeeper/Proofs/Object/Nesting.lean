import Mathlib.Data.Finset.Card
import Mathlib.Data.Finset.Dedup
import Scorekeeper.Object.Lifecycle

set_option autoImplicit false

/-!
# Nesting of references

The state of an object asks for the states of the objects that it refers to.  However the references
run, no more states are asked for inside one another than there are ids of definitions.
-/

namespace Scorekeeper

variable {R : Type}

namespace Scope

/-- What is found behind a reference, or `none` where that would nest too deeply. -/
abbrev Followed (R : Type) : Type := Option (Option (String × ObjectInstance R))

def ownerWithin (scope : Scope R) (follow : String → Followed R)
    (definition : ObjectDefinition R) : Option (Option String) :=
  match definition.ownership with
  | .ofObject reference =>
    (follow reference).map fun found => scope.ownerWith (fun _ => found) definition
  | _ => some (scope.ownerWith (fun _ => none) definition)

def isOpenWithin (scope : Scope R) (follow : String → Followed R)
    (definition : ObjectDefinition R) : Option Bool :=
  match definition.window with
  | .whileObject reference =>
    (follow reference).map fun found => scope.isOpenWith (fun _ => found) definition
  | _ => some (scope.isOpenWith (fun _ => none) definition)

def stateWithin (scope : Scope R) (definition : ObjectDefinition R) (object : ObjectInstance R) :
    Nat → Option String
  | 0 => none
  | depth + 1 => do
    let follow (reference : String) : Followed R :=
      match scope.referenced? definition.id reference with
      | none => some none
      | some (found, next) =>
        ((scope.entering definition.id).stateWithin found next depth).map fun state =>
          some (state, next)
    match present object.state with
    | some state => return state
    | none =>
      if object.value.isNull then return "inactive"
      let owner ← scope.ownerWithin follow definition
      if owner = some inactiveOwner then return "inactive"
      let isOpen ← scope.isOpenWithin follow definition
      if !isOpen then return "inactive"
      if owner = some sharedOwner then return "active"
      if (present owner).isSome then return "owned"
      if (present object.player).isSome then return "owned"
      return "active"

variable {scope : Scope R} {definition : ObjectDefinition R} {object : ObjectInstance R}

theorem ownerWithin_eq {follow : String → Followed R}
    {follow' : String → Option (String × ObjectInstance R)}
    (same : ∀ reference, follow reference = some (follow' reference)) :
    scope.ownerWithin follow definition = some (scope.ownerWith follow' definition) := by
  cases owned : definition.ownership <;> simp [ownerWithin, ownerWith, owned, same]

theorem isOpenWithin_eq {follow : String → Followed R}
    {follow' : String → Option (String × ObjectInstance R)}
    (same : ∀ reference, follow reference = some (follow' reference)) :
    scope.isOpenWithin follow definition = some (scope.isOpenWith follow' definition) := by
  cases window : definition.window <;> simp [isOpenWithin, isOpenWith, window, same]

def unenteredIds (scope : Scope R) (definition : String) : Finset String :=
  (scope.definitions.map ObjectDefinition.id).toFinset \ (definition :: scope.resolving).toFinset

theorem unenteredIds_lt {reference : String} {found : ObjectDefinition R}
    {next : ObjectInstance R}
    (reached : scope.referenced? definition.id reference = some (found, next)) :
    ((scope.entering definition.id).unenteredIds found.id).card <
      (scope.unenteredIds definition.id).card := by
  obtain ⟨member, other, fresh, -, -⟩ := referenced?_eq_some reached
  have present : found.id ∈ scope.unenteredIds definition.id := by
    simp only [unenteredIds, Finset.mem_sdiff, List.mem_toFinset, List.mem_cons, not_or]
    exact ⟨List.mem_map_of_mem member, other, fresh⟩
  have fewer : (scope.entering definition.id).unenteredIds found.id =
      (scope.unenteredIds definition.id).erase found.id := by
    ext id
    simp only [unenteredIds, entering, definitions, template?, Finset.mem_sdiff,
      List.mem_toFinset, List.mem_cons, not_or, Finset.mem_erase]
    grind
  -- Entering one definition takes its id away and brings back none.
  rw [fewer]
  exact Finset.card_erase_lt_of_mem present

theorem stateWithin_eq {depth : Nat} (enough : (scope.unenteredIds definition.id).card < depth) :
    scope.stateWithin definition object depth = some (scope.state definition object) := by
  induction depth generalizing scope definition object with
  | zero => exact absurd enough (Nat.not_lt_zero _)
  | succ depth ih =>
    have followed (reference : String) :
        (match scope.referenced? definition.id reference with
          | none => some none
          | some (found, next) =>
            ((scope.entering definition.id).stateWithin found next depth).map fun state =>
              some (state, next)) = some (scope.follow definition reference) := by
      rw [follow]
      cases reached : scope.referenced? definition.id reference with
      | none => rfl
      | some piece =>
        -- What is followed leaves one id fewer, so the depth that is left still suffices.
        have fewer := unenteredIds_lt reached
        have settled : (scope.entering definition.id).stateWithin piece.1 piece.2 depth =
            some ((scope.entering definition.id).state piece.1 piece.2) :=
          ih (Nat.lt_of_lt_of_le fewer (Nat.le_of_lt_succ enough))
        simp only [settled, Option.map_some]
    rw [state_eq, stateWithin]
    simp only [ownerWithin_eq followed, isOpenWithin_eq followed, stateWith]
    cases present object.state with
    | some state => rfl
    | none =>
      cases object.value.isNull with
      | true => rfl
      | false => simp [apply_ite some]

theorem stateWithin_eq_of_lt {depth : Nat}
    (enough : (scope.definitions.map ObjectDefinition.id).dedup.length < depth) :
    scope.stateWithin definition object depth = some (scope.state definition object) := by
  have fewer : (scope.unenteredIds definition.id).card ≤
      (scope.definitions.map ObjectDefinition.id).toFinset.card :=
    Finset.card_le_card Finset.sdiff_subset
  rw [List.card_toFinset] at fewer
  exact stateWithin_eq (Nat.lt_of_le_of_lt fewer enough)

end Scope

end Scorekeeper
