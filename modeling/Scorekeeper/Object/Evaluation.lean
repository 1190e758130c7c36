import Scorekeeper.Totals.Pipeline

set_option autoImplicit false

/-!
# Evaluating objects

A live object with a calculation gets a computed value, and a live object of a player with a score
impact a posting.  Formulas see the totals of the scope's player.  A formula that fails leaves the
stored value, or has no impact.  Nothing is written back.
-/

namespace Scorekeeper

variable {R : Type} [Scalar R]

namespace Scope

def objectTotals (scope : Scope R) : Table R :=
  if scope.player.isSome then categoryTotals scope else .empty

def computed {A : Type} [Amount R A] (scope : Scope R) (totals : Table A)
    (definition : ObjectDefinition R) (object : ObjectInstance R) : Held R :=
  match present definition.calculation with
  | none => object.stored
  | some formula =>
    match Formula.evaluate (scope.context totals) formula with
    | .ok x => .ofScore x
    | .error _ => object.stored

def scoreImpact {A : Type} [Amount R A] (scope : Scope R) (totals : Table A)
    (definition : ObjectDefinition R) (object : ObjectInstance R) : R :=
  match present definition.scoreImpact, present object.player, present scope.player with
  | some formula, some _, some _ =>
    match Formula.evaluate (scope.context totals) formula with
    | .ok x => x
    | .error _ => Scalar.zero
  | _, _, _ => Scalar.zero

def impactNote (name : String) : String :=
  "Auto: " ++ name ++ " score impact"

def impactPosting? (scope : Scope R) (totals : Table R) (now : R) (definition : ObjectDefinition R)
    (object : ObjectInstance R) : Option (Posting R) :=
  let impact := scope.scoreImpact totals definition object
  if Scalar.le (Scalar.abs impact) Scalar.tolerance then none
  else some
    { session := scope.session
      player := scope.player
      value := impact
      createdAt := now
      category := none
      round := scope.round
      note := some (impactNote definition.name)
      source := .ruleEngine }

def isLiveObject (scope : Scope R) (definition : ObjectDefinition R) (object : ObjectInstance R) :
    Bool :=
  scope.isOpen definition && isLive (scope.state definition object)

def updated? (scope : Scope R) (totals : Table R) (now : R) (definition : ObjectDefinition R)
    (object : ObjectInstance R) : Option (ObjectInstance R) :=
  let state := scope.state definition object
  let stateIsNew := object.state ≠ some state
  let computed := scope.computed totals definition object
  let computedIsNew := (present definition.calculation).isSome &&
    scope.isLiveObject definition object && !object.computed.same computed
  let withState := { object with state := some state }
  if computedIsNew then some { withState with computed, lastComputedAt := some now }
  else if stateIsNew then some withState
  else none

end Scope

structure ObjectEvaluation (R : Type) where
  updated : List (ObjectInstance R)
  postings : List (Posting R)

structure Placed (R : Type) where
  scope : Scope R
  totals : Table R
  object : ObjectInstance R

namespace Placed

def updated? (placed : Placed R) (now : R) (definition : ObjectDefinition R) :
    Option (ObjectInstance R) :=
  placed.scope.updated? placed.totals now definition placed.object

def posting? (placed : Placed R) (now : R) (definition : ObjectDefinition R) :
    Option (Posting R) :=
  if (present definition.scoreImpact).isSome && (present placed.scope.player).isSome &&
      placed.scope.isLiveObject definition placed.object then
    placed.scope.impactPosting? placed.totals now definition
      ((placed.updated? now definition).getD placed.object)
  else none

end Placed

def firstOfEachId (seen : List String) : List (Placed R) → List (Placed R)
  | [] => []
  | placed :: rest =>
    if placed.object.id ∈ seen then firstOfEachId seen rest
    else placed :: firstOfEachId (placed.object.id :: seen) rest

def ownerScopes (book : Book R) (session : String) (players : List String)
    (round : Option String) : List (Scope R) :=
  (none :: players.map some).map fun player => { book, session, player, round }

def Scope.placed (scope : Scope R) : List (Placed R) :=
  let totals := scope.objectTotals
  ((scope.book.sessionObjects scope.session).filter (·.player = scope.player)).map fun object =>
    { scope, totals, object }

def placedObjects (book : Book R) (session : String) (players : List String)
    (round : Option String) : List (Placed R) :=
  firstOfEachId [] ((ownerScopes book session players round).flatMap Scope.placed)

def evaluateObjects (book : Book R) (session : String) (round : Option String) (now : R) :
    ObjectEvaluation R :=
  match book.session? session, book.template? session with
  | some found, some template =>
    let evaluated {A : Type} (evaluate : Placed R → ObjectDefinition R → Option A) : List A :=
      (placedObjects book session found.players round).filterMap fun placed =>
        (template.definition? placed.object.definition).bind (evaluate placed)
    ⟨evaluated fun placed => placed.updated? now, evaluated fun placed => placed.posting? now⟩
  | _, _ => ⟨[], []⟩

def evaluateObject? (book : Book R) (session object : String) (round : Option String) (now : R) :
    Option (ObjectInstance R) := do
  let object ← book.objects.get? object
  let template ← book.template? session
  let definition ← template.definition? object.definition
  let scope : Scope R := { book, session, player := object.player, round }
  scope.updated? scope.objectTotals now definition object

def objectPostings (book : Book R) (session : String) (player round : Option String) (now : R) :
    List (Posting R) :=
  match book.template? session with
  | none => []
  | some template =>
    let scope : Scope R := { book, session, player, round }
    -- One set of totals serves all of the player's objects.
    let totals := scope.objectTotals
    (book.sessionObjects session).filterMap fun object => do
      if object.player ≠ player then none
      let definition ← template.definition? object.definition
      let _ ← present definition.scoreImpact
      if !scope.isLiveObject definition object then none
      scope.impactPosting? totals now definition object

end Scorekeeper
