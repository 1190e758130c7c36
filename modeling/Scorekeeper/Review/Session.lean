import Scorekeeper.Object.Resolution
import Scorekeeper.Review.Forest

set_option autoImplicit false

namespace Scorekeeper

open Scorekeeper.Text

variable {R : Type}

def knownNames (categories : List (Category R)) (objects : List (ObjectDefinition R)) :
    List String :=
  totalReference ::
    (categories.flatMap fun category => [lowercase category.name, lowercase category.id]) ++
    objects.flatMap fun definition => [lowercase definition.name, lowercase definition.id]

def reviewFormula (known : List String) (place : FormulaPlace) (formula : Option String) : Review :=
  match present formula with
  | none => .none
  | some formula =>
    match Formula.objection? formula with
    | some objection => ⟨[.formula place objection], []⟩
    | none =>
      let unknown := (Formula.references formula).filter fun name => !known.contains (lowercase name)
      ⟨[], unknown.map (.unknownReference place)⟩

def ObjectDefinition.issues (definition : ObjectDefinition R) (ids : List String) : List Issue :=
  let unknown (reference : String) (issue : String → String → Issue) : List Issue :=
    if ids.contains reference then [] else [issue definition.name reference]
  (if definition.id = "" then [Issue.objectWithoutId] else []) ++
    (if definition.name = "" then [.objectWithoutName definition.id] else []) ++
    (if definition.kind = .set ∧ definition.setKind = none then
      [.setWithoutKind definition.name] else []) ++
    (match definition.ownership? with
      | some (.ofObject reference) => unknown reference .unknownOwner
      | _ => []) ++
    (match definition.window? with
      | some (.whileObject reference) => unknown reference .unknownWindow
      | _ => [])

def reviewObject (known ids : List String) (definition : ObjectDefinition R) : Review :=
  .all [⟨definition.issues ids, []⟩,
    reviewFormula known (.calculation definition.name) definition.calculation,
    reviewFormula known (.scoreImpact definition.name) definition.scoreImpact]

def reviewRule (known categoryIds : List String) (rule : Rule R) : List Warning :=
  let unknownTarget := (present rule.action.target).filter (!categoryIds.contains ·)
  let unknownSubject := (present rule.condition.category).filter fun subject =>
    !categoryIds.contains subject && !known.contains (lowercase subject)
  (unknownTarget.map (.unknownTarget rule.name)).toList ++
    (unknownSubject.map (.unknownSubject rule.name)).toList

def reviewSession (book : Book R) (session : String) : Review :=
  match book.session? session with
  | none => ⟨[.unknownSession session], []⟩
  | some _ =>
    let categories := book.sessionCategories session
    let objects := ((book.template? session).map Template.objects).getD []
    let known := knownNames categories objects
    .all [
      ⟨[], if (book.template? session).isSome then [] else [.noTemplate]⟩,
      ⟨(Forest.ofList categories).issues, []⟩,
      .all (categories.map fun category =>
        reviewFormula known (.category category.name) category.formula),
      .all (objects.map (reviewObject known (objects.map ObjectDefinition.id))),
      ⟨[], (book.sessionRules session).flatMap
        (reviewRule known (categories.map Category.id))⟩]

end Scorekeeper
