import Scorekeeper.Rule.Condition

set_option autoImplicit false

/-!
# Evaluating rules

A rule whose condition holds posts the difference that its action asks for.  History is never
changed: multiplying and setting post the difference to the target's present total.  Differences
below the tolerance are not posted.
-/

namespace Scorekeeper

variable {R : Type} [Scalar R]

def Action.targetTotal (action : Action R) (scope : Scope R) : R :=
  match present action.target with
  | some id => ((categoryTotals scope).get? id).getD Scalar.zero
  | none => playerTotal scope

def Action.difference (action : Action R) (target : R) : R :=
  match action.effect with
  | .add => action.value.amount
  | .multiply => target * action.value.amount - target
  | .set => action.value.amount - target

def Rule.note (rule : Rule R) : String :=
  "Auto: " ++ rule.name

def Rule.posting? (rule : Rule R) (scope : Scope R) (now : R) : Option (Posting R) :=
  let difference := rule.action.difference (rule.action.targetTotal scope)
  if Scalar.lt (Scalar.abs difference) Scalar.tolerance then none
  else some
    { session := scope.session
      player := scope.player
      value := difference
      createdAt := now
      category := rule.action.target
      round := scope.round
      note := some rule.note
      source := .ruleEngine }

structure RuleTest (R : Type) where
  wouldTrigger : Bool
  posting? : Option (Posting R)

def Rule.test (rule : Rule R) (scope : Scope R) (now : R) : RuleTest R :=
  match rule.condition.holds scope with
  | .ok true => ⟨true, rule.posting? scope now⟩
  | _ => ⟨false, none⟩

def Rule.matches (oneText : Bool) (rule : Rule R) (template : RuleTemplate R) : Bool :=
  template.condition.same oneText rule.condition && template.action.same oneText rule.action

/-- Whether an enabled rule of the template stands behind a session's rule: the one it was copied
from, or for a copy that does not say so, one that looks the same. -/
def Rule.isBacked (oneText : Bool) (rule : Rule R) (templates : List (RuleTemplate R)) : Bool :=
  (templates.filter (·.enabled)).any fun template =>
    match rule.templateRule with
    -- A rule that says where it was copied from may have been edited since.
    | some id => template.id = id
    | none => rule.matches oneText template

def activeRules (book : Book R) (session : String) : List (Rule R) :=
  match book.template? session with
  | none => []
  | some template =>
    (book.sessionRules session).filter fun rule =>
      rule.enabled && rule.isBacked book.oneText template.rules

def evaluateRules (scope : Scope R) (now : R) : List (Posting R) :=
  match scope.book.session? scope.session with
  | none => []
  | some _ =>
    (activeRules scope.book scope.session).filterMap fun rule =>
      match rule.condition.holds scope with
      | .ok true => rule.posting? scope now
      | _ => none

end Scorekeeper
