import Scorekeeper.Keeper.Ledger
import Scorekeeper.Record.Snapshot
import Scorekeeper.Review.Issue

set_option autoImplicit false

namespace Scorekeeper

open Scorekeeper.Formula

variable {R : Type}

inductive ServiceError (R : Type)
  | refused (refusal : Refusal)
  | entryNotFound (entry : String)
  | ruleNotFound (rule : Option String)
  | malformed (cause : Malformed)
  | uncomputable (cause : Uncomputable R)

inductive Response (R : Type)
  | formulaCheck (objection : Option Formula.Objection)
  | value (x : R)
  | references (names : List String)
  | loaded (sessions : List String)
  | totals (session : String) (round : Option String) (players : Table (Table R))
    (winners : List String)
  | posted (entry : Entry R) (ruleEntries : List (Entry R))
  | removed (entry : String)
  | ruleTest (wouldTrigger : Bool) (entry : Option (Entry R))
  | review (found : Review)
  | failed (cause : ServiceError R)

def nameOf {A : Type} [DecidableEq A] (choices : List (String × A)) (choice : A) : String :=
  ((choices.find? (·.2 = choice)).map Prod.fst).getD ""

namespace Value

def ofText? : Option String → Value R
  | some s => .text s
  | none => .null

def texts (items : List String) : Value R :=
  .list (items.map .text)

end Value

def Entry.document (entry : Entry R) : Value R :=
  .record [
    ("id", .text entry.id),
    ("session_id", .text entry.session),
    ("player_id", .ofText? entry.player),
    ("value", .real entry.value),
    ("created_at", .real entry.createdAt),
    ("category_id", .ofText? entry.category),
    ("round_id", .ofText? entry.round),
    ("note", .ofText? entry.note),
    ("source", .text (nameOf Record.sources entry.source))]

def Review.document (review : Review) : Value R :=
  .record [
    ("valid", .bool review.isValid),
    ("errors", .texts (review.errors.map Issue.message)),
    ("warnings", .texts (review.warnings.map Warning.message))]

variable [Scalar R]

namespace ServiceError

def message : ServiceError R → String
  | .refused refusal => refusal.message
  | .entryNotFound entry => "Entry not found: " ++ entry
  | .ruleNotFound rule => "Rule not found: " ++ rule.getD "None"
  | .malformed cause => cause.message
  | .uncomputable cause => cause.message

def code : ServiceError R → String
  | .refused (.sessionNotFound _) => "SESSION_NOT_FOUND"
  | .refused _ => "VALIDATION_ERROR"
  | .entryNotFound _ => "ENTRY_NOT_FOUND"
  | .ruleNotFound _ => "RULE_NOT_FOUND"
  | .malformed _ | .uncomputable _ => "FORMULA_ERROR"

def status : ServiceError R → Nat
  | .refused (.sessionNotFound _) | .entryNotFound _ | .ruleNotFound _ => 404
  | _ => 400

def details : ServiceError R → Value R
  | .malformed _ => .record [("type", .text "FormulaSyntaxError")]
  | .uncomputable _ => .record [("type", .text "FormulaRuntimeError")]
  | _ => .null

def document (error : ServiceError R) : Value R :=
  .record [
    ("error", .text error.message),
    ("error_code", .text error.code),
    ("details", error.details)]

end ServiceError

namespace Response

def status : Response R → Nat
  | .failed cause => cause.status
  | _ => 200

def playerDocument (player : String) (categories : Table R) : Value R :=
  .record [
    ("player_id", .text player),
    ("categories", .record (categories.map Value.real).pairs),
    ("total", .real (Scalar.sum categories.values))]

def document : Response R → Value R
  | .formulaCheck objection => .record [
      ("valid", .bool objection.isNone),
      ("error", .ofText? (objection.map Formula.Objection.message))]
  | .value x => .record [("value", .real x)]
  | .references names => .record [("references", .texts names)]
  | .loaded sessions => .record [("session_ids", .texts sessions)]
  | .totals session round players winners => .record [
      ("session_id", .text session),
      ("round_id", .ofText? round),
      ("players", .list (players.mapWithKey playerDocument).values),
      ("winners", .texts winners)]
  | .posted entry ruleEntries => .record [
      ("entry", entry.document),
      ("rule_entries", .list (ruleEntries.map Entry.document))]
  | .removed entry => .record [("success", .bool true), ("entry_id", .text entry)]
  | .ruleTest wouldTrigger entry => .record [
      ("would_trigger", .bool wouldTrigger),
      ("entry", (entry.map Entry.document).getD .null)]
  | .review found => found.document
  | .failed cause => cause.document

end Response

end Scorekeeper
