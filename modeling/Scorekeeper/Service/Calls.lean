import Scorekeeper.Formula.Evaluation
import Scorekeeper.Keeper.Objects
import Scorekeeper.Keeper.Totals
import Scorekeeper.Review.Session
import Scorekeeper.Service.Request
import Scorekeeper.Service.Response

set_option autoImplicit false

/-!
# Calls of the service

Each call answers with a response and leaves a keeper.  What the engine refuses is a response too,
except for faults of arithmetic, which no response stands for.
-/

namespace Scorekeeper

variable {R : Type} [Scalar R]

structure Moment (R : Type) where
  now : R
  freshId : Nat → String

def serviceCheck (request : FormulaRequest) : Response R :=
  .formulaCheck (Formula.objection? request.formula)

def serviceEvaluate (request : EvaluateRequest R) : Except ArithmeticFault (Response R) :=
  let references := request.references.map fun (name, x) => (name, Quantity.real x)
  match Formula.evaluateWith references request.roundIndex request.formula with
  | .ok x => .ok (.value x)
  | .error (.malformed cause) => .ok (.failed (.malformed cause))
  | .error (.uncomputable cause) => .ok (.failed (.uncomputable cause))
  | .error (.arithmetic fault) => .error fault

def serviceReferences (request : FormulaRequest) : Response R :=
  .references (Formula.references request.formula)

namespace Keeper

def respond (outcome : Except Refusal (Response R × Keeper R)) (keeper : Keeper R) :
    Response R × Keeper R :=
  match outcome with
  | .ok answer => answer
  | .error refusal => (.failed (.refused refusal), keeper)

def serviceLoad (keeper : Keeper R) (book : Book R) : Response R × Keeper R :=
  (.loaded book.sessions.keys, keeper.load book)

def serviceTotals (keeper : Keeper R) (session : String) (round : Option String) : Response R :=
  let answer : Except Refusal (Response R) := do
    return .totals session round (← keeper.totals session round) (← keeper.winners session round)
  match answer with
  | .ok response => response
  | .error refusal => .failed (.refused refusal)

def serviceAddEntry (keeper : Keeper R) (moment : Moment R) (session : String)
    (request : EntryRequest R) : Response R × Keeper R :=
  let outcome := keeper.addEntry moment.freshId session (some request.player) (.real request.value)
    request.category request.round request.note moment.now
  respond (outcome.map fun (result, next) => (.posted result.entry result.ruleEntries, next)) keeper

def serviceRemoveEntry (keeper : Keeper R) (session entry : String) : Response R × Keeper R :=
  respond ((keeper.removeEntry session entry).map fun (removed, next) =>
    (if removed then .removed entry else .failed (.entryNotFound entry), next)) keeper

def requestedRule? (keeper : Keeper R) (request : RuleTestRequest R) : Option (Rule R) :=
  request.rule.or ((present request.ruleId).bind keeper.book.rules.get?)

def serviceTestRule (keeper : Keeper R) (moment : Moment R) (session : String)
    (request : RuleTestRequest R) : Response R :=
  match keeper.requireSession session, keeper.requestedRule? request with
  -- A missing session counts before a missing rule.
  | .error refusal, _ => .failed (.refused refusal)
  | .ok _, none => .failed (.ruleNotFound request.ruleId)
  | .ok _, some rule =>
    let test := rule.test (playerScope keeper.book session request.round request.player) moment.now
    .ruleTest test.wouldTrigger (test.posting?.map (·.toEntry (moment.freshId 0)))

def serviceReview (keeper : Keeper R) (session : String) : Response R :=
  match keeper.requireSession session with
  | .error refusal => .failed (.refused refusal)
  | .ok _ => .review (reviewSession keeper.book session)

end Keeper

end Scorekeeper
