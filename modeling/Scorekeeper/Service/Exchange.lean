import Scorekeeper.Service.Calls
import Scorekeeper.Service.Route

set_option autoImplicit false

/-!
# Exchanges

A request over HTTP and the reply to it.  Problems with the body are a reply too, which repeats what
has them; where that holds a number that no document can hold, the exchange breaks off, as it does
at a fault of arithmetic or a bad element in a book.
-/

namespace Scorekeeper

variable {R : Type}

structure HttpRequest (R : Type) where
  method : String
  address : String
  body : Option (Value R)

structure Reply (R : Type) where
  status : Nat
  body : Value R

inductive Breakdown
  | arithmetic (fault : ArithmeticFault)
  | elements (problems : List Problem)
  | unwritable
deriving Repr, DecidableEq

def Breakdown.message : Breakdown → String
  | .arithmetic fault => fault.message
  | .elements problems => Problem.summary problems
  | .unwritable => "Out of range float values are not JSON compliant"

inductive Stop
  | unread (problems : List Problem)
  | broken (breakdown : Breakdown)

def Reply.detail (status : Nat) (detail : String) : Reply R :=
  ⟨status, .record [("detail", .text detail)]⟩

def Reply.about : Reply R :=
  ⟨200, .record [
    ("name", .text "Tally Scoring API"),
    ("version", .text "1.0.0"),
    ("docs", .text "/api/docs"),
    ("health", .text "/api/v1/health")]⟩

def Reply.health (environment : String) : Reply R :=
  ⟨200, .record [
    ("status", .text "healthy"),
    ("service", .text "tally"),
    ("version", .text "1.0.0"),
    ("env", .text environment)]⟩

def Reply.elsewhere : Reply R :=
  ⟨307, .null⟩

def readBody {A : Type} (reading : Record.Reading R A) (body : Option (Value R)) : Except Stop A :=
  let checked := match body with
    | none => Checked.fault .missing true
    | some value => reading value
  (checked.inside "body").toExcept.mapError Stop.unread

variable [Scalar R]

def Response.reply (response : Response R) : Reply R :=
  ⟨response.status, response.document.writable⟩

namespace Keeper

structure Call (R : Type) where
  keeper : Keeper R
  moment : Moment R
  environment : String
  round : Option String
  body : Option (Value R)

def Call.readBook (call : Call R) : Except Stop (Book R) := do
  let book ← readBody (Record.book (Record.storedDialect .modelAttributesType)) call.body
  book.withElements.mapError fun problems => .broken (.elements problems)

def Call.answer (call : Call R) (route : Route) : Except Stop (Reply R × Keeper R) := do
  let { keeper, moment, environment, round, body } := call
  let withKeeper (answer : Response R × Keeper R) := (answer.1.reply, answer.2)
  match route with
  | .about => return (.about, keeper)
  | .manual => return (⟨200, .null⟩, keeper)
  | .health => return (.health environment, keeper)
  | .formulaCheck =>
    let request ← readBody (Record.formulaRequest .modelAttributesType) body
    return ((serviceCheck request).reply, keeper)
  | .formulaValue =>
    let request ← readBody (Record.evaluateRequest .modelAttributesType) body
    let response ← (serviceEvaluate request).mapError fun fault => Stop.broken (.arithmetic fault)
    return (response.reply, keeper)
  | .formulaReferences =>
    let request ← readBody (Record.formulaRequest .modelAttributesType) body
    return ((serviceReferences request).reply, keeper)
  | .book =>
    let book ← call.readBook
    return withKeeper (keeper.serviceLoad book)
  | .totals session => return ((keeper.serviceTotals session round).reply, keeper)
  | .entries session =>
    let request ← readBody (Record.entryRequest .modelAttributesType) body
    return withKeeper (keeper.serviceAddEntry moment session request)
  | .entry session id => return withKeeper (keeper.serviceRemoveEntry session id)
  | .ruleTest session =>
    let request ← readBody (Record.ruleTestRequest .modelAttributesType) body
    return ((keeper.serviceTestRule moment session request).reply, keeper)
  | .review session => return ((keeper.serviceReview session).reply, keeper)

def replyTo (stop : Stop) : Except Breakdown (Reply R) :=
  match stop with
  | .broken breakdown => .error breakdown
  | .unread problems =>
    if problems.all Problem.isWritable then .ok ⟨422, .text (Problem.summary problems)⟩
    else .error .unwritable

def exchange (keeper : Keeper R) (moment : Moment R) (environment : String)
    (request : HttpRequest R) : Except Breakdown (Reply R) × Keeper R :=
  let address := Address.ofText request.address
  match Route.ofPath? address.path with
  | none =>
    (.ok (if Route.isElsewhere address.path then .elsewhere else .detail 404 "Not Found"), keeper)
  | some route =>
    if request.method ∉ route.methods then (.ok (.detail 405 "Method Not Allowed"), keeper)
    else
      let call : Call R :=
        { keeper, moment, environment, round := address.value? "round_id", body := request.body }
      match call.answer route with
      | .error stop => (replyTo stop, keeper)
      | .ok (reply, next) => (.ok reply, next)

end Keeper

end Scorekeeper
