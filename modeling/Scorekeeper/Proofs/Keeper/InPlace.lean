import Scorekeeper.Proofs.Keeper.Call

set_option autoImplicit false

/-!
# A keeper held in one place

Calls as steps on the one keeper that is held.  What a step has written stays written when a later
step fails.  Yet a call that fails leaves the keeper as it was, since all that can fail comes before
the first write or is caught.
-/

namespace Scorekeeper

variable {R : Type}

abbrev Work (R : Type) : Type → Type :=
  EStateM Refusal (Keeper R)

namespace Work

variable {A : Type} {keeper : Keeper R}

def attempt (result : Except Refusal A) : Work R A := fun keeper =>
  match result with
  | .ok a => .ok a keeper
  | .error refusal => .error refusal keeper

def write (change : Keeper R → Keeper R) : Work R Unit :=
  modify change

theorem attempt_bind {B : Type} (result : Except Refusal A) (rest : A → Work R B)
    (keeper : Keeper R) : (attempt result >>= rest) keeper =
      match result with
      | .ok a => rest a keeper
      | .error refusal => .error refusal keeper := by
  cases result <;> rfl

theorem get_bind {B : Type} (rest : Keeper R → Work R B) (keeper : Keeper R) :
    (get >>= rest) keeper = rest keeper keeper := rfl

theorem bind_of_eq_ok {B : Type} {work : Work R A} {rest : A → Work R B} {next : Keeper R} {a : A}
    (done : work keeper = .ok a next) : (work >>= rest) keeper = rest a next := by
  change EStateM.bind work rest keeper = rest a next
  rw [EStateM.bind, done]

variable [Scalar R]

def rulePosting (scope : Scope R) (now : R) (rule : Rule R) : Work R (Option (Posting R)) :=
  tryCatch
    (do
      let met ← attempt ((rule.condition.holds scope).mapError Refusal.arithmetic)
      return if met then rule.posting? scope now else none)
    fun _ => return none

def rulePostings (scope : Scope R) (now : R) : List (Rule R) → Work R (List (Posting R))
  | [] => return []
  | rule :: rest => do
    let posting? ← rulePosting scope now rule
    let others ← rulePostings scope now rest
    return posting?.toList ++ others

def candidates (scope : Scope R) (now : R) : Work R (List (Posting R)) :=
  match scope.book.session? scope.session with
  | none => return []
  | some _ => rulePostings scope now (activeRules scope.book scope.session)

def cycle (session : String) (round : Option String) (now : R) : Work R (CycleResult R) := do
  let keeper ← get
  match trigger? keeper.book session with
  | none => return .skipped none .noManualEntry
  | some trigger =>
    if Scalar.lt keeper.windows.trigger (now - trigger.createdAt) then
      return .skipped trigger.player .triggerTooOld
    else if alreadyProcessed keeper.windows keeper.book trigger then
      return .skipped trigger.player .alreadyProcessed
    else
      let scope : Scope R := { book := keeper.book, session, player := trigger.player, round }
      let (accepted, suppressed) := suppress id keeper.windows.duplicate
        ((keeper.book.sessionEntries session).map Entry.toPosting) (← candidates scope now)
      return ⟨true, trigger.player, accepted, suppressed, none⟩

def add (freshId : Nat → String) (session : String) (player : Option String) (value : Quantity R)
    (category round note : Option String) (now : R) : Work R (Answer R) := do
  let found ← attempt ((← get).requireSession session)
  if !found.players.isEmpty && !(found.players.map some).contains player then
    throw (.playerNotInSession player session)
  else do
    let value ← attempt (value.toReal.mapError Refusal.arithmetic)
    let posting : Posting R :=
      { session, player, value, createdAt := now, category, round, note, source := .manual }
    let entry := posting.toEntry (freshId 0)
    -- The entry is in the held book before its cycle runs.
    write fun keeper => { keeper with book := keeper.book.addEntry entry }
    let cycle ← cycle session round now
    let ruleEntries := withIds (fun index => freshId (index + 1)) cycle.committed
    write fun keeper => { keeper with book := keeper.book.addEntries ruleEntries }
    return .posted ⟨entry, ruleEntries, cycle⟩

def remove (session id : String) : Work R (Answer R) := do
  let keeper ← get
  let _ ← attempt (keeper.requireSession session)
  match keeper.book.entries.get? id with
  | none => return .removed false
  | some entry =>
    if entry.session = session then do
      write fun keeper => { keeper with book := keeper.book.removeEntry id }
      return .removed true
    else return .removed false

def setValue (session definition : String) (value : Value R) (player : Option String) (now : R) :
    Work R (Answer R) := do
  let keeper ← get
  let (found, object) ← attempt (keeper.requireObject session definition player)
  match found.objection? value with
  | some objection => return .checked (some (.value objection))
  | none =>
    let stored : Held R := ⟨value, .single keeper.book.unusedOrigin⟩
    write fun keeper =>
      keeper.storeObject { object with stored, updatedAt := now, updatedBy := "manual" }
    return .checked none

def increment (session definition : String) (amount : Quantity R) (player : Option String)
    (now : R) : Work R (Answer R) := do
  let (found, object) ← attempt ((← get).requireObject session definition player)
  match ← attempt ((found.number? object.value).mapError Refusal.arithmetic) with
  | none => return .checked (some (.notNumeric found.name))
  | some number =>
    match ← attempt ((number.add amount).mapError Refusal.arithmetic) with
    | .whole _ => throw .wholeIncrement
    -- The sum is set like any other value, so the instance is looked up once more.
    | .real sum => setValue session definition (Keeper.incremented object.value sum) player now

def reset (session definition : String) (player : Option String) (now : R) :
    Work R (Answer R) := do
  let keeper ← get
  let (found, object) ← attempt (keeper.requireObject session definition player)
  let stored : Held R := ⟨found.initialValue, keeper.book.templateOrigin⟩
  let fresh := { object with
    stored, computed := .nothing, state := none, updatedAt := now, updatedBy := "manual" }
  write fun keeper => keeper.storeObject fresh
  return .stored fresh

def refresh (session : String) (round : Option String) (now : R) : Work R (Answer R) := do
  let keeper ← get
  let _ ← attempt (keeper.requireSession session)
  let evaluation := evaluateObjects keeper.book session round now
  let merged := evaluation.updated.filterMap (Keeper.merged? keeper.book)
  write fun keeper => { keeper with book := keeper.book.putObjects merged }
  return .evaluated evaluation

theorem rulePosting_eq (scope : Scope R) (now : R) (rule : Rule R) :
    rulePosting scope now rule keeper =
      .ok (match rule.condition.holds scope with
        | .ok true => rule.posting? scope now
        | _ => none) keeper := by
  cases met : rule.condition.holds scope with
  | error fault => simp only [rulePosting, met]; rfl
  | ok holds => cases holds <;> simp only [rulePosting, met] <;> rfl

theorem rulePostings_eq (scope : Scope R) (now : R) (rules : List (Rule R)) :
    rulePostings scope now rules keeper =
      .ok (rules.filterMap fun rule =>
        match rule.condition.holds scope with
        | .ok true => rule.posting? scope now
        | _ => none) keeper := by
  induction rules with
  | nil => rfl
  | cons rule rest ih =>
    rw [rulePostings, bind_of_eq_ok (rulePosting_eq scope now rule), bind_of_eq_ok ih,
      List.filterMap_cons]
    generalize (match rule.condition.holds scope with
      | .ok true => rule.posting? scope now
      | _ => none) = posting?
    cases posting? <;> rfl

theorem candidates_eq (scope : Scope R) (now : R) :
    candidates scope now keeper = .ok (evaluateRules scope now) keeper := by
  rw [candidates, evaluateRules]
  cases scope.book.session? scope.session with
  | none => rfl
  | some found => exact rulePostings_eq scope now _

theorem cycle_eq (session : String) (round : Option String) (now : R) :
    cycle session round now keeper =
      .ok (runCycle keeper.windows keeper.book session round now) keeper := by
  rw [cycle, get_bind, runCycle]
  cases trigger? keeper.book session with
  | none => rfl
  | some trigger =>
    by_cases old : Scalar.lt keeper.windows.trigger (now - trigger.createdAt) = true
    · simp only [old, if_true]
      rfl
    · by_cases answered : alreadyProcessed keeper.windows keeper.book trigger = true
      · simp only [old, answered, if_true]
        rfl
      · simp only [old, answered]
        exact bind_of_eq_ok (candidates_eq _ now)

/-- How a call ends in place when all that it writes is written at its end. -/
def settled (keeper : Keeper R) (result : Except Refusal (Answer R × Keeper R)) :
    EStateM.Result Refusal (Keeper R) (Answer R) :=
  match result with
  | .ok (answer, next) => .ok answer next
  | .error refusal => .error refusal keeper

theorem add_eq (freshId : Nat → String) (session : String) (player : Option String)
    (value : Quantity R) (category round note : Option String) (now : R) :
    add freshId session player value category round note now keeper =
      settled keeper (keeper.answer
        (.ledger (.add freshId session player value category round note now))) := by
  rw [add, get_bind, attempt_bind, Keeper.answer, Keeper.addEntry]
  cases keeper.requireSession session with
  | error refusal => rfl
  | ok found =>
    simp only [ok_bind]
    split
    · rfl
    · rw [attempt_bind]
      cases value.toReal with
      | error fault => rfl
      | ok x => exact bind_of_eq_ok (cycle_eq session round now)

theorem remove_eq (session id : String) : remove session id keeper =
    settled keeper (keeper.answer (.ledger (.remove session id))) := by
  rw [remove, get_bind, attempt_bind, Keeper.answer, Keeper.removeEntry]
  cases keeper.requireSession session with
  | error refusal => rfl
  | ok found =>
    simp only [ok_bind]
    cases keeper.book.entries.get? id with
    | none => rfl
    | some entry => by_cases own : entry.session = session <;> simp only [own] <;> rfl

theorem setValue_eq (session definition : String) (value : Value R) (player : Option String)
    (now : R) : setValue session definition value player now keeper =
      settled keeper (keeper.answer (.setValue session definition value player now)) := by
  rw [setValue, get_bind, attempt_bind, Keeper.answer, Keeper.setValue]
  cases keeper.requireObject session definition player with
  | error refusal => rfl
  | ok pair =>
    simp only [ok_bind, Keeper.storeValue]
    cases pair.1.objection? value <;> rfl

theorem increment_eq (session definition : String) (amount : Quantity R) (player : Option String)
    (now : R) : increment session definition amount player now keeper =
      settled keeper (keeper.answer (.increment session definition amount player now)) := by
  rw [increment, get_bind, attempt_bind, Keeper.answer, Keeper.increment]
  cases required : keeper.requireObject session definition player with
  | error refusal => rfl
  | ok pair =>
    simp only [ok_bind]
    rw [attempt_bind]
    rcases pair.1.number? pair.2.value with fault | _ | number
    · rfl
    · rfl
    · simp only [Except.mapError, ok_bind]
      rw [attempt_bind]
      rcases number.add amount with fault | n | sum
      · rfl
      · rfl
      · simp only [setValue_eq, Keeper.answer, Keeper.setValue, required, ok_bind]

theorem reset_eq (session definition : String) (player : Option String) (now : R) :
    reset session definition player now keeper =
      settled keeper (keeper.answer (.reset session definition player now)) := by
  rw [reset, get_bind, attempt_bind, Keeper.answer, Keeper.reset]
  cases keeper.requireObject session definition player <;> rfl

theorem refresh_eq (session : String) (round : Option String) (now : R) :
    refresh session round now keeper =
      settled keeper (keeper.answer (.refresh session round now)) := by
  rw [refresh, get_bind, attempt_bind, Keeper.answer, Keeper.refresh]
  cases keeper.requireSession session <;> rfl

end Work

variable [Scalar R]

def Call.inPlace : Call R → Work R (Answer R)
  | .ledger (.add freshId session player value category round note now) =>
    Work.add freshId session player value category round note now
  | .ledger (.remove session id) => Work.remove session id
  | .setValue session definition value player now =>
    Work.setValue session definition value player now
  | .increment session definition amount player now =>
    Work.increment session definition amount player now
  | .reset session definition player now => Work.reset session definition player now
  | .refresh session round now => Work.refresh session round now

theorem Call.inPlace_eq (call : Call R) (keeper : Keeper R) :
    call.inPlace keeper = Work.settled keeper (keeper.answer call) := by
  cases call with
  | ledger call =>
    cases call with
    | add freshId session player value category round note now =>
      exact Work.add_eq freshId session player value category round note now
    | remove session id => exact Work.remove_eq session id
  | setValue session definition value player now =>
    exact Work.setValue_eq session definition value player now
  | increment session definition amount player now =>
    exact Work.increment_eq session definition amount player now
  | reset session definition player now => exact Work.reset_eq session definition player now
  | refresh session round now => exact Work.refresh_eq session round now

end Scorekeeper
