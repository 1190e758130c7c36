import Scorekeeper.Proofs.Except
import Scorekeeper.Proofs.Ledger.Calls
import Scorekeeper.Proofs.Object.Evaluation

set_option autoImplicit false

namespace Scorekeeper

variable {R : Type}

inductive Call (R : Type)
  | ledger (call : LedgerCall R)
  | setValue (session definition : String) (value : Value R) (player : Option String) (now : R)
  | increment (session definition : String) (amount : Quantity R) (player : Option String) (now : R)
  | reset (session definition : String) (player : Option String) (now : R)
  | refresh (session : String) (round : Option String) (now : R)

inductive Answer (R : Type)
  | posted (result : EntryResult R)
  | removed (found : Bool)
  | checked (objection : Option (StoreObjection R))
  | stored (object : ObjectInstance R)
  | evaluated (evaluation : ObjectEvaluation R)

def Answer.declines : Answer R → Bool
  | .removed found => !found
  | .checked objection => objection.isSome
  | _ => false

def Call.DrawsUnused (book : Book R) : Call R → Prop
  | .ledger (.add freshId _ _ _ _ _ _ _) => Unused freshId book
  | _ => True

def ObjectInstance.written (object : ObjectInstance R) (value : Value R) (origin : Nat) (now : R) :
    ObjectInstance R :=
  { object with stored := ⟨value, .single origin⟩, updatedAt := now, updatedBy := "manual" }

def ObjectInstance.cleared (object : ObjectInstance R) (initial : Held R) (now : R) :
    ObjectInstance R :=
  { object with
    stored := initial, computed := .nothing, state := none, updatedAt := now, updatedBy := "manual" }

namespace Keeper

variable {keeper next : Keeper R} {session definition : String} {player : Option String} {now : R}

theorem requireObject_eq_ok_iff {found : ObjectDefinition R} {object : ObjectInstance R} :
    keeper.requireObject session definition player = .ok (found, object) ↔
      keeper.book.definition? session definition = some found ∧
        keeper.book.instance? session definition player = some object := by
  rw [requireObject, requireSession, Book.definition?]
  cases known : keeper.book.session? session with
  | none => simp [Book.template?, known, bind, Except.bind]
  | some record =>
    cases (keeper.book.template? session).bind (·.definition? definition) with
    | none => simp [bind, Except.bind, throw, throwThe, MonadExceptOf.throw]
    | some found =>
      cases keeper.book.instance? session definition player with
      | none => simp [bind, Except.bind, throw, throwThe, MonadExceptOf.throw]
      | some object => simp [bind, Except.bind, pure, Except.pure]

theorem reset_eq_ok {fresh : ObjectInstance R}
    (carried : keeper.reset session definition player now = .ok (fresh, next)) :
    ∃ found object, keeper.requireObject session definition player = .ok (found, object) ∧
      fresh = object.cleared ⟨found.initialValue, keeper.book.templateOrigin⟩ now ∧
      next = keeper.storeObject fresh := by
  rw [reset, bind_eq_ok_iff] at carried
  obtain ⟨⟨found, object⟩, required, ⟨⟩⟩ := carried
  exact ⟨found, object, required, rfl, rfl⟩

theorem removeEntry_eq_ok {id : String} {found : Bool}
    (carried : keeper.removeEntry session id = .ok (found, next)) :
    found = false ∧ next = keeper ∨
    ∃ entry, keeper.book.entries.get? id = some entry ∧ entry.session = session ∧
      found = true ∧ next = { keeper with book := keeper.book.removeEntry id } := by
  rw [removeEntry, bind_eq_ok_iff] at carried
  obtain ⟨-, -, carried⟩ := carried
  split at carried
  · cases carried
    exact .inl ⟨rfl, rfl⟩
  next entry held =>
    split at carried
    next own =>
      cases carried
      exact .inr ⟨entry, held, own, rfl, rfl⟩
    · cases carried
      exact .inl ⟨rfl, rfl⟩

variable [Scalar R]

theorem storeValue_of_accepted {found : ObjectDefinition R} {value : Value R}
    (accepted : found.objection? value = none) (object : ObjectInstance R) :
    keeper.storeValue found object value now =
      (none, keeper.storeObject (object.written value keeper.book.unusedOrigin now)) := by
  rw [storeValue, accepted]
  rfl

theorem storeValue_cases {found : ObjectDefinition R} {object : ObjectInstance R}
    {value : Value R} {objection : Option (StoreObjection R)}
    (done : keeper.storeValue found object value now = (objection, next)) :
    objection.isSome ∧ next = keeper ∨
    found.objection? value = none ∧ objection = none ∧
      next = keeper.storeObject (object.written value keeper.book.unusedOrigin now) := by
  cases checked : found.objection? value with
  | none =>
    rw [storeValue_of_accepted checked, Prod.mk.injEq] at done
    exact .inr ⟨rfl, done.1.symm, done.2.symm⟩
  | some raised =>
    rw [storeValue, checked, Prod.mk.injEq] at done
    exact .inl ⟨by rw [← done.1]; rfl, done.2.symm⟩

theorem setValue_eq_ok {value : Value R} {objection : Option (StoreObjection R)}
    (carried : keeper.setValue session definition value player now = .ok (objection, next)) :
    ∃ found object, keeper.requireObject session definition player = .ok (found, object) ∧
      keeper.storeValue found object value now = (objection, next) := by
  rw [setValue, bind_eq_ok_iff] at carried
  obtain ⟨⟨found, object⟩, required, done⟩ := carried
  exact ⟨found, object, required, Except.ok.inj done⟩

theorem increment_eq_ok {amount : Quantity R} {objection : Option (StoreObjection R)}
    (carried : keeper.increment session definition amount player now = .ok (objection, next)) :
    ∃ found object, keeper.requireObject session definition player = .ok (found, object) ∧
      (objection.isSome ∧ next = keeper ∨
        ∃ number sum, found.number? object.value = .ok (some number) ∧
          number.add amount = .ok (.real sum) ∧
          keeper.storeValue found object (incremented object.value sum) now = (objection, next)) := by
  rw [increment, bind_eq_ok_iff] at carried
  obtain ⟨⟨found, object⟩, required, carried⟩ := carried
  refine ⟨found, object, required, ?_⟩
  obtain ⟨number?, counted, carried⟩ := bind_eq_ok_iff.1 carried
  rw [mapError_eq_ok_iff] at counted
  cases number? with
  | none =>
    cases carried
    exact .inl ⟨rfl, rfl⟩
  | some number =>
    obtain ⟨total, added, carried⟩ := bind_eq_ok_iff.1 carried
    rw [mapError_eq_ok_iff] at added
    cases total with
    -- A whole sum is refused.
    | whole n => cases carried
    | real sum => exact .inr ⟨number, sum, counted, added, Except.ok.inj carried⟩

theorem refresh_eq_ok {round : Option String} {evaluation : ObjectEvaluation R}
    (carried : keeper.refresh session round now = .ok (evaluation, next)) :
    evaluation = evaluateObjects keeper.book session round now ∧
      next = { keeper with
        book := keeper.book.putObjects (keeper.book.recomputed session round now) } := by
  rw [refresh, bind_eq_ok_iff] at carried
  obtain ⟨-, -, ⟨⟩⟩ := carried
  exact ⟨rfl, rfl⟩

def answer (keeper : Keeper R) : Call R → Except Refusal (Answer R × Keeper R)
  | .ledger (.add freshId session player value category round note now) =>
    (keeper.addEntry freshId session player value category round note now).map fun done =>
      (.posted done.1, done.2)
  | .ledger (.remove session id) =>
    (keeper.removeEntry session id).map fun done => (.removed done.1, done.2)
  | .setValue session definition value player now =>
    (keeper.setValue session definition value player now).map fun done => (.checked done.1, done.2)
  | .increment session definition amount player now =>
    (keeper.increment session definition amount player now).map fun done =>
      (.checked done.1, done.2)
  | .reset session definition player now =>
    (keeper.reset session definition player now).map fun done => (.stored done.1, done.2)
  | .refresh session round now =>
    (keeper.refresh session round now).map fun done => (.evaluated done.1, done.2)

def after (keeper : Keeper R) (call : Call R) : Keeper R :=
  match keeper.answer call with
  | .ok (_, next) => next
  | .error _ => keeper

inductive Writes (keeper : Keeper R) :
    Call R → Answer R → ObjectInstance R → ObjectInstance R → Prop
  | set {session definition : String} {value : Value R} {player : Option String} {now : R}
      {found : ObjectDefinition R} {object : ObjectInstance R}
      (required : keeper.requireObject session definition player = .ok (found, object))
      (accepted : found.objection? value = none) :
      Writes keeper (.setValue session definition value player now) (.checked none) object
        (object.written value keeper.book.unusedOrigin now)
  | sum {session definition : String} {amount : Quantity R} {player : Option String} {now sum : R}
      {found : ObjectDefinition R} {object : ObjectInstance R} {number : Quantity R}
      (required : keeper.requireObject session definition player = .ok (found, object))
      (counted : found.number? object.value = .ok (some number))
      (added : number.add amount = .ok (.real sum))
      (accepted : found.objection? (incremented object.value sum) = none) :
      Writes keeper (.increment session definition amount player now) (.checked none) object
        (object.written (incremented object.value sum) keeper.book.unusedOrigin now)
  | initial {session definition : String} {player : Option String} {now : R}
      {found : ObjectDefinition R} {object fresh : ObjectInstance R}
      (required : keeper.requireObject session definition player = .ok (found, object))
      (cleared : fresh = object.cleared ⟨found.initialValue, keeper.book.templateOrigin⟩ now) :
      Writes keeper (.reset session definition player now) (.stored fresh) object fresh

variable {call : Call R} {answer : Answer R} {object fresh : ObjectInstance R}

theorem Writes.same (writes : keeper.Writes call answer object fresh) :
    fresh.id = object.id ∧ fresh.session = object.session ∧
      fresh.definition = object.definition ∧ fresh.player = object.player := by
  cases writes with
  | set | sum => exact ⟨rfl, rfl, rfl, rfl⟩
  | initial required cleared => exact cleared ▸ ⟨rfl, rfl, rfl, rfl⟩

theorem Writes.exists_mem (writes : keeper.Writes call answer object fresh) :
    ∃ session, object ∈ keeper.book.sessionObjects session := by
  cases writes with
  | set required | sum required | initial required =>
    exact ⟨_, List.mem_of_find?_eq_some (requireObject_eq_ok_iff.1 required).2⟩

theorem Writes.carried (writes : keeper.Writes call answer object fresh) :
    answer.declines = false := by
  cases writes <;> rfl

theorem answer_of_writes (writes : keeper.Writes call answer object fresh) :
    keeper.answer call = .ok (answer, keeper.storeObject fresh) := by
  cases writes with
  | set required accepted =>
    simp only [Keeper.answer, setValue, required, bind, Except.bind,
      storeValue_of_accepted accepted]
    rfl
  | sum required counted added accepted =>
    simp only [Keeper.answer, increment, required, counted, added, bind, Except.bind,
      Except.mapError, storeValue_of_accepted accepted]
    rfl
  | initial required cleared =>
    simp only [Keeper.answer, reset, required, bind, Except.bind, cleared]
    rfl

theorem answer_eq_ok_cases (answered : keeper.answer call = .ok (answer, next)) :
    (∃ ledgerCall, call = .ledger ledgerCall) ∨ answer.declines ∧ next = keeper ∨
    (∃ object fresh, keeper.Writes call answer object fresh ∧ next = keeper.storeObject fresh) ∨
    ∃ session round now, call = .refresh session round now ∧
      answer = .evaluated (evaluateObjects keeper.book session round now) ∧
      next = { keeper with
        book := keeper.book.putObjects (keeper.book.recomputed session round now) } := by
  cases call with
  | ledger call => exact .inl ⟨call, rfl⟩
  | setValue session definition value player now =>
    obtain ⟨⟨objection, next⟩, carried, ⟨⟩⟩ := map_eq_ok_iff.1 answered
    obtain ⟨found, object, required, done⟩ := setValue_eq_ok carried
    rcases storeValue_cases done with declined | ⟨accepted, rfl, rfl⟩
    · exact .inr (.inl declined)
    · exact .inr (.inr (.inl ⟨object, _, .set required accepted, rfl⟩))
  | increment session definition amount player now =>
    obtain ⟨⟨objection, next⟩, carried, ⟨⟩⟩ := map_eq_ok_iff.1 answered
    obtain ⟨found, object, required, declined | ⟨number, sum, counted, added, done⟩⟩ :=
      increment_eq_ok carried
    · exact .inr (.inl declined)
    · rcases storeValue_cases done with declined | ⟨accepted, rfl, rfl⟩
      · exact .inr (.inl declined)
      · exact .inr (.inr (.inl ⟨object, _, .sum required counted added accepted, rfl⟩))
  | reset session definition player now =>
    obtain ⟨⟨fresh, next⟩, carried, ⟨⟩⟩ := map_eq_ok_iff.1 answered
    obtain ⟨found, object, required, cleared, rfl⟩ := reset_eq_ok carried
    exact .inr (.inr (.inl ⟨object, fresh, .initial required cleared, rfl⟩))
  | refresh session round now =>
    obtain ⟨⟨evaluation, next⟩, carried, ⟨⟩⟩ := map_eq_ok_iff.1 answered
    obtain ⟨rfl, rfl⟩ := refresh_eq_ok carried
    exact .inr (.inr (.inr ⟨session, round, now, rfl, rfl, rfl⟩))

end Keeper

end Scorekeeper
