import Scorekeeper.Proofs.Except
import Scorekeeper.Proofs.Formula.Expression

set_option autoImplicit false

namespace Scorekeeper.Formula

open Scorekeeper.Text

def compile (formula : String) : Except Malformed (List Item) := do
  if (trim formula.toList).isEmpty then throw .empty
  let tokens ← tokenize (trimmed formula)
  if tokens.isEmpty then throw .noTokens
  toPostfix (resolveSigns tokens)

theorem compile_eq_ok_iff {formula : String} {items : List Item} :
    compile formula = .ok items ↔
      (trim formula.toList).isEmpty = false ∧ ∃ tokens, tokenize (trimmed formula) = .ok tokens ∧
        tokens ≠ [] ∧ toPostfix (resolveSigns tokens) = .ok items := by
  rw [compile]
  cases (trim formula.toList).isEmpty with
  | true => exact iff_of_false nofun nofun
  | false =>
    cases tokenize (trimmed formula) with
    | error cause => exact iff_of_false nofun nofun
    | ok tokens =>
      cases tokens with
      | nil => exact iff_of_false nofun (by simp)
      | cons first rest =>
        simp only [Except.ok.injEq, exists_eq_left', ne_eq, reduceCtorEq, not_false_eq_true,
          true_and]
        exact Iff.rfl

variable {R A B : Type}

namespace Evaluation

def Gives (computation : Evaluation R A) (a : A) : Prop :=
  ∃ before after, computation.run before = (.ok a, after)

theorem gives_pure {a b : A} : (pure a : Evaluation R A).Gives b ↔ a = b := by
  constructor
  · rintro ⟨before, after, same⟩
    cases same
    rfl
  · rintro rfl
    exact ⟨[], [], rfl⟩

theorem gives_throw {fault : Fault R} {a : A} :
    ¬ (throw fault : Evaluation R A).Gives a := by
  rintro ⟨before, after, same⟩
  cases same

theorem Gives.bind {first : Evaluation R A} {later : A → Evaluation R B} {b : B}
    (gives : (first >>= later).Gives b) : ∃ a, first.Gives a ∧ (later a).Gives b := by
  obtain ⟨before, after, same⟩ := gives
  change ExceptT.bindCont later (first.run before).1 (first.run before).2 = _ at same
  rcases outcome : first.run before with ⟨fault | a, between⟩
  · rw [outcome] at same
    cases same
  · rw [outcome] at same
    exact ⟨a, ⟨before, between, outcome⟩, between, after, same⟩

theorem gives_ofMalformed {result : Except Malformed A} {a : A}
    (gives : (ofMalformed result : Evaluation R A).Gives a) : result = .ok a := by
  cases result with
  | error cause => exact (gives_throw gives).elim
  | ok found => rw [gives_pure.1 gives]

theorem run_bind {first : Evaluation R A} {outcome : Except (Fault R) A} {made : List Lookup}
    (runs : ∀ before, first.run before = (outcome, before ++ made)) (later : A → Evaluation R B)
    (before : List Lookup) :
    (first >>= later).run before = ExceptT.bindCont later outcome (before ++ made) := by
  change ExceptT.bindCont later (first.run before).1 (first.run before).2 = _
  rw [runs]

def outcome (computation : Evaluation R A) : Except (Fault R) A :=
  (computation.run []).1

def Steady (computation : Evaluation R A) : Prop :=
  ∃ outcome made, ∀ before, computation.run before = (outcome, before ++ made)

@[simp] theorem outcome_pure (a : A) : (pure a : Evaluation R A).outcome = .ok a := rfl

@[simp] theorem outcome_throw (fault : Fault R) :
    (throw fault : Evaluation R A).outcome = .error fault := rfl

@[simp] theorem outcome_fail (cause : Uncomputable R) :
    (fail cause : Evaluation R A).outcome = .error (.uncomputable cause) := rfl

theorem steady_pure (a : A) : (pure a : Evaluation R A).Steady := by
  refine ⟨.ok a, [], fun before => ?_⟩
  rw [List.append_nil]
  rfl

theorem Steady.bind {first : Evaluation R A} {later : A → Evaluation R B} (steady : first.Steady)
    (next : ∀ a, (later a).Steady) : (first >>= later).Steady := by
  obtain ⟨outcome, made, runs⟩ := steady
  cases outcome with
  | error fault => exact ⟨.error fault, made, run_bind runs later⟩
  | ok a =>
    obtain ⟨outcome, more, ran⟩ := next a
    refine ⟨outcome, made ++ more, fun before => ?_⟩
    rw [run_bind runs, ← List.append_assoc]
    exact ran _

theorem outcome_bind {first : Evaluation R A} {later : A → Evaluation R B}
    (steady : ∀ a, (later a).Steady) :
    (first >>= later).outcome = first.outcome >>= fun a => (later a).outcome := by
  change (ExceptT.bindCont later (first.run []).1 (first.run []).2).1 = _
  rw [outcome]
  rcases first.run [] with ⟨fault | a, made⟩
  · rfl
  · obtain ⟨outcome, more, runs⟩ := steady a
    change ((later a).run made).1 = ((later a).run []).1
    rw [runs, runs]

end Evaluation

variable [Scalar R]

theorem evaluation_eq (context : Context R) (formula : String) :
    evaluation context formula = ofMalformed (compile formula) >>= run context := by
  rw [evaluation, compile]
  split
  · rfl
  cases tokenize (trimmed formula) with
  | error cause => rfl
  | ok tokens => cases tokens <;> rfl

theorem gives_run_of_evaluate {context : Context R} {formula : String} {value : R}
    (accepted : evaluate context formula = .ok value) :
    ∃ items, compile formula = .ok items ∧ (run context items).Gives value := by
  have gives : (evaluation context formula).Gives value := ⟨[], _, Prod.ext accepted rfl⟩
  rw [evaluation_eq] at gives
  obtain ⟨items, compiled, ran⟩ := gives.bind
  exact ⟨items, Evaluation.gives_ofMalformed compiled, ran⟩

inductive Special (context : Context R) (operands : List (Operand R)) :
    String → Evaluation R R → Prop
  | state {state : String → String} (known : context.state? = some state) :
      Special context operands "state" (callState state operands)
  | owns {owns : String → Option String → Bool} (known : context.owns? = some owns) :
      Special context operands "owns" (callOwns owns operands)
  | round {index : Int} (empty : operands = []) (known : context.round? = some index) :
      Special context operands "round"
        (record .round >>= fun _ => lift (Quantity.whole index).toReal)
  | phase {phase : Option String} (empty : operands = []) (known : context.phase? = some phase) :
      Special context operands "phase"
        (record .phase >>= fun _ => pure (ofBool (phase.any (· ≠ ""))))
  | choice : Special context operands "if" (callIf context operands)

theorem special_of_callSpecial? {context : Context R} {name : String} {operands : List (Operand R)}
    {call : Evaluation R R} (special : callSpecial? context name operands = some call) :
    Special context operands name call := by
  rw [callSpecial?] at special
  split at special
  · rename_i named
    obtain ⟨state, known, rfl⟩ := Option.map_eq_some_iff.1 special
    exact named ▸ .state known
  split at special
  · rename_i named
    obtain ⟨owns, known, rfl⟩ := Option.map_eq_some_iff.1 special
    exact named ▸ .owns known
  split at special
  · rename_i named
    obtain ⟨index, known, rfl⟩ := Option.map_eq_some_iff.1 special
    exact named.1 ▸ .round (List.isEmpty_iff.1 named.2) known
  split at special
  · rename_i named
    obtain ⟨phase, known, rfl⟩ := Option.map_eq_some_iff.1 special
    exact named.1 ▸ .phase (List.isEmpty_iff.1 named.2) known
  split at special
  · rename_i named
    cases special
    exact named ▸ .choice
  · cases special

end Scorekeeper.Formula
