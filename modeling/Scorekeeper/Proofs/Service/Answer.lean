import Scorekeeper.Proofs.Formula.Unanswered
import Scorekeeper.Proofs.Scalar.Exact
import Scorekeeper.Scalar.Double
import Scorekeeper.Service.Calls

set_option autoImplicit false

namespace Scorekeeper

open Scorekeeper.Formula

variable {R : Type} [Scalar R]

def Response.OfFormula : Response R → Prop
  | .value _ => True
  -- A lost step has a message, but it would be the fault of the reader and not of the formula.
  | .failed cause => cause.code = "FORMULA_ERROR" ∧ cause ≠ .malformed .lostStep
  | _ => False

def EvaluateRequest.Unanswered (request : EvaluateRequest R) (fault : ArithmeticFault) : Prop :=
  ComesUnanswered request.references request.roundIndex request.formula fault

theorem evaluateWith_real (references : List (String × R)) (round? : Option Int)
    (formula : String) :
    evaluateWith (references.map fun (name, x) => (name, .real x)) round? formula =
      evaluate (tableContext references round?) formula := by
  have kept : (references.map fun (name, x) => (name, Quantity.real x)).mapM
      (fun (reference : String × Quantity R) => do
        return (reference.1, ← reference.2.toReal)) = Except.ok references := by
    induction references with
    | nil => rfl
    | cons first rest ih =>
      rw [List.map_cons, List.mapM_cons, ih]
      rfl
  rw [evaluateWith, kept]
  rfl

def respondTo : Except (Fault R) R → Except ArithmeticFault (Response R)
  | .ok x => .ok (.value x)
  | .error (.malformed cause) => .ok (.failed (.malformed cause))
  | .error (.uncomputable cause) => .ok (.failed (.uncomputable cause))
  | .error (.arithmetic fault) => .error fault

theorem serviceEvaluate_eq (request : EvaluateRequest R) :
    serviceEvaluate request =
      respondTo (evaluate (tableContext request.references request.roundIndex) request.formula) := by
  rw [← evaluateWith_real]
  rfl

theorem EvaluateRequest.unanswered_iff {request : EvaluateRequest R}
    (held : ∀ index ∈ request.roundIndex, Scalar.holds R index = true) {fault : ArithmeticFault} :
    evaluate (tableContext request.references request.roundIndex) request.formula =
      .error (.arithmetic fault) ↔ request.Unanswered fault := by
  have escapes : (Fault.arithmetic fault : Fault R).Escapes := trivial
  rw [evaluate_eq_escape_iff held escapes]
  constructor
  · rintro ⟨_, unanswered, ⟨⟩⟩
    exact unanswered
  · exact fun unanswered => ⟨fault, unanswered, rfl⟩

theorem serviceEvaluate_eq_error_iff {request : EvaluateRequest R}
    (held : ∀ index ∈ request.roundIndex, Scalar.holds R index = true) {fault : ArithmeticFault} :
    serviceEvaluate request = .error fault ↔ request.Unanswered fault := by
  rw [← EvaluateRequest.unanswered_iff held, serviceEvaluate_eq]
  rcases evaluate (tableContext request.references request.roundIndex) request.formula with
    (_ | _ | _) | _ <;> simp [respondTo]

theorem ofFormula_of_serviceEvaluate {request : EvaluateRequest R} {response : Response R}
    (held : ∀ index ∈ request.roundIndex, Scalar.holds R index = true)
    (answered : serviceEvaluate request = .ok response) : response.OfFormula := by
  rw [serviceEvaluate_eq] at answered
  cases outcome : evaluate (tableContext request.references request.roundIndex) request.formula with
  | ok x =>
    rw [outcome] at answered
    cases answered
    trivial
  | error fault =>
    rw [outcome] at answered
    cases fault with
    | malformed cause =>
      cases answered
      refine ⟨rfl, fun lost => ?_⟩
      cases lost
      have escapes : (Fault.malformed .lostStep : Fault R).Escapes := rfl
      obtain ⟨_, _, ⟨⟩⟩ := (evaluate_eq_escape_iff held escapes).1 outcome
    | uncomputable cause =>
      cases answered
      exact ⟨rfl, nofun⟩
    | arithmetic fault => cases answered

theorem serviceEvaluate_answers_iff (request : EvaluateRequest R)
    (held : ∀ index ∈ request.roundIndex, Scalar.holds R index = true) :
    (∀ fault, serviceEvaluate request = .error fault ↔ request.Unanswered fault) ∧
    ((∃ response, serviceEvaluate request = .ok response ∧ response.OfFormula) ↔
      ∀ fault, ¬ request.Unanswered fault) := by
  refine ⟨fun fault => serviceEvaluate_eq_error_iff held, ?_, fun unasked => ?_⟩
  · rintro ⟨response, answered, -⟩ fault unanswered
    rw [(serviceEvaluate_eq_error_iff held).2 unanswered] at answered
    cases answered
  · cases answered : serviceEvaluate request with
    | ok response => exact ⟨response, rfl, ofFormula_of_serviceEvaluate held answered⟩
    | error fault => exact (unasked fault ((serviceEvaluate_eq_error_iff held).1 answered)).elim

def loneRequest (R : Type) : EvaluateRequest R :=
  ⟨"max(1)", [], some 3⟩

theorem serviceEvaluate_lone : serviceEvaluate (loneRequest R) = .error .loneArgument := by
  rw [serviceEvaluate_eq, loneRequest, evaluate_loneArgument, respondTo]

theorem serviceEvaluate_answers_iff_lone :
    (∀ index ∈ (loneRequest ℚ).roundIndex, Scalar.holds ℚ index = true) ∧
      (loneRequest ℚ).Unanswered .loneArgument := by
  have held : ∀ index ∈ (loneRequest ℚ).roundIndex, Scalar.holds ℚ index = true :=
    fun _ _ => rfl
  refine ⟨held, ?_⟩
  rw [← (serviceEvaluate_answers_iff (loneRequest ℚ) held).1]
  exact serviceEvaluate_lone

theorem not_serviceEvaluate_answers :
    ¬ ∀ request : EvaluateRequest Float,
      (∀ reference ∈ request.references, Scalar.isFinite reference.2 = true) →
      (∀ index ∈ request.roundIndex, Scalar.holds Float index = true) →
      ∃ response, serviceEvaluate request = .ok response ∧ response.OfFormula := by
  intro answers
  obtain ⟨response, answered, -⟩ := answers ⟨"max(1)", [], none⟩ nofun nofun
  rw [serviceEvaluate_eq, evaluate_loneArgument] at answered
  cases answered

end Scorekeeper
