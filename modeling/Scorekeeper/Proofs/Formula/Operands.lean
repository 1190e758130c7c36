import Scorekeeper.Proofs.Formula.Outcome

set_option autoImplicit false

/-!
# Operands left over

An item of the postfix order takes operands from the stack and leaves one there.  What it takes and
leaves is known before it runs, so a formula with a value is one whose items leave a single operand.
-/

namespace Scorekeeper.Formula

open Scorekeeper.Text

variable {R : Type}

open Evaluation

variable [Scalar R]

def Item.net : Item → Int
  | .number _ | .reference _ => 1
  | .operator _ => -1
  | .call _ count => 1 - count

def net : List Item → Int
  | [] => 0
  | item :: items => item.net + net items

@[simp] theorem net_nil : net [] = 0 := rfl

@[simp] theorem net_cons (item : Item) (items : List Item) :
    net (item :: items) = item.net + net items := rfl

@[simp] theorem net_append (items later : List Item) :
    net (items ++ later) = net items + net later := by
  induction items with
  | nil => simp
  | cons item rest ih => rw [List.cons_append, net_cons, net_cons, ih, Int.add_assoc]

theorem Item.length_of_step {context : Context R} {stack next : List (Operand R)} {item : Item}
    (step : (item.step context stack).Gives next) :
    (next.length : Int) = stack.length + item.net := by
  cases item with
  | number text =>
    rw [Item.step] at step
    split at step
    · rw [← gives_pure.1 step]
      simp [net]
    · exact (gives_throw step).elim
  | reference name =>
    rw [← gives_pure.1 step]
    simp [net]
  | operator op =>
    rcases stack with _ | ⟨right, _ | ⟨left, rest⟩⟩
    · exact (gives_throw step).elim
    · exact (gives_throw step).elim
    · obtain ⟨b, -, step⟩ := step.bind
      obtain ⟨a, -, step⟩ := step.bind
      obtain ⟨x, -, step⟩ := step.bind
      rw [← gives_pure.1 step]
      simp only [List.length_cons, net]
      omega
  | call function count =>
    rw [Item.step] at step
    split at step
    · exact (gives_throw step).elim
    · rename_i enough
      obtain ⟨x, -, step⟩ := step.bind
      rw [← gives_pure.1 step]
      simp only [List.length_cons, List.length_drop, net]
      omega

theorem net_of_runFrom {context : Context R} {stack : List (Operand R)} {items : List Item}
    {value : R} (gives : (runFrom context stack items).Gives value) :
    stack.length + net items = 1 := by
  induction items generalizing stack with
  | nil =>
    rcases stack with _ | ⟨result, _ | ⟨second, rest⟩⟩
    · exact (gives_throw gives).elim
    · simp
    · exact (gives_throw gives).elim
  | cons item rest ih =>
    rw [Expression.runFrom_cons] at gives
    obtain ⟨next, step, later⟩ := gives.bind
    have length := Item.length_of_step step
    have left := ih later
    rw [net_cons]
    omega

theorem net_of_evaluate {context : Context R} {formula : String} {value : R}
    (accepted : evaluate context formula = .ok value) :
    ∃ tokens items, tokenize (trimmed formula) = .ok tokens ∧
      toPostfix (resolveSigns tokens) = .ok items ∧ net items = 1 := by
  obtain ⟨items, compiled, gives⟩ := gives_run_of_evaluate accepted
  obtain ⟨_, tokens, read, _, ordered⟩ := compile_eq_ok_iff.1 compiled
  refine ⟨tokens, items, read, ordered, ?_⟩
  simpa using net_of_runFrom gives

end Scorekeeper.Formula
