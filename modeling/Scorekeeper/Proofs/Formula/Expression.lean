import Scorekeeper.Formula.Evaluation

set_option autoImplicit false

/-!
# Expressions

An expression is what a formula says, apart from how it is written.  Its value is computed by
recursion on it.  Running its postfix order on the stack of operands gives the same computation: the
same value or fault, after the same lookups.
-/

namespace Scorekeeper.Formula

inductive Expression
  | number (text : String)
  | reference (name : String)
  | binary (op : Operator) (left right : Expression)
  | group (inner : Expression)
  | call (function : String) (arguments : List Expression)

namespace Expression

mutual

def postfixOrder : Expression → List Item
  | .number text => [.number text]
  | .reference name => [.reference name]
  | .binary op left right => left.postfixOrder ++ right.postfixOrder ++ [.operator op]
  | .group inner => inner.postfixOrder
  | .call function arguments =>
    postfixOrders arguments ++ [.call function arguments.length]

def postfixOrders : List Expression → List Item
  | [] => []
  | first :: rest => first.postfixOrder ++ postfixOrders rest

end

variable {R : Type} [Scalar R]

def literal (text : String) : Evaluation R R :=
  match Scalar.read? text with
  | some x => pure x
  | none => throw (.malformed (.invalidNumber text))

mutual

def operand (context : Context R) : Expression → Evaluation R (Operand R)
  | .number text => do
    return .number (← literal text)
  | .reference name => pure (.reference name)
  | .binary op left right => do
    let left ← left.operand context
    let right ← right.operand context
    -- Names wait until both operands are there, and the right one is looked up first.
    let b ← right.toNumber context
    let a ← left.toNumber context
    return .number (← op.apply a b)
  | .group inner => inner.operand context
  | .call function arguments => do
    let arguments ← operands context arguments
    return .number (← callNamed context function arguments)

def operands (context : Context R) : List Expression → Evaluation R (List (Operand R))
  | [] => pure []
  | first :: rest => do
    let first ← first.operand context
    let rest ← operands context rest
    return first :: rest

end

def value (context : Context R) (expression : Expression) : Evaluation R R := do
  let result ← expression.operand context
  result.toNumber context

theorem operands_bind_congr {A : Type} (context : Context R) (expressions : List Expression)
    (f g : List (Operand R) → Evaluation R A)
    (same : ∀ operands, operands.length = expressions.length → f operands = g operands) :
    (operands context expressions >>= f) = (operands context expressions >>= g) := by
  induction expressions generalizing f g with
  | nil => simp only [operands, pure_bind, same [] rfl]
  | cons first rest ih =>
    simp only [operands, bind_assoc, pure_bind]
    congr 1
    funext operand
    apply ih
    intro operands length
    exact same (operand :: operands) (by simp [length])

theorem number_step (context : Context R) (stack : List (Operand R)) (text : String) :
    (Item.number text).step context stack =
      literal text >>= fun x => pure (.number x :: stack) := by
  unfold literal
  simp only [Item.step]
  cases (Scalar.read? text : Option R) with
  | none => rfl
  | some x => simp only [pure_bind]

theorem call_step (context : Context R) (stack operands : List (Operand R)) (function : String) :
    (Item.call function operands.length).step context (operands.reverse ++ stack) =
      callNamed context function operands >>= fun x => pure (.number x :: stack) := by
  have enough : ¬ (operands.reverse ++ stack).length < operands.length := by simp
  simp only [Item.step, if_neg enough]
  rw [List.take_left' (by simp), List.drop_left' (by simp), List.reverse_reverse]

theorem runFrom_cons (context : Context R) (stack : List (Operand R)) (item : Item)
    (rest : List Item) :
    runFrom context stack (item :: rest) =
      item.step context stack >>= fun next => runFrom context next rest := by
  cases stack with
  | nil => rfl
  | cons top below => cases below <;> rfl

mutual

theorem runFrom_postfixOrder (context : Context R) (expression : Expression)
    (stack : List (Operand R)) (rest : List Item) :
    runFrom context stack (expression.postfixOrder ++ rest) =
      expression.operand context >>= fun result => runFrom context (result :: stack) rest := by
  match expression with
  | .number text =>
    simp only [postfixOrder, operand, List.cons_append, List.nil_append, runFrom_cons, number_step,
      bind_assoc, pure_bind]
  | .reference name =>
    simp only [postfixOrder, operand, List.cons_append, List.nil_append, runFrom_cons, Item.step,
      pure_bind]
  | .binary op left right =>
    simp only [postfixOrder, operand, List.append_assoc, runFrom_postfixOrder context left,
      runFrom_postfixOrder context right, List.cons_append, List.nil_append, runFrom_cons,
      Item.step, bind_assoc, pure_bind]
  | .group inner =>
    simpa only [postfixOrder, operand] using runFrom_postfixOrder context inner stack rest
  | .call function arguments =>
    simp only [postfixOrder, operand, List.append_assoc, runFrom_postfixOrders context arguments,
      bind_assoc, pure_bind]
    apply operands_bind_congr
    intro operands length
    simp only [List.cons_append, List.nil_append, runFrom_cons, ← length, call_step, bind_assoc,
      pure_bind]

theorem runFrom_postfixOrders (context : Context R) (expressions : List Expression)
    (stack : List (Operand R)) (rest : List Item) :
    runFrom context stack (postfixOrders expressions ++ rest) =
      operands context expressions >>= fun results =>
        runFrom context (results.reverse ++ stack) rest := by
  match expressions with
  | [] => simp only [postfixOrders, operands, pure_bind, List.nil_append, List.reverse_nil]
  | first :: later =>
    simp only [postfixOrders, operands, List.append_assoc, runFrom_postfixOrder context first,
      runFrom_postfixOrders context later, bind_assoc, pure_bind, List.reverse_cons,
      List.cons_append, List.nil_append]

end

theorem run_postfixOrder (context : Context R) (expression : Expression) :
    run context expression.postfixOrder = expression.value context := by
  have pushed := runFrom_postfixOrder context expression [] []
  rw [List.append_nil] at pushed
  exact pushed

end Expression

end Scorekeeper.Formula
