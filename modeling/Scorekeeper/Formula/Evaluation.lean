import Scorekeeper.Formula.Context
import Scorekeeper.Formula.Postfix
import Scorekeeper.Text.Case

set_option autoImplicit false

/-!
# Evaluation

A formula in postfix order runs on a stack of operands.  A reference stays a name until an operator,
a function of numbers or the end of the formula needs its number, so that `state` and `owns` can
read the name instead.
-/

namespace Scorekeeper.Formula

open Scorekeeper.Text

variable {R : Type} [Scalar R]

abbrev Evaluation (R : Type) := ExceptT (Fault R) (StateM (List Lookup))

def record (lookup : Lookup) : Evaluation R Unit :=
  modify (· ++ [lookup])

def fail {A : Type} (cause : Uncomputable R) : Evaluation R A :=
  throw (.uncomputable cause)

def lift {A : Type} : Except ArithmeticFault A → Evaluation R A
  | .ok a => pure a
  | .error fault => throw (.arithmetic fault)

def Context.resolve (context : Context R) (name : String) : Evaluation R R := do
  match context.object? with
  | none => pure ()
  | some object =>
    record (.object name)
    -- An object that has a number hides a category of its name.
    if let some x ← lift (object name) then return x
  record (.category name)
  lift (context.category name)

inductive Operand (R : Type)
  | number (x : R)
  | reference (name : String)

def Operand.toNumber (context : Context R) : Operand R → Evaluation R R
  | .number x => pure x
  | .reference name => context.resolve name

/-- The name an operand gives where a name is expected: that of a reference, or the text of a
number, without a point when it is whole. -/
def Operand.name : Operand R → String
  | .number x =>
    match Scalar.toWhole? x with
    | some n => toString n
    | none => Scalar.text x
  | .reference name => name

def Operator.apply (op : Operator) (a b : R) : Evaluation R R :=
  match op with
  | .plus => pure (a + b)
  | .minus => pure (a - b)
  | .times => pure (a * b)
  | .divide => if Scalar.eq b Scalar.zero then fail .divisionByZero else pure (a / b)
  | .power =>
    match Scalar.power a b with
    | .ok x => pure x
    | .error fault => fail (.power a b fault)

def stateCode : String → R
  | "active" => Scalar.whole 1
  | "owned" => Scalar.whole 2
  | "discarded" => Scalar.whole (-1)
  | _ => Scalar.whole 0

def ofBool (b : Bool) : R :=
  if b then Scalar.one else Scalar.zero

def callState (state : String → String) (arguments : List (Operand R)) : Evaluation R R :=
  match arguments with
  | [.reference name] => do
    record (.state name)
    return stateCode (state name)
  | [.number _] => fail .stateOfNumber
  | _ => fail .stateArity

def callOwns (owns : String → Option String → Bool) (arguments : List (Operand R)) :
    Evaluation R R :=
  let ask (name : String) (player : Option String) : Evaluation R R := do
    record (.owns name player)
    return ofBool (owns name player)
  match arguments with
  | [object] => ask object.name none
  | [object, player] => ask object.name (some player.name)
  | _ => fail .ownsArity

def callIf (context : Context R) (arguments : List (Operand R)) : Evaluation R R :=
  match arguments with
  | [condition, whenTrue, whenFalse] => do
    -- Both branches are looked up, whichever is taken.
    let condition ← condition.toNumber context
    let whenTrue ← whenTrue.toNumber context
    let whenFalse ← whenFalse.toNumber context
    return if Scalar.eq condition Scalar.zero then whenFalse else whenTrue
  | _ => fail .ifArity

def callNumeric (context : Context R) (name : String) (function : Function)
    (arguments : List (Operand R)) : Evaluation R R := do
  -- The number of arguments is judged before any of them is looked up.
  if arguments.isEmpty then fail (.tooFewArguments name)
  if let some most := function.mostArguments? then
    if most < arguments.length then fail (.tooManyArguments name most)
  let numbers ← arguments.mapM (Operand.toNumber context)
  match function.apply numbers with
  | .ok x => return x
  | .error (.rounding fault) => fail (.rounding name fault)
  | .error .decimalsOutOfRange => fail (.decimalsOutOfRange name)
  | .error (.arithmetic fault) => throw (.arithmetic fault)

def callSpecial? (context : Context R) (name : String) (arguments : List (Operand R)) :
    Option (Evaluation R R) :=
  if name = "state" then context.state?.map (callState · arguments)
  else if name = "owns" then context.owns?.map (callOwns · arguments)
  else if name = "round" ∧ arguments.isEmpty then
    context.round?.map fun index => do
      record .round
      lift (Quantity.whole index).toReal
  else if name = "phase" ∧ arguments.isEmpty then
    context.phase?.map fun phase => do
      record .phase
      return ofBool (phase.any (· ≠ ""))
  else if name = "if" then some (callIf context arguments)
  else none

def callNamed (context : Context R) (name : String) (arguments : List (Operand R)) :
    Evaluation R R :=
  let lowered := lowercase name
  match callSpecial? context lowered arguments with
  | some value => value
  | none =>
    match Function.ofName? lowered with
    | some function => callNumeric context name function arguments
    | none =>
      if isSpecial lowered then fail (.unavailable name)
      else throw (.malformed (.unknownFunction name))

/-- One step on the stack of operands, the last one first. -/
def Item.step (context : Context R) (stack : List (Operand R)) :
    Item → Evaluation R (List (Operand R))
  | .number text =>
    match Scalar.read? text with
    | some x => pure (.number x :: stack)
    | none => throw (.malformed (.invalidNumber text))
  | .reference name => pure (.reference name :: stack)
  | .operator op =>
    match stack with
    | right :: left :: rest => do
      -- The right operand is on top, and its name is looked up first.
      let b ← right.toNumber context
      let a ← left.toNumber context
      let x ← op.apply a b
      return .number x :: rest
    | _ => fail (.missingOperands op)
  | .call function count =>
    if stack.length < count then fail (.missingArguments function)
    else do
      let x ← callNamed context function (stack.take count).reverse
      return .number x :: stack.drop count

def runFrom (context : Context R) : List (Operand R) → List Item → Evaluation R R
  | [result], [] => result.toNumber context
  | _, [] => fail .notSingle
  | stack, item :: rest => do
    let next ← item.step context stack
    runFrom context next rest

def run (context : Context R) (items : List Item) : Evaluation R R :=
  runFrom context [] items

def ofMalformed {A : Type} : Except Malformed A → Evaluation R A
  | .ok a => pure a
  | .error cause => throw (.malformed cause)

def evaluation (context : Context R) (formula : String) : Evaluation R R := do
  if (trim formula.toList).isEmpty then throw (.malformed .empty)
  let tokens ← ofMalformed (tokenize (trimmed formula))
  if tokens.isEmpty then throw (.malformed .noTokens)
  let items ← ofMalformed (toPostfix (resolveSigns tokens))
  run context items

def trace (context : Context R) (formula : String) : Except (Fault R) R × List Lookup :=
  (evaluation context formula).run []

def evaluate (context : Context R) (formula : String) : Except (Fault R) R :=
  (trace context formula).1

/-- Names with quantities, without regard to case; of names that differ in case alone the last
counts. -/
def lookupFolded (references : List (String × R)) (name : String) : Option R :=
  (references.map fun (key, x) => (lowercase key, x)).reverse.lookup (lowercase name)

def tableContext (references : List (String × R)) (round? : Option Int) : Context R :=
  { category := fun name => .ok ((lookupFolded references name).getD Scalar.zero)
    round? := round? }

def evaluateWith (references : List (String × Quantity R)) (round? : Option Int)
    (formula : String) : Except (Fault R) R := do
  let named (reference : String × Quantity R) : Except ArithmeticFault (String × R) := do
    return (reference.1, ← reference.2.toReal)
  let numbers ← (references.mapM named).mapError Fault.arithmetic
  evaluate (tableContext numbers round?) formula

end Scorekeeper.Formula
