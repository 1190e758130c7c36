import Scorekeeper.Formula.Function
import Scorekeeper.Formula.Token

set_option autoImplicit false

/-!
# What a formula can see

A formula reaches the game through the lookups of its context alone.  Lookups that a context lacks
make the functions that need them unavailable.  An evaluation records each lookup it makes.
-/

namespace Scorekeeper.Formula

variable {R : Type}

structure Context (R : Type) where
  category : String → Except ArithmeticFault R
  object? : Option (String → Except ArithmeticFault (Option R)) := none
  state? : Option (String → String) := none
  owns? : Option (String → Option String → Bool) := none
  round? : Option Int := none
  phase? : Option (Option String) := none

inductive Lookup
  | object (name : String)
  | category (name : String)
  | state (name : String)
  | owns (name : String) (player : Option String)
  | round
  | phase
deriving Repr, DecidableEq

inductive Uncomputable (R : Type)
  | missingOperands (op : Operator)
  | missingArguments (function : String)
  | notSingle
  | divisionByZero
  | power (base exponent : R) (fault : PowerFault)
  | stateArity
  | stateOfNumber
  | ownsArity
  | ifArity
  | unavailable (function : String)
  | tooFewArguments (function : String)
  | tooManyArguments (function : String) (most : Nat)
  | rounding (function : String) (fault : RoundingFault)
  | decimalsOutOfRange (function : String)

def Uncomputable.message [Scalar R] : Uncomputable R → String
  | .missingOperands op => "Not enough operands for operator " ++ String.singleton op.symbol
  | .missingArguments function => "Not enough arguments for function " ++ function
  | .notSingle => "Invalid expression"
  | .divisionByZero => "Division by zero"
  | .power base exponent fault =>
    "Cannot compute " ++ Scalar.text base ++ " ^ " ++ Scalar.text exponent ++ ": " ++ fault.message
  | .stateArity => "state() requires one argument"
  | .stateOfNumber => "state() requires an object reference as argument"
  | .ownsArity => "owns() requires one or two arguments"
  | .ifArity => "if() requires three arguments: condition, trueValue, falseValue"
  | .unavailable function => "Function " ++ function ++ "() is not available in this context"
  | .tooFewArguments function => "Function " ++ function ++ " requires at least one argument"
  | .tooManyArguments function most =>
    "Function " ++ function ++ " takes at most " ++ toString most ++ " argument(s)"
  | .rounding function fault => "Function " ++ function ++ " failed: " ++ fault.message
  | .decimalsOutOfRange function =>
    "Function " ++ function ++ " failed: (34, 'Numerical result out of range')"

inductive Fault (R : Type)
  | malformed (cause : Malformed)
  | uncomputable (cause : Uncomputable R)
  | arithmetic (fault : ArithmeticFault)

def Fault.message [Scalar R] : Fault R → String
  | .malformed cause => cause.message
  | .uncomputable cause => cause.message
  | .arithmetic fault => fault.message

end Scorekeeper.Formula
