set_option autoImplicit false

namespace Scorekeeper

inductive FieldFault
  | missing
  | stringType
  | floatType
  | floatParsing
  | intType
  | intParsing
  | intParsingSize
  | intFromFloat
  | finiteNumber
  | boolType
  | boolParsing
  | literalError
  | listType
  | dictType
  | modelType
  | modelAttributesType
deriving Repr, DecidableEq

def FieldFault.code : FieldFault → String
  | .missing => "missing"
  | .stringType => "string_type"
  | .floatType => "float_type"
  | .floatParsing => "float_parsing"
  | .intType => "int_type"
  | .intParsing => "int_parsing"
  | .intParsingSize => "int_parsing_size"
  | .intFromFloat => "int_from_float"
  | .finiteNumber => "finite_number"
  | .boolType => "bool_type"
  | .boolParsing => "bool_parsing"
  | .literalError => "literal_error"
  | .listType => "list_type"
  | .dictType => "dict_type"
  | .modelType => "model_type"
  | .modelAttributesType => "model_attributes_type"

structure Problem where
  location : List String
  fault : FieldFault
  isWritable : Bool
deriving Repr, DecidableEq

namespace Problem

def inside (place : String) (problem : Problem) : Problem :=
  { problem with location := place :: problem.location }

def text (problem : Problem) : String :=
  ".".intercalate problem.location ++ ": " ++ problem.fault.code

def summary (problems : List Problem) : String :=
  "; ".intercalate ((problems.map text).mergeSort fun a b => a ≤ b)

end Problem

inductive Checked (A : Type)
  | valid (value : A)
  | invalid (problems : List Problem)

namespace Checked

variable {A B : Type}

def map (f : A → B) : Checked A → Checked B
  | .valid value => .valid (f value)
  | .invalid problems => .invalid problems

def both (f : Checked (A → B)) (x : Checked A) : Checked B :=
  match f, x with
  | .valid f, x => x.map f
  | .invalid problems, .valid _ => .invalid problems
  | .invalid problems, .invalid others => .invalid (problems ++ others)

instance : Applicative Checked where
  pure := .valid
  map := Checked.map
  seq f x := f.both (x ())

def fault (fault : FieldFault) (isWritable : Bool) : Checked A :=
  .invalid [⟨[], fault, isWritable⟩]

def inside (place : String) : Checked A → Checked A
  | .valid value => .valid value
  | .invalid problems => .invalid (problems.map (Problem.inside place))

def all : List (Checked A) → Checked (List A)
  | [] => .valid []
  | first :: rest => List.cons <$> first <*> all rest

def either (first second : Checked A) : Checked A :=
  match first, second with
  | .valid value, _ => .valid value
  | _, .valid value => .valid value
  | .invalid problems, .invalid others => .invalid (problems ++ others)

def toExcept : Checked A → Except (List Problem) A
  | .valid value => .ok value
  | .invalid problems => .error problems

end Checked

end Scorekeeper
