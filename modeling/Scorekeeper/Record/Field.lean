import Scorekeeper.Record.WholeText
import Scorekeeper.Text.Case
import Scorekeeper.Value

set_option autoImplicit false

/-!
# Fields of records

Readings of the fields of a record.  Numbers and truth values may be written as texts; texts, lists
and records must be what they are.  A field is found under its name in camel case, else under its
name as it is; problems always name the former.
-/

namespace Scorekeeper.Record

open Scorekeeper.Text Scorekeeper.Decimal

variable {R A : Type}

/-- How records are read: whether fields have names in camel case, and which fault it is not to be
a record. -/
structure Dialect where
  camelCase : Bool
  noRecord : FieldFault

abbrev Reading (R A : Type) := Value R → Checked A

variable [Scalar R]

def fault (fault : FieldFault) (value : Value R) : Checked A :=
  .fault fault value.isWritable

def text : Reading R String
  | .text s => .valid s
  | value => fault .stringType value

def anything : Reading R (Value R) := .valid

def plainNumeral? (characters : List Char) : Option Numeral :=
  if characters.all fun c => c.toNat < 0x80 && !isBlank c && c ≠ '_' then
    Numeral.read? (String.ofList characters)
  else none

def numeral? (s : String) : Option Numeral :=
  (plainNumeral? (trimNumber s.toList)).or ((withoutUnderscores? s.toList).bind plainNumeral?)

def truthWords : List (String × Bool) :=
  [("0", false), ("off", false), ("f", false), ("false", false), ("n", false), ("no", false),
    ("1", true), ("on", true), ("t", true), ("true", true), ("y", true), ("yes", true)]

def wordBound : Int := Nat.pow 2 63

def wholeOfReal (x : R) : Except FieldFault Int :=
  match Scalar.toWhole? x with
  | some n => if -wordBound < n ∧ n < wordBound then .ok n else .error .intParsingSize
  | none => .error (if Scalar.isFinite x then .intFromFloat else .finiteNumber)

def boolOfWhole (n : Int) : Except FieldFault Bool :=
  if n = 0 then .ok false
  else if n = 1 then .ok true
  else if -wordBound ≤ n ∧ n < wordBound then .error .boolParsing
  else .error .boolType

def orFault (value : Value R) : Except FieldFault A → Checked A
  | .ok a => .valid a
  | .error cause => fault cause value

def bool : Reading R Bool := fun value => orFault value <|
  match value with
  | .bool b => .ok b
  | .text s =>
    match truthWords.lookup (lowercase s) with
    | some b => .ok b
    | none => .error .boolParsing
  | .whole n => boolOfWhole n
  | .real x =>
    match wholeOfReal x with
    | .ok n => boolOfWhole n
    | .error _ => .error .boolType
  | _ => .error .boolType

def score : Reading R R := fun value =>
  match value with
  | .text s =>
    match numeral? s with
    | some numeral => .valid (Scalar.ofNumeral numeral)
    | none => fault .floatParsing value
  | _ =>
    match value.numeral?.map Quantity.toReal with
    | some (.ok x) => .valid x
    | _ => fault .floatType value

def whole : Reading R Int := fun value => orFault value <|
  match value with
  | .text s => wholeOfText s
  | .real x => wholeOfReal x
  | .whole n => .ok n
  | .bool b => .ok (if b then 1 else 0)
  | _ => .error .intType

def oneOf (choices : List (String × A)) : Reading R A := fun value =>
  match value with
  | .text s =>
    match choices.lookup s with
    | some choice => .valid choice
    | none => fault .literalError value
  | _ => fault .literalError value

def optional (reading : Reading R A) : Reading R (Option A)
  | .null => .valid none
  | value => (reading value).map some

def list (reading : Reading R A) : Reading R (List A)
  | .list items => .all (items.mapIdx fun index item => (reading item).inside (toString index))
  | value => fault .listType value

def pairs (reading : Reading R A) : Reading R (List (String × A))
  | .record fields =>
    .all (fields.map fun (key, value) => ((reading value).map fun a => (key, a)).inside key)
  | value => fault .dictType value

def record (dialect : Dialect) (reading : List (String × Value R) → Checked A) : Reading R A
  | .record fields => reading fields
  | value => fault dialect.noRecord value

def joinWords : List Char → List Char
  | [] => []
  | '_' :: c :: rest => c.toUpper :: joinWords rest
  | c :: rest => c :: joinWords rest

def Dialect.nameOf (dialect : Dialect) (name : String) : String :=
  if dialect.camelCase then String.ofList (joinWords name.toList) else name

def Dialect.find? (dialect : Dialect) (fields : List (String × Value R)) (name : String) :
    Option (Value R) :=
  -- The camel case name wins where a record has both.
  (fields.lookup (dialect.nameOf name)).or (fields.lookup name)

def required (dialect : Dialect) (fields : List (String × Value R)) (name : String)
    (reading : Reading R A) : Checked A :=
  Checked.inside (dialect.nameOf name) <|
    match dialect.find? fields name with
    | some value => reading value
    -- What is wrong then is the record, with all that it has.
    | none => fault .missing (.record fields)

def defaulted (dialect : Dialect) (fields : List (String × Value R)) (name : String)
    (reading : Reading R A) (default : A) : Checked A :=
  Checked.inside (dialect.nameOf name) <|
    match dialect.find? fields name with
    | some value => reading value
    | none => .valid default

def given (dialect : Dialect) (fields : List (String × Value R)) (name : String)
    (reading : Reading R A) : Checked (Option A) :=
  defaulted dialect fields name (optional reading) none

end Scorekeeper.Record
