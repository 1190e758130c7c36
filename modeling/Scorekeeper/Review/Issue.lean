import Scorekeeper.Formula.Check

set_option autoImplicit false

namespace Scorekeeper

inductive FormulaPlace
  | category (name : String)
  | calculation (object : String)
  | scoreImpact (object : String)
deriving Repr, DecidableEq

def FormulaPlace.label : FormulaPlace → String
  | .category name => "Category '" ++ name ++ "'"
  | .calculation object => "Object '" ++ object ++ "' calculation"
  | .scoreImpact object => "Object '" ++ object ++ "' score impact"

inductive Issue
  | unknownSession (session : String)
  | unknownParent (category parent : String)
  | categoryCycle (names : List String)
  | formula (place : FormulaPlace) (objection : Formula.Objection)
  | objectWithoutId
  | objectWithoutName (id : String)
  | setWithoutKind (name : String)
  | unknownOwner (name reference : String)
  | unknownWindow (name reference : String)
deriving Repr, DecidableEq

def Issue.message : Issue → String
  | .unknownSession session => "Unknown session '" ++ session ++ "'"
  | .unknownParent category parent =>
    "Category '" ++ category ++ "' has unknown parent '" ++ parent ++ "'"
  | .categoryCycle names => "Category cycle: " ++ " -> ".intercalate names
  | .formula place objection => place.label ++ ": " ++ objection.message
  | .objectWithoutId => "Object definition has empty ID"
  | .objectWithoutName id => "Object definition '" ++ id ++ "' has empty name"
  | .setWithoutKind name => "Set object '" ++ name ++ "' has no set type"
  | .unknownOwner name reference =>
    "Object '" ++ name ++ "' ownership references unknown object '" ++ reference ++ "'"
  | .unknownWindow name reference =>
    "Object '" ++ name ++ "' active window references unknown object '" ++ reference ++ "'"

inductive Warning
  | noTemplate
  | unknownReference (place : FormulaPlace) (name : String)
  | unknownTarget (rule target : String)
  | unknownSubject (rule subject : String)
deriving Repr, DecidableEq

def Warning.message : Warning → String
  | .noTemplate => "Session has no template - objects and rules are ignored"
  | .unknownReference place name =>
    place.label ++ " references unknown '" ++ name ++ "' (resolves to 0)"
  | .unknownTarget rule target =>
    "Rule '" ++ rule ++ "' targets unknown category '" ++ target ++ "'"
  | .unknownSubject rule subject =>
    "Rule '" ++ rule ++ "' checks unknown category or object '" ++ subject ++ "'"

structure Review where
  errors : List Issue
  warnings : List Warning
deriving Repr, DecidableEq

namespace Review

def isValid (review : Review) : Bool :=
  review.errors.isEmpty

def none : Review := ⟨[], []⟩

def append (left right : Review) : Review :=
  ⟨left.errors ++ right.errors, left.warnings ++ right.warnings⟩

def all (reviews : List Review) : Review :=
  reviews.foldl append none

def summary (review : Review) : String :=
  "Template validation failed with " ++ toString review.errors.length ++ " error(s)"

end Review

end Scorekeeper
