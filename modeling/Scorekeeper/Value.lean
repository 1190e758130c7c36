import Scorekeeper.Quantity
import Scorekeeper.Text.Quoted

set_option autoImplicit false

namespace Scorekeeper

open Scorekeeper.Text

variable {R : Type}

inductive Value (R : Type) where
  | null
  | bool (b : Bool)
  | whole (n : Int)
  | real (x : R)
  | text (s : String)
  | list (items : List (Value R))
  | record (fields : List (String × Value R))
  | element (kind : String) (quantity : Value R) (properties : List (String × Value R))

namespace Value

instance : Inhabited (Value R) := ⟨.null⟩

def isNull : Value R → Bool
  | .null => true
  | _ => false

def isText : Value R → Bool
  | .text _ => true
  | _ => false

def ofQuantity : Quantity R → Value R
  | .whole n => .whole n
  | .real x => .real x

def quantity? : Value R → Option (Quantity R)
  | .whole n => some (.whole n)
  | .real x => some (.real x)
  | _ => none

def numeral? : Value R → Option (Quantity R)
  | .bool b => some (.whole (if b then 1 else 0))
  | value => value.quantity?

def isWhole : Value R → Bool
  | .bool _ | .whole _ => true
  | _ => false

def field? (name : String) (fields : List (String × Value R)) : Option (Value R) :=
  fields.lookup name

def isBlank [Scalar R] : Value R → Bool
  | .null => true
  | .bool b => !b
  | .whole n => n == 0
  | .real x => Scalar.eq x Scalar.zero
  | .text s => s.isEmpty
  | .list items => items.isEmpty
  | .record fields => fields.isEmpty
  | .element _ _ _ => false

mutual

/-- Equality of values by an equality of the numbers that they count as.  The order of fields does
not matter. -/
def sameBy (eq : Quantity R → Quantity R → Bool) : Value R → Value R → Bool
  | .null, .null => true
  | .text s, .text t => s == t
  | .list items, .list others => sameItemsBy eq items others
  | .record fields, .record others =>
    fields.length == others.length && sameFieldsBy eq fields others
  | .element kind quantity properties, .element kind' quantity' properties' =>
    kind == kind' && sameBy eq quantity quantity' &&
      properties.length == properties'.length && sameFieldsBy eq properties properties'
  | left, right =>
    match left.numeral?, right.numeral? with
    | some x, some y => eq x y
    | _, _ => false

def sameItemsBy (eq : Quantity R → Quantity R → Bool) : List (Value R) → List (Value R) → Bool
  | [], [] => true
  | item :: items, other :: others => sameBy eq item other && sameItemsBy eq items others
  | _, _ => false

def sameFieldsBy (eq : Quantity R → Quantity R → Bool) :
    List (String × Value R) → List (String × Value R) → Bool
  | [], _ => true
  | (name, value) :: fields, others =>
    (match others.lookup name with
      | some other => sameBy eq value other
      | none => false) && sameFieldsBy eq fields others

end

variable [Scalar R]

mutual

def isWritable : Value R → Bool
  | .real x => Scalar.isFinite x
  | .list items => areWritable items
  | .record fields => fieldsAreWritable fields
  | .element _ quantity properties => isWritable quantity && fieldsAreWritable properties
  | _ => true

def areWritable : List (Value R) → Bool
  | [] => true
  | item :: items => isWritable item && areWritable items

def fieldsAreWritable : List (String × Value R) → Bool
  | [] => true
  | (_, value) :: fields => isWritable value && fieldsAreWritable fields

end

mutual

def writable : Value R → Value R
  | .real x => if Scalar.isFinite x then .real x else .null
  | .list items => .list (writableItems items)
  | .record fields => .record (writableFields fields)
  | .element kind quantity properties =>
    .element kind (writable quantity) (writableFields properties)
  | value => value

def writableItems : List (Value R) → List (Value R)
  | [] => []
  | item :: items => writable item :: writableItems items

def writableFields : List (String × Value R) → List (String × Value R)
  | [] => []
  | (name, value) :: fields => (name, writable value) :: writableFields fields

end

def boolText (b : Bool) : String :=
  if b then "True" else "False"

mutual

def inner : Value R → String
  | .null => "None"
  | .bool b => boolText b
  | .whole n => toString n
  | .real x => Scalar.text x
  | .text s => quoted s
  | .list items => "[" ++ ", ".intercalate (innerItems items) ++ "]"
  | .record fields => "\x7b" ++ ", ".intercalate (innerFields fields) ++ "\x7d"
  | .element kind quantity properties =>
    "SetElementValue(element_object_definition_id=" ++ quoted kind ++ ", quantity=" ++
      inner quantity ++ ", properties=\x7b" ++ ", ".intercalate (innerFields properties) ++ "\x7d)"

def innerItems : List (Value R) → List String
  | [] => []
  | item :: items => inner item :: innerItems items

def innerFields : List (String × Value R) → List String
  | [] => []
  | (name, value) :: fields => (quoted name ++ ": " ++ inner value) :: innerFields fields

end

def shown : Value R → String
  | .text s => s
  | value => value.inner

end Value

end Scorekeeper
