import Scorekeeper.Game.Object

set_option autoImplicit false

namespace Scorekeeper

variable {R : Type}

inductive ValueObjection (R : Type)
  | notNumber
  | belowLeast (label : String) (least : R)
  | aboveMost (label : String) (most : R)
  | notBoolean
  | notString
  | notAnOption (options : List String)
  | noSetKind
  | countNotNumber
  | negativeCount
  | notList
  | notElement
  | elementWithoutId
  | unknownElement (shown : String)
  | quantityNotNumber
  | negativeQuantity

variable [Scalar R]

def ValueObjection.message : ValueObjection R → String
  | .notNumber => "Value must be a number"
  | .belowLeast label least => label ++ " must be at least " ++ Scalar.brief least
  | .aboveMost label most => label ++ " must be at most " ++ Scalar.brief most
  | .notBoolean => "Value must be a boolean"
  | .notString => "Value must be a string"
  | .notAnOption options => "Value must be one of: " ++ ", ".intercalate options
  | .noSetKind => "Set object must have a set type defined"
  | .countNotNumber => "Identical set value must be a number (count)"
  | .negativeCount => "Set count cannot be negative"
  | .notList => "Elements set value must be a list"
  | .notElement => "Set element must be an element/quantity pair"
  | .elementWithoutId => "Set element must have an element object definition id"
  | .unknownElement shown => "Set element " ++ shown ++ " is not defined in set"
  | .quantityNotNumber => "Set element quantity must be a number"
  | .negativeQuantity => "Set element quantity cannot be negative"

def Value.proper? (value : Value R) : Option (Quantity R) :=
  value.quantity?.filter Quantity.isNumber

def Quantity.isNegative (quantity : Quantity R) : Bool :=
  quantity.lt (.whole 0)

namespace ObjectDefinition

def boundsObjection? (definition : ObjectDefinition R) (label : String) (number : Quantity R) :
    Option (ValueObjection R) :=
  let tooSmall := definition.least.filter fun least => number.lt (.real least)
  let tooLarge := definition.most.filter fun most => Quantity.lt (.real most) number
  (tooSmall.map (.belowLeast label)).or (tooLarge.map (.aboveMost label))

def entryObjection? (definition : ObjectDefinition R) (id quantity : Value R) :
    Option (ValueObjection R) :=
  if id.isBlank then some .elementWithoutId
  else
    -- What is not a text names no element.
    let isKnown := match id with
      | .text kind => definition.setElements.contains kind
      | _ => false
    if !isKnown then some (.unknownElement id.shown)
    else
      match quantity.proper? with
      | none => some .quantityNotNumber
      | some number => if number.isNegative then some .negativeQuantity else none

def elementObjection? (definition : ObjectDefinition R) : Value R → Option (ValueObjection R)
  | .element kind quantity _ => definition.entryObjection? (.text kind) quantity
  | .record fields =>
    definition.entryObjection? ((Value.field? "element_object_definition_id" fields).getD .null)
      ((Value.field? "quantity" fields).getD .null)
  | _ => some .notElement

def setObjection? (definition : ObjectDefinition R) (value : Value R) :
    Option (ValueObjection R) :=
  match definition.setKind with
  | none => some .noSetKind
  | some .identical =>
    match value.proper? with
    | none => some .countNotNumber
    | some number =>
      if number.isNegative then some .negativeCount
      else definition.boundsObjection? "Set count" number
  | some .elements =>
    match value with
    | .list items => items.findSome? definition.elementObjection?
    | _ => some .notList

def objection? (definition : ObjectDefinition R) (value : Value R) : Option (ValueObjection R) :=
  match definition.kind, value with
  | .boolean, .bool _ => none
  | .boolean, _ => some .notBoolean
  | .string, .text text =>
    let options := definition.options.getD []
    if options.isEmpty || options.contains text then none else some (.notAnOption options)
  | .string, _ => some .notString
  | .set, value => definition.setObjection? value
  | .custom, _ => none
  | _, value =>
    match value.proper? with
    | none => some .notNumber
    | some number => definition.boundsObjection? "Value" number

end ObjectDefinition

end Scorekeeper
