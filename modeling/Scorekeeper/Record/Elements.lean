import Scorekeeper.Record.Snapshot

set_option autoImplicit false

/-!
# Elements of sets in documents

A list of records, unless it is empty, is read as a list of counted elements.  The first record that
is none decides.
-/

namespace Scorekeeper

variable {R : Type}

def Value.isRecord : Value R → Bool
  | .record _ => true
  | _ => false

variable [Scalar R]

namespace Record

def element : Reading R (Value R) :=
  record stored fun fields =>
    (fun kind quantity properties => .element kind (.real quantity) properties)
      <$> required stored fields "element_object_definition_id" text
      <*> required stored fields "quantity" score
      <*> defaulted stored fields "properties" (pairs anything) []

end Record

def Value.elementRecords : Value R → List (Value R)
  | .list items => if items.all Value.isRecord then items else []
  | _ => []

def Value.withElements (value : Value R) : Except (List Problem) (Value R) :=
  match value.elementRecords with
  | [] => .ok value
  | items => return .list (← items.mapM fun item => (Record.element item).toExcept)

def Value.quotesNoNumber : Value R → Bool
  | .record fields =>
    match Record.stored.find? fields "quantity" with
    | some (.text s) => Record.numeral? s = some .undefined
    | _ => false
  | _ => false

/-- The instance with its counted elements read.  What is no number in quotes is read on its own, so
that the value gets an origin of its own, with the number given. -/
def ObjectInstance.withElements (number : Nat) (object : ObjectInstance R) :
    Except (List Problem) (ObjectInstance R) := do
  let value ← object.value.withElements
  let isOwn := object.value.elementRecords.any Value.quotesNoNumber
  return { object with stored := ⟨value, if isOwn then .single number else object.stored.origin⟩ }

def Book.withElements (book : Book R) : Except (List Problem) (Book R) := do
  let objects ← (book.objects.pairs.mapIdx Prod.mk).mapM fun (index, key, object) => do
    return (key, ← object.withElements (index + 1))
  return { book with objects := Table.ofList objects }

namespace Record

def readWith {A B : Type} (reading : Reading R A) (finish : A → Except (List Problem) B)
    (value : Value R) : Except (List Problem) B := do
  finish (← (reading value).toExcept)

def readObject : Value R → Except (List Problem) (ObjectInstance R) :=
  readWith (object stored) (ObjectInstance.withElements 1)

def readBook : Value R → Except (List Problem) (Book R) :=
  readWith (book stored) fun book => book.withElements.map Book.apart

end Record

end Scorekeeper
