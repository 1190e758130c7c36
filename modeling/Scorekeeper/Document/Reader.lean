import Scorekeeper.Document.Token
import Scorekeeper.Table

set_option autoImplicit false

/-!
# Reading a JSON document

The lists and records that are open are kept on a stack while the tokens are read one by one.  Of
fields with one name the last counts, in the place of the first.
-/

namespace Scorekeeper.Document

variable {R : Type}

/-- A list or record that is not closed yet, its last part first. -/
inductive Open (R : Type)
  | list (items : List (Value R))
  | record (fields : List (String × Value R)) (name : String)

inductive Expected
  | value
  | itemOrClose
  | nameOrClose
  | name
  | colon
  | separator
  | nothing

structure Reading (R : Type) where
  expected : Expected
  stack : List (Open R)
  result : Value R

def Reading.start : Reading R := ⟨.value, [], .null⟩

def Reading.complete (stack : List (Open R)) (value : Value R) : Reading R :=
  match stack with
  | [] => ⟨.nothing, [], value⟩
  | .list items :: outer => ⟨.separator, .list (value :: items) :: outer, .null⟩
  | .record fields name :: outer => ⟨.separator, .record ((name, value) :: fields) "" :: outer, .null⟩

def closeRecord (fields : List (String × Value R)) : Value R :=
  .record (Table.ofList fields.reverse).pairs

def Reading.value? (stack : List (Open R)) : Token R → Option (Reading R)
  | .leaf value => some (.complete stack value)
  | .openList => some ⟨.itemOrClose, .list [] :: stack, .null⟩
  | .openRecord => some ⟨.nameOrClose, .record [] "" :: stack, .null⟩
  | _ => none

def Reading.name? (fields : List (String × Value R)) (outer : List (Open R)) :
    Token R → Option (Reading R)
  | .leaf (.text name) => some ⟨.colon, .record fields name :: outer, .null⟩
  | _ => none

def Reading.step? (reading : Reading R) (token : Token R) : Option (Reading R) :=
  match reading.expected, reading.stack, token with
  | .value, stack, token => Reading.value? stack token
  | .itemOrClose, .list items :: outer, .closeList => some (.complete outer (.list items.reverse))
  | .itemOrClose, stack, token => Reading.value? stack token
  | .nameOrClose, .record fields _ :: outer, .closeRecord =>
    some (.complete outer (closeRecord fields))
  | .nameOrClose, .record fields _ :: outer, token => Reading.name? fields outer token
  | .name, .record fields _ :: outer, token => Reading.name? fields outer token
  | .colon, stack, .colon => some ⟨.value, stack, .null⟩
  | .separator, .list items :: outer, .closeList => some (.complete outer (.list items.reverse))
  -- After a comma there must be another item or name.
  | .separator, .list items :: outer, .comma => some ⟨.value, .list items :: outer, .null⟩
  | .separator, .record fields _ :: outer, .closeRecord =>
    some (.complete outer (closeRecord fields))
  | .separator, .record fields name :: outer, .comma =>
    some ⟨.name, .record fields name :: outer, .null⟩
  | _, _, _ => none

def Reading.result? (reading : Reading R) : Option (Value R) :=
  match reading.expected with
  | .nothing => some reading.result
  | _ => none

def read? [Scalar R] (text : String) : Option (Value R) := do
  let tokens ← scan text.toList
  let reading ← tokens.foldlM Reading.step? Reading.start
  reading.result?

end Scorekeeper.Document
