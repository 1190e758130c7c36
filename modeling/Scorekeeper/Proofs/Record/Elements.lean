import Scorekeeper.Proofs.Except
import Scorekeeper.Proofs.Scalar.Exact
import Scorekeeper.Proofs.Table
import Scorekeeper.Record.Elements

set_option autoImplicit false

/-!
# Which documents give a book

The elements of sets are read only after the records of a document, and no definition is asked which
values are sets.  So a document may be accepted, and then refused for a list of records that was
never meant as a set.
-/

namespace Scorekeeper

variable {R A B : Type}

namespace Checked

def IsValid (checked : Checked A) : Prop :=
  ∃ value, checked = .valid value

@[simp] theorem isValid_map {f : A → B} {checked : Checked A} :
    (checked.map f).IsValid ↔ checked.IsValid := by
  cases checked <;> simp [IsValid, map]

@[simp] theorem isValid_both {f : Checked (A → B)} {checked : Checked A} :
    (f.both checked).IsValid ↔ f.IsValid ∧ checked.IsValid := by
  cases f <;> cases checked <;> simp [IsValid, both, map]

@[simp] theorem isValid_inside {place : String} {checked : Checked A} :
    (checked.inside place).IsValid ↔ checked.IsValid := by
  cases checked <;> simp [IsValid, inside]

@[simp] theorem isValid_all {items : List (Checked A)} :
    (all items).IsValid ↔ ∀ item ∈ items, item.IsValid := by
  induction items with
  | nil => exact iff_of_true ⟨[], rfl⟩ nofun
  | cons first rest ih =>
    rw [List.forall_mem_cons, ← ih]
    exact isValid_both.trans (and_congr_left fun _ => isValid_map)

theorem exists_toExcept_eq_ok_iff {checked : Checked A} :
    (∃ value, checked.toExcept = .ok value) ↔ checked.IsValid := by
  cases checked <;> simp [IsValid, toExcept]

end Checked

namespace Record

variable [Scalar R] {dialect : Dialect} {fields : List (String × Value R)} {name : String}
  {reading : Reading R A}

theorem isValid_required : (required dialect fields name reading).IsValid ↔
    ∃ value, dialect.find? fields name = some value ∧ (reading value).IsValid := by
  rw [required, Checked.isValid_inside]
  cases dialect.find? fields name <;> simp [Checked.IsValid, fault, Checked.fault]

omit [Scalar R] in
theorem isValid_defaulted {default : A} : (defaulted dialect fields name reading default).IsValid ↔
    ∀ value, dialect.find? fields name = some value → (reading value).IsValid := by
  rw [defaulted, Checked.isValid_inside]
  cases dialect.find? fields name <;> simp [Checked.IsValid]

theorem isValid_text {value : Value R} : (text value).IsValid ↔ ∃ s, value = .text s := by
  cases value <;> simp [text, Checked.IsValid, fault, Checked.fault]

theorem isValid_pairs_anything {value : Value R} :
    (pairs anything value).IsValid ↔ value.isRecord = true := by
  cases value with
  | record fields =>
    refine iff_of_true (Checked.isValid_all.2 fun item member => ?_) rfl
    obtain ⟨⟨key, held⟩, -, rfl⟩ := List.mem_map.1 member
    exact ⟨(key, held), rfl⟩
  | _ => simp [pairs, Checked.IsValid, fault, Checked.fault, Value.isRecord]

end Record

section Counted

variable [Scalar R]

structure CountsElement (fields : List (String × Value R)) : Prop where
  kind : ∃ id, Record.stored.find? fields "element_object_definition_id" = some (.text id)
  quantity : ∃ value, Record.stored.find? fields "quantity" = some value ∧
    (Record.score value).IsValid
  properties : ∀ value, Record.stored.find? fields "properties" = some value →
    value.isRecord = true

theorem isValid_element {fields : List (String × Value R)} :
    (Record.element (.record fields)).IsValid ↔ CountsElement fields := by
  have parts : (Record.element (.record fields)).IsValid ↔
      ((Record.required Record.stored fields "element_object_definition_id" Record.text).IsValid ∧
        (Record.required Record.stored fields "quantity" Record.score).IsValid) ∧
      (Record.defaulted Record.stored fields "properties" (Record.pairs Record.anything)
        []).IsValid :=
    Checked.isValid_both.trans <| and_congr_left fun _ =>
      Checked.isValid_both.trans <| and_congr_left fun _ => Checked.isValid_map
  simp only [parts, Record.isValid_required, Record.isValid_text, Record.isValid_defaulted,
    Record.isValid_pairs_anything]
  constructor
  · rintro ⟨⟨⟨_, found, id, rfl⟩, quantity⟩, properties⟩
    exact ⟨⟨id, found⟩, quantity, properties⟩
  · rintro ⟨⟨id, found⟩, quantity, properties⟩
    exact ⟨⟨⟨_, found, id, rfl⟩, quantity⟩, properties⟩

def Value.CountsElements (value : Value R) : Prop :=
  ∀ items, value = .list items → (∀ item ∈ items, item.isRecord = true) →
    ∀ fields, .record fields ∈ items → CountsElement fields

omit [Scalar R] in
theorem Value.elementRecords_of_forall {items : List (Value R)}
    (records : ∀ item ∈ items, item.isRecord = true) :
    (Value.list items).elementRecords = items :=
  if_pos (List.all_eq_true.2 records)

theorem Value.countsElements_list_iff {items : List (Value R)}
    (records : ∀ item ∈ items, item.isRecord = true) :
    (Value.list items).CountsElements ↔
      ∀ fields, .record fields ∈ items → CountsElement fields :=
  ⟨fun counts => counts items rfl records, fun counts _ same _ => by cases same; exact counts⟩

theorem exists_mapM_element_iff {items : List (Value R)}
    (records : ∀ item ∈ items, item.isRecord = true) :
    (∃ results, items.mapM (fun item => (Record.element item).toExcept) = .ok results) ↔
      ∀ fields, .record fields ∈ items → CountsElement fields := by
  simp only [exists_mapM_eq_ok_iff, Checked.exists_toExcept_eq_ok_iff]
  refine ⟨fun valid fields member => isValid_element.1 (valid _ member), ?_⟩
  intro counts item member
  cases item with
  | record fields => exact isValid_element.2 (counts fields member)
  | _ => cases records _ member

theorem Value.exists_withElements_iff {value : Value R} :
    (∃ result, value.withElements = .ok result) ↔ value.CountsElements := by
  by_cases listed : ∃ items, value = .list items ∧ ∀ item ∈ items, item.isRecord = true
  · obtain ⟨items, rfl, records⟩ := listed
    rw [countsElements_list_iff records, ← exists_mapM_element_iff records, withElements,
      elementRecords_of_forall records]
    -- The empty list is no list of elements, and asks nothing of its records either.
    cases items with
    | nil => exact iff_of_true ⟨_, rfl⟩ ⟨_, rfl⟩
    | cons first rest => exact exists_bind_eq_ok_iff fun _ => ⟨_, rfl⟩
  · have none : value.elementRecords = [] := by
      cases value with
      | list items =>
        refine if_neg fun all => listed ⟨items, rfl, ?_⟩
        exact List.all_eq_true.1 all
      | _ => rfl
    refine iff_of_true ⟨value, by rw [withElements, none]⟩ fun items same records => ?_
    exact absurd ⟨items, same, records⟩ listed

theorem ObjectInstance.exists_withElements_iff {number : Nat} {object : ObjectInstance R} :
    (∃ result, object.withElements number = .ok result) ↔ object.value.CountsElements :=
  (exists_bind_eq_ok_iff fun _ => ⟨_, rfl⟩).trans Value.exists_withElements_iff

theorem Book.exists_withElements_iff {book : Book R} :
    (∃ result, book.withElements = .ok result) ↔
      ∀ object ∈ book.objects.values, object.value.CountsElements := by
  refine (exists_bind_eq_ok_iff fun _ => ⟨_, rfl⟩).trans (exists_mapM_eq_ok_iff.trans ?_)
  -- The place of an object has a part in its origin only, not in whether its value can be read.
  constructor
  · intro answers object member
    obtain ⟨⟨key, object⟩, stored, rfl⟩ := List.mem_map.1 member
    obtain ⟨index, bound, same⟩ := List.mem_iff_getElem.1 stored
    obtain ⟨result, answer⟩ := answers (index, key, object)
      (List.mem_mapIdx.2 ⟨index, bound, by rw [same]⟩)
    obtain ⟨read, found, -⟩ := bind_eq_ok_iff.1 answer
    exact ObjectInstance.exists_withElements_iff.1 ⟨read, found⟩
  · intro counts entry member
    obtain ⟨index, bound, rfl⟩ := List.mem_mapIdx.1 member
    refine (exists_bind_eq_ok_iff fun _ => ⟨_, rfl⟩).2 ?_
    exact ObjectInstance.exists_withElements_iff.2
      (counts _ (List.mem_map.2 ⟨_, List.getElem_mem bound, rfl⟩))

theorem Record.readBook_answers_iff {document : Value R} {accepted : Book R}
    (valid : Record.book Record.stored document = .valid accepted) :
    (∃ book, Record.readBook document = .ok book) ↔
      ∀ object ∈ accepted.objects.values, ∀ items, object.value = .list items →
        (∀ item ∈ items, item.isRecord = true) →
          ∀ fields, .record fields ∈ items → CountsElement fields := by
  have reads : Record.readBook document = accepted.withElements.map Book.apart := by
    rw [Record.readBook, Record.readWith, valid]
    rfl
  rw [reads, exists_map_eq_ok_iff, Book.exists_withElements_iff]
  rfl

end Counted

def oneObject (kind : String) (value : Value ℚ) : Value ℚ :=
  .record
    [("templates", .record [("t", .record
        [("id", .text "t"), ("name", .text "Cards"),
          ("objectDefinitions", .list [.record
            [("id", .text "deck"), ("name", .text "Deck"), ("type", .text kind)]])])]),
      ("objectValues", .record [("d", .record
        [("id", .text "d"), ("sessionId", .text "s"), ("objectDefinitionId", .text "deck"),
          ("value", value)])])]

def twoRubies : Value ℚ :=
  .list [.record [("elementObjectDefinitionId", .text "ruby"), ("quantity", .whole 2)]]

def oneAce : Value ℚ :=
  .list [.record [("name", .text "ace")]]

theorem Record.readBook_answers_rubies :
    ∃ book, Record.readBook (oneObject "set" twoRubies) = .ok book := by
  refine (Record.readBook_answers_iff rfl).2 fun object member items value records fields given => ?_
  cases List.mem_singleton.1 member
  cases value
  cases List.mem_singleton.1 given
  exact ⟨⟨"ruby", rfl⟩, ⟨.whole 2, rfl, _, rfl⟩, nofun⟩

theorem Record.readBook_refuses_ace :
    ∃ accepted, Record.book Record.stored (oneObject "custom" oneAce) = .valid accepted ∧
      (∀ template ∈ accepted.templates.values, ∀ definition ∈ template.objects,
        definition.kind = .custom) ∧
      ∀ book, Record.readBook (oneObject "custom" oneAce) ≠ .ok book := by
  refine ⟨_, rfl, fun template known definition listed => ?_, fun book same => ?_⟩
  · cases List.mem_singleton.1 known
    cases List.mem_singleton.1 listed
    rfl
  · cases same

end Scorekeeper
