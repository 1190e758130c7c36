import Scorekeeper.Proofs.Totals.Simultaneous

set_option autoImplicit false

/-!
# Names before ids

A reference is looked up among names and ids in one scan.  A record with the name is preferred to
one with the id only as far as the order of the records allows it.
-/

namespace Scorekeeper

open Scorekeeper.Text

section Scan

variable {B : Type} (name id : B → String) (reference : String)

def IsCalled (record : B) : Prop :=
  lowercase (name record) = lowercase reference

instance (record : B) : Decidable (IsCalled name reference record) :=
  inferInstanceAs (Decidable (lowercase (name record) = lowercase reference))

def isMeant (record : B) : Bool :=
  Template.refersTo reference (name record) (id record)

/-- Each record with the id is called by the name as well, or comes after one that is. -/
def NamesFirst (records : List B) : Prop :=
  ∀ before record after, records = before ++ record :: after → id record = reference →
    ∃ other ∈ before ++ [record], IsCalled name reference other

variable {name id reference} {records : List B}

theorem namesFirst_cons_iff {record : B} :
    NamesFirst name id reference (record :: records) ↔
      IsCalled name reference record ∨
        id record ≠ reference ∧ NamesFirst name id reference records := by
  constructor
  · intro first
    by_cases called : IsCalled name reference record
    · exact .inl called
    have uncalled {others : List B}
        (found : ∃ other ∈ record :: others, IsCalled name reference other) :
        ∃ other ∈ others, IsCalled name reference other := by
      obtain ⟨other, member, named⟩ := found
      rcases List.mem_cons.1 member with rfl | later
      · exact absurd named called
      · exact ⟨other, later, named⟩
    refine .inr ⟨fun same => ?_, fun before later after split same => ?_⟩
    · obtain ⟨other, member, -⟩ := uncalled (first [] record records rfl same)
      cases member
    · exact uncalled (first (record :: before) later after (by rw [split]; rfl) same)
  · rintro (called | ⟨other, first⟩) before later after split same
    · refine ⟨record, ?_, called⟩
      cases before with
      | nil => simp [(List.cons.inj split).1]
      | cons head before => simp [(List.cons.inj split).1]
    · cases before with
      | nil => exact absurd ((List.cons.inj split).1 ▸ same) other
      | cons head before =>
        obtain ⟨found, member, called⟩ := first before later after (List.cons.inj split).2 same
        exact ⟨found, List.mem_cons_of_mem head member, called⟩

theorem isMeant_iff {record : B} : isMeant name id reference record = true ↔
    IsCalled name reference record ∨ id record = reference := by
  simp [isMeant, Template.refersTo, IsCalled]

theorem exists_called_iff :
    (∃ found, records.find? (isMeant name id reference) = some found ∧
      IsCalled name reference found) ↔
    (∃ record ∈ records, IsCalled name reference record) ∧
      NamesFirst name id reference records := by
  induction records with
  | nil => simp
  | cons record rest ih =>
    simp only [namesFirst_cons_iff, List.mem_cons, exists_eq_or_imp]
    by_cases meant : isMeant name id reference record = true
    · rw [List.find?_cons_of_pos meant]
      by_cases called : IsCalled name reference record
      · simp [called]
      · have same : id record = reference := (isMeant_iff.1 meant).resolve_left called
        simp [called, same]
    · rw [List.find?_cons_of_neg meant, ih]
      rw [isMeant_iff, not_or] at meant
      simp [meant.1, meant.2]

theorem find?_isMeant_of_uncalled
    (uncalled : ∀ record ∈ records, ¬ IsCalled name reference record) :
    records.find? (isMeant name id reference) =
      records.find? fun record => id record = reference := by
  refine List.find?_congr fun record member => ?_
  rw [Bool.eq_iff_iff, isMeant_iff, or_iff_right (uncalled record member), decide_eq_true_iff]

end Scan

variable {R : Type} {template : Template R} {categories : List (Category R)} {reference : String}

theorem called_named?_iff
    (known : ∃ definition ∈ template.objects,
      IsCalled ObjectDefinition.name reference definition) :
    (∃ found, template.named? reference = some found ∧
        IsCalled ObjectDefinition.name reference found) ↔
      NamesFirst ObjectDefinition.name ObjectDefinition.id reference template.objects :=
  exists_called_iff.trans (and_iff_right known)

theorem named?_of_uncalled
    (uncalled : ∀ definition ∈ template.objects,
      ¬ IsCalled ObjectDefinition.name reference definition) :
    template.named? reference = template.definition? reference :=
  find?_isMeant_of_uncalled uncalled

theorem totalKey_eq (categories : List (Category R)) (reference : String) :
    totalKey categories reference =
      ((categories.find? (isMeant Category.name Category.id reference)).map
        Category.id).getD reference := by
  have meant : categories.find? (fun category =>
      Template.refersTo reference category.name category.id) =
        categories.find? (isMeant Category.name Category.id reference) := rfl
  rw [totalKey, meant]
  cases categories.find? (isMeant Category.name Category.id reference) <;> rfl

theorem called_totalKey_iff
    (known : ∃ category ∈ categories, IsCalled Category.name reference category) :
    (∃ category ∈ categories, IsCalled Category.name reference category ∧
        category.id = totalKey categories reference) ↔
      NamesFirst Category.name Category.id reference categories ∨
        ∃ category ∈ categories, IsCalled Category.name reference category ∧
          category.id = reference := by
  obtain ⟨found, first⟩ :
      ∃ found, categories.find? (isMeant Category.name Category.id reference) = some found := by
    obtain ⟨category, member, called⟩ := known
    rw [← Option.isSome_iff_exists, List.find?_isSome]
    exact ⟨category, member, isMeant_iff.2 (.inl called)⟩
  have key : totalKey categories reference = found.id := by
    rw [totalKey_eq, first, Option.map_some, Option.getD_some]
  have first_iff : NamesFirst Category.name Category.id reference categories ↔
      IsCalled Category.name reference found := by
    rw [← and_iff_right (b := NamesFirst _ _ _ _) known, ← exists_called_iff, first]
    simp
  rw [key, first_iff]
  by_cases called : IsCalled Category.name reference found
  · exact iff_of_true ⟨found, List.mem_of_find?_eq_some first, called, rfl⟩ (.inl called)
  · have same : found.id = reference :=
      (isMeant_iff.1 (List.find?_some first)).resolve_left called
    rw [same, or_iff_right called]

theorem totalKey_of_uncalled
    (uncalled : ∀ category ∈ categories, ¬ IsCalled Category.name reference category) :
    totalKey categories reference = reference := by
  rw [totalKey_eq, find?_isMeant_of_uncalled uncalled]
  cases found : categories.find? fun category => category.id = reference with
  | none => rfl
  | some category => simpa using List.find?_some found

theorem names_before_ids_iff {A : Type} [Scalar R] [Amount R A] (template : Template R)
    (categories : List (Category R)) (reference : String) :
    ((∃ definition ∈ template.objects, IsCalled ObjectDefinition.name reference definition) →
      ((∃ found, template.named? reference = some found ∧
          IsCalled ObjectDefinition.name reference found) ↔
        NamesFirst ObjectDefinition.name ObjectDefinition.id reference template.objects)) ∧
    ((∀ definition ∈ template.objects, ¬ IsCalled ObjectDefinition.name reference definition) →
      template.named? reference = template.definition? reference) ∧
    (reference ≠ totalReference →
      (∀ totals : Table A, categoryTotal categories totals reference =
        Amount.toReal ((totals.get? (totalKey categories reference)).getD Amount.absent)) ∧
      ((∃ category ∈ categories, IsCalled Category.name reference category) →
        ((∃ category ∈ categories, IsCalled Category.name reference category ∧
            category.id = totalKey categories reference) ↔
          NamesFirst Category.name Category.id reference categories ∨
            ∃ category ∈ categories, IsCalled Category.name reference category ∧
              category.id = reference)) ∧
      ((∀ category ∈ categories, ¬ IsCalled Category.name reference category) →
        totalKey categories reference = reference)) :=
  ⟨called_named?_iff, named?_of_uncalled, fun ordinary =>
    ⟨fun _ => categoryTotal_eq ordinary, called_totalKey_iff, totalKey_of_uncalled⟩⟩

def metal (id name : String) : ObjectDefinition ℚ :=
  ⟨id, name, .number, none, none, none, none, .null, none, none, none, none, [], none⟩

def metals (objects : List (ObjectDefinition ℚ)) : Template ℚ :=
  ⟨"t", "T", objects, [], [], "1.0"⟩

def metalCategory (id name : String) : Category ℚ :=
  ⟨id, "s", name, .sum, none, none, none, 0⟩

def metalTotals : Table ℚ :=
  Table.ofList [("gold", 1), ("x", 2)]

theorem names_before_ids_gold :
    (∃ found, (metals [metal "x" "Gold", metal "gold" "Silver"]).named? "gold" = some found ∧
      IsCalled ObjectDefinition.name "gold" found) ∧
    (metals [metal "gold" "Silver"]).named? "gold" =
      (metals [metal "gold" "Silver"]).definition? "gold" ∧
    ∃ category ∈ [metalCategory "x" "Gold", metalCategory "gold" "Silver"],
      IsCalled Category.name "gold" category ∧
        categoryTotal [metalCategory "x" "Gold", metalCategory "gold" "Silver"] metalTotals "gold" =
          .ok ((metalTotals.get? category.id).getD 0) := by
  have called : lowercase "Gold" = lowercase "gold" := by decide
  obtain ⟨named, -, totals⟩ := names_before_ids_iff (A := ℚ)
    (metals [metal "x" "Gold", metal "gold" "Silver"])
    [metalCategory "x" "Gold", metalCategory "gold" "Silver"] "gold"
  obtain ⟨-, alone, -⟩ := names_before_ids_iff (A := ℚ) (metals [metal "gold" "Silver"]) [] "gold"
  obtain ⟨reads, key, -⟩ := totals (by decide)
  obtain ⟨category, member, namedToo, same⟩ :=
    (key ⟨_, List.mem_cons_self, called⟩).2 (.inl (namesFirst_cons_iff.2 (.inl called)))
  refine ⟨(named ⟨_, List.mem_cons_self, called⟩).2 (namesFirst_cons_iff.2 (.inl called)),
    alone (by decide), category, member, namedToo, ?_⟩
  rw [reads, same]
  rfl

theorem not_names_before_ids :
    (¬ ∀ (template : Template ℚ) (reference : String),
      (∃ definition ∈ template.objects, IsCalled ObjectDefinition.name reference definition) →
      ∃ found, template.named? reference = some found ∧
        IsCalled ObjectDefinition.name reference found) ∧
    ¬ ∀ (categories : List (Category ℚ)) (totals : Table ℚ) (reference : String),
      reference ≠ totalReference →
      (∃ category ∈ categories, IsCalled Category.name reference category) →
      ∃ category ∈ categories, IsCalled Category.name reference category ∧
        categoryTotal categories totals reference = .ok ((totals.get? category.id).getD 0) := by
  constructor
  · intro named
    obtain ⟨found, first, called⟩ :=
      named (metals [metal "gold" "Silver", metal "x" "Gold"]) "gold" (by decide)
    have silver : (metals [metal "gold" "Silver", metal "x" "Gold"]).named? "gold" =
        some (metal "gold" "Silver") := rfl
    rw [silver, Option.some.injEq] at first
    subst first
    revert called
    decide
  · intro read
    obtain ⟨category, member, called, reads⟩ := read
      [metalCategory "gold" "Silver", metalCategory "x" "Gold"] metalTotals "gold" (by decide)
      (by decide)
    have one : categoryTotal [metalCategory "gold" "Silver", metalCategory "x" "Gold"] metalTotals
        "gold" = .ok 1 := rfl
    rw [one] at reads
    simp only [List.mem_cons, List.not_mem_nil, or_false] at member
    rcases member with rfl | rfl
    · revert called
      decide
    · exact absurd (Except.ok.inj reads) (by decide +kernel)

end Scorekeeper
