import Scorekeeper.Proofs.Review.Formulas
import Scorekeeper.Proofs.Totals.Simultaneous

set_option autoImplicit false

/-!
# References that a review lets pass

A review compares references, names and ids all in small letters.  An evaluation compares names in
small letters too, but takes ids, and the name of the sum of all totals, as they are.
-/

namespace Scorekeeper

open Formula Scorekeeper.Text

variable {R : Type}

namespace Scope

variable {scope : Scope R} {place : FormulaPlace} {formula name : String}

def names (scope : Scope R) : List String :=
  scope.categories.map Category.name ++ scope.definitions.map ObjectDefinition.name

/-- What a reference has to be to the letter, if it is none of the names. -/
def ids (scope : Scope R) : List String :=
  totalReference :: (scope.categories.map Category.id ++ scope.definitions.map ObjectDefinition.id)

def Denotes (scope : Scope R) (name : String) : Prop :=
  (∃ definition, scope.named? name = some definition) ∨ name = totalReference ∨
    ∃ category ∈ scope.categories, Template.refersTo name category.name category.id = true

-- An id, or the name of the sum of all totals, in other letters than its own.
structure Miscased (scope : Scope R) (name : String) : Prop where
  respelt : ∃ id ∈ scope.ids, lowercase id = lowercase name
  other : name ∉ scope.ids
  unnamed : ∀ called ∈ scope.names, lowercase called ≠ lowercase name

structure Unreported (scope : Scope R) (place : FormulaPlace) (formula name : String) : Prop where
  session : (scope.book.session? scope.session).isSome = true
  written : scope.Has place formula
  referred : name ∈ references formula
  readable : ∀ objection, objection? formula = some objection →
    .formula place objection ∉ (reviewSession scope.book scope.session).errors
  silent : .unknownReference place name ∉ (reviewSession scope.book scope.session).warnings

theorem exists_named?_iff : (∃ definition, scope.named? name = some definition) ↔
    ∃ definition ∈ scope.definitions,
      Template.refersTo name definition.name definition.id = true := by
  rw [named?, definitions]
  cases scope.template? with
  | none => simp
  | some template =>
    rw [← Option.isSome_iff_exists, Option.bind_some, Template.named?, List.find?_isSome]

theorem denotes_iff :
    scope.Denotes name ↔ (∃ called ∈ scope.names, lowercase called = lowercase name) ∨
      name ∈ scope.ids := by
  simp only [Denotes, exists_named?_iff, Template.refersTo, names, ids, Bool.or_eq_true,
    decide_eq_true_eq, List.mem_append, List.mem_cons, List.mem_map]
  grind

theorem lowercase_totalReference : lowercase totalReference = totalReference := by
  decide

theorem lowercase_mem_known_iff :
    lowercase name ∈ scope.known ↔ (∃ called ∈ scope.names, lowercase called = lowercase name) ∨
      ∃ id ∈ scope.ids, lowercase id = lowercase name := by
  simp only [known, knownNames, names, ids, List.mem_append, List.mem_cons, List.mem_flatMap,
    List.mem_map, List.not_mem_nil, or_false]
  have total := lowercase_totalReference
  grind

theorem denotes_iff_of_known (known : lowercase name ∈ scope.known) :
    scope.Denotes name ↔ ¬ scope.Miscased name := by
  rw [denotes_iff]
  -- Names are compared alike on both sides, so only ids tell the two apart.
  rcases lowercase_mem_known_iff.1 known with called | ⟨id, listed, same⟩
  · obtain ⟨called, listed, same⟩ := called
    refine iff_of_true (.inl ⟨called, listed, same⟩) fun miscased => ?_
    exact miscased.unnamed called listed same
  · constructor
    · rintro (⟨called, listed, same⟩ | exact) miscased
      · exact miscased.unnamed called listed same
      · exact miscased.other exact
    · intro spelt
      by_contra absent
      rw [not_or] at absent
      exact spelt ⟨⟨id, listed, same⟩, absent.2, fun called listed same =>
        absent.1 ⟨called, listed, same⟩⟩

theorem Unreported.lowercase_mem_known (unreported : scope.Unreported place formula name) :
    lowercase name ∈ scope.known := by
  have clear : objection? formula = none :=
    Option.eq_none_iff_forall_ne_some.2 fun objection objected => unreported.readable objection
      objected (formula_mem_errors unreported.session unreported.written objected)
  by_contra unknown
  exact unreported.silent (unknownReference_mem_warnings_iff.2
    ⟨unreported.session, formula, unreported.written, clear, unreported.referred, unknown⟩)

variable [Scalar R]

theorem outcome_resolve_of_not_denotes (absent : ¬ scope.Denotes name) (totals : Table R) :
    ((scope.context totals).resolve name).outcome =
      .ok ((totals.get? name).getD Scalar.zero) := by
  rw [Denotes, not_or, not_or] at absent
  obtain ⟨undefined, ordinary, unnamed⟩ := absent
  have object : scope.objectScore? name = .ok none := by
    have none : scope.named? name = none :=
      Option.eq_none_iff_forall_ne_some.2 fun definition found => undefined ⟨definition, found⟩
    rw [objectScore?, objectNumber?, none]
    rfl
  have total : categoryTotal scope.categories totals name =
      .ok ((totals.get? name).getD Scalar.zero) := by
    have none : scope.categories.find?
        (fun category => Template.refersTo name category.name category.id) = none :=
      List.find?_eq_none.2 fun category listed refers => unnamed ⟨category, listed, refers⟩
    rw [categoryTotal_eq ordinary, totalKey, none]
    rfl
  rw [Context.resolve]
  simp only [context, object, total]
  rfl

theorem Unreported.denotes_iff_not_miscased (unreported : scope.Unreported place formula name) :
    (scope.Denotes name ↔ ¬ scope.Miscased name) ∧
      (scope.Miscased name → (∀ category ∈ scope.categories, category.id ≠ name) ∧
        ∀ totals : Table R, ((scope.context totals).resolve name).outcome =
          .ok ((totals.get? name).getD Scalar.zero)) := by
  have spelling := denotes_iff_of_known unreported.lowercase_mem_known
  refine ⟨spelling, fun miscased => ⟨fun category listed same => ?_, fun totals => ?_⟩⟩
  · refine miscased.other (List.mem_cons_of_mem _ (List.mem_append_left _ ?_))
    exact List.mem_map.2 ⟨category, listed, same⟩
  · exact outcome_resolve_of_not_denotes (fun denotes => spelling.1 denotes miscased) totals

end Scope

def scoreCategory (formula : String) : Category ℚ :=
  ⟨"score", "s", "Score", .formula, none, some formula, none, 0⟩

def scoreScope (formula : String) (entries : List (Entry ℚ)) : Scope ℚ where
  book :=
    { Book.empty with
      sessions := Table.ofList [("s", ⟨"s", "S", ["p"], [], [], [], none, {}⟩)]
      categories := Table.ofList [("score", scoreCategory formula)]
      entries := Table.ofList (entries.map fun entry => (entry.id, entry)) }
  session := "s"
  player := some "p"

theorem spells_capitalTotal : SpellsReference "{Total}" "Total" :=
  ⟨by decide, by decide, by decide⟩

theorem unreported_capitalTotal :
    (scoreScope "{Total}" []).Unreported (.category "Score") "{Total}" "Total" where
  session := rfl
  written := ⟨some "{Total}", by decide, rfl⟩
  referred := spells_capitalTotal.mem_references
  readable objection objected := by
    rw [spells_capitalTotal.objection?_eq_none] at objected
    cases objected
  silent warned := by
    obtain ⟨_, _, _, _, _, unknown⟩ := Scope.unknownReference_mem_warnings_iff.1 warned
    exact unknown (by decide)

theorem denotes_iff_not_miscased_capitalTotal :
    (scoreScope "{Total}" []).Miscased "Total" ∧ ¬ (scoreScope "{Total}" []).Denotes "Total" ∧
      (((scoreScope "{Total}" []).context (Table.ofList [("score", (3 : ℚ))])).resolve
        "Total").outcome = .ok 0 := by
  have miscased : (scoreScope "{Total}" []).Miscased "Total" :=
    ⟨⟨"total", by decide, by decide⟩, by decide, by decide⟩
  obtain ⟨spelling, reads⟩ := unreported_capitalTotal.denotes_iff_not_miscased
  exact ⟨miscased, fun denotes => spelling.1 denotes miscased, (reads miscased).2 _⟩

theorem not_denotes_of_unreported : ¬ ∀ (scope : Scope ℚ) (place : FormulaPlace)
    (formula name : String), scope.Unreported place formula name → scope.Denotes name := by
  intro denotes
  rcases Scope.denotes_iff.1 (denotes _ _ _ _ unreported_capitalTotal) with called | exact
  · revert called
    decide
  · revert exact
    decide

end Scorekeeper
