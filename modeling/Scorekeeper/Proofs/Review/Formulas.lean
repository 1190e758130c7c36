import Scorekeeper.Proofs.Formula.Dependence
import Scorekeeper.Proofs.Formula.Meaning
import Scorekeeper.Review.Session

set_option autoImplicit false

namespace Scorekeeper

open Scorekeeper.Text

variable {R : Type}

namespace Review

structure Includes (whole part : Review) : Prop where
  errors : part.errors ⊆ whole.errors
  warnings : part.warnings ⊆ whole.warnings

theorem Includes.trans {whole middle part : Review} (outer : whole.Includes middle)
    (inner : middle.Includes part) : whole.Includes part :=
  ⟨List.Subset.trans inner.errors outer.errors, List.Subset.trans inner.warnings outer.warnings⟩

theorem foldl_append_eq (start : Review) (reviews : List Review) :
    reviews.foldl append start =
      ⟨start.errors ++ reviews.flatMap errors, start.warnings ++ reviews.flatMap warnings⟩ := by
  induction reviews generalizing start with
  | nil => simp
  | cons first rest ih => simp [ih, append]

theorem mem_warnings_all {reviews : List Review} {warning : Warning} :
    warning ∈ (all reviews).warnings ↔ ∃ review ∈ reviews, warning ∈ review.warnings := by
  simp [all, foldl_append_eq, none]

theorem includes_all {reviews : List Review} {review : Review} (member : review ∈ reviews) :
    (all reviews).Includes review := by
  rw [all, foldl_append_eq]
  exact ⟨fun _ reported => List.mem_flatMap.2 ⟨review, member, reported⟩,
    fun _ reported => List.mem_flatMap.2 ⟨review, member, reported⟩⟩

end Review

namespace Formula

structure SpellsReference (formula name : String) : Prop where
  named : name ≠ ""
  lexical : (Token.reference name).isLexical = true
  spelled : formula.toList = (Token.reference name).spelling

namespace SpellsReference

variable {formula name : String}

theorem read (spells : SpellsReference formula name) : (trim formula.toList).isEmpty = false ∧
    tokenize (trimmed formula) = .ok [.reference name] := by
  have written : Written 0 (.reference name) [.reference name] := .reference spells.lexical
  have alone : Spelled [.reference name] ((Token.reference name).spelling ++ []) := .token .nil
  rw [List.append_nil, ← spells.spelled] at alone
  exact ⟨isEmpty_trim_written written alone, tokenize_written written alone⟩

theorem objection?_eq_none (spells : SpellsReference formula name) :
    objection? formula = none := by
  obtain ⟨filled, read⟩ := spells.read
  simp [objection?, filled, read, balanceObjection?, Token.objection?, spells.named]

theorem mem_references (spells : SpellsReference formula name) : name ∈ references formula :=
  (mem_references_iff_of_read spells.read.2).2 List.mem_cons_self

end SpellsReference

end Formula

section Formula

variable {known : List String} {place other : FormulaPlace} {written : Option String}
  {name : String} {objection : Formula.Objection}

theorem formula_mem_errors_reviewFormula_iff :
    .formula place objection ∈ (reviewFormula known other written).errors ↔
      other = place ∧ ∃ formula, present written = some formula ∧
        Formula.objection? formula = some objection := by
  rw [reviewFormula]
  cases present written with
  | none => simp [Review.none]
  | some formula =>
    cases objected : Formula.objection? formula <;> simp [objected, eq_comm]

theorem unknownReference_mem_warnings_reviewFormula_iff :
    .unknownReference place name ∈ (reviewFormula known other written).warnings ↔
      other = place ∧ ∃ formula, present written = some formula ∧
        Formula.objection? formula = none ∧ name ∈ Formula.references formula ∧
          lowercase name ∉ known := by
  rw [reviewFormula]
  cases present written with
  | none => simp [Review.none]
  | some formula =>
    cases objected : Formula.objection? formula with
    | some objection => simp [objected]
    | none =>
      simp only [List.mem_map, List.mem_filter, Warning.unknownReference.injEq, Option.some.injEq,
        exists_eq_left', objected, true_and, Bool.not_eq_true', List.contains_eq_mem,
        decide_eq_false_iff_not]
      constructor
      · rintro ⟨_, ⟨referred, unknown⟩, rfl, rfl⟩
        exact ⟨rfl, referred, unknown⟩
      · rintro ⟨rfl, referred, unknown⟩
        exact ⟨name, ⟨referred, unknown⟩, rfl, rfl⟩

end Formula

namespace Scope

variable {scope : Scope R} {place : FormulaPlace} {formula name : String}
  {objection : Formula.Objection}

def formulaFields (scope : Scope R) : List (FormulaPlace × Option String) :=
  (scope.categories.map fun category => (.category category.name, category.formula)) ++
    scope.definitions.flatMap fun definition =>
      [(.calculation definition.name, definition.calculation),
        (.scoreImpact definition.name, definition.scoreImpact)]

def Has (scope : Scope R) (place : FormulaPlace) (formula : String) : Prop :=
  ∃ written, (place, written) ∈ scope.formulaFields ∧ present written = some formula

def known (scope : Scope R) : List String :=
  knownNames scope.categories scope.definitions

theorem getD_objects_eq :
    ((scope.book.template? scope.session).map Template.objects).getD [] = scope.definitions := by
  rw [definitions, template?]
  cases scope.book.template? scope.session <;> rfl

theorem reviewSession_eq (found : (scope.book.session? scope.session).isSome = true) :
    reviewSession scope.book scope.session = .all [
      ⟨[], if (scope.book.template? scope.session).isSome then [] else [.noTemplate]⟩,
      ⟨(Forest.ofList scope.categories).issues, []⟩,
      .all (scope.categories.map fun category =>
        reviewFormula scope.known (.category category.name) category.formula),
      .all (scope.definitions.map
        (reviewObject scope.known (scope.definitions.map ObjectDefinition.id))),
      ⟨[], (scope.book.sessionRules scope.session).flatMap
        (reviewRule scope.known (scope.categories.map Category.id))⟩] := by
  obtain ⟨session, found⟩ := Option.isSome_iff_exists.1 found
  rw [reviewSession, found]
  simp only [getD_objects_eq]
  rfl

theorem includes_reviewFormula {written : Option String}
    (found : (scope.book.session? scope.session).isSome = true)
    (listed : (place, written) ∈ scope.formulaFields) :
    (reviewSession scope.book scope.session).Includes (reviewFormula scope.known place written) := by
  rw [reviewSession_eq found]
  rcases List.mem_append.1 listed with ofCategory | ofObject
  · obtain ⟨category, member, same⟩ := List.mem_map.1 ofCategory
    cases same
    refine (Review.includes_all (.tail _ (.tail _ (.head _)))).trans ?_
    exact Review.includes_all (List.mem_map_of_mem member)
  · obtain ⟨definition, member, given⟩ := List.mem_flatMap.1 ofObject
    refine (Review.includes_all (.tail _ (.tail _ (.tail _ (.head _))))).trans ?_
    refine (Review.includes_all (List.mem_map_of_mem member)).trans (Review.includes_all ?_)
    simp only [List.mem_cons, List.not_mem_nil, or_false, Prod.mk.injEq] at given
    rcases given with ⟨rfl, rfl⟩ | ⟨rfl, rfl⟩
    · exact .tail _ (.head _)
    · exact .tail _ (.tail _ (.head _))

theorem exists_field_of_warned
    (warned : .unknownReference place name ∈ (reviewSession scope.book scope.session).warnings) :
    (scope.book.session? scope.session).isSome = true ∧ ∃ field ∈ scope.formulaFields,
      .unknownReference place name ∈ (reviewFormula scope.known field.1 field.2).warnings := by
  cases found : scope.book.session? scope.session with
  | none => simp [reviewSession, found] at warned
  | some session =>
    rw [reviewSession_eq (by rw [found, Option.isSome_some]), Review.mem_warnings_all] at warned
    refine ⟨rfl, ?_⟩
    obtain ⟨review, part, reported⟩ := warned
    simp only [List.mem_cons, List.not_mem_nil, or_false] at part
    -- Neither the template, the forest nor the rules give a warning of this kind.
    rcases part with rfl | rfl | rfl | rfl | rfl
    next => split at reported <;> simp at reported
    next => cases reported
    next =>
      obtain ⟨_, member, reported⟩ := Review.mem_warnings_all.1 reported
      obtain ⟨category, listed, rfl⟩ := List.mem_map.1 member
      exact ⟨_, List.mem_append_left _ (List.mem_map_of_mem listed), reported⟩
    next =>
      obtain ⟨_, member, reported⟩ := Review.mem_warnings_all.1 reported
      obtain ⟨definition, listed, rfl⟩ := List.mem_map.1 member
      obtain ⟨_, member, reported⟩ := Review.mem_warnings_all.1 reported
      have field {field : FormulaPlace × Option String}
          (given : field ∈ [(.calculation definition.name, definition.calculation),
            (.scoreImpact definition.name, definition.scoreImpact)]) :
          field ∈ scope.formulaFields :=
        List.mem_append_right _ (List.mem_flatMap.2 ⟨definition, listed, given⟩)
      simp only [List.mem_cons, List.not_mem_nil, or_false] at member
      rcases member with rfl | rfl | rfl
      · cases reported
      · exact ⟨_, field (.head _), reported⟩
      · exact ⟨_, field (.tail _ (.head _)), reported⟩
    next =>
      obtain ⟨rule, -, reported⟩ := List.mem_flatMap.1 reported
      simp [reviewRule] at reported

theorem formula_mem_errors (found : (scope.book.session? scope.session).isSome = true)
    (written : scope.Has place formula) (objected : Formula.objection? formula = some objection) :
    .formula place objection ∈ (reviewSession scope.book scope.session).errors := by
  obtain ⟨field, listed, given⟩ := written
  refine (includes_reviewFormula found listed).errors ?_
  exact formula_mem_errors_reviewFormula_iff.2 ⟨rfl, formula, given, objected⟩

theorem unknownReference_mem_warnings_iff :
    .unknownReference place name ∈ (reviewSession scope.book scope.session).warnings ↔
      (scope.book.session? scope.session).isSome = true ∧
        ∃ formula, scope.Has place formula ∧ Formula.objection? formula = none ∧
          name ∈ Formula.references formula ∧ lowercase name ∉ scope.known := by
  constructor
  · intro warned
    obtain ⟨found, ⟨_, field⟩, listed, reported⟩ := exists_field_of_warned warned
    obtain ⟨rfl, formula, given, rest⟩ :=
      unknownReference_mem_warnings_reviewFormula_iff.1 reported
    exact ⟨found, formula, ⟨field, listed, given⟩, rest⟩
  · rintro ⟨found, formula, ⟨field, listed, given⟩, rest⟩
    refine (includes_reviewFormula found listed).warnings ?_
    exact unknownReference_mem_warnings_reviewFormula_iff.2 ⟨rfl, formula, given, rest⟩

end Scope

end Scorekeeper
