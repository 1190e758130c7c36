import Scorekeeper.Proofs.Review.Reference
import Scorekeeper.Proofs.Totals.Loose

set_option autoImplicit false

/-!
# References that a review warns of

A reference that a review does not know means no object and no category.  Yet what the player's
entries have under it is found by its name.
-/

namespace Scorekeeper

open Formula Scorekeeper.Text

variable {R : Type} [Scalar R]

namespace Scope

variable {scope : Scope R} {place : FormulaPlace} {name : String} {totals : Table R}

omit [Scalar R] in
theorem not_mem_ids_of_unknown (unknown : lowercase name ∉ scope.known) :
    name ∉ scope.categories.map Category.id := by
  intro listed
  refine unknown (lowercase_mem_known_iff.2 (.inr ⟨name, ?_, rfl⟩))
  exact List.mem_cons_of_mem _ (List.mem_append_left _ listed)

omit [Scalar R] in
theorem not_denotes_of_unknown (unknown : lowercase name ∉ scope.known) :
    ¬ scope.Denotes name := by
  rw [lowercase_mem_known_iff, not_or] at unknown
  rw [denotes_iff, not_or]
  exact ⟨unknown.1, fun listed => unknown.2 ⟨name, listed, rfl⟩⟩

theorem resolve_of_warned
    (warned : .unknownReference place name ∈ (reviewSession scope.book scope.session).warnings)
    (shown : scope.Shows totals) :
    ((scope.context totals).resolve name).outcome = .ok (scope.kept name) ∧
      ((∀ entry ∈ scope.entries, entry.bucket ≠ name ∧
        name ∉ (Forest.ofList scope.categories).ancestors entry.bucket) →
          scope.kept name = Scalar.zero) ∧
      (scope.player.isSome = true →
        (∀ category ∈ scope.categories, category.parent? ≠ some name) →
          scope.kept name = (scope.entries.filter (·.bucket = name)).foldl
            (fun sum entry => sum + entry.value) Scalar.zero) := by
  obtain ⟨-, _, -, -, -, unknown⟩ := unknownReference_mem_warnings_iff.1 warned
  have loose := not_mem_ids_of_unknown unknown
  refine ⟨?_, fun apart => ?_, fun played childless => ?_⟩
  · rw [outcome_resolve_of_not_denotes (not_denotes_of_unknown unknown),
      shown.getD_eq_kept loose]
  · rw [kept, get?_nested_of_loose loose apart]
    exact ite_self _
  · rw [kept, if_pos played, get?_nested_of_childless childless, getD_base]

end Scope

def looseScope : Scope ℚ :=
  scoreScope "{uncategorized}" [⟨⟨"s", some "p", 5, 0, none, none, none, .manual⟩, "e"⟩]

theorem unknown_uncategorized : lowercase "uncategorized" ∉ looseScope.known := by
  decide

theorem warned_uncategorized : .unknownReference (.category "Score") "uncategorized" ∈
    (reviewSession looseScope.book looseScope.session).warnings := by
  have spells : SpellsReference "{uncategorized}" "uncategorized" :=
    ⟨by decide, by decide, by decide⟩
  have written : looseScope.Has (.category "Score") "{uncategorized}" :=
    ⟨some "{uncategorized}", .head _, rfl⟩
  exact Scope.unknownReference_mem_warnings_iff.2 ⟨rfl, "{uncategorized}", written,
    spells.objection?_eq_none, spells.mem_references, unknown_uncategorized⟩

theorem childless_uncategorized :
    ∀ category ∈ looseScope.categories, category.parent? ≠ some "uncategorized" := by
  intro category listed
  cases List.mem_singleton.1 listed
  decide

theorem kept_uncategorized : looseScope.kept "uncategorized" = 5 := by
  have played : looseScope.player.isSome = true := rfl
  rw [Scope.kept, if_pos played, Scope.get?_nested_of_childless childless_uncategorized,
    Scope.getD_base]
  change (0 : ℚ) + 5 = 5
  norm_num

theorem resolve_of_warned_uncategorized :
    ((looseScope.context looseScope.objectTotals).resolve "uncategorized").outcome = .ok 5 ∧
      (looseScope.entries.filter (·.bucket = "uncategorized")).foldl
        (fun sum entry => sum + entry.value) 0 = (5 : ℚ) := by
  obtain ⟨reads, -, sums⟩ := Scope.resolve_of_warned warned_uncategorized .object
  rw [kept_uncategorized] at reads sums
  exact ⟨reads, (sums rfl childless_uncategorized).symm⟩

theorem resolve_ne_zero_of_warned : ¬ ∀ (scope : Scope ℚ) (place : FormulaPlace) (name : String)
    (totals : Table ℚ),
    .unknownReference place name ∈ (reviewSession scope.book scope.session).warnings →
      scope.Shows totals → ((scope.context totals).resolve name).outcome = .ok 0 := by
  intro zero
  have read := zero looseScope _ _ _ warned_uncategorized .object
  rw [Scope.outcome_resolve_of_not_denotes (Scope.not_denotes_of_unknown unknown_uncategorized),
    Scope.Shows.getD_eq_kept .object (Scope.not_mem_ids_of_unknown unknown_uncategorized),
    kept_uncategorized] at read
  exact absurd (Except.ok.inj read) (by norm_num)

end Scorekeeper
