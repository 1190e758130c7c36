import Scorekeeper.Proofs.Ledger.Cycle
import Scorekeeper.Proofs.Totals.Loose

set_option autoImplicit false

namespace Scorekeeper

open Exact

variable {R : Type} [Scalar R]

def Action.desired (action : Action R) (target : R) : R :=
  match action.effect with
  | .add => target + action.value.amount
  | .multiply => target * action.value.amount
  | .set => action.value.amount

/-- Where an action is about the sum of all totals, no total but their own counts the uncategorized
entries. -/
def Action.Apart (action : Action R) (scope : Scope R) : Prop :=
  present action.target = none → ∀ parent, ¬ Under scope.categories uncategorized parent

variable [Exact R] {scope : Scope R}

theorem value_desired (action : Action R) (target : R) :
    value (action.desired target) = value target + value (action.difference target) := by
  rw [Action.desired, Action.difference]
  cases action.effect <;> simp

theorem value_targetTotal_withEntry {action : Action R} {entry : Entry R}
    (plain : scope.Plain) (distinct : (scope.categories.map Category.id).Nodup)
    (apart : action.Apart scope) (takes : scope.Takes entry)
    (category : entry.category = action.target) :
    value (action.targetTotal (scope.withEntry entry)) =
      value (action.targetTotal scope) + scope.gain entry := by
  rw [Action.targetTotal, Action.targetTotal]
  cases target : present action.target with
  | some id =>
    have bucket : entry.bucket = id := by rw [Posting.bucket, category, target, Option.getD_some]
    exact bucket ▸ scope.value_total_withEntry plain distinct takes
  | none =>
    have bucket : entry.bucket = uncategorized := by
      rw [Posting.bucket, category, target, Option.getD_none]
    exact scope.value_playerTotal_withEntry plain distinct takes (bucket ▸ apart target)

theorem Scope.gain_eq_value_iff {entry : Entry R} (moves : value entry.value ≠ 0) :
    scope.gain entry = value entry.value ↔
      ¬(scope.withEntry entry).RollsUp entry.bucket ∧
        weightOf scope.categories entry.bucket = Scalar.one := by
  rw [gain]
  split
  next rolls => simp [rolls, moves.symm]
  next kept =>
    have unscaled : value (weightOf scope.categories entry.bucket) = 1 ↔
        weightOf scope.categories entry.bucket = Scalar.one := by
      rw [← value_one (R := R), value_inj]
    rw [and_iff_right kept, ← unscaled]
    exact mul_eq_left₀ moves

namespace Rule

variable {rule : Rule R} {now : R} {posting : Posting R}

theorem value_ne_zero_of_posting? (posted : rule.posting? scope now = some posting) :
    value posting.value ≠ 0 := by
  obtain ⟨large, rfl⟩ := posting?_eq_some_iff.1 posted
  rw [lt_eq_false_iff, value_abs] at large
  exact abs_pos.1 (lt_of_lt_of_le value_tolerance_pos large)

theorem posting?_eq_none_of_attained (set : rule.action.effect = .set)
    (attained : rule.action.targetTotal scope = rule.action.value.amount) :
    rule.posting? scope now = none := by
  rw [posting?, if_pos]
  rw [lt_iff, value_abs, attained, Action.difference, set, value_sub, sub_self, abs_zero]
  exact value_tolerance_pos

theorem attains_iff {id : String} (plain : scope.Plain)
    (distinct : (scope.categories.map Category.id).Nodup) (apart : rule.action.Apart scope)
    (unused : id ∉ scope.book.entries.keys) (posted : rule.posting? scope now = some posting) :
    (rule.action.targetTotal (scope.withEntry (posting.toEntry id)) =
        rule.action.desired (rule.action.targetTotal scope) ↔
      ¬(scope.withEntry (posting.toEntry id)).RollsUp posting.bucket ∧
        weightOf scope.categories posting.bucket = Scalar.one) ∧
    (rule.action.effect = .set →
      rule.action.targetTotal (scope.withEntry (posting.toEntry id)) =
        rule.action.desired (rule.action.targetTotal scope) →
      ∀ later, rule.posting? (scope.withEntry (posting.toEntry id)) later = none) := by
  have moves : value (posting.toEntry id).value ≠ 0 := value_ne_zero_of_posting? posted
  constructor
  · obtain ⟨-, rfl⟩ := posting?_eq_some_iff.1 posted
    rw [← value_inj, value_targetTotal_withEntry plain distinct apart ⟨unused, rfl, rfl⟩ rfl,
      value_desired, add_right_inj]
    exact Scope.gain_eq_value_iff moves
  · intro set attained later
    rw [Action.desired, set] at attained
    exact posting?_eq_none_of_attained set attained

end Rule

def pointsScope (weight : Option ℚ) : Scope ℚ where
  book :=
    { Book.empty with
      sessions := Table.ofList [("s", ⟨"s", "S", ["p"], [], [], [], none, {}⟩)]
      categories := Table.ofList [("c", ⟨"c", "s", "Points", .weighted, none, none, weight, 0⟩)]
      entries := Table.ofList
        [("m", ⟨⟨"s", some "p", 4, 0, some "c", none, none, .manual⟩, "m"⟩)] }
  session := "s"
  player := some "p"

def setTen : Rule ℚ :=
  ⟨"r", "s", "ten", ⟨.total, .atLeast, ⟨0, false⟩, none, none⟩, ⟨.set, ⟨10, false⟩, some "c"⟩, true,
    none⟩

def toTen (total : ℚ) : Posting ℚ :=
  ⟨"s", some "p", 10 - total, 1, some "c", none, some "Auto: ten", .ruleEngine⟩

theorem plain_pointsScope (weight : Option ℚ) : (pointsScope weight).Plain := by
  refine Scope.plain_of_display fun category listed => ?_
  obtain rfl : category = _ := List.mem_singleton.1 listed
  exact nofun

theorem posting?_setTen {weight : Option ℚ} {total : ℚ}
    (held : setTen.action.targetTotal (pointsScope weight) = total)
    (far : Scalar.lt (Scalar.abs (10 - total)) Scalar.tolerance = false) :
    setTen.posting? (pointsScope weight) 1 = some (toTen total) := by
  refine Rule.posting?_eq_some_iff.2 ⟨by rw [held]; exact far, ?_⟩
  rw [held]
  rfl

namespace Rule

theorem attains_unweighted :
    (pointsScope none).Plain ∧ ((pointsScope none).categories.map Category.id).Nodup ∧
    setTen.action.Apart (pointsScope none) ∧ "x" ∉ (pointsScope none).book.entries.keys ∧
    setTen.posting? (pointsScope none) 1 = some (toTen 4) ∧
    setTen.action.targetTotal ((pointsScope none).withEntry ((toTen 4).toEntry "x")) = 10 ∧
    ∀ later,
      setTen.posting? ((pointsScope none).withEntry ((toTen 4).toEntry "x")) later = none := by
  have plain : (pointsScope none).Plain := plain_pointsScope none
  have distinct : ((pointsScope none).categories.map Category.id).Nodup := by decide
  have apart : setTen.action.Apart (pointsScope none) := fun whole => absurd whole (by decide)
  have unused : "x" ∉ (pointsScope none).book.entries.keys := by decide
  have four : setTen.action.targetTotal (pointsScope none) = 4 :=
    (plain.total_of_childless (by decide)).trans (by decide +kernel)
  have posted : setTen.posting? (pointsScope none) 1 = some (toTen 4) :=
    posting?_setTen four (by decide +kernel)
  obtain ⟨iff, settled⟩ := attains_iff plain distinct apart unused posted
  have attained := iff.2 ⟨fun rolls => absurd (Forest.mem_sums rolls).1 (by decide), by decide⟩
  exact ⟨plain, distinct, apart, unused, posted, attained, settled rfl attained⟩

/-- The difference to a weighted total is posted as it is, and then weighted. -/
theorem not_attains : ¬ ∀ (rule : Rule ℚ) (scope : Scope ℚ) (now : ℚ) (posting : Posting ℚ)
    (id : String),
    (∀ category ∈ scope.categories, category.display ≠ .formula) →
    (scope.categories.map Category.id).Nodup →
    (present rule.action.target = none ∨
      ∃ category ∈ scope.categories, rule.action.target = some category.id) →
    rule.action.effect ≠ .add → id ∉ scope.book.entries.keys →
    rule.posting? scope now = some posting →
    rule.action.targetTotal (scope.withEntry (posting.toEntry id)) =
      rule.action.desired (rule.action.targetTotal scope) := by
  intro attains
  have plain : (pointsScope (some 2)).Plain := plain_pointsScope (some 2)
  have later : ((pointsScope (some 2)).withEntry ((toTen 8).toEntry "x")).Plain := plain
  have eight : setTen.action.targetTotal (pointsScope (some 2)) = 8 :=
    (plain.total_of_childless (by decide)).trans (by decide +kernel)
  have posted : setTen.posting? (pointsScope (some 2)) 1 = some (toTen 8) :=
    posting?_setTen eight (by decide +kernel)
  have reached : setTen.action.targetTotal
      ((pointsScope (some 2)).withEntry ((toTen 8).toEntry "x")) = 12 :=
    (later.total_of_childless (by decide)).trans (by decide +kernel)
  have attained := attains setTen (pointsScope (some 2)) 1 (toTen 8) "x" (by decide) (by decide)
    (.inr ⟨_, List.mem_cons_self, rfl⟩) (by decide) (by decide) posted
  rw [reached] at attained
  exact absurd attained (by decide +kernel)

end Rule

end Scorekeeper
