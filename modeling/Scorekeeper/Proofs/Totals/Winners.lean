import Scorekeeper.Proofs.Table
import Scorekeeper.Totals.Winners

set_option autoImplicit false

namespace Scorekeeper

namespace Scalar

variable {R : Type} [Scalar R]

/-- What is no number is not even equal to itself. -/
def IsNumber (x : R) : Prop :=
  eq x x = true

end Scalar

open Scalar (IsNumber)

/-- Scores that are numbers are in order, though different ones may be equally large. -/
class Scalar.Ordered (R : Type) [Scalar R] : Prop where
  total {x y : R} (number : IsNumber x) (other : IsNumber y) : le x y = true ∨ le y x = true
  trans {x y z : R} (first : IsNumber x) (second : IsNumber y) (third : IsNumber z)
    (below : le x y = true) (above : le y z = true) : le x z = true
  lt_iff {x y : R} (number : IsNumber x) (other : IsNumber y) :
    lt x y = true ↔ le x y = true ∧ le y x = false
  eq_iff {x y : R} (number : IsNumber x) (other : IsNumber y) :
    eq x y = true ↔ le x y = true ∧ le y x = true

variable {R : Type} [Scalar R]

namespace Direction

def noBetter (direction : Direction) (x y : R) : Bool :=
  match direction with
  | .higherWins => Scalar.le x y
  | .lowerWins => Scalar.le y x

structure Best (direction : Direction) (totals : List R) (best : R) : Prop where
  reached : best ∈ totals
  unbeaten : ∀ x ∈ totals, direction.noBetter x best = true

variable [Scalar.Ordered R] {direction : Direction} {x y z best : R} {totals : List R}

theorem noBetter_total (number : IsNumber x) (other : IsNumber y) :
    direction.noBetter x y = true ∨ direction.noBetter y x = true := by
  cases direction with
  | higherWins => exact Scalar.Ordered.total number other
  | lowerWins => exact Scalar.Ordered.total other number

theorem noBetter_refl (number : IsNumber x) : direction.noBetter x x = true :=
  (noBetter_total number number).elim id id

theorem noBetter_trans (first : IsNumber x) (second : IsNumber y) (third : IsNumber z)
    (below : direction.noBetter x y = true) (above : direction.noBetter y z = true) :
    direction.noBetter x z = true := by
  cases direction with
  | higherWins => exact Scalar.Ordered.trans first second third below above
  | lowerWins => exact Scalar.Ordered.trans third second first above below

theorem better_iff (number : IsNumber x) (other : IsNumber y) :
    direction.better x y = true ↔ direction.noBetter x y = false := by
  have either := Scalar.Ordered.total number other
  have below := Scalar.Ordered.lt_iff number other
  have above := Scalar.Ordered.lt_iff other number
  have same := Scalar.Ordered.eq_iff number other
  cases direction <;>
    simp only [better, noBetter, Amount.compare?, Quantity.compareReal?] <;> grind

theorem compare?_eq_iff (direction : Direction) (number : IsNumber x) (other : IsNumber y) :
    (Amount.compare? x y == some .eq) = true ↔
      direction.noBetter x y = true ∧ direction.noBetter y x = true := by
  have below := Scalar.Ordered.lt_iff number other
  have above := Scalar.Ordered.lt_iff other number
  have same := Scalar.Ordered.eq_iff number other
  cases direction <;>
    simp only [noBetter, Amount.compare?, Quantity.compareReal?] <;> grind

theorem Best.step (sofar : direction.Best totals best) (numbers : ∀ y ∈ totals, IsNumber y)
    (number : IsNumber x) :
    direction.Best (totals ++ [x]) (if direction.better x best then x else best) := by
  have known := numbers best sofar.reached
  by_cases better : direction.better x best = true
  · rw [if_pos better]
    have worse : direction.noBetter best x = true :=
      (noBetter_total known number).resolve_right
        (Bool.eq_false_iff.1 ((better_iff number known).1 better))
    refine ⟨by simp, fun y member => ?_⟩
    rcases List.mem_append.1 member with old | new
    · exact noBetter_trans (numbers y old) known number (sofar.unbeaten y old) worse
    · rw [List.mem_singleton.1 new]
      exact noBetter_refl number
  · rw [if_neg better]
    have worse : direction.noBetter x best = true := by
      rwa [better_iff number known, Bool.not_eq_false] at better
    refine ⟨List.mem_append_left _ sofar.reached, fun y member => ?_⟩
    rcases List.mem_append.1 member with old | new
    · exact sofar.unbeaten y old
    · rwa [List.mem_singleton.1 new]

theorem Best.foldl (sofar : direction.Best totals best) {rest : List R}
    (numbers : ∀ y ∈ totals ++ rest, IsNumber y) :
    direction.Best (totals ++ rest)
      (rest.foldl (fun best x => if direction.better x best then x else best) best) := by
  -- What has been passed goes over to the totals seen, of which the best so far is the best.
  induction rest generalizing totals best with
  | nil => simpa using sofar
  | cons x rest ih =>
    have next := sofar.step (fun y member => numbers y (List.mem_append_left _ member))
      (numbers x (by simp))
    rw [List.foldl_cons, List.append_cons]
    rw [List.append_cons] at numbers
    exact ih next numbers

theorem exists_best (direction : Direction) (numbers : ∀ x ∈ totals, IsNumber x)
    (somebody : totals ≠ []) :
    ∃ best, bestTotal? direction totals = some best ∧ direction.Best totals best := by
  cases totals with
  | nil => exact absurd rfl somebody
  | cons first rest =>
    have alone : direction.Best [first] first :=
      ⟨List.mem_singleton_self first, by simpa using noBetter_refl (numbers first (by simp))⟩
    exact ⟨_, rfl, alone.foldl numbers⟩

theorem Best.compare?_eq_iff (known : direction.Best totals best) (member : x ∈ totals)
    (numbers : ∀ x ∈ totals, IsNumber x) :
    (Amount.compare? x best == some .eq) = true ↔ direction.Best totals x := by
  have number := numbers x member
  have reached := numbers best known.reached
  rw [Direction.compare?_eq_iff direction number reached]
  constructor
  · rintro ⟨-, good⟩
    exact ⟨member, fun y other =>
      noBetter_trans (numbers y other) reached number (known.unbeaten y other) good⟩
  · intro also
    exact ⟨known.unbeaten x member, also.unbeaten best known.reached⟩

end Direction

section Winners

variable {direction : Direction} {totals : Table R}

theorem winners_sublist : (winners direction totals).Sublist totals.keys := by
  rw [winners]
  split
  · exact List.nil_sublist _
  · exact List.filter_sublist.map Prod.fst

variable [Scalar.Ordered R]

theorem mem_winners_iff (numbers : ∀ x ∈ totals.values, IsNumber x) {player : String} :
    player ∈ winners direction totals ↔
      ∃ total, totals.get? player = some total ∧ direction.Best totals.values total := by
  by_cases nobody : totals.values = []
  · have absent (total : R) : ¬ direction.Best [] total := fun best =>
      List.not_mem_nil best.reached
    simp [winners, nobody, bestTotal?, absent]
  · obtain ⟨best, found, known⟩ := direction.exists_best numbers nobody
    simp only [winners, found, List.mem_map, List.mem_filter]
    constructor
    · rintro ⟨⟨_, total⟩, ⟨member, good⟩, rfl⟩
      have listed : total ∈ totals.values := List.mem_map.2 ⟨_, member, rfl⟩
      rw [known.compare?_eq_iff listed numbers] at good
      exact ⟨total, Table.get?_eq_some_iff.2 member, good⟩
    · rintro ⟨total, stored, also⟩
      have good := (known.compare?_eq_iff also.reached numbers).2 also
      exact ⟨(player, total), ⟨Table.get?_eq_some_iff.1 stored, good⟩, rfl⟩

theorem winners_ne_nil (numbers : ∀ x ∈ totals.values, IsNumber x)
    (somebody : totals.values ≠ []) : winners direction totals ≠ [] := by
  obtain ⟨best, -, known⟩ := direction.exists_best numbers somebody
  obtain ⟨player, stored⟩ := Table.mem_values_iff.1 known.reached
  exact List.ne_nil_of_mem ((mem_winners_iff numbers).2 ⟨best, stored, known⟩)

end Winners

end Scorekeeper
