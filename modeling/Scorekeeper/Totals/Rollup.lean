import Scorekeeper.Game.Category
import Scorekeeper.Totals.Amount

set_option autoImplicit false

/-!
# Roll-up of categories

The total of a parent is the sum of its children's.  Only the ancestors of categories that have a
total are computed, each after the descendants that need to be.  A category on a cycle of parents
keeps its own total, and so does one without children.
-/

namespace Scorekeeper

variable {R A : Type}

/-- The categories of a session, and for each id the one that counts, which is the last. -/
structure Forest (R : Type) where
  categories : List (Category R)
  byId : Table (Category R)

def Forest.ofList (categories : List (Category R)) : Forest R :=
  ⟨categories, Table.ofList (categories.map fun category => (category.id, category))⟩

namespace Forest

def children (forest : Forest R) (id : String) : List String :=
  (forest.categories.filter (Category.isChildOf id)).map Category.id

def parent? (forest : Forest R) (id : String) : Option String :=
  (forest.byId.get? id).bind Category.parent?

def unseen (keys seen : List String) : List String :=
  keys.filter (· ∉ seen)

theorem unseen_cons_lt {keys seen : List String} {key : String} (member : key ∈ keys)
    (fresh : key ∉ seen) : (unseen keys (key :: seen)).length < (unseen keys seen).length := by
  have fewer : unseen keys (key :: seen) = (unseen keys seen).filter (· ≠ key) := by
    simp only [unseen, List.filter_filter]
    apply List.filter_congr
    intro other _
    simp only [List.mem_cons, not_or]
    grind
  rw [fewer]
  exact List.length_filter_lt_length_iff_exists.2
    ⟨key, by simp [unseen, member, fresh], by simp⟩

def ancestorsAfter (forest : Forest R) (seen : List String) (category : Category R) :
    List String :=
  match category.parent? with
  | none => []
  | some parent =>
    if _new : parent ∈ seen then []
    else
      match _found : forest.byId.get? parent with
      -- A parent that is not known is the last of the ancestors.
      | none => [parent]
      | some next => parent :: forest.ancestorsAfter (parent :: seen) next
termination_by (unseen forest.byId.keys seen).length
decreasing_by exact unseen_cons_lt (Table.mem_keys_iff.2 ⟨_, _found⟩) _new

def ancestors (forest : Forest R) (id : String) : List String :=
  match forest.byId.get? id with
  | none => []
  | some category => forest.ancestorsAfter [] category

def inCycle (forest : Forest R) (id : String) : Bool :=
  id ∈ forest.ancestors id

def isSum (forest : Forest R) (id : String) : Bool :=
  !(forest.children id).isEmpty && !forest.inCycle id

inductive Visit
  | enter (id : String)
  | leave (id : String)
deriving Repr, DecidableEq

def parents (forest : Forest R) : List String :=
  forest.categories.filterMap Category.parent?

theorem mem_parents_of_isSum {forest : Forest R} {id : String} (sum : forest.isSum id = true) :
    id ∈ forest.parents := by
  simp only [isSum, Bool.and_eq_true, Bool.not_eq_true', List.isEmpty_eq_false_iff, children, ne_eq,
    List.map_eq_nil_iff, List.filter_eq_nil_iff, Classical.not_forall] at sum
  obtain ⟨⟨category, member, child⟩, -⟩ := sum
  simp only [Category.isChildOf, beq_iff_eq, Classical.not_not] at child
  exact List.mem_filterMap.2 ⟨category, member, child⟩

/-- The sums below the visits, in the order in which they can be formed: children come first, except
where a child is being visited already. -/
def order (forest : Forest R) (visited : List String) : List Visit → List String
  | [] => []
  | .leave id :: rest => id :: forest.order visited rest
  | .enter id :: rest =>
    if _skip : id ∈ visited ∨ forest.isSum id = false then forest.order visited rest
    else
      -- Its own sum comes after those of its children.
      forest.order (id :: visited)
        ((forest.children id).map Visit.enter ++ Visit.leave id :: rest)
termination_by visits => ((unseen forest.parents visited).length, visits.length)
decreasing_by
  · exact Prod.Lex.right _ (by simp)
  · exact Prod.Lex.right _ (by simp)
  · rw [not_or, Bool.not_eq_false] at _skip
    exact Prod.Lex.left _ _ (unseen_cons_lt (mem_parents_of_isSum _skip.2) _skip.1)

variable [Scalar R] [Amount R A]

def sumChildren (forest : Forest R) (totals : Table A) (id : String) : A :=
  Amount.sum ((forest.children id).map fun child => (totals.get? child).getD Amount.absent)

def rollUp (forest : Forest R) (base : Table A) : Table A :=
  (forest.order [] ((base.keys.flatMap forest.ancestors).map Visit.enter)).foldl
    (fun totals id => totals.put id (forest.sumChildren totals id)) base

end Forest

def nestedTotals [Scalar R] [Amount R A] (categories : List (Category R)) (base : Table A) : Table A :=
  (Forest.ofList categories).rollUp base

end Scorekeeper
