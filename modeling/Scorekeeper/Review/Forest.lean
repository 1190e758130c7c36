import Scorekeeper.Review.Issue
import Scorekeeper.Totals.Rollup

set_option autoImplicit false

/-!
# Review of the category forest

Every parent must be known, and no category may be above itself.  Each cycle is reported once, by
the category that is met first on it.
-/

namespace Scorekeeper

variable {R : Type}

namespace Forest

/-- The cycle that the parents of a category run into, from the category that closes it on.  The
path to the category has the last id first. -/
def cycleFrom? (forest : Forest R) (path : List String) (category : Category R) :
    Option (List String) :=
  match category.parent? with
  | none => none
  | some parent =>
    match _found : forest.byId.get? parent with
    | none => none
    | some next =>
      if _old : parent ∈ path then some (path.takeWhile (· ≠ parent) ++ [parent]).reverse
      else forest.cycleFrom? (parent :: path) next
termination_by (unseen forest.byId.keys path).length
decreasing_by exact unseen_cons_lt (Table.mem_keys_iff.2 ⟨_, _found⟩) _old

def sameMembers (ids others : List String) : Bool :=
  ids.all others.contains && others.all ids.contains

def cycleIssue (forest : Forest R) (cycle : List String) : Issue :=
  .categoryCycle ((cycle ++ cycle.take 1).map fun id =>
    ((forest.byId.get? id).map Category.name).getD id)

def issuesFrom (forest : Forest R) (reported : List (List String)) :
    List (Category R) → List Issue
  | [] => []
  | category :: rest =>
    -- A category with an unknown parent is on no cycle.
    match category.parent?.filter (!forest.byId.contains ·) with
    | some parent => .unknownParent category.name parent :: forest.issuesFrom reported rest
    | none =>
      match (forest.cycleFrom? [category.id] category).filter fun cycle =>
          !reported.any (sameMembers cycle) with
      | some cycle => forest.cycleIssue cycle :: forest.issuesFrom (cycle :: reported) rest
      | none => forest.issuesFrom reported rest

def issues (forest : Forest R) : List Issue :=
  forest.issuesFrom [] forest.categories

end Forest

end Scorekeeper
