import Scorekeeper.Game.Session
import Scorekeeper.Totals.Amount

set_option autoImplicit false

namespace Scorekeeper

variable {R A : Type} [Amount R A]

def Direction.better (direction : Direction) (x best : A) : Bool :=
  Amount.compare? x best == some (match direction with
    | .higherWins => .gt
    | .lowerWins => .lt)

def bestTotal? (direction : Direction) : List A → Option A
  | [] => none
  | first :: rest =>
    some (rest.foldl (fun best x => if direction.better x best then x else best) first)

def winners (direction : Direction) (totals : Table A) : List String :=
  match bestTotal? direction totals.values with
  | none => []
  | some best =>
    (totals.pairs.filter fun pair => Amount.compare? pair.2 best == some .eq).map Prod.fst

end Scorekeeper
