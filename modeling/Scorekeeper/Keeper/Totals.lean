import Scorekeeper.Keeper.Ledger
import Scorekeeper.Totals.Winners

set_option autoImplicit false

namespace Scorekeeper

variable {R : Type} [Scalar R]

namespace Keeper

def totals (keeper : Keeper R) (session : String) (round : Option String) :
    Except Refusal (Table (Table R)) := do
  let found ← keeper.requireSession session
  return Table.ofList (found.players.map fun player =>
    (player, categoryTotals (playerScope keeper.book session round player)))

def playerTotals (keeper : Keeper R) (session : String) (round : Option String) :
    Except Refusal (Table R) := do
  let totals ← keeper.totals session round
  return totals.map fun categories => Scalar.sum categories.values

def winners (keeper : Keeper R) (session : String) (round : Option String) :
    Except Refusal (List String) := do
  let found ← keeper.requireSession session
  let totals ← keeper.playerTotals session round
  return Scorekeeper.winners found.settings.direction totals

end Keeper

end Scorekeeper
