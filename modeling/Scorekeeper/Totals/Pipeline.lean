import Scorekeeper.Totals.Base
import Scorekeeper.Totals.Formulas
import Scorekeeper.Totals.Weights

set_option autoImplicit false

namespace Scorekeeper

variable {R : Type} [Scalar R]

def categoryTotals (scope : Scope R) : Table R :=
  let base := baseTotals scope.book scope.session scope.player
  let nested := nestedTotals scope.categories base
  applyWeights scope.categories (applyFormulas scope scope.categories nested)

def playerTotal (scope : Scope R) : R :=
  Scalar.sum (categoryTotals scope).values

def playerScope (book : Book R) (session : String) (round : Option String) (player : String) :
    Scope R :=
  { book, session, player := some player, round }

def allPlayerTotals (book : Book R) (session : String) (round : Option String) : Table R :=
  match book.session? session with
  | none => .empty
  | some found =>
    Table.ofList (found.players.map fun player =>
      (player, playerTotal (playerScope book session round player)))

def categoryName (categories : Table (Category R)) (category : Option String) : String :=
  match present category with
  | none => "Uncategorized"
  | some id =>
    match categories.get? id with
    | some category => category.name
    | none => "(deleted)"

end Scorekeeper
