import Scorekeeper.Game.Book
import Scorekeeper.Totals.Amount

set_option autoImplicit false

namespace Scorekeeper

variable {R : Type} [Scalar R]

def uncategorized : String := "uncategorized"

def Posting.bucket (posting : Posting R) : String :=
  (present posting.category).getD uncategorized

def playerEntries (book : Book R) (session : String) (player : Option String) : List (Entry R) :=
  (book.sessionEntries session).filter (·.player = player)

def addToTotals (totals : Table R) (entry : Entry R) : Table R :=
  totals.put entry.bucket ((totals.get? entry.bucket).getD Scalar.zero + entry.value)

def baseTotals (book : Book R) (session : String) (player : Option String) : Table R :=
  (playerEntries book session player).foldl addToTotals .empty

end Scorekeeper
