import Scorekeeper.Game.Entry
import Scorekeeper.Scalar

set_option autoImplicit false

namespace Scorekeeper

variable {R : Type} [Scalar R]

def Posting.isDuplicate (candidate existing : Posting R) (window : R) : Bool :=
  existing.session = candidate.session && existing.player = candidate.player &&
    Scalar.lt (Scalar.abs (existing.value - candidate.value)) Scalar.tolerance &&
    existing.category = candidate.category && existing.note = candidate.note &&
    Scalar.lt (Scalar.abs (existing.createdAt - candidate.createdAt)) window

variable {E : Type}

/-- The candidates that are accepted and those that are suppressed as duplicates of something
existing or accepted before; `posting` is what each candidate posts. -/
def suppress (posting : E → Posting R) (window : R) (existing : List (Posting R)) :
    List E → List E × List E
  | [] => ([], [])
  | candidate :: rest =>
    if existing.any fun other => (posting candidate).isDuplicate other window then
      let (accepted, suppressed) := suppress posting window existing rest
      (accepted, candidate :: suppressed)
    else
      let (accepted, suppressed) :=
        suppress posting window (existing ++ [posting candidate]) rest
      (candidate :: accepted, suppressed)

end Scorekeeper
