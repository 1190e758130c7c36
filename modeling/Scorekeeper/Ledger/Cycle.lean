import Scorekeeper.Ledger.Duplicate
import Scorekeeper.Rule.Evaluation

set_option autoImplicit false

/-!
# The evaluation cycle

Rules run for the player of the latest manual entry, unless that entry is too old or rules have
answered it already.  What they post is committed unless it duplicates an entry.  Entries made by
rules trigger nothing.
-/

namespace Scorekeeper

variable {R : Type}

structure Windows (R : Type) where
  duplicate : R
  trigger : R
  followup : R

def Windows.standard [Scalar R] : Windows R :=
  ⟨Scalar.one, Scalar.one, Scalar.whole 2⟩

inductive CycleReason
  | noManualEntry
  | triggerTooOld
  | alreadyProcessed
deriving Repr, DecidableEq

def CycleReason.text : CycleReason → String
  | .noManualEntry => "no manual entry"
  | .triggerTooOld => "trigger too old"
  | .alreadyProcessed => "already processed"

structure CycleResult (R : Type) where
  triggered : Bool
  player : Option String
  committed : List (Posting R)
  suppressed : List (Posting R)
  reason : Option CycleReason

def CycleResult.skipped (player : Option String) (reason : CycleReason) : CycleResult R :=
  ⟨false, player, [], [], some reason⟩

variable [Scalar R]

/-- The first of the entries than which none is later. -/
def latest? : List (Entry R) → Option (Entry R)
  | [] => none
  | first :: rest =>
    some (rest.foldl
      (fun best entry => if Scalar.lt best.createdAt entry.createdAt then entry else best) first)

def trigger? (book : Book R) (session : String) : Option (Entry R) :=
  latest? ((book.sessionEntries session).filter (·.source = .manual))

def answers (window : R) (trigger entry : Entry R) : Bool :=
  entry.source = .ruleEngine && entry.player = trigger.player &&
    Scalar.le trigger.createdAt entry.createdAt &&
    Scalar.lt entry.createdAt (trigger.createdAt + window)

def alreadyProcessed (windows : Windows R) (book : Book R) (trigger : Entry R) : Bool :=
  (book.sessionEntries trigger.session).any (answers windows.followup trigger)

def runCycle (windows : Windows R) (book : Book R) (session : String) (round : Option String)
    (now : R) : CycleResult R :=
  match trigger? book session with
  | none => .skipped none .noManualEntry
  | some trigger =>
    -- An entry of exactly the window's age still triggers.
    if Scalar.lt windows.trigger (now - trigger.createdAt) then
      .skipped trigger.player .triggerTooOld
    else if alreadyProcessed windows book trigger then .skipped trigger.player .alreadyProcessed
    else
      let scope : Scope R := { book, session, player := trigger.player, round }
      let (accepted, suppressed) := suppress id windows.duplicate
        ((book.sessionEntries session).map Entry.toPosting) (evaluateRules scope now)
      ⟨true, trigger.player, accepted, suppressed, none⟩

end Scorekeeper
