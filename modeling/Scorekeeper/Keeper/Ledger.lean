import Scorekeeper.Ledger.Cycle

set_option autoImplicit false

/-!
# The keeper of a ledger

A keeper holds the current book.  Manual entries are appended to it and followed by an evaluation
cycle, whose postings are appended too.  A refused call leaves the book as it was.
-/

namespace Scorekeeper

variable {R : Type}

structure Keeper (R : Type) where
  book : Book R
  windows : Windows R

inductive Refusal
  | sessionNotFound (session : String)
  | playerNotInSession (player : Option String) (session : String)
  | unknownDefinition (definition : String)
  | noInstance (definition : String) (player : Option String)
  | arithmetic (fault : ArithmeticFault)
  /-- The whole count of an empty element set cannot be incremented by a whole number. -/
  | wholeIncrement
deriving Repr, DecidableEq

def playerText (player : Option String) : String :=
  player.getD "None"

def Refusal.message : Refusal → String
  | .sessionNotFound session => "Session not found: " ++ session
  | .playerNotInSession player session =>
    "Player " ++ playerText player ++ " is not in session " ++ session
  | .unknownDefinition definition => "Unknown object definition: " ++ definition
  | .noInstance definition player =>
    "No instance of " ++ definition ++ " for player " ++ playerText player
  | .arithmetic fault => fault.message
  | .wholeIncrement => "'int' object has no attribute 'is_integer'"

structure EntryResult (R : Type) where
  entry : Entry R
  ruleEntries : List (Entry R)
  cycle : CycleResult R

/-- Postings under ids; `freshId` gives as many unused ids as are wanted. -/
def withIds (freshId : Nat → String) (postings : List (Posting R)) : List (Entry R) :=
  postings.mapIdx fun index posting => posting.toEntry (freshId index)

namespace Keeper

def requireSession (keeper : Keeper R) (session : String) : Except Refusal Session :=
  match keeper.book.session? session with
  | some found => .ok found
  | none => .error (.sessionNotFound session)

def load (keeper : Keeper R) (book : Book R) : Keeper R :=
  { keeper with book }

def removeEntry (keeper : Keeper R) (session id : String) :
    Except Refusal (Bool × Keeper R) := do
  let _ ← keeper.requireSession session
  match keeper.book.entries.get? id with
  | none => return (false, keeper)
  | some entry =>
    if entry.session = session then
      return (true, { keeper with book := keeper.book.removeEntry id })
    else return (false, keeper)

variable [Scalar R]

def post (keeper : Keeper R) (freshId : Nat → String) (posting : Posting R) :
    EntryResult R × Keeper R :=
  let entry := posting.toEntry (freshId 0)
  let book := keeper.book.addEntry entry
  -- The cycle already sees the new entry, which may well be its trigger.
  let cycle := runCycle keeper.windows book posting.session posting.round posting.createdAt
  let ruleEntries := withIds (fun index => freshId (index + 1)) cycle.committed
  (⟨entry, ruleEntries, cycle⟩, { keeper with book := book.addEntries ruleEntries })

def addEntry (keeper : Keeper R) (freshId : Nat → String) (session : String)
    (player : Option String) (value : Quantity R) (category round note : Option String) (now : R) :
    Except Refusal (EntryResult R × Keeper R) := do
  let found ← keeper.requireSession session
  -- A session without players takes entries of anyone.
  if !found.players.isEmpty && !(found.players.map some).contains player then
    throw (.playerNotInSession player session)
  let value ← value.toReal.mapError Refusal.arithmetic
  return keeper.post freshId
    { session, player, value, createdAt := now, category, round, note, source := .manual }

end Keeper

end Scorekeeper
