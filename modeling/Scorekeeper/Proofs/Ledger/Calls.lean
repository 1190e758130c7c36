import Mathlib.Data.List.Nodup
import Scorekeeper.Keeper.Ledger
import Scorekeeper.Proofs.Table
import Scorekeeper.Scalar.Double

set_option autoImplicit false

/-!
# Calls on a ledger

Entries under unused ids go to the end of the ledger, and a removal leaves the order of the others.
A run is what any number of calls make of a keeper, each with unused ids of its own.
-/

namespace Scorekeeper

variable {R : Type}

namespace Book

variable {book : Book R}

theorem addEntries_eq (book : Book R) (entries : List (Entry R)) :
    book.addEntries entries =
      { book with
        entries := (entries.map fun entry => (entry.id, entry)).foldl
          (fun table pair => table.put pair.1 pair.2) book.entries } := by
  induction entries generalizing book with
  | nil => rfl
  | cons entry rest ih => exact ih (book.addEntry entry)

theorem pairs_addEntries {entries : List (Entry R)}
    (fresh : (book.entries.keys ++ entries.map Entry.id).Nodup) :
    (book.addEntries entries).entries.pairs =
      book.entries.pairs ++ entries.map fun entry => (entry.id, entry) := by
  rw [addEntries_eq]
  refine Table.pairs_foldl_put ?_
  rw [List.map_append, List.map_map]
  exact fresh

theorem values_addEntries {entries : List (Entry R)}
    (fresh : (book.entries.keys ++ entries.map Entry.id).Nodup) :
    (book.addEntries entries).entries.values = book.entries.values ++ entries := by
  rw [Table.values, pairs_addEntries fresh, List.map_append, List.map_map, Table.values]
  exact congrArg _ (List.map_id entries)

theorem sessionEntries_addEntries {entries : List (Entry R)} (session : String)
    (fresh : (book.entries.keys ++ entries.map Entry.id).Nodup) :
    (book.addEntries entries).sessionEntries session =
      book.sessionEntries session ++ entries.filter (·.session = session) := by
  rw [sessionEntries, values_addEntries fresh, List.filter_append, sessionEntries]

theorem sessionEntries_removeEntry (session id : String) :
    ((book.removeEntry id).sessionEntries session).Sublist (book.sessionEntries session) :=
  (List.filter_sublist.map Prod.snd).filter _

end Book

theorem map_toPosting_withIds (freshId : Nat → String) (postings : List (Posting R)) :
    (withIds freshId postings).map Entry.toPosting = postings := by
  refine List.ext_getElem? fun index => ?_
  cases found : postings[index]? <;> simp [withIds, found, Posting.toEntry]

theorem map_id_withIds (freshId : Nat → String) (postings : List (Posting R)) :
    (withIds freshId postings).map Entry.id = (List.range postings.length).map freshId := by
  refine List.ext_getElem (by simp [withIds]) fun index _ _ => ?_
  simp [withIds, Posting.toEntry]

def Unused (freshId : Nat → String) (book : Book R) : Prop :=
  Function.Injective freshId ∧ ∀ index, freshId index ∉ book.entries.keys

theorem Unused.nodup {freshId : Nat → String} {book : Book R} (unused : Unused freshId book)
    (postings : List (Posting R)) :
    (book.entries.keys ++ (withIds freshId postings).map Entry.id).Nodup := by
  refine List.nodup_append.2 ⟨book.entries.nodup, ?_, ?_⟩
  · rw [map_id_withIds]
    exact List.Nodup.map unused.1 List.nodup_range
  · intro id present other given same
    rw [map_id_withIds, List.mem_map] at given
    obtain ⟨index, -, rfl⟩ := given
    exact unused.2 index (same ▸ present)

theorem Unused.sessionEntries {freshId : Nat → String} {book : Book R}
    (unused : Unused freshId book) (postings : List (Posting R)) (session : String) :
    (book.addEntries (withIds freshId postings)).sessionEntries session =
      book.sessionEntries session ++
        (withIds freshId postings).filter (·.session = session) :=
  Book.sessionEntries_addEntries session (unused.nodup postings)

inductive LedgerCall (R : Type)
  | add (freshId : Nat → String) (session : String) (player : Option String) (value : Quantity R)
    (category round note : Option String) (now : R)
  | remove (session id : String)

namespace Keeper

variable [Scalar R]

def perform (keeper : Keeper R) : LedgerCall R → Keeper R
  | .add freshId session player value category round note now =>
    match keeper.addEntry freshId session player value category round note now with
    | .ok (_, next) => next
    -- A refused call leaves the keeper as it was.
    | .error _ => keeper
  | .remove session id =>
    match keeper.removeEntry session id with
    | .ok (_, next) => next
    | .error _ => keeper

def performAll (keeper : Keeper R) (calls : List (LedgerCall R)) : Keeper R :=
  calls.foldl perform keeper

def DrawsUnused (keeper : Keeper R) : List (LedgerCall R) → Prop
  | [] => True
  | .add freshId session player value category round note now :: rest =>
    Unused freshId keeper.book ∧
      (keeper.perform (.add freshId session player value category round note now)).DrawsUnused rest
  | .remove session id :: rest => (keeper.perform (.remove session id)).DrawsUnused rest

variable {keeper : Keeper R}

theorem addEntry_eq_ok {freshId : Nat → String} {session : String} {player : Option String}
    {value : Quantity R} {category round note : Option String} {now : R} {result : EntryResult R}
    {next : Keeper R}
    (accepted : keeper.addEntry freshId session player value category round note now =
      .ok (result, next)) :
    ∃ x, value.toReal = .ok x ∧ keeper.post freshId
      { session, player, value := x, createdAt := now, category, round, note, source := .manual } =
        (result, next) := by
  simp only [addEntry, bind, Except.bind] at accepted
  split at accepted
  · cases accepted
  · split at accepted
    · simp [throw, throwThe, MonadExceptOf.throw] at accepted
    · cases real : value.toReal with
      | error fault => simp [real, Except.mapError] at accepted
      | ok x =>
        simp only [real, Except.mapError, pure, Except.pure, Except.ok.injEq] at accepted
        exact ⟨x, rfl, accepted⟩

theorem post_eq (keeper : Keeper R) (freshId : Nat → String) (posting : Posting R) :
    ∃ cycle, cycle = runCycle keeper.windows
        (keeper.book.addEntry (posting.toEntry (freshId 0))) posting.session posting.round
        posting.createdAt ∧
      keeper.post freshId posting =
        (⟨posting.toEntry (freshId 0), withIds (fun index => freshId (index + 1)) cycle.committed,
            cycle⟩,
          { keeper with
            book := keeper.book.addEntries (withIds freshId (posting :: cycle.committed)) }) := by
  refine ⟨_, rfl, ?_⟩
  simp only [post, withIds, List.mapIdx_cons, Book.addEntries, List.foldl_cons]

theorem perform_add_cases (keeper : Keeper R) (freshId : Nat → String) (session : String)
    (player : Option String) (value : Quantity R) (category round note : Option String) (now : R) :
    keeper.perform (.add freshId session player value category round note now) = keeper ∨
    ∃ x, keeper.perform (.add freshId session player value category round note now) =
      (keeper.post freshId
        { session, player, value := x, createdAt := now, category, round, note,
          source := .manual }).2 := by
  simp only [perform]
  split
  next result next accepted =>
    obtain ⟨x, -, posted⟩ := addEntry_eq_ok accepted
    exact .inr ⟨x, by rw [posted]⟩
  · exact .inl rfl

theorem perform_remove_cases (keeper : Keeper R) (session id : String) :
    keeper.perform (.remove session id) = keeper ∨
    keeper.perform (.remove session id) = { keeper with book := keeper.book.removeEntry id } := by
  simp only [perform, removeEntry, bind, Except.bind]
  cases keeper.requireSession session with
  | error refusal => exact .inl rfl
  | ok found =>
    cases keeper.book.entries.get? id with
    | none => exact .inl rfl
    | some entry =>
      by_cases own : entry.session = session
      · exact .inr (by simp [own, pure, Except.pure])
      · exact .inl (by simp [own, pure, Except.pure])

theorem performAll_induction (holds : Keeper R → Prop)
    (post : ∀ keeper freshId posting, Unused freshId keeper.book → posting.source = .manual →
      holds keeper → holds (keeper.post freshId posting).2)
    (remove : ∀ keeper id, holds keeper →
      holds { keeper with book := keeper.book.removeEntry id })
    {calls : List (LedgerCall R)} (drawn : keeper.DrawsUnused calls) (start : holds keeper) :
    holds (keeper.performAll calls) := by
  induction calls generalizing keeper with
  | nil => exact start
  | cons call rest ih =>
    cases call with
    | add freshId session player value category round note now =>
      refine ih drawn.2 ?_
      rcases keeper.perform_add_cases freshId session player value category round note now with
        same | ⟨x, posted⟩
      · rwa [same]
      · rw [posted]
        exact post keeper freshId _ drawn.1 rfl start
    | remove session id =>
      refine ih drawn ?_
      rcases keeper.perform_remove_cases session id with same | removed
      · rwa [same]
      · rw [removed]
        exact remove keeper id start

end Keeper

def answeredKeeper : Keeper Float where
  book :=
    { Book.empty with
      sessions := Table.ofList [("s", ⟨"s", "S", [], [], [], [], none, {}⟩)]
      entries := Table.ofList
        [("m", ⟨⟨"s", some "p", 5, 1, none, none, none, .manual⟩, "m"⟩),
          ("r", ⟨⟨"s", some "p", 5, 1, none, none, some "Auto: bonus", .ruleEngine⟩, "r"⟩)] }
  windows := .standard

def row (mark : Char) (index : Nat) : String :=
  String.ofList (List.replicate (index + 1) mark)

theorem unused_row {R : Type} {book : Book R} {mark : Char}
    (others : ∀ key ∈ book.entries.keys, key.toList.head? ≠ some mark) :
    Unused (row mark) book := by
  refine ⟨fun left right same => ?_, fun index present => ?_⟩
  · have lengths := congrArg (fun text => text.toList.length) same
    simpa [row] using lengths
  · exact others _ present (by simp [row, List.replicate_succ])

end Scorekeeper
