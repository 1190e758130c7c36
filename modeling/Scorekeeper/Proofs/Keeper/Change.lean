import Scorekeeper.Proofs.Keeper.InPlace
import Scorekeeper.Proofs.Ledger.Answer
import Scorekeeper.Proofs.Object.Evaluation

set_option autoImplicit false

namespace Scorekeeper

variable {R : Type}

def Keeper.rewriting (keeper : Keeper R) (fresh : ObjectInstance R) : Keeper R :=
  { keeper with book := { keeper.book with objects := keeper.book.objects.put fresh.id fresh } }

variable [Scalar R]

inductive Change (before : Keeper R) : Call R → Answer R → Keeper R → Prop
  | posted {freshId : Nat → String} {session : String} {player : Option String}
      {value : Quantity R} {category round note : Option String} {now x : R}
      {result : EntryResult R} {entries : Table (Entry R)} (real : value.toReal = .ok x)
      (entry : result.entry = Posting.toEntry
        { session, player, value := x, createdAt := now, category, round, note,
          source := .manual } (freshId 0))
      (cycle : result.cycle =
        runCycle before.windows (before.book.addEntry result.entry) session round now)
      (answers : result.ruleEntries.map Entry.toPosting = result.cycle.committed)
      (appended : entries.pairs = before.book.entries.pairs ++
        (result.entry :: result.ruleEntries).map fun entry => (entry.id, entry)) :
      Change before (.ledger (.add freshId session player value category round note now))
        (.posted result) { before with book := { before.book with entries } }
  | removed {session id : String} {entry : Entry R} {entries : Table (Entry R)}
      (held : before.book.entries.get? id = some entry) (own : entry.session = session)
      (others : entries.pairs = before.book.entries.pairs.filter (·.1 ≠ id)) :
      Change before (.ledger (.remove session id)) (.removed true)
        { before with book := { before.book with entries } }
  | rewritten {call : Call R} {answer : Answer R} {object fresh : ObjectInstance R}
      (writes : before.Writes call answer object fresh)
      (held : before.book.objects.get? fresh.id = some object) :
      Change before call answer (before.rewriting fresh)
  | refreshed {session : String} {round : Option String} {now : R}
      {objects : Table (ObjectInstance R)} (keys : objects.keys = before.book.objects.keys)
      (records : ∀ key object, before.book.objects.get? key = some object →
        ∃ fresh, objects.get? key = some fresh ∧ before.book.Refreshed session object fresh) :
      Change before (.refresh session round now)
        (.evaluated (evaluateObjects before.book session round now))
        { before with book := { before.book with objects } }

namespace Keeper

variable {keeper next : Keeper R} {call : Call R} {answer : Answer R} {session definition : String}
  {player : Option String} {object fresh : ObjectInstance R}

def Leaves (keeper : Keeper R) (call : Call R) :
    EStateM.Result Refusal (Keeper R) (Answer R) → Prop
  | .error _ held => held = keeper
  | .ok answer held => if answer.declines then held = keeper else Change keeper call answer held

theorem leaves_add {freshId : Nat → String} {session : String} {player : Option String}
    {value : Quantity R} {category round note : Option String} {now : R} {result : EntryResult R}
    (unused : Unused freshId keeper.book)
    (carried : keeper.addEntry freshId session player value category round note now =
      .ok (result, next)) :
    keeper.Leaves (.ledger (.add freshId session player value category round note now))
      (.ok (.posted result) next) := by
  obtain ⟨x, real, posted⟩ := addEntry_eq_ok carried
  generalize given : ({ session, player, value := x, createdAt := now, category, round, note,
                        source := .manual } : Posting R) = posting at posted
  obtain ⟨cycle, ran, outcome⟩ := keeper.post_eq freshId posting
  have appended := Book.pairs_addEntries (unused.nodup (posting :: cycle.committed))
  rw [outcome, Prod.mk.injEq] at posted
  obtain ⟨rfl, rfl⟩ := posted
  rw [Leaves, if_neg (by simp [Answer.declines])]
  -- From here on the next book shows that only its entries are new.
  rw [Book.addEntries_eq] at appended ⊢
  subst given
  refine .posted real rfl ran (map_toPosting_withIds _ _) ?_
  rw [appended, withIds, List.mapIdx_cons]
  rfl

theorem leaves_remove {session id : String} {found : Bool}
    (carried : keeper.removeEntry session id = .ok (found, next)) :
    keeper.Leaves (.ledger (.remove session id)) (.ok (.removed found) next) := by
  rcases removeEntry_eq_ok carried with ⟨rfl, rfl⟩ | ⟨entry, held, own, rfl, rfl⟩
  · rfl
  · exact .removed held own rfl

theorem change_of_writes (kept : keeper.book.Kept)
    (writes : keeper.Writes call answer object fresh) :
    Change keeper call answer (keeper.storeObject fresh) := by
  obtain ⟨session, member⟩ := writes.exists_mem
  obtain ⟨id, own, -⟩ := writes.same
  obtain ⟨held, -⟩ := (Book.mem_sessionObjects_iff kept.ownIds).1 member
  rw [storeObject, Book.putObject_of_lists (kept.lists_home member id own)]
  exact .rewritten writes (id ▸ held)

theorem change_refreshed {round : Option String} {now : R} (kept : keeper.book.Kept) :
    Change keeper (.refresh session round now)
      (.evaluated (evaluateObjects keeper.book session round now))
      { keeper with
        book := keeper.book.putObjects (keeper.book.recomputed session round now) } := by
  rw [Book.putObjects_of_lists ?_]
  · refine .refreshed (Table.keys_foldl_put ?_) fun key object held => ?_
    · intro pair given
      obtain ⟨fresh, member, rfl⟩ := List.mem_map.1 given
      obtain ⟨object, here, refreshed⟩ := refreshed_of_mem_recomputed kept.ownIds member
      have held := ((Book.mem_sessionObjects_iff kept.ownIds).1 here).1
      exact Table.mem_keys_iff.2 ⟨object, refreshed.same.1 ▸ held⟩
    -- A record is the one that was there, or one that the refresh stores under its key.
    · rcases Table.get?_foldl_put keeper.book.objects _ key with same | ⟨fresh, given, put⟩
      · exact ⟨object, same.trans held, .inl rfl⟩
      · obtain ⟨_, member, pair⟩ := List.mem_map.1 given
        rw [Prod.mk.injEq] at pair
        obtain ⟨rfl, rfl⟩ := pair
        obtain ⟨old, here, refreshed⟩ := refreshed_of_mem_recomputed kept.ownIds member
        have known := ((Book.mem_sessionObjects_iff kept.ownIds).1 here).1
        rw [refreshed.same.1, known, Option.some.injEq] at held
        exact ⟨_, put, held ▸ refreshed⟩
  · exact fun fresh => lists_of_mem_recomputed kept

theorem leaves_of_answer (kept : keeper.book.Kept) (unused : call.DrawsUnused keeper.book)
    (answered : keeper.answer call = .ok (answer, next)) :
    keeper.Leaves call (.ok answer next) := by
  rcases answer_eq_ok_cases answered with ⟨ledgerCall, rfl⟩ | ⟨declined, rfl⟩ |
    ⟨object, fresh, writes, rfl⟩ | ⟨session, round, now, rfl, rfl, rfl⟩
  · cases ledgerCall with
    | add freshId session player value category round note now =>
      obtain ⟨⟨result, next⟩, carried, ⟨⟩⟩ := map_eq_ok_iff.1 answered
      exact leaves_add unused carried
    | remove session id =>
      obtain ⟨⟨found, next⟩, carried, ⟨⟩⟩ := map_eq_ok_iff.1 answered
      exact leaves_remove carried
  · rw [Leaves, if_pos declined]
  · rw [Leaves, if_neg (by simp [writes.carried])]
    exact change_of_writes kept writes
  · exact change_refreshed kept

omit [Scalar R] in
theorem kept_of_same_places {book : Book R} (kept : book.Kept) {objects : Table (ObjectInstance R)}
    (places : ∀ key fresh, objects.get? key = some fresh → ∃ object,
      book.objects.get? key = some object ∧ fresh.id = object.id ∧
        fresh.session = object.session) :
    ({ book with objects } : Book R).Kept := by
  refine ⟨fun key fresh stored => ?_, fun session id given fresh stored => ?_⟩
  · obtain ⟨object, held, id, -⟩ := places key fresh stored
    exact id.trans (kept.ownIds key object held)
  · obtain ⟨object, held, -, own⟩ := places id fresh stored
    exact own.trans (kept.ownSession session id given object held)

theorem kept_of_change (kept : keeper.book.Kept) (change : Change keeper call answer next) :
    next.book.Kept := by
  cases change with
  | posted | removed => exact ⟨kept.ownIds, kept.ownSession⟩
  | rewritten writes held =>
    refine kept_of_same_places kept fun key fresh stored => ?_
    rw [Table.get?_put] at stored
    split at stored
    next same =>
      cases stored
      exact ⟨_, same ▸ held, writes.same.1, writes.same.2.1⟩
    · exact ⟨fresh, stored, rfl, rfl⟩
  | refreshed keys records =>
    refine kept_of_same_places kept fun key fresh stored => ?_
    obtain ⟨object, held⟩ := Table.mem_keys_iff.1 (keys ▸ Table.mem_keys_iff.2 ⟨fresh, stored⟩)
    obtain ⟨found, here, refreshed⟩ := records key object held
    cases here.symm.trans stored
    exact ⟨object, held, refreshed.same.1, refreshed.same.2.1⟩

theorem leaves_inPlace (kept : keeper.book.Kept) (unused : call.DrawsUnused keeper.book) :
    call.inPlace keeper = Work.settled keeper (keeper.answer call) ∧
      keeper.Leaves call (call.inPlace keeper) := by
  refine ⟨call.inPlace_eq keeper, ?_⟩
  rw [call.inPlace_eq keeper]
  cases answered : keeper.answer call with
  | error refusal => rfl
  | ok done => exact leaves_of_answer kept unused answered

end Keeper

def cardKeeper : Keeper ℚ where
  book :=
    { bonusBook with
      sessions := Table.ofList [("s", ⟨"s", "S", [], [], ["r"], ["c"], some "t", {}⟩)]
      templates := Table.ofList
        [("t", ⟨"t", "T",
          [⟨"colour", "Colour", .string, some .shared, none, none, none, .null, none, none,
            some ["red"], none, [], none⟩],
          [⟨"b", "bonus", bonusCondition, bonusAction, true, false, none⟩], [], "1.0"⟩)]
      objects := Table.ofList
        [("c", ⟨"c", "s", "colour", .ofText (.text "red"), none, .nothing, none, 0, "manual",
          none⟩)] }
  windows := .standard

def cardEntry : Call ℚ :=
  .ledger (.add (row '1') "s" (some "p") (.whole 7) none none none 1)

theorem Keeper.leaves_cardEntry :
    cardKeeper.book.Kept ∧ cardEntry.DrawsUnused cardKeeper.book ∧
    (cardEntry.inPlace cardKeeper = Work.settled cardKeeper (cardKeeper.answer cardEntry) ∧
      cardKeeper.Leaves cardEntry (cardEntry.inPlace cardKeeper)) ∧
    (cardKeeper.after cardEntry).book.entries.keys = ["m", "1", "11"] := by
  have kept : cardKeeper.book.Kept := by decide +kernel
  have unused : cardEntry.DrawsUnused cardKeeper.book := unused_row (by decide +kernel)
  exact ⟨kept, unused, leaves_inPlace kept unused, by decide +kernel⟩

end Scorekeeper
