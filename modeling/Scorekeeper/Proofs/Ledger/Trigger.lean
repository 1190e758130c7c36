import Scorekeeper.Proofs.Ledger.Calls
import Scorekeeper.Proofs.Ledger.Cycle

set_option autoImplicit false

/-!
# Whose cycle follows an entry

The cycle after a new entry is that of the player who acted, but for one case: a manual entry of
another player is not earlier than the new one, as when both are made at one reading of the clock.
-/

namespace Scorekeeper

variable {R : Type} [Scalar R]

def Entry.orLater (best other : Entry R) : Entry R :=
  if Scalar.lt best.createdAt other.createdAt then other else best

theorem latest?_concat (entries : List (Entry R)) (entry : Entry R) :
    latest? (entries ++ [entry]) =
      some ((latest? entries).elim entry fun best => best.orLater entry) := by
  cases entries with
  | nil => rfl
  | cons first rest =>
    simp only [latest?, List.cons_append, List.foldl_append, List.foldl_cons, List.foldl_nil,
      Option.elim_some, Entry.orLater]

theorem trigger?_addEntry {book : Book R} (entry : Entry R)
    (absent : entry.id ∉ book.entries.keys) (manual : entry.source = .manual) :
    trigger? (book.addEntry entry) entry.session =
      some ((trigger? book entry.session).elim entry fun best => best.orLater entry) := by
  have fresh : (book.entries.keys ++ [entry].map Entry.id).Nodup := by
    simpa [List.nodup_append] using ⟨book.entries.nodup, fun key present same =>
      absent (same ▸ present)⟩
  have appended : (book.addEntry entry).sessionEntries entry.session =
      book.sessionEntries entry.session ++ [entry] := by
    simpa [Book.addEntries] using Book.sessionEntries_addEntries entry.session fresh
  have kept : [entry].filter (fun entry => decide (entry.source = .manual)) = [entry] := by
    simp [manual]
  unfold trigger?
  rw [appended, List.filter_append, kept, latest?_concat]

namespace Keeper

variable {keeper next : Keeper R} {freshId : Nat → String} {session : String}
  {player : Option String} {value : Quantity R} {category round note : Option String} {now : R}
  {result : EntryResult R}

theorem players_post (posting : Posting R) (entry : Entry R)
    (committed : entry ∈ (keeper.post freshId posting).1.ruleEntries) :
    entry.player = (keeper.post freshId posting).1.cycle.player := by
  obtain ⟨cycle, ran, posted⟩ := keeper.post_eq freshId posting
  rw [posted] at committed ⊢
  have accepted : entry.toPosting ∈ cycle.committed := by
    rw [← map_toPosting_withIds (fun index => freshId (index + 1)) cycle.committed]
    exact List.mem_map_of_mem committed
  rw [ran] at accepted ⊢
  exact ((committable_runCycle _ _ _ _ _).owned _ accepted).2.1

theorem player_post (posting : Posting R) (absent : freshId 0 ∉ keeper.book.entries.keys)
    (manual : posting.source = .manual) :
    (keeper.post freshId posting).1.cycle.player =
      ((trigger? keeper.book posting.session).elim (posting.toEntry (freshId 0)) fun best =>
        best.orLater (posting.toEntry (freshId 0))).player := by
  obtain ⟨cycle, ran, posted⟩ := keeper.post_eq freshId posting
  have trigger := trigger?_addEntry (posting.toEntry (freshId 0)) absent manual
  rw [posted, ran, player_runCycle]
  exact congrArg (fun found => found.bind fun trigger => trigger.player) trigger

theorem player_addEntry_iff
    (accepted : keeper.addEntry freshId session player value category round note now =
      .ok (result, next))
    (absent : freshId 0 ∉ keeper.book.entries.keys) :
    (result.cycle.player = player ∧ ∀ entry ∈ result.ruleEntries, entry.player = player) ↔
      ∀ best, trigger? keeper.book session = some best →
        Scalar.lt best.createdAt now = true ∨ best.player = player := by
  obtain ⟨x, -, posted⟩ := addEntry_eq_ok accepted
  let posting : Posting R :=
    { session, player, value := x, createdAt := now, category, round, note, source := .manual }
  have whose := player_post posting absent rfl
  have committed : ∀ entry ∈ (keeper.post freshId posting).1.ruleEntries,
      entry.player = (keeper.post freshId posting).1.cycle.player := players_post posting
  rw [posted] at whose committed
  have all : (result.cycle.player = player ∧ ∀ entry ∈ result.ruleEntries, entry.player = player) ↔
      result.cycle.player = player :=
    ⟨And.left, fun own => ⟨own, fun entry member => (committed entry member).trans own⟩⟩
  rw [all, whose]
  cases found : trigger? keeper.book session with
  | none => simp [posting, Posting.toEntry]
  | some best =>
    by_cases earlier : Scalar.lt best.createdAt now = true <;>
      simp [posting, Posting.toEntry, Entry.orLater, earlier]

theorem player_addEntry_later : ∃ result next,
    answeredKeeper.addEntry (row '|') "s" (some "q") (.whole 2) none none none 2 =
      .ok (result, next) ∧
    row '|' 0 ∉ answeredKeeper.book.entries.keys ∧
    result.cycle.player = some "q" ∧ ∀ entry ∈ result.ruleEntries, entry.player = some "q" := by
  obtain ⟨result, next, accepted⟩ : ∃ result next, answeredKeeper.addEntry (row '|') "s" (some "q")
      (.whole 2) none none none 2 = .ok (result, next) := ⟨_, _, rfl⟩
  have absent : row '|' 0 ∉ answeredKeeper.book.entries.keys := by decide
  refine ⟨result, next, accepted, absent, (player_addEntry_iff accepted absent).2 ?_⟩
  intro best found
  have earlier : (trigger? answeredKeeper.book "s").all fun best =>
      Scalar.lt best.createdAt 2 := by decide
  rw [found] at earlier
  exact .inl earlier

/-- Of two manual entries made at one reading of the clock, the second is followed by the cycle of
the first. -/
theorem player_addEntry_ne : ¬ ∀ (keeper next : Keeper Float) (freshId : Nat → String)
    (session : String) (player : Option String) (value : Quantity Float)
    (category round note : Option String) (now : Float) (result : EntryResult Float),
    Unused freshId keeper.book →
    (∀ entry ∈ keeper.book.sessionEntries session, entry.source = .manual →
      Scalar.lt now entry.createdAt = false) →
    keeper.addEntry freshId session player value category round note now = .ok (result, next) →
    result.cycle.player = player := by
  intro own
  have second := own answeredKeeper _ (row '|') "s" (some "q") (.whole 2) none none none 1 _
    (unused_row (by decide)) (by decide) rfl
  revert second
  decide

end Keeper

end Scorekeeper
