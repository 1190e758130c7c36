import Scorekeeper.Proofs.Ledger.Answer

set_option autoImplicit false

namespace Scorekeeper

variable {R : Type} [Scalar R]

def Book.NoRepeats (window : R) (book : Book R) : Prop :=
  ∀ session, (book.sessionEntries session).Pairwise fun earlier later =>
    later.source = .ruleEngine → later.isDuplicate earlier.toPosting window = false

variable {window : R} {book : Book R}

theorem Book.NoRepeats.removeEntry (clean : book.NoRepeats window) (id : String) :
    (book.removeEntry id).NoRepeats window :=
  fun session => (clean session).sublist (Book.sessionEntries_removeEntry session id)

theorem Book.NoRepeats.addEntries (clean : book.NoRepeats window) {freshId : Nat → String}
    (unused : Unused freshId book) {posting : Posting R} (manual : posting.source = .manual)
    {player : Option String} {postings : List (Posting R)}
    (committable : Committable window (book.addEntry (posting.toEntry (freshId 0)))
      posting.session player postings) :
    (book.addEntries (withIds freshId (posting :: postings))).NoRepeats window := by
  have seen : (book.addEntry (posting.toEntry (freshId 0))).sessionEntries posting.session =
      book.sessionEntries posting.session ++ [posting.toEntry (freshId 0)] := by
    have added := unused.sessionEntries [posting] posting.session
    simpa [withIds, Book.addEntries, Posting.toEntry] using added
  have answered : ∀ later ∈ postings, later.isDuplicate posting window = false := by
    intro later member
    exact committable.existing later member (posting.toEntry (freshId 0)) (by simp [seen])
  have batch : (withIds freshId (posting :: postings)).Pairwise fun earlier later =>
      later.source = .ruleEngine → later.isDuplicate earlier.toPosting window = false := by
    have postings' : (posting :: postings).Pairwise fun earlier later =>
        later.source = .ruleEngine → later.isDuplicate earlier window = false := by
      refine .cons (fun later member _ => answered later member) (committable.batch.imp ?_)
      exact fun unlike _ => unlike
    rw [← map_toPosting_withIds freshId (posting :: postings), List.pairwise_map] at postings'
    exact postings'
  intro session
  rw [unused.sessionEntries]
  refine List.pairwise_append.2 ⟨clean session, batch.filter _, ?_⟩
  intro earlier old later new made
  obtain ⟨member, own⟩ := List.mem_filter.1 new
  have posted : later.toPosting ∈ posting :: postings := by
    rw [← map_toPosting_withIds freshId (posting :: postings)]
    exact List.mem_map_of_mem member
  rcases List.mem_cons.1 posted with same | committed
  · rw [same, manual] at made
    cases made
  · -- What is committed belongs to the session that was searched for duplicates.
    have here : session = posting.session := by
      rw [← (committable.owned _ committed).1]
      exact (of_decide_eq_true own).symm
    subst here
    exact committable.existing _ committed earlier (by simp [seen, old])

theorem Keeper.noRepeats_post {keeper : Keeper R} {freshId : Nat → String} {posting : Posting R}
    (unused : Unused freshId keeper.book) (manual : posting.source = .manual)
    (clean : keeper.book.NoRepeats keeper.windows.duplicate) :
    (keeper.post freshId posting).2.book.NoRepeats keeper.windows.duplicate := by
  obtain ⟨cycle, ran, posted⟩ := keeper.post_eq freshId posting
  rw [posted]
  have committable := committable_runCycle keeper.windows
    (keeper.book.addEntry (posting.toEntry (freshId 0))) posting.session posting.round
    posting.createdAt
  exact clean.addEntries unused manual (ran ▸ committable)

theorem Keeper.noRepeats_performAll {keeper : Keeper R} {calls : List (LedgerCall R)}
    (drawn : keeper.DrawsUnused calls) (clean : keeper.book.NoRepeats keeper.windows.duplicate) :
    (keeper.performAll calls).book.NoRepeats keeper.windows.duplicate := by
  have holds : (keeper.performAll calls).windows = keeper.windows ∧
      (keeper.performAll calls).book.NoRepeats keeper.windows.duplicate := by
    refine performAll_induction (fun other => other.windows = keeper.windows ∧
      other.book.NoRepeats keeper.windows.duplicate) ?_ ?_ drawn ⟨rfl, clean⟩
    · intro other freshId posting unused manual ⟨same, clean⟩
      exact ⟨same, same ▸ noRepeats_post unused manual (same ▸ clean)⟩
    · exact fun other id ⟨same, clean⟩ => ⟨same, clean.removeEntry id⟩
  exact holds.2

def bonusKeeper : Keeper ℚ where
  book := bonusBook
  windows := .standard

-- The rule answers the first entry and the last; what it would answer to the second is a duplicate.
def bonusCalls : List (LedgerCall ℚ) :=
  [.add (row '1') "s" (some "p") (.whole 1) none none none 1,
    .add (row '2') "s" (some "p") (.whole 2) none none none (3 / 2),
    .remove "s" "m",
    .add (row '3') "s" (some "q") (.whole 3) none none none 2]

theorem Keeper.noRepeats_bonusCalls :
    bonusKeeper.DrawsUnused bonusCalls ∧
      bonusKeeper.book.NoRepeats bonusKeeper.windows.duplicate ∧
      ((bonusKeeper.performAll bonusCalls).book.sessionEntries "s").map
          (fun entry => (entry.id, entry.source)) =
        [("1", .manual), ("11", .ruleEngine), ("2", .manual), ("3", .manual),
          ("33", .ruleEngine)] ∧
      (bonusKeeper.performAll bonusCalls).book.NoRepeats bonusKeeper.windows.duplicate := by
  have drawn : bonusKeeper.DrawsUnused bonusCalls :=
    ⟨unused_row (by decide +kernel), unused_row (by decide +kernel),
      unused_row (by decide +kernel), trivial⟩
  have clean : bonusKeeper.book.NoRepeats bonusKeeper.windows.duplicate :=
    fun session => List.Pairwise.filter _ (List.pairwise_singleton _ _)
  exact ⟨drawn, clean, by decide +kernel, noRepeats_performAll drawn clean⟩

end Scorekeeper
