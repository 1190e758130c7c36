import Scorekeeper.Proofs.Keeper.Refresh
import Scorekeeper.Proofs.Object.Turn

set_option autoImplicit false

/-!
# Lives across a refresh

An evaluation comes with the states that it found.  A refresh stores none of them, and what it does
store is looked at by no state, owner or window, in whatever session, scope and round these are
asked for later.
-/

namespace Scorekeeper

variable {R : Type}

namespace Book

/-- Books in which all objects have the same lives, whoever asks: an instance that is given has the
same state in both, and so has the instance that is stored under a key. -/
structure SameLives (before after : Book R) : Prop where
  state : ∀ (scope : Scope R) definition object,
    (scope.within after).state definition object = (scope.within before).state definition object
  owner : ∀ (scope : Scope R) definition,
    (scope.within after).owner definition = (scope.within before).owner definition
  isOpen : ∀ (scope : Scope R) definition,
    (scope.within after).isOpen definition = (scope.within before).isOpen definition
  owns : ∀ (scope : Scope R) name player,
    (scope.within after).owns name player = (scope.within before).owns name player
  stored : ∀ (scope : Scope R) definition key,
    (after.objects.get? key).map ((scope.within after).state definition) =
      (before.objects.get? key).map ((scope.within before).state definition)
  pinned : ∀ key, (after.objects.get? key).map ObjectInstance.state =
    (before.objects.get? key).map ObjectInstance.state

theorem sameLives_of_revalued {before after : Book R}
    (revalued : ∀ session, Revalued session before after) : SameLives before after := by
  have alike (scope : Scope R) :
      after.AlikeIn (scope.within before).session (scope.within before).book :=
    (revalued scope.session).alike
  have state (scope : Scope R) (definition : ObjectDefinition R) (object : ObjectInstance R) :
      (scope.within after).state definition object =
        (scope.within before).state definition object :=
    Scope.state_within (alike scope) definition object
  have stored {A : Type} (key : String) {f g : ObjectInstance R → A}
      (same : ∀ fresh object : ObjectInstance R, fresh.uncomputed = object.uncomputed →
        f fresh = g object) :
      (after.objects.get? key).map f = (before.objects.get? key).map g := by
    rcases map_uncomputed_cases ((revalued "").records key) with
      ⟨absent, absentToo⟩ | ⟨fresh, object, here, there, alike⟩
    · rw [absent, absentToo, Option.map_none, Option.map_none]
    · rw [here, there, Option.map_some, Option.map_some, same fresh object alike]
  exact {
    state
    owner := fun scope => Scope.owner_within (alike scope)
    isOpen := fun scope => Scope.isOpen_within (alike scope)
    owns := fun scope name player => congrFun₂ (Scope.owns_within (alike scope)) name player
    stored := fun scope definition key => stored key fun fresh object same =>
      (state scope definition fresh).trans (Scope.state_eq_of_uncomputed same)
    pinned := fun key => stored key fun fresh object same =>
      (ObjectInstance.same_of_uncomputed same).2.2.2.2.2 }

variable [Scalar R] {book : Book R}

-- Where sessions list their own instances alone, what a refresh stores is listed already.
theorem sessions_refreshed (kept : book.Kept) (session : String) (round : Option String) (now : R) :
    (book.refreshed session round now).sessions = book.sessions := by
  rw [refreshed, putObjects_of_lists fun fresh member => lists_of_mem_recomputed kept member]

theorem revalued_refreshed_elsewhere (kept : book.Kept) (session : String) (round : Option String)
    (now : R) (other : String) :
    Revalued other book (book.refreshed session round now) :=
  { revalued_refreshed kept.ownIds session round now with
    session? := by rw [session?, session?, sessions_refreshed kept] }

end Book

theorem Keeper.sameLives_after_refresh [Scalar R] {keeper : Keeper R} (kept : keeper.book.Kept)
    (session : String) (round : Option String) (now : R) :
    Book.SameLives keeper.book (keeper.after (.refresh session round now)).book := by
  rw [book_after_refresh]
  apply Book.sameLives_of_revalued
  exact Book.revalued_refreshed_elsewhere kept session round now

theorem computes_coins :
    (purse []).Computes "s" none coins.2 (.ofScore (Scalar.ofNumeral (.finite false 1 0))) where
  member := by simp [sessionObjects_purse]
  owner := ⟨_, rfl, List.mem_cons_of_mem none List.mem_cons_self⟩
  value := by
    refine ⟨coins.1, rfl, rfl, (isLiveObject_coins [] none "coins").2, ?_⟩
    have calculation : present coins.1.calculation = some "1" := rfl
    simp only [Scope.computed, calculation, Formula.evaluate_one]

def purseKeeper : Keeper Float where
  book := purse []
  windows := .standard

-- The refresh finds the coins owned and stores what they come to, and not that they are owned.
theorem sameLives_after_refresh_purse :
    purseKeeper.book.Kept ∧
    (purseKeeper.book.report? "s" none 7 coins.2).map ObjectInstance.state =
      some (some "owned") ∧
    (∃ fresh, (purseKeeper.after (.refresh "s" none 7)).book.objects.get? "coins" = some fresh ∧
      fresh.computed = .ofScore (Scalar.ofNumeral (.finite false 1 0)) ∧ fresh.state = none) ∧
    Book.SameLives purseKeeper.book (purseKeeper.after (.refresh "s" none 7)).book := by
  have kept : purseKeeper.book.Kept := by decide +kernel
  have same := Keeper.sameLives_after_refresh kept "s" none 7
  have held : (purse []).objects.get? "coins" = some coins.2 := rfl
  obtain ⟨fresh, stored, uncomputed, recomputes⟩ :=
    Book.recomputes_refreshed (ownIds_purse []) "s" none 7 held
  refine ⟨kept, ?_, ⟨fresh, ?_, ?_, ?_⟩, same⟩
  · rw [purseKeeper, report?_coins, Option.map_some]
  · rw [Keeper.book_after_refresh]
    exact stored
  · rcases recomputes with ⟨value, computes, -, computed⟩ | ⟨current, -⟩
    · rw [computed, computes.unique computes_coins]
    · cases current _ computes_coins
  · exact (ObjectInstance.same_of_uncomputed uncomputed).2.2.2.2.2

end Scorekeeper
