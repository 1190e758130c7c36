import Mathlib.Data.List.TakeWhile
import Scorekeeper.Proofs.Object.Turn

set_option autoImplicit false

/-!
# What the objects of a player post

A player's objects are evaluated with the whole session, where an instance is passed over if one
with its id has had its turn, or on their own, where nothing is passed over.  The postings are the
same but for those of instances that are passed over.
-/

namespace Scorekeeper

variable {R : Type}

def Session.ownersBefore (found : Session) (player : String) : List (Option String) :=
  none :: (found.players.takeWhile (· ≠ player)).map some

def Session.ownersUpTo (found : Session) (player : String) : List (Option String) :=
  found.ownersBefore player ++ [some player]

theorem Session.not_mem_ownersBefore (found : Session) (player : String) :
    some player ∉ found.ownersBefore player := by
  intro earlier
  rw [ownersBefore, List.mem_cons, List.mem_map] at earlier
  obtain given | ⟨other, earlier, same⟩ := earlier
  · cases given
  · have apart := List.mem_takeWhile_imp earlier
    rw [decide_eq_true_eq] at apart
    exact apart (Option.some.inj same)

theorem Session.exists_ownersUpTo_append {found : Session} {player : String}
    (member : player ∈ found.players) :
    ∃ later, none :: found.players.map some = found.ownersUpTo player ++ later := by
  obtain ⟨before, after, split, new⟩ := List.eq_append_cons_of_mem member
  have first : found.players.takeWhile (· ≠ player) = before := by
    rw [split, List.takeWhile_append_of_pos, List.takeWhile_cons_of_neg, List.append_nil]
    · simp
    · exact fun other earlier => decide_eq_true fun same => new (same ▸ earlier)
  exact ⟨after.map some, by rw [ownersUpTo, ownersBefore, first, split]; simp⟩

def Book.inTurn (book : Book R) (session : String) (owners : List (Option String)) :
    List (ObjectInstance R) :=
  owners.flatMap fun owner => (book.sessionObjects session).filter (·.player = owner)

theorem Book.mem_inTurn_iff {book : Book R} {session : String} {object : ObjectInstance R}
    {owners : List (Option String)} :
    object ∈ book.inTurn session owners ↔
      object ∈ book.sessionObjects session ∧ object.player ∈ owners := by
  simp [inTurn, and_comm]

theorem Book.inTurn_ownersUpTo (book : Book R) (session : String) (found : Session)
    (player : String) :
    book.inTurn session (found.ownersUpTo player) =
      book.inTurn session (found.ownersBefore player) ++
        (book.sessionObjects session).filter (·.player = some player) := by
  rw [Session.ownersUpTo, inTurn, inTurn, List.flatMap_append, List.flatMap_singleton]

theorem Book.player_of_mem_ownersBefore {book : Book R} {session player : String}
    {found : Session} {object : ObjectInstance R}
    (earlier : object ∈ book.inTurn session (found.ownersBefore player)) :
    object.player ≠ some player :=
  fun own => found.not_mem_ownersBefore player (own ▸ (mem_inTurn_iff.1 earlier).2)

variable [Scalar R]

namespace Scope

variable {scope : Scope R} {totals : Table R} {now : R} {definition : ObjectDefinition R}
  {object other : ObjectInstance R}

theorem impactPosting?_congr (same : object.player = other.player) :
    scope.impactPosting? totals now definition object =
      scope.impactPosting? totals now definition other := by
  have impact : scope.scoreImpact totals definition object =
      scope.scoreImpact totals definition other := by
    rw [scoreImpact, scoreImpact, same]
  rw [impactPosting?, impactPosting?, impact]

theorem player_of_impactPosting? {posting : Posting R}
    (posted : scope.impactPosting? totals now definition object = some posting) :
    posting.player = scope.player := by
  simp only [impactPosting?] at posted
  split at posted <;> cases posted
  rfl

theorem impactPosting?_of_unnamed
    (small : Scalar.le (Scalar.abs (Scalar.zero : R)) Scalar.tolerance)
    (unnamed : present scope.player = none) :
    scope.impactPosting? totals now definition object = none := by
  have impact : scope.scoreImpact totals definition object = Scalar.zero := by
    rw [scoreImpact, unnamed]
    split <;> simp_all
  rw [impactPosting?, impact, if_pos small]

end Scope

namespace Book

def impact? (book : Book R) (session : String) (round : Option String) (now : R)
    (object : ObjectInstance R) : Option (Posting R) :=
  let scope := book.home session round object
  (book.definition? session object.definition).bind fun definition =>
    if (present definition.scoreImpact).isSome && scope.isLiveObject definition object then
      scope.impactPosting? scope.objectTotals now definition object
    else none

def impactFor? (book : Book R) (session : String) (player round : Option String) (now : R)
    (object : ObjectInstance R) : Option (Posting R) :=
  if object.player = player then book.impact? session round now object else none

/-- Passing over a later instance with the id of an earlier one costs the player nothing. -/
def Costless (book : Book R) (session : String) (player round : Option String) (now : R)
    (first later : ObjectInstance R) : Prop :=
  first.id = later.id → book.impactFor? session player round now later = none

def turns (book : Book R) (session : String) (round : Option String)
    (owners : List (Option String)) : List (Placed R) :=
  (owners.map fun player => { book, session, player, round }).flatMap Scope.placed

variable {book : Book R} {session : String} {round : Option String} {now : R}
  {object : ObjectInstance R} {owners : List (Option String)}

theorem map_object_turns :
    (book.turns session round owners).map (·.object) = book.inTurn session owners := by
  rw [turns, inTurn, List.flatMap_map, List.map_flatMap]
  exact congrArg (owners.flatMap ·) (funext fun owner => by simp [Scope.placed, Function.comp_def])

theorem player_of_impact? {posting : Posting R}
    (posted : book.impact? session round now object = some posting) :
    posting.player = object.player := by
  obtain ⟨definition, -, evaluated⟩ := Option.bind_eq_some_iff.1 posted
  split at evaluated
  · exact Scope.player_of_impactPosting? evaluated
  · cases evaluated

theorem filter_impact? (player : Option String) :
    (book.impact? session round now object).filter (·.player = player) =
      book.impactFor? session player round now object := by
  rw [impactFor?]
  cases posted : book.impact? session round now object with
  | none => simp
  | some posting => simp [Option.filter, player_of_impact? posted]

end Book

def ObjectEvaluation.postingsOf (evaluation : ObjectEvaluation R) (player : Option String) :
    List (Posting R) :=
  evaluation.postings.filter (·.player = player)

variable {book : Book R} {session : String} {round : Option String} {now : R} {found : Session}

theorem postings_evaluateObjects
    (small : Scalar.le (Scalar.abs (Scalar.zero : R)) Scalar.tolerance)
    (known : book.session? session = some found) :
    (evaluateObjects book session round now).postings =
      (placedObjects book session found.players round).filterMap fun placed =>
        book.impact? session round now placed.object := by
  rw [evaluateObjects_eq_filterMap known]
  refine List.filterMap_congr fun placed here => ?_
  obtain ⟨-, -, scope, totals⟩ := of_mem_placedObjects here
  rw [Book.impact?]
  refine congrArg _ (funext fun definition => ?_)
  have player : ((placed.updated? now definition).getD placed.object).player =
      placed.object.player := by
    cases evaluated : placed.updated? now definition with
    | none => rfl
    | some updated => exact (Scope.updated?_eq_some evaluated).2.1
  rw [Placed.posting?, Scope.impactPosting?_congr player, ← totals, ← scope]
  -- An owner without a name posts nothing in either way.
  cases unnamed : present placed.scope.player with
  | none => simp [Scope.impactPosting?_of_unnamed small unnamed]
  | some name => simp

theorem objectPostings_eq_filterMap (book : Book R) (session : String) (player : Option String)
    (round : Option String) (now : R) :
    objectPostings book session player round now =
      (book.sessionObjects session).filterMap (book.impactFor? session player round now) := by
  rw [objectPostings]
  cases templated : book.template? session with
  | none => simp [Book.impactFor?, Book.impact?, Book.definition?, templated]
  | some template =>
    refine List.filterMap_congr fun object _ => ?_
    by_cases own : object.player = player
    · subst own
      simp only [Book.impactFor?, Book.impact?, Book.definition?, templated, Option.bind_some]
      cases template.definition? object.definition with
      | none => simp
      | some definition =>
        cases impacted : present definition.scoreImpact with
        | none => simp [impacted]
        | some formula =>
          cases live : (book.home session round object).isLiveObject definition object <;>
            simp_all [Book.home]
    · simp [Book.impactFor?, own]

theorem filterMap_turns_ownersUpTo (book : Book R) (session : String) (round : Option String)
    (now : R) (found : Session) (player : String) :
    (book.turns session round (found.ownersUpTo player)).filterMap (fun placed =>
        book.impactFor? session (some player) round now placed.object) =
      objectPostings book session (some player) round now := by
  have others : (book.inTurn session (found.ownersBefore player)).filterMap
      (book.impactFor? session (some player) round now) = [] :=
    List.filterMap_eq_nil_iff.2 fun object here => if_neg (Book.player_of_mem_ownersBefore here)
  calc (book.turns session round (found.ownersUpTo player)).filterMap (fun placed =>
          book.impactFor? session (some player) round now placed.object)
      = (book.inTurn session (found.ownersUpTo player)).filterMap
          (book.impactFor? session (some player) round now) := by
        rw [← Book.map_object_turns, List.filterMap_map]
        rfl
    _ = ((book.sessionObjects session).filter (·.player = some player)).filterMap
          (book.impactFor? session (some player) round now) := by
        rw [Book.inTurn_ownersUpTo, List.filterMap_append, others, List.nil_append]
    _ = objectPostings book session (some player) round now := by
        rw [objectPostings_eq_filterMap, List.filterMap_filter]
        refine List.filterMap_congr fun object _ => ?_
        by_cases own : object.player = some player <;> simp [Book.impactFor?, own]

theorem postingsOf_evaluateObjects {player : String}
    (small : Scalar.le (Scalar.abs (Scalar.zero : R)) Scalar.tolerance)
    (known : book.session? session = some found) (member : player ∈ found.players)
    (round : Option String) (now : R) :
    (evaluateObjects book session round now).postingsOf (some player) =
      (firstOfEachId [] (book.turns session round (found.ownersUpTo player))).filterMap
        fun placed => book.impactFor? session (some player) round now placed.object := by
  obtain ⟨later, split⟩ := Session.exists_ownersUpTo_append member
  have all : placedObjects book session found.players round =
      firstOfEachId [] (book.turns session round (found.ownersUpTo player) ++
        book.turns session round later) := by
    rw [placedObjects, ownerScopes, split, List.map_append, List.flatMap_append]
    rfl
  rw [ObjectEvaluation.postingsOf, postings_evaluateObjects small known, List.filter_filterMap]
  simp only [Book.filter_impact?]
  rw [all, firstOfEachId_append, List.filterMap_append]
  -- Whatever the player owns has had its turn by then.
  refine (congrArg (_ ++ ·) (List.filterMap_eq_nil_iff.2 fun placed here => if_neg ?_)).trans
    (List.append_nil _)
  intro own
  have given : placed.object ∈ book.inTurn session later := by
    rw [← Book.map_object_turns]
    exact List.mem_map_of_mem ((sublist_firstOfEachId _ _).subset here)
  have turn : placed.object ∈ book.inTurn session (found.ownersUpTo player) :=
    Book.mem_inTurn_iff.2 ⟨(Book.mem_inTurn_iff.1 given).1, by simp [Session.ownersUpTo, own]⟩
  rw [← Book.map_object_turns, List.mem_map] at turn
  obtain ⟨first, had, same⟩ := turn
  exact not_mem_of_mem_firstOfEachId here
    (List.mem_append_left _ (List.mem_map.2 ⟨first, had, congrArg _ same⟩))

theorem pairwise_turns_iff {owners : List (Option String)} {player : Option String} :
    ((book.turns session round owners).Pairwise fun first later =>
        (book.impactFor? session player round now later.object).isSome →
          first.object.id ≠ later.object.id) ↔
      (book.inTurn session owners).Pairwise (book.Costless session player round now) := by
  rw [← Book.map_object_turns, List.pairwise_map]
  refine iff_of_eq (congrArg (List.Pairwise · _) (funext fun first => funext fun later => ?_))
  rw [Book.Costless]
  cases book.impactFor? session player round now later.object <;> simp

theorem pairwise_inTurn_iff (ownIds : book.OwnIds) (found : Session) (player : String) :
    (book.inTurn session (found.ownersUpTo player)).Pairwise
        (book.Costless session (some player) round now) ↔
      (book.sessionObjects session).Pairwise
        (book.Costless session (some player) round now) := by
  rw [Book.inTurn_ownersUpTo, List.pairwise_append, List.pairwise_filter]
  constructor
  · rintro ⟨-, own, -⟩
    refine own.imp_of_mem fun {first later} here there costless same => ?_
    by_cases mine : later.player = some player
    · have one := Book.eq_of_id ownIds here there same
      exact costless (decide_eq_true (one ▸ mine)) (decide_eq_true mine) same
    · exact if_neg mine
  · intro costless
    refine ⟨List.pairwise_of_forall_mem_list fun first _ later earlier _ => ?_,
      costless.imp fun costless _ _ => costless, fun first earlier later own same => if_neg ?_⟩
    · exact if_neg (Book.player_of_mem_ownersBefore earlier)
    · have one := Book.eq_of_id ownIds (Book.mem_inTurn_iff.1 earlier).1
        (List.mem_filter.1 own).1 same
      exact one ▸ Book.player_of_mem_ownersBefore earlier

theorem postingsOf_eq_iff {player : String}
    (small : Scalar.le (Scalar.abs (Scalar.zero : R)) Scalar.tolerance)
    (known : book.session? session = some found) (member : player ∈ found.players)
    (round : Option String) (now : R) :
    (evaluateObjects book session round now).postingsOf (some player) =
        objectPostings book session (some player) round now ↔
      (book.inTurn session (found.ownersUpTo player)).Pairwise
        (book.Costless session (some player) round now) := by
  rw [postingsOf_evaluateObjects small known member round now,
    ← filterMap_turns_ownersUpTo book session round now found player, filterMap_firstOfEachId_iff,
    pairwise_turns_iff]
  exact and_iff_right fun _ _ _ => List.not_mem_nil

theorem objectPostings_eq_iff {book : Book Float} {session player : String} {found : Session}
    (known : book.session? session = some found) (member : player ∈ found.players)
    (round : Option String) (now : Float) :
    ((evaluateObjects book session round now).postingsOf (some player)).Sublist
      (objectPostings book session (some player) round now) ∧
    ((evaluateObjects book session round now).postingsOf (some player) =
        objectPostings book session (some player) round now ↔
      (book.inTurn session (found.ownersUpTo player)).Pairwise
        (book.Costless session (some player) round now)) ∧
    (book.OwnIds →
      ((evaluateObjects book session round now).postingsOf (some player) =
          objectPostings book session (some player) round now ↔
        (book.sessionObjects session).Pairwise
          (book.Costless session (some player) round now))) := by
  have same := postingsOf_eq_iff (by decide) known member round now
  refine ⟨?_, same, fun ownIds => same.trans (pairwise_inTurn_iff ownIds found player)⟩
  rw [postingsOf_evaluateObjects (by decide) known member,
    ← filterMap_turns_ownersUpTo book session round now found player]
  exact (sublist_firstOfEachId _ _).filterMap _

theorem impactFor?_coins (listed : List String) (id : String) :
    ((purse listed).impactFor? "s" (some "p") none 7 (coinsOf id "p")).isSome := by
  obtain ⟨-, live⟩ := isLiveObject_coins listed none id
  have defined : (purse listed).definition? "s" (coinsOf id "p").definition = some coins.1 := rfl
  have formula : present coins.1.scoreImpact = some "1" := rfl
  have player : present (coinsOf id "p").player = some "p" := rfl
  have owner : present ((purse listed).home "s" none (coinsOf id "p")).player = some "p" := rfl
  have loud : Scalar.le (Scalar.abs (Scalar.ofNumeral (.finite false 1 0) : Float))
      Scalar.tolerance = false := by decide
  have own : (coinsOf id "p").player = some "p" := rfl
  rw [Book.impactFor?, if_pos own]
  simp [Book.impact?, defined, live, formula, Scope.impactPosting?, Scope.scoreImpact, player,
    owner, Formula.evaluate_one, loud]

def shuffled : List String :=
  ["savings", "change", "pot", "coins"]

theorem objectPostings_purse :
    (∃ found, (purse shuffled).session? "s" = some found ∧ "p" ∈ found.players) ∧
    (purse shuffled).OwnIds ∧
    (purse shuffled).sessionObjects "s" =
      [coinsOf "savings" "p", coinsOf "change" "q", pot.2, coins.2] ∧
    (objectPostings (purse shuffled) "s" (some "p") none 7).length = 2 ∧
    (evaluateObjects (purse shuffled) "s" none 7).postingsOf (some "p") =
      objectPostings (purse shuffled) "s" (some "p") none 7 := by
  have known : (purse shuffled).session? "s" = some (purseSession shuffled) := rfl
  have member : "p" ∈ (purseSession shuffled).players := List.mem_cons_self
  have all : (purse shuffled).sessionObjects "s" =
      [coinsOf "savings" "p", coinsOf "change" "q", pot.2, coins.2] := rfl
  obtain ⟨-, -, same⟩ := objectPostings_eq_iff known member none 7
  refine ⟨⟨_, known, member⟩, ownIds_purse _, all, ?_, (same (ownIds_purse _)).2 ?_⟩
  · obtain ⟨first, saved⟩ := Option.isSome_iff_exists.1 (impactFor?_coins shuffled "savings")
    obtain ⟨last, held⟩ : ∃ last, (purse shuffled).impactFor? "s" (some "p") none 7 coins.2 =
        some last := Option.isSome_iff_exists.1 (impactFor?_coins shuffled "coins")
    have others : (purse shuffled).impactFor? "s" (some "p") none 7 (coinsOf "change" "q") =
        none := rfl
    have shared : (purse shuffled).impactFor? "s" (some "p") none 7 pot.2 = none := rfl
    simp [objectPostings_eq_filterMap, all, saved, held, others, shared]
  · have distinct : (((purse shuffled).sessionObjects "s").map (·.id)).Nodup := by decide
    exact (List.pairwise_map.1 distinct).imp fun apart same => absurd same apart

theorem objectPostings_ne_evaluateObjects :
    ¬ ∀ (book : Book Float) (session player : String) (found : Session),
      book.session? session = some found → player ∈ found.players → ∀ round now,
        objectPostings book session (some player) round now =
          (evaluateObjects book session round now).postingsOf (some player) := by
  intro claim
  have known : (purse ["coins", "coins"]).session? "s" =
      some (purseSession ["coins", "coins"]) := rfl
  have member : "p" ∈ (purseSession ["coins", "coins"]).players := List.mem_cons_self
  have twice : (purse ["coins", "coins"]).sessionObjects "s" = [coins.2, coins.2] := rfl
  have costless := (postingsOf_eq_iff (by decide) known member none 7).1
    (claim _ _ _ _ known member none 7).symm
  rw [pairwise_inTurn_iff (ownIds_purse _), twice] at costless
  have posted : ((purse ["coins", "coins"]).impactFor? "s" (some "p") none 7 coins.2).isSome :=
    impactFor?_coins ["coins", "coins"] "coins"
  rw [(List.pairwise_cons.1 costless).1 coins.2 List.mem_cons_self rfl] at posted
  cases posted

end Scorekeeper
