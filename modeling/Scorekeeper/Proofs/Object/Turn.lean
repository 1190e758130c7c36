import Mathlib.Data.List.Nodup
import Scorekeeper.Proofs.Formula.Acceptance
import Scorekeeper.Proofs.Object.Evaluation
import Scorekeeper.Proofs.Object.Liveness
import Scorekeeper.Scalar.Double

set_option autoImplicit false

namespace Scorekeeper

variable {R : Type}

section FirstOfEachId

variable {seen others : List String} {placements : List (Placed R)}

theorem firstOfEachId_congr (same : ∀ id, id ∈ seen ↔ id ∈ others)
    (placements : List (Placed R)) :
    firstOfEachId seen placements = firstOfEachId others placements := by
  induction placements generalizing seen others with
  | nil => rfl
  | cons placed rest ih =>
    have later (id : String) : id ∈ placed.object.id :: seen ↔ id ∈ placed.object.id :: others := by
      rw [List.mem_cons, List.mem_cons, same]
    simp only [firstOfEachId, same placed.object.id, ih same, ih later]

theorem firstOfEachId_append (seen : List String) (first rest : List (Placed R)) :
    firstOfEachId seen (first ++ rest) =
      firstOfEachId seen first ++ firstOfEachId (first.map (·.object.id) ++ seen) rest := by
  induction first generalizing seen with
  | nil => rfl
  | cons placed first ih =>
    rw [List.cons_append, firstOfEachId, firstOfEachId]
    by_cases met : placed.object.id ∈ seen
    · rw [if_pos met, if_pos met, ih]
      refine congrArg _ (firstOfEachId_congr (fun id => ?_) rest)
      simp only [List.map_cons, List.cons_append, List.mem_cons, List.mem_append]
      exact ⟨.inr, fun known => known.elim (fun same => .inr (same ▸ met)) fun known => known⟩
    · rw [if_neg met, if_neg met, ih, List.cons_append]
      refine congrArg _ (congrArg _ (firstOfEachId_congr (fun id => ?_) rest))
      simp only [List.map_cons, List.cons_append, List.mem_cons, List.mem_append]
      exact or_left_comm

theorem not_mem_of_mem_firstOfEachId {placed : Placed R}
    (member : placed ∈ firstOfEachId seen placements) : placed.object.id ∉ seen := by
  fun_induction firstOfEachId seen placements with
  | case1 => cases member
  | case2 seen head rest met ih => exact ih member
  | case3 seen head rest new ih =>
    rcases List.mem_cons.1 member with rfl | later
    · exact new
    · exact fun met => ih later (List.mem_cons_of_mem _ met)

theorem nodup_firstOfEachId (seen : List String) (placements : List (Placed R)) :
    ((firstOfEachId seen placements).map (·.object.id)).Nodup := by
  fun_induction firstOfEachId seen placements with
  | case1 => exact List.nodup_nil
  | case2 seen placed rest met ih => exact ih
  | case3 seen placed rest new ih =>
    refine List.nodup_cons.2 ⟨fun again => ?_, ih⟩
    obtain ⟨other, later, same⟩ := List.mem_map.1 again
    exact not_mem_of_mem_firstOfEachId later (same ▸ List.mem_cons_self)

theorem filterMap_of_nodup {B : Type} {f : Placed R → Option B} {placed : Placed R}
    (distinct : (placements.map (·.object.id)).Nodup) (member : placed ∈ placements)
    (silent : ∀ other : Placed R, other.object.id ≠ placed.object.id → f other = none) :
    placements.filterMap f = (f placed).toList := by
  induction placements with
  | nil => cases member
  | cons head rest ih =>
    obtain ⟨new, distinct⟩ := List.nodup_cons.1 distinct
    have apart {other : Placed R} (later : other ∈ rest) : other.object.id ≠ head.object.id :=
      fun same => new (List.mem_map.2 ⟨other, later, same⟩)
    rcases List.mem_cons.1 member with rfl | later
    · have others : rest.filterMap f = [] :=
        List.filterMap_eq_nil_iff.2 fun other later => silent other (apart later)
      cases given : f placed <;> simp [given, others]
    · rw [List.filterMap_cons_none (silent head (apart later).symm), ih distinct later]

theorem filterMap_firstOfEachId_iff {B : Type} (f : Placed R → Option B) :
    (firstOfEachId seen placements).filterMap f = placements.filterMap f ↔
      (∀ placed ∈ placements, (f placed).isSome → placed.object.id ∉ seen) ∧
        placements.Pairwise fun first later =>
          (f later).isSome → first.object.id ≠ later.object.id := by
  fun_induction firstOfEachId seen placements with
  | case1 => simp
  | case2 seen placed rest met ih =>
    rw [List.forall_mem_cons, List.pairwise_cons]
    cases given : f placed with
    | none =>
      rw [List.filterMap_cons_none given, ih]
      constructor
      · rintro ⟨new, apart⟩
        exact ⟨⟨by simp, new⟩, fun later member gives same => new later member gives (same ▸ met),
          apart⟩
      · rintro ⟨⟨-, new⟩, -, apart⟩
        exact ⟨new, apart⟩
    | some b =>
      refine iff_of_false (fun same => ?_) fun apart => apart.1.1 rfl met
      have shorter := ((sublist_firstOfEachId seen rest).filterMap f).length_le
      rw [same, List.filterMap_cons_some given, List.length_cons] at shorter
      exact Nat.not_succ_le_self _ shorter
  | case3 seen placed rest new ih =>
    rw [List.forall_mem_cons, List.pairwise_cons]
    have head : (placed :: firstOfEachId (placed.object.id :: seen) rest).filterMap f =
        (placed :: rest).filterMap f ↔
          (firstOfEachId (placed.object.id :: seen) rest).filterMap f = rest.filterMap f := by
      cases given : f placed <;> simp [given]
    rw [head, ih]
    constructor
    · rintro ⟨fresh, apart⟩
      refine ⟨⟨fun _ => new, fun later member gives met => ?_⟩, fun later member gives same => ?_,
        apart⟩
      · exact fresh later member gives (List.mem_cons_of_mem _ met)
      · exact fresh later member gives (same ▸ List.mem_cons_self)
    · rintro ⟨⟨-, fresh⟩, other, apart⟩
      refine ⟨fun later member gives met => ?_, apart⟩
      rcases List.mem_cons.1 met with same | old
      · exact other later member gives same.symm
      · exact fresh later member gives old

end FirstOfEachId

variable [Scalar R] {book : Book R} {session : String} {round : Option String} {now : R}
  {object : ObjectInstance R}

theorem nodup_placedObjects {players : List String} :
    ((placedObjects book session players round).map (·.object.id)).Nodup :=
  nodup_firstOfEachId [] _

theorem evaluateObject?_eq_report? (ownIds : book.OwnIds)
    (member : object ∈ book.sessionObjects session) (round : Option String) (now : R) :
    evaluateObject? book session object.id round now = book.report? session round now object := by
  rw [evaluateObject?, ((Book.mem_sessionObjects_iff ownIds).1 member).1]
  simp only [Option.bind_eq_bind, Option.bind_some, Book.report?, Book.definition?,
    Option.bind_assoc]
  rfl

theorem filter_updated_eq (ownIds : book.OwnIds) (member : object ∈ book.sessionObjects session)
    (owner : ∀ player, object.player = some player →
      ∃ found, book.session? session = some found ∧ player ∈ found.players)
    (round : Option String) (now : R) :
    (evaluateObjects book session round now).updated.filter (·.id = object.id) =
      (evaluateObject? book session object.id round now).toList := by
  rw [evaluateObject?_eq_report? ownIds member]
  cases known : book.session? session with
  | none =>
    have untemplated : book.template? session = none := by simp [Book.template?, known]
    simp [evaluateObjects, known, Book.report?, Book.definition?, untemplated]
  | some found =>
    have owned : object.player ∈ none :: found.players.map some := by
      cases player : object.player with
      | none => exact List.mem_cons_self
      | some name =>
        obtain ⟨_, same, listed⟩ := owner name player
        obtain rfl := Option.some.inj (known.symm.trans same)
        exact List.mem_cons_of_mem _ (List.mem_map_of_mem listed)
    obtain ⟨placed, here, same⟩ := exists_mem_placedObjects_of_ownIds ownIds round member owned
    have silent (other : Placed R) (apart : other.object.id ≠ placed.object.id) :
        (book.report? session round now other.object).filter (·.id = object.id) = none := by
      cases reported : book.report? session round now other.object with
      | none => rfl
      | some updated =>
        obtain ⟨_, -, id, -⟩ := of_report? reported
        simp [id, ← same, apart]
    rw [updated_evaluateObjects known, List.filter_filterMap,
      filterMap_of_nodup nodup_placedObjects here silent, same]
    cases reported : book.report? session round now object with
    | none => rfl
    | some updated =>
      obtain ⟨_, -, id, -⟩ := of_report? reported
      simp [id]

def coins : Piece Float :=
  let piece := Scope.scenePiece "p" "coins" .player .always
  ({ piece.1 with calculation := some "1", scoreImpact := some "1" }, piece.2)

def coinsOf (id player : String) : ObjectInstance Float :=
  { coins.2 with id, player := some player }

-- It would score a point if it were somebody's.
def pot : Piece Float :=
  let piece := Scope.scenePiece "p" "pot" .shared .always
  ({ piece.1 with scoreImpact := some "1" }, { piece.2 with player := none })

def purseSession (listed : List String) : Session :=
  ⟨"s", "S", ["p", "q"], [], [], listed, some "t", {}⟩

def purse (listed : List String) : Book Float :=
  { Book.empty with
    sessions := Table.ofList [("s", purseSession listed)]
    templates := Table.ofList [("t", ⟨"t", "T", [coins.1, pot.1], [], [], "1.0"⟩)]
    objects := Table.ofList
      [("pot", pot.2), ("coins", coins.2), ("savings", coinsOf "savings" "p"),
        ("change", coinsOf "change" "q")] }

theorem sessionObjects_purse : (purse []).sessionObjects "s" =
    [pot.2, coins.2, coinsOf "savings" "p", coinsOf "change" "q"] := rfl

theorem isLiveObject_coins (listed : List String) (round : Option String) (id : String) :
    ((purse listed).home "s" round (coinsOf id "p")).state coins.1 (coinsOf id "p") = "owned" ∧
    ((purse listed).home "s" round (coinsOf id "p")).isLiveObject coins.1 (coinsOf id "p") =
      true := by
  have state : ((purse listed).home "s" round (coinsOf id "p")).state coins.1 (coinsOf id "p") =
      "owned" := by
    rw [Scope.state_eq]
    rfl
  refine ⟨state, ?_⟩
  rw [Scope.isLiveObject, state]
  rfl

theorem report?_coins (listed : List String) :
    (purse listed).report? "s" none 7 coins.2 =
      some { coins.2 with
        state := some "owned"
        computed := .ofScore (Scalar.ofNumeral (.finite false 1 0))
        lastComputedAt := some 7 } := by
  obtain ⟨state, live⟩ : ((purse listed).home "s" none coins.2).state coins.1 coins.2 = "owned" ∧
      ((purse listed).home "s" none coins.2).isLiveObject coins.1 coins.2 = true :=
    isLiveObject_coins listed none "coins"
  have defined : (purse listed).definition? "s" coins.2.definition = some coins.1 := rfl
  have calculation : present coins.1.calculation = some "1" := rfl
  simp only [Book.report?, defined, Option.bind_some, Scope.updated?, state, live, Scope.computed,
    calculation, Formula.evaluate_one]
  rfl

theorem ownIds_purse (listed : List String) : (purse listed).OwnIds := by
  intro key object held
  have stored : (key, object) ∈ [("pot", pot.2), ("coins", coins.2),
      ("savings", coinsOf "savings" "p"), ("change", coinsOf "change" "q")] :=
    Table.get?_eq_some_iff.1 held
  simp only [List.mem_cons, List.not_mem_nil, or_false, Prod.mk.injEq] at stored
  rcases stored with ⟨rfl, rfl⟩ | ⟨rfl, rfl⟩ | ⟨rfl, rfl⟩ | ⟨rfl, rfl⟩ <;> rfl

theorem filter_updated_purse :
    (purse []).OwnIds ∧
    (purse []).sessionObjects "s" =
      [pot.2, coins.2, coinsOf "savings" "p", coinsOf "change" "q"] ∧
    (∀ player, coins.2.player = some player →
      ∃ found, (purse []).session? "s" = some found ∧ player ∈ found.players) ∧
    (evaluateObject? (purse []) "s" "coins" none 7).isSome ∧
    ((evaluateObjects (purse []) "s" none 7).updated.filter (·.id = "coins")) =
      (evaluateObject? (purse []) "s" "coins" none 7).toList := by
  have ownIds : (purse []).OwnIds := ownIds_purse []
  have member : coins.2 ∈ (purse []).sessionObjects "s" := by simp [sessionObjects_purse]
  have owner (player : String) (own : coins.2.player = some player) :
      ∃ found, (purse []).session? "s" = some found ∧ player ∈ found.players := by
    cases own
    exact ⟨_, rfl, List.mem_cons_self⟩
  have same := filter_updated_eq ownIds member owner none 7
  have reported := evaluateObject?_eq_report? ownIds member none 7
  rw [report?_coins] at reported
  exact ⟨ownIds, sessionObjects_purse, owner, reported ▸ rfl, same⟩

end Scorekeeper
