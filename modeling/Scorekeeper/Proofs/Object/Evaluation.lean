import Scorekeeper.Proofs.Keeper.Places

set_option autoImplicit false

namespace Scorekeeper

variable {R : Type}

/-- An instance and what a refresh makes of it, which is something else only where its definition
has a calculation. -/
def Book.Refreshed (book : Book R) (session : String) (object fresh : ObjectInstance R) : Prop :=
  fresh = object ∨
  object ∈ book.sessionObjects session ∧
  (∃ definition, book.definition? session object.definition = some definition ∧
    (present definition.calculation).isSome) ∧
  ∃ computed lastComputedAt, fresh = { object with computed, lastComputedAt }

theorem Book.Refreshed.same {book : Book R} {session : String} {object fresh : ObjectInstance R}
    (refreshed : book.Refreshed session object fresh) :
    fresh.id = object.id ∧ fresh.session = object.session ∧
      fresh.definition = object.definition ∧ fresh.stored = object.stored := by
  rcases refreshed with rfl | ⟨-, -, computed, lastComputedAt, rfl⟩ <;> exact ⟨rfl, rfl, rfl, rfl⟩

theorem sublist_firstOfEachId (seen : List String) (placements : List (Placed R)) :
    (firstOfEachId seen placements).Sublist placements := by
  fun_induction firstOfEachId seen placements with
  | case1 => exact .slnil
  | case2 seen placed rest met ih => exact ih.cons placed
  | case3 seen placed rest new ih => exact ih.cons_cons placed

theorem exists_mem_firstOfEachId {seen : List String} {placed : Placed R}
    {placements : List (Placed R)} (member : placed ∈ placements)
    (unseen : placed.object.id ∉ seen) :
    ∃ first ∈ firstOfEachId seen placements, first.object.id = placed.object.id := by
  fun_induction firstOfEachId seen placements with
  | case1 => cases member
  | case2 seen head rest repeated ih =>
    rcases List.mem_cons.1 member with rfl | later
    · exact absurd repeated unseen
    · exact ih later unseen
  | case3 seen head rest new ih =>
    rcases List.mem_cons.1 member with rfl | later
    · exact ⟨placed, List.mem_cons_self, rfl⟩
    · by_cases same : placed.object.id = head.object.id
      · exact ⟨head, List.mem_cons_self, same.symm⟩
      · obtain ⟨first, found, id⟩ := ih later (by simp [same, unseen])
        exact ⟨first, List.mem_cons_of_mem head found, id⟩

def Book.home (book : Book R) (session : String) (round : Option String)
    (object : ObjectInstance R) : Scope R :=
  { book, session, player := object.player, round }

variable [Scalar R]

namespace Scope

variable {scope : Scope R} {totals : Table R} {definition : ObjectDefinition R}
  {object updated : ObjectInstance R} {now : R}

theorem updated?_eq_some
    (evaluated : scope.updated? totals now definition object = some updated) :
    updated.id = object.id ∧ updated.player = object.player ∧
      (present definition.calculation = none →
        updated.computed = object.computed ∧ updated.lastComputedAt = object.lastComputedAt) := by
  simp only [updated?] at evaluated
  split at evaluated
  next new =>
    simp only [Option.some.injEq] at evaluated
    subst evaluated
    refine ⟨rfl, rfl, fun plain => ?_⟩
    simp [plain] at new
  · split at evaluated
    · simp only [Option.some.injEq] at evaluated
      subst evaluated
      exact ⟨rfl, rfl, fun _ => ⟨rfl, rfl⟩⟩
    · cases evaluated

def renews (scope : Scope R) (totals : Table R) (definition : ObjectDefinition R)
    (object : ObjectInstance R) : Bool :=
  (present definition.calculation).isSome && scope.isLiveObject definition object &&
    !object.computed.same (scope.computed totals definition object)

theorem computed_updated? (evaluated : scope.updated? totals now definition object = some updated) :
    updated.computed = if scope.renews totals definition object
      then scope.computed totals definition object else object.computed := by
  rw [updated?] at evaluated
  change (if scope.renews totals definition object = true then _ else _) = _ at evaluated
  split at evaluated
  next new =>
    cases evaluated
    rw [if_pos new]
  next old =>
    rw [if_neg old]
    split at evaluated <;> cases evaluated
    rfl

theorem updated?_of_renews (now : R) (new : scope.renews totals definition object = true) :
    (scope.updated? totals now definition object).isSome = true := by
  rw [updated?]
  change (if scope.renews totals definition object = true then _ else _ :
    Option (ObjectInstance R)).isSome = true
  rw [if_pos new]
  rfl

end Scope

def Book.report? (book : Book R) (session : String) (round : Option String) (now : R)
    (object : ObjectInstance R) : Option (ObjectInstance R) :=
  let scope := book.home session round object
  (book.definition? session object.definition).bind fun definition =>
    scope.updated? scope.objectTotals now definition object

variable {book : Book R} {session : String} {round : Option String} {now : R}
  {object : ObjectInstance R}

theorem of_mem_placedObjects {players : List String} {placed : Placed R}
    (member : placed ∈ placedObjects book session players round) :
    placed.object ∈ book.sessionObjects session ∧
      placed.object.player ∈ none :: players.map some ∧
      placed.scope = book.home session round placed.object ∧
      placed.totals = (book.home session round placed.object).objectTotals := by
  obtain ⟨scope, given, here⟩ := List.mem_flatMap.1
    ((sublist_firstOfEachId _ _).subset member)
  obtain ⟨player, owner, rfl⟩ := List.mem_map.1 given
  obtain ⟨object, found, rfl⟩ := List.mem_map.1 here
  obtain ⟨found, own⟩ := List.mem_filter.1 found
  obtain rfl : object.player = player := of_decide_eq_true own
  exact ⟨found, owner, rfl, rfl⟩

theorem exists_mem_placedObjects {players : List String} (round : Option String)
    (member : object ∈ book.sessionObjects session)
    (owner : object.player ∈ none :: players.map some) :
    ∃ placed ∈ placedObjects book session players round, placed.object.id = object.id := by
  let placed : Placed R :=
    ⟨book.home session round object, (book.home session round object).objectTotals, object⟩
  have here : placed ∈ (book.home session round object).placed :=
    List.mem_map.2 ⟨object, List.mem_filter.2 ⟨member, by simp [Book.home]⟩, rfl⟩
  have given : placed ∈ (ownerScopes book session players round).flatMap Scope.placed :=
    List.mem_flatMap.2 ⟨_, List.mem_map.2 ⟨object.player, owner, rfl⟩, here⟩
  exact exists_mem_firstOfEachId given List.not_mem_nil

theorem exists_mem_placedObjects_of_ownIds {players : List String} (ownIds : book.OwnIds)
    (round : Option String) (member : object ∈ book.sessionObjects session)
    (owner : object.player ∈ none :: players.map some) :
    ∃ placed ∈ placedObjects book session players round, placed.object = object := by
  obtain ⟨placed, here, id⟩ := exists_mem_placedObjects round member owner
  exact ⟨placed, here, Book.eq_of_id ownIds (of_mem_placedObjects here).1 member id⟩

theorem evaluateObjects_eq_filterMap {found : Session}
    (known : book.session? session = some found) :
    evaluateObjects book session round now =
      { updated := (placedObjects book session found.players round).filterMap fun placed =>
          (book.definition? session placed.object.definition).bind (placed.updated? now)
        postings := (placedObjects book session found.players round).filterMap fun placed =>
          (book.definition? session placed.object.definition).bind (placed.posting? now) } := by
  rw [evaluateObjects, known]
  cases templated : book.template? session with
  | none => simp [Book.definition?, templated]
  | some template => simp [Book.definition?, templated]

theorem updated_evaluateObjects {found : Session} (known : book.session? session = some found) :
    (evaluateObjects book session round now).updated =
      (placedObjects book session found.players round).filterMap fun placed =>
        book.report? session round now placed.object := by
  rw [evaluateObjects_eq_filterMap known]
  refine List.filterMap_congr fun placed here => ?_
  obtain ⟨-, -, scope, totals⟩ := of_mem_placedObjects here
  rw [Book.report?]
  refine congrArg _ (funext fun definition => ?_)
  rw [Placed.updated?, totals, scope]

theorem mem_updated_iff {updated : ObjectInstance R} :
    updated ∈ (evaluateObjects book session round now).updated ↔
      ∃ found, book.session? session = some found ∧
        ∃ placed ∈ placedObjects book session found.players round,
          book.report? session round now placed.object = some updated := by
  cases known : book.session? session with
  | none => simp [evaluateObjects, known]
  | some found => simp [updated_evaluateObjects known]

theorem of_report? {updated : ObjectInstance R}
    (reported : book.report? session round now object = some updated) :
    ∃ definition, book.definition? session object.definition = some definition ∧
      updated.id = object.id ∧ (present definition.calculation = none →
        updated.computed = object.computed ∧ updated.lastComputedAt = object.lastComputedAt) := by
  obtain ⟨definition, defined, evaluated⟩ := Option.bind_eq_some_iff.1 reported
  obtain ⟨id, -, idle⟩ := Scope.updated?_eq_some evaluated
  exact ⟨definition, defined, id, idle⟩

def Book.recomputed (book : Book R) (session : String) (round : Option String) (now : R) :
    List (ObjectInstance R) :=
  (evaluateObjects book session round now).updated.filterMap (Keeper.merged? book)

theorem refreshed_of_mem_recomputed (ownIds : book.OwnIds) {fresh : ObjectInstance R}
    (member : fresh ∈ book.recomputed session round now) :
    ∃ object ∈ book.sessionObjects session, book.Refreshed session object fresh := by
  obtain ⟨updated, reported, merged⟩ := List.mem_filterMap.1 member
  obtain ⟨_, -, placed, placedHere, evaluated⟩ := mem_updated_iff.1 reported
  obtain ⟨definition, defined, id, idle⟩ := of_report? evaluated
  have here := (of_mem_placedObjects placedHere).1
  have held := ((Book.mem_sessionObjects_iff ownIds).1 here).1
  rw [Keeper.merged?, id, held] at merged
  simp only [Option.bind_eq_bind, Option.bind_some] at merged
  split at merged
  · cases merged
  · simp only [Option.some.injEq] at merged
    refine ⟨placed.object, here, ?_⟩
    cases calculation : present definition.calculation with
    | none =>
      obtain ⟨computed, lastComputedAt⟩ := idle calculation
      exact .inl (by rw [← merged, computed, lastComputedAt])
    | some formula =>
      exact .inr ⟨here, ⟨definition, defined, by rw [calculation]; rfl⟩, _, _, merged.symm⟩

theorem lists_of_mem_recomputed (kept : book.Kept) {fresh : ObjectInstance R}
    (member : fresh ∈ book.recomputed session round now) : book.Lists fresh.session fresh := by
  obtain ⟨object, here, refreshed⟩ := refreshed_of_mem_recomputed kept.ownIds member
  exact kept.lists_home here refreshed.same.1 refreshed.same.2.1

end Scorekeeper
