import Mathlib.Logic.Equiv.Basic
import Scorekeeper.Proofs.Object.Liveness
import Scorekeeper.Proofs.Table

set_option autoImplicit false

/-!
# Players under other ids

The ids of players are labels: what becomes of an object does not hang on which ids its players
have, with two exceptions.  An owner is handed on as a mere name, and two names are words, one for
everybody and one for nobody, so a player who has or is given one of these ids is taken for them.
-/

namespace Scorekeeper

open Relation

variable {R : Type}

/-- Other ids for the players, no two of them alike.  The empty text is no id and stays as it is. -/
structure Relabelling where
  label : String → String
  injective : Function.Injective label
  label_empty : label "" = ""

def Session.relabel (labels : Relabelling) (session : Session) : Session :=
  { session with players := session.players.map labels.label }

def ObjectInstance.relabel (labels : Relabelling) (object : ObjectInstance R) : ObjectInstance R :=
  { object with player := object.player.map labels.label }

def Book.relabel (labels : Relabelling) (book : Book R) : Book R :=
  { book with
    sessions := book.sessions.map (Session.relabel labels)
    objects := book.objects.map (ObjectInstance.relabel labels) }

def Scope.relabel (labels : Relabelling) (scope : Scope R) : Scope R :=
  { scope with
    book := scope.book.relabel labels
    player := scope.player.map labels.label }

def Piece.relabel (labels : Relabelling) (piece : Piece R) : Piece R :=
  (piece.1, piece.2.relabel labels)

namespace Relabelling

variable (labels : Relabelling)

theorem map_label_eq_iff {player other : Option String} :
    player.map labels.label = other.map labels.label ↔ player = other :=
  (Option.map_injective labels.injective).eq_iff

theorem label_eq_empty_iff {player : String} : labels.label player = "" ↔ player = "" := by
  constructor
  · intro empty
    apply labels.injective
    rw [empty, labels.label_empty]
  · rintro rfl
    exact labels.label_empty

theorem isSome_present (player : Option String) :
    (present (player.map labels.label)).isSome = (present player).isSome := by
  cases player with
  | none => rfl
  | some name =>
    by_cases empty : name = "" <;>
      simp [present, Option.filter, labels.label_eq_empty_iff, empty]

theorem session?_relabel (book : Book R) (session : String) :
    (book.relabel labels).session? session = (book.session? session).map (Session.relabel labels) :=
  Table.get?_map (Session.relabel labels) book.sessions session

theorem template?_relabel (book : Book R) (session : String) :
    (book.relabel labels).template? session = book.template? session := by
  rw [Book.template?, Book.template?, session?_relabel]
  cases book.session? session <;> rfl

theorem sessionObjects_relabel (book : Book R) (session : String) :
    (book.relabel labels).sessionObjects session =
      (book.sessionObjects session).map (ObjectInstance.relabel labels) := by
  have listed : (book.relabel labels).listed session = book.listed session := by
    rw [Book.listed, Book.listed, session?_relabel]
    cases book.session? session <;> rfl
  have values : (book.relabel labels).objects.values =
      book.objects.values.map (ObjectInstance.relabel labels) := Table.values_map _ _
  have stored (id : String) : (book.relabel labels).objects.get? id =
      (book.objects.get? id).map (ObjectInstance.relabel labels) := Table.get?_map _ _ _
  rw [Book.sessionObjects, Book.sessionObjects, listed]
  cases book.listed session with
  | nil =>
    simp only [values, List.filter_map]
    rfl
  | cons first rest => simp only [List.map_filterMap, stored]

theorem instance?_relabel (scope : Scope R) (definition : String) :
    (scope.relabel labels).instance? definition =
      (scope.instance? definition).map (ObjectInstance.relabel labels) := by
  change List.find? _ ((scope.book.relabel labels).sessionObjects scope.session) = _
  rw [sessionObjects_relabel, List.find?_map]
  congr 2
  funext object
  rw [Function.comp_apply, Bool.eq_iff_iff, Bool.and_eq_true, Bool.and_eq_true]
  simp only [decide_eq_true_eq]
  exact and_congr_right' labels.map_label_eq_iff

theorem piece?_relabel (scope : Scope R) (reference : String) :
    (scope.relabel labels).piece? reference =
      (scope.piece? reference).map (Piece.relabel labels) := by
  have template : (scope.relabel labels).template? = scope.template? :=
    labels.template?_relabel scope.book scope.session
  simp only [Scope.piece?, template, labels.instance?_relabel, Option.bind_eq_bind]
  cases scope.template? with
  | none => rfl
  | some template =>
    simp only [Option.bind_some]
    cases template.definition? reference with
    | none => rfl
    | some definition => cases scope.instance? reference <;> rfl

variable {labels} {scope : Scope R} {piece other : Piece R}

theorem needs_relabel_iff : (scope.relabel labels).Needs (piece.relabel labels) other ↔
    ∃ needed, scope.Needs piece needed ∧ needed.relabel labels = other := by
  simp only [Scope.Needs, piece?_relabel, Option.map_eq_some_iff]
  constructor
  · rintro ⟨unstated, reference, wanted, needed, means, same⟩
    exact ⟨needed, ⟨unstated, reference, wanted, means⟩, same⟩
  · rintro ⟨needed, ⟨unstated, reference, wanted, means⟩, same⟩
    exact ⟨unstated, reference, wanted, needed, means, same⟩

theorem needs_relabel (needs : scope.Needs piece other) :
    (scope.relabel labels).Needs (piece.relabel labels) (other.relabel labels) :=
  needs_relabel_iff.2 ⟨other, needs, rfl⟩

theorem transGen_relabel_iff :
    TransGen (scope.relabel labels).Needs (piece.relabel labels) other ↔
      ∃ needed, TransGen scope.Needs piece needed ∧ needed.relabel labels = other := by
  constructor
  · intro leads
    induction leads with
    | single needs =>
      obtain ⟨needed, first, rfl⟩ := needs_relabel_iff.1 needs
      exact ⟨needed, .single first, rfl⟩
    | tail _ needs ih =>
      obtain ⟨between, leads, rfl⟩ := ih
      obtain ⟨needed, last, rfl⟩ := needs_relabel_iff.1 needs
      exact ⟨needed, .tail leads last, rfl⟩
  · rintro ⟨needed, leads, rfl⟩
    exact leads.lift (Piece.relabel labels) fun _ _ => needs_relabel

theorem reflTransGen_relabel_iff :
    ReflTransGen (scope.relabel labels).Needs (piece.relabel labels) other ↔
      ∃ needed, ReflTransGen scope.Needs piece needed ∧ needed.relabel labels = other := by
  simp only [reflTransGen_iff_eq_or_transGen, transGen_relabel_iff]
  constructor
  · rintro (rfl | ⟨needed, leads, same⟩)
    · exact ⟨piece, .inl rfl, rfl⟩
    · exact ⟨needed, .inr leads, same⟩
  · rintro ⟨needed, rfl | leads, same⟩
    · exact .inl same.symm
    · exact .inr ⟨needed, leads, same⟩

theorem isOpen_relabel (plain : ∀ reference, piece.1.window ≠ .whileObject reference) :
    (scope.relabel labels).isOpen piece.1 = scope.isOpen piece.1 := by
  have template : (scope.relabel labels).template? = scope.template? :=
    labels.template?_relabel scope.book scope.session
  have session : (scope.relabel labels).book.session? (scope.relabel labels).session =
      (scope.book.session? scope.session).map (Session.relabel labels) :=
    labels.session?_relabel scope.book scope.session
  rw [Scope.isOpen, Scope.isOpen, Scope.isOpenWith, Scope.isOpenWith]
  cases window : piece.1.window with
  | whileObject reference => exact absurd window (plain reference)
  | always => rfl
  | phase => simp only [template]
  | round id index =>
    simp only [session]
    cases present id with
    | some id => rfl
    | none =>
      cases index with
      | some index => rfl
      | none => cases scope.book.session? scope.session <;> rfl

theorem eligible_relabel (eligible : scope.Eligible piece) :
    (scope.relabel labels).Eligible (piece.relabel labels) where
  valued := eligible.valued
  enabled := eligible.enabled
  owner reference owned := by
    obtain ⟨other, means, held⟩ := eligible.owner reference owned
    refine ⟨other.relabel labels, by rw [piece?_relabel, means]; rfl, ?_⟩
    rwa [← labels.isSome_present] at held
  opened plain := (isOpen_relabel plain).trans (eligible.opened plain)
  window reference wanted := by
    obtain ⟨other, means⟩ := eligible.window reference wanted
    exact ⟨other.relabel labels, by rw [piece?_relabel, means]; rfl⟩

theorem eligible_of_relabel
    (eligible : (scope.relabel labels).Eligible (piece.relabel labels)) : scope.Eligible piece where
  valued := eligible.valued
  enabled := eligible.enabled
  owner reference owned := by
    obtain ⟨_, means, held⟩ := eligible.owner reference owned
    rw [piece?_relabel, Option.map_eq_some_iff] at means
    obtain ⟨other, means, rfl⟩ := means
    exact ⟨other, means, (labels.isSome_present other.2.player).symm.trans held⟩
  opened plain := (isOpen_relabel plain).symm.trans (eligible.opened plain)
  window reference wanted := by
    obtain ⟨_, means⟩ := eligible.window reference wanted
    rw [piece?_relabel, Option.map_eq_some_iff] at means
    obtain ⟨other, means, rfl⟩ := means
    exact ⟨other, means⟩

theorem live_relabel_iff :
    (scope.relabel labels).Live (piece.relabel labels) ↔ scope.Live piece := by
  constructor
  · -- The induction is on the derivation, and each piece in it is a relabelled one.
    generalize same : piece.relabel labels = moved
    intro live
    induction live generalizing piece with
    | stated given live =>
      subst same
      exact .stated given live
    | derived unstated eligible _ ih =>
      subst same
      exact .derived unstated (eligible_of_relabel eligible) fun other needs =>
        ih _ (needs_relabel needs) rfl
  · intro live
    induction live with
    | stated given live => exact .stated given live
    | derived unstated eligible _ ih =>
      refine .derived unstated (eligible_relabel eligible) fun other needs => ?_
      obtain ⟨needed, wanted, rfl⟩ := needs_relabel_iff.1 needs
      exact ih needed wanted

end Relabelling

namespace Scope

variable {scope : Scope R} {piece : Piece R}

structure Founded (scope : Scope R) (piece : Piece R) : Prop where
  live : scope.Live piece
  away : ∀ other, TransGen scope.Needs piece other →
    other.1.id ≠ piece.1.id ∧ other.1.id ∉ scope.resolving

/-- Nothing without a state of its own that a piece leads to, itself included, is but
everybody's. -/
def Shared (scope : Scope R) (piece : Piece R) : Prop :=
  ∀ other, ReflTransGen scope.Needs piece other → present other.2.state = none →
    other.1.ownership = .shared

theorem isLive_state_iff_founded (scope : Scope R) (piece : Piece R) :
    isLive (scope.state piece.1 piece.2) = true ↔
      scope.Founded piece ∧ (scope.player = some inactiveOwner → scope.Shared piece) := by
  have settled : isLive (scope.state piece.1 piece.2) = true ↔
      scope.Live piece ∧ scope.Clear scope.resolving piece := isLive_state_iff piece
  rw [settled]
  constructor
  · rintro ⟨live, away, named⟩
    exact ⟨⟨live, away⟩, named⟩
  · rintro ⟨⟨live, away⟩, named⟩
    exact ⟨live, away, named⟩

theorem founded_relabel_iff {labels : Relabelling} :
    (scope.relabel labels).Founded (piece.relabel labels) ↔ scope.Founded piece := by
  constructor
  · rintro ⟨live, away⟩
    refine ⟨Relabelling.live_relabel_iff.1 live, fun other leads => ?_⟩
    exact away (other.relabel labels) (Relabelling.transGen_relabel_iff.2 ⟨other, leads, rfl⟩)
  · rintro ⟨live, away⟩
    refine ⟨Relabelling.live_relabel_iff.2 live, fun other leads => ?_⟩
    obtain ⟨needed, reached, rfl⟩ := Relabelling.transGen_relabel_iff.1 leads
    exact away needed reached

theorem shared_relabel_iff {labels : Relabelling} :
    (scope.relabel labels).Shared (piece.relabel labels) ↔ scope.Shared piece := by
  simp only [Shared, Relabelling.reflTransGen_relabel_iff, forall_exists_index, and_imp,
    forall_apply_eq_imp_iff₂]
  rfl

theorem follow_player {definition : ObjectDefinition R} {reference state : String}
    {object : ObjectInstance R}
    (followed : scope.follow definition reference = some (state, object)) :
    object.player = scope.player := by
  have along : (scope.along scope.resolving).follow definition reference = some (state, object) :=
    followed
  obtain ⟨other, means, -, -, -, rfl⟩ := follow_along_eq_some_iff.1 along
  exact (of_piece?_eq_some means).2

theorem inherited_eq_of_named {player : Option String} (named : (present player).isSome) :
    ((present player).orElse fun _ => some inactiveOwner) = player := by
  cases player with
  | none => simp [present] at named
  | some name =>
    by_cases empty : name = ""
    · simp [present, empty] at named
    · simp [present, Option.filter, empty]

theorem owner_eq_of_ne_inactive {definition : ObjectDefinition R}
    (somebody : scope.owner definition ≠ some inactiveOwner) :
    scope.owner definition =
      if definition.ownership = .shared then some sharedOwner else scope.player := by
  rw [owner, ownerWith] at somebody ⊢
  cases owned : definition.ownership with
  | inactive => simp [owned] at somebody
  | shared => rfl
  | player => rfl
  | ofObject reference =>
    -- What is inherited is the player of the instance behind the reference, which is the scope's.
    simp only [owned, reduceCtorEq, if_false] at somebody ⊢
    cases followed : scope.follow definition reference with
    | none => simp [followed] at somebody
    | some found =>
      obtain ⟨state, object⟩ := found
      simp only [followed] at somebody ⊢
      split at somebody
      · rename_i live
        obtain ⟨named, -⟩ := (inherited_ne_inactive_iff object.player).1 somebody
        rw [if_pos live, inherited_eq_of_named named, follow_player followed]
      · exact absurd rfl somebody

theorem state_of_isLive (piece : Piece R) (unstated : present piece.2.state = none)
    (live : isLive (scope.state piece.1 piece.2) = true) :
    scope.state piece.1 piece.2 =
      if piece.1.ownership = .shared ∨ scope.player = some sharedOwner then "active"
      else if (present scope.player).isSome || (present piece.2.player).isSome then "owned"
      else "active" := by
  rw [state_eq] at live ⊢
  rcases isLive_stateWith_iff.1 live with ⟨state, given, -⟩ | ⟨-, valued, somebody, opened⟩
  · rw [unstated] at given
    cases given
  · have owner := owner_eq_of_ne_inactive somebody
    change scope.ownerWith _ piece.1 = _ at owner
    simp only [stateWith, unstated, valued, opened, owner, Bool.false_eq_true, Bool.not_true,
      if_false]
    by_cases shared : piece.1.ownership = .shared
    · simp [shared, sharedOwner, inactiveOwner]
    · simp only [shared, if_false, false_or, Bool.or_eq_true]
      split_ifs <;> simp_all

theorem state_relabel_eq_iff_of_isLive {labels : Relabelling}
    (unstated : present piece.2.state = none)
    (before : isLive (scope.state piece.1 piece.2) = true)
    (after : isLive
      ((scope.relabel labels).state (piece.relabel labels).1 (piece.relabel labels).2) = true) :
    (scope.relabel labels).state (piece.relabel labels).1 (piece.relabel labels).2 =
        scope.state piece.1 piece.2 ↔
      (scope.player = some sharedOwner ↔ (scope.relabel labels).player = some sharedOwner) ∨
        piece.1.ownership = .shared := by
  have owner : (present (scope.relabel labels).player).isSome = (present scope.player).isSome :=
    labels.isSome_present scope.player
  have held : (present (piece.relabel labels).2.player).isSome = (present piece.2.player).isSome :=
    labels.isSome_present piece.2.player
  have word : (present (some sharedOwner)).isSome = true := by decide
  have moved : _ = if piece.1.ownership = .shared ∨ _ then _ else _ :=
    state_of_isLive (piece.relabel labels) unstated after
  rw [moved, state_of_isLive piece unstated before, owner, held]
  -- A player that has the word for everybody as an id has an id, and under any other is an owner.
  by_cases shared : piece.1.ownership = .shared
  · simp [shared]
  · simp only [shared, false_or, or_false]
    by_cases named : scope.player = some sharedOwner
    · by_cases renamed : (scope.relabel labels).player = some sharedOwner <;>
        simp [named, renamed, word]
    · by_cases renamed : (scope.relabel labels).player = some sharedOwner
      · rw [renamed, word] at owner
        simp [named, renamed, ← owner]
      · simp [named, renamed]

theorem state_relabel_eq_iff (labels : Relabelling) (scope : Scope R) (piece : Piece R) :
    (scope.relabel labels).state (piece.relabel labels).1 (piece.relabel labels).2 =
        scope.state piece.1 piece.2 ↔
      (present piece.2.state).isSome ∨ ¬ scope.Founded piece ∨
        ((scope.player = some inactiveOwner ↔
            (scope.relabel labels).player = some inactiveOwner) ∨
          scope.Shared piece) ∧
        ((scope.player = some sharedOwner ↔ (scope.relabel labels).player = some sharedOwner) ∨
          piece.1.ownership = .shared) := by
  cases stated : present piece.2.state with
  | some state =>
    have kept : present (piece.relabel labels).2.state = some state := stated
    simp [state_eq, stateWith, stated, kept]
  | none =>
    have before : isLive (scope.state piece.1 piece.2) = true ↔ _ :=
      scope.isLive_state_iff_founded piece
    have after := (scope.relabel labels).isLive_state_iff_founded (piece.relabel labels)
    rw [founded_relabel_iff, shared_relabel_iff] at after
    have unstated : present (piece.relabel labels).2.state = none := stated
    have words : inactiveOwner ≠ sharedOwner := by decide
    -- A state that is live is not one that is not, and there is one state only that is not live.
    cases live : isLive (scope.state piece.1 piece.2) <;>
      cases still : isLive
        ((scope.relabel labels).state (piece.relabel labels).1 (piece.relabel labels).2) <;>
      rw [live] at before <;> rw [still] at after
    · rw [state_eq_inactive stated live, state_eq_inactive unstated still]
      grind
    · refine iff_of_false (fun same => ?_) (by grind)
      rw [same, live] at still
      cases still
    · refine iff_of_false (fun same => ?_) (by grind)
      rw [same, live] at still
      cases still
    · rw [state_relabel_eq_iff_of_isLive stated live still]
      grind

def asEverybody : Relabelling where
  label := Equiv.swap "p" sharedOwner
  injective := (Equiv.swap "p" sharedOwner).injective
  label_empty := Equiv.swap_apply_of_ne_of_ne (by decide) (by decide)

theorem state_relabel_ne : ¬ ∀ (labels : Relabelling) (scope : Scope Float)
    (definition : ObjectDefinition Float) (object : ObjectInstance Float), scope.resolving = [] →
    (scope.definitions.map ObjectDefinition.id).Nodup → definition ∈ scope.definitions →
    scope.instance? definition.id = some object →
    (scope.relabel labels).state definition (object.relabel labels) =
      scope.state definition object := by
  intro same
  have kept := same asEverybody (scene "p") (crown "p").1 (crown "p").2 rfl (by decide)
    List.mem_cons_self rfl
  have before : (scene "p").stateWithin (crown "p").1 (crown "p").2 5 = some "owned" := by decide
  have after : ((scene "p").relabel asEverybody).stateWithin (crown "p").1
      ((crown "p").2.relabel asEverybody) 5 = some "active" := by decide
  rw [stateWithin_eq_of_lt (by decide), Option.some.injEq] at before after
  rw [before, after] at kept
  exact absurd kept (by decide)

end Scope

end Scorekeeper
