import Mathlib.Logic.Relation
import Scorekeeper.Proofs.Object.Nesting

set_option autoImplicit false

namespace Scorekeeper

open Relation

variable {R : Type}

abbrev Piece (R : Type) : Type := ObjectDefinition R × ObjectInstance R

namespace Scope

def piece? (scope : Scope R) (reference : String) : Option (Piece R) := do
  let template ← scope.template?
  let definition ← template.definition? reference
  let object ← scope.instance? reference
  return (definition, object)

-- A piece without a state of its own needs those that its ownership and its window refer to.
def Needs (scope : Scope R) (piece other : Piece R) : Prop :=
  present piece.2.state = none ∧
    ∃ reference,
      (piece.1.ownership = .ofObject reference ∨ piece.1.window = .whileObject reference) ∧
        scope.piece? reference = some other

structure Eligible (scope : Scope R) (piece : Piece R) : Prop where
  valued : piece.2.value.isNull = false
  enabled : piece.1.ownership ≠ .inactive
  owner : ∀ reference, piece.1.ownership = .ofObject reference →
    ∃ other, scope.piece? reference = some other ∧ (present other.2.player).isSome
  opened : (∀ reference, piece.1.window ≠ .whileObject reference) → scope.isOpen piece.1 = true
  window : ∀ reference, piece.1.window = .whileObject reference →
    ∃ other, scope.piece? reference = some other

inductive Live (scope : Scope R) : Piece R → Prop
  | stated {piece : Piece R} {state : String} (given : present piece.2.state = some state)
      (live : isLive state = true) : Live scope piece
  | derived {piece : Piece R} (unstated : present piece.2.state = none)
      (eligible : scope.Eligible piece)
      (needed : ∀ other, scope.Needs piece other → Live scope other) : Live scope piece

variable {scope : Scope R} {piece other : Piece R} {reference : String}

theorem of_piece?_eq_some (found : scope.piece? reference = some other) :
    other.1.id = reference ∧ other.2.player = scope.player := by
  simp only [piece?, Option.bind_eq_bind, Option.bind_eq_some_iff, Option.pure_def,
    Option.some.injEq] at found
  obtain ⟨template, -, definition, defined, object, held, rfl⟩ := found
  have named := List.find?_some defined
  have owned := List.find?_some held
  simp only [Bool.and_eq_true, decide_eq_true_eq] at named owned
  exact ⟨named, owned.2⟩

theorem eq_of_needs {first : Piece R} (needs : scope.Needs first other)
    (found : scope.piece? reference = some piece) (same : other.1.id = piece.1.id) :
    other = piece := by
  obtain ⟨-, wanted, -, means⟩ := needs
  rw [(of_piece?_eq_some means).1, (of_piece?_eq_some found).1] at same
  subst same
  exact Option.some.inj (means.symm.trans found)

def along (scope : Scope R) (path : List String) : Scope R :=
  { scope with resolving := path }

theorem referenced?_along_iff {path : List String} {definition : String} :
    (scope.along path).referenced? definition reference = some other ↔
      scope.piece? reference = some other ∧ other.1.id ≠ definition ∧ other.1.id ∉ path := by
  change (scope.template?.bind fun template => (template.definition? reference).bind fun found =>
      if found.id = definition ∨ found.id ∈ path then none
      else (scope.instance? reference).bind fun object => some (found, object)) = some other ↔ _
  simp only [piece?, Option.bind_eq_bind, Option.bind_eq_some_iff, Option.pure_def]
  constructor
  · rintro ⟨template, isTemplate, found, isFound, rest⟩
    split at rest
    · cases rest
    · rename_i fresh
      rw [not_or] at fresh
      obtain ⟨object, held, same⟩ := Option.bind_eq_some_iff.1 rest
      cases same
      exact ⟨⟨template, isTemplate, found, isFound, object, held, rfl⟩, fresh⟩
  · rintro ⟨⟨template, isTemplate, found, isFound, object, held, same⟩, fresh⟩
    cases same
    refine ⟨template, isTemplate, found, isFound, ?_⟩
    rw [if_neg (not_or.2 fresh), held]
    rfl

/-- Whether a piece is live when it is come upon from a definition at the end of a path. -/
def LiveAfter (scope : Scope R) (path : List String) (definition : String) (piece : Piece R) :
    Prop :=
  piece.1.id ≠ definition ∧ piece.1.id ∉ path ∧
    isLive ((scope.along (definition :: path)).state piece.1 piece.2) = true

theorem follow_along_eq_some_iff {path : List String} {definition : ObjectDefinition R}
    {state : String} {object : ObjectInstance R} :
    (scope.along path).follow definition reference = some (state, object) ↔
      ∃ other, scope.piece? reference = some other ∧ other.1.id ≠ definition.id ∧
        other.1.id ∉ path ∧
        (scope.along (definition.id :: path)).state other.1 other.2 = state ∧ other.2 = object := by
  simp only [follow, Option.map_eq_some_iff, Prod.mk.injEq, referenced?_along_iff, and_assoc]
  rfl

theorem exists_liveAfter_iff {path : List String} {definition : ObjectDefinition R} :
    (∃ state object, (scope.along path).follow definition reference = some (state, object) ∧
      isLive state = true) ↔
    ∃ other, scope.piece? reference = some other ∧ scope.LiveAfter path definition.id other := by
  simp only [follow_along_eq_some_iff, LiveAfter]
  constructor
  · rintro ⟨state, object, ⟨other, means, away, fresh, rfl, -⟩, live⟩
    exact ⟨other, means, away, fresh, live⟩
  · rintro ⟨other, means, away, fresh, live⟩
    exact ⟨_, other.2, ⟨other, means, away, fresh, rfl, rfl⟩, live⟩

theorem isLive_stateWith_iff {follow : String → Option (String × ObjectInstance R)} :
    isLive (scope.stateWith follow piece.1 piece.2) = true ↔
      (∃ state, present piece.2.state = some state ∧ isLive state = true) ∨
      (present piece.2.state = none ∧ piece.2.value.isNull = false ∧
        scope.ownerWith follow piece.1 ≠ some inactiveOwner ∧
        scope.isOpenWith follow piece.1 = true) := by
  rw [stateWith]
  cases present piece.2.state with
  | some state => simp
  | none =>
    have inactive : isLive "inactive" = false := by decide
    have active : isLive "active" = true := by decide
    have owned : isLive "owned" = true := by decide
    cases piece.2.value.isNull with
    | true => simp [inactive]
    | false =>
      by_cases nobody : scope.ownerWith follow piece.1 = some inactiveOwner
      · simp [nobody, inactive]
      · cases scope.isOpenWith follow piece.1 with
        | false => simp [nobody, inactive]
        | true => simp [nobody, apply_ite isLive, active, owned]

theorem inherited_ne_inactive_iff (player : Option String) :
    ((present player).orElse fun _ => some inactiveOwner) ≠ some inactiveOwner ↔
      (present player).isSome ∧ player ≠ some inactiveOwner := by
  cases player with
  | none => simp [present]
  | some name => by_cases unnamed : name = "" <;> simp [present, Option.filter, unnamed]

theorem owner_along_iff {path : List String} :
    (scope.along path).owner piece.1 ≠ some inactiveOwner ↔
      piece.1.ownership ≠ .inactive ∧
      (scope.player = some inactiveOwner → piece.1.ownership = .shared) ∧
      ∀ reference, piece.1.ownership = .ofObject reference →
        ∃ other, scope.piece? reference = some other ∧ (present other.2.player).isSome ∧
          scope.LiveAfter path piece.1.id other := by
  rw [owner, ownerWith]
  cases owned : piece.1.ownership with
  | inactive => simp
  | shared => simp [sharedOwner, inactiveOwner]
  | player => simp [along]
  | ofObject reference =>
    -- Both sides ask for the same piece, since a reference means at most one.
    simp only [ne_eq, reduceCtorEq, not_false_eq_true, true_and, imp_false,
      Ownership.ofObject.injEq, forall_eq']
    cases followed : (scope.along path).follow piece.1 reference with
    | none =>
      refine iff_of_false (by simp) ?_
      rintro ⟨-, other, means, -, live⟩
      obtain ⟨state, object, found, -⟩ := exists_liveAfter_iff.2 ⟨other, means, live⟩
      rw [followed] at found
      cases found
    | some found =>
      obtain ⟨state, object⟩ := found
      obtain ⟨other, means, away, fresh, rfl, rfl⟩ := follow_along_eq_some_iff.1 followed
      have only : ∀ next, scope.piece? reference = some next ↔ next = other := by
        simp [means, eq_comm]
      have live_iff : scope.LiveAfter path piece.1.id other ↔ isLive
          ((scope.along (piece.1.id :: path)).state other.1 other.2) = true := by
        simp [LiveAfter, away, fresh]
      simp only [only, exists_eq_left, live_iff, ← (of_piece?_eq_some means).2]
      -- A player is inherited as a mere name, and one name is the word for nobody.
      split
      · rename_i live
        rw [← ne_eq, inherited_ne_inactive_iff]
        simp [live, and_comm]
      · simp [*]

theorem isOpenWith_along_of_plain {path : List String} {definition : ObjectDefinition R}
    {follow follow' : String → Option (String × ObjectInstance R)}
    (plain : ∀ reference, definition.window ≠ .whileObject reference) :
    (scope.along path).isOpenWith follow definition = scope.isOpenWith follow' definition := by
  cases window : definition.window with
  | whileObject reference => exact absurd window (plain reference)
  | _ => simp only [isOpenWith, window] <;> rfl

theorem isOpen_along_iff {path : List String} :
    (scope.along path).isOpen piece.1 = true ↔
      ((∀ reference, piece.1.window ≠ .whileObject reference) → scope.isOpen piece.1 = true) ∧
      ∀ reference, piece.1.window = .whileObject reference →
        ∃ other, scope.piece? reference = some other ∧ scope.LiveAfter path piece.1.id other := by
  by_cases plain : ∀ reference, piece.1.window ≠ .whileObject reference
  · have same : (scope.along path).isOpen piece.1 = scope.isOpen piece.1 :=
      isOpenWith_along_of_plain plain
    simp [plain, same]
  · obtain ⟨reference, window⟩ := by simpa using plain
    simp only [isOpen, isOpenWith, window, Window.whileObject.injEq, forall_eq',
      ← exists_liveAfter_iff]
    cases (scope.along path).follow piece.1 reference <;> simp [Prod.ext_iff]

theorem isLive_state_along_iff {path : List String} :
    isLive ((scope.along path).state piece.1 piece.2) = true ↔
      (∃ state, present piece.2.state = some state ∧ isLive state = true) ∨
      (present piece.2.state = none ∧ scope.Eligible piece ∧
        (scope.player = some inactiveOwner → piece.1.ownership = .shared) ∧
        ∀ other, scope.Needs piece other → scope.LiveAfter path piece.1.id other) := by
  rw [state_eq, isLive_stateWith_iff]
  refine or_congr_right (and_congr_right fun unstated => ?_)
  change piece.2.value.isNull = false ∧ (scope.along path).owner piece.1 ≠ some inactiveOwner ∧
    (scope.along path).isOpen piece.1 = true ↔ _
  rw [owner_along_iff, isOpen_along_iff]
  constructor
  · rintro ⟨valued, ⟨enabled, nobody, owner⟩, opened, window⟩
    refine ⟨⟨valued, enabled, fun reference owned => ?_, opened, fun reference wanted => ?_⟩,
      nobody, ?_⟩
    · obtain ⟨other, means, held, -⟩ := owner reference owned
      exact ⟨other, means, held⟩
    · obtain ⟨other, means, -⟩ := window reference wanted
      exact ⟨other, means⟩
    · rintro other ⟨-, reference, owned | wanted, means⟩
      · obtain ⟨next, means', -, live⟩ := owner reference owned
        rwa [Option.some.inj (means.symm.trans means')]
      · obtain ⟨next, means', live⟩ := window reference wanted
        rwa [Option.some.inj (means.symm.trans means')]
  -- Ownership and window may refer to the same piece; each then finds it among those needed.
  · rintro ⟨eligible, nobody, needed⟩
    refine ⟨eligible.valued, ⟨eligible.enabled, nobody, fun reference owned => ?_⟩,
      eligible.opened, fun reference wanted => ?_⟩
    · obtain ⟨other, means, held⟩ := eligible.owner reference owned
      exact ⟨other, means, held, needed other ⟨unstated, reference, .inl owned, means⟩⟩
    · obtain ⟨other, means⟩ := eligible.window reference wanted
      exact ⟨other, means, needed other ⟨unstated, reference, .inr wanted, means⟩⟩

/-- What the references of a piece lead to, when none of them leads back and none is lost on a
player whose id is the word for nobody. -/
structure Clear (scope : Scope R) (path : List String) (piece : Piece R) : Prop where
  away : ∀ other, TransGen scope.Needs piece other → other.1.id ≠ piece.1.id ∧ other.1.id ∉ path
  named : scope.player = some inactiveOwner → ∀ other, ReflTransGen scope.Needs piece other →
    present other.2.state = none → other.1.ownership = .shared

theorem not_needs_of_stated {state : String} (given : present piece.2.state = some state) :
    ¬ scope.Needs piece other := by
  rintro ⟨unstated, -⟩
  rw [given] at unstated
  cases unstated

theorem clear_of_stated {path : List String} {state : String}
    (given : present piece.2.state = some state) : scope.Clear path piece where
  away other leads := by
    obtain ⟨next, needs, -⟩ := TransGen.head'_iff.1 leads
    exact absurd needs (not_needs_of_stated given)
  named _ other leads unstated := by
    rcases ReflTransGen.cases_head leads with rfl | ⟨next, needs, -⟩
    · rw [given] at unstated
      cases unstated
    · exact absurd needs (not_needs_of_stated given)

theorem live_of_isLive_state {path : List String}
    (live : isLive ((scope.along path).state piece.1 piece.2) = true) :
    scope.Live piece ∧ scope.Clear path piece := by
  -- Each reference that is followed leaves fewer ids of definitions to be entered.
  induction size : ((scope.along path).unenteredIds piece.1.id).card using Nat.strong_induction_on
    generalizing path piece with
  | _ size ih =>
    rcases isLive_state_along_iff.1 live with ⟨state, given, live⟩ |
      ⟨unstated, eligible, named, needed⟩
    · exact ⟨.stated given live, clear_of_stated given⟩
    · have behind : ∀ other, scope.Needs piece other →
          scope.Live other ∧ scope.Clear (piece.1.id :: path) other := by
        intro other needs
        obtain ⟨-, reference, -, means⟩ := id needs
        obtain ⟨away, fresh, live⟩ := needed other needs
        have fewer := unenteredIds_lt (referenced?_along_iff.2 ⟨means, away, fresh⟩)
        exact ih _ (size ▸ fewer) live rfl
      refine ⟨.derived unstated eligible fun other needs => (behind other needs).1, ?_, ?_⟩
      · intro other leads
        obtain ⟨next, needs, rest⟩ := TransGen.head'_iff.1 leads
        obtain ⟨away, fresh, -⟩ := needed next needs
        rcases reflTransGen_iff_eq_or_transGen.1 rest with rfl | later
        · exact ⟨away, fresh⟩
        · simpa using ((behind next needs).2.away other later).2
      · intro nobody other leads stateless
        rcases ReflTransGen.cases_head leads with rfl | ⟨next, needs, rest⟩
        · exact named nobody
        · exact (behind next needs).2.named nobody other rest stateless

theorem Live.acyclic (live : scope.Live piece) (leads : ReflTransGen scope.Needs piece other) :
    ¬ TransGen scope.Needs other other := by
  intro loop
  induction live with
  | stated given live =>
    obtain ⟨next, needs, -⟩ := TransGen.head'_iff.1 (.trans_right leads loop)
    exact not_needs_of_stated given needs
  | derived unstated eligible needed ih =>
    -- The first step on the way around the loop leads to a piece that is live as well.
    obtain ⟨next, needs, rest⟩ := TransGen.head'_iff.1 (.trans_right leads loop)
    exact ih next needs rest

theorem Clear.needed {path : List String} (clear : scope.Clear path piece)
    (needs : scope.Needs piece other) (live : scope.Live other) :
    scope.Clear (piece.1.id :: path) other where
  away next leads := by
    obtain ⟨away, fresh⟩ := clear.away next (.head needs leads)
    -- Something that leads back to the same id would lead back to the same piece.
    refine ⟨fun same => ?_, by simp [away, fresh]⟩
    obtain ⟨last, -, lastNeeds⟩ := TransGen.tail'_iff.1 leads
    obtain ⟨-, reference, -, means⟩ := needs
    obtain rfl := eq_of_needs lastNeeds means same
    exact live.acyclic .refl leads
  named nobody next leads := clear.named nobody next (.head needs leads)

theorem Live.isLive_state {path : List String} (live : scope.Live piece)
    (clear : scope.Clear path piece) :
    isLive ((scope.along path).state piece.1 piece.2) = true := by
  -- The path grows by what is needed, and nothing that a live piece needs leads back to it.
  induction live generalizing path with
  | stated given live => exact isLive_state_along_iff.2 (.inl ⟨_, given, live⟩)
  | derived unstated eligible needed ih =>
    refine isLive_state_along_iff.2 (.inr ⟨unstated, eligible, fun nobody => ?_, ?_⟩)
    · exact clear.named nobody _ .refl unstated
    · intro other needs
      obtain ⟨away, fresh⟩ := clear.away other (.single needs)
      exact ⟨away, fresh, ih other needs (clear.needed needs (needed other needs))⟩

theorem isLive_state_iff {path : List String} (piece : Piece R) :
    isLive ((scope.along path).state piece.1 piece.2) = true ↔
      scope.Live piece ∧ scope.Clear path piece :=
  ⟨live_of_isLive_state, fun ⟨live, clear⟩ => live.isLive_state clear⟩

theorem along_nil (start : scope.resolving = []) : scope.along [] = scope := by
  rw [along, ← start]

theorem Live.away (live : scope.Live piece) (found : scope.piece? piece.1.id = some piece) :
    ∀ other, TransGen scope.Needs piece other → other.1.id ≠ piece.1.id := by
  intro other leads same
  obtain ⟨last, -, needs⟩ := TransGen.tail'_iff.1 leads
  obtain rfl := eq_of_needs needs found same
  exact live.acyclic .refl leads

theorem state_eq_inactive (unstated : present piece.2.state = none)
    (down : isLive (scope.state piece.1 piece.2) = false) :
    scope.state piece.1 piece.2 = "inactive" := by
  rw [state_eq, stateWith, unstated] at down ⊢
  have active : isLive "active" = true := by decide
  have owned : isLive "owned" = true := by decide
  dsimp only at down ⊢
  split_ifs at down ⊢ <;> simp_all

theorem state_eq_inactive_of_loop (leads : ReflTransGen scope.Needs piece other)
    (loop : TransGen scope.Needs other other) : scope.state piece.1 piece.2 = "inactive" := by
  obtain ⟨next, needs, -⟩ := TransGen.head'_iff.1 (.trans_right leads loop)
  refine state_eq_inactive needs.1 (Bool.eq_false_iff.2 fun live => ?_)
  have derived : scope.Live piece ∧ scope.Clear scope.resolving piece := live_of_isLive_state live
  exact derived.1.acyclic leads loop

theorem isLive_state_iff_live {scope : Scope R} (start : scope.resolving = [])
    (definition : ObjectDefinition R) (object : ObjectInstance R) :
    (∀ depth, (scope.definitions.map ObjectDefinition.id).dedup.length + 1 ≤ depth →
      scope.stateWithin definition object depth = some (scope.state definition object)) ∧
    (isLive (scope.state definition object) = true ↔
      scope.Live (definition, object) ∧
      (scope.piece? definition.id = some (definition, object) ∨
        ∀ other, TransGen scope.Needs (definition, object) other →
          other.1.id ≠ definition.id) ∧
      (scope.player = some inactiveOwner →
        ∀ other, ReflTransGen scope.Needs (definition, object) other →
          present other.2.state = none → other.1.ownership = .shared)) ∧
    ∀ other, ReflTransGen scope.Needs (definition, object) other →
      TransGen scope.Needs other other → scope.state definition object = "inactive" := by
  have settled : isLive ((scope.along []).state definition object) = true ↔
      scope.Live (definition, object) ∧ scope.Clear [] (definition, object) :=
    isLive_state_iff (definition, object)
  rw [along_nil start] at settled
  refine ⟨fun depth enough => stateWithin_eq_of_lt enough, settled.trans ?_,
    fun other leads loop => state_eq_inactive_of_loop leads loop⟩
  constructor
  · rintro ⟨live, clear⟩
    exact ⟨live, .inr fun other leads => (clear.away other leads).1, clear.named⟩
  · rintro ⟨live, named, nobody⟩
    -- The piece that is found for its own id is kept from loops by being live.
    have away := named.elim live.away id
    exact ⟨live, fun other leads => ⟨away other leads, List.not_mem_nil⟩, nobody⟩

def scenePiece (player id : String) (ownership : Ownership) (window : Window) : Piece Float :=
  ({ id, name := id, kind := .number, ownership? := some ownership, window? := some window
     calculation := none, scoreImpact := none, defaultValue := .null, least := none, most := none
     options := none, setKind := none, setElements := [], description := none },
   { id, session := "s", definition := id, stored := .ofText (.whole 1), player := some player
     computed := .nothing, state := none, updatedAt := 0, updatedBy := "manual"
     lastComputedAt := none })

def crown (player : String) : Piece Float :=
  scenePiece player "crown" .player .always

def herald (player : String) : Piece Float :=
  scenePiece player "herald" (.ofObject "crown") (.whileObject "crown")

def leftMirror (player : String) : Piece Float :=
  scenePiece player "left" .player (.whileObject "right")

def rightMirror (player : String) : Piece Float :=
  scenePiece player "right" (.ofObject "left") .always

def scene (player : String) : Scope Float :=
  let pieces := [crown player, herald player, leftMirror player, rightMirror player]
  { book :=
      { Book.empty with
        sessions := Table.ofList [("s", ⟨"s", "S", [player], [], [], [], some "t", {}⟩)]
        templates := Table.ofList [("t", ⟨"t", "T", pieces.map Prod.fst, [], [], "1.0"⟩)]
        objects := Table.ofList (pieces.map fun piece => (piece.2.id, piece.2)) }
    session := "s"
    player := some player }

theorem isLive_state_scene :
    (scene "p").resolving = [] ∧
    (scene "p").state (herald "p").1 (herald "p").2 = "owned" ∧ (scene "p").Live (herald "p") ∧
    (scene "p").state (leftMirror "p").1 (leftMirror "p").2 = "inactive" := by
  have start : (scene "p").resolving = [] := rfl
  obtain ⟨heraldWithin, heraldLive, -⟩ := isLive_state_iff_live start (herald "p").1 (herald "p").2
  obtain ⟨-, -, leftLoop⟩ := isLive_state_iff_live start (leftMirror "p").1 (leftMirror "p").2
  have owned : (scene "p").state (herald "p").1 (herald "p").2 = "owned" := by
    have computed : (scene "p").stateWithin (herald "p").1 (herald "p").2 5 = some "owned" := by
      decide
    exact Option.some.inj ((heraldWithin 5 (by decide)).symm.trans computed)
  have live : isLive ((scene "p").state (herald "p").1 (herald "p").2) = true := by
    rw [owned]
    decide
  have there : (scene "p").Needs (leftMirror "p") (rightMirror "p") :=
    ⟨by decide, "right", .inr rfl, rfl⟩
  have back : (scene "p").Needs (rightMirror "p") (leftMirror "p") :=
    ⟨by decide, "left", .inl rfl, rfl⟩
  exact ⟨start, owned, (heraldLive.1 live).1, leftLoop _ .refl (.head there (.single back))⟩

/-- What belongs to a player whose id is the word for nobody is taken to be nobody's. -/
theorem isLive_state_ne_live : ¬ ∀ (scope : Scope Float) (definition : ObjectDefinition Float)
    (object : ObjectInstance Float), scope.resolving = [] →
    (scope.definitions.map ObjectDefinition.id).Nodup → definition ∈ scope.definitions →
    scope.instance? definition.id = some object →
    (isLive (scope.state definition object) = true ↔ scope.Live (definition, object)) := by
  intro derived
  have crowned := derived (scene inactiveOwner) (crown inactiveOwner).1 (crown inactiveOwner).2 rfl
    (by decide) List.mem_cons_self rfl
  have eligible : (scene inactiveOwner).Eligible (crown inactiveOwner) :=
    ⟨rfl, by decide, nofun, fun _ => by decide, nofun⟩
  have live : (scene inactiveOwner).Live (crown inactiveOwner) :=
    .derived (by decide) eligible fun other ⟨_, _, wanted, _⟩ => wanted.elim nofun nofun
  have computed : (scene inactiveOwner).stateWithin (crown inactiveOwner).1
      (crown inactiveOwner).2 5 = some "inactive" := by decide
  rw [stateWithin_eq_of_lt (by decide), Option.some.injEq] at computed
  have down := crowned.2 live
  rw [computed] at down
  exact absurd down (by decide)

end Scope

end Scorekeeper
