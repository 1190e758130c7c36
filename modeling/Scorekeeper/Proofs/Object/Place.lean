import Mathlib.Data.List.Nodup
import Scorekeeper.Object.Instance

set_option autoImplicit false

/-!
# Places of instances

A session that starts from a template has a place for an instance of each definition, one for the
session or one for each of its players.  The id of the instance tells the definition and the player
or the session, joined by dashes.  So two places have one id in two cases: a player of a player's
object takes part in two sessions, or a dash within an id reads as one that joins.
-/

namespace Scorekeeper

variable {R : Type}

theorem append_dash_cases {a b k l : List Char} (same : a ++ '-' :: k = b ++ '-' :: l) :
    (a = b ∧ k = l) ∨ (∃ rest, b = a ++ '-' :: rest ∧ k = rest ++ '-' :: l) ∨
      ∃ rest, a = b ++ '-' :: rest ∧ l = rest ++ '-' :: k := by
  -- One of the two starts goes on where the other ends, at once or with a dash.
  rcases List.append_eq_append_iff.1 same with ⟨more, longer, tail⟩ | ⟨more, longer, tail⟩
  · cases more with
    | nil =>
      cases tail
      exact .inl ⟨by simpa using longer.symm, rfl⟩
    | cons dash rest =>
      cases tail
      exact .inr (.inl ⟨rest, longer, rfl⟩)
  · cases more with
    | nil =>
      cases tail
      exact .inl ⟨by simpa using longer, rfl⟩
    | cons dash rest =>
      cases tail
      exact .inr (.inr ⟨rest, longer, rfl⟩)

def dashed (first second : String) : String :=
  first ++ "-" ++ second

theorem toList_dashed (first second : String) :
    (dashed first second).toList = first.toList ++ '-' :: second.toList := by
  simp [dashed]

theorem dashed_cases {a b k l : String} (same : dashed a k = dashed b l) :
    (a = b ∧ k = l) ∨ (∃ rest, b = dashed a rest ∧ k = dashed rest l) ∨
      ∃ rest, a = dashed b rest ∧ l = dashed rest k := by
  have spelled := congrArg String.toList same
  rw [toList_dashed, toList_dashed] at spelled
  rcases append_dash_cases spelled with
    ⟨first, second⟩ | ⟨rest, first, second⟩ | ⟨rest, first, second⟩
  · exact .inl ⟨String.toList_inj.1 first, String.toList_inj.1 second⟩
  · refine .inr (.inl ⟨String.ofList rest, ?_, ?_⟩) <;> rw [← String.toList_inj, toList_dashed]
    · rw [String.toList_ofList, first]
    · rw [String.toList_ofList, second]
  · refine .inr (.inr ⟨String.ofList rest, ?_, ?_⟩) <;> rw [← String.toList_inj, toList_dashed]
    · rw [String.toList_ofList, first]
    · rw [String.toList_ofList, second]

theorem dashed_assoc (a b c : String) : dashed (dashed a b) c = dashed a (dashed b c) := by
  simp [dashed, String.append_assoc]

theorem dashed_right_cancel {a b k : String} (same : dashed k a = dashed k b) : a = b := by
  have spelled := congrArg String.toList same
  rw [toList_dashed, toList_dashed, List.append_cancel_left_eq] at spelled
  exact String.toList_inj.1 (List.cons.inj spelled).2

theorem ne_dashed (first rest : String) : first ≠ dashed first rest := by
  intro same
  have longer := congrArg (fun text : String => text.toList.length) same
  simp [toList_dashed] at longer

def ObjectDefinition.owners (definition : ObjectDefinition R) (players : List String) :
    List (Option String) :=
  if definition.ownership = .player then players.map some else [none]

structure Play where
  session : String
  players : List String

structure Place (R : Type) where
  session : String
  definition : ObjectDefinition R
  owner : Option String

namespace Place

def label (place : Place R) : String :=
  place.owner.getD (dashed "session" place.session)

def id (place : Place R) : String :=
  dashed place.definition.id place.label

def initial (now : R) (place : Place R) : ObjectInstance R :=
  { id := place.id
    session := place.session
    definition := place.definition.id
    stored := .ofText place.definition.initialValue
    player := place.owner
    computed := .nothing
    state := match place.definition.ownership with
      | .ofObject _ => some "inactive"
      | _ => none
    updatedAt := now
    updatedBy := "manual"
    lastComputedAt := none }

end Place

namespace Template

def places (template : Template R) (plays : List Play) : List (Place R) :=
  plays.flatMap fun play => template.objects.flatMap fun definition =>
    (definition.owners play.players).map fun owner => ⟨play.session, definition, owner⟩

def initial (template : Template R) (plays : List Play) (now : R) : List (ObjectInstance R) :=
  plays.flatMap fun play => template.instances play.session play.players now

end Template

theorem ObjectDefinition.instances_eq (definition : ObjectDefinition R) (session : String)
    (players : List String) (now : R) :
    definition.instances session players now =
      (definition.owners players).map fun owner =>
        Place.initial now ⟨session, definition, owner⟩ := by
  have shared : definition.id ++ "-session-" ++ session =
      dashed definition.id (dashed "session" session) := by
    rw [← dashed_assoc]
    simp [dashed, String.append_assoc]
  rw [instances, owners]
  cases owned : definition.ownership with
  | player => simp [Place.initial, Place.id, Place.label, owned, dashed, Function.comp_def]
  | shared | inactive | ofObject => simp [Place.initial, Place.id, Place.label, owned, shared]

theorem Template.initial_eq (template : Template R) (plays : List Play) (now : R) :
    template.initial plays now = (template.places plays).map (Place.initial now) := by
  simp only [initial, places, instances, List.map_flatMap, List.map_map,
    ObjectDefinition.instances_eq, Function.comp_def]

section Places

variable {template : Template R} {plays : List Play} {place other : Place R}

theorem mem_places_iff : place ∈ template.places plays ↔
    ∃ play ∈ plays, place.session = play.session ∧ place.definition ∈ template.objects ∧
      place.owner ∈ place.definition.owners play.players := by
  simp only [Template.places, List.mem_flatMap, List.mem_map]
  constructor
  · rintro ⟨play, playing, definition, defined, owner, owns, rfl⟩
    exact ⟨play, playing, rfl, defined, owns⟩
  · rintro ⟨play, playing, same, defined, owns⟩
    exact ⟨play, playing, place.definition, defined, place.owner, owns, by rw [← same]⟩

theorem definition_eq_of_id (definitions : (template.objects.map ObjectDefinition.id).Nodup)
    (here : place ∈ template.places plays) (there : other ∈ template.places plays)
    (same : place.definition.id = other.definition.id) : place.definition = other.definition := by
  obtain ⟨_, _, _, defined, _⟩ := mem_places_iff.1 here
  obtain ⟨_, _, _, otherDefined, _⟩ := mem_places_iff.1 there
  exact List.inj_on_of_nodup_map definitions defined otherDefined same

theorem place_eq_of_initial (definitions : (template.objects.map ObjectDefinition.id).Nodup)
    (here : place ∈ template.places plays) (there : other ∈ template.places plays)
    (session : place.session = other.session)
    (definition : place.definition.id = other.definition.id) (owner : place.owner = other.owner) :
    place = other := by
  have same := definition_eq_of_id definitions here there definition
  cases place
  cases other
  cases session
  cases same
  cases owner
  rfl

theorem nodup_owners (definition : ObjectDefinition R) {players : List String}
    (distinct : players.Nodup) : (definition.owners players).Nodup := by
  rw [ObjectDefinition.owners]
  split
  · exact distinct.map fun first second => Option.some.inj
  · exact List.nodup_singleton none

theorem nodup_places (definitions : (template.objects.map ObjectDefinition.id).Nodup)
    (sessions : (plays.map Play.session).Nodup) (players : ∀ play ∈ plays, play.players.Nodup) :
    (template.places plays).Nodup := by
  refine List.nodup_flatMap.2 ⟨fun play playing => List.nodup_flatMap.2 ⟨?_, ?_⟩, ?_⟩
  · intro definition _
    exact (nodup_owners definition (players play playing)).map fun owner other same => by
      cases same
      rfl
  · refine (List.pairwise_map.1 definitions).imp fun {first second} different => ?_
    simp only [Function.onFun, List.disjoint_left, List.mem_map]
    rintro _ ⟨_, _, rfl⟩ ⟨_, _, same⟩
    exact different (congrArg (fun place => place.definition.id) same).symm
  · refine (List.pairwise_map.1 sessions).imp fun {first second} different => ?_
    simp only [Function.onFun, List.disjoint_left, List.mem_flatMap, List.mem_map]
    rintro _ ⟨_, _, _, _, rfl⟩ ⟨_, _, _, _, same⟩
    exact different (congrArg Place.session same).symm

def Template.Separate (template : Template R) (plays : List Play) : Prop :=
  ∀ place ∈ template.places plays, ∀ other ∈ template.places plays,
    place.id = other.id → place = other

theorem nodup_ids_iff (definitions : (template.objects.map ObjectDefinition.id).Nodup)
    (sessions : (plays.map Play.session).Nodup) (players : ∀ play ∈ plays, play.players.Nodup)
    (now : R) :
    ((template.initial plays now).map ObjectInstance.id).Nodup ↔ template.Separate plays := by
  rw [Template.initial_eq, List.map_map]
  exact List.nodup_map_iff_inj_on (nodup_places definitions sessions players)

/-- What keeps ids apart: the players of a player's object take part in one session each, and no id
of a definition goes on where another ends in a dash so that the rest is read as part of a player
or a session. -/
structure Template.Unambiguous (template : Template R) (plays : List Play) : Prop where
  players : ∀ definition ∈ template.objects, definition.ownership = .player →
    ∀ play ∈ plays, ∀ other ∈ plays, ∀ player ∈ play.players, player ∈ other.players →
      play.session = other.session
  dashes : ∀ place ∈ template.places plays, ∀ other ∈ template.places plays, ∀ rest,
    other.definition.id = dashed place.definition.id rest → place.label ≠ dashed rest other.label

theorem owners_of_player {definition : ObjectDefinition R} (owned : definition.ownership = .player)
    (players : List String) : definition.owners players = players.map some :=
  if_pos owned

theorem Template.Separate.unambiguous (separate : template.Separate plays) :
    template.Unambiguous plays where
  players definition defined owned play playing other otherPlaying player inside alsoInside := by
    have here : ⟨play.session, definition, some player⟩ ∈ template.places plays :=
      mem_places_iff.2 ⟨play, playing, rfl, defined, by simp [owners_of_player owned, inside]⟩
    have there : ⟨other.session, definition, some player⟩ ∈ template.places plays :=
      mem_places_iff.2
        ⟨other, otherPlaying, rfl, defined, by simp [owners_of_player owned, alsoInside]⟩
    -- The label of a player's instance does not tell the session, so the ids are the same.
    exact congrArg Place.session (separate _ here _ there rfl)
  dashes place here other there rest longer same := by
    have ids : place.id = other.id := by
      rw [Place.id, Place.id, same, longer, dashed_assoc]
    have joined : place = other := separate place here other there ids
    rw [← joined] at longer
    exact ne_dashed _ _ longer

theorem session_eq_of_label (unambiguous : template.Unambiguous plays)
    (here : place ∈ template.places plays) (there : other ∈ template.places plays)
    (definition : place.definition = other.definition) (label : place.label = other.label) :
    place.session = other.session ∧ place.owner = other.owner := by
  obtain ⟨play, playing, session, defined, owns⟩ := mem_places_iff.1 here
  obtain ⟨otherPlay, otherPlaying, otherSession, -, otherOwns⟩ := mem_places_iff.1 there
  rw [← definition] at otherOwns
  by_cases owned : place.definition.ownership = .player
  · rw [owners_of_player owned, List.mem_map] at owns otherOwns
    obtain ⟨player, inside, ownedBy⟩ := owns
    obtain ⟨otherPlayer, otherInside, otherOwnedBy⟩ := otherOwns
    have same : player = otherPlayer := by
      simpa [Place.label, ← ownedBy, ← otherOwnedBy] using label
    subst same
    refine ⟨?_, ownedBy.symm.trans otherOwnedBy⟩
    rw [session, otherSession]
    exact unambiguous.players _ defined owned play playing otherPlay otherPlaying player inside
      otherInside
  · rw [ObjectDefinition.owners, if_neg owned, List.mem_singleton] at owns otherOwns
    have spelled : dashed "session" place.session = dashed "session" other.session := by
      simpa [Place.label, owns, otherOwns] using label
    exact ⟨dashed_right_cancel spelled, owns.trans otherOwns.symm⟩

theorem separate_iff (definitions : (template.objects.map ObjectDefinition.id).Nodup) :
    template.Separate plays ↔ template.Unambiguous plays := by
  refine ⟨Template.Separate.unambiguous, fun unambiguous place here other there same => ?_⟩
  rcases dashed_cases same with ⟨id, label⟩ | ⟨rest, longer, label⟩ | ⟨rest, longer, label⟩
  · have definition := definition_eq_of_id definitions here there id
    obtain ⟨session, owner⟩ := session_eq_of_label unambiguous here there definition label
    exact place_eq_of_initial definitions here there session id owner
  · exact absurd label (unambiguous.dashes place here other there rest longer)
  · exact absurd label (unambiguous.dashes other there place here rest longer)

end Places

end Scorekeeper
