import Scorekeeper.Proofs.Keeper.Places
import Scorekeeper.Proofs.Object.Place
import Scorekeeper.Scalar.Double

set_option autoImplicit false

namespace Scorekeeper

variable {R : Type}

namespace Book

variable {book : Book R}

structure Fresh (book : Book R) (template : Template R) (plays : List Play) : Prop where
  unstored : ∀ play ∈ plays, ∀ object ∈ book.objects.values, object.session ≠ play.session
  listed : ∀ play ∈ plays, ∀ id ∈ book.listed play.session,
    ∃ place ∈ template.places plays, place.session = play.session ∧ place.id = id

section Fresh

variable {template : Template R} {plays : List Play} {play : Play} {place : Place R} {now : R}

theorem mem_initial_iff {object : ObjectInstance R} : object ∈ template.initial plays now ↔
    ∃ place ∈ template.places plays, place.initial now = object := by
  rw [Template.initial_eq, List.mem_map]

theorem Fresh.stored (fresh : book.Fresh template plays) (playing : play ∈ plays) {key : String}
    {object : ObjectInstance R}
    (found : (book.putObjects (template.initial plays now)).objects.get? key = some object)
    (own : object.session = play.session) :
    ∃ place ∈ template.places plays, place.id = key ∧ place.initial now = object := by
  rcases get?_putObjects book (template.initial plays now) key with kept | ⟨other, given, id, same⟩
  · rw [kept] at found
    exact absurd own (fresh.unstored play playing object (Table.mem_values_iff.2 ⟨key, found⟩))
  · rw [found] at same
    cases same
    obtain ⟨place, here, rfl⟩ := mem_initial_iff.1 given
    exact ⟨place, here, id, rfl⟩

theorem get?_of_separate (separate : template.Separate plays)
    (here : place ∈ template.places plays) :
    (book.putObjects (template.initial plays now)).objects.get? place.id =
      some (place.initial now) := by
  have given : place.initial now ∈ template.initial plays now :=
    mem_initial_iff.2 ⟨place, here, rfl⟩
  obtain ⟨_, alsoGiven, id, found⟩ := get?_putObjects_of_mem book given
  obtain ⟨other, there, rfl⟩ := mem_initial_iff.1 alsoGiven
  rw [← separate other there place here id]
  rwa [← separate other there place here id] at found

theorem lists_initial (here : place ∈ template.places plays) :
    (book.putObjects (template.initial plays now)).Lists place.session (place.initial now) := by
  rw [Lists]
  split
  · rfl
  · rename_i filled
    refine (mem_listed_putObjects_iff ((listed_putObjects_eq_nil_iff _ _ _).not.1 filled)).2
      (.inr ?_)
    exact ⟨_, mem_initial_iff.2 ⟨place, here, rfl⟩, rfl, rfl⟩

theorem Fresh.initial_of_mem (fresh : book.Fresh template plays)
    (separate : template.Separate plays)
    (playing : play ∈ plays) {object : ObjectInstance R}
    (member : object ∈
      (book.putObjects (template.initial plays now)).sessionObjects play.session) :
    ∃ place ∈ template.places plays, place.session = play.session ∧ place.initial now = object := by
  -- A session that lists nothing has all instances of its own, else only what it lists.
  rw [sessionObjects] at member
  cases listed : (book.putObjects (template.initial plays now)).listed play.session with
  | nil =>
    simp only [listed, List.mem_filter, Table.mem_values_iff, decide_eq_true_eq] at member
    obtain ⟨⟨key, found⟩, own⟩ := member
    obtain ⟨place, here, -, rfl⟩ := fresh.stored playing found own
    exact ⟨place, here, own, rfl⟩
  | cons head rest =>
    simp only [listed, List.mem_filterMap] at member
    rw [← listed] at member
    obtain ⟨id, lists, found⟩ := member
    have filled : book.listed play.session ≠ [] := by
      rw [← (listed_putObjects_eq_nil_iff book (template.initial plays now) play.session).ne,
        listed]
      simp
    have known : ∃ place ∈ template.places plays, place.session = play.session ∧ place.id = id := by
      rcases (mem_listed_putObjects_iff filled).1 lists with before | ⟨_, given, own, rfl⟩
      · exact fresh.listed play playing id before
      · obtain ⟨place, here, rfl⟩ := mem_initial_iff.1 given
        exact ⟨place, here, own, rfl⟩
    obtain ⟨place, here, own, rfl⟩ := known
    rw [get?_of_separate separate here] at found
    exact ⟨place, here, own, Option.some.inj found⟩

theorem Fresh.instance?_initial (fresh : book.Fresh template plays)
    (definitions : (template.objects.map ObjectDefinition.id).Nodup)
    (separate : template.Separate plays) (here : place ∈ template.places plays) :
    (book.putObjects (template.initial plays now)).instance? place.session place.definition.id
      place.owner = some (place.initial now) := by
  obtain ⟨play, playing, session, -, -⟩ := mem_places_iff.1 here
  have member : place.initial now ∈
      (book.putObjects (template.initial plays now)).sessionObjects place.session :=
    mem_sessionObjects_of_lists (get?_of_separate separate here) (lists_initial here)
  have kind : ((place.initial now).definition = place.definition.id &&
      (place.initial now).player = place.owner) = true := by
    simp [Place.initial]
  rw [instance?]
  cases found : List.find? _ _ with
  | none => exact absurd kind (List.find?_eq_none.1 found _ member)
  | some object =>
    have holds := List.find?_some found
    have listed := List.mem_of_find?_eq_some found
    rw [session] at listed
    obtain ⟨other, there, otherSession, rfl⟩ := fresh.initial_of_mem separate playing listed
    simp only [Bool.and_eq_true, decide_eq_true_eq] at holds
    rw [place_eq_of_initial definitions there here (otherSession.trans session.symm) holds.1
      holds.2]

def Complete (book : Book R) (template : Template R) (plays : List Play) : Prop :=
  ∀ play ∈ plays, ∀ definition ∈ template.objects, ∀ owner ∈ definition.owners play.players,
    ∃ object, book.instance? play.session definition.id owner = some object ∧
      object.session = play.session ∧ object.value = definition.initialValue

theorem Fresh.complete (fresh : book.Fresh template plays)
    (definitions : (template.objects.map ObjectDefinition.id).Nodup)
    (separate : template.Separate plays) :
    (book.putObjects (template.initial plays now)).Complete template plays := by
  intro play playing definition defined owner owns
  have here : ⟨play.session, definition, owner⟩ ∈ template.places plays :=
    mem_places_iff.2 ⟨play, playing, rfl, defined, owns⟩
  exact ⟨_, fresh.instance?_initial definitions separate here, rfl, rfl⟩

theorem Fresh.separate_of_complete (fresh : book.Fresh template plays)
    (definitions : (template.objects.map ObjectDefinition.id).Nodup)
    (complete : (book.putObjects (template.initial plays now)).Complete template plays) :
    template.Separate plays := by
  have stored : ∀ place ∈ template.places plays,
      (book.putObjects (template.initial plays now)).objects.get? place.id =
        some (place.initial now) := by
    intro place here
    obtain ⟨play, playing, session, defined, owns⟩ := mem_places_iff.1 here
    obtain ⟨object, found, own, -⟩ := complete play playing _ defined _ owns
    obtain ⟨key, held⟩ := exists_stored_of_mem (List.mem_of_find?_eq_some found)
    obtain ⟨other, there, rfl, rfl⟩ := fresh.stored playing held own
    have holds := List.find?_some found
    simp only [Bool.and_eq_true, decide_eq_true_eq] at holds
    have same : other = place :=
      place_eq_of_initial definitions there here (own.trans session.symm) holds.1 holds.2
    rwa [same] at held
  -- Under one id the book has one instance, from which the place can be told.
  intro place here other there same
  have both := stored other there
  rw [← same, stored place here] at both
  have equal := Option.some.inj both
  exact place_eq_of_initial definitions here there (congrArg ObjectInstance.session equal)
    (congrArg ObjectInstance.definition equal) (congrArg ObjectInstance.player equal)

theorem initial_unambiguous_iff (definitions : (template.objects.map ObjectDefinition.id).Nodup)
    (sessions : (plays.map Play.session).Nodup) (players : ∀ play ∈ plays, play.players.Nodup)
    (fresh : book.Fresh template plays) :
    (((template.initial plays now).map ObjectInstance.id).Nodup ↔ template.Unambiguous plays) ∧
      ((book.putObjects (template.initial plays now)).Complete template plays ↔
        template.Unambiguous plays) := by
  have separate : template.Separate plays ↔ template.Unambiguous plays := separate_iff definitions
  exact ⟨(nodup_ids_iff definitions sessions players now).trans separate,
    (Iff.intro (fresh.separate_of_complete definitions) (fresh.complete definitions)).trans
      separate⟩

end Fresh

end Book

def tableDefinition (id : String) (ownership : Ownership) : ObjectDefinition Float :=
  { id, name := id, kind := .number, ownership? := some ownership, window? := none
    calculation := none, scoreImpact := none, defaultValue := .null, least := none, most := none
    options := none, setKind := none, setElements := [], description := none }

def tableTemplate : Template Float :=
  { id := "t", name := "T"
    objects := [tableDefinition "coins" .player, tableDefinition "deck" .shared]
    rules := [], mechanics := [], version := "1" }

def tableSession (play : Play) : Session :=
  { id := play.session, title := "", players := play.players, rounds := [], rules := []
    objects := [], template := some "t", settings := {} }

def tableBook (plays : List Play) : Book Float :=
  { Book.empty with
    sessions := Table.ofList (plays.map fun play => (play.session, tableSession play))
    templates := Table.ofList [("t", tableTemplate)] }

theorem initial_unambiguous_iff_tables :
    let plays : List Play := [⟨"s1", ["p1", "p2"]⟩, ⟨"s2", ["p3"]⟩]
    (tableTemplate.objects.map ObjectDefinition.id).Nodup ∧ (plays.map Play.session).Nodup ∧
      (∀ play ∈ plays, play.players.Nodup) ∧ (tableBook plays).Fresh tableTemplate plays ∧
      (((tableTemplate.initial plays 0).map ObjectInstance.id).Nodup ↔
        tableTemplate.Unambiguous plays) ∧
      (((tableBook plays).putObjects (tableTemplate.initial plays 0)).Complete tableTemplate plays ↔
        tableTemplate.Unambiguous plays) := by
  intro plays
  have definitions : (tableTemplate.objects.map ObjectDefinition.id).Nodup := by decide
  have sessions : (plays.map Play.session).Nodup := by decide
  have players : ∀ play ∈ plays, play.players.Nodup := by decide
  have fresh : (tableBook plays).Fresh tableTemplate plays := by
    have unlisted : ∀ play ∈ plays, (tableBook plays).listed play.session = [] := by decide
    refine ⟨fun _ _ _ stored => absurd stored List.not_mem_nil, fun play playing id lists => ?_⟩
    rw [unlisted play playing] at lists
    cases lists
  exact ⟨definitions, sessions, players, fresh,
    Book.initial_unambiguous_iff definitions sessions players fresh⟩

theorem initial_of_shared_player :
    let plays : List Play := [⟨"s1", ["p1"]⟩, ⟨"s2", ["p1"]⟩]
    (plays.map Play.session).Nodup ∧ (∀ play ∈ plays, play.players.Nodup) ∧
      ¬ ((tableTemplate.initial plays 0).map ObjectInstance.id).Nodup ∧
      (((tableBook plays).putObjects (tableTemplate.initial plays 0)).instance? "s1" "coins"
        (some "p1")).isNone = true := by
  decide

end Scorekeeper
