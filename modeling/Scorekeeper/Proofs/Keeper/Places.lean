import Scorekeeper.Keeper.Objects
import Scorekeeper.Proofs.Table

set_option autoImplicit false

namespace Scorekeeper

variable {R : Type}

namespace Book

variable {book : Book R} {session : String} {object other : ObjectInstance R}

def definition? (book : Book R) (session definition : String) : Option (ObjectDefinition R) :=
  (book.template? session).bind (·.definition? definition)

def OwnIds (book : Book R) : Prop :=
  ∀ key object, book.objects.get? key = some object → object.id = key

structure Kept (book : Book R) : Prop where
  ownIds : book.OwnIds
  ownSession : ∀ session, ∀ id ∈ book.listed session, ∀ object,
    book.objects.get? id = some object → object.session = session

def Lists (book : Book R) (session : String) (object : ObjectInstance R) : Prop :=
  if book.listed session = [] then object.session = session else object.id ∈ book.listed session

theorem mem_sessionObjects_iff (ownIds : book.OwnIds) :
    object ∈ book.sessionObjects session ↔
      book.objects.get? object.id = some object ∧ book.Lists session object := by
  rw [sessionObjects, Lists]
  cases listed : book.listed session with
  | nil =>
    simp only [List.mem_filter, Table.mem_values_iff, decide_eq_true_eq, if_true]
    constructor
    · rintro ⟨⟨key, found⟩, own⟩
      exact ⟨(ownIds key object found).symm ▸ found, own⟩
    · rintro ⟨found, own⟩
      exact ⟨⟨object.id, found⟩, own⟩
  | cons head rest =>
    rw [if_neg (List.cons_ne_nil head rest)]
    simp only [List.mem_filterMap]
    constructor
    · rintro ⟨id, given, found⟩
      have same := ownIds id object found
      exact ⟨same.symm ▸ found, same.symm ▸ given⟩
    · rintro ⟨found, given⟩
      exact ⟨object.id, given, found⟩

theorem eq_of_id {first later : ObjectInstance R} (ownIds : book.OwnIds)
    (here : first ∈ book.sessionObjects session) (there : later ∈ book.sessionObjects session)
    (same : first.id = later.id) : first = later := by
  have stored := ((mem_sessionObjects_iff ownIds).1 here).1
  rw [same, ((mem_sessionObjects_iff ownIds).1 there).1] at stored
  exact (Option.some.inj stored).symm

theorem kept_iff : book.Kept ↔
    (∀ pair ∈ book.objects.pairs, pair.2.id = pair.1) ∧
    ∀ home ∈ book.sessions.pairs, ∀ id ∈ home.2.objects, ∀ pair ∈ book.objects.pairs,
      pair.1 = id → pair.2.session = home.1 := by
  constructor
  · intro kept
    refine ⟨fun pair member => kept.ownIds _ _ (Table.get?_eq_some_iff.2 member), ?_⟩
    rintro home known _ given pair member rfl
    refine kept.ownSession home.1 pair.1 ?_ pair.2 (Table.get?_eq_some_iff.2 member)
    rw [listed, session?, Table.get?_eq_some_iff.2 known]
    exact given
  · rintro ⟨ids, sessions⟩
    refine ⟨fun key object held => ids _ (Table.get?_eq_some_iff.1 held), ?_⟩
    intro session id given object held
    rw [listed, session?] at given
    cases known : book.sessions.get? session with
    | none => simp [known] at given
    | some found =>
      rw [known] at given
      exact sessions _ (Table.get?_eq_some_iff.1 known) id given _ (Table.get?_eq_some_iff.1 held)
        rfl

instance : Decidable book.Kept :=
  decidable_of_iff _ kept_iff.symm

theorem Kept.session_eq (kept : book.Kept) (found : book.objects.get? object.id = some object)
    (lists : book.Lists session object) : object.session = session := by
  rw [Lists] at lists
  split at lists
  · exact lists
  · exact kept.ownSession session object.id lists object found

theorem lists_congr (id : other.id = object.id) (own : other.session = object.session) :
    book.Lists session other ↔ book.Lists session object := by
  rw [Lists, Lists, id, own]

theorem Kept.lists_home (kept : book.Kept) (member : object ∈ book.sessionObjects session)
    (id : other.id = object.id) (own : other.session = object.session) :
    book.Lists other.session other := by
  obtain ⟨held, lists⟩ := (mem_sessionObjects_iff kept.ownIds).1 member
  rwa [lists_congr id own, own, kept.session_eq held lists]

def listedWith (id : String) (ids : List String) : List String :=
  if ids.isEmpty || ids.contains id then ids else ids ++ [id]

theorem session?_putObject (book : Book R) (object : ObjectInstance R) (session : String) :
    (book.putObject object).session? session =
      (book.session? session).map fun found =>
        if session = object.session then { found with objects := listedWith object.id found.objects }
        else found := by
  simp only [session?, putObject, listObject, listedWith]
  cases found : book.sessions.get? object.session with
  | none =>
    by_cases own : session = object.session
    · simp [own, found]
    · simp [own]
  | some record =>
    by_cases own : session = object.session
    · subst own
      simp only [found, if_true, Option.map_some]
      split <;> simp [found]
    · simp only [own, if_false, Option.map_id']
      split <;> simp [own]

theorem listed_putObject (book : Book R) (object : ObjectInstance R) (session : String) :
    (book.putObject object).listed session =
      if session = object.session then listedWith object.id (book.listed session)
      else book.listed session := by
  rw [listed, listed, session?_putObject]
  cases book.session? session with
  | none => simp [listedWith]
  | some found => by_cases own : session = object.session <;> simp [own]

@[simp] theorem template?_putObject (book : Book R) (object : ObjectInstance R) (session : String) :
    (book.putObject object).template? session = book.template? session := by
  rw [template?, template?, session?_putObject]
  cases book.session? session with
  | none => rfl
  | some found => by_cases own : session = object.session <;> simp [own, putObject]

@[simp] theorem definition?_putObject (book : Book R) (object : ObjectInstance R)
    (session definition : String) :
    (book.putObject object).definition? session definition =
      book.definition? session definition := by
  rw [definition?, template?_putObject, definition?]

theorem lists_putObject_of_ne (different : other.id ≠ object.id) :
    (book.putObject object).Lists session other ↔ book.Lists session other := by
  rw [Lists, Lists, listed_putObject]
  by_cases own : session = object.session
  · rw [if_pos own, listedWith]
    cases book.listed session <;> grind
  · rw [if_neg own]

theorem lists_putObject (id : other.id = object.id) (own : other.session = object.session) :
    (book.putObject object).Lists session other ↔
      session = object.session ∨ book.Lists session other := by
  rw [Lists, Lists, listed_putObject]
  by_cases home : session = object.session
  · rw [if_pos home, listedWith]
    cases book.listed session <;> grind
  · rw [if_neg home]
    grind

theorem putObject_of_lists (lists : book.Lists object.session object) :
    book.putObject object = { book with objects := book.objects.put object.id object } := by
  have same : listObject book.sessions object = book.sessions := by
    rw [Lists, listed, session?] at lists
    rw [listObject]
    cases found : book.sessions.get? object.session with
    | none => rfl
    | some record =>
      rw [found] at lists
      simp only [Option.map_some, Option.getD_some] at lists
      by_cases empty : record.objects = [] <;> simp_all
  rw [putObject, same]

theorem putObjects_of_lists {objects : List (ObjectInstance R)}
    (lists : ∀ object ∈ objects, book.Lists object.session object) :
    book.putObjects objects =
      { book with
        objects := (objects.map fun object => (object.id, object)).foldl
          (fun table pair => table.put pair.1 pair.2) book.objects } := by
  induction objects generalizing book with
  | nil => rfl
  | cons object rest ih =>
    rw [putObjects, List.foldl_cons, ← putObjects,
      putObject_of_lists (lists object List.mem_cons_self)]
    exact ih fun other member => lists other (List.mem_cons_of_mem object member)

section Stored

variable {objects : List (ObjectInstance R)}

theorem objects_putObjects (book : Book R) (objects : List (ObjectInstance R)) :
    (book.putObjects objects).objects =
      (objects.map fun object => (object.id, object)).foldl
        (fun table pair => table.put pair.1 pair.2) book.objects := by
  induction objects generalizing book with
  | nil => rfl
  | cons object rest ih => exact ih (book.putObject object)

theorem get?_putObjects (book : Book R) (objects : List (ObjectInstance R)) (id : String) :
    (book.putObjects objects).objects.get? id = book.objects.get? id ∨
      ∃ object ∈ objects, object.id = id ∧
        (book.putObjects objects).objects.get? id = some object := by
  rw [objects_putObjects]
  rcases Table.get?_foldl_put book.objects (objects.map fun object => (object.id, object)) id with
    kept | ⟨object, member, found⟩
  · exact .inl kept
  · obtain ⟨_, given, same⟩ := List.mem_map.1 member
    cases same
    exact .inr ⟨_, given, rfl, found⟩

theorem get?_putObjects_of_mem (book : Book R) {object : ObjectInstance R}
    (given : object ∈ objects) :
    ∃ other ∈ objects, other.id = object.id ∧
      (book.putObjects objects).objects.get? object.id = some other := by
  rw [objects_putObjects]
  have stored : object.id ∈ (objects.map fun object => (object.id, object)).map Prod.fst := by
    rw [List.map_map]
    exact List.mem_map_of_mem given
  obtain ⟨other, member, found⟩ := Table.get?_foldl_put_of_mem stored
  obtain ⟨_, alsoGiven, same⟩ := List.mem_map.1 member
  obtain ⟨id, rfl⟩ := Prod.mk.inj same
  exact ⟨_, alsoGiven, id, found⟩

theorem listedWith_eq_nil_iff {id : String} {ids : List String} :
    listedWith id ids = [] ↔ ids = [] := by
  rw [listedWith]
  cases ids <;> grind

theorem mem_listedWith_iff {id other : String} {ids : List String} (filled : ids ≠ []) :
    other ∈ listedWith id ids ↔ other ∈ ids ∨ other = id := by
  rw [listedWith]
  cases ids <;> grind

theorem listed_putObjects_eq_nil_iff (book : Book R) (objects : List (ObjectInstance R))
    (session : String) :
    (book.putObjects objects).listed session = [] ↔ book.listed session = [] := by
  induction objects generalizing book with
  | nil => rfl
  | cons object rest ih =>
    have step : (book.putObject object).listed session = [] ↔ book.listed session = [] := by
      rw [listed_putObject]
      split
      · exact listedWith_eq_nil_iff
      · rfl
    exact (ih (book.putObject object)).trans step

theorem mem_listed_putObjects_iff {id : String} (filled : book.listed session ≠ []) :
    id ∈ (book.putObjects objects).listed session ↔
      id ∈ book.listed session ∨ ∃ object ∈ objects, object.session = session ∧ object.id = id := by
  induction objects generalizing book with
  | nil => simp [putObjects]
  | cons object rest ih =>
    have step : id ∈ (book.putObject object).listed session ↔
        id ∈ book.listed session ∨ object.session = session ∧ object.id = id := by
      rw [listed_putObject]
      by_cases own : session = object.session
      · rw [if_pos own, mem_listedWith_iff filled]
        simp [own, eq_comm]
      · rw [if_neg own]
        simp [Ne.symm own]
    have still : (book.putObject object).listed session ≠ [] := by
      rw [listed_putObject]
      split
      · exact listedWith_eq_nil_iff.not.2 filled
      · exact filled
    rw [putObjects, List.foldl_cons, ← putObjects, ih still, step, or_assoc]
    simp

theorem mem_sessionObjects_of_lists {object : ObjectInstance R}
    (stored : book.objects.get? object.id = some object) (lists : book.Lists session object) :
    object ∈ book.sessionObjects session := by
  rw [Lists] at lists
  rw [sessionObjects]
  cases listed : book.listed session with
  | nil =>
    rw [if_pos listed] at lists
    exact List.mem_filter.2 ⟨Table.mem_values_iff.2 ⟨_, stored⟩, by simpa using lists⟩
  | cons head rest =>
    rw [if_neg (by simp [listed]), listed] at lists
    exact List.mem_filterMap.2 ⟨object.id, lists, stored⟩

theorem exists_stored_of_mem {object : ObjectInstance R}
    (member : object ∈ book.sessionObjects session) :
    ∃ key, book.objects.get? key = some object := by
  rw [sessionObjects] at member
  cases listed : book.listed session with
  | nil =>
    simp only [listed, List.mem_filter] at member
    exact Table.mem_values_iff.1 member.1
  | cons head rest =>
    simp only [listed, List.mem_filterMap] at member
    obtain ⟨id, -, found⟩ := member
    exact ⟨id, found⟩

end Stored

end Book

end Scorekeeper
