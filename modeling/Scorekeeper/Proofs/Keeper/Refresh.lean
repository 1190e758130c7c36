import Scorekeeper.Proofs.Keeper.Validity
import Scorekeeper.Proofs.Object.Frame

set_option autoImplicit false

namespace Scorekeeper

variable {R : Type}

namespace Book

variable {book : Book R} {session : String} {objects : List (ObjectInstance R)}

theorem exists_putObjects (book : Book R) (objects : List (ObjectInstance R)) :
    ∃ stored sessions, book.putObjects objects = { book with objects := stored, sessions } := by
  induction objects generalizing book with
  | nil => exact ⟨_, _, rfl⟩
  | cons object rest ih =>
    obtain ⟨stored, sessions, same⟩ := ih (book.putObject object)
    exact ⟨stored, sessions, same⟩

theorem session?_putObjects_of_lists (lists : ∀ object ∈ objects, book.Lists session object) :
    (book.putObjects objects).session? session = book.session? session := by
  induction objects generalizing book with
  | nil => rfl
  | cons object rest ih =>
    have first : (book.putObject object).session? session = book.session? session := by
      have place := lists object List.mem_cons_self
      rw [Lists, listed] at place
      rw [session?_putObject]
      cases found : book.session? session with
      | none => rfl
      | some record =>
        rw [found, Option.map_some, Option.getD_some] at place
        have same : listedWith object.id record.objects = record.objects := by
          rw [listedWith, if_pos]
          cases ids : record.objects with
          | nil => rfl
          | cons head others =>
            rw [ids, if_neg (List.cons_ne_nil head others)] at place
            simpa using place
        simp only [Option.map_some, same, ite_self]
    have same : (book.putObject object).listed session = book.listed session := by
      rw [listed, listed, first]
    refine (ih fun other member => ?_).trans first
    rw [Lists, same]
    exact lists other (List.mem_cons_of_mem object member)

variable [Scalar R]

def refreshed (book : Book R) (session : String) (round : Option String) (now : R) : Book R :=
  book.putObjects (book.recomputed session round now)

structure Computes (book : Book R) (session : String) (round : Option String)
    (object : ObjectInstance R) (value : Held R) : Prop where
  member : object ∈ book.sessionObjects session
  owner : ∃ found, book.session? session = some found ∧
    object.player ∈ none :: found.players.map some
  value : ∃ definition, book.definition? session object.definition = some definition ∧
    (present definition.calculation).isSome = true ∧
    (book.home session round object).isLiveObject definition object = true ∧
    value = (book.home session round object).computed
      (book.home session round object).objectTotals definition object

variable {round : Option String} {now : R} {object fresh : ObjectInstance R} {value other : Held R}

theorem Computes.unique (computes : book.Computes session round object value)
    (also : book.Computes session round object other) : value = other := by
  obtain ⟨definition, defined, -, -, rfl⟩ := computes.value
  obtain ⟨_, definedToo, -, -, rfl⟩ := also.value
  cases defined.symm.trans definedToo
  rfl

def Recomputes (book : Book R) (session : String) (round : Option String)
    (object fresh : ObjectInstance R) : Prop :=
  (∃ value, book.Computes session round object value ∧ object.computed.same value = false ∧
    fresh.computed = value) ∨
  (∀ value, book.Computes session round object value → object.computed.same value = true) ∧
    fresh.computed = object.computed

theorem recomputes_of_mem_recomputed (ownIds : book.OwnIds)
    (member : fresh ∈ book.recomputed session round now) :
    ∃ object, book.objects.get? fresh.id = some object ∧ fresh.uncomputed = object.uncomputed ∧
      book.Recomputes session round object fresh := by
  obtain ⟨updated, reported, merged⟩ := List.mem_filterMap.1 member
  obtain ⟨found, known, placed, here, evaluated⟩ := mem_updated_iff.1 reported
  obtain ⟨definition, defined, evaluated⟩ := Option.bind_eq_some_iff.1 evaluated
  obtain ⟨listed, owner, -⟩ := of_mem_placedObjects here
  have held := ((mem_sessionObjects_iff ownIds).1 listed).1
  have computed := Scope.computed_updated? evaluated
  rw [Keeper.merged?, (Scope.updated?_eq_some evaluated).1, held] at merged
  simp only [Option.bind_eq_bind, Option.bind_some] at merged
  split at merged
  · cases merged
  next differs =>
    cases merged
    refine ⟨placed.object, held, rfl, ?_⟩
    split at computed
    next new =>
      simp only [Scope.renews, Bool.and_eq_true] at new
      rw [computed] at differs
      exact .inl ⟨_, ⟨listed, ⟨found, known, owner⟩, definition, defined, new.1.1, new.1.2, rfl⟩,
        by simpa using differs, computed⟩
    next old =>
      refine .inr ⟨fun value computes => ?_, computed⟩
      obtain ⟨_, definedToo, calculated, live, rfl⟩ := computes.value
      cases defined.symm.trans definedToo
      simpa [Scope.renews, calculated, live] using old

theorem exists_mem_recomputed (ownIds : book.OwnIds)
    (computes : book.Computes session round object value)
    (differs : object.computed.same value = false) :
    ∃ fresh ∈ book.recomputed session round now, fresh.id = object.id := by
  obtain ⟨member, ⟨found, known, owner⟩, definition, defined, calculated, live, rfl⟩ := computes
  obtain ⟨placed, here, same⟩ := exists_mem_placedObjects_of_ownIds ownIds round member owner
  have stored := ((mem_sessionObjects_iff ownIds).1 member).1
  have new : (book.home session round object).renews (book.home session round object).objectTotals
      definition object = true := by
    simp [Scope.renews, calculated, live, differs]
  obtain ⟨updated, evaluated⟩ := Option.isSome_iff_exists.1
    (Scope.updated?_of_renews now new)
  have reported : updated ∈ (evaluateObjects book session round now).updated := by
    refine mem_updated_iff.2 ⟨found, known, placed, here, ?_⟩
    rw [same]
    exact Option.bind_eq_some_iff.2 ⟨definition, defined, evaluated⟩
  have computed := Scope.computed_updated? evaluated
  rw [if_pos new] at computed
  refine ⟨{ object with computed := updated.computed, lastComputedAt := updated.lastComputedAt },
    List.mem_filterMap.2 ⟨updated, reported, ?_⟩, rfl⟩
  rw [Keeper.merged?, (Scope.updated?_eq_some evaluated).1, stored]
  simp [computed, differs]

theorem recomputes_refreshed (ownIds : book.OwnIds) (session : String) (round : Option String)
    (now : R) {key : String} (held : book.objects.get? key = some object) :
    ∃ fresh, (book.refreshed session round now).objects.get? key = some fresh ∧
      fresh.uncomputed = object.uncomputed ∧ book.Recomputes session round object fresh := by
  obtain rfl := ownIds key object held
  by_cases renewed : ∃ fresh ∈ book.recomputed session round now, fresh.id = object.id
  · obtain ⟨_, given, own⟩ := renewed
    obtain ⟨fresh, member, id, stored⟩ := book.get?_putObjects_of_mem given
    rw [own] at id stored
    obtain ⟨old, known, same, recomputes⟩ := recomputes_of_mem_recomputed ownIds member
    rw [id, held, Option.some.injEq] at known
    subst known
    exact ⟨fresh, stored, same, recomputes⟩
  · rcases book.get?_putObjects (book.recomputed session round now) object.id with
      kept | ⟨fresh, member, own, -⟩
    · refine ⟨object, kept.trans held, rfl, .inr ⟨fun value computes => ?_, rfl⟩⟩
      by_contra differs
      exact renewed (exists_mem_recomputed ownIds computes (Bool.eq_false_iff.2 differs))
    · exact absurd ⟨fresh, member, own⟩ renewed

theorem computed_eq_of_undefined (ownIds : book.OwnIds) {key : String}
    (held : book.objects.get? key = some object)
    (stored : (book.refreshed session round now).objects.get? key = some fresh)
    (undefined : book.definition? session object.definition = none) :
    fresh.computed = object.computed := by
  obtain ⟨_, found, -, recomputes⟩ := recomputes_refreshed ownIds session round now held
  cases found.symm.trans stored
  rcases recomputes with ⟨_, computes, -⟩ | ⟨-, kept⟩
  · obtain ⟨definition, defined, -⟩ := computes.value
    cases undefined.symm.trans defined
  · exact kept

theorem keys_refreshed (ownIds : book.OwnIds) (session : String) (round : Option String) (now : R) :
    (book.refreshed session round now).objects.keys = book.objects.keys := by
  rw [refreshed, objects_putObjects]
  refine Table.keys_foldl_put fun pair given => ?_
  obtain ⟨fresh, member, rfl⟩ := List.mem_map.1 given
  obtain ⟨object, held, -⟩ := recomputes_of_mem_recomputed ownIds member
  exact Table.mem_keys_iff.2 ⟨object, held⟩

theorem session?_refreshed (ownIds : book.OwnIds) (session : String) (round : Option String)
    (now : R) :
    (book.refreshed session round now).session? session = book.session? session := by
  refine session?_putObjects_of_lists fun fresh member => ?_
  obtain ⟨object, here, refreshed⟩ := refreshed_of_mem_recomputed ownIds member
  obtain ⟨id, own, -⟩ := refreshed.same
  exact (lists_congr id own).2 ((mem_sessionObjects_iff ownIds).1 here).2

/-- A book and what may come of it while objects are refreshed: nothing but other computed values,
as far as a session is concerned. -/
structure Revalued (session : String) (before after : Book R) : Prop where
  session? : after.session? session = before.session? session
  templates : after.templates = before.templates
  rounds : after.rounds = before.rounds
  categories : after.categories = before.categories
  entries : after.entries = before.entries
  keys : after.objects.keys = before.objects.keys
  records : ∀ key, (after.objects.get? key).map ObjectInstance.uncomputed =
    (before.objects.get? key).map ObjectInstance.uncomputed

theorem revalued_refreshed (ownIds : book.OwnIds) (session : String) (round : Option String)
    (now : R) :
    Revalued session book (book.refreshed session round now) := by
  have keys := keys_refreshed ownIds session round now
  have known := session?_refreshed ownIds session round now
  have records (key : String) :
      ((book.refreshed session round now).objects.get? key).map ObjectInstance.uncomputed =
        (book.objects.get? key).map ObjectInstance.uncomputed := by
    cases held : book.objects.get? key with
    | none =>
      rw [Table.get?_eq_none_iff, ← keys, ← Table.get?_eq_none_iff] at held
      rw [held, Option.map_none]
    | some object =>
      obtain ⟨fresh, stored, same, -⟩ := recomputes_refreshed ownIds session round now held
      rw [stored, Option.map_some, same, Option.map_some]
  obtain ⟨objects, sessions, shape⟩ :=
    book.exists_putObjects (book.recomputed session round now)
  rw [refreshed] at keys known records ⊢
  rw [shape] at keys known records ⊢
  exact ⟨known, rfl, rfl, rfl, rfl, keys, records⟩

theorem map_computed_refreshed (ownIds : book.OwnIds) {key : String}
    (kept : ∀ object fresh, book.objects.get? key = some object →
      (book.refreshed session round now).objects.get? key = some fresh →
      fresh.computed = object.computed) :
    ((book.refreshed session round now).objects.get? key).map ObjectInstance.computed =
      (book.objects.get? key).map ObjectInstance.computed := by
  have records := (revalued_refreshed ownIds session round now).records key
  rcases map_uncomputed_cases records with ⟨here, there⟩ | ⟨fresh, object, stored, held, -⟩
  · rw [here, there, Option.map_none]
  · rw [stored, held, Option.map_some, Option.map_some, kept object fresh held stored]

namespace Revalued

omit [Scalar R]

variable {before after : Book R}

theorem refl : Revalued session book book :=
  ⟨rfl, rfl, rfl, rfl, rfl, rfl, fun _ => rfl⟩

theorem trans {middle : Book R} (first : Revalued session before middle)
    (second : Revalued session middle after) : Revalued session before after where
  session? := second.session?.trans first.session?
  templates := second.templates.trans first.templates
  rounds := second.rounds.trans first.rounds
  categories := second.categories.trans first.categories
  entries := second.entries.trans first.entries
  keys := second.keys.trans first.keys
  records key := (second.records key).trans (first.records key)

theorem ownIds (revalued : Revalued session before after) (ownIds : before.OwnIds) :
    after.OwnIds := by
  intro key fresh stored
  have same := revalued.records key
  rw [stored] at same
  rcases map_uncomputed_cases same with ⟨absent, -⟩ | ⟨_, object, ⟨⟩, held, alike⟩
  · cases absent
  · exact (ObjectInstance.same_of_uncomputed alike).1.trans (ownIds key object held)

theorem template? (revalued : Revalued session before after) :
    after.template? session = before.template? session := by
  rw [Book.template?, Book.template?, revalued.session?, revalued.templates]

theorem sessionObjects (revalued : Revalued session before after) :
    (after.sessionObjects session).map ObjectInstance.uncomputed =
      (before.sessionObjects session).map ObjectInstance.uncomputed := by
  have own (objects : List (ObjectInstance R)) :
      (objects.filter (·.session = session)).map ObjectInstance.uncomputed =
        (objects.map ObjectInstance.uncomputed).filter (·.session = session) := by
    rw [List.filter_map]
    rfl
  have listed : after.listed session = before.listed session := by
    rw [Book.listed, Book.listed, revalued.session?]
  rw [Book.sessionObjects, Book.sessionObjects, listed]
  cases before.listed session with
  | nil =>
    dsimp only
    rw [own, own, Table.map_values_congr revalued.keys revalued.records]
  | cons head rest =>
    dsimp only
    rw [List.map_filterMap, List.map_filterMap]
    exact congrArg (List.filterMap · (head :: rest)) (funext revalued.records)

theorem alike (revalued : Revalued session before after) : after.AlikeIn session before :=
  ⟨revalued.template?, by rw [revalued.session?], revalued.rounds, revalued.sessionObjects⟩

end Revalued

end Book

end Scorekeeper
