import Scorekeeper.Proofs.Keeper.Change

set_option autoImplicit false

namespace Scorekeeper

variable {R : Type} [Scalar R]

namespace Book

variable {book : Book R} {session : String} {object other fresh : ObjectInstance R} {value : Value R}

def Fits (book : Book R) (session definition : String) (value : Value R) : Prop :=
  ∀ found, book.definition? session definition = some found → found.objection? value = none

def Valid (book : Book R) : Prop :=
  ∀ session, ∀ object ∈ book.sessionObjects session,
    book.Fits session object.definition object.value

instance (definition : String) : Decidable (book.Fits session definition value) :=
  inferInstanceAs (Decidable (∀ found ∈ book.definition? session definition,
    found.objection? value = none))

theorem valid_iff_known : book.Valid ↔
    ∀ session ∈ book.sessions.keys, ∀ object ∈ book.sessionObjects session,
      book.Fits session object.definition object.value := by
  refine ⟨fun valid session _ => valid session, fun known session object here found defined => ?_⟩
  refine known session (Table.mem_keys_iff.2 ?_) object here found defined
  cases stored : book.sessions.get? session with
  -- A session that is not known has no definitions.
  | none => simp [definition?, template?, session?, stored] at defined
  | some record => exact ⟨record, rfl⟩

instance : Decidable book.Valid :=
  decidable_of_iff _ valid_iff_known.symm

/-- Whether a value fits in every session that has an instance once it is stored. -/
def Admits (book : Book R) (object : ObjectInstance R) (value : Value R) : Prop :=
  ∀ session, session = object.session ∨ book.Lists session object →
    book.Fits session object.definition value

theorem fits_putObject {definition : String} :
    (book.putObject fresh).Fits session definition value ↔ book.Fits session definition value := by
  simp only [Fits, definition?_putObject]

omit [Scalar R] in
theorem OwnIds.putObject (ownIds : book.OwnIds) (fresh : ObjectInstance R) :
    (book.putObject fresh).OwnIds := by
  intro key object held
  rw [Book.putObject, Table.get?_put] at held
  split at held
  next same =>
    cases held
    exact same.symm
  · exact ownIds key object held

omit [Scalar R] in
theorem mem_sessionObjects_putObject_iff (ownIds : book.OwnIds) :
    other ∈ (book.putObject fresh).sessionObjects session ↔
      other = fresh ∧ (session = fresh.session ∨ book.Lists session fresh) ∨
      other.id ≠ fresh.id ∧ other ∈ book.sessionObjects session := by
  rw [mem_sessionObjects_iff (ownIds.putObject fresh), mem_sessionObjects_iff ownIds]
  have held : (book.putObject fresh).objects.get? other.id =
      if other.id = fresh.id then some fresh else book.objects.get? other.id :=
    Table.get?_put ..
  rw [held]
  by_cases same : other.id = fresh.id
  · rw [if_pos same, Option.some.injEq]
    constructor
    · rintro ⟨rfl, lists⟩
      exact .inl ⟨rfl, (lists_putObject rfl rfl).1 lists⟩
    · rintro (⟨rfl, lists⟩ | ⟨different, -⟩)
      · exact ⟨rfl, (lists_putObject rfl rfl).2 lists⟩
      · exact absurd same different
  · rw [if_neg same, lists_putObject_of_ne same]
    constructor
    · exact fun here => .inr ⟨same, here⟩
    · rintro (⟨rfl, -⟩ | ⟨-, here⟩)
      · exact absurd rfl same
      · exact here

theorem valid_putObject_iff_others (ownIds : book.OwnIds) :
    (book.putObject fresh).Valid ↔ book.Admits fresh fresh.value ∧
      ∀ session, ∀ other ∈ book.sessionObjects session, other.id ≠ fresh.id →
        book.Fits session other.definition other.value := by
  simp only [Valid, mem_sessionObjects_putObject_iff ownIds, fits_putObject]
  constructor
  · intro valid
    exact ⟨fun session has => valid session fresh (.inl ⟨rfl, has⟩),
      fun session other here different => valid session other (.inr ⟨different, here⟩)⟩
  · rintro ⟨admitted, others⟩ session other (⟨rfl, has⟩ | ⟨different, here⟩)
    · exact admitted session has
    · exact others session other here different

theorem Valid.putObject_iff (valid : book.Valid) (ownIds : book.OwnIds) :
    (book.putObject fresh).Valid ↔ book.Admits fresh fresh.value := by
  rw [valid_putObject_iff_others ownIds]
  exact and_iff_left fun session other here _ => valid session other here

-- Whether an instance is stored already, at most with something else computed.
def Keeps (book : Book R) (fresh : ObjectInstance R) : Prop :=
  ∃ object, book.objects.get? fresh.id = some object ∧ fresh.session = object.session ∧
    fresh.definition = object.definition ∧ fresh.value = object.value

theorem Keeps.valid_putObject_iff (keeps : book.Keeps fresh) (ownIds : book.OwnIds) :
    (book.putObject fresh).Valid ↔ book.Valid ∧ book.Admits fresh fresh.value := by
  rw [valid_putObject_iff_others ownIds]
  obtain ⟨object, held, own, definition, value⟩ := keeps
  constructor
  · rintro ⟨admitted, others⟩
    refine ⟨fun session other here => ?_, admitted⟩
    by_cases same : other.id = fresh.id
    · obtain ⟨known, lists⟩ := (mem_sessionObjects_iff ownIds).1 here
      rw [same, held, Option.some.injEq] at known
      subst known
      rw [← definition, ← value]
      exact admitted session (.inr ((lists_congr same.symm own).2 lists))
    · exact others session other here same
  · rintro ⟨valid, admitted⟩
    exact ⟨admitted, fun session other here _ => valid session other here⟩

omit [Scalar R] in
theorem Keeps.session_eq (keeps : book.Keeps object) (replaces : book.Keeps fresh)
    (id : object.id = fresh.id) : object.session = fresh.session := by
  obtain ⟨old, held, own, -, -⟩ := keeps
  obtain ⟨stored, known, home, -, -⟩ := replaces
  rw [id, known, Option.some.injEq] at held
  rw [own, home, held]

theorem Keeps.admits_putObject_iff (keeps : book.Keeps object) (replaces : book.Keeps fresh) :
    (book.putObject fresh).Admits object value ↔ book.Admits object value := by
  simp only [Admits, fits_putObject]
  refine forall_congr' fun session => imp_congr ?_ Iff.rfl
  by_cases same : object.id = fresh.id
  · have home := keeps.session_eq replaces same
    rw [lists_putObject same home, home, ← or_assoc, or_self]
  · rw [lists_putObject_of_ne same]

omit [Scalar R] in
theorem Keeps.putObject (keeps : book.Keeps object) (replaces : book.Keeps fresh) :
    (book.putObject fresh).Keeps object := by
  by_cases same : object.id = fresh.id
  · obtain ⟨old, held, own, definition, value⟩ := keeps
    obtain ⟨stored, known, home, kind, kept⟩ := replaces
    rw [same, known, Option.some.injEq] at held
    subst held
    refine ⟨fresh, ?_, own.trans home.symm, definition.trans kind.symm, value.trans kept.symm⟩
    rw [Book.putObject, Table.get?_put, if_pos same]
  · obtain ⟨old, held, kept⟩ := keeps
    refine ⟨old, ?_, kept⟩
    rw [Book.putObject, Table.get?_put, if_neg same, held]

theorem valid_putObjects_iff {objects : List (ObjectInstance R)} (ownIds : book.OwnIds)
    (keeps : ∀ object ∈ objects, book.Keeps object) :
    (book.putObjects objects).Valid ↔
      book.Valid ∧ ∀ object ∈ objects, book.Admits object object.value := by
  induction objects generalizing book with
  | nil => simp [putObjects]
  | cons fresh rest ih =>
    have first := keeps fresh List.mem_cons_self
    have others := fun object member => keeps object (List.mem_cons_of_mem fresh member)
    -- What the first instance changes in the book leaves the others as they are to be judged.
    have later := ih (ownIds.putObject fresh) fun object member =>
      (others object member).putObject first
    rw [putObjects, List.foldl_cons, ← putObjects, later, first.valid_putObject_iff ownIds,
      and_assoc, List.forall_mem_cons]
    refine and_congr_right fun _ => and_congr_right fun _ => forall₂_congr fun object member => ?_
    exact (others object member).admits_putObject_iff first

end Book

def Call.Admitted (keeper : Keeper R) (call : Call R) : Prop :=
  (∀ answer object fresh, keeper.Writes call answer object fresh →
    keeper.book.Admits fresh fresh.value) ∧
  ∀ session round now, call = .refresh session round now →
    ∀ fresh ∈ keeper.book.recomputed session round now, keeper.book.Admits fresh fresh.value

def Call.ResetFits (keeper : Keeper R) : Call R → Prop
  | .reset session definition player _ => ∀ found object,
    keeper.requireObject session definition player = .ok (found, object) →
    found.objection? found.initialValue = none
  | _ => True

namespace Keeper

variable {keeper : Keeper R} {call : Call R} {session definition : String} {player : Option String}

theorem exists_book_perform (keeper : Keeper R) (call : LedgerCall R) :
    ∃ entries, (keeper.perform call).book = { keeper.book with entries } := by
  cases call with
  | add freshId session player value category round note now =>
    rcases keeper.perform_add_cases freshId session player value category round note now with
      same | ⟨x, posted⟩
    · exact ⟨_, by rw [same]⟩
    · obtain ⟨cycle, -, outcome⟩ := keeper.post_eq freshId
        { session, player, value := x, createdAt := now, category, round, note, source := .manual }
      exact ⟨_, by rw [posted, outcome, Book.addEntries_eq]⟩
  | remove session id =>
    rcases keeper.perform_remove_cases session id with same | removed
    · exact ⟨_, by rw [same]⟩
    · exact ⟨_, by rw [removed]; rfl⟩

theorem after_ledger (keeper : Keeper R) (call : LedgerCall R) :
    keeper.after (.ledger call) = keeper.perform call := by
  cases call with
  | add freshId session player value category round note now =>
    rw [after, answer, perform]
    cases keeper.addEntry freshId session player value category round note now <;> rfl
  | remove session id =>
    rw [after, answer, perform]
    cases keeper.removeEntry session id <;> rfl

theorem book_after_refresh (keeper : Keeper R) (session : String) (round : Option String) (now : R) :
    (keeper.after (.refresh session round now)).book =
      keeper.book.putObjects (keeper.book.recomputed session round now) := by
  rw [after, answer, refresh, requireSession]
  cases known : keeper.book.session? session with
  | none => simp [Book.recomputed, evaluateObjects, known, Book.putObjects, bind, Except.bind,
      Except.map]
  | some found => rfl

theorem book_after_cases (keeper : Keeper R) (call : Call R) :
    (∃ entries, (keeper.after call).book = { keeper.book with entries }) ∨
    (∃ answer object fresh, keeper.Writes call answer object fresh ∧
      (keeper.after call).book = keeper.book.putObject fresh) ∨
    ∃ session round now, call = .refresh session round now ∧
      (keeper.after call).book =
        keeper.book.putObjects (keeper.book.recomputed session round now) := by
  cases answered : keeper.answer call with
  | error refusal => exact .inl ⟨_, by rw [after, answered]⟩
  | ok done =>
    obtain ⟨answer, next⟩ := done
    have reached : keeper.after call = next := by rw [after, answered]
    rcases answer_eq_ok_cases answered with ⟨ledgerCall, rfl⟩ | ⟨-, rfl⟩ |
      ⟨object, fresh, writes, rfl⟩ | ⟨session, round, now, rfl, -⟩
    · rw [after_ledger]
      exact .inl (keeper.exists_book_perform ledgerCall)
    · exact .inl ⟨_, by rw [reached]⟩
    · exact .inr (.inl ⟨answer, object, fresh, writes, by rw [reached]; rfl⟩)
    · exact .inr (.inr ⟨session, round, now, rfl, keeper.book_after_refresh session round now⟩)

theorem keeps_of_mem_recomputed {book : Book R} (ownIds : book.OwnIds) {round : Option String}
    {now : R} {fresh : ObjectInstance R} (member : fresh ∈ book.recomputed session round now) :
    book.Keeps fresh := by
  obtain ⟨object, here, refreshed⟩ := refreshed_of_mem_recomputed ownIds member
  obtain ⟨id, own, kind, stored⟩ := refreshed.same
  exact ⟨object, id ▸ ((Book.mem_sessionObjects_iff ownIds).1 here).1, own, kind,
    congrArg Held.value stored⟩

theorem valid_after_iff (ownIds : keeper.book.OwnIds) (valid : keeper.book.Valid) :
    (keeper.after call).book.Valid ↔ call.Admitted keeper := by
  have refreshing (session : String) (round : Option String) (now : R) :=
    Book.valid_putObjects_iff ownIds fun fresh
      (member : fresh ∈ keeper.book.recomputed session round now) =>
        keeps_of_mem_recomputed ownIds member
  constructor
  · intro after
    refine ⟨fun answer object fresh writes => ?_, ?_⟩
    · rw [Keeper.after, answer_of_writes writes] at after
      exact (valid.putObject_iff ownIds).1 after
    · rintro session round now rfl
      rw [book_after_refresh] at after
      exact ((refreshing session round now).1 after).2
  · rintro ⟨written, recomputed⟩
    rcases keeper.book_after_cases call with ⟨entries, same⟩ | ⟨answer, object, fresh, writes, put⟩ |
      ⟨session, round, now, rfl, put⟩
    · rw [same]
      exact valid
    · rw [put]
      exact (valid.putObject_iff ownIds).2 (written answer object fresh writes)
    · rw [put]
      exact (refreshing session round now).2 ⟨valid, recomputed session round now rfl⟩

omit [Scalar R] in
theorem ownIds_putObjects {book : Book R} (ownIds : book.OwnIds)
    (objects : List (ObjectInstance R)) : (book.putObjects objects).OwnIds := by
  induction objects generalizing book with
  | nil => exact ownIds
  | cons fresh rest ih => exact ih (ownIds.putObject fresh)

theorem ownIds_after (ownIds : keeper.book.OwnIds) : (keeper.after call).book.OwnIds := by
  rcases keeper.book_after_cases call with ⟨entries, same⟩ | ⟨answer, object, fresh, -, put⟩ |
    ⟨session, round, now, -, put⟩
  · rw [same]
    exact ownIds
  · rw [put]
    exact ownIds.putObject fresh
  · rw [put]
    exact ownIds_putObjects ownIds _

theorem kept_after (kept : keeper.book.Kept) : (keeper.after call).book.Kept := by
  rcases keeper.book_after_cases call with ⟨entries, same⟩ | ⟨answer, object, fresh, writes, put⟩ |
    ⟨session, round, now, rfl, put⟩
  · rw [same]
    exact ⟨kept.ownIds, kept.ownSession⟩
  · rw [put]
    exact kept_of_change kept (change_of_writes kept writes)
  · rw [put]
    exact kept_of_change kept (change_refreshed kept)

def afterAll (keeper : Keeper R) (calls : List (Call R)) : Keeper R :=
  calls.foldl after keeper

def Each (holds : Keeper R → Call R → Prop) (keeper : Keeper R) : List (Call R) → Prop
  | [] => True
  | call :: rest => holds keeper call ∧ (keeper.after call).Each holds rest

theorem validThroughout_iff (ownIds : keeper.book.OwnIds) (valid : keeper.book.Valid)
    (calls : List (Call R)) :
    (∀ done, done <+: calls → (keeper.afterAll done).book.Valid) ↔
      keeper.Each (fun keeper call => call.Admitted keeper) calls := by
  induction calls generalizing keeper with
  | nil => simp [Each, afterAll, valid]
  | cons call rest ih =>
    rw [Each, ← valid_after_iff ownIds valid]
    constructor
    -- The run of the first call alone shows whether that call keeps the book valid.
    · intro throughout
      have first : (keeper.after call).book.Valid :=
        throughout [call] (List.prefix_cons_iff.2 (.inr ⟨[], rfl, List.nil_prefix⟩))
      refine ⟨first, (ih (ownIds_after ownIds) first).1 fun done earlier => ?_⟩
      exact throughout (call :: done) (List.prefix_cons_iff.2 (.inr ⟨done, rfl, earlier⟩))
    · rintro ⟨first, others⟩ done earlier
      rcases List.prefix_cons_iff.1 earlier with rfl | ⟨later, rfl, within⟩
      · exact valid
      · exact (ih (ownIds_after ownIds) first).2 others later within

theorem admits_iff_fits {book : Book R} (kept : book.Kept) {object fresh : ObjectInstance R}
    (member : object ∈ book.sessionObjects session) (id : fresh.id = object.id)
    (own : fresh.session = object.session) (kind : fresh.definition = object.definition)
    (value : Value R) :
    book.Admits fresh value ↔ book.Fits session object.definition value := by
  obtain ⟨held, lists⟩ := (Book.mem_sessionObjects_iff kept.ownIds).1 member
  have home := own.trans (kept.session_eq held lists)
  rw [Book.Admits, kind]
  constructor
  · exact fun admitted => admitted session (.inl home.symm)
  · rintro fits other (rfl | elsewhere)
    · rwa [home]
    · rw [Book.lists_congr id own] at elsewhere
      rwa [← kept.session_eq held elsewhere, ← own, home]

theorem admits_iff_objection?_eq_none (kept : keeper.book.Kept) {found : ObjectDefinition R}
    {object fresh : ObjectInstance R}
    (required : keeper.requireObject session definition player = .ok (found, object))
    (id : fresh.id = object.id) (own : fresh.session = object.session)
    (kind : fresh.definition = object.definition) (value : Value R) :
    keeper.book.Admits fresh value ↔ found.objection? value = none := by
  obtain ⟨defined, owned⟩ := requireObject_eq_ok_iff.1 required
  have named : object.definition = definition := by
    have both := List.find?_some owned
    simp only [Bool.and_eq_true, decide_eq_true_eq] at both
    exact both.1
  rw [admits_iff_fits kept (List.mem_of_find?_eq_some owned) id own kind, Book.Fits, named,
    defined]
  simp

theorem admitted_iff_resetFits (kept : keeper.book.Kept) (valid : keeper.book.Valid) :
    call.Admitted keeper ↔ call.ResetFits keeper := by
  constructor
  · intro admitted
    cases call with
    | reset session definition player now =>
      intro found object required
      have fresh := admitted.1 _ _ _ (.initial required rfl)
      exact (admits_iff_objection?_eq_none kept required rfl rfl rfl _).1 fresh
    | ledger | setValue | increment | refresh => trivial
  · intro fits
    refine ⟨fun answer object fresh writes => ?_, ?_⟩
    · cases writes with
      | set required accepted =>
        exact (admits_iff_objection?_eq_none kept required rfl rfl rfl _).2 accepted
      | sum required counted added accepted =>
        exact (admits_iff_objection?_eq_none kept required rfl rfl rfl _).2 accepted
      | initial required cleared =>
        subst cleared
        exact (admits_iff_objection?_eq_none kept required rfl rfl rfl _).2 (fits _ _ required)
    · rintro session round now rfl fresh member
      obtain ⟨object, here, refreshed⟩ := refreshed_of_mem_recomputed kept.ownIds member
      obtain ⟨id, own, kind, stored⟩ := refreshed.same
      have value : fresh.value = object.value := congrArg Held.value stored
      rw [value, admits_iff_fits kept here id own kind]
      exact valid session object here

theorem each_admitted_iff (kept : keeper.book.Kept) (valid : keeper.book.Valid)
    (calls : List (Call R)) :
    keeper.Each (fun keeper call => call.Admitted keeper) calls ↔
      keeper.Each (fun keeper call => call.ResetFits keeper) calls := by
  induction calls generalizing keeper with
  | nil => rfl
  | cons call rest ih =>
    rw [Each, Each, admitted_iff_resetFits kept valid]
    refine and_congr_right fun fits => ih (kept_after kept) ?_
    exact (valid_after_iff kept.ownIds valid).2 ((admitted_iff_resetFits kept valid).2 fits)

theorem stays_valid_iff (ownIds : keeper.book.OwnIds) (valid : keeper.book.Valid)
    (calls : List (Call R)) :
    ((∀ done, done <+: calls → (keeper.afterAll done).book.Valid) ↔
      keeper.Each (fun keeper call => call.Admitted keeper) calls) ∧
    (keeper.book.Kept → (keeper.Each (fun keeper call => call.Admitted keeper) calls ↔
      keeper.Each (fun keeper call => call.ResetFits keeper) calls)) :=
  ⟨validThroughout_iff ownIds valid calls, fun kept => each_admitted_iff kept valid calls⟩

def cardCalls : List (Call ℚ) :=
  [cardEntry, .setValue "s" "colour" (.text "red") none 2, .refresh "s" none 3]

theorem stays_valid_cardCalls :
    cardKeeper.book.OwnIds ∧ cardKeeper.book.Valid ∧ cardKeeper.book.Kept ∧
    cardKeeper.Each (fun keeper call => call.ResetFits keeper) cardCalls ∧
    ∀ done, done <+: cardCalls → (cardKeeper.afterAll done).book.Valid := by
  have valid : cardKeeper.book.Valid := by decide +kernel
  have kept : cardKeeper.book.Kept := by decide +kernel
  have fits : cardKeeper.Each (fun keeper call => call.ResetFits keeper) cardCalls :=
    ⟨trivial, trivial, trivial, trivial⟩
  obtain ⟨throughout, onlyResets⟩ := stays_valid_iff kept.ownIds valid cardCalls
  exact ⟨kept.ownIds, valid, kept, fits, throughout.2 ((onlyResets kept).2 fits)⟩

/-- A card that can only be red is reset to a text without a colour. -/
theorem not_stays_valid : ¬ ∀ (keeper : Keeper ℚ) (calls : List (Call ℚ)),
    keeper.book.Kept →
    (∀ template ∈ keeper.book.templates.values,
      (template.objects.map ObjectDefinition.id).Nodup) →
    keeper.book.Valid → (keeper.afterAll calls).book.Valid := by
  intro stays
  have reset := stays cardKeeper [.reset "s" "colour" none 1] (by decide +kernel)
    (by decide +kernel) (by decide +kernel)
  revert reset
  decide +kernel

end Keeper

end Scorekeeper
