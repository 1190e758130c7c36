import Scorekeeper.Keeper.Totals
import Scorekeeper.Proofs.Keeper.Validity
import Scorekeeper.Proofs.Totals.Frame
import Scorekeeper.Review.Session

set_option autoImplicit false

/-!
# Sessions apart

All sessions share one ledger and one table of objects.  Still a call for one session changes
nothing that can be seen of another, as long as sessions list only their own instances.
-/

namespace Scorekeeper

variable {R : Type}

section Evaluation

variable [Scalar R] {book : Book R} {scope : Scope R}

namespace Scope

theorem computed_within (read : book.ReadAlikeIn scope.session scope.book) (totals : Table R) :
    (scope.within book).computed totals = scope.computed totals := by
  funext definition object
  simp only [computed, evaluate_within_of_read read]

theorem updated?_within (read : book.ReadAlikeIn scope.session scope.book) (totals : Table R) :
    (scope.within book).updated? totals = scope.updated? totals := by
  funext now definition object
  simp only [updated?, state_within read.alike, isLiveObject_within read.alike,
    computed_within read]

theorem impactPosting?_within (read : book.ReadAlikeIn scope.session scope.book)
    (totals : Table R) :
    (scope.within book).impactPosting? totals = scope.impactPosting? totals := by
  have impact : (scope.within book).scoreImpact totals = scope.scoreImpact totals := by
    funext definition object
    simp only [scoreImpact, evaluate_within_of_read read]
    rfl
  funext now definition object
  simp only [impactPosting?, impact]
  rfl

theorem objectTotals_within (scored : book.ScoredAlikeIn scope.session scope.book) :
    (scope.within book).objectTotals = scope.objectTotals := by
  rw [objectTotals, scored.categoryTotals]
  rfl

end Scope

def Placed.within (placed : Placed R) (book : Book R) : Placed R :=
  { placed with scope := placed.scope.within book }

namespace Placed

variable {placed : Placed R}

theorem updated?_within (read : book.ReadAlikeIn placed.scope.session placed.scope.book) :
    (placed.within book).updated? = placed.updated? := by
  funext now definition
  exact congrFun (congrFun (congrFun (Scope.updated?_within read placed.totals) now) definition)
    placed.object

theorem posting?_within (read : book.ReadAlikeIn placed.scope.session placed.scope.book) :
    (placed.within book).posting? = placed.posting? := by
  have live (definition : ObjectDefinition R) :
      (placed.scope.within book).isLiveObject definition placed.object =
        placed.scope.isLiveObject definition placed.object :=
    Scope.isLiveObject_within read.alike definition placed.object
  funext now definition
  simp only [posting?, updated?_within read]
  simp only [within, live, Scope.impactPosting?_within read]
  rfl

end Placed

theorem Scope.placed_within (scored : book.ScoredAlikeIn scope.session scope.book) :
    (scope.within book).placed = scope.placed.map (·.within book) := by
  rw [placed, objectTotals_within scored]
  change ((book.sessionObjects scope.session).filter (·.player = scope.player)).map _ = _
  rw [scored.read.objects, placed, List.map_map]
  rfl

omit [Scalar R] in
theorem firstOfEachId_map_within (book : Book R) (seen : List String)
    (placements : List (Placed R)) :
    firstOfEachId seen (placements.map (·.within book)) =
      (firstOfEachId seen placements).map (·.within book) := by
  induction placements generalizing seen with
  | nil => rfl
  | cons placed rest ih =>
    rw [List.map_cons, firstOfEachId, firstOfEachId, ih, ih]
    change (if placed.object.id ∈ seen then _ else _) = _
    split <;> rfl

variable {other : Book R} {session : String}

theorem placedObjects_eq_map (scored : other.ScoredAlikeIn session book) (players : List String)
    (round : Option String) : placedObjects other session players round =
      (placedObjects book session players round).map (·.within other) := by
  rw [placedObjects, placedObjects, ← firstOfEachId_map_within, List.map_flatMap, ownerScopes,
    ownerScopes, List.flatMap_map, List.flatMap_map]
  congr 2
  funext player
  let scope : Scope R := { book, session, player, round }
  have here : other.ScoredAlikeIn scope.session scope.book := scored
  exact Scope.placed_within here

theorem evaluateObjects_eq (scored : other.ScoredAlikeIn session book)
    (known : other.session? session = book.session? session) (round : Option String) (now : R) :
    evaluateObjects other session round now = evaluateObjects book session round now := by
  rw [evaluateObjects, evaluateObjects, known, scored.read.template?]
  cases book.session? session with
  | none => rfl
  | some found =>
    cases book.template? session with
    | none => rfl
    | some template =>
      have read (placed : Placed R)
          (here : placed ∈ placedObjects book session found.players round) :
          other.ReadAlikeIn placed.scope.session placed.scope.book := by
        rw [(of_mem_placedObjects here).2.2.1]
        exact scored.read
      dsimp only
      rw [placedObjects_eq_map scored, List.filterMap_map, List.filterMap_map]
      congr 1
      · refine List.filterMap_congr fun placed here => ?_
        simp only [Function.comp_apply, Placed.updated?_within (read placed here)]
        rfl
      · refine List.filterMap_congr fun placed here => ?_
        simp only [Function.comp_apply, Placed.posting?_within (read placed here)]
        rfl

end Evaluation

structure Book.SameIn (session : String) (left right : Book R) : Prop where
  session? : left.session? session = right.session? session
  objects : left.sessionObjects session = right.sessionObjects session
  entries : left.sessionEntries session = right.sessionEntries session
  categories : left.categories = right.categories
  rounds : left.rounds = right.rounds
  rules : left.rules = right.rules
  templates : left.templates = right.templates

namespace Book.SameIn

variable {session : String} {left middle right : Book R}

theorem refl : left.SameIn session left :=
  ⟨rfl, rfl, rfl, rfl, rfl, rfl, rfl⟩

theorem trans (first : left.SameIn session middle) (second : middle.SameIn session right) :
    left.SameIn session right where
  session? := first.session?.trans second.session?
  objects := first.objects.trans second.objects
  entries := first.entries.trans second.entries
  categories := first.categories.trans second.categories
  rounds := first.rounds.trans second.rounds
  rules := first.rules.trans second.rules
  templates := first.templates.trans second.templates

theorem template? (same : left.SameIn session right) :
    left.template? session = right.template? session := by
  rw [Book.template?, Book.template?, same.session?, same.templates]

theorem sessionCategories (same : left.SameIn session right) :
    left.sessionCategories session = right.sessionCategories session := by
  rw [Book.sessionCategories, Book.sessionCategories, same.categories]

theorem scored (same : left.SameIn session right) : left.ScoredAlikeIn session right :=
  ⟨⟨same.template?, by rw [same.session?], same.rounds, same.objects,
    by rw [same.sessionCategories]⟩, same.sessionCategories, same.entries⟩

theorem totals [Scalar R] (same : left.SameIn session right)
    (player round : Option String) :
    categoryTotals { book := left, session, player, round } =
      categoryTotals { book := right, session, player, round } := by
  let scope : Scope R := { book := right, session, player, round }
  have scored : left.ScoredAlikeIn scope.session scope.book := same.scored
  exact scored.categoryTotals

end Book.SameIn

structure Keeper.ShowsSame [Scalar R] (session : String) (left right : Keeper R) : Prop where
  entries : left.book.sessionEntries session = right.book.sessionEntries session
  objects : left.book.sessionObjects session = right.book.sessionObjects session
  totals : ∀ player round,
    categoryTotals { book := left.book, session, player, round } =
      categoryTotals { book := right.book, session, player, round }
  winners : ∀ round, left.winners session round = right.winners session round
  states : ∀ player round definition object,
    ({ book := left.book, session, player, round } : Scope R).state definition object =
      ({ book := right.book, session, player, round } : Scope R).state definition object
  evaluation : ∀ round now,
    evaluateObjects left.book session round now = evaluateObjects right.book session round now
  review : reviewSession left.book session = reviewSession right.book session

theorem Book.SameIn.shows [Scalar R] {session : String} {left right : Keeper R}
    (same : left.book.SameIn session right.book) : Keeper.ShowsSame session left right where
  entries := same.entries
  objects := same.objects
  totals := same.totals
  winners round := by
    have totals (player : String) : categoryTotals (playerScope left.book session round player) =
        categoryTotals (playerScope right.book session round player) :=
      same.totals (some player) round
    simp only [Keeper.winners, Keeper.playerTotals, Keeper.totals, Keeper.requireSession,
      same.session?, totals]
  states player round definition object := by
    let scope : Scope R := { book := right.book, session, player, round }
    have alike : left.book.AlikeIn scope.session scope.book := same.scored.read.alike
    exact Scope.state_within alike definition object
  evaluation round now := evaluateObjects_eq same.scored same.session? round now
  review := by
    have rules : left.book.sessionRules session = right.book.sessionRules session := by
      rw [Book.sessionRules, Book.sessionRules, same.session?, same.rules]
    rw [reviewSession, reviewSession, same.session?, same.sessionCategories, same.template?, rules]

namespace Book

variable {book : Book R} {session : String}

theorem Kept.session_of_mem (kept : book.Kept) {object : ObjectInstance R}
    (member : object ∈ book.sessionObjects session) : object.session = session := by
  obtain ⟨held, lists⟩ := (mem_sessionObjects_iff kept.ownIds).1 member
  exact kept.session_eq held lists

theorem sessionEntries_of_appended {entries : Table (Entry R)} {added : List (Entry R)}
    (appended : entries.pairs =
      book.entries.pairs ++ added.map fun entry => (entry.id, entry))
    (others : ∀ entry ∈ added, entry.session ≠ session) :
    ({ book with entries } : Book R).sessionEntries session = book.sessionEntries session := by
  have values : entries.values = book.entries.values ++ added := by
    rw [Table.values, appended, List.map_append, List.map_map]
    exact congrArg _ (List.map_id _)
  have nothing : added.filter (·.session = session) = [] :=
    List.filter_eq_nil_iff.2 fun entry member => by simpa using others entry member
  change entries.values.filter (·.session = session) = _
  rw [values, List.filter_append, nothing, List.append_nil]
  rfl

theorem sessionEntries_of_removed {entries : Table (Entry R)} {id : String} {entry : Entry R}
    (held : book.entries.get? id = some entry)
    (removed : entries.pairs = book.entries.pairs.filter (·.1 ≠ id))
    (other : entry.session ≠ session) :
    ({ book with entries } : Book R).sessionEntries session = book.sessionEntries session := by
  change entries.values.filter (·.session = session) = _
  rw [Table.values, removed, List.filter_map, List.filter_filter, sessionEntries, Table.values,
    List.filter_map]
  congr 1
  refine List.filter_congr fun pair member => ?_
  by_cases same : pair.1 = id
  · have taken : pair.2 = entry := by
      have found := Table.get?_eq_some_iff.2 member
      rw [same, held, Option.some.injEq] at found
      exact found.symm
    have foreign : pair.2.session ≠ session := taken ▸ other
    simp [foreign]
  · simp [same]

theorem sessionObjects_of_others (kept : book.Kept) {objects : Table (ObjectInstance R)}
    (keys : objects.keys = book.objects.keys)
    (others : ∀ key object, book.objects.get? key = some object →
      ∃ fresh, objects.get? key = some fresh ∧
        (fresh = object ∨ object.session ≠ session ∧ fresh.session = object.session)) :
    ({ book with objects } : Book R).sessionObjects session = book.sessionObjects session := by
  have absent {key : String} (missing : book.objects.get? key = none) :
      objects.get? key = none := by
    by_contra present
    obtain ⟨fresh, stored⟩ := Option.ne_none_iff_exists'.1 present
    have known := keys ▸ Table.mem_keys_iff.2 ⟨fresh, stored⟩
    simp [Table.mem_keys_iff, missing] at known
  have same : ({ book with objects } : Book R).listed session = book.listed session := rfl
  rw [sessionObjects, sessionObjects, same]
  cases listed : book.listed session with
  | nil =>
    refine Table.filter_values_congr keys fun key => ?_
    cases held : book.objects.get? key with
    | none => rw [absent held]
    | some object =>
      obtain ⟨fresh, stored, rfl | ⟨elsewhere, own⟩⟩ := others key object held
      · rw [stored]
      · simp [Option.filter, stored, own, elsewhere]
  | cons head rest =>
    refine List.filterMap_congr fun id given => ?_
    cases held : book.objects.get? id with
    | none => exact absent held
    | some object =>
      obtain ⟨fresh, stored, rfl | ⟨elsewhere, -⟩⟩ := others id object held
      · exact stored
      · exact absurd (kept.ownSession session id (listed ▸ given) object held) elsewhere

end Book

def LedgerCall.session : LedgerCall R → String
  | .add _ session _ _ _ _ _ _ => session
  | .remove session _ => session

def Call.session : Call R → String
  | .ledger call => call.session
  | .setValue session _ _ _ _ => session
  | .increment session _ _ _ _ => session
  | .reset session _ _ _ => session
  | .refresh session _ _ => session

namespace Keeper

variable [Scalar R] {keeper next : Keeper R} {call : Call R} {answer : Answer R}
  {object fresh : ObjectInstance R} {session : String}

theorem Writes.mem (writes : keeper.Writes call answer object fresh) :
    object ∈ keeper.book.sessionObjects call.session := by
  cases writes with
  | set required | sum required | initial required =>
    exact List.mem_of_find?_eq_some (requireObject_eq_ok_iff.1 required).2

theorem same_of_change (kept : keeper.book.Kept) (change : Change keeper call answer next)
    (elsewhere : call.session ≠ session) : next.book.SameIn session keeper.book := by
  cases change with
  | @posted _ home _ _ _ _ _ _ _ result entries real entry cycle answers appended =>
    refine ⟨rfl, rfl, Book.sessionEntries_of_appended appended ?_, rfl, rfl, rfl, rfl⟩
    intro added member
    have own : added.session = home := by
      rcases List.mem_cons.1 member with rfl | answering
      · rw [entry]
        rfl
      · have committed : added.toPosting ∈ result.cycle.committed :=
          answers ▸ List.mem_map_of_mem answering
        rw [cycle] at committed
        exact ((committable_runCycle _ _ _ _ _).owned _ committed).1
    exact own ▸ elsewhere
  | removed held own others =>
    have other := own ▸ elsewhere
    exact ⟨rfl, rfl, Book.sessionEntries_of_removed held others other, rfl, rfl, rfl, rfl⟩
  | rewritten writes held =>
    have own := kept.session_of_mem writes.mem
    have same := writes.same.2.1
    refine ⟨rfl, ?_, rfl, rfl, rfl, rfl, rfl⟩
    refine Book.sessionObjects_of_others kept ?_ fun key other found => ?_
    · rw [Table.keys_put, if_pos (Table.mem_keys_iff.2 ⟨_, held⟩)]
    · rw [Table.get?_put]
      split
      next here =>
        rw [here, held, Option.some.injEq] at found
        subst found
        exact ⟨_, rfl, .inr ⟨own ▸ elsewhere, same⟩⟩
      · exact ⟨other, found, .inl rfl⟩
  | refreshed keys records =>
    refine ⟨rfl, ?_, rfl, rfl, rfl, rfl, rfl⟩
    refine Book.sessionObjects_of_others kept keys fun key object held => ?_
    obtain ⟨fresh, stored, rfl | ⟨member, -, computed, lastComputedAt, rfl⟩⟩ :=
      records key object held
    · exact ⟨_, stored, .inl rfl⟩
    · exact ⟨_, stored, .inr ⟨kept.session_of_mem member ▸ elsewhere, rfl⟩⟩

theorem same_after (kept : keeper.book.Kept) (unused : call.DrawsUnused keeper.book)
    (elsewhere : call.session ≠ session) :
    (keeper.after call).book.SameIn session keeper.book := by
  rw [after]
  cases answered : keeper.answer call with
  | error refusal => exact .refl
  | ok done =>
    obtain ⟨answer, next⟩ := done
    have leaves := leaves_of_answer kept unused answered
    rw [Leaves] at leaves
    split at leaves
    · subst leaves
      exact .refl
    · exact same_of_change kept leaves elsewhere

theorem same_afterAll (kept : keeper.book.Kept) {calls : List (Call R)}
    (unused : keeper.Each (fun keeper call => call.DrawsUnused keeper.book) calls)
    (elsewhere : ∀ call ∈ calls, call.session ≠ session) :
    (keeper.afterAll calls).book.SameIn session keeper.book := by
  induction calls generalizing keeper with
  | nil => exact .refl
  | cons call rest ih =>
    rw [List.forall_mem_cons] at elsewhere
    obtain ⟨drawn, others⟩ := unused
    exact (ih (kept_after kept) others elsewhere.2).trans (same_after kept drawn elsewhere.1)

theorem kept_afterAll (kept : keeper.book.Kept) (calls : List (Call R)) :
    (keeper.afterAll calls).book.Kept := by
  induction calls generalizing keeper with
  | nil => exact kept
  | cons call rest ih => exact ih (kept_after kept)

theorem showsSame_afterAll (kept : keeper.book.Kept) {calls : List (Call R)}
    (unused : keeper.Each (fun keeper call => call.DrawsUnused keeper.book) calls)
    (elsewhere : ∀ call ∈ calls, call.session ≠ session) :
    ShowsSame session (keeper.afterAll calls) keeper ∧ (keeper.afterAll calls).book.Kept :=
  ⟨(same_afterAll kept unused elsewhere).shows, kept_afterAll kept calls⟩

end Keeper

def twoTables : Keeper ℚ where
  book :=
    { cardKeeper.book with
      sessions := cardKeeper.book.sessions.put "u"
        ⟨"u", "U", ["p"], [], ["r"], [], some "t", {}⟩
      entries := cardKeeper.book.entries.put "n"
        ⟨⟨"u", some "p", 3, 0, none, none, none, .manual⟩, "n"⟩
      objects := cardKeeper.book.objects.put "d"
        ⟨"d", "u", "colour", .ofText (.text "red"), none, .nothing, none, 0, "manual", none⟩ }
  windows := .standard

def tableCalls : List (Call ℚ) :=
  [cardEntry, .setValue "s" "colour" (.text "red") none 2, .reset "s" "colour" none 3,
    .refresh "s" none 4, .ledger (.remove "s" "1")]

theorem Keeper.showsSame_tableCalls :
    twoTables.book.Kept ∧
    twoTables.Each (fun keeper call => call.DrawsUnused keeper.book) tableCalls ∧
    (∀ call ∈ tableCalls, call.session ≠ "u") ∧
    ShowsSame "u" (twoTables.afterAll tableCalls) twoTables ∧
    (twoTables.afterAll tableCalls).book.entries.keys = ["m", "n", "11"] := by
  have kept : twoTables.book.Kept := by decide +kernel
  have unused : twoTables.Each (fun keeper call => call.DrawsUnused keeper.book) tableCalls :=
    ⟨unused_row (by decide +kernel), trivial, trivial, trivial, trivial, trivial⟩
  have elsewhere : ∀ call ∈ tableCalls, call.session ≠ "u" := by decide
  exact ⟨kept, unused, elsewhere, (showsSame_afterAll kept unused elsewhere).1, by decide +kernel⟩

end Scorekeeper
