import Scorekeeper.Proofs.Keeper.Refresh
import Scorekeeper.Proofs.Object.Reference
import Scorekeeper.Proofs.Totals.Simultaneous

set_option autoImplicit false

/-!
# Refreshes come to rest

Each refresh evaluates all objects on the values that the refresh before it has left.  Where no
calculation refers to an object of the same or a higher rank, a refresh settles the objects whose
calculations refer to settled ones alone.  So there is nothing left to settle after as many
refreshes as there are definitions.
-/

namespace Scorekeeper

variable {R : Type}

/-- Definitions are ranked when calculations refer only to definitions of lower rank, and to no
total that a formula decides. -/
structure Template.Ranked (template : Template R) (categories : List (Category R))
    (rank : ObjectDefinition R → Nat) : Prop where
  definitionIds : (template.objects.map ObjectDefinition.id).Nodup
  categoryIds : (categories.map Category.id).Nodup
  objects : ∀ definition ∈ template.objects, ∀ formula,
    present definition.calculation = some formula → ∀ name ∈ Formula.references formula,
      ∀ found, template.named? name = some found → rank found < rank definition
  totals : ∀ definition ∈ template.objects, ∀ formula,
    present definition.calculation = some formula → ∀ name ∈ Formula.references formula,
      name ≠ totalReference ∧ ∀ category,
        categories.find? (fun category => Template.refersTo name category.name category.id) =
          some category → category.display ≠ .formula

def level (rank : ObjectDefinition R → Nat) (definitions : List (ObjectDefinition R))
    (definition : ObjectDefinition R) : Nat :=
  (definitions.filter fun other => rank other < rank definition).length

section Level

variable {rank : ObjectDefinition R → Nat} {definitions : List (ObjectDefinition R)}
  {found definition : ObjectDefinition R}

theorem level_lt_length (rank : ObjectDefinition R → Nat) (member : definition ∈ definitions) :
    level rank definitions definition < definitions.length :=
  List.length_filter_lt_length_iff_exists.2 ⟨definition, member, by simp⟩

theorem level_lt_level (member : found ∈ definitions) (lower : rank found < rank definition) :
    level rank definitions found < level rank definitions definition := by
  have fewer : definitions.filter (fun other => rank other < rank found) =
      (definitions.filter fun other => rank other < rank definition).filter fun other =>
        rank other < rank found := by
    rw [List.filter_filter]
    refine List.filter_congr fun other _ => ?_
    rw [Bool.eq_iff_iff]
    simp only [Bool.and_eq_true, decide_eq_true_eq]
    omega
  rw [level, level, fewer]
  exact List.length_filter_lt_length_iff_exists.2
    ⟨found, List.mem_filter.2 ⟨member, by simpa using lower⟩, by simp⟩

end Level

namespace Template.Ranked

variable {template : Template R} {categories : List (Category R)} {rank : ObjectDefinition R → Nat}
  {definition : ObjectDefinition R}

theorem plain [Scalar R] (ranked : template.Ranked categories rank)
    (member : definition ∈ template.objects) {formula : String}
    (calculated : present definition.calculation = some formula) {name : String}
    (referred : name ∈ Formula.references formula) {category : Category R}
    (known : category ∈ categories) (meant : category.id = totalKey categories name) :
    category.effective? = none := by
  have display : category.display ≠ .formula := by
    have ordinary := (ranked.totals definition member formula calculated name referred).2
    rw [totalKey] at meant
    cases found : categories.find? fun category =>
        Template.refersTo name category.name category.id with
    | none =>
      rw [found] at meant
      have unmeant := List.find?_eq_none.1 found category known
      simp [Template.refersTo, meant] at unmeant
    | some other =>
      rw [found] at meant
      have here := List.mem_of_find?_eq_some found
      rw [List.inj_on_of_nodup_map ranked.categoryIds known here meant]
      exact ordinary other found
  rw [Category.effective?]
  cases kind : category.display <;> simp_all

end Template.Ranked

section Totals

variable [Scalar R] {scope : Scope R} {book : Book R}

theorem categoryTotal_within_of_plain {name : String}
    (categories : book.sessionCategories scope.session =
      scope.book.sessionCategories scope.session)
    (entries : book.entries = scope.book.entries) (ordinary : name ≠ totalReference)
    (plain : ∀ category ∈ scope.categories, category.id = totalKey scope.categories name →
      category.effective? = none) :
    categoryTotal (scope.within book).categories (scope.within book).objectTotals name =
      categoryTotal scope.categories scope.objectTotals name := by
  have same : (scope.within book).categories = scope.categories := categories
  have base : baseTotals book scope.session scope.player =
      baseTotals scope.book scope.session scope.player := by
    simp only [baseTotals, playerEntries, Book.sessionEntries, entries]
  have total : (scope.within book).objectTotals.get? (totalKey scope.categories name) =
      scope.objectTotals.get? (totalKey scope.categories name) := by
    rw [Scope.objectTotals, Scope.objectTotals]
    change (if scope.player.isSome = true then _ else _ : Table R).get? _ = _
    split
    · rw [get?_categoryTotals_of_plain (same ▸ plain), get?_categoryTotals_of_plain plain, same]
      exact congrArg (fun base => ((nestedTotals scope.categories base).get? _).map _) base
    · rfl
  rw [same, categoryTotal_eq ordinary, categoryTotal_eq ordinary, total]

end Totals

namespace Book

variable {session : String} {rank : ObjectDefinition R → Nat} {template : Template R}
  {book before after : Book R}

def SettledBelow (template : Template R) (rank : ObjectDefinition R → Nat) (bound : Nat)
    (before after : Book R) : Prop :=
  ∀ key object fresh, before.objects.get? key = some object →
    after.objects.get? key = some fresh →
    (∀ definition, template.definition? object.definition = some definition →
      level rank template.objects definition < bound) →
    fresh.computed = object.computed

theorem Revalued.instance? (revalued : Revalued session before after) (ownIds : before.OwnIds)
    {bound : Nat} (settled : SettledBelow template rank bound before after)
    {found : ObjectDefinition R} (defined : template.definition? found.id = some found)
    (low : level rank template.objects found < bound) (player : Option String) :
    (after.instance? session found.id player).map ObjectInstance.current =
      (before.instance? session found.id player).map ObjectInstance.current := by
  rcases map_uncomputed_cases (revalued.alike.instance? found.id player) with
    ⟨here, there⟩ | ⟨fresh, object, here, there, same⟩
  · rw [here, there]
  · have kind : object.definition = found.id := by
      have both := List.find?_some there
      simp only [Bool.and_eq_true, decide_eq_true_eq] at both
      exact both.1
    obtain ⟨id, -, -, value, -⟩ := ObjectInstance.same_of_uncomputed same
    have held := ((mem_sessionObjects_iff ownIds).1 (List.mem_of_find?_eq_some there)).1
    have stored := ((mem_sessionObjects_iff (revalued.ownIds ownIds)).1
      (List.mem_of_find?_eq_some here)).1
    have computed : fresh.computed = object.computed := by
      refine settled object.id object fresh held (id ▸ stored) fun definition means => ?_
      rw [kind, defined] at means
      cases means
      exact low
    rw [here, there, Option.map_some, Option.map_some, ObjectInstance.current,
      ObjectInstance.current, ObjectInstance.computedValue, ObjectInstance.computedValue,
      ObjectInstance.value, ObjectInstance.value, value, computed]

variable [Scalar R] {round : Option String} {bound : Nat} {definition : ObjectDefinition R}
  {object fresh : ObjectInstance R} {value : Held R}

omit [Scalar R] in
theorem home_eq_within (player : fresh.player = object.player) :
    after.home session round fresh = (before.home session round object).within after := by
  rw [home, home, player]
  rfl

theorem Revalued.objectScore? (revalued : Revalued session before after) (ownIds : before.OwnIds)
    (templated : before.template? session = some template)
    (ranked : template.Ranked (before.sessionCategories session) rank)
    (settled : SettledBelow template rank bound before after)
    (member : definition ∈ template.objects)
    (low : level rank template.objects definition ≤ bound) {formula : String}
    (calculated : present definition.calculation = some formula) {name : String}
    (referred : name ∈ Formula.references formula) :
    ((before.home session round object).within after).objectScore? name =
      (before.home session round object).objectScore? name := by
  rw [Scope.objectScore?, Scope.objectScore?, Scope.objectNumber?, Scope.objectNumber?,
    Scope.named?_within revalued.alike]
  cases named : (before.home session round object).named? name with
  | none => rfl
  | some found =>
    have known : template.named? name = some found := by
      rwa [Scope.named?, Scope.template?, home, templated] at named
    have declared := List.mem_of_find?_eq_some known
    have lower : level rank template.objects found < bound :=
      Nat.lt_of_lt_of_le
        (level_lt_level declared
          (ranked.objects definition member formula calculated name referred found known)) low
    have defined := Template.definition?_of_mem ranked.definitionIds declared
    have number (owners : List (Option String)) :
        ((before.home session round object).within after).numberAmong? found owners =
          (before.home session round object).numberAmong? found owners :=
      Scope.numberAmong?_within (revalued.instance? ownIds settled defined lower) owners
    dsimp only
    rw [number]
    rfl

theorem Revalued.computed (revalued : Revalued session before after) (ownIds : before.OwnIds)
    (templated : before.template? session = some template)
    (ranked : template.Ranked (before.sessionCategories session) rank)
    (settled : SettledBelow template rank bound before after)
    (member : definition ∈ template.objects)
    (low : level rank template.objects definition ≤ bound)
    (same : fresh.uncomputed = object.uncomputed) :
    (after.home session round fresh).computed (after.home session round fresh).objectTotals
        definition fresh =
      (before.home session round object).computed (before.home session round object).objectTotals
        definition object := by
  obtain ⟨-, -, -, stored, player, -⟩ := ObjectInstance.same_of_uncomputed same
  rw [home_eq_within player, Scope.computed, Scope.computed, stored]
  cases calculated : present definition.calculation with
  | none => rfl
  | some formula =>
    have evaluated : Formula.evaluate
        (((before.home session round object).within after).context
          ((before.home session round object).within after).objectTotals) formula =
        Formula.evaluate ((before.home session round object).context
          (before.home session round object).objectTotals) formula := by
      refine evaluate_within revalued.alike (fun name referred => ?_) fun name referred => ?_
      · exact revalued.objectScore? ownIds templated ranked settled member low calculated referred
      · have ordinary := (ranked.totals definition member formula calculated name referred).1
        refine categoryTotal_within_of_plain ?_ revalued.entries ordinary
          fun category known meant => ranked.plain member calculated referred known meant
        simp only [sessionCategories, revalued.categories, home]
    dsimp only
    rw [evaluated]

theorem Computes.back (revalued : Revalued session before after) (ownIds : before.OwnIds)
    (templated : before.template? session = some template)
    (ranked : template.Ranked (before.sessionCategories session) rank)
    (settled : SettledBelow template rank bound before after)
    (low : ∀ definition, template.definition? object.definition = some definition →
      level rank template.objects definition ≤ bound)
    (held : before.objects.get? object.id = some object)
    (same : fresh.uncomputed = object.uncomputed)
    (computes : after.Computes session round fresh value) :
    before.Computes session round object value := by
  obtain ⟨member, ⟨found, known, owner⟩, definition, defined, calculated, live, rfl⟩ := computes
  obtain ⟨id, -, kind, -, player, -⟩ := ObjectInstance.same_of_uncomputed same
  rw [kind, definition?, revalued.template?, templated, Option.bind_some] at defined
  have declared := List.mem_of_find?_eq_some defined
  refine ⟨?member, ⟨found, ?known, player ▸ owner⟩, definition, ?defined, calculated, ?live, ?value⟩
  case member =>
    -- An instance of the same id stands in the book before, and only one can be stored under it.
    have alike := List.mem_map_of_mem (f := ObjectInstance.uncomputed) member
    rw [revalued.sessionObjects] at alike
    obtain ⟨other, here, sameToo⟩ := List.mem_map.1 alike
    obtain ⟨otherId, -⟩ := ObjectInstance.same_of_uncomputed sameToo
    have stored := ((mem_sessionObjects_iff ownIds).1 here).1
    rw [otherId, id, held] at stored
    cases stored
    exact here
  case known => rw [← revalued.session?, known]
  case defined => rw [definition?, templated, Option.bind_some, defined]
  case live =>
    rwa [home_eq_within player, Scope.isLiveObject_within revalued.alike,
      Scope.isLiveObject_eq_of_uncomputed same] at live
  case value =>
    exact revalued.computed ownIds templated ranked settled declared (low definition defined) same

/-- Whatever the next refresh changes belongs to a definition that is not below a level. -/
def Settles (session : String) (round : Option String) (template : Template R)
    (rank : ObjectDefinition R → Nat) (bound : Nat) (book : Book R) : Prop :=
  ∀ now, SettledBelow template rank bound book (book.refreshed session round now)

theorem settles_zero (ownIds : book.OwnIds) (templated : book.template? session = some template)
    (round : Option String) :
    Settles session round template rank 0 book := by
  intro now key object fresh held stored low
  refine computed_eq_of_undefined ownIds held stored ?_
  rw [definition?, templated, Option.bind_some]
  exact Option.eq_none_iff_forall_not_mem.2 fun definition defined =>
    Nat.not_lt_zero _ (low definition defined)

theorem Settles.computed_refreshed (settles : Settles session round template rank bound book)
    (ownIds : book.OwnIds) (enough : template.objects.length ≤ bound) (now : R) (key : String) :
    ((book.refreshed session round now).objects.get? key).map ObjectInstance.computed =
      (book.objects.get? key).map ObjectInstance.computed := by
  refine map_computed_refreshed ownIds fun object fresh held stored => ?_
  refine settles now key object fresh held stored fun definition defined => ?_
  exact Nat.lt_of_lt_of_le (level_lt_length rank (List.mem_of_find?_eq_some defined)) enough

theorem computed_refreshed_of_untemplated (ownIds : book.OwnIds)
    (untemplated : book.template? session = none) (round : Option String) (now : R)
    (key : String) :
    ((book.refreshed session round now).objects.get? key).map ObjectInstance.computed =
      (book.objects.get? key).map ObjectInstance.computed := by
  refine map_computed_refreshed ownIds fun object fresh held stored => ?_
  refine computed_eq_of_undefined ownIds held stored ?_
  rw [definition?, untemplated, Option.bind_none]

theorem Settles.refreshed (settles : Settles session round template rank bound book)
    (ownIds : book.OwnIds) (templated : book.template? session = some template)
    (ranked : template.Ranked (book.sessionCategories session) rank) (now : R) :
    Settles session round template rank (bound + 1) (book.refreshed session round now) := by
  intro later key fresh last stored storedLast low
  have revalued : Revalued session book (book.refreshed session round now) :=
    revalued_refreshed ownIds session round now
  have same := revalued.records key
  rw [stored] at same
  rcases map_uncomputed_cases same with ⟨absent, -⟩ | ⟨_, object, ⟨⟩, held, same⟩
  · cases absent
  obtain ⟨-, -, kind, -⟩ := ObjectInstance.same_of_uncomputed same
  obtain ⟨_, found, -, recomputed⟩ := recomputes_refreshed ownIds session round now held
  cases found.symm.trans stored
  obtain ⟨_, found, -, recomputes⟩ := recomputes_refreshed (revalued.ownIds ownIds)
    session round later stored
  cases found.symm.trans storedLast
  rcases recomputes with ⟨value, computes, differs, renewed⟩ | ⟨-, kept⟩
  · have before : book.Computes session round object value := by
      refine computes.back revalued ownIds templated ranked (settles now) ?_ ?_ same
      · exact fun definition defined => Nat.le_of_lt_succ (low definition (kind ▸ defined))
      · exact (ownIds key object held).symm ▸ held
    -- The refresh before has seen the same value, and taken it over if it was new.
    rcases recomputed with ⟨_, also, -, taken⟩ | ⟨had, left⟩
    · rw [renewed, taken, also.unique before]
    · rw [left, had value before] at differs
      cases differs
  · exact kept

end Book

namespace Keeper

variable [Scalar R] {keeper : Keeper R} {session : String} {round : Option String}
  {template : Template R} {rank : ObjectDefinition R → Nat} {bound : Nat}

def refreshAll (keeper : Keeper R) (session : String) (round : Option String) (clocks : List R) :
    Keeper R :=
  keeper.afterAll (clocks.map (.refresh session round))

theorem revalued_after_refresh (keeper : Keeper R) (ownIds : keeper.book.OwnIds) (session : String)
    (round : Option String) (now : R) :
    Book.Revalued session keeper.book (keeper.after (.refresh session round now)).book := by
  rw [book_after_refresh]
  exact Book.revalued_refreshed ownIds session round now

theorem revalued_refreshAll (ownIds : keeper.book.OwnIds) (session : String)
    (round : Option String) (clocks : List R) :
    Book.Revalued session keeper.book (keeper.refreshAll session round clocks).book := by
  induction clocks generalizing keeper with
  | nil => exact .refl
  | cons now rest ih =>
    have first := keeper.revalued_after_refresh ownIds session round now
    exact first.trans (ih (first.ownIds ownIds))

theorem settles_refreshAll (ownIds : keeper.book.OwnIds)
    (templated : keeper.book.template? session = some template)
    (ranked : template.Ranked (keeper.book.sessionCategories session) rank)
    (settles : Book.Settles session round template rank bound keeper.book) (clocks : List R) :
    Book.Settles session round template rank (bound + clocks.length)
      (keeper.refreshAll session round clocks).book := by
  induction clocks generalizing keeper bound with
  | nil => exact settles
  | cons now rest ih =>
    have revalued := keeper.revalued_after_refresh ownIds session round now
    have next := settles.refreshed ownIds templated ranked now
    rw [Book.refreshed, ← book_after_refresh] at next
    rw [List.length_cons, Nat.add_comm rest.length, ← Nat.add_assoc]
    refine ih (revalued.ownIds ownIds) (revalued.template?.trans templated) ?_ next
    rwa [Book.sessionCategories, revalued.categories, ← Book.sessionCategories]

theorem computed_after_refreshAll (ownIds : keeper.book.OwnIds)
    (ranked : ∀ template, keeper.book.template? session = some template →
      template.Ranked (keeper.book.sessionCategories session) rank)
    (clocks : List R)
    (enough : ∀ template, keeper.book.template? session = some template →
      template.objects.length ≤ clocks.length) (now : R) (key : String) :
    (((keeper.refreshAll session round clocks).after (.refresh session round now)).book.objects.get?
        key).map ObjectInstance.computed =
      ((keeper.refreshAll session round clocks).book.objects.get? key).map
        ObjectInstance.computed := by
  have run := revalued_refreshAll ownIds session round clocks
  have settledIds := run.ownIds ownIds
  rw [book_after_refresh, ← Book.refreshed]
  cases templated : keeper.book.template? session with
  | none =>
    exact Book.computed_refreshed_of_untemplated settledIds (run.template?.trans templated)
      round now key
  | some template =>
    have settles := settles_refreshAll ownIds templated (ranked template templated)
      (Book.settles_zero ownIds templated round) clocks
    refine settles.computed_refreshed settledIds ?_ now key
    rw [Nat.zero_add]
    exact enough template templated

end Keeper

def pile (id : String) (calculation : Option String) : ObjectDefinition ℚ :=
  ⟨id, id, .number, some .shared, none, calculation, none, .null, none, none, none, none, [], none⟩

def pileTemplate : Template ℚ :=
  ⟨"t", "T", [pile "fourfold" (some "{double}*2"), pile "double" (some "{points}*2"),
    pile "points" none], [], [], "1.0"⟩

def heldPile (id : String) (number : ℚ) : ObjectInstance ℚ :=
  ⟨id, "s", id, .ofText (.real number), none, .nothing, none, 0, "manual", none⟩

def pileKeeper : Keeper ℚ where
  book :=
    { Book.empty with
      sessions := Table.ofList [("s", ⟨"s", "S", ["p"], [], [], [], some "t", {}⟩)]
      categories := Table.ofList
        [("bonus", ⟨"bonus", "s", "Bonus", .formula, none, some "{fourfold}+1", none, 0⟩)]
      templates := Table.ofList [("t", pileTemplate)]
      objects := Table.ofList [("fourfold", heldPile "fourfold" 0),
        ("double", heldPile "double" 0), ("points", heldPile "points" 3)] }
  windows := .standard

def pileRank (definition : ObjectDefinition ℚ) : Nat :=
  if definition.id = "points" then 0 else if definition.id = "double" then 1 else 2

theorem read_fourfold : Formula.tokenize (Text.trimmed "{double}*2") =
    .ok [.reference "double", .operator .times, .number "2"] := by
  rw [Formula.tokenize, show (Text.trimmed "{double}*2").toList = "{double}*2".toList by decide]
  repeat first
    | exact Formula.scan_nil
    | refine Formula.scan_cons rfl rfl ?_

theorem reference_of_pile {definition : ObjectDefinition ℚ} {formula name : String}
    (member : definition ∈ pileTemplate.objects)
    (calculated : present definition.calculation = some formula)
    (referred : name ∈ Formula.references formula) :
    definition.id = "fourfold" ∧ name = "double" ∨ definition.id = "double" ∧ name = "points" := by
  simp only [pileTemplate, List.mem_cons, List.not_mem_nil, or_false] at member
  rcases member with rfl | rfl | rfl
  · cases calculated
    exact .inl ⟨rfl, by simpa using (Formula.mem_references_iff_of_read read_fourfold).1 referred⟩
  · cases calculated
    exact .inr ⟨rfl, by simpa using (Formula.mem_references_iff_of_read read_double).1 referred⟩
  · cases calculated

theorem ranked_piles : pileTemplate.Ranked (pileKeeper.book.sessionCategories "s") pileRank where
  definitionIds := by decide
  categoryIds := by decide
  objects definition member formula calculated name referred found named := by
    rcases reference_of_pile member calculated referred with ⟨id, rfl⟩ | ⟨id, rfl⟩
    · cases named
      simp [pileRank, id, pile]
    · cases named
      simp [pileRank, id, pile]
  totals definition member formula calculated name referred := by
    have unknown : name ≠ totalReference ∧
        (pileKeeper.book.sessionCategories "s").find? (fun category =>
          Template.refersTo name category.name category.id) = none := by
      rcases reference_of_pile member calculated referred with ⟨-, rfl⟩ | ⟨-, rfl⟩ <;>
        exact ⟨by decide, rfl⟩
    refine ⟨unknown.1, fun category found => ?_⟩
    rw [unknown.2] at found
    cases found

theorem computed_after_refreshAll_piles :
    pileKeeper.book.OwnIds ∧
    pileTemplate.Ranked (pileKeeper.book.sessionCategories "s") pileRank ∧
    pileTemplate.objects.length = 3 ∧
    ∀ key, (((pileKeeper.refreshAll "s" none [1, 2, 3]).after
        (.refresh "s" none 4)).book.objects.get? key).map ObjectInstance.computed =
      ((pileKeeper.refreshAll "s" none [1, 2, 3]).book.objects.get? key).map
        ObjectInstance.computed := by
  have ownIds : pileKeeper.book.OwnIds := by
    have kept : pileKeeper.book.Kept := by decide +kernel
    exact kept.ownIds
  have templated {template : Template ℚ}
      (known : pileKeeper.book.template? "s" = some template) : template = pileTemplate :=
    (Option.some.inj known).symm
  refine ⟨ownIds, ranked_piles, rfl, fun key => ?_⟩
  exact Keeper.computed_after_refreshAll ownIds
    (fun template known => templated known ▸ ranked_piles) [1, 2, 3]
    (fun template known => templated known ▸ Nat.le_refl 3) 4 key

end Scorekeeper
