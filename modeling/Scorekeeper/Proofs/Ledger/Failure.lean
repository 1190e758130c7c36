import Scorekeeper.Ledger.Cycle
import Scorekeeper.Object.Evaluation
import Scorekeeper.Proofs.Except
import Scorekeeper.Proofs.Formula.Unanswered
import Scorekeeper.Proofs.Totals.Failing

set_option autoImplicit false

/-!
# Failures that stay inside

Formulas fail, and so does arithmetic on whole numbers beyond the range of scores.  Here the totals,
the evaluation of objects, the rules and the cycle are followed with these failures left open: what
fails breaks off everything around it, up to the nearest of the places that go on with something
else.  These are around each formula and around each rule.  They suffice, since the totals, which
are worked out in between, never fail.
-/

namespace Scorekeeper

abbrev Raising (R A : Type) : Type :=
  Except (Formula.Fault R) A

namespace Raising

variable {R A B : Type}

def guarded (attempt : Raising R A) (otherwise : A) : Raising R A :=
  tryCatch attempt fun _ => pure otherwise

def ofArithmetic (result : Except ArithmeticFault A) : Raising R A :=
  result.mapError .arithmetic

theorem mapM_eq_ok {f : A → Raising R B} {g : A → B} (same : ∀ a, f a = .ok (g a)) (xs : List A) :
    xs.mapM f = .ok (xs.map g) := by
  rw [show f = fun a => pure (g a) from funext same, List.mapM_pure]
  rfl

theorem foldlM_eq_ok {f : B → A → Raising R B} {g : B → A → B}
    (same : ∀ b a, f b a = .ok (g b a)) (xs : List A) (start : B) :
    xs.foldlM f start = .ok (xs.foldl g start) := by
  rw [show f = fun b a => pure (g b a) from funext fun b => funext (same b), List.foldlM_pure]
  rfl

variable [Scalar R]

section Totals

variable [Amount R A]

def applyFormula (scope : Scope R) (totals : Table A) (category : Category R) :
    Raising R (Table A) :=
  match category.effective?, totals.contains category.id with
  | some formula, true =>
    guarded (do
      let x ← Formula.evaluate (scope.context totals) formula
      return totals.put category.id (Amount.ofReal x)) totals
  | _, _ => return totals

def applyFormulas (scope : Scope R) (categories : List (Category R)) (totals : Table A) :
    Raising R (Table A) :=
  categories.foldlM (applyFormula scope) totals

@[simp] theorem applyFormula_eq (scope : Scope R) (totals : Table A) (category : Category R) :
    applyFormula scope totals category = .ok (Scorekeeper.applyFormula scope totals category) := by
  rw [applyFormula, Scorekeeper.applyFormula]
  cases category.effective? with
  | none => rfl
  | some formula =>
    cases totals.contains category.id with
    | false => rfl
    | true =>
      dsimp only
      cases Formula.evaluate (scope.context totals) formula <;> rfl

@[simp] theorem applyFormulas_eq (scope : Scope R) (categories : List (Category R))
    (totals : Table A) : applyFormulas scope categories totals =
      .ok (Scorekeeper.applyFormulas scope categories totals) :=
  foldlM_eq_ok (applyFormula_eq scope) categories totals

end Totals

def categoryTotals (scope : Scope R) : Raising R (Table R) := do
  let base := baseTotals scope.book scope.session scope.player
  let formed ← applyFormulas scope scope.categories (nestedTotals scope.categories base)
  return applyWeights scope.categories formed

@[simp] theorem categoryTotals_eq (scope : Scope R) :
    categoryTotals scope = .ok (Scorekeeper.categoryTotals scope) := by
  rw [categoryTotals, applyFormulas_eq]
  rfl

def objectTotals (scope : Scope R) : Raising R (Table R) :=
  if scope.player.isSome then categoryTotals scope else return .empty

@[simp] theorem objectTotals_eq (scope : Scope R) :
    objectTotals scope = .ok scope.objectTotals := by
  rw [objectTotals, Scope.objectTotals, categoryTotals_eq]
  split <;> rfl

def computed (scope : Scope R) (totals : Table R) (definition : ObjectDefinition R)
    (object : ObjectInstance R) : Raising R (Held R) :=
  match present definition.calculation with
  | none => return object.stored
  | some formula =>
    guarded (do return .ofScore (← Formula.evaluate (scope.context totals) formula)) object.stored

@[simp] theorem computed_eq (scope : Scope R) (totals : Table R) (definition : ObjectDefinition R)
    (object : ObjectInstance R) :
    computed scope totals definition object = .ok (scope.computed totals definition object) := by
  rw [computed, Scope.computed]
  cases present definition.calculation with
  | none => rfl
  | some formula =>
    dsimp only
    cases Formula.evaluate (scope.context totals) formula <;> rfl

def scoreImpact (scope : Scope R) (totals : Table R) (definition : ObjectDefinition R)
    (object : ObjectInstance R) : Raising R R :=
  match present definition.scoreImpact, present object.player, present scope.player with
  | some formula, some _, some _ =>
    guarded (Formula.evaluate (scope.context totals) formula) Scalar.zero
  | _, _, _ => return Scalar.zero

@[simp] theorem scoreImpact_eq (scope : Scope R) (totals : Table R)
    (definition : ObjectDefinition R) (object : ObjectInstance R) :
    scoreImpact scope totals definition object =
      .ok (scope.scoreImpact totals definition object) := by
  rw [scoreImpact, Scope.scoreImpact]
  cases present definition.scoreImpact with
  | none => rfl
  | some formula =>
    cases present object.player <;> cases present scope.player <;> try rfl
    dsimp only
    cases Formula.evaluate (scope.context totals) formula <;> rfl

def impactPosting? (scope : Scope R) (totals : Table R) (now : R)
    (definition : ObjectDefinition R) (object : ObjectInstance R) :
    Raising R (Option (Posting R)) := do
  let impact ← scoreImpact scope totals definition object
  if Scalar.le (Scalar.abs impact) Scalar.tolerance then return none
  return some
    { session := scope.session
      player := scope.player
      value := impact
      createdAt := now
      category := none
      round := scope.round
      note := some (Scope.impactNote definition.name)
      source := .ruleEngine }

@[simp] theorem impactPosting?_eq (scope : Scope R) (totals : Table R) (now : R)
    (definition : ObjectDefinition R) (object : ObjectInstance R) :
    impactPosting? scope totals now definition object =
      .ok (scope.impactPosting? totals now definition object) := by
  rw [impactPosting?, Scope.impactPosting?, scoreImpact_eq, ok_bind]
  split <;> rfl

def updated? (scope : Scope R) (totals : Table R) (now : R) (definition : ObjectDefinition R)
    (object : ObjectInstance R) : Raising R (Option (ObjectInstance R)) := do
  let state := scope.state definition object
  let withState := { object with state := some state }
  -- A value is computed only for a live object, and only what is new is reported.
  let unlessSame := if object.state ≠ some state then some withState else none
  if (present definition.calculation).isSome && scope.isLiveObject definition object then
    let computed ← computed scope totals definition object
    if object.computed.same computed then return unlessSame
    return some { withState with computed, lastComputedAt := some now }
  return unlessSame

@[simp] theorem updated?_eq (scope : Scope R) (totals : Table R) (now : R)
    (definition : ObjectDefinition R) (object : ObjectInstance R) :
    updated? scope totals now definition object =
      .ok (scope.updated? totals now definition object) := by
  simp only [updated?, Scope.updated?, computed_eq, ok_bind]
  cases ((present definition.calculation).isSome && scope.isLiveObject definition object) with
  | false => simp [pure, Except.pure]
  | true =>
    cases object.computed.same (scope.computed totals definition object) <;>
      simp [pure, Except.pure]

def posting? (placed : Placed R) (now : R) (definition : ObjectDefinition R) :
    Raising R (Option (Posting R)) := do
  if (present definition.scoreImpact).isSome && (present placed.scope.player).isSome &&
      placed.scope.isLiveObject definition placed.object then
    let fresh ← updated? placed.scope placed.totals now definition placed.object
    impactPosting? placed.scope placed.totals now definition (fresh.getD placed.object)
  else return none

@[simp] theorem posting?_eq (placed : Placed R) (now : R) (definition : ObjectDefinition R) :
    posting? placed now definition = .ok (placed.posting? now definition) := by
  rw [posting?, Placed.posting?]
  split
  · rw [updated?_eq, ok_bind, impactPosting?_eq]
    rfl
  · rfl

def placed (scope : Scope R) : Raising R (List (Placed R)) := do
  let totals ← objectTotals scope
  return ((scope.book.sessionObjects scope.session).filter (·.player = scope.player)).map
    fun object => { scope, totals, object }

@[simp] theorem placed_eq (scope : Scope R) : placed scope = .ok scope.placed := by
  rw [placed, objectTotals_eq]
  rfl

def placedObjects (book : Book R) (session : String) (players : List String)
    (round : Option String) : Raising R (List (Placed R)) := do
  let placements ← (ownerScopes book session players round).mapM placed
  return firstOfEachId [] placements.flatten

@[simp] theorem placedObjects_eq (book : Book R) (session : String) (players : List String)
    (round : Option String) : placedObjects book session players round =
      .ok (Scorekeeper.placedObjects book session players round) := by
  rw [placedObjects, mapM_eq_ok placed_eq, Scorekeeper.placedObjects, List.flatMap_def]
  rfl

def evaluated (template : Template R) (placements : List (Placed R))
    (evaluate : Placed R → ObjectDefinition R → Raising R (Option A)) : Raising R (List A) := do
  let outcomes ← placements.mapM fun placed =>
    match template.definition? placed.object.definition with
    | none => return none
    | some definition => evaluate placed definition
  return outcomes.filterMap id

omit [Scalar R] in
theorem evaluated_eq {template : Template R} {placements : List (Placed R)}
    {evaluate : Placed R → ObjectDefinition R → Raising R (Option A)}
    {evaluate' : Placed R → ObjectDefinition R → Option A}
    (same : ∀ placed definition, evaluate placed definition = .ok (evaluate' placed definition)) :
    evaluated template placements evaluate = .ok (placements.filterMap fun placed =>
      (template.definition? placed.object.definition).bind (evaluate' placed)) := by
  have step (placed : Placed R) :
      (match template.definition? placed.object.definition with
        | none => return none
        | some definition => evaluate placed definition) =
      .ok ((template.definition? placed.object.definition).bind (evaluate' placed)) := by
    cases template.definition? placed.object.definition with
    | none => rfl
    | some definition => exact same placed definition
  rw [evaluated, mapM_eq_ok step, ok_bind, List.filterMap_map]
  rfl

def evaluateObjects (book : Book R) (session : String) (round : Option String) (now : R) :
    Raising R (ObjectEvaluation R) :=
  match book.session? session, book.template? session with
  | some found, some template => do
    let placements ← placedObjects book session found.players round
    let updated ← evaluated template placements fun placed definition =>
      updated? placed.scope placed.totals now definition placed.object
    let postings ← evaluated template placements fun placed => posting? placed now
    return ⟨updated, postings⟩
  | _, _ => return ⟨[], []⟩

@[simp] theorem evaluateObjects_eq (book : Book R) (session : String) (round : Option String)
    (now : R) : evaluateObjects book session round now =
      .ok (Scorekeeper.evaluateObjects book session round now) := by
  have updated (placed : Placed R) (definition : ObjectDefinition R) :
      updated? placed.scope placed.totals now definition placed.object =
        .ok (placed.updated? now definition) := updated?_eq ..
  rw [evaluateObjects, Scorekeeper.evaluateObjects]
  cases book.session? session with
  | none => rfl
  | some found =>
    cases book.template? session with
    | none => rfl
    | some template =>
      dsimp only
      rw [placedObjects_eq, ok_bind, evaluated_eq updated, ok_bind,
        evaluated_eq fun placed => posting?_eq placed now]
      rfl

def pipeline (scope : Scope R) (now : R) : Raising R (ObjectEvaluation R × Table R) := do
  let objects ← evaluateObjects scope.book scope.session scope.round now
  let totals ← categoryTotals scope
  return (objects, totals)

@[simp] theorem pipeline_eq (scope : Scope R) (now : R) : pipeline scope now =
    .ok (Scorekeeper.evaluateObjects scope.book scope.session scope.round now,
      Scorekeeper.categoryTotals scope) := by
  rw [pipeline, evaluateObjects_eq, categoryTotals_eq]
  rfl

/-!
Rules: a rule with which anything fails posts nothing, and the others go on.  Totals are worked out
for a rule by all passes, although what comes of its objects is not used.
-/

def finalTotals (scope : Scope R) (now : R) : Raising R (Table R) := do
  let (_, totals) ← pipeline scope now
  return totals

@[simp] theorem finalTotals_eq (scope : Scope R) (now : R) :
    finalTotals scope now = .ok (Scorekeeper.categoryTotals scope) := by
  rw [finalTotals, pipeline_eq]
  rfl

def playerTotal (scope : Scope R) (now : R) : Raising R R := do
  let totals ← finalTotals scope now
  ofArithmetic (Amount.sumScore totals.values)

@[simp] theorem playerTotal_eq (scope : Scope R) (now : R) :
    playerTotal scope now = .ok (Scorekeeper.playerTotal scope) := by
  rw [playerTotal, finalTotals_eq]
  rfl

def measured? (condition : Condition R) (scope : Scope R) (now : R) :
    Raising R (Option (Quantity R)) :=
  match condition.subject with
  | .total => do return some (.real (← playerTotal scope now))
  | .category =>
    match present condition.category with
    | none => return none
    | some id => do
      match (← finalTotals scope now).get? id with
      | some total => return some (.real total)
      | none => ofArithmetic (scope.objectNumber? id)
  | .round => return some (.real (Scalar.whole (roundEntries scope condition.round).length))

theorem measured?_eq (condition : Condition R) (scope : Scope R) (now : R) :
    measured? condition scope now = ofArithmetic (condition.measured? scope) := by
  rw [measured?, Condition.measured?]
  cases condition.subject with
  | total =>
    dsimp only
    rw [playerTotal_eq]
    rfl
  | category =>
    cases present condition.category with
    | none => rfl
    | some id =>
      dsimp only
      rw [finalTotals_eq, ok_bind]
      cases (Scorekeeper.categoryTotals scope).get? id <;> rfl
  | round => rfl

def holds (condition : Condition R) (scope : Scope R) (now : R) : Raising R Bool := do
  match ← measured? condition scope now with
  | none => return false
  | some left => ofArithmetic (condition.comparison.holds left (.real condition.value.amount))

theorem holds_eq (condition : Condition R) (scope : Scope R) (now : R) :
    holds condition scope now = ofArithmetic (condition.holds scope) := by
  rw [holds, Condition.holds, measured?_eq]
  cases condition.measured? scope with
  | error fault => rfl
  | ok measured => cases measured <;> rfl

def targetTotal (action : Action R) (scope : Scope R) (now : R) : Raising R R :=
  match present action.target with
  | some id => do return ((← finalTotals scope now).get? id).getD Scalar.zero
  | none => playerTotal scope now

@[simp] theorem targetTotal_eq (action : Action R) (scope : Scope R) (now : R) :
    targetTotal action scope now = .ok (action.targetTotal scope) := by
  rw [targetTotal, Action.targetTotal]
  cases present action.target with
  | none => exact playerTotal_eq scope now
  | some id =>
    dsimp only
    rw [finalTotals_eq]
    rfl

def rulePosting? (rule : Rule R) (scope : Scope R) (now : R) : Raising R (Option (Posting R)) := do
  let difference := rule.action.difference (← targetTotal rule.action scope now)
  if Scalar.lt (Scalar.abs difference) Scalar.tolerance then return none
  return some
    { session := scope.session
      player := scope.player
      value := difference
      createdAt := now
      category := rule.action.target
      round := scope.round
      note := some rule.note
      source := .ruleEngine }

@[simp] theorem rulePosting?_eq (rule : Rule R) (scope : Scope R) (now : R) :
    rulePosting? rule scope now = .ok (rule.posting? scope now) := by
  rw [rulePosting?, Rule.posting?, targetTotal_eq, ok_bind]
  dsimp only
  split <;> rfl

def fired (rule : Rule R) (scope : Scope R) (now : R) : Raising R (Option (Posting R)) :=
  guarded (do
    if ← holds rule.condition scope now then rulePosting? rule scope now
    else return none) none

def evaluateRules (scope : Scope R) (now : R) : Raising R (List (Posting R)) :=
  match scope.book.session? scope.session with
  | none => return []
  | some _ => do
    let outcomes ← (activeRules scope.book scope.session).mapM fun rule => fired rule scope now
    return outcomes.filterMap id

theorem fired_eq (rule : Rule R) (scope : Scope R) (now : R) :
    fired rule scope now = .ok (match rule.condition.holds scope with
      | .ok true => rule.posting? scope now
      | _ => none) := by
  -- A condition that fails is caught here; what it asks to be posted cannot fail.
  rw [fired, holds_eq]
  cases rule.condition.holds scope with
  | error fault => rfl
  | ok met =>
    cases met with
    | false => rfl
    | true =>
      change guarded (rulePosting? rule scope now) none = _
      rw [rulePosting?_eq]
      rfl

@[simp] theorem evaluateRules_eq (scope : Scope R) (now : R) :
    evaluateRules scope now = .ok (Scorekeeper.evaluateRules scope now) := by
  rw [evaluateRules, Scorekeeper.evaluateRules]
  cases scope.book.session? scope.session with
  | none => rfl
  | some found =>
    dsimp only
    rw [mapM_eq_ok fun rule => fired_eq rule scope now, ok_bind, List.filterMap_map]
    rfl

def runCycle (windows : Windows R) (book : Book R) (session : String) (round : Option String)
    (now : R) : Raising R (CycleResult R) :=
  match trigger? book session with
  | none => return .skipped none .noManualEntry
  | some trigger => do
    if Scalar.lt windows.trigger (now - trigger.createdAt) then
      return .skipped trigger.player .triggerTooOld
    if alreadyProcessed windows book trigger then
      return .skipped trigger.player .alreadyProcessed
    let postings ← evaluateRules { book, session, player := trigger.player, round } now
    -- Nothing from here on works out a number that could fail.
    let (accepted, suppressed) := suppress id windows.duplicate
      ((book.sessionEntries session).map Entry.toPosting) postings
    return ⟨true, trigger.player, accepted, suppressed, none⟩

@[simp] theorem runCycle_eq (windows : Windows R) (book : Book R) (session : String)
    (round : Option String) (now : R) : runCycle windows book session round now =
      .ok (Scorekeeper.runCycle windows book session round now) := by
  rw [runCycle, Scorekeeper.runCycle]
  cases trigger? book session with
  | none => rfl
  | some trigger =>
    dsimp only
    rw [evaluateRules_eq, ok_bind]
    split
    · rfl
    · split <;> rfl

end Raising

variable {R : Type} [Scalar R]

theorem passes_contain_faults (scope : Scope R) (windows : Windows R) (now : R) :
    Raising.pipeline scope now =
      .ok (evaluateObjects scope.book scope.session scope.round now, categoryTotals scope) ∧
    Raising.evaluateObjects scope.book scope.session scope.round now =
      .ok (evaluateObjects scope.book scope.session scope.round now) ∧
    Raising.evaluateRules scope now = .ok (evaluateRules scope now) ∧
    Raising.runCycle windows scope.book scope.session scope.round now =
      .ok (runCycle windows scope.book scope.session scope.round now) ∧
    ∀ {A : Type} [Amount R A] (totals : Table A) (before after : List (Category R))
      (category : Category R) (formula : String) (fault : Formula.Fault R)
      (categories : Table (Category R)),
      category.formula = some formula →
      Formula.evaluate (scope.context (applyFormulas scope before totals)) formula =
        .error fault →
      labels (scope.withCategories categories).categories = labels scope.categories →
      applyFormulas (scope.withCategories categories)
          (before ++ category.withoutFormula :: after) totals =
        applyFormulas scope (before ++ category :: after) totals := by
  refine ⟨?pipeline, ?objects, ?rules, ?cycle, ?formulas⟩
  case pipeline => exact Raising.pipeline_eq scope now
  case objects => exact Raising.evaluateObjects_eq ..
  case rules => exact Raising.evaluateRules_eq scope now
  case cycle => exact Raising.runCycle_eq ..
  case formulas =>
    intro A _ totals before after category formula fault categories given fails same
    exact applyFormulas_of_fails given fails same

/-- The maximum of a single number is none. -/
def lonely : Category ℚ :=
  ⟨"c", "s", "Points", .formula, none, some "max(1)", none, 0⟩

def lonelyScope : Scope ℚ where
  book :=
    { Book.empty with
      sessions := Table.ofList [("s", ⟨"s", "S", ["p"], [], [], [], none, {}⟩)]
      categories := Table.ofList [("c", lonely)]
      entries := Table.ofList
        [("m", ⟨⟨"s", some "p", 4, 0, some "c", none, none, .manual⟩, "m"⟩)] }
  session := "s"
  player := some "p"

theorem passes_contain_loneArgument :
    Raising.runCycle .standard lonelyScope.book "s" none 0 =
      .ok (runCycle .standard lonelyScope.book "s" none 0) ∧
    lonely.formula = some "max(1)" ∧
    ∀ totals : Table ℚ,
      Formula.evaluate (lonelyScope.context totals) "max(1)" =
        .error (.arithmetic .loneArgument) ∧
      applyFormulas (lonelyScope.withCategories (Table.ofList [("c", lonely.withoutFormula)]))
          [lonely.withoutFormula] totals =
        applyFormulas lonelyScope [lonely] totals := by
  have contained := passes_contain_faults lonelyScope .standard 0
  refine ⟨contained.2.2.2.1, rfl, fun totals => ⟨Formula.evaluate_loneArgument _, ?_⟩⟩
  exact contained.2.2.2.2 totals [] [] lonely "max(1)" _ _ rfl (Formula.evaluate_loneArgument _) rfl

end Scorekeeper
