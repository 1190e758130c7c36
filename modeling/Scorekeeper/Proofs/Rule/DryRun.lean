import Scorekeeper.Proofs.Totals.Frame
import Scorekeeper.Rule.Evaluation
import Scorekeeper.Scalar.Double

set_option autoImplicit false

namespace Scorekeeper

variable {R : Type} [Scalar R]

def Rule.Backed (book : Book R) (session : String) (rule : Rule R) : Prop :=
  ∃ template, book.template? session = some template ∧ ∃ original ∈ template.rules,
    original.enabled = true ∧
      (rule.templateRule = some original.id ∨
        rule.templateRule = none ∧
          original.condition.same book.oneText rule.condition = true ∧
          original.action.same book.oneText rule.action = true)

theorem Rule.backed_iff {book : Book R} {session : String} {rule : Rule R} :
    rule.Backed book session ↔ ∃ template, book.template? session = some template ∧
      rule.isBacked book.oneText template.rules = true := by
  refine exists_congr fun template => and_congr_right fun _ => ?_
  simp only [isBacked, List.any_eq_true, List.mem_filter, and_assoc]
  refine exists_congr fun original => and_congr_right fun _ => and_congr_right fun _ => ?_
  cases rule.templateRule with
  | none => simp [Rule.matches]
  | some id =>
    simp only [Option.some.injEq, reduceCtorEq, false_and, or_false, decide_eq_true_eq]
    exact eq_comm

instance {book : Book R} {session : String} {rule : Rule R} :
    Decidable (rule.Backed book session) :=
  decidable_of_iff ((book.template? session).any fun template =>
    rule.isBacked book.oneText template.rules) (by
      rw [Rule.backed_iff]
      simp [Option.any_eq_true])

def Scope.firing (scope : Scope R) : List (Rule R) :=
  (scope.book.sessionRules scope.session).filter fun rule =>
    rule.enabled && rule.Backed scope.book scope.session

theorem Rule.test_posting? (rule : Rule R) (scope : Scope R) (now : R) :
    (rule.test scope now).posting? =
      match rule.condition.holds scope with
      | .ok true => rule.posting? scope now
      | _ => none := by
  rw [test]
  cases rule.condition.holds scope with
  | error fault => rfl
  | ok met => cases met <;> rfl

theorem activeRules_eq_firing (scope : Scope R) :
    activeRules scope.book scope.session = scope.firing := by
  rw [activeRules, Scope.firing]
  cases template : scope.book.template? scope.session with
  | none =>
    have unbacked (rule : Rule R) : ¬rule.Backed scope.book scope.session := by
      rintro ⟨_, templated, -⟩
      cases template.symm.trans templated
    simp [unbacked]
  | some template =>
    refine List.filter_congr fun rule _ => ?_
    simp [Rule.backed_iff, *]

theorem evaluateRules_eq_tests (scope : Scope R) (now : R) :
    evaluateRules scope now =
      scope.firing.filterMap fun rule => (rule.test scope now).posting? := by
  simp only [Rule.test_posting?]
  rw [evaluateRules, ← activeRules_eq_firing]
  cases known : scope.book.session? scope.session with
  | none => simp [activeRules, Book.template?, known]
  | some found => rfl

def Session.withoutRule (session : Session) (rule : String) : Session :=
  { session with rules := session.rules.filter (· ≠ rule) }

def Book.detach (book : Book R) (session rule : String) : Book R :=
  match book.session? session with
  | none => book
  | some found =>
    { book with sessions := book.sessions.put session (found.withoutRule rule) }

namespace Book

omit [Scalar R]

variable (book : Book R) (session rule : String)

theorem session?_detach : (book.detach session rule).session? session =
    (book.session? session).map (·.withoutRule rule) := by
  rw [detach]
  cases known : book.session? session with
  | none => exact known
  | some found =>
    rw [session?, Table.get?_put, if_pos rfl]
    rfl

theorem detach_eq : ∃ sessions, book.detach session rule = { book with sessions } := by
  rw [detach]
  cases book.session? session with
  | none => exact ⟨_, rfl⟩
  | some found => exact ⟨_, rfl⟩

def attached : List String :=
  ((book.session? session).map Session.rules).getD []

theorem sessionRules_eq :
    book.sessionRules session = (book.attached session).filterMap book.rules.get? := by
  rw [sessionRules, attached]
  cases book.session? session <;> rfl

theorem sessionRules_detach : (book.detach session rule).sessionRules session =
    (book.attached session).filterMap fun id =>
      if id ≠ rule then book.rules.get? id else none := by
  obtain ⟨sessions, same⟩ := book.detach_eq session rule
  rw [sessionRules_eq, attached, session?_detach, same, attached]
  cases book.session? session with
  | none => rfl
  | some found => simp [Session.withoutRule, List.filterMap_filter]

theorem scoredAlikeIn_detach : (book.detach session rule).ScoredAlikeIn session book := by
  have known := book.session?_detach session rule
  obtain ⟨sessions, same⟩ := book.detach_eq session rule
  have template : (book.detach session rule).template? session = book.template? session := by
    rw [template?, known, same, template?]
    cases book.session? session <;> rfl
  have objects : (book.detach session rule).sessionObjects session =
      book.sessionObjects session := by
    rw [sessionObjects, listed, known, same, sessionObjects, listed]
    cases book.session? session <;> rfl
  have settings : ((book.detach session rule).session? session).map Session.settings =
      (book.session? session).map Session.settings := by
    rw [known, Option.map_map]
    rfl
  have categories : (book.detach session rule).sessionCategories session =
      book.sessionCategories session := by
    rw [same, sessionCategories, sessionCategories]
  refine ⟨⟨template, settings, ?rounds, objects, congrArg labels categories⟩, categories,
    ?entries⟩
  case rounds => rw [same]
  case entries => rw [same, sessionEntries, sessionEntries]

end Book

section Within

variable {scope : Scope R} {book : Book R}

theorem Condition.holds_within (scored : book.ScoredAlikeIn scope.session scope.book)
    (condition : Condition R) :
    condition.holds (scope.within book) = condition.holds scope := by
  have total : playerTotal (scope.within book) = playerTotal scope := by
    rw [playerTotal, playerTotal, scored.categoryTotals]
  have count : roundEntries (scope.within book) condition.round =
      roundEntries scope condition.round := by
    rw [roundEntries, roundEntries]
    exact congrArg (List.filter _) (scored.playerEntries scope.player)
  have measured : condition.measured? (scope.within book) = condition.measured? scope := by
    rw [measured?, measured?, total, count, scored.categoryTotals,
      Scope.objectNumber?_within scored.read]
  rw [holds, holds, measured]

theorem Rule.posting?_within (scored : book.ScoredAlikeIn scope.session scope.book)
    (rule : Rule R) (now : R) :
    rule.posting? (scope.within book) now = rule.posting? scope now := by
  have target : rule.action.targetTotal (scope.within book) = rule.action.targetTotal scope := by
    rw [Action.targetTotal, Action.targetTotal, playerTotal, playerTotal, scored.categoryTotals]
  rw [posting?, posting?, target]
  rfl

theorem Rule.test_within (scored : book.ScoredAlikeIn scope.session scope.book)
    (rule : Rule R) (now : R) : rule.test (scope.within book) now = rule.test scope now := by
  rw [test, test, Condition.holds_within scored, posting?_within scored]

end Within

def Scope.detach (scope : Scope R) (rule : String) : Scope R :=
  scope.within (scope.book.detach scope.session rule)

theorem Rule.backed_detach {scope : Scope R} {id : String} {rule : Rule R} :
    rule.Backed (scope.detach id).book scope.session ↔ rule.Backed scope.book scope.session := by
  have templates : (scope.detach id).book.template? scope.session =
      scope.book.template? scope.session :=
    (scope.book.scoredAlikeIn_detach scope.session id).read.template?
  have text : (scope.detach id).book.oneText = scope.book.oneText := by
    obtain ⟨sessions, same⟩ := scope.book.detach_eq scope.session id
    rw [Scope.detach, Scope.within, same]
  rw [Rule.Backed, Rule.Backed, templates, text]

theorem evaluateRules_detach {scope : Scope R} {id : String} {rule : Rule R} {now : R}
    (attached : scope.book.rules.get? id = some rule)
    (idle : (rule.test scope now).posting? = none) :
    evaluateRules (scope.detach id) now = evaluateRules scope now := by
  have scored := scope.book.scoredAlikeIn_detach scope.session id
  have tests (rule : Rule R) : rule.test (scope.detach id) now = rule.test scope now :=
    rule.test_within scored now
  have rules : (scope.detach id).book.sessionRules scope.session = _ :=
    scope.book.sessionRules_detach scope.session id
  have firing : (scope.detach id).firing =
      ((scope.detach id).book.sessionRules scope.session).filter fun rule =>
        rule.enabled && rule.Backed (scope.detach id).book scope.session := rfl
  rw [evaluateRules_eq_tests, evaluateRules_eq_tests, firing, rules, Scope.firing,
    Book.sessionRules_eq]
  simp only [tests, Rule.backed_detach, List.filterMap_filter, List.filterMap_filterMap]
  congr 1
  funext other
  by_cases same : other = id
  · simp [same, attached, idle]
  · simp [same]

theorem evaluateRules_eq_dryRuns (scope : Scope R) (now : R) :
    evaluateRules scope now =
      ((scope.book.sessionRules scope.session).filter fun rule =>
        rule.enabled && rule.Backed scope.book scope.session).filterMap
          (fun rule => (rule.test scope now).posting?) ∧
    ∀ id rule fault, scope.book.rules.get? id = some rule →
      rule.condition.holds scope = .error fault →
      rule.test scope now = ⟨false, none⟩ ∧
        evaluateRules (scope.detach id) now = evaluateRules scope now := by
  refine ⟨evaluateRules_eq_tests scope now, fun id rule fault attached raises => ?_⟩
  have tested : rule.test scope now = ⟨false, none⟩ := by
    rw [Rule.test, raises]
  exact ⟨tested, evaluateRules_detach attached (by rw [tested])⟩

def everyEntry : Condition Float := ⟨.round, .atLeast, ⟨0, false⟩, none, none⟩

def hoardAtLeast : Condition Float := ⟨.category, .atLeast, ⟨1, false⟩, some "hoard", none⟩

def addFive : Action Float := ⟨.add, ⟨5, false⟩, none⟩

def hoardRule : Rule Float :=
  ⟨"hoard", "s", "hoard", hoardAtLeast, addFive, true, some "b"⟩

/-- A rule that looks at a number beyond the range of scores, between two copies of one that always
holds, of which the last says that it was copied from a rule that is not enabled. -/
def hoardScope : Scope Float where
  book :=
    { Book.empty with
      sessions := Table.ofList
        [("s", ⟨"s", "S", ["p"], [], ["first", "hoard", "last"], ["h"], some "t", {}⟩)]
      rules := Table.ofList
        [("first", ⟨"first", "s", "first", everyEntry, addFive, true, none⟩),
          ("hoard", hoardRule),
          ("last", ⟨"last", "s", "last", everyEntry, addFive, true, some "c"⟩)]
      templates := Table.ofList
        [("t", ⟨"t", "T",
          [⟨"hoard", "Hoard", .number, some .shared, none, none, none, .null, none, none, none,
            none, [], none⟩],
          [⟨"a", "first", everyEntry, addFive, true, false, none⟩,
            ⟨"b", "hoard", hoardAtLeast, addFive, true, false, none⟩,
            ⟨"c", "last", everyEntry, addFive, false, false, none⟩], [], "1.0"⟩)]
      objects := Table.ofList
        [("h", ⟨"h", "s", "hoard", .ofText (.whole (10 ^ 400)), none, .nothing, none, 0, "manual",
          none⟩)] }
  session := "s"
  player := some "p"

theorem holds_hoard : hoardRule.condition.holds hoardScope = .error .tooLarge := by
  have totals : categoryTotals hoardScope = .empty := by
    have categories : hoardScope.categories = [] := rfl
    have base : baseTotals hoardScope.book hoardScope.session hoardScope.player = .empty := rfl
    rw [categoryTotals, categories, base, nestedTotals, Forest.rollUp]
    simp only [Table.keys, Table.empty, List.map_nil, List.flatMap_nil, Forest.order]
    rfl
  have measured : hoardRule.condition.measured? hoardScope = hoardScope.objectNumber? "hoard" := by
    rw [Condition.measured?, totals]
    rfl
  rw [Condition.holds, measured]
  decide +kernel

theorem evaluateRules_hoard :
    hoardScope.book.rules.get? "hoard" = some hoardRule ∧
    hoardRule.condition.holds hoardScope = .error .tooLarge ∧
    hoardRule.test hoardScope 1 = ⟨false, none⟩ ∧
    evaluateRules (hoardScope.detach "hoard") 1 = evaluateRules hoardScope 1 ∧
    (evaluateRules hoardScope 1).map (·.note) = [some "Auto: first"] := by
  have attached : hoardScope.book.rules.get? "hoard" = some hoardRule := rfl
  obtain ⟨tested, detached⟩ :=
    (evaluateRules_eq_dryRuns hoardScope 1).2 "hoard" hoardRule .tooLarge attached holds_hoard
  refine ⟨attached, holds_hoard, tested, detached, ?_⟩
  rw [← detached]
  decide +kernel

end Scorekeeper
