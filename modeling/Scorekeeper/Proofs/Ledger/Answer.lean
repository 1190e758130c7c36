import Scorekeeper.Proofs.Ledger.Calls
import Scorekeeper.Proofs.Ledger.Cycle
import Scorekeeper.Proofs.Scalar.Exact

set_option autoImplicit false

namespace Scorekeeper

variable {R : Type} [Scalar R]

structure CycleRun (R : Type) where
  freshId : Nat → String
  round : Option String
  now : R

section Runs

variable (windows : Windows R) (session : String)

def CycleRun.commits (run : CycleRun R) (book : Book R) : List (Posting R) :=
  (runCycle windows book session run.round run.now).committed

def CycleRun.after (run : CycleRun R) (book : Book R) : Book R :=
  book.addEntries (withIds run.freshId (run.commits windows session book))

def commitsOf : Book R → List (CycleRun R) → List (List (Posting R))
  | _, [] => []
  | book, run :: rest =>
    run.commits windows session book :: commitsOf (run.after windows session book) rest

def RunsDrawUnused : Book R → List (CycleRun R) → Prop
  | _, [] => True
  | book, run :: rest =>
    Unused run.freshId book ∧ RunsDrawUnused (run.after windows session book) rest

end Runs

theorem mem_of_latest? {entries : List (Entry R)} {entry : Entry R}
    (latest : latest? entries = some entry) : entry ∈ entries := by
  cases entries with
  | nil => cases latest
  | cons first rest =>
    obtain rfl := Option.some.inj latest
    refine List.foldlRecOn rest _ List.mem_cons_self fun best known other member => ?_
    split
    · exact List.mem_cons_of_mem _ member
    · exact known

theorem session_of_trigger? {book : Book R} {session : String} {trigger : Entry R}
    (found : trigger? book session = some trigger) : trigger.session = session := by
  have member := (List.mem_filter.1 (mem_of_latest? found)).1
  simpa using (List.mem_filter.1 member).2

variable {windows : Windows R} {session : String} {book : Book R} {run : CycleRun R}
  {trigger : Entry R}

theorem sessionEntries_after (unused : Unused run.freshId book) :
    (run.after windows session book).sessionEntries session = book.sessionEntries session ++
      withIds run.freshId (run.commits windows session book) := by
  have committable := committable_runCycle windows book session run.round run.now
  have own : ∀ entry ∈ withIds run.freshId (run.commits windows session book),
      decide (entry.session = session) = true := by
    intro entry member
    have posted := List.mem_map_of_mem (f := Entry.toPosting) member
    rw [map_toPosting_withIds] at posted
    exact decide_eq_true (committable.owned _ posted).1
  rw [CycleRun.after, unused.sessionEntries, List.filter_eq_self.2 own]

theorem trigger?_after (unused : Unused run.freshId book) :
    trigger? (run.after windows session book) session = trigger? book session := by
  have committable := committable_runCycle windows book session run.round run.now
  have made : ∀ entry ∈ withIds run.freshId (run.commits windows session book),
      ¬ decide (entry.source = .manual) = true := by
    intro entry member
    have posted := List.mem_map_of_mem (f := Entry.toPosting) member
    rw [map_toPosting_withIds] at posted
    have source : entry.source = .ruleEngine := (committable.owned _ posted).2.2
    simp [source]
  unfold trigger?
  rw [sessionEntries_after unused, List.filter_append, List.filter_eq_nil_iff.2 made,
    List.append_nil]

theorem commits_of_no_trigger (none : trigger? book session = none) :
    run.commits windows session book = [] := by
  rw [CycleRun.commits, runCycle, none]
  rfl

theorem commits_of_alreadyProcessed (found : trigger? book session = some trigger)
    (answered : alreadyProcessed windows book trigger = true) :
    run.commits windows session book = [] := by
  rcases runCycle_cases windows book session run.round run.now with
    ⟨reason, skipped⟩ | ⟨other, same, -, unanswered, -⟩
  · rw [CycleRun.commits, skipped, CycleResult.skipped]
  · obtain rfl := Option.some.inj (found.symm.trans same)
    rw [unanswered] at answered
    cases answered

theorem alreadyProcessed_after (unused : Unused run.freshId book)
    (found : trigger? book session = some trigger)
    (answered : alreadyProcessed windows book trigger = true) :
    alreadyProcessed windows (run.after windows session book) trigger = true := by
  unfold alreadyProcessed at answered ⊢
  rw [session_of_trigger? found] at answered ⊢
  rw [sessionEntries_after unused, List.any_append, answered, Bool.true_or]

theorem commits_of_answered {runs : List (CycleRun R)}
    (unused : RunsDrawUnused windows session book runs)
    (found : trigger? book session = some trigger)
    (answered : alreadyProcessed windows book trigger = true) :
    ∀ committed ∈ commitsOf windows session book runs, committed = [] := by
  induction runs generalizing book with
  | nil => simp [commitsOf]
  | cons run rest ih =>
    have later := ih unused.2 ((trigger?_after unused.1).trans found)
      (alreadyProcessed_after unused.1 found answered)
    intro committed member
    rcases List.mem_cons.1 member with rfl | other
    · exact commits_of_alreadyProcessed found answered
    · exact later committed other

theorem dated_of_mem_commits (found : trigger? book session = some trigger)
    {posting : Posting R} (committed : posting ∈ run.commits windows session book) :
    posting.player = trigger.player ∧ posting.createdAt = run.now ∧
      Scalar.lt windows.trigger (run.now - trigger.createdAt) = false := by
  unfold CycleRun.commits at committed
  rcases runCycle_cases windows book session run.round run.now with
    ⟨reason, skipped⟩ | ⟨other, same, recent, -, ran⟩
  · simp [skipped, CycleResult.skipped] at committed
  · obtain rfl := Option.some.inj (found.symm.trans same)
    rw [ran] at committed
    have evaluated := sublist_suppress.subset committed
    exact ⟨(of_mem_evaluateRules evaluated).2.1, createdAt_of_mem_evaluateRules evaluated, recent⟩

section Exact

variable [Exact R]

theorem alreadyProcessed_of_commits (shorter : Scalar.lt windows.trigger windows.followup = true)
    (unused : Unused run.freshId book) (found : trigger? book session = some trigger)
    (later : Scalar.le trigger.createdAt run.now = true)
    (commits : run.commits windows session book ≠ []) :
    alreadyProcessed windows (run.after windows session book) trigger = true := by
  obtain ⟨posting, committed⟩ := List.exists_mem_of_ne_nil _ commits
  have source := (committable_runCycle windows book session run.round run.now).owned _ committed
  obtain ⟨player, dated, recent⟩ := dated_of_mem_commits found committed
  have within : Scalar.lt posting.createdAt (trigger.createdAt + windows.followup) = true := by
    simp only [Exact.lt_iff, Exact.lt_eq_false_iff, Exact.value_sub, Exact.value_add] at *
    rw [dated]
    linarith
  rw [← map_toPosting_withIds run.freshId (run.commits windows session book)] at committed
  obtain ⟨entry, added, rfl⟩ := List.mem_map.1 committed
  unfold alreadyProcessed
  rw [session_of_trigger? found, sessionEntries_after unused, List.any_append, Bool.or_eq_true]
  refine .inr (List.any_eq_true.2 ⟨entry, added, ?_⟩)
  simp [answers, source.2.2, player, dated, later, dated ▸ within]

theorem countP_commitsOf_le_one {runs : List (CycleRun R)}
    (shorter : Scalar.lt windows.trigger windows.followup = true)
    (later : ∀ trigger, trigger? book session = some trigger →
      ∀ run ∈ runs, Scalar.le trigger.createdAt run.now = true)
    (unused : RunsDrawUnused windows session book runs) :
    (commitsOf windows session book runs).countP (fun committed => !committed.isEmpty) ≤ 1 := by
  induction runs generalizing book with
  | nil => simp [commitsOf]
  | cons run rest ih =>
    have same : trigger? (run.after windows session book) session = trigger? book session :=
      trigger?_after unused.1
    rw [commitsOf, List.countP_cons]
    by_cases commits : run.commits windows session book = []
    · have others := ih (fun trigger found other member =>
        later trigger (same ▸ found) other (List.mem_cons_of_mem _ member)) unused.2
      simpa [commits] using others
    · cases found : trigger? book session with
      | none => exact absurd (commits_of_no_trigger found) commits
      -- Once the trigger is answered, no later run commits anything.
      | some trigger =>
        have answered := alreadyProcessed_of_commits shorter unused.1 found
          (later trigger found run List.mem_cons_self) commits
        have silent := commits_of_answered unused.2 (same.trans found) answered
        have none : (commitsOf windows session (run.after windows session book) rest).countP
            (fun committed => !committed.isEmpty) = 0 :=
          List.countP_eq_zero.2 fun committed member => by simp [silent committed member]
        rw [none]
        split <;> simp

end Exact

def bonusCondition : Condition ℚ := ⟨.round, .atLeast, ⟨1, false⟩, none, none⟩

def bonusAction : Action ℚ := ⟨.add, ⟨5, false⟩, none⟩

def bonusBook : Book ℚ :=
  { Book.empty with
    sessions := Table.ofList [("s", ⟨"s", "S", [], [], ["r"], [], some "t", {}⟩)]
    entries := Table.ofList [("m", ⟨⟨"s", some "p", 5, 0, none, none, none, .manual⟩, "m"⟩)]
    rules := Table.ofList
      [("r", ⟨"r", "s", "bonus", bonusCondition, bonusAction, true, some "b"⟩)]
    templates := Table.ofList
      [("t", ⟨"t", "T", [],
        [⟨"b", "bonus", bonusCondition, bonusAction, true, false, none⟩], [], "1.0"⟩)] }

def threeRuns : List (CycleRun ℚ) :=
  [⟨row '1', none, 1⟩, ⟨row '2', some "later", 1⟩, ⟨row '3', none, 0⟩]

theorem countP_commitsOf_threeRuns :
    Scalar.lt (Windows.standard : Windows ℚ).trigger Windows.standard.followup = true ∧
    (∀ trigger, trigger? bonusBook "s" = some trigger →
      ∀ run ∈ threeRuns, Scalar.le trigger.createdAt run.now = true) ∧
    RunsDrawUnused .standard "s" bonusBook threeRuns ∧
    (commitsOf .standard "s" bonusBook threeRuns).map List.length = [1, 0, 0] ∧
    (commitsOf .standard "s" bonusBook threeRuns).countP (fun committed => !committed.isEmpty) ≤
      1 := by
  have later : ∀ trigger, trigger? bonusBook "s" = some trigger →
      ∀ run ∈ threeRuns, Scalar.le trigger.createdAt run.now = true := by
    intro trigger found
    have all : (trigger? bonusBook "s").all fun trigger =>
        threeRuns.all fun run => Scalar.le trigger.createdAt run.now := by decide +kernel
    rw [found] at all
    exact List.all_eq_true.1 all
  have unused : RunsDrawUnused .standard "s" bonusBook threeRuns :=
    ⟨unused_row (by decide +kernel), unused_row (by decide +kernel),
      unused_row (by decide +kernel), trivial⟩
  have shorter :
      Scalar.lt (Windows.standard : Windows ℚ).trigger Windows.standard.followup = true := by
    decide +kernel
  exact ⟨shorter, later, unused, by decide +kernel, countP_commitsOf_le_one shorter later unused⟩

end Scorekeeper
