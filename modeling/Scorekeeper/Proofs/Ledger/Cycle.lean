import Scorekeeper.Ledger.Cycle

set_option autoImplicit false

namespace Scorekeeper

variable {R : Type} [Scalar R]

theorem Rule.posting?_eq_some_iff {rule : Rule R} {scope : Scope R} {now : R}
    {posting : Posting R} : rule.posting? scope now = some posting ↔
      Scalar.lt (Scalar.abs (rule.action.difference (rule.action.targetTotal scope)))
        Scalar.tolerance = false ∧
      posting =
        { session := scope.session
          player := scope.player
          value := rule.action.difference (rule.action.targetTotal scope)
          createdAt := now
          category := rule.action.target
          round := scope.round
          note := some rule.note
          source := .ruleEngine } := by
  simp only [Rule.posting?]
  split
  next small => simp [small]
  next large => simp [large, eq_comm]

theorem exists_rule_of_mem_evaluateRules {scope : Scope R} {now : R} {posting : Posting R}
    (member : posting ∈ evaluateRules scope now) :
    ∃ rule ∈ activeRules scope.book scope.session, rule.posting? scope now = some posting := by
  simp only [evaluateRules] at member
  split at member
  · cases member
  · obtain ⟨rule, active, posted⟩ := List.mem_filterMap.1 member
    split at posted
    · exact ⟨rule, active, posted⟩
    · cases posted

theorem of_mem_evaluateRules {scope : Scope R} {now : R} {posting : Posting R}
    (member : posting ∈ evaluateRules scope now) :
    posting.session = scope.session ∧ posting.player = scope.player ∧
      posting.source = .ruleEngine := by
  obtain ⟨rule, -, posted⟩ := exists_rule_of_mem_evaluateRules member
  obtain ⟨-, rfl⟩ := Rule.posting?_eq_some_iff.1 posted
  exact ⟨rfl, rfl, rfl⟩

theorem createdAt_of_mem_evaluateRules {scope : Scope R} {now : R} {posting : Posting R}
    (member : posting ∈ evaluateRules scope now) : posting.createdAt = now := by
  obtain ⟨rule, -, posted⟩ := exists_rule_of_mem_evaluateRules member
  obtain ⟨-, rfl⟩ := Rule.posting?_eq_some_iff.1 posted
  rfl

section Suppress

variable {E : Type} {posting : E → Posting R} {window : R} {existing : List (Posting R)}
  {candidates : List E}

theorem sublist_suppress : (suppress posting window existing candidates).1.Sublist candidates := by
  induction candidates generalizing existing with
  | nil => exact .slnil
  | cons candidate rest ih =>
    rw [suppress]
    split
    · exact .cons candidate ih
    · exact .cons_cons candidate ih

theorem isDuplicate_existing_of_mem_suppress {candidate : E}
    (accepted : candidate ∈ (suppress posting window existing candidates).1) {other : Posting R}
    (known : other ∈ existing) : (posting candidate).isDuplicate other window = false := by
  induction candidates generalizing existing with
  | nil => cases accepted
  | cons first rest ih =>
    rw [suppress] at accepted
    split at accepted
    · exact ih accepted known
    next unlike =>
      rcases List.mem_cons.1 accepted with rfl | later
      · simp only [List.any_eq_true, not_exists, not_and, Bool.not_eq_true] at unlike
        exact unlike other known
      · exact ih later (List.mem_append_left _ known)

theorem pairwise_suppress :
    (suppress posting window existing candidates).1.Pairwise fun earlier later =>
      (posting later).isDuplicate (posting earlier) window = false := by
  induction candidates generalizing existing with
  | nil => exact .nil
  | cons first rest ih =>
    rw [suppress]
    split
    · exact ih
    · refine .cons (fun later accepted => ?_) ih
      exact isDuplicate_existing_of_mem_suppress accepted (by simp)

end Suppress

variable (windows : Windows R) (book : Book R) (session : String) (round : Option String) (now : R)

def answerTo (trigger : Entry R) : List (Posting R) × List (Posting R) :=
  suppress id windows.duplicate ((book.sessionEntries session).map Entry.toPosting)
    (evaluateRules { book, session, player := trigger.player, round } now)

theorem runCycle_cases :
    (∃ reason, runCycle windows book session round now =
      .skipped ((trigger? book session).bind fun trigger => trigger.player) reason) ∨
    ∃ trigger, trigger? book session = some trigger ∧
      Scalar.lt windows.trigger (now - trigger.createdAt) = false ∧
      alreadyProcessed windows book trigger = false ∧
      runCycle windows book session round now =
        ⟨true, trigger.player, (answerTo windows book session round now trigger).1,
          (answerTo windows book session round now trigger).2, none⟩ := by
  rw [runCycle]
  cases found : trigger? book session with
  | none => exact .inl ⟨_, rfl⟩
  | some trigger =>
    simp only [Option.bind_some]
    split
    · exact .inl ⟨_, rfl⟩
    next recent =>
      split
      · exact .inl ⟨_, rfl⟩
      next unanswered =>
        have fresh : alreadyProcessed windows book trigger = false := by simpa using unanswered
        exact .inr ⟨trigger, rfl, by simpa using recent, fresh, rfl⟩

theorem player_runCycle : (runCycle windows book session round now).player =
    (trigger? book session).bind fun trigger => trigger.player := by
  rcases runCycle_cases windows book session round now with
    ⟨reason, skipped⟩ | ⟨trigger, found, -, -, ran⟩
  · rw [skipped, CycleResult.skipped]
  · rw [ran, found, Option.bind_some]

structure Committable (window : R) (book : Book R) (session : String) (player : Option String)
    (postings : List (Posting R)) : Prop where
  owned : ∀ posting ∈ postings, posting.session = session ∧ posting.player = player ∧
    posting.source = .ruleEngine
  existing : ∀ posting ∈ postings, ∀ entry ∈ book.sessionEntries session,
    posting.isDuplicate entry.toPosting window = false
  batch : postings.Pairwise fun earlier later => later.isDuplicate earlier window = false

theorem committable_answerTo (trigger : Entry R) :
    Committable windows.duplicate book session trigger.player
      (answerTo windows book session round now trigger).1 where
  owned _ accepted := of_mem_evaluateRules (sublist_suppress.subset accepted)
  existing _ accepted _ known :=
    isDuplicate_existing_of_mem_suppress accepted (List.mem_map_of_mem known)
  batch := pairwise_suppress

theorem committable_runCycle : Committable windows.duplicate book session
    (runCycle windows book session round now).player
    (runCycle windows book session round now).committed := by
  rcases runCycle_cases windows book session round now with
    ⟨reason, skipped⟩ | ⟨trigger, -, -, -, ran⟩
  · rw [skipped]
    exact ⟨by simp [CycleResult.skipped], by simp [CycleResult.skipped], .nil⟩
  · rw [ran]
    exact committable_answerTo windows book session round now trigger

end Scorekeeper
