import Scorekeeper.Proofs.Ledger.Cycle

set_option autoImplicit false

/-!
# Verdicts on candidates

Being a duplicate is not transitive, so what is accepted depends on the order of the candidates.
Each candidate is judged by what exists and by what was accepted before it.
-/

namespace Scorekeeper

variable {R E : Type} [Scalar R]

structure Verdict (E : Type) where
  candidate : E
  accepts : Bool

namespace Verdict

def accepted (verdicts : List (Verdict E)) : List E :=
  (verdicts.filter fun verdict => verdict.accepts).map candidate

def suppressed (verdicts : List (Verdict E)) : List E :=
  (verdicts.filter fun verdict => !verdict.accepts).map candidate

theorem mem_accepted_iff {verdicts : List (Verdict E)} {candidate : E} :
    candidate ∈ accepted verdicts ↔ ⟨candidate, true⟩ ∈ verdicts := by
  simp only [accepted, List.mem_map, List.mem_filter]
  constructor
  · rintro ⟨⟨_, _⟩, ⟨member, rfl⟩, rfl⟩
    exact member
  · exact fun member => ⟨_, ⟨member, rfl⟩, rfl⟩

theorem mem_suppressed_iff {verdicts : List (Verdict E)} {candidate : E} :
    candidate ∈ suppressed verdicts ↔ ⟨candidate, false⟩ ∈ verdicts := by
  simp only [suppressed, List.mem_map, List.mem_filter, Bool.not_eq_true']
  constructor
  · rintro ⟨⟨_, _⟩, ⟨member, rfl⟩, rfl⟩
    exact member
  · exact fun member => ⟨_, ⟨member, rfl⟩, rfl⟩

end Verdict

open Verdict

variable (posting : E → Posting R) (window : R)

def Repeats (known : List (Posting R)) (candidate : E) : Prop :=
  ∃ other ∈ known, (posting candidate).isDuplicate other window = true

def Judged (existing : List (Posting R)) (verdicts : List (Verdict E)) : Prop :=
  ∀ before verdict after, verdicts = before ++ verdict :: after →
    (verdict.accepts = false ↔
      Repeats posting window (existing ++ (accepted before).map posting) verdict.candidate)

def judge (existing : List (Posting R)) : List E → List (Verdict E)
  | [] => []
  | candidate :: rest =>
    if existing.any fun other => (posting candidate).isDuplicate other window then
      ⟨candidate, false⟩ :: judge existing rest
    else ⟨candidate, true⟩ :: judge (existing ++ [posting candidate]) rest

variable {posting window} {existing known : List (Posting R)} {candidates : List E}

theorem repeats_iff_any {candidate : E} : Repeats posting window known candidate ↔
    (known.any fun other => (posting candidate).isDuplicate other window) = true := by
  rw [List.any_eq_true]
  rfl

theorem Repeats.mono {more : List (Posting R)} {candidate : E}
    (repeats : Repeats posting window known candidate) (grows : known ⊆ more) :
    Repeats posting window more candidate := by
  obtain ⟨other, member, alike⟩ := repeats
  exact ⟨other, grows member, alike⟩

theorem judged_cons {verdict : Verdict E} {rest : List (Verdict E)}
    (first : verdict.accepts = false ↔ Repeats posting window existing verdict.candidate)
    (others : Judged posting window (existing ++ (accepted [verdict]).map posting) rest) :
    Judged posting window existing (verdict :: rest) := by
  intro before later after same
  cases before with
  | nil =>
    obtain ⟨rfl, rfl⟩ := List.cons.inj same
    simpa [accepted] using first
  | cons head before =>
    obtain ⟨rfl, tail⟩ := List.cons.inj same
    -- What is accepted before the later one is the first, if at all, and what follows it.
    have split : accepted (verdict :: before) = accepted [verdict] ++ accepted before := by
      rw [accepted, ← List.singleton_append, List.filter_append, List.map_append]
      rfl
    rw [split, List.map_append, ← List.append_assoc]
    exact others before later after tail

theorem judged_judge (existing : List (Posting R)) (candidates : List E) :
    Judged posting window existing (judge posting window existing candidates) := by
  induction candidates generalizing existing with
  | nil =>
    intro before verdict after same
    cases before <;> cases same
  | cons candidate rest ih =>
    rw [judge]
    split
    next repeated =>
      apply judged_cons
      · simpa [repeats_iff_any] using repeated
      · simpa [accepted] using ih existing
    next unlike =>
      apply judged_cons
      · simpa [repeats_iff_any] using unlike
      · exact ih (existing ++ [posting candidate])

theorem map_candidate_judge (existing : List (Posting R)) (candidates : List E) :
    (judge posting window existing candidates).map candidate = candidates := by
  induction candidates generalizing existing with
  | nil => rfl
  | cons candidate rest ih =>
    rw [judge]
    split <;> rw [List.map_cons, ih]

theorem suppress_eq_judge (existing : List (Posting R)) (candidates : List E) :
    suppress posting window existing candidates =
      (accepted (judge posting window existing candidates),
        suppressed (judge posting window existing candidates)) := by
  induction candidates generalizing existing with
  | nil => rfl
  | cons candidate rest ih =>
    rw [suppress, judge]
    split <;> rw [ih] <;> rfl

theorem suppress_of_unlike
    (unlike : ∀ candidate ∈ candidates, ¬ Repeats posting window existing candidate)
    (apart : candidates.Pairwise fun earlier later =>
      (posting later).isDuplicate (posting earlier) window = false) :
    suppress posting window existing candidates = (candidates, []) := by
  induction candidates generalizing existing with
  | nil => rfl
  | cons candidate rest ih =>
    obtain ⟨first, apart⟩ := List.pairwise_cons.1 apart
    have others : ∀ later ∈ rest,
        ¬ Repeats posting window (existing ++ [posting candidate]) later := by
      rintro later member ⟨other, known, alike⟩
      rcases List.mem_append.1 known with old | new
      · exact unlike later (List.mem_cons_of_mem _ member) ⟨other, old, alike⟩
      · rw [List.mem_singleton.1 new, first later member] at alike
        cases alike
    rw [suppress, if_neg (mt repeats_iff_any.2 (unlike candidate List.mem_cons_self)),
      ih others apart]

theorem suppress_of_repeats
    (repeats : ∀ candidate ∈ candidates, Repeats posting window existing candidate) :
    suppress posting window existing candidates = ([], candidates) := by
  induction candidates with
  | nil => rfl
  | cons candidate rest ih =>
    rw [suppress, if_pos (repeats_iff_any.1 (repeats candidate List.mem_cons_self)),
      ih fun later member => repeats later (List.mem_cons_of_mem _ member)]

theorem not_repeats_of_mem_suppress {candidate : E}
    (member : candidate ∈ (suppress posting window existing candidates).1) :
    ¬ Repeats posting window existing candidate := by
  rintro ⟨other, known, alike⟩
  rw [isDuplicate_existing_of_mem_suppress member known] at alike
  cases alike

theorem repeats_of_mem_suppress {candidate : E}
    (member : candidate ∈ (suppress posting window existing candidates).2) :
    Repeats posting window
      (existing ++ (suppress posting window existing candidates).1.map posting) candidate := by
  rw [suppress_eq_judge] at member ⊢
  obtain ⟨before, after, same⟩ := List.append_of_mem (mem_suppressed_iff.1 member)
  have repeats := (judged_judge existing candidates before _ after same).1 rfl
  have grows : accepted before ⊆ accepted (judge posting window existing candidates) := by
    intro earlier old
    rw [mem_accepted_iff] at old ⊢
    rw [same]
    exact List.mem_append_left _ old
  exact repeats.mono (List.append_subset.2 ⟨List.subset_append_left _ _,
    List.subset_append_of_subset_right _ (List.map_subset posting grows)⟩)

theorem suppress_judges (posting : E → Posting R) (window : R) (existing : List (Posting R))
    (candidates : List E) :
    (∃ verdicts : List (Verdict E), verdicts.map candidate = candidates ∧
      Judged posting window existing verdicts ∧
      suppress posting window existing candidates = (accepted verdicts, suppressed verdicts)) ∧
    suppress posting window existing (suppress posting window existing candidates).1 =
      ((suppress posting window existing candidates).1, []) ∧
    suppress posting window
        (existing ++ (suppress posting window existing candidates).1.map posting)
        (suppress posting window existing candidates).2 =
      ([], (suppress posting window existing candidates).2) := by
  refine ⟨⟨judge posting window existing candidates, map_candidate_judge existing candidates,
    judged_judge existing candidates, suppress_eq_judge existing candidates⟩, ?_, ?_⟩
  · exact suppress_of_unlike (fun _ => not_repeats_of_mem_suppress) pairwise_suppress
  · exact suppress_of_repeats fun _ => repeats_of_mem_suppress

end Scorekeeper
