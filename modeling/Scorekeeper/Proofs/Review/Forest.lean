import Mathlib.Data.List.Forall2
import Scorekeeper.Proofs.Review.Cycle
import Scorekeeper.Proofs.Totals.Settling
import Scorekeeper.Review.Forest

set_option autoImplicit false

/-!
# What the review of a forest reports

The review and the roll-up look for cycles each in its own way.  They find the same: the review
reports every cycle of parents once, and besides them the parents that are not known.
-/

namespace Scorekeeper

open Relation

variable {R : Type} {categories : List (Category R)}

def Issue.isCycle : Issue → Bool
  | .categoryCycle _ => true
  | _ => false

def Category.orphaned? (categories : List (Category R)) (category : Category R) : Option Issue :=
  (category.parent?.filter (· ∉ categories.map Category.id)).map (.unknownParent category.name)

def Called (categories : List (Category R)) (id name : String) : Prop :=
  ∃ category ∈ categories, category.id = id ∧ category.name = name

def Issue.Tells (categories : List (Category R)) (issue : Issue) (cycle : List String) : Prop :=
  ∃ names, issue = .categoryCycle names ∧
    List.Forall₂ (Called categories) (cycle ++ cycle.take 1) names

namespace Forest

structure Climbed (categories : List (Category R)) (start : String) (path : List String)
    (category : Category R) : Prop where
  known : category ∈ categories
  top : path.head? = some category.id
  distinct : path.Nodup
  linked : path.IsChain fun above below => Under categories below above
  reached : ∀ id ∈ path, ReflTransGen (Under categories) start id

variable {start parent : String} {path cycle : List String} {category next : Category R}

theorem climbed_start (known : category ∈ categories) :
    Climbed categories category.id [category.id] category where
  known := known
  top := rfl
  distinct := List.nodup_singleton _
  linked := List.isChain_singleton _
  reached _ member := List.mem_singleton.1 member ▸ .refl

namespace Climbed

theorem reached_here (climbed : Climbed categories start path category) :
    ReflTransGen (Under categories) start category.id :=
  climbed.reached _ (List.mem_of_head? climbed.top)

theorem step (climbed : Climbed categories start path category)
    (above : category.parent? = some parent) : Under categories category.id parent :=
  ⟨category, climbed.known, rfl, above⟩

theorem up (climbed : Climbed categories start path category)
    (above : category.parent? = some next.id) (known : next ∈ categories) (new : next.id ∉ path) :
    Climbed categories start (next.id :: path) next where
  known := known
  top := rfl
  distinct := List.nodup_cons.2 ⟨new, climbed.distinct⟩
  linked := by
    refine List.isChain_cons.2 ⟨fun id found => ?_, climbed.linked⟩
    obtain rfl : category.id = id := by simpa [climbed.top] using found
    exact climbed.step above
  reached id member := by
    rcases List.mem_cons.1 member with rfl | old
    · exact climbed.reached_here.tail (climbed.step above)
    · exact climbed.reached id old

theorem isCycle (climbed : Climbed categories start path category)
    (above : category.parent? = some parent) (met : parent ∈ path) :
    IsCycle categories (path.takeWhile (· ≠ parent) ++ [parent]).reverse := by
  obtain ⟨later, earlier, rfl, new⟩ := List.eq_append_cons_of_mem met
  have taken : (later ++ parent :: earlier).takeWhile (· ≠ parent) = later := by
    rw [List.takeWhile_append_of_pos, List.takeWhile_cons_of_neg (by simp), List.append_nil]
    rintro id member
    exact decide_eq_true fun same : id = parent => new (same ▸ member)
  have whole : later ++ parent :: earlier = (later ++ [parent]) ++ earlier := by simp
  have part : (later ++ [parent]).IsChain fun above below => Under categories below above :=
    (whole ▸ climbed.linked).left_of_append
  -- The parent once more, above the category that the climb has come to.
  have around : (parent :: (later ++ [parent])).IsChain fun above below =>
      Under categories below above := by
    refine List.isChain_cons.2 ⟨fun id found => ?_, part⟩
    obtain rfl : category.id = id := by
      have top := climbed.top
      simp only [List.head?_append, List.head?_cons] at top found
      exact Option.some.inj (top.symm.trans found)
    exact climbed.step above
  rw [taken]
  refine ⟨by simp, ?_, ?_⟩
  · exact List.nodup_reverse.2 (List.Nodup.of_append_left (whole ▸ climbed.distinct))
  · rw [← List.isChain_reverse] at around
    simpa using around

end Climbed

theorem of_cycleFrom?_eq_some (distinct : (categories.map Category.id).Nodup)
    (climbed : Climbed categories start path category)
    (found : (ofList categories).cycleFrom? path category = some cycle) :
    IsCycle categories cycle ∧ ∀ id ∈ cycle, ReflTransGen (Under categories) start id := by
  generalize same : ofList categories = forest at found
  fun_induction cycleFrom? forest path category with
  | case1 => cases found
  | case2 => cases found
  | case3 path category parent above next known met =>
    cases found
    refine ⟨climbed.isCycle above met, fun id member => climbed.reached id ?_⟩
    rw [List.mem_reverse, List.mem_append, List.mem_singleton] at member
    rcases member with later | rfl
    · exact (List.takeWhile_sublist _).subset later
    · exact met
  | case4 path category parent above next known new ih =>
    subst same
    obtain ⟨member, rfl⟩ := (byId_ofList_iff distinct).1 known
    exact ih (climbed.up above member new) found

theorem exists_end_of_cycleFrom?_eq_none (distinct : (categories.map Category.id).Nodup)
    (climbed : Climbed categories start path category)
    (unfound : (ofList categories).cycleFrom? path category = none) :
    ∃ id, ReflTransGen (Under categories) start id ∧
      ∀ parent, Under categories id parent → parent ∉ categories.map Category.id := by
  generalize same : ofList categories = forest at unfound
  fun_induction cycleFrom? forest path category with
  | case1 path category top =>
    refine ⟨category.id, climbed.reached_here, fun parent above => ?_⟩
    subst same
    rw [← step_ofList_iff distinct, Step, parent?, (byId_ofList_iff distinct).2 ⟨climbed.known, rfl⟩,
      Option.bind_some, top] at above
    cases above
  | case2 path category parent above unknown =>
    refine ⟨category.id, climbed.reached_here, fun other step known => ?_⟩
    subst same
    obtain rfl := under_unique distinct (climbed.step above) step
    obtain ⟨next, member, rfl⟩ := List.mem_map.1 known
    rw [(byId_ofList_iff distinct).2 ⟨member, rfl⟩] at unknown
    cases unknown
  | case3 => cases unfound
  | case4 path category parent above next known new ih =>
    subst same
    obtain ⟨member, rfl⟩ := (byId_ofList_iff distinct).1 known
    exact ih (climbed.up above member new) unfound

theorem exists_cycleFrom?_of_loop (distinct : (categories.map Category.id).Nodup)
    (known : category ∈ categories) (loop : Below categories category.id category.id) :
    ∃ cycle, (ofList categories).cycleFrom? [category.id] category = some cycle ∧
      IsCycle categories cycle ∧ category.id ∈ cycle := by
  have climbed := climbed_start known
  cases found : (ofList categories).cycleFrom? [category.id] category with
  | none =>
    obtain ⟨id, path, ended⟩ := exists_end_of_cycleFrom?_eq_none distinct climbed found
    obtain ⟨parent, step, rest⟩ := TransGen.head'_iff.1 (below_of_reached distinct loop path)
    exact absurd (mem_ids_of_below (TransGen.trans_right rest loop)) (ended parent step)
  | some cycle =>
    obtain ⟨isCycle, reached⟩ := of_cycleFrom?_eq_some distinct climbed found
    obtain ⟨id, member⟩ := List.exists_mem_of_ne_nil cycle isCycle.nonempty
    have back := below_of_reached distinct loop (reached id member)
    exact ⟨cycle, rfl, isCycle, isCycle.mem_of_reached distinct member back.to_reflTransGen⟩

/-- The parents that are not known are reported each, in order, and the cycles that were not
reported before are reported once each. -/
structure Accounts (categories : List (Category R)) (reported : List (List String))
    (given : List (Category R)) (issues : List Issue) (cycles : List (List String)) : Prop where
  orphaned : issues.filter (!·.isCycle) = given.filterMap (Category.orphaned? categories)
  told : List.Forall₂ (Issue.Tells categories) (issues.filter Issue.isCycle) cycles
  sound : ∀ cycle ∈ cycles, IsCycle categories cycle
  fresh : ∀ cycle ∈ cycles, ∀ old ∈ reported, cycle.Disjoint old
  apart : cycles.Pairwise List.Disjoint
  complete : ∀ category ∈ given, Below categories category.id category.id →
    ∃ cycle ∈ reported ++ cycles, category.id ∈ cycle

namespace Accounts

variable {reported cycles : List (List String)} {rest : List (Category R)} {issues : List Issue}
  {issue : Issue}

theorem nil : Accounts categories reported [] [] [] :=
  ⟨rfl, .nil, by simp, by simp, .nil, by simp⟩

theorem silent (accounts : Accounts categories reported rest issues cycles)
    (parented : category.orphaned? categories = none)
    (covered : Below categories category.id category.id → ∃ old ∈ reported, category.id ∈ old) :
    Accounts categories reported (category :: rest) issues cycles where
  orphaned := by rw [List.filterMap_cons, parented, accounts.orphaned]
  told := accounts.told
  sound := accounts.sound
  fresh := accounts.fresh
  apart := accounts.apart
  complete := by
    refine List.forall_mem_cons.2 ⟨fun loop => ?_, accounts.complete⟩
    obtain ⟨old, member, here⟩ := covered loop
    exact ⟨old, List.mem_append_left _ member, here⟩

theorem orphan (accounts : Accounts categories reported rest issues cycles)
    (orphaned : category.orphaned? categories = some issue)
    (plain : issue.isCycle = false) (unlooped : ¬ Below categories category.id category.id) :
    Accounts categories reported (category :: rest) (issue :: issues) cycles where
  orphaned := by
    rw [List.filterMap_cons, orphaned, List.filter_cons_of_pos (by simp [plain]), accounts.orphaned]
  told := by
    rw [List.filter_cons_of_neg (by simp [plain])]
    exact accounts.told
  sound := accounts.sound
  fresh := accounts.fresh
  apart := accounts.apart
  complete := List.forall_mem_cons.2 ⟨fun loop => absurd loop unlooped, accounts.complete⟩

theorem report (accounts : Accounts categories (cycle :: reported) rest issues cycles)
    (parented : category.orphaned? categories = none) (tells : issue.Tells categories cycle)
    (isCycle : IsCycle categories cycle) (new : ∀ old ∈ reported, cycle.Disjoint old)
    (covered : Below categories category.id category.id → category.id ∈ cycle) :
    Accounts categories reported (category :: rest) (issue :: issues) (cycle :: cycles) := by
  have named : issue.isCycle = true := by
    obtain ⟨names, rfl, -⟩ := tells
    rfl
  refine ⟨?_, ?_, ?_, ?_, ?_, ?_⟩
  case refine_1 =>
    rw [List.filterMap_cons, parented, List.filter_cons_of_neg (by simp [named]), accounts.orphaned]
  case refine_2 =>
    rw [List.filter_cons_of_pos named]
    exact .cons tells accounts.told
  case refine_3 => exact List.forall_mem_cons.2 ⟨isCycle, accounts.sound⟩
  case refine_4 =>
    refine List.forall_mem_cons.2 ⟨new, fun later member old past => ?_⟩
    exact accounts.fresh later member old (List.mem_cons_of_mem _ past)
  case refine_5 =>
    refine List.pairwise_cons.2 ⟨fun later member => ?_, accounts.apart⟩
    exact List.disjoint_symm (accounts.fresh later member cycle List.mem_cons_self)
  case refine_6 =>
    have moved : ∀ other, other ∈ reported ++ cycle :: cycles ↔ other ∈ cycle :: reported ++ cycles := by
      intro other
      simp only [List.mem_append, List.mem_cons, or_left_comm, or_assoc]
    simp only [moved]
    exact List.forall_mem_cons.2
      ⟨fun loop => ⟨cycle, List.mem_cons_self, covered loop⟩, accounts.complete⟩

end Accounts

theorem tells_cycleIssue (distinct : (categories.map Category.id).Nodup)
    (isCycle : IsCycle categories cycle) :
    ((ofList categories).cycleIssue cycle).Tells categories cycle := by
  refine ⟨_, rfl, List.forall₂_map_right_iff.2 (List.forall₂_same.2 fun key member => ?_)⟩
  have known : key ∈ categories.map Category.id := by
    rcases List.mem_append.1 member with member | first
    · exact isCycle.mem_ids member
    · exact isCycle.mem_ids (List.mem_of_mem_take first)
  obtain ⟨category, listed, rfl⟩ := List.mem_map.1 known
  rw [(byId_ofList_iff distinct).2 ⟨listed, rfl⟩]
  exact ⟨category, listed, rfl, rfl⟩

theorem sameMembers_iff {ids others : List String} :
    sameMembers ids others = true ↔ ∀ id, id ∈ ids ↔ id ∈ others := by
  simp only [sameMembers, Bool.and_eq_true, List.all_eq_true, List.contains_iff_mem]
  exact ⟨fun both id => ⟨both.1 id, both.2 id⟩,
    fun same => ⟨fun id => (same id).1, fun id => (same id).2⟩⟩

theorem orphaned?_eq (categories : List (Category R)) (category : Category R) :
    category.orphaned? categories = (category.parent?.filter
      (!(ofList categories).byId.contains ·)).map (.unknownParent category.name) := by
  have same (id : String) : decide (id ∉ categories.map Category.id) =
      !(ofList categories).byId.contains id := by
    rw [Bool.eq_iff_iff, decide_eq_true_iff, Bool.not_eq_true', ← Bool.not_eq_true,
      contains_byId_iff]
  simp only [Category.orphaned?, same]

theorem not_loop_of_unknown {parent : String} (distinct : (categories.map Category.id).Nodup)
    (above : Under categories category.id parent) (unknown : parent ∉ categories.map Category.id) :
    ¬ Below categories category.id category.id := by
  intro loop
  obtain ⟨other, step, rest⟩ := TransGen.head'_iff.1 loop
  obtain rfl := under_unique distinct above step
  exact unknown (mem_ids_of_below (TransGen.trans_right rest loop))

theorem exists_accounts (distinct : (categories.map Category.id).Nodup)
    {reported : List (List String)} (sound : ∀ old ∈ reported, IsCycle categories old)
    {given : List (Category R)} (known : given ⊆ categories) :
    ∃ cycles, Accounts categories reported given
      ((ofList categories).issuesFrom reported given) cycles := by
  induction given generalizing reported with
  | nil => exact ⟨[], .nil⟩
  | cons category rest ih =>
    obtain ⟨here, known⟩ := List.cons_subset.1 known
    have orphaned := orphaned?_eq categories category
    have around := exists_cycleFrom?_of_loop distinct here
    rw [issuesFrom]
    cases unknown : category.parent?.filter (!(ofList categories).byId.contains ·) with
    | some parent =>
      obtain ⟨cycles, accounts⟩ := ih sound known
      obtain ⟨above, missing⟩ := Option.filter_eq_some_iff.1 unknown
      rw [unknown, Option.map_some] at orphaned
      refine ⟨cycles, accounts.orphan orphaned rfl ?_⟩
      refine not_loop_of_unknown distinct ⟨category, here, rfl, above⟩ fun present => ?_
      rw [contains_byId_iff.2 present] at missing
      cases missing
    | none =>
      rw [unknown, Option.map_none] at orphaned
      dsimp only
      cases fresh : ((ofList categories).cycleFrom? [category.id] category).filter
          (fun cycle => !reported.any (sameMembers cycle)) with
      | some cycle =>
        obtain ⟨found, new⟩ := Option.filter_eq_some_iff.1 fresh
        have isCycle := (of_cycleFrom?_eq_some distinct (climbed_start here) found).1
        obtain ⟨cycles, accounts⟩ := ih (List.forall_mem_cons.2 ⟨isCycle, sound⟩) known
        refine ⟨cycle :: cycles, accounts.report orphaned (tells_cycleIssue distinct isCycle) isCycle
          (fun old past id member shared => ?_) fun loop => ?_⟩
        · have rotated := isCycle.isRotated (sound old past) distinct member shared
          have same : sameMembers cycle old = true := sameMembers_iff.2 fun id => rotated.mem_iff
          simp [List.any_eq_true.2 ⟨old, past, same⟩] at new
        · obtain ⟨other, also, -, member⟩ := around loop
          cases found.symm.trans also
          exact member
      | none =>
        obtain ⟨cycles, accounts⟩ := ih sound known
        refine ⟨cycles, accounts.silent orphaned fun loop => ?_⟩
        obtain ⟨cycle, found, -, member⟩ := around loop
        rw [found, Option.filter_eq_none_iff] at fresh
        have met : reported.any (sameMembers cycle) = true := by simpa using fresh cycle rfl
        obtain ⟨old, past, same⟩ := List.any_eq_true.1 met
        exact ⟨old, past, (sameMembers_iff.1 same _).1 member⟩

theorem filterMap_orphaned?_eq_nil_iff :
    categories.filterMap (Category.orphaned? categories) = [] ↔
      ∀ child parent, Under categories child parent → parent ∈ categories.map Category.id := by
  simp only [List.filterMap_eq_nil_iff, Category.orphaned?, Option.map_eq_none_iff,
    Option.filter_eq_none_iff, decide_eq_true_eq, Classical.not_not]
  constructor
  · rintro known child parent ⟨category, member, -, above⟩
    exact known category member parent above
  · exact fun known category member parent above =>
      known category.id parent ⟨category, member, rfl, above⟩

theorem countP_isRotated_le_one {cycles : List (List String)}
    (sound : ∀ cycle ∈ cycles, IsCycle categories cycle) (apart : cycles.Pairwise List.Disjoint)
    (cycle : List String) : cycles.countP (fun other => other ~r cycle) ≤ 1 := by
  induction cycles with
  | nil => simp
  | cons first rest ih =>
    rw [List.forall_mem_cons] at sound
    rw [List.pairwise_cons] at apart
    by_cases rotated : first ~r cycle
    · have none : rest.countP (fun other => other ~r cycle) = 0 := by
        refine List.countP_eq_zero.2 fun other member also => ?_
        obtain ⟨id, here⟩ := List.exists_mem_of_ne_nil first sound.1.nonempty
        have shared : id ∈ other := (of_decide_eq_true also).mem_iff.2 (rotated.mem_iff.1 here)
        exact apart.1 other member here shared
      simp [rotated, none]
    · simpa [List.countP_cons, rotated] using ih sound.2 apart.2

namespace Accounts

variable {issues : List Issue} {cycles : List (List String)}

theorem mem_cycles_iff (accounts : Accounts categories [] categories issues cycles) {id : String} :
    (∃ cycle ∈ cycles, id ∈ cycle) ↔ Below categories id id := by
  constructor
  · rintro ⟨cycle, member, here⟩
    exact (accounts.sound cycle member).below_self here
  · intro loop
    obtain ⟨category, member, rfl⟩ := List.mem_map.1 (mem_ids_of_below loop)
    exact accounts.complete category member loop

theorem countP_isRotated (accounts : Accounts categories [] categories issues cycles)
    (distinct : (categories.map Category.id).Nodup) (isCycle : IsCycle categories cycle) :
    cycles.countP (fun other => other ~r cycle) = 1 := by
  obtain ⟨id, here⟩ := List.exists_mem_of_ne_nil cycle isCycle.nonempty
  obtain ⟨other, member, shared⟩ := accounts.mem_cycles_iff.2 (isCycle.below_self here)
  have rotated := (accounts.sound other member).isRotated isCycle distinct shared here
  have some : 0 < cycles.countP (fun other => other ~r cycle) :=
    List.countP_pos_iff.2 ⟨other, member, decide_eq_true rotated⟩
  have single := countP_isRotated_le_one accounts.sound accounts.apart cycle
  omega

theorem cycles_eq_nil_iff (accounts : Accounts categories [] categories issues cycles) :
    cycles = [] ↔ ∀ id, ¬ Below categories id id := by
  simp only [← accounts.mem_cycles_iff]
  constructor
  · rintro rfl id ⟨cycle, member, -⟩
    cases member
  · intro acyclic
    refine List.eq_nil_iff_forall_not_mem.2 fun cycle member => ?_
    obtain ⟨id, here⟩ := List.exists_mem_of_ne_nil cycle (accounts.sound cycle member).nonempty
    exact acyclic id ⟨cycle, member, here⟩

theorem issues_eq_nil_iff (accounts : Accounts categories [] categories issues cycles)
    (distinct : (categories.map Category.id).Nodup) : issues = [] ↔ IsForest categories := by
  have orphaned := accounts.orphaned
  have told := accounts.told
  constructor
  · rintro rfl
    obtain rfl : cycles = [] := List.forall₂_nil_left_iff.1 told
    exact ⟨distinct, filterMap_orphaned?_eq_nil_iff.1 orphaned.symm,
      accounts.cycles_eq_nil_iff.1 rfl⟩
  · intro wellFormed
    rw [filterMap_orphaned?_eq_nil_iff.2 wellFormed.defined] at orphaned
    rw [accounts.cycles_eq_nil_iff.2 wellFormed.acyclic, List.forall₂_nil_right_iff] at told
    refine List.eq_nil_iff_forall_not_mem.2 fun issue member => ?_
    cases kind : issue.isCycle with
    | true => exact List.filter_eq_nil_iff.1 told issue member kind
    | false => exact List.filter_eq_nil_iff.1 orphaned issue member (by simp [kind])

end Accounts

theorem issues_tell_cycles_once (distinct : (categories.map Category.id).Nodup) :
    (ofList categories).issues.filter (!·.isCycle) =
      categories.filterMap (Category.orphaned? categories) ∧
    (∃ cycles, List.Forall₂ (Issue.Tells categories)
        ((ofList categories).issues.filter Issue.isCycle) cycles ∧
      (∀ cycle ∈ cycles, IsCycle categories cycle) ∧
      (∀ cycle, IsCycle categories cycle → cycles.countP (fun other => other ~r cycle) = 1) ∧
      ∀ id, (∃ cycle ∈ cycles, id ∈ cycle) ↔ (ofList categories).inCycle id = true) ∧
    ((ofList categories).issues = [] ↔ IsForest categories) := by
  obtain ⟨cycles, accounts⟩ : ∃ cycles,
      Accounts categories [] categories (ofList categories).issues cycles :=
    exists_accounts distinct (by simp) (List.Subset.refl categories)
  refine ⟨accounts.orphaned, ⟨cycles, accounts.told, accounts.sound, fun cycle isCycle => ?_,
    fun id => ?_⟩, accounts.issues_eq_nil_iff distinct⟩
  · exact accounts.countP_isRotated distinct isCycle
  · rw [accounts.mem_cycles_iff, inCycle_ofList_iff distinct]

theorem issues_tell_cycles_once_tangle :
    (tangle.map Category.id).Nodup ∧ IsCycle tangle ["left", "right"] ∧
    (ofList tangle).issues.filter (!·.isCycle) = [.unknownParent "stray" "lost"] ∧
    (∃ cycles, List.Forall₂ (Issue.Tells tangle)
        ((ofList tangle).issues.filter Issue.isCycle) cycles ∧
      cycles.countP (fun other => other ~r ["left", "right"]) = 1 ∧
      (∃ cycle ∈ cycles, "own" ∈ cycle) ∧ ¬ ∃ cycle ∈ cycles, "branch" ∈ cycle) ∧
    ¬ IsForest tangle := by
  have distinct : (tangle.map Category.id).Nodup := by decide
  have pair : IsCycle tangle ["left", "right"] :=
    ⟨by simp, by decide, by simp [under_tangle_iff]⟩
  obtain ⟨orphaned, ⟨cycles, told, -, once, members⟩, -⟩ := issues_tell_cycles_once distinct
  refine ⟨distinct, pair, orphaned.trans (by decide), ⟨cycles, told, once _ pair, ?_, ?_⟩, ?_⟩
  · rw [members, inCycle_ofList_iff distinct]
    exact .single (by simp [under_tangle_iff])
  · rw [members, inCycle_ofList_iff distinct]
    exact fun path => (below_branch path).elim (by decide) (by decide)
  · exact fun wellFormed => wellFormed.acyclic "left" (pair.below_self (by simp))

end Forest

end Scorekeeper
