import Scorekeeper.Proofs.Totals.Bucket

set_option autoImplicit false

/-!
# Totals that settle

Parents may be unknown, and they may lead around in a cycle.  The roll-up forms each of its sums
once, after the sums among the children, so that no total changes that a sum was made of.
-/

namespace Scorekeeper

open Relation

namespace Forest

variable {R : Type} {forest : Forest R} {visited : List String} {visits rest : List Visit}
  {id top : String}

def Descends (forest : Forest R) : String → String → Prop :=
  TransGen fun parent child => child ∈ forest.children parent

def Visit.target : Visit → String
  | .enter id => id
  | .leave id => id

theorem split_below {kids : List String} {other : String} {before after : List Visit}
    (same : kids.map Visit.enter ++ Visit.leave top :: rest = before ++ .leave other :: after) :
    other = top ∧ before = kids.map Visit.enter ∨
      ∃ more, before = kids.map Visit.enter ++ .leave top :: more ∧
        rest = more ++ .leave other :: after := by
  induction kids generalizing before with
  | nil =>
    cases before with
    | nil =>
      cases same
      exact .inl ⟨rfl, rfl⟩
    | cons first before =>
      cases same
      exact .inr ⟨before, rfl, rfl⟩
  | cons kid kids ih =>
    cases before with
    | nil => cases same
    | cons first before =>
      obtain ⟨rfl, tail⟩ := List.cons.inj same
      rcases ih tail with ⟨last, rfl⟩ | ⟨more, rfl, lower⟩
      · exact .inl ⟨last, rfl⟩
      · exact .inr ⟨more, rfl, lower⟩

/-- What is to be visited before a sum is left lies below it, and the sums among its children are
entered by then. -/
structure Stacked (forest : Forest R) (visited : List String) (visits : List Visit) : Prop where
  leaving : ∀ id, Visit.leave id ∈ visits → id ∈ visited ∧ forest.isSum id = true
  below : visits.Pairwise fun first later =>
    ∀ top, later = .leave top → forest.Descends top first.target
  ready : ∀ before top after, visits = before ++ .leave top :: after →
    ∀ child ∈ forest.children top, forest.isSum child = true →
      child ∈ visited ∨ Visit.enter child ∈ before

theorem Stacked.leave (stacked : forest.Stacked visited (.leave top :: rest)) :
    forest.Stacked visited rest where
  leaving id pending := stacked.leaving id (List.mem_cons_of_mem _ pending)
  below := stacked.below.of_cons
  ready before other after same child below sum := by
    have split : .leave top :: rest = (.leave top :: before) ++ .leave other :: after := by
      rw [same, List.cons_append]
    simpa using stacked.ready _ other after split child below sum

theorem Stacked.skip (stacked : forest.Stacked visited (.enter top :: rest))
    (skip : top ∈ visited ∨ forest.isSum top = false) : forest.Stacked visited rest where
  leaving id pending := stacked.leaving id (List.mem_cons_of_mem _ pending)
  below := stacked.below.of_cons
  ready before other after same child below sum := by
    have split : .enter top :: rest = (.enter top :: before) ++ .leave other :: after := by
      rw [same, List.cons_append]
    rcases stacked.ready _ other after split child below sum with old | pending
    · exact .inl old
    · rcases List.mem_cons.1 pending with now | later
      · obtain rfl := Visit.enter.inj now
        exact .inl (skip.resolve_right (by simp [sum]))
      · exact .inr later

theorem Stacked.enter (stacked : forest.Stacked visited (.enter top :: rest))
    (new : forest.isSum top = true) :
    forest.Stacked (top :: visited)
      ((forest.children top).map Visit.enter ++ Visit.leave top :: rest) where
  leaving id pending := by
    rcases leave_mem_below_iff.1 pending with rfl | later
    · exact ⟨List.mem_cons_self, new⟩
    · have known := stacked.leaving id (List.mem_cons_of_mem _ later)
      exact ⟨List.mem_cons_of_mem _ known.1, known.2⟩
  below := by
    obtain ⟨outer, inner⟩ := List.pairwise_cons.1 stacked.below
    -- The children lie below what is being entered, and so below all that it lies below.
    have above : ∀ later ∈ Visit.leave top :: rest, ∀ other, later = .leave other →
        forest.Descends other top ∨ other = top := by
      rintro later member other rfl
      rcases List.mem_cons.1 member with same | pending
      · exact .inr (Visit.leave.inj same)
      · exact .inl (outer _ pending other rfl)
    refine List.pairwise_append.2 ⟨?_, List.pairwise_cons.2 ⟨outer, inner⟩, ?_⟩
    · refine List.pairwise_map.2 (List.pairwise_of_forall fun first later other same => ?_)
      cases same
    · intro first member later pending other same
      obtain ⟨child, below, rfl⟩ := List.mem_map.1 member
      rcases above later pending other same with path | rfl
      · exact path.tail below
      · exact .single below
  ready before other after same child below sum := by
    rcases split_below same with ⟨rfl, rfl⟩ | ⟨more, rfl, rfl⟩
    · exact .inr (List.mem_map_of_mem below)
    · rcases stacked.ready (.enter top :: more) other after rfl child below sum with old | pending
      · exact .inl (List.mem_cons_of_mem _ old)
      · rcases List.mem_cons.1 pending with now | later
        · exact .inl (Visit.enter.inj now ▸ List.mem_cons_self)
        · exact .inr (List.mem_append_right _ (List.mem_cons_of_mem _ later))

def Ordered (forest : Forest R) (ids : List String) : Prop :=
  ids.Pairwise fun first later => later ≠ first ∧ later ∉ forest.children first

theorem ordered_order (acyclic : ∀ id, forest.isSum id = true → ¬ forest.Descends id id)
    (stacked : forest.Stacked visited visits) : forest.Ordered (forest.order visited visits) := by
  fun_induction order forest visited visits with
  | case1 => exact List.Pairwise.nil
  | case2 visited top rest ih =>
    refine List.pairwise_cons.2 ⟨fun later member => ?_, ih stacked.leave⟩
    obtain ⟨known, sum⟩ := stacked.leaving top List.mem_cons_self
    rcases new_of_mem_order member with fresh | pending
    -- A sum among the children has been visited by now.
    · refine ⟨fun same => fresh (same ▸ known), fun child => ?_⟩
      have childSum : forest.isSum later = true :=
        of_mem_order (fun id => forest.isSum id = true)
          (fun id pending => (stacked.leave.leaving id pending).2) (fun _ _ sum => sum)
          (fun _ _ _ _ sum => sum) member
      exact (stacked.ready [] top rest rfl later child childSum).elim fresh List.not_mem_nil
    -- What is still to be left stands above the sum, so it is none of its children.
    · have above : forest.Descends later top :=
        (List.pairwise_cons.1 stacked.below).1 _ pending later rfl
      exact ⟨fun same => acyclic top sum (same ▸ above),
        fun child => acyclic top sum (.head child above)⟩
  | case3 visited top rest skip ih => exact ih (stacked.skip skip)
  | case4 visited top rest new ih =>
    rw [not_or, Bool.not_eq_false] at new
    exact ih (stacked.enter new.2)

theorem ordered_sums (acyclic : ∀ id, forest.isSum id = true → ¬ forest.Descends id id)
    (keys : List String) : forest.Ordered (forest.sums keys) := by
  refine ordered_order acyclic ⟨by simp, ?_, fun before top after same => ?_⟩
  · refine List.pairwise_map.2 (List.pairwise_of_forall fun first later top same => ?_)
    cases same
  · have listed : Visit.leave top ∈ (keys.flatMap forest.ancestors).map Visit.enter := by
      rw [same]
      exact List.mem_append_right _ List.mem_cons_self
    simp at listed

theorem sums_subset {keys others : List String} (fewer : ∀ key ∈ keys, key ∈ others)
    (member : id ∈ forest.sums keys) : id ∈ forest.sums others := by
  obtain ⟨starts, closed⟩ := forest.closed_sums others
  refine of_mem_order (· ∈ forest.sums others) (by simp) (fun start entered sum => ?_) closed member
  obtain ⟨ancestor, above, same⟩ := List.mem_map.1 entered
  obtain rfl := Visit.enter.inj same
  obtain ⟨key, present, above⟩ := List.mem_flatMap.1 above
  exact starts key (fewer key present) ancestor above sum

section Amounts

variable {A : Type} [Scalar R] [Amount R A] {ids : List String} {left right : Table A}

def Settled (forest : Forest R) (ids : List String) (totals : Table A) : Prop :=
  ∀ id ∈ ids, totals.get? id = some (forest.sumChildren totals id)

theorem settled_formSums (ordered : forest.Ordered ids)
    (apart : ∀ id ∈ ids, id ∉ forest.children id) (totals : Table A) :
    forest.Settled ids (ids.foldl forest.formSum totals) := by
  induction ids generalizing totals with
  | nil => exact fun id member => absurd member List.not_mem_nil
  | cons first rest ih =>
    obtain ⟨later, ordered⟩ := List.pairwise_cons.1 ordered
    have kept (id : String) (other : id ∉ rest) :=
      get?_formSums_of_not_mem forest (forest.formSum totals first) other
    intro id member
    rw [List.foldl_cons]
    rcases List.mem_cons.1 member with rfl | listed
    -- Neither the sum nor one of its children is formed again.
    · have read : forest.sumChildren (rest.foldl forest.formSum (forest.formSum totals id)) id =
          forest.sumChildren totals id := by
        refine sumChildren_congr fun child below => ?_
        have other : child ≠ id := fun same => apart id List.mem_cons_self (same ▸ below)
        rw [kept child fun again => (later child again).2 below, formSum, Table.get?_put,
          if_neg other]
      rw [read, kept id fun again => (later id again).1 rfl, formSum, Table.get?_put, if_pos rfl]
    · exact ih ordered (fun id member => apart id (List.mem_cons_of_mem _ member)) _ id listed

theorem Settled.get?_eq (ordered : forest.Ordered ids) (apart : ∀ id ∈ ids, id ∉ forest.children id)
    (settledLeft : forest.Settled ids left) (settledRight : forest.Settled ids right)
    (off : ∀ id, id ∉ ids → left.get? id = right.get? id) (id : String) :
    left.get? id = right.get? id := by
  induction ids with
  | nil => exact off id List.not_mem_nil
  | cons first rest ih =>
    obtain ⟨later, ordered⟩ := List.pairwise_cons.1 ordered
    -- The children of the first sum are none of the sums, so the first sum is the same in both.
    have firstSame : left.get? first = right.get? first := by
      rw [settledLeft first List.mem_cons_self, settledRight first List.mem_cons_self]
      refine congrArg some (sumChildren_congr fun child below => off child fun member => ?_)
      rcases List.mem_cons.1 member with same | listed
      · exact apart first List.mem_cons_self (same ▸ below)
      · exact (later child listed).2 below
    refine ih ordered (fun id member => apart id (List.mem_cons_of_mem _ member))
      (fun id member => settledLeft id (List.mem_cons_of_mem _ member))
      (fun id member => settledRight id (List.mem_cons_of_mem _ member)) fun other unlisted => ?_
    by_cases same : other = first
    · rw [same, firstSame]
    · exact off other fun member => unlisted ((List.mem_cons.1 member).resolve_left same)

end Amounts

end Forest

section Categories

variable {R : Type} {categories : List (Category R)}

theorem below_of_descends {id top : String} (path : (Forest.ofList categories).Descends top id) :
    Below categories id top := by
  have up : TransGen (fun parent child => Under categories child parent) top id :=
    TransGen.mono (fun _ _ => Forest.mem_children_ofList_iff.1) _ _ path
  exact up.swap

theorem not_descends_of_isSum (distinct : (categories.map Category.id).Nodup) (id : String)
    (sum : (Forest.ofList categories).isSum id = true) :
    ¬ (Forest.ofList categories).Descends id id :=
  fun path => not_below_of_isSum distinct sum (below_of_descends path)

theorem ordered_sums_ofList (distinct : (categories.map Category.id).Nodup) (keys : List String) :
    (Forest.ofList categories).Ordered ((Forest.ofList categories).sums keys) :=
  Forest.ordered_sums (not_descends_of_isSum distinct) keys

theorem nodup_sums_ofList (distinct : (categories.map Category.id).Nodup) (keys : List String) :
    ((Forest.ofList categories).sums keys).Nodup :=
  (ordered_sums_ofList distinct keys).imp fun apart => apart.1.symm

theorem apart_of_mem_sums (distinct : (categories.map Category.id).Nodup) {keys : List String} :
    ∀ id ∈ (Forest.ofList categories).sums keys, id ∉ (Forest.ofList categories).children id :=
  fun id formed child =>
    not_descends_of_isSum distinct id (Forest.mem_sums formed).1 (.single child)

variable {A : Type} [Scalar R] [Amount R A]

theorem settled_nestedTotals (distinct : (categories.map Category.id).Nodup) (base : Table A) :
    (Forest.ofList categories).Settled ((Forest.ofList categories).sums base.keys)
      (nestedTotals categories base) :=
  Forest.settled_formSums (ordered_sums_ofList distinct base.keys) (apart_of_mem_sums distinct) base

theorem get?_nestedTotals_congr (distinct : (categories.map Category.id).Nodup)
    {base other : Table A} (same : ∀ key, other.get? key = base.get? key) (id : String) :
    (nestedTotals categories other).get? id = (nestedTotals categories base).get? id := by
  have keys (key : String) : key ∈ other.keys ↔ key ∈ base.keys := by
    rw [Table.mem_keys_iff, Table.mem_keys_iff, same]
  -- The same sums are formed for both, if in another order.
  have sums (id : String) : id ∈ (Forest.ofList categories).sums other.keys ↔
      id ∈ (Forest.ofList categories).sums base.keys :=
    ⟨Forest.sums_subset fun key => (keys key).1, Forest.sums_subset fun key => (keys key).2⟩
  have settledOther : (Forest.ofList categories).Settled
      ((Forest.ofList categories).sums base.keys) (nestedTotals categories other) :=
    fun id formed => settled_nestedTotals distinct other id ((sums id).2 formed)
  refine settledOther.get?_eq (ordered_sums_ofList distinct base.keys) (apart_of_mem_sums distinct)
    (settled_nestedTotals distinct base) (fun id off => ?_) id
  exact (Forest.get?_formSums_of_not_mem _ other (mt (sums id).1 off)).trans
    ((same id).trans (Forest.get?_formSums_of_not_mem _ base off).symm)

theorem sumChildren_ofList (totals : Table A) (id : String) :
    (Forest.ofList categories).sumChildren totals id =
      Amount.sum ((categories.filter (Category.isChildOf id)).map fun child =>
        (totals.get? child.id).getD Amount.absent) := by
  rw [Forest.sumChildren, Forest.children, List.map_map]
  rfl

/-- Along any parents the roll-up comes to an end, with each sum formed once.  A category on a cycle
and one without children keep what they have in the base, and all others above a category with a
total get the sum of their children's final totals. -/
theorem nestedTotals_of_distinct (distinct : (categories.map Category.id).Nodup) (base : Table A) :
    (∃ ids : List String, ids.Nodup ∧ (∀ id ∈ ids, ∃ child, Under categories child id) ∧
      nestedTotals categories base = ids.foldl (Forest.ofList categories).formSum base) ∧
    (∀ id, (Forest.ofList categories).inCycle id = true ↔ Below categories id id) ∧
    (∀ id, Below categories id id ∨ (∀ child, ¬ Under categories child id) →
      (nestedTotals categories base).get? id = base.get? id) ∧
    (∀ id, ¬ Below categories id id → (∃ key ∈ base.keys, Below categories key id) →
      (nestedTotals categories base).get? id = some (Amount.sum
        ((categories.filter (Category.isChildOf id)).map fun child =>
          ((nestedTotals categories base).get? child.id).getD Amount.absent))) ∧
    ∀ other : Table A, (∀ key, other.get? key = base.get? key) →
      ∀ id, (nestedTotals categories other).get? id = (nestedTotals categories base).get? id := by
  have sum_iff (id : String) : (Forest.ofList categories).isSum id = true ↔
      (∃ child, Under categories child id) ∧ ¬ Below categories id id :=
    Forest.isSum_ofList_iff distinct
  refine ⟨⟨(Forest.ofList categories).sums base.keys, ?_, fun id formed => ?_, rfl⟩,
    fun id => Forest.inCycle_ofList_iff distinct, fun id still => ?_, fun id free lower => ?_,
    fun other same => get?_nestedTotals_congr distinct same⟩
  · exact (Forest.ordered_sums (not_descends_of_isSum distinct) base.keys).imp fun apart =>
      apart.1.symm
  · exact ((sum_iff id).1 (Forest.mem_sums formed).1).1
  · refine Forest.get?_formSums_of_not_mem _ base fun formed => ?_
    obtain ⟨⟨child, below⟩, free⟩ := (sum_iff id).1 (Forest.mem_sums formed).1
    exact still.elim free fun childless => childless child below
  · obtain ⟨key, present, path⟩ := lower
    obtain ⟨child, -, below⟩ := TransGen.tail'_iff.1 path
    have formed : id ∈ (Forest.ofList categories).sums base.keys :=
      ((Forest.ofList categories).closed_sums base.keys).1 key present id
        ((Forest.mem_ancestors_ofList_iff distinct).2 path) ((sum_iff id).2 ⟨⟨child, below⟩, free⟩)
    rw [← sumChildren_ofList]
    exact settled_nestedTotals distinct base id formed

end Categories

def tangle : List (Category Float) :=
  [plainCategory "left" (some "right"), plainCategory "right" (some "left"),
    plainCategory "branch" (some "left"), plainCategory "leaf" (some "branch"),
    plainCategory "own" (some "own"), plainCategory "stray" (some "lost")]

def tangleBase : Table Float :=
  Table.ofList [("stray", 2), ("leaf", 1), ("right", 3)]

theorem under_tangle_iff {child parent : String} :
    Under tangle child parent ↔
      child = "left" ∧ parent = "right" ∨ child = "right" ∧ parent = "left" ∨
      child = "branch" ∧ parent = "left" ∨ child = "leaf" ∧ parent = "branch" ∨
      child = "own" ∧ parent = "own" ∨ child = "stray" ∧ parent = "lost" := by
  simp [Under, tangle, plainCategory, Category.parent?, present, Option.filter,
    @eq_comm _ _ child, @eq_comm _ _ parent]

theorem below_branch {id : String} (path : Below tangle "branch" id) :
    id = "left" ∨ id = "right" := by
  induction path with
  | single step => exact .inl (by simpa [under_tangle_iff] using step)
  | tail _ step ih => rcases ih with rfl | rfl <;> simp_all [under_tangle_iff]

theorem nestedTotals_tangle :
    (tangle.map Category.id).Nodup ∧ Below tangle "right" "right" ∧
      (nestedTotals tangle tangleBase).get? "right" = some 3 ∧
      (nestedTotals tangle tangleBase).get? "left" = none ∧
      (nestedTotals tangle tangleBase).get? "branch" = some 1 ∧
      (nestedTotals tangle tangleBase).get? "lost" = some 2 := by
  have distinct : (tangle.map Category.id).Nodup := by decide
  have up : Under tangle "left" "right" := by simp [under_tangle_iff]
  have down : Under tangle "right" "left" := by simp [under_tangle_iff]
  have right : Below tangle "right" "right" := .tail (.single down) up
  have left : Below tangle "left" "left" := .tail (.single up) down
  have branch : ¬ Below tangle "branch" "branch" := fun path =>
    (below_branch path).elim (by decide) (by decide)
  have lost : ¬ Below tangle "lost" "lost" := by
    intro path
    obtain ⟨parent, step, -⟩ := TransGen.head'_iff.1 path
    simp [under_tangle_iff] at step
  obtain ⟨-, -, still, sums, -⟩ := nestedTotals_of_distinct distinct tangleBase
  have leafKept := still "leaf" (.inr fun child below => by simp [under_tangle_iff] at below)
  have strayKept := still "stray" (.inr fun child below => by simp [under_tangle_iff] at below)
  have branchSum := sums "branch" branch
    ⟨"leaf", by decide, .single (by simp [under_tangle_iff])⟩
  have lostSum := sums "lost" lost ⟨"stray", by decide, .single (by simp [under_tangle_iff])⟩
  have branchChildren : tangle.filter (Category.isChildOf "branch") =
      [plainCategory "leaf" (some "branch")] := rfl
  have lostChildren : tangle.filter (Category.isChildOf "lost") =
      [plainCategory "stray" (some "lost")] := rfl
  refine ⟨distinct, right, still "right" (.inl right), still "left" (.inl left), ?_, ?_⟩
  · rw [branchSum, branchChildren, List.map_singleton]
    change some (Amount.sum [((nestedTotals tangle tangleBase).get? "leaf").getD _]) = _
    rw [leafKept]
    decide
  · rw [lostSum, lostChildren, List.map_singleton]
    change some (Amount.sum [((nestedTotals tangle tangleBase).get? "stray").getD _]) = _
    rw [strayKept]
    decide

end Scorekeeper
