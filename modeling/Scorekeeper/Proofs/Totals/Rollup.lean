import Scorekeeper.Proofs.Totals.Ancestry
import Scorekeeper.Scalar.Double

set_option autoImplicit false

namespace Scorekeeper

open Relation

namespace Forest

variable {R : Type} {forest : Forest R} {visited : List String} {visits rest : List Visit}
  {id top : String}

theorem enter_mem_below_iff {kids : List String} :
    Visit.enter id ∈ kids.map Visit.enter ++ Visit.leave top :: rest ↔
      id ∈ kids ∨ Visit.enter id ∈ rest := by
  simp

theorem leave_mem_below_iff {kids : List String} :
    Visit.leave id ∈ kids.map Visit.enter ++ Visit.leave top :: rest ↔
      id = top ∨ Visit.leave id ∈ rest := by
  simp

theorem mem_order_of_leave (pending : Visit.leave id ∈ visits) :
    id ∈ forest.order visited visits := by
  fun_induction order forest visited visits with
  | case1 => simp at pending
  | case2 visited left rest ih =>
    rcases List.mem_cons.1 pending with same | later
    · exact (Visit.leave.inj same) ▸ List.mem_cons_self
    · exact List.mem_cons_of_mem _ (ih later)
  | case3 visited top rest skip ih => exact ih (by simpa using pending)
  | case4 visited top rest new ih =>
    exact ih (leave_mem_below_iff.2 (.inr (by simpa using pending)))

/-- What is formed lies in every set that has what is to be left and the sums to be entered, and with
a sum those among its children. -/
theorem of_mem_order (formed : String → Prop)
    (leaving : ∀ id, Visit.leave id ∈ visits → formed id)
    (entering : ∀ id, Visit.enter id ∈ visits → forest.isSum id = true → formed id)
    (closed : ∀ id, formed id → ∀ child ∈ forest.children id, forest.isSum child = true →
      formed child)
    (member : id ∈ forest.order visited visits) : formed id := by
  fun_induction order forest visited visits with
  | case1 => simp at member
  | case2 visited top rest ih =>
    rcases List.mem_cons.1 member with rfl | later
    · exact leaving id List.mem_cons_self
    · exact ih (fun id pending => leaving id (List.mem_cons_of_mem _ pending))
        (fun id pending => entering id (List.mem_cons_of_mem _ pending)) later
  | case3 visited top rest skip ih =>
    exact ih (fun id pending => leaving id (List.mem_cons_of_mem _ pending))
      (fun id pending => entering id (List.mem_cons_of_mem _ pending)) member
  | case4 visited top rest new ih =>
    rw [not_or, Bool.not_eq_false] at new
    have entered : formed top := entering top List.mem_cons_self new.2
    refine ih (fun id pending => ?_) (fun id pending sum => ?_) member
    · rcases leave_mem_below_iff.1 pending with rfl | later
      · exact entered
      · exact leaving id (List.mem_cons_of_mem _ later)
    · rcases enter_mem_below_iff.1 pending with child | later
      · exact closed top entered id child sum
      · exact entering id (List.mem_cons_of_mem _ later) sum

/-- What is to be left has been visited, and the sums below what has been visited have been visited
too or are to be entered. -/
structure Underway (forest : Forest R) (visited : List String) (visits : List Visit) : Prop where
  leaving : ∀ id, Visit.leave id ∈ visits → id ∈ visited
  entering : ∀ id ∈ visited, ∀ child ∈ forest.children id, forest.isSum child = true →
    child ∈ visited ∨ Visit.enter child ∈ visits

theorem Underway.leave (underway : forest.Underway visited (.leave top :: rest)) :
    forest.Underway visited rest where
  leaving id pending := underway.leaving id (List.mem_cons_of_mem _ pending)
  entering id member child below sum := by
    simpa using underway.entering id member child below sum

theorem Underway.skip (underway : forest.Underway visited (.enter top :: rest))
    (skip : top ∈ visited ∨ forest.isSum top = false) : forest.Underway visited rest where
  leaving id pending := underway.leaving id (List.mem_cons_of_mem _ pending)
  entering id member child below sum := by
    rcases underway.entering id member child below sum with old | pending
    · exact .inl old
    · rcases List.mem_cons.1 pending with same | later
      · obtain rfl := Visit.enter.inj same
        exact .inl (skip.resolve_right (by simp [sum]))
      · exact .inr later

theorem Underway.enter (underway : forest.Underway visited (.enter top :: rest)) :
    forest.Underway (top :: visited)
      ((forest.children top).map Visit.enter ++ Visit.leave top :: rest) where
  leaving id pending := by
    rcases leave_mem_below_iff.1 pending with rfl | later
    · exact List.mem_cons_self
    · exact List.mem_cons_of_mem _ (underway.leaving id (List.mem_cons_of_mem _ later))
  entering id member child below sum := by
    rcases List.mem_cons.1 member with rfl | old
    · exact .inr (enter_mem_below_iff.2 (.inl below))
    · rcases underway.entering id old child below sum with met | pending
      · exact .inl (List.mem_cons_of_mem _ met)
      · rcases List.mem_cons.1 pending with same | later
        · exact .inl (Visit.enter.inj same ▸ List.mem_cons_self)
        · exact .inr (enter_mem_below_iff.2 (.inr later))

def Formed (forest : Forest R) (visited : List String) (visits : List Visit) (id : String) : Prop :=
  id ∈ visited ∨ id ∈ forest.order visited visits

theorem formed_leave_iff (known : top ∈ visited) :
    forest.Formed visited (.leave top :: rest) id ↔ forest.Formed visited rest id := by
  rw [Formed, Formed, order, List.mem_cons]
  refine ⟨?_, fun formed => formed.imp_right .inr⟩
  rintro (old | rfl | later)
  · exact .inl old
  · exact .inl known
  · exact .inr later

theorem formed_skip_iff (skip : top ∈ visited ∨ forest.isSum top = false) :
    forest.Formed visited (.enter top :: rest) id ↔ forest.Formed visited rest id := by
  rw [Formed, Formed, order, dif_pos skip]

theorem formed_enter_iff (new : ¬(top ∈ visited ∨ forest.isSum top = false)) :
    forest.Formed visited (.enter top :: rest) id ↔ forest.Formed (top :: visited)
      ((forest.children top).map Visit.enter ++ Visit.leave top :: rest) id := by
  rw [Formed, Formed, order, dif_neg new, List.mem_cons]
  refine ⟨fun formed => formed.imp_left .inr, ?_⟩
  rintro ((rfl | old) | later)
  · exact .inr (mem_order_of_leave (leave_mem_below_iff.2 (.inl rfl)))
  · exact .inl old
  · exact .inr later

theorem formed_of_underway (underway : forest.Underway visited visits) :
    (∀ id, Visit.enter id ∈ visits → forest.isSum id = true → forest.Formed visited visits id) ∧
    ∀ id, forest.Formed visited visits id → ∀ child ∈ forest.children id,
      forest.isSum child = true → forest.Formed visited visits child := by
  fun_induction order forest visited visits with
  | case1 visited =>
    refine ⟨by simp, fun id formed child below sum => ?_⟩
    have member : id ∈ visited := by simpa [Formed, order] using formed
    exact .inl (by simpa using underway.entering id member child below sum)
  | case2 visited top rest ih =>
    obtain ⟨starts, closed⟩ := ih underway.leave
    simp only [formed_leave_iff (underway.leaving top List.mem_cons_self)]
    exact ⟨fun id pending => starts id (by simpa using pending), closed⟩
  | case3 visited top rest skip ih =>
    obtain ⟨starts, closed⟩ := ih (underway.skip skip)
    simp only [formed_skip_iff skip]
    refine ⟨fun id pending sum => ?_, closed⟩
    rcases List.mem_cons.1 pending with same | later
    · obtain rfl := Visit.enter.inj same
      exact .inl (skip.resolve_right (by simp [sum]))
    · exact starts id later sum
  | case4 visited top rest new ih =>
    obtain ⟨starts, closed⟩ := ih underway.enter
    simp only [formed_enter_iff new]
    refine ⟨fun id pending sum => ?_, closed⟩
    rcases List.mem_cons.1 pending with same | later
    · exact .inl (Visit.enter.inj same ▸ List.mem_cons_self)
    · exact starts id (enter_mem_below_iff.2 (.inr later)) sum

def sums (forest : Forest R) (keys : List String) : List String :=
  forest.order [] ((keys.flatMap forest.ancestors).map Visit.enter)

theorem mem_sums {keys : List String} (member : id ∈ forest.sums keys) :
    forest.isSum id = true ∧ ∃ key ∈ keys, ∃ ancestor ∈ forest.ancestors key,
      ReflTransGen (fun parent child => child ∈ forest.children parent) ancestor id := by
  refine of_mem_order (fun id => forest.isSum id = true ∧ ∃ key ∈ keys,
    ∃ ancestor ∈ forest.ancestors key,
      ReflTransGen (fun parent child => child ∈ forest.children parent) ancestor id)
    (by simp) (fun start entered sum => ?_) ?_ member
  · obtain ⟨ancestor, above, same⟩ := List.mem_map.1 entered
    obtain rfl := Visit.enter.inj same
    obtain ⟨key, present, above⟩ := List.mem_flatMap.1 above
    exact ⟨sum, key, present, ancestor, above, .refl⟩
  · rintro parent ⟨-, key, present, ancestor, above, path⟩ child below sum
    exact ⟨sum, key, present, ancestor, above, path.tail below⟩

theorem closed_sums (keys : List String) :
    (∀ key ∈ keys, ∀ ancestor ∈ forest.ancestors key, forest.isSum ancestor = true →
      ancestor ∈ forest.sums keys) ∧
    ∀ id ∈ forest.sums keys, ∀ child ∈ forest.children id, forest.isSum child = true →
      child ∈ forest.sums keys := by
  have underway : forest.Underway [] ((keys.flatMap forest.ancestors).map Visit.enter) :=
    ⟨by simp, by simp⟩
  obtain ⟨starts, closed⟩ := formed_of_underway underway
  simp only [Formed, List.not_mem_nil, false_or] at starts closed
  refine ⟨fun key present ancestor above => starts ancestor ?_, closed⟩
  exact List.mem_map_of_mem (List.mem_flatMap.2 ⟨key, present, above⟩)

end Forest

def Swept {R : Type} (categories : List (Category R)) (keys : List String) (id : String) : Prop :=
  (∃ child, Under categories child id) ∧ ∃ key ∈ keys, ∃ ancestor,
    Below categories key ancestor ∧ ReflTransGen (Under categories) id ancestor

section Swept

variable {R : Type} {categories : List (Category R)}

theorem mem_sums_iff (wellFormed : IsForest categories) {keys : List String} {id : String} :
    id ∈ (Forest.ofList categories).sums keys ↔ Swept categories keys id := by
  have above_iff {key ancestor : String} :
      ancestor ∈ (Forest.ofList categories).ancestors key ↔ Below categories key ancestor :=
    Forest.mem_ancestors_ofList_iff wellFormed.distinct
  constructor
  · intro member
    obtain ⟨sum, key, present, ancestor, above, path⟩ := Forest.mem_sums member
    have descent : ReflTransGen (fun parent child => Under categories child parent) ancestor id :=
      ReflTransGen.mono (fun _ _ => Forest.mem_children_ofList_iff.1) _ _ path
    exact ⟨(Forest.isSum_iff_of_isForest wellFormed).1 sum, key, present, ancestor, above_iff.1 above,
      descent.swap⟩
  · rintro ⟨⟨child, below⟩, key, present, ancestor, above, path⟩
    obtain ⟨starts, closed⟩ := (Forest.ofList categories).closed_sums keys
    have sum {id child : String} (below : Under categories child id) :=
      (Forest.isSum_iff_of_isForest wellFormed).2 ⟨child, below⟩
    -- Every category on the path down from the ancestor is a parent, so each sum asks for the next.
    induction path using ReflTransGen.head_induction_on generalizing child with
    | refl => exact starts key present ancestor (above_iff.2 above) (sum below)
    | head step _ ih =>
      exact closed _ (ih _ step) _ (Forest.mem_children_ofList_iff.2 step) (sum below)

end Swept

section Amounts

variable {R A : Type} [Scalar R] [Amount R A]

-- An amount that is made up of absent ones only.
inductive Barren : A → Prop
  | absent : Barren Amount.absent
  | sum (amounts : List A) (parts : ∀ amount ∈ amounts, Barren amount) : Barren (Amount.sum amounts)

namespace Forest

variable (forest : Forest R)

def formSum (totals : Table A) (id : String) : Table A :=
  totals.put id (forest.sumChildren totals id)

theorem get?_formSums_of_not_mem (totals : Table A) {ids : List String} {id : String}
    (other : id ∉ ids) : (ids.foldl forest.formSum totals).get? id = totals.get? id := by
  induction ids generalizing totals with
  | nil => rfl
  | cons first rest ih =>
    rw [List.mem_cons, not_or] at other
    rw [List.foldl_cons, ih _ other.2, formSum, Table.get?_put, if_neg other.1]

/-- A region closed under children in which the children have no totals but barren ones. -/
structure Bare (region : String → Prop) (totals : Table A) : Prop where
  children : ∀ id, region id → ∀ child ∈ forest.children id, region child
  totals : ∀ id, region id → ∀ child ∈ forest.children id, ∀ amount,
    totals.get? child = some amount → Barren amount

variable {forest} {region : String → Prop} {totals : Table A}

theorem Bare.sumChildren (bare : forest.Bare region totals) {id : String} (inside : region id) :
    Barren (forest.sumChildren totals id) := by
  refine .sum _ fun amount member => ?_
  obtain ⟨child, below, rfl⟩ := List.mem_map.1 member
  cases found : totals.get? child with
  | none => exact .absent
  | some amount => exact bare.totals id inside child below amount found

theorem Bare.formSum (bare : forest.Bare region totals) (id : String) :
    forest.Bare region (forest.formSum totals id) where
  children := bare.children
  totals parent inside child below amount found := by
    rw [Forest.formSum, Table.get?_put] at found
    by_cases same : child = id
    · rw [if_pos same, Option.some.injEq] at found
      exact found ▸ bare.sumChildren (same ▸ bare.children parent inside child below)
    · rw [if_neg same] at found
      exact bare.totals parent inside child below amount found

theorem Bare.formSums (bare : forest.Bare region totals) {ids : List String} {id : String}
    (inside : region id)
    (formed : id ∈ ids ∨ ∃ amount, totals.get? id = some amount ∧ Barren amount) :
    ∃ amount, (ids.foldl forest.formSum totals).get? id = some amount ∧ Barren amount := by
  induction ids generalizing totals with
  | nil => simpa using formed
  | cons first rest ih =>
    refine ih (bare.formSum first) ?_
    by_cases same : id = first
    · subst same
      have put : (forest.formSum totals id).get? id = some (forest.sumChildren totals id) := by
        rw [Forest.formSum, Table.get?_put, if_pos rfl]
      exact .inr ⟨_, put, bare.sumChildren inside⟩
    · rw [List.mem_cons, or_iff_right same] at formed
      simpa [Forest.formSum, Table.get?_put, same] using formed

end Forest

variable {categories : List (Category R)}

theorem bare_of_off (base : Table A) :
    (Forest.ofList categories).Bare (fun id => ∀ key ∈ base.keys, ¬ Below categories key id)
      base where
  children _ off _ below key present lower :=
    off key present (.tail lower (Forest.mem_children_ofList_iff.1 below))
  totals _ off child below amount found :=
    absurd (.single (Forest.mem_children_ofList_iff.1 below))
      (off child (Table.mem_keys_iff.2 ⟨amount, found⟩))

theorem nestedTotals_of_not_ancestor (wellFormed : IsForest categories) (base : Table A)
    {id : String} (off : ∀ key ∈ base.keys, ¬ Below categories key id) :
    (¬ Swept categories base.keys id ∧ (nestedTotals categories base).get? id = base.get? id) ∨
    (Swept categories base.keys id ∧ ∃ amount,
      (nestedTotals categories base).get? id = some amount ∧ Barren amount) := by
  -- No total of the base reaches a sum that lies on no path up from a key.
  by_cases swept : Swept categories base.keys id
  · have formed := (mem_sums_iff wellFormed).2 swept
    exact .inr ⟨swept, (bare_of_off base).formSums off (.inl formed)⟩
  · have unformed := mt (mem_sums_iff wellFormed).1 swept
    exact .inl ⟨swept, Forest.get?_formSums_of_not_mem _ base unformed⟩

end Amounts

theorem Barren.eq_zero {amount : Float} (barren : Barren amount) : amount = 0 := by
  induction barren with
  | absent => rfl
  | sum amounts _ ih =>
    have stays : ∀ amounts : List Float, (∀ amount ∈ amounts, amount = 0) →
        amounts.foldl Amount.add (0 : Float) = 0 := by
      intro amounts zeros
      induction amounts with
      | nil => rfl
      | cons first rest ih =>
        have still : Amount.add (0 : Float) 0 = 0 := by decide
        rw [List.foldl_cons, zeros first List.mem_cons_self, still]
        exact ih fun amount member => zeros amount (List.mem_cons_of_mem _ member)
    exact stays amounts ih

def plainCategory (id : String) (parentId : Option String) : Category Float :=
  { id, session := "s", name := id, display := .sum, parentId, formula := none, weight := none
    order := 0 }

def twoBranches : List (Category Float) :=
  [plainCategory "a" none, plainCategory "b" (some "a"), plainCategory "c" (some "b"),
    plainCategory "d" (some "a")]

theorem under_twoBranches_iff {child parent : String} :
    Under twoBranches child parent ↔
      child = "b" ∧ parent = "a" ∨ child = "c" ∧ parent = "b" ∨ child = "d" ∧ parent = "a" := by
  simp [Under, twoBranches, plainCategory, Category.parent?, present, Option.filter,
    @eq_comm _ _ child, @eq_comm _ _ parent]

theorem isForest_twoBranches : IsForest twoBranches where
  distinct := by decide
  defined child parent step := by
    rcases under_twoBranches_iff.1 step with ⟨-, rfl⟩ | ⟨-, rfl⟩ | ⟨-, rfl⟩ <;> decide
  acyclic := by
    refine not_below_self_of_rank (fun id => if id = "a" then 0 else if id = "c" then 2 else 1) ?_
    intro child parent step
    rcases under_twoBranches_iff.1 step with ⟨rfl, rfl⟩ | ⟨rfl, rfl⟩ | ⟨rfl, rfl⟩ <;> decide

def leafTotal : Table Float :=
  Table.ofList [("d", 1)]

theorem not_below_twoBranches : ∀ key ∈ leafTotal.keys, ¬ Below twoBranches key "b" := by
  intro key present path
  obtain rfl : key = "d" := by simpa using show key ∈ ["d"] from present
  obtain ⟨child, path, step⟩ := TransGen.tail'_iff.1 path
  obtain rfl : child = "c" := by simpa [under_twoBranches_iff] using step
  rcases ReflTransGen.cases_tail path with same | ⟨other, -, step⟩
  · exact absurd same (by decide)
  · simp [under_twoBranches_iff] at step

theorem swept_twoBranches : Swept twoBranches leafTotal.keys "b" :=
  ⟨⟨"c", by simp [under_twoBranches_iff]⟩, "d", by decide, "a",
    .single (by simp [under_twoBranches_iff]), .single (by simp [under_twoBranches_iff])⟩

theorem nestedTotals_twoBranches :
    IsForest twoBranches ∧ (∀ key ∈ leafTotal.keys, ¬ Below twoBranches key "b") ∧
      (nestedTotals twoBranches leafTotal).get? "b" = some 0 := by
  refine ⟨isForest_twoBranches, not_below_twoBranches, ?_⟩
  rcases nestedTotals_of_not_ancestor isForest_twoBranches leafTotal not_below_twoBranches with
    ⟨kept, -⟩ | ⟨-, amount, found, barren⟩
  · exact absurd swept_twoBranches kept
  · rw [found, barren.eq_zero]

theorem nestedTotals_ne_base : ¬ ∀ (categories : List (Category Float)) (base : Table Float)
    (id : String), IsForest categories → (∀ key ∈ base.keys, ¬ Below categories key id) →
      (nestedTotals categories base).get? id = base.get? id := by
  intro unchanged
  have kept := unchanged twoBranches leafTotal "b" isForest_twoBranches not_below_twoBranches
  have formed := (mem_sums_iff isForest_twoBranches).2 swept_twoBranches
  obtain ⟨amount, found, -⟩ :=
    (bare_of_off leafTotal).formSums not_below_twoBranches (.inl formed)
  have absent : leafTotal.get? "b" = none := by decide
  exact absurd (found.symm.trans (kept.trans absent)) (by simp)

end Scorekeeper
