import Mathlib.Algebra.BigOperators.Group.List.Basic
import Mathlib.Data.List.Induction
import Mathlib.Data.List.Nodup
import Scorekeeper.Table

set_option autoImplicit false

namespace Scorekeeper

variable {A : Type}

theorem putPair_of_not_mem {key : String} {pairs : List (String × A)} (value : A)
    (absent : key ∉ pairs.map Prod.fst) : putPair key value pairs = pairs ++ [(key, value)] := by
  induction pairs with
  | nil => rfl
  | cons pair rest ih =>
    rw [List.map_cons, List.mem_cons, not_or] at absent
    rw [putPair, if_neg (Ne.symm absent.1), ih absent.2, List.cons_append]

theorem lookup_eq_some_iff_mem {key : String} {value : A} {pairs : List (String × A)}
    (distinct : (pairs.map Prod.fst).Nodup) :
    pairs.lookup key = some value ↔ (key, value) ∈ pairs := by
  induction pairs with
  | nil => simp
  | cons pair rest ih =>
    obtain ⟨head, first⟩ := pair
    rw [List.map_cons, List.nodup_cons] at distinct
    rw [lookup_pair_cons, List.mem_cons, Prod.mk.injEq]
    by_cases same : key = head
    · subst same
      have absent : (key, value) ∉ rest := fun member =>
        distinct.1 (List.mem_map.2 ⟨_, member, rfl⟩)
      simp [absent, eq_comm]
    · simp [same, ih distinct.2]

namespace Table

theorem get?_eq_none_iff {table : Table A} {key : String} :
    table.get? key = none ↔ key ∉ table.keys := by
  rw [mem_keys_iff, ← Option.isSome_iff_exists, Option.not_isSome_iff_eq_none]

theorem pairs_put_of_not_mem {table : Table A} {key : String} (value : A)
    (absent : key ∉ table.keys) : (table.put key value).pairs = table.pairs ++ [(key, value)] :=
  putPair_of_not_mem value absent

theorem get?_eq_some_iff {table : Table A} {key : String} {value : A} :
    table.get? key = some value ↔ (key, value) ∈ table.pairs :=
  lookup_eq_some_iff_mem table.nodup

theorem pairs_foldl_put {table : Table A} {pairs : List (String × A)}
    (distinct : ((table.pairs ++ pairs).map Prod.fst).Nodup) :
    (pairs.foldl (fun table pair => table.put pair.1 pair.2) table).pairs =
      table.pairs ++ pairs := by
  induction pairs generalizing table with
  | nil => simp
  | cons pair rest ih =>
    have absent : pair.1 ∉ table.keys := by
      rw [List.map_append, List.nodup_append] at distinct
      exact fun present => distinct.2.2 _ present _ (by simp) rfl
    have stored := pairs_put_of_not_mem pair.2 absent
    rw [List.foldl_cons, ih (by simpa [stored] using distinct), stored]
    simp

theorem pairs_ofList {pairs : List (String × A)} (distinct : (pairs.map Prod.fst).Nodup) :
    (ofList pairs).pairs = pairs := by
  rw [ofList, pairs_foldl_put (by simpa [empty] using distinct)]
  rfl

theorem keys_ofList (pairs : List (String × A)) :
    (ofList pairs).keys = (pairs.map Prod.fst).eraseDups := by
  induction pairs using List.reverseRecOn with
  | nil => rfl
  | append_singleton pairs pair ih =>
    have last : (ofList (pairs ++ [pair])) = (ofList pairs).put pair.1 pair.2 := by
      simp [ofList]
    rw [last, keys_put, ih, List.map_append, List.eraseDups_append]
    by_cases known : pair.1 ∈ pairs.map Prod.fst <;>
      simp [List.mem_eraseDups, List.removeAll, List.eraseDups_cons, known]

theorem mem_values_iff {table : Table A} {value : A} :
    value ∈ table.values ↔ ∃ key, table.get? key = some value := by
  simp only [values, List.mem_map, get?_eq_some_iff]
  constructor
  · rintro ⟨⟨key, other⟩, member, rfl⟩
    exact ⟨key, member⟩
  · rintro ⟨key, member⟩
    exact ⟨(key, value), member, rfl⟩

theorem values_eq_filterMap (table : Table A) :
    table.values = table.keys.filterMap table.get? := by
  rw [keys, values, List.filterMap_map, ← List.filterMap_eq_map]
  refine List.filterMap_congr fun pair member => ?_
  exact (get?_eq_some_iff.2 member).symm

theorem map_values_congr {B : Type} {f : A → B} {left right : Table A}
    (keys : left.keys = right.keys)
    (same : ∀ key, (left.get? key).map f = (right.get? key).map f) :
    left.values.map f = right.values.map f := by
  rw [values_eq_filterMap, values_eq_filterMap, keys, List.map_filterMap, List.map_filterMap]
  exact congrArg (List.filterMap · right.keys) (funext same)

theorem filter_values_congr {p : A → Bool} {left right : Table A}
    (keys : left.keys = right.keys)
    (same : ∀ key, (left.get? key).filter p = (right.get? key).filter p) :
    left.values.filter p = right.values.filter p := by
  rw [values_eq_filterMap, values_eq_filterMap, keys, List.filter_filterMap, List.filter_filterMap]
  exact congrArg (List.filterMap · right.keys) (funext same)

theorem keys_foldl_put {table : Table A} {pairs : List (String × A)}
    (known : ∀ pair ∈ pairs, pair.1 ∈ table.keys) :
    (pairs.foldl (fun table pair => table.put pair.1 pair.2) table).keys = table.keys := by
  induction pairs generalizing table with
  | nil => rfl
  | cons pair rest ih =>
    have same : (table.put pair.1 pair.2).keys = table.keys := by
      rw [keys_put, if_pos (known pair List.mem_cons_self)]
    rw [List.foldl_cons, ih fun other member => same ▸ known other (List.mem_cons_of_mem _ member),
      same]

theorem get?_foldl_put (table : Table A) (pairs : List (String × A)) (key : String) :
    (pairs.foldl (fun table pair => table.put pair.1 pair.2) table).get? key = table.get? key ∨
    ∃ value, (key, value) ∈ pairs ∧
      (pairs.foldl (fun table pair => table.put pair.1 pair.2) table).get? key = some value := by
  induction pairs generalizing table with
  | nil => exact .inl rfl
  | cons pair rest ih =>
    rw [List.foldl_cons]
    rcases ih (table.put pair.1 pair.2) with kept | ⟨value, member, found⟩
    · rw [kept, get?_put]
      by_cases same : key = pair.1
      · exact .inr ⟨pair.2, by simp [same], by rw [if_pos same]⟩
      · exact .inl (if_neg same)
    · exact .inr ⟨value, List.mem_cons_of_mem _ member, found⟩

theorem get?_foldl_put_of_mem {table : Table A} {pairs : List (String × A)}
    {key : String} (stored : key ∈ pairs.map Prod.fst) :
    ∃ value, (key, value) ∈ pairs ∧
      (pairs.foldl (fun table pair => table.put pair.1 pair.2) table).get? key = some value := by
  induction pairs generalizing table with
  | nil => cases stored
  | cons pair rest ih =>
    rw [List.foldl_cons]
    rcases get?_foldl_put (table.put pair.1 pair.2) rest key with kept | ⟨value, member, found⟩
    · by_cases same : key = pair.1
      · subst same
        exact ⟨pair.2, List.mem_cons_self, by rw [kept, get?_put, if_pos rfl]⟩
      · rw [List.map_cons, List.mem_cons] at stored
        obtain ⟨value, member, found⟩ := ih (stored.resolve_left same)
        exact ⟨value, List.mem_cons_of_mem _ member, found⟩
    · exact ⟨value, List.mem_cons_of_mem _ member, found⟩

theorem pairs_ofList_map (keys : List String) (value : String → A) :
    (ofList (keys.map fun key => (key, value key))).pairs =
      keys.eraseDups.map fun key => (key, value key) := by
  have distinct : (ofList (keys.map fun key => (key, value key))).keys = keys.eraseDups := by
    rw [keys_ofList, List.map_map]
    exact congrArg List.eraseDups (List.map_id keys)
  have stored : ∀ pair ∈ (ofList (keys.map fun key => (key, value key))).pairs,
      (pair.1, value pair.1) = pair := by
    intro pair member
    rcases get?_foldl_put empty (keys.map fun key => (key, value key)) pair.1 with
      missing | ⟨other, listed, found⟩
    · exact absurd ((get?_eq_some_iff.2 member).symm.trans missing) (by simp)
    · obtain ⟨key, -, same⟩ := List.mem_map.1 listed
      rw [Prod.mk.injEq] at same
      have held := Option.some.inj ((get?_eq_some_iff.2 member).symm.trans found)
      exact Prod.ext rfl (by rw [held, ← same.2, same.1])
  rw [← distinct, Table.keys, List.map_map]
  exact (List.map_congr_left stored).trans (List.map_id _) |>.symm

@[simp] theorem get?_mapWithKey {B : Type} (f : String → A → B) (table : Table A) (key : String) :
    (table.mapWithKey f).get? key = (table.get? key).map (f key) := by
  change (table.pairs.map fun pair => (pair.1, f pair.1 pair.2)).lookup key =
    (table.pairs.lookup key).map (f key)
  induction table.pairs with
  | nil => rfl
  | cons pair rest ih =>
    rw [List.map_cons, lookup_pair_cons, ih, lookup_pair_cons]
    by_cases same : key = pair.1
    · simp [same]
    · rw [if_neg same, if_neg same]

@[simp] theorem get?_map {B : Type} (f : A → B) (table : Table A) (key : String) :
    (table.map f).get? key = (table.get? key).map f :=
  get?_mapWithKey (fun _ => f) table key

@[simp] theorem values_map {B : Type} (f : A → B) (table : Table A) :
    (table.map f).values = table.values.map f := by
  simp [values, map, Function.comp_def]

theorem perm_pairs_of_get?_eq {left right : Table A}
    (same : ∀ key, left.get? key = right.get? key) : left.pairs.Perm right.pairs := by
  refine (List.perm_ext_iff_of_nodup left.nodup.of_map right.nodup.of_map).2 fun pair => ?_
  rw [← get?_eq_some_iff, same, get?_eq_some_iff]

@[simp] theorem keys_mapWithKey {B : Type} (f : String → A → B) (table : Table A) :
    (table.mapWithKey f).keys = table.keys := by
  simp [keys, mapWithKey, Function.comp_def]

theorem ext_get? {left right : Table A} (keys : left.keys = right.keys)
    (same : ∀ key, left.get? key = right.get? key) : left = right := by
  have pairs : left.pairs = right.pairs := by
    refine List.ext_getElem (by simpa [Table.keys] using congrArg List.length keys) ?_
    intro i inLeft inRight
    have key : left.pairs[i].1 = right.pairs[i].1 := by
      simpa [Table.keys] using List.getElem_of_eq keys (by simpa [Table.keys] using inLeft)
    have here : left.get? left.pairs[i].1 = some left.pairs[i].2 :=
      get?_eq_some_iff.2 (List.getElem_mem inLeft)
    have there : right.get? right.pairs[i].1 = some right.pairs[i].2 :=
      get?_eq_some_iff.2 (List.getElem_mem inRight)
    rw [same, key, there] at here
    exact Prod.ext key (Option.some.inj here).symm
  obtain ⟨leftPairs, _⟩ := left
  obtain ⟨rightPairs, _⟩ := right
  cases pairs
  rfl

def worth {M : Type} [AddCommMonoid M] (value : String → A → M) (table : Table A) : M :=
  (table.pairs.map fun pair => value pair.1 pair.2).sum

variable {M : Type} [AddCommMonoid M] (value : String → A → M)

theorem worth_congr {left right : Table A} (same : ∀ key, left.get? key = right.get? key) :
    left.worth value = right.worth value :=
  ((perm_pairs_of_get?_eq same).map _).sum_eq

theorem worth_put (table : Table A) (key : String) (fresh : A) :
    (table.put key fresh).worth value + ((table.get? key).elim 0 (value key)) =
      table.worth value + value key fresh := by
  change ((putPair key fresh table.pairs).map fun pair => value pair.1 pair.2).sum +
      (table.pairs.lookup key).elim 0 (value key) =
    (table.pairs.map fun pair => value pair.1 pair.2).sum + value key fresh
  induction table.pairs with
  | nil => simp [putPair]
  | cons pair rest ih =>
    obtain ⟨other, old⟩ := pair
    rw [putPair, lookup_pair_cons]
    by_cases same : other = key
    · subst same
      simp only [if_true, Option.elim_some, List.map_cons, List.sum_cons]
      rw [add_right_comm, add_comm (value other fresh), add_right_comm]
    · simp only [if_neg same, if_neg (Ne.symm same), List.map_cons, List.sum_cons]
      rw [add_assoc, ih, add_assoc]

theorem worth_add (table : Table A) (other : String → A → M) :
    table.worth (fun key a => value key a + other key a) =
      table.worth value + table.worth other :=
  List.sum_map_add

theorem worth_at (table : Table A) (key : String) :
    table.worth (fun other a => if other = key then value other a else 0) =
      (table.get? key).elim 0 (value key) := by
  obtain ⟨pairs, distinct⟩ := table
  change (pairs.map fun pair => if pair.1 = key then value pair.1 pair.2 else 0).sum =
    (pairs.lookup key).elim 0 (value key)
  induction pairs with
  | nil => rfl
  | cons pair rest ih =>
    rw [List.map_cons, List.nodup_cons] at distinct
    rw [List.map_cons, List.sum_cons, ih distinct.2, lookup_pair_cons]
    by_cases same : pair.1 = key
    · have absent : rest.lookup key = none := by
        refine Option.eq_none_iff_forall_ne_some.2 fun a found => distinct.1 ?_
        exact same ▸ mem_map_fst_iff.2 ⟨a, found⟩
      rw [if_pos same, if_pos same.symm, absent, Option.elim_none, add_zero, Option.elim_some, same]
    · rw [if_neg same, if_neg (Ne.symm same), zero_add]

theorem worth_among (table : Table A) {keys : List String} (distinct : keys.Nodup) :
    table.worth (fun key a => if key ∈ keys then value key a else 0) =
      (keys.map fun key => (table.get? key).elim 0 (value key)).sum := by
  induction keys with
  | nil => simp [worth]
  | cons key rest ih =>
    obtain ⟨absent, distinct⟩ := List.nodup_cons.1 distinct
    have split : (fun other a => if other ∈ key :: rest then value other a else 0) =
        fun other a => (if other = key then value other a else 0) +
          if other ∈ rest then value other a else 0 := by
      funext other a
      by_cases same : other = key
      · simp [same, absent]
      · simp [same]
    rw [split, worth_add, worth_at, ih distinct, List.map_cons, List.sum_cons]

end Table

end Scorekeeper
