set_option autoImplicit false

/-!
# Tables

Records stored under text keys, in the order in which the keys were first stored.  A record stored
under a key that is already present takes the place of the old one.
-/

namespace Scorekeeper

variable {A B : Type}

def putPair (key : String) (value : A) : List (String × A) → List (String × A)
  | [] => [(key, value)]
  | (other, old) :: rest =>
    if other = key then (key, value) :: rest else (other, old) :: putPair key value rest

theorem map_fst_putPair (key : String) (value : A) (pairs : List (String × A)) :
    (putPair key value pairs).map Prod.fst =
      if key ∈ pairs.map Prod.fst then pairs.map Prod.fst else pairs.map Prod.fst ++ [key] := by
  induction pairs with
  | nil => simp [putPair]
  | cons pair rest ih =>
    obtain ⟨other, old⟩ := pair
    by_cases same : other = key
    · simp [putPair, same]
    · by_cases present : key ∈ rest.map Prod.fst
      · simp_all [putPair, Ne.symm]
      · simp_all [putPair, Ne.symm]

theorem lookup_pair_cons (key other : String) (value : A) (rest : List (String × A)) :
    List.lookup key ((other, value) :: rest) =
      if key = other then some value else rest.lookup key := by
  rw [List.lookup_cons]
  by_cases same : key = other
  · simp [same]
  · rw [if_neg same, beq_eq_false_iff_ne.2 same]

theorem lookup_putPair (key other : String) (value : A) (pairs : List (String × A)) :
    (putPair key value pairs).lookup other =
      if other = key then some value else pairs.lookup other := by
  induction pairs with
  | nil => simp only [putPair, lookup_pair_cons]
  | cons pair rest ih =>
    obtain ⟨head, old⟩ := pair
    by_cases found : head = key
    · by_cases same : other = key <;> simp [putPair, lookup_pair_cons, found, same]
    · rw [putPair, if_neg found, lookup_pair_cons, lookup_pair_cons, ih]
      by_cases same : other = key
      · rw [if_pos same, if_neg (same ▸ Ne.symm found), if_pos same]
      · rw [if_neg same, if_neg same]

theorem mem_map_fst_iff {pairs : List (String × A)} {key : String} :
    key ∈ pairs.map Prod.fst ↔ ∃ value, pairs.lookup key = some value := by
  induction pairs with
  | nil => simp
  | cons pair rest ih =>
    obtain ⟨head, value⟩ := pair
    rw [List.map_cons, List.mem_cons, lookup_pair_cons, ih]
    by_cases same : key = head <;> simp [same]

structure Table (A : Type) where
  pairs : List (String × A)
  nodup : (pairs.map Prod.fst).Nodup

namespace Table

def empty : Table A := ⟨[], by simp⟩

instance : Inhabited (Table A) := ⟨empty⟩

def keys (table : Table A) : List String :=
  table.pairs.map Prod.fst

def values (table : Table A) : List A :=
  table.pairs.map Prod.snd

def isEmpty (table : Table A) : Bool :=
  table.pairs.isEmpty

def get? (table : Table A) (key : String) : Option A :=
  table.pairs.lookup key

theorem mem_keys_iff {table : Table A} {key : String} :
    key ∈ table.keys ↔ ∃ value, table.get? key = some value :=
  mem_map_fst_iff

@[simp] theorem get?_empty (key : String) : (empty : Table A).get? key = none := rfl

def contains (table : Table A) (key : String) : Bool :=
  (table.get? key).isSome

def put (table : Table A) (key : String) (value : A) : Table A :=
  { pairs := putPair key value table.pairs
    nodup := by
      rw [map_fst_putPair]
      split
      · exact table.nodup
      · rename_i absent
        exact List.nodup_append.2 ⟨table.nodup, by simp, by
          intro other present key' single same
          simp only [List.mem_singleton] at single
          exact absent (single ▸ same ▸ present)⟩ }

theorem keys_put (table : Table A) (key : String) (value : A) :
    (table.put key value).keys =
      if key ∈ table.keys then table.keys else table.keys ++ [key] :=
  map_fst_putPair key value table.pairs

@[simp] theorem get?_put (table : Table A) (key other : String) (value : A) :
    (table.put key value).get? other = if other = key then some value else table.get? other :=
  lookup_putPair key other value table.pairs

def erase (table : Table A) (key : String) : Table A :=
  { pairs := table.pairs.filter (·.1 ≠ key)
    nodup := table.nodup.sublist (List.filter_sublist.map Prod.fst) }

def ofList (pairs : List (String × A)) : Table A :=
  pairs.foldl (fun table pair => table.put pair.1 pair.2) empty

def map (f : A → B) (table : Table A) : Table B :=
  { pairs := table.pairs.map fun pair => (pair.1, f pair.2)
    nodup := by simpa [Function.comp_def] using table.nodup }

def mapWithKey (f : String → A → B) (table : Table A) : Table B :=
  { pairs := table.pairs.map fun pair => (pair.1, f pair.1 pair.2)
    nodup := by simpa [Function.comp_def] using table.nodup }

end Table

end Scorekeeper
