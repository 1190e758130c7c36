set_option autoImplicit false

namespace Scorekeeper

variable {E F A B : Type}

theorem ok_bind (a : A) (rest : A → Except E B) : (Except.ok a >>= rest) = rest a := rfl

theorem bind_eq_ok_iff {result : Except E A} {rest : A → Except E B} {b : B} :
    (result >>= rest) = .ok b ↔ ∃ a, result = .ok a ∧ rest a = .ok b := by
  cases result <;> simp [bind, Except.bind]

theorem bind_eq_error_iff {result : Except E A} {rest : A → Except E B} {e : E} :
    (result >>= rest) = .error e ↔ result = .error e ∨ ∃ a, result = .ok a ∧ rest a = .error e := by
  cases result <;> simp [bind, Except.bind]

theorem map_eq_ok_iff {result : Except E A} {f : A → B} {b : B} :
    result.map f = .ok b ↔ ∃ a, result = .ok a ∧ f a = b := by
  cases result <;> simp [Except.map]

theorem map_eq_error_iff {result : Except E A} {f : A → B} {e : E} :
    result.map f = .error e ↔ result = .error e := by
  cases result <;> simp [Except.map]

theorem mapError_eq_ok_iff {result : Except E A} {f : E → F} {a : A} :
    result.mapError f = .ok a ↔ result = .ok a := by
  cases result with
  | error fault => exact iff_of_false nofun nofun
  | ok found =>
    change (Except.ok found : Except F A) = .ok a ↔ (Except.ok found : Except E A) = .ok a
    simp only [Except.ok.injEq]

theorem exists_map_eq_ok_iff {result : Except E A} {f : A → B} :
    (∃ b, result.map f = .ok b) ↔ ∃ a, result = .ok a := by
  cases result <;> simp [Except.map]

theorem exists_bind_eq_ok_iff {result : Except E A} {rest : A → Except E B}
    (answers : ∀ a, ∃ b, rest a = .ok b) : (∃ b, (result >>= rest) = .ok b) ↔ ∃ a, result = .ok a := by
  simp only [bind_eq_ok_iff]
  exact ⟨fun ⟨_, a, same, _⟩ => ⟨a, same⟩, fun ⟨a, same⟩ => (answers a).imp fun _ h => ⟨a, same, h⟩⟩

theorem exists_mapM_eq_ok_iff {f : A → Except E B} {items : List A} :
    (∃ results, items.mapM f = .ok results) ↔ ∀ item ∈ items, ∃ result, f item = .ok result := by
  induction items with
  | nil => exact iff_of_true ⟨[], rfl⟩ nofun
  | cons first rest ih =>
    rw [List.forall_mem_cons, ← ih, List.mapM_cons]
    simp only [bind_eq_ok_iff]
    constructor
    · rintro ⟨_, head, found, tail, answered, -⟩
      exact ⟨⟨head, found⟩, tail, answered⟩
    · rintro ⟨⟨head, found⟩, tail, answered⟩
      exact ⟨head :: tail, head, found, tail, answered, rfl⟩

end Scorekeeper
