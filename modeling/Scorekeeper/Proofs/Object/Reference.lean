import Mathlib.Data.List.Nodup
import Scorekeeper.Object.Resolution
import Scorekeeper.Proofs.Object.Liveness

set_option autoImplicit false

/-!
# Two ways to an object

A window finds the object that it looks at by its id, and only among those of the scope's player.  A
formula finds it by its name, and among those of nobody in particular where the player has none.
The two see the same object, and the same state of it, wherever the player has one.
-/

namespace Scorekeeper

open Relation Scorekeeper.Text

variable {R : Type}

structure Distinguished (definitions : List (ObjectDefinition R)) : Prop where
  ids : (definitions.map ObjectDefinition.id).Nodup
  names : ∀ definition ∈ definitions, ∀ other ∈ definitions, other.id ≠ definition.id →
    lowercase other.name ≠ lowercase definition.name ∧
      lowercase other.id ≠ lowercase definition.name

namespace Template

variable {template : Template R} {definition : ObjectDefinition R}

theorem definition?_of_mem (distinct : (template.objects.map ObjectDefinition.id).Nodup)
    (member : definition ∈ template.objects) :
    template.definition? definition.id = some definition := by
  cases found : template.definition? definition.id with
  | none => simpa using List.find?_eq_none.1 found definition member
  | some other =>
    have same : other.id = definition.id := by simpa using List.find?_some found
    rw [List.inj_on_of_nodup_map distinct (List.mem_of_find?_eq_some found) member same]

theorem named?_name (distinguished : Distinguished template.objects)
    (member : definition ∈ template.objects) :
    template.named? definition.name = some definition := by
  cases found : template.named? definition.name with
  | none => simpa [refersTo] using List.find?_eq_none.1 found definition member
  | some other =>
    have meant : lowercase other.name = lowercase definition.name ∨ other.id = definition.name := by
      simpa [refersTo] using List.find?_some found
    have listed := List.mem_of_find?_eq_some found
    -- Another definition would have to be called by the name.
    by_cases same : other.id = definition.id
    · rw [List.inj_on_of_nodup_map distinguished.ids listed member same]
    · obtain ⟨byName, byId⟩ := distinguished.names definition member other listed same
      exact absurd meant (not_or.2 ⟨byName, fun id => byId (congrArg lowercase id)⟩)

end Template

namespace Scope

variable {scope : Scope R} {piece other : Piece R} {holder wanted : ObjectDefinition R}

def Refers (scope : Scope R) (first second : String) : Prop :=
  ∃ definition ∈ scope.definitions, definition.id = first ∧
    (definition.ownership = .ofObject second ∨ definition.window = .whileObject second)

theorem exists_template_of_mem (known : wanted ∈ scope.definitions) :
    ∃ template, scope.template? = some template ∧ scope.definitions = template.objects := by
  rw [definitions] at known ⊢
  cases templated : scope.template? with
  | none => simp [templated] at known
  | some template => exact ⟨template, rfl, rfl⟩

theorem mem_definitions_of_piece? {reference : String}
    (found : scope.piece? reference = some piece) : piece.1 ∈ scope.definitions := by
  simp only [piece?, Option.bind_eq_bind, Option.bind_eq_some_iff, Option.pure_def,
    Option.some.injEq] at found
  obtain ⟨template, templated, definition, defined, object, -, rfl⟩ := found
  simpa [definitions, templated] using List.mem_of_find?_eq_some defined

theorem refers_of_needs (known : piece.1 ∈ scope.definitions) (needs : scope.Needs piece other) :
    scope.Refers piece.1.id other.1.id := by
  obtain ⟨-, reference, wanted, means⟩ := needs
  exact ⟨piece.1, known, rfl, (of_piece?_eq_some means).1 ▸ wanted⟩

theorem refers_of_leads (known : piece.1 ∈ scope.definitions)
    (leads : TransGen scope.Needs piece other) : TransGen scope.Refers piece.1.id other.1.id := by
  induction leads using TransGen.head_induction_on with
  | single needs => exact .single (refers_of_needs known needs)
  | head needs _ ih =>
    obtain ⟨-, reference, -, means⟩ := id needs
    exact .head (refers_of_needs known needs) (ih (mem_definitions_of_piece? means))

section Acyclic

variable (acyclic : ∀ id, ¬ TransGen scope.Refers id id)
include acyclic

theorem clear_iff_of_refers (known : piece.1 ∈ scope.definitions) {path : List String}
    (above : ∀ id ∈ path, scope.Refers id piece.1.id) :
    scope.Clear path piece ↔ scope.Clear [] piece := by
  have away : ∀ other, TransGen scope.Needs piece other →
      other.1.id ≠ piece.1.id ∧ other.1.id ∉ path := by
    intro other leads
    have path := refers_of_leads known leads
    exact ⟨fun same => acyclic _ (same ▸ path),
      fun member => acyclic _ (.head (above _ member) path)⟩
  exact ⟨fun clear => ⟨fun other leads => ⟨(away other leads).1, List.not_mem_nil⟩, clear.named⟩,
    fun clear => ⟨away, clear.named⟩⟩

theorem isLive_state_entering (start : scope.resolving = []) (known : wanted ∈ scope.definitions)
    (refers : scope.Refers holder.id wanted.id) (object : ObjectInstance R) :
    isLive ((scope.entering holder.id).state wanted object) =
      isLive (scope.state wanted object) := by
  have entered : scope.entering holder.id = scope.along [holder.id] := by
    rw [entering, start, along]
  have here : scope.state wanted object = (scope.along []).state wanted object := by
    rw [along_nil start]
  have clear : scope.Clear [holder.id] (wanted, object) ↔ scope.Clear [] (wanted, object) :=
    clear_iff_of_refers acyclic known (by simpa using refers)
  rw [entered, here, Bool.eq_iff_iff]
  exact (isLive_state_iff (wanted, object)).trans
    ((and_congr_right fun _ => clear).trans (isLive_state_iff (wanted, object)).symm)

end Acyclic

theorem isOpen_eq_any (start : scope.resolving = [])
    (distinct : (scope.definitions.map ObjectDefinition.id).Nodup)
    (acyclic : ∀ id, ¬ TransGen scope.Refers id id) (defined : holder ∈ scope.definitions)
    (known : wanted ∈ scope.definitions) (window : holder.window = .whileObject wanted.id) :
    scope.isOpen holder =
      (scope.instance? wanted.id).any fun object => isLive (scope.state wanted object) := by
  have refers : scope.Refers holder.id wanted.id := ⟨holder, defined, rfl, .inr window⟩
  have apart : ¬(wanted.id = holder.id ∨ wanted.id ∈ scope.resolving) := by
    rw [start, or_iff_left List.not_mem_nil]
    exact fun same => acyclic wanted.id (.single (same ▸ refers))
  obtain ⟨template, templated, objects⟩ := exists_template_of_mem known
  have meant : template.definition? wanted.id = some wanted :=
    Template.definition?_of_mem (objects ▸ distinct) (objects ▸ known)
  have referenced : scope.referenced? holder.id wanted.id =
      (scope.instance? wanted.id).map fun object => (wanted, object) := by
    simp only [referenced?, templated, Option.bind_eq_bind, Option.bind_some, meant, if_neg apart]
    cases scope.instance? wanted.id <;> rfl
  rw [isOpen, isOpenWith, window]
  simp only [follow, referenced]
  cases scope.instance? wanted.id with
  | none => rfl
  | some object => exact isLive_state_entering acyclic start known refers object

theorem isLive_stateByName (distinguished : Distinguished scope.definitions)
    (known : wanted ∈ scope.definitions) :
    isLive (scope.stateByName wanted.name) =
      ((scope.instance? wanted.id).orElse fun _ =>
        (scope.forPlayer none).instance? wanted.id).any fun object =>
          isLive (scope.state wanted object) := by
  obtain ⟨template, templated, objects⟩ := exists_template_of_mem known
  have named : scope.named? wanted.name = some wanted := by
    rw [named?, templated, Option.bind_some]
    exact Template.named?_name (objects ▸ distinguished) (objects ▸ known)
  rw [stateByName, named]
  dsimp only
  cases (scope.instance? wanted.id).orElse fun _ => (scope.forPlayer none).instance? wanted.id with
  | none => rfl
  | some object => rfl

theorem isOpen_iff_stateByName (start : scope.resolving = [])
    (distinguished : Distinguished scope.definitions)
    (acyclic : ∀ id, ¬ TransGen scope.Refers id id) (defined : holder ∈ scope.definitions)
    (known : wanted ∈ scope.definitions) (window : holder.window = .whileObject wanted.id) :
    (scope.isOpen holder = true ↔
      isLive (scope.stateByName wanted.name) = true ∧ (scope.instance? wanted.id).isSome) ∧
    ((scope.isOpen holder = true ↔ isLive (scope.stateByName wanted.name) = true) ↔
      ¬(scope.instance? wanted.id = none ∧ ∃ object,
        (scope.forPlayer none).instance? wanted.id = some object ∧
          isLive (scope.state wanted object) = true)) := by
  rw [isOpen_eq_any start distinguished.ids acyclic defined known window,
    isLive_stateByName distinguished known]
  cases scope.instance? wanted.id with
  | some object => simp
  | none => cases (scope.forPlayer none).instance? wanted.id <;> simp

def sword : Piece Float :=
  scenePiece "p" "sword" .player .always

def shield : Piece Float :=
  scenePiece "p" "shield" .player (.whileObject "sword")

def weather : Piece Float :=
  ((scenePiece "p" "weather" .shared .always).1,
    { (scenePiece "p" "weather" .shared .always).2 with player := none })

def torch : Piece Float :=
  scenePiece "p" "torch" .player (.whileObject "weather")

def camp : Scope Float :=
  let pieces := [sword, shield, weather, torch]
  { book :=
      { Book.empty with
        sessions := Table.ofList [("s", ⟨"s", "S", ["p"], [], [], [], some "t", {}⟩)]
        templates := Table.ofList [("t", ⟨"t", "T", pieces.map Prod.fst, [], [], "1.0"⟩)]
        objects := Table.ofList (pieces.map fun piece => (piece.2.id, piece.2)) }
    session := "s"
    player := some "p" }

theorem definitions_camp : camp.definitions = [sword.1, shield.1, weather.1, torch.1] := rfl

theorem refers_camp {first second : String} (refers : camp.Refers first second) :
    first = "shield" ∧ second = "sword" ∨ first = "torch" ∧ second = "weather" := by
  obtain ⟨definition, known, rfl, wanted⟩ := refers
  rw [definitions_camp] at known
  simp only [List.mem_cons, List.not_mem_nil, or_false] at known
  rcases known with rfl | rfl | rfl | rfl <;> obtain owner | window := wanted
  · cases owner
  · cases window
  · cases owner
  · cases window
    exact .inl ⟨rfl, rfl⟩
  · cases owner
  · cases window
  · cases owner
  · cases window
    exact .inr ⟨rfl, rfl⟩

theorem acyclic_camp (id : String) : ¬ TransGen camp.Refers id id := by
  intro loop
  obtain ⟨next, leaves, -⟩ := TransGen.head'_iff.1 loop
  obtain ⟨last, -, arrives⟩ := TransGen.tail'_iff.1 loop
  -- What refers to something is not referred to.
  rcases refers_camp leaves with ⟨rfl, -⟩ | ⟨rfl, -⟩ <;> simpa using refers_camp arrives

theorem distinguished_camp : Distinguished camp.definitions :=
  ⟨by decide, by decide⟩

theorem isOpen_shield :
    camp.resolving = [] ∧ Distinguished camp.definitions ∧ (∀ id, ¬ TransGen camp.Refers id id) ∧
    shield.1 ∈ camp.definitions ∧ sword.1 ∈ camp.definitions ∧
    shield.1.window = .whileObject sword.1.id ∧ isLive (camp.stateByName sword.1.name) = true ∧
    camp.isOpen shield.1 = true := by
  have defined : shield.1 ∈ camp.definitions := by simp [definitions_camp]
  have known : sword.1 ∈ camp.definitions := by simp [definitions_camp]
  have start : camp.resolving = [] := rfl
  have seen := isOpen_iff_stateByName start distinguished_camp acyclic_camp defined known rfl
  have computed : camp.stateWithin sword.1 sword.2 5 = some "owned" := by decide
  rw [stateWithin_eq_of_lt (by decide), Option.some.injEq] at computed
  have live : isLive (camp.stateByName sword.1.name) = true := by
    rw [isLive_stateByName distinguished_camp known]
    change isLive (camp.state sword.1 sword.2) = true
    rw [computed]
    decide
  exact ⟨start, distinguished_camp, acyclic_camp, defined, known, rfl, live,
    seen.1.2 ⟨live, by decide⟩⟩

theorem isOpen_ne_stateByName : ¬ ∀ (scope : Scope Float) (holder wanted : ObjectDefinition Float),
    scope.resolving = [] → Distinguished scope.definitions →
    (scope.definitions.map fun definition => lowercase definition.id).Nodup →
    (∀ id, ¬ TransGen scope.Refers id id) → holder ∈ scope.definitions →
    wanted ∈ scope.definitions → holder.window = .whileObject wanted.id →
    (scope.isOpen holder = true ↔ isLive (scope.stateByName wanted.name) = true) := by
  intro same
  have defined : torch.1 ∈ camp.definitions := by simp [definitions_camp]
  have known : weather.1 ∈ camp.definitions := by simp [definitions_camp]
  have seen := same camp torch.1 weather.1 rfl distinguished_camp (by decide) acyclic_camp defined
    known rfl
  have computed : camp.stateWithin weather.1 weather.2 5 = some "active" := by decide
  rw [stateWithin_eq_of_lt (by decide), Option.some.injEq] at computed
  have closed : camp.isOpen torch.1 = false :=
    isOpen_eq_any rfl distinguished_camp.ids acyclic_camp defined known rfl
  rw [closed, isLive_stateByName distinguished_camp known] at seen
  have live : isLive (camp.state weather.1 weather.2) = true := by
    rw [computed]
    decide
  exact absurd (seen.2 live) (by decide)

end Scope

end Scorekeeper
