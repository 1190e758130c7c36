import Scorekeeper.Object.Evaluation

set_option autoImplicit false

namespace Scorekeeper

variable {R : Type}

def ObjectInstance.uncomputed (object : ObjectInstance R) : ObjectInstance R :=
  { object with computed := .nothing, lastComputedAt := none }

theorem ObjectInstance.same_of_uncomputed {object other : ObjectInstance R}
    (same : object.uncomputed = other.uncomputed) :
    object.id = other.id ∧ object.session = other.session ∧
      object.definition = other.definition ∧ object.stored = other.stored ∧
      object.player = other.player ∧ object.state = other.state := by
  simp only [uncomputed, ObjectInstance.mk.injEq] at same
  grind

theorem map_uncomputed_cases {left right : Option (ObjectInstance R)}
    (same : left.map ObjectInstance.uncomputed = right.map ObjectInstance.uncomputed) :
    left = none ∧ right = none ∨
    ∃ object other, left = some object ∧ right = some other ∧
      object.uncomputed = other.uncomputed := by
  cases left <;> cases right <;> simp_all

structure Book.AlikeIn (session : String) (left right : Book R) : Prop where
  template? : left.template? session = right.template? session
  settings : (left.session? session).map Session.settings =
    (right.session? session).map Session.settings
  rounds : left.rounds = right.rounds
  objects : (left.sessionObjects session).map ObjectInstance.uncomputed =
    (right.sessionObjects session).map ObjectInstance.uncomputed

theorem Book.AlikeIn.instance? {session : String} {left right : Book R}
    (alike : left.AlikeIn session right) (definition : String) (player : Option String) :
    (left.instance? session definition player).map ObjectInstance.uncomputed =
      (right.instance? session definition player).map ObjectInstance.uncomputed := by
  have searched (objects : List (ObjectInstance R)) :
      (objects.find? fun object => object.definition = definition && object.player = player).map
        ObjectInstance.uncomputed =
      (objects.map ObjectInstance.uncomputed).find? fun object =>
        object.definition = definition && object.player = player := by
    rw [List.find?_map]
    rfl
  rw [Book.instance?, Book.instance?, searched, searched, alike.objects]

namespace Scope

def glance (followed : String × ObjectInstance R) : String × Option String :=
  (followed.1, followed.2.player)

section Glances

variable {scope : Scope R} {follow other : String → Option (String × ObjectInstance R)}

theorem ownerWith_congr
    (same : ∀ reference, (follow reference).map glance = (other reference).map glance) :
    scope.ownerWith follow = scope.ownerWith other := by
  funext definition
  rw [ownerWith, ownerWith]
  split
  case h_4 reference _ =>
    have same := same reference
    cases found : follow reference <;> cases others : other reference <;>
      simp_all [glance]
  all_goals rfl

theorem isOpenWith_congr
    (same : ∀ reference, (follow reference).map glance = (other reference).map glance) :
    scope.isOpenWith follow = scope.isOpenWith other := by
  funext definition
  rw [isOpenWith, isOpenWith]
  split
  case h_4 reference _ =>
    have same := same reference
    cases found : follow reference <;> cases others : other reference <;>
      simp_all [glance]
  all_goals rfl

theorem stateWith_congr
    (same : ∀ reference, (follow reference).map glance = (other reference).map glance) :
    scope.stateWith follow = scope.stateWith other := by
  funext definition object
  rw [stateWith, stateWith, ownerWith_congr same, isOpenWith_congr same]

end Glances

theorem state_eq_of_uncomputed {scope : Scope R} {definition : ObjectDefinition R}
    {object other : ObjectInstance R} (same : object.uncomputed = other.uncomputed) :
    scope.state definition object = scope.state definition other := by
  have plain (object : ObjectInstance R) :
      scope.state definition object = scope.state definition object.uncomputed := by
    rw [state_eq, state_eq]
    rfl
  rw [plain, same, ← plain]

def within (scope : Scope R) (book : Book R) : Scope R :=
  { scope with book }

theorem forPlayer_within (scope : Scope R) (book : Book R) (player : Option String) :
    (scope.within book).forPlayer player = (scope.forPlayer player).within book := rfl

section Alike

variable {scope : Scope R} {book : Book R}

theorem isOpenWith_within (alike : book.AlikeIn scope.session scope.book)
    (follow : String → Option (String × ObjectInstance R)) :
    (scope.within book).isOpenWith follow = scope.isOpenWith follow := by
  have settings := alike.settings
  funext definition
  simp only [isOpenWith, within, template?, Book.roundAt?, alike.template?, alike.rounds]
  split
  case h_2 =>
    split
    case h_3 =>
      cases here : book.session? scope.session <;>
        cases there : scope.book.session? scope.session <;> simp_all
    all_goals rfl
  all_goals rfl

theorem stateWith_within (alike : book.AlikeIn scope.session scope.book)
    (follow : String → Option (String × ObjectInstance R)) :
    (scope.within book).stateWith follow = scope.stateWith follow := by
  funext definition object
  rw [stateWith, stateWith, isOpenWith_within alike]
  rfl

theorem instance?_within (alike : book.AlikeIn scope.session scope.book) (definition : String) :
    ((scope.within book).instance? definition).map ObjectInstance.uncomputed =
      (scope.instance? definition).map ObjectInstance.uncomputed :=
  alike.instance? definition scope.player

theorem referenced?_within (alike : book.AlikeIn scope.session scope.book)
    (definition reference : String) :
    (scope.within book).referenced? definition reference = none ∧
      scope.referenced? definition reference = none ∨
    ∃ found moved object,
      (scope.within book).referenced? definition reference = some (found, moved) ∧
      scope.referenced? definition reference = some (found, object) ∧
      moved.uncomputed = object.uncomputed := by
  have template : (scope.within book).template? = scope.template? := alike.template?
  simp only [referenced?, template]
  cases scope.template? with
  | none => exact .inl ⟨rfl, rfl⟩
  | some template =>
    simp only [Option.bind_eq_bind, Option.bind_some]
    cases template.definition? reference with
    | none => exact .inl ⟨rfl, rfl⟩
    | some found =>
      by_cases loops : found.id = definition ∨ found.id ∈ scope.resolving
      · exact .inl ⟨if_pos loops, if_pos loops⟩
      · have loopsThere : ¬(found.id = definition ∨ found.id ∈ (scope.within book).resolving) :=
          loops
        simp only [Option.bind_some]
        rw [if_neg loops, if_neg loopsThere]
        rcases map_uncomputed_cases (instance?_within alike reference) with
          ⟨here, there⟩ | ⟨moved, object, here, there, same⟩
        · rw [here, there]
          exact .inl ⟨rfl, rfl⟩
        · rw [here, there]
          exact .inr ⟨found, moved, object, rfl, rfl, same⟩

-- A reference that is followed in one book is followed in the other, with less left to enter.
theorem follow_within {scope : Scope R} (alike : book.AlikeIn scope.session scope.book)
    (definition : ObjectDefinition R) (reference : String) :
    ((scope.within book).follow definition reference).map glance =
      (scope.follow definition reference).map glance := by
  rw [follow, follow]
  rcases referenced?_within alike definition.id reference with
    ⟨here, reached⟩ | ⟨found, moved, object, here, reached, same⟩
  · rw [here, reached]
    rfl
  · obtain ⟨-, -, -, -, player, -⟩ := ObjectInstance.same_of_uncomputed same
    have nested : book.AlikeIn (scope.entering definition.id).session
      (scope.entering definition.id).book := alike
    have inner : ((scope.within book).entering definition.id).state found moved =
        (scope.entering definition.id).state found object := by
      rw [state_eq_of_uncomputed same, state_eq, state_eq,
        ← stateWith_congr (follow_within nested found), ← stateWith_within nested]
      rfl
    simp only [here, reached, Option.map_some, glance, inner, player]
termination_by (scope.unentered definition.id).length
decreasing_by exact unentered_lt reached

theorem state_within (alike : book.AlikeIn scope.session scope.book)
    (definition : ObjectDefinition R) (object : ObjectInstance R) :
    (scope.within book).state definition object = scope.state definition object := by
  rw [state_eq, state_eq, stateWith_within alike, stateWith_congr (follow_within alike definition)]

theorem owner_within (alike : book.AlikeIn scope.session scope.book)
    (definition : ObjectDefinition R) :
    (scope.within book).owner definition = scope.owner definition := by
  rw [owner, owner, ← ownerWith_congr (follow_within alike definition)]
  rfl

theorem isOpen_within (alike : book.AlikeIn scope.session scope.book)
    (definition : ObjectDefinition R) :
    (scope.within book).isOpen definition = scope.isOpen definition := by
  rw [isOpen, isOpen, isOpenWith_within alike, isOpenWith_congr (follow_within alike definition)]

theorem isLiveObject_within [Scalar R] (alike : book.AlikeIn scope.session scope.book)
    (definition : ObjectDefinition R) (object : ObjectInstance R) :
    (scope.within book).isLiveObject definition object =
      scope.isLiveObject definition object := by
  rw [isLiveObject, isLiveObject, isOpen_within alike, state_within alike]

theorem isLiveObject_eq_of_uncomputed [Scalar R] {definition : ObjectDefinition R}
    {object other : ObjectInstance R} (same : object.uncomputed = other.uncomputed) :
    scope.isLiveObject definition object = scope.isLiveObject definition other := by
  rw [isLiveObject, isLiveObject, state_eq_of_uncomputed same]

theorem named?_within (alike : book.AlikeIn scope.session scope.book) (name : String) :
    (scope.within book).named? name = scope.named? name := by
  have template : (scope.within book).template? = scope.template? := alike.template?
  rw [named?, named?, template]

theorem stateByName_within (alike : book.AlikeIn scope.session scope.book) :
    (scope.within book).stateByName = scope.stateByName := by
  funext name
  rw [stateByName, stateByName, named?_within alike]
  cases scope.named? name with
  | none => rfl
  | some definition =>
    dsimp only
    rcases map_uncomputed_cases (instance?_within alike definition.id) with
      ⟨here, there⟩ | ⟨moved, object, here, there, same⟩
    · have shared : book.AlikeIn (scope.forPlayer none).session (scope.forPlayer none).book :=
        alike
      rw [here, there, forPlayer_within, Option.orElse_none, Option.orElse_none]
      rcases map_uncomputed_cases (instance?_within shared definition.id) with
        ⟨here, there⟩ | ⟨moved, object, here, there, same⟩
      · rw [here, there]
      · rw [here, there]
        exact (state_within alike definition moved).trans (state_eq_of_uncomputed same)
    · rw [here, there]
      exact (state_within alike definition moved).trans (state_eq_of_uncomputed same)

theorem owns_within (alike : book.AlikeIn scope.session scope.book) :
    (scope.within book).owns = scope.owns := by
  funext name player
  have target : ((present player).orElse fun _ => (scope.within book).player) =
      (present player).orElse fun _ => scope.player := rfl
  rw [owns, owns, named?_within alike, target]
  split
  next target definition _ _ =>
    have theirs : book.AlikeIn (scope.forPlayer (some target)).session
      (scope.forPlayer (some target)).book := alike
    have shared : book.AlikeIn (scope.forPlayer none).session (scope.forPlayer none).book := alike
    simp only [forPlayer_within]
    rcases map_uncomputed_cases (instance?_within theirs definition.id) with
      ⟨here, there⟩ | ⟨moved, object, here, there, same⟩
    · have listed := congrArg Option.isSome (instance?_within shared definition.id)
      rw [Option.isSome_map, Option.isSome_map] at listed
      rw [here, there]
      simp only [listed, owner_within theirs]
    · rw [here, there]
      simp only [state_within theirs, state_eq_of_uncomputed same]
  · rfl

end Alike

end Scope

end Scorekeeper
