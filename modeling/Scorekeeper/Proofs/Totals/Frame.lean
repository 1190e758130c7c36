import Scorekeeper.Proofs.Formula.Dependence
import Scorekeeper.Proofs.Object.Frame
import Scorekeeper.Proofs.Scalar.Exact

set_option autoImplicit false

/-!
# What totals depend on

Formulas read a book only by way of the session's template, settings, rounds, instances and the
names of its categories.  So the ledger reaches the totals of a player in one way alone: through the
entries of that player in that session.
-/

namespace Scorekeeper

variable {R A : Type}

def labels (categories : List (Category R)) : List (String × String) :=
  categories.map fun category => (category.name, category.id)

structure Book.ReadAlikeIn (session : String) (left right : Book R) : Prop where
  template? : left.template? session = right.template? session
  settings : (left.session? session).map Session.settings =
    (right.session? session).map Session.settings
  rounds : left.rounds = right.rounds
  objects : left.sessionObjects session = right.sessionObjects session
  names : labels (left.sessionCategories session) = labels (right.sessionCategories session)

theorem Book.ReadAlikeIn.alike {session : String} {left right : Book R}
    (read : left.ReadAlikeIn session right) : left.AlikeIn session right :=
  ⟨read.template?, read.settings, read.rounds, by rw [read.objects]⟩

variable [Scalar R] [Amount R A]

theorem categoryTotal_congr {left right : List (Category R)} (same : labels left = labels right)
    (totals : Table A) : categoryTotal left totals = categoryTotal right totals := by
  funext name
  have found (categories : List (Category R)) :
      (categories.find? fun category => Template.refersTo name category.name category.id).map
        Category.id =
      ((labels categories).find? fun label => Template.refersTo name label.1 label.2).map
        Prod.snd := by
    rw [labels, List.find?_map, Option.map_map]
    rfl
  have ids : (left.find? fun category => Template.refersTo name category.name category.id).map
        Category.id =
      (right.find? fun category => Template.refersTo name category.name category.id).map
        Category.id := by
    rw [found, found, same]
  simp only [categoryTotal]
  cases leftFound : left.find? _ <;> cases rightFound : right.find? _ <;>
    simp_all

variable {scope : Scope R} {book : Book R}

theorem evaluate_within (alike : book.AlikeIn scope.session scope.book) {left right : Table A}
    {formula : String}
    (scores : ∀ name ∈ Formula.references formula,
      (scope.within book).objectScore? name = scope.objectScore? name)
    (totals : ∀ name ∈ Formula.references formula,
      categoryTotal (scope.within book).categories left name =
        categoryTotal scope.categories right name) :
    Formula.evaluate ((scope.within book).context left) formula =
      Formula.evaluate (scope.context right) formula := by
  have round : (scope.within book).roundIndex = scope.roundIndex := by
    simp only [Scope.roundIndex, Scope.within, Book.round?, alike.rounds]
  refine Formula.Context.AgreesOn.evaluate_eq
    ⟨totals, .some scores, ?states, ?owners, ?round, rfl⟩
  case states => exact .some fun name _ => congrFun (Scope.stateByName_within alike) name
  case owners => exact congrArg some (Scope.owns_within alike)
  case round => exact congrArg some round

theorem Scope.numberAmong?_within {definition : ObjectDefinition R}
    (held : ∀ player,
      (book.instance? scope.session definition.id player).map ObjectInstance.current =
        (scope.book.instance? scope.session definition.id player).map ObjectInstance.current)
    (owners : List (Option String)) :
    (scope.within book).numberAmong? definition owners =
      scope.numberAmong? definition owners := by
  induction owners with
  | nil => rfl
  | cons player others ih =>
    have held : ((scope.within book).book.instance? (scope.within book).session definition.id
        player).map ObjectInstance.current = _ := held player
    rw [numberAmong?, numberAmong?, ih]
    cases here : (scope.within book).book.instance? _ definition.id player <;>
      cases there : scope.book.instance? scope.session definition.id player <;> simp_all

theorem Scope.objectNumber?_within (read : book.ReadAlikeIn scope.session scope.book) :
    (scope.within book).objectNumber? = scope.objectNumber? := by
  funext name
  rw [objectNumber?, objectNumber?, named?_within read.alike]
  cases scope.named? name with
  | none => rfl
  | some definition =>
    refine numberAmong?_within (fun player => ?_) _
    rw [Book.instance?, Book.instance?, read.objects]

theorem Scope.objectScore?_within (read : book.ReadAlikeIn scope.session scope.book) :
    (scope.within book).objectScore? = scope.objectScore? := by
  funext name
  rw [objectScore?, objectScore?, objectNumber?_within read]

theorem evaluate_within_of_read (read : book.ReadAlikeIn scope.session scope.book)
    (totals : Table A) (formula : String) :
    Formula.evaluate ((scope.within book).context totals) formula =
      Formula.evaluate (scope.context totals) formula :=
  evaluate_within read.alike (fun name _ => congrFun (Scope.objectScore?_within read) name)
    fun name _ => congrFun (categoryTotal_congr read.names totals) name

theorem applyFormulas_within (read : book.ReadAlikeIn scope.session scope.book)
    (categories : List (Category R)) (totals : Table A) :
    applyFormulas (scope.within book) categories totals =
      applyFormulas scope categories totals := by
  have step : applyFormula (scope.within book) = applyFormula (A := A) scope := by
    funext totals category
    simp only [applyFormula, evaluate_within_of_read read]
  rw [applyFormulas, applyFormulas, step]

omit [Amount R A] in
theorem categoryTotals_within (read : book.ReadAlikeIn scope.session scope.book)
    (categories : book.sessionCategories scope.session =
      scope.book.sessionCategories scope.session)
    (entries : playerEntries book scope.session scope.player =
      playerEntries scope.book scope.session scope.player) :
    categoryTotals (scope.within book) = categoryTotals scope := by
  have same : (scope.within book).categories = scope.categories := categories
  have base : baseTotals book scope.session scope.player =
      baseTotals scope.book scope.session scope.player := by
    rw [baseTotals, baseTotals, entries]
  rw [categoryTotals, categoryTotals, applyFormulas_within read, same]
  simp only [Scope.within, base]

structure Book.ScoredAlikeIn (session : String) (left right : Book R) : Prop where
  read : left.ReadAlikeIn session right
  categories : left.sessionCategories session = right.sessionCategories session
  entries : left.sessionEntries session = right.sessionEntries session

omit [Scalar R] [Amount R A] in
theorem Book.ScoredAlikeIn.playerEntries {session : String} {left right : Book R}
    (scored : left.ScoredAlikeIn session right) (player : Option String) :
    playerEntries left session player = playerEntries right session player := by
  rw [Scorekeeper.playerEntries, Scorekeeper.playerEntries, scored.entries]

omit [Amount R A] in
theorem Book.ScoredAlikeIn.categoryTotals (scored : book.ScoredAlikeIn scope.session scope.book) :
    categoryTotals (scope.within book) = categoryTotals scope :=
  categoryTotals_within scored.read scored.categories (scored.playerEntries scope.player)

def Scope.has (scope : Scope R) (entry : Entry R) : Bool :=
  entry.session = scope.session && entry.player = scope.player

omit [Scalar R] [Amount R A] in
theorem playerEntries_eq (scope : Scope R) :
    playerEntries scope.book scope.session scope.player =
      scope.book.entries.values.filter scope.has := by
  rw [playerEntries, Book.sessionEntries, List.filter_filter]
  congr 1
  funext entry
  exact Bool.and_comm ..

omit [Amount R A] in
theorem categoryTotals_eq_of_own_entries (scope : Scope R) (entries : Table (Entry R))
    (own : entries.values.filter scope.has = scope.book.entries.values.filter scope.has) :
    categoryTotals (scope.within { scope.book with entries }) = categoryTotals scope := by
  refine categoryTotals_within ⟨rfl, rfl, rfl, rfl, rfl⟩ rfl ?_
  rw [playerEntries_eq, ← own]
  exact playerEntries_eq (scope.within { scope.book with entries })

def heldCrown (id player : String) : ObjectInstance ℚ :=
  ⟨id, "s", "crown", .ofText (.bool true), some player, .nothing, none, 0, "manual", none⟩

def pointsEntry (id session player : String) (value : ℚ) : String × Entry ℚ :=
  (id, ⟨⟨session, some player, value, 0, some "points", none, none, .manual⟩, id⟩)

/-- A player whose bonus depends on whether the other player owns a crown. -/
def crownScope : Scope ℚ where
  book :=
    { Book.empty with
      sessions := Table.ofList
        [("s", ⟨"s", "S", ["p", "q"], [], [], ["pc", "qc"], some "t", {}⟩)]
      categories := Table.ofList
        [("points", ⟨"points", "s", "Points", .sum, none, none, none, 0⟩),
          ("bonus", ⟨"bonus", "s", "Bonus", .formula, none,
            some "{points}*2+owns({crown},{q})+{total}", none, 1⟩)]
      entries := Table.ofList [pointsEntry "1" "s" "p" 4, pointsEntry "2" "s" "q" 9,
        pointsEntry "3" "s" "p" 5, pointsEntry "4" "s" "q" 1]
      templates := Table.ofList
        [("t", ⟨"t", "T",
          [⟨"crown", "Crown", .boolean, none, none, none, none, .null, none, none, none, none, [],
            none⟩], [], [], "1.0"⟩)]
      objects := Table.ofList [("pc", heldCrown "pc" "p"), ("qc", heldCrown "qc" "q")] }
  session := "s"
  player := some "p"

def crownEntries : Table (Entry ℚ) :=
  Table.ofList [pointsEntry "4" "s" "q" 1, pointsEntry "1" "s" "p" 4, pointsEntry "5" "u" "p" 8,
    pointsEntry "3" "s" "p" 5, pointsEntry "2" "s" "q" 7]

theorem categoryTotals_crownEntries :
    crownEntries.values.filter crownScope.has =
      crownScope.book.entries.values.filter crownScope.has ∧
    categoryTotals (crownScope.within { crownScope.book with entries := crownEntries }) =
      categoryTotals crownScope ∧
    (baseTotals { crownScope.book with entries := crownEntries } "s" (some "q")).get? "points" ≠
      (baseTotals crownScope.book "s" (some "q")).get? "points" := by
  have own : crownEntries.values.filter crownScope.has =
      crownScope.book.entries.values.filter crownScope.has := rfl
  exact ⟨own, categoryTotals_eq_of_own_entries crownScope crownEntries own, by decide +kernel⟩

end Scorekeeper
