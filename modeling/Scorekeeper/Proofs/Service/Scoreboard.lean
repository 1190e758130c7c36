import Scorekeeper.Proofs.Scalar.Exact
import Scorekeeper.Proofs.Totals.Loose
import Scorekeeper.Proofs.Totals.Winners
import Scorekeeper.Service.Calls

set_option autoImplicit false

namespace Scorekeeper

open Scalar (IsNumber)

variable {R : Type}

structure Standing (R : Type) where
  player : String
  categories : Table R
  total : R

def Standing.document (standing : Standing R) : Value R :=
  .record [
    ("player_id", .text standing.player),
    ("categories", .record (standing.categories.map Value.real).pairs),
    ("total", .real standing.total)]

theorem values_eq_totals {standings : List (Standing R)} {totals : Table R}
    (pairs : totals.pairs = standings.map fun standing => (standing.player, standing.total)) :
    totals.values = standings.map Standing.total := by
  rw [Table.values, pairs, List.map_map]
  rfl

variable [Scalar R]

structure Won (direction : Direction) (standings : List (Standing R)) (winners : List String) :
    Prop where
  best (player : String) : player ∈ winners ↔ ∃ standing ∈ standings, standing.player = player ∧
    direction.Best (standings.map Standing.total) standing.total
  once : winners.Nodup
  inOrder : winners.Sublist (standings.map Standing.player)

def standings (keeper : Keeper R) (session : String) (round : Option String)
    (players : List String) : List (Standing R) :=
  players.eraseDups.map fun player =>
    let scope := playerScope keeper.book session round player
    { player, categories := categoryTotals scope, total := playerTotal scope }

section Totals

variable {direction : Direction} {standings : List (Standing R)} {totals : Table R}
  (pairs : totals.pairs = standings.map fun standing => (standing.player, standing.total))
  (numbers : ∀ standing ∈ standings, IsNumber standing.total)

include pairs numbers

theorem isNumber_of_mem_values : ∀ x ∈ totals.values, IsNumber x := by
  rw [values_eq_totals pairs, List.forall_mem_map]
  exact numbers

variable [Scalar.Ordered R]

theorem won_winners : Won direction standings (winners direction totals) := by
  have values := values_eq_totals pairs
  have all := isNumber_of_mem_values pairs numbers
  have keys : totals.keys = standings.map Standing.player := by
    rw [Table.keys, pairs, List.map_map]
    rfl
  refine ⟨fun player => ?_, winners_sublist.nodup totals.nodup, keys ▸ winners_sublist⟩
  rw [mem_winners_iff all, values]
  simp only [Table.get?_eq_some_iff, pairs, List.mem_map, Prod.mk.injEq]
  constructor
  · rintro ⟨_, ⟨standing, listed, named, rfl⟩, best⟩
    exact ⟨standing, listed, named, best⟩
  · rintro ⟨standing, listed, named, best⟩
    exact ⟨standing.total, ⟨standing, listed, named, rfl⟩, best⟩

theorem winners_ne_nil_of_standings (somebody : standings ≠ []) :
    winners direction totals ≠ [] := by
  refine winners_ne_nil (isNumber_of_mem_values pairs numbers) ?_
  rw [values_eq_totals pairs]
  exact mt List.map_eq_nil_iff.1 somebody

end Totals

section Answer

variable {keeper : Keeper R} {session : String} {found : Session} (round : Option String)

theorem exists_totals (known : keeper.book.session? session = some found) :
    ∃ totals, keeper.totals session round = .ok totals ∧
      totals.pairs = (standings keeper session round found.players).map fun standing =>
        (standing.player, standing.categories) := by
  refine ⟨_, by rw [Keeper.totals, Keeper.requireSession, known]; rfl, ?_⟩
  rw [Table.pairs_ofList_map, standings, List.map_map]
  rfl

theorem exists_winners (known : keeper.book.session? session = some found) :
    ∃ totals, keeper.winners session round = .ok (winners found.settings.direction totals) ∧
      totals.pairs = (standings keeper session round found.players).map fun standing =>
        (standing.player, standing.total) := by
  obtain ⟨totals, computed, pairs⟩ := exists_totals round known
  refine ⟨totals.map fun categories => Scalar.sum categories.values, ?_, ?_⟩
  · rw [Keeper.winners, Keeper.requireSession, known, Keeper.playerTotals, computed]
    rfl
  · change totals.pairs.map (fun pair => (pair.1, Scalar.sum pair.2.values)) = _
    rw [pairs, List.map_map, standings, List.map_map, List.map_map]
    rfl

theorem serviceTotals_reports_winners [Scalar.Ordered R]
    (known : keeper.book.session? session = some found)
    (numbers : ∀ player ∈ found.players,
      IsNumber (playerTotal (playerScope keeper.book session round player))) :
    ∃ (standings : List (Standing R)) (winners : List String),
      (keeper.serviceTotals session round).status = 200 ∧
      (keeper.serviceTotals session round).document = .record [
        ("session_id", .text session),
        ("round_id", .ofText? round),
        ("players", .list (standings.map Standing.document)),
        ("winners", .texts winners)] ∧
      standings.map Standing.player = found.players.eraseDups ∧
      (∀ standing ∈ standings,
        standing.categories =
          categoryTotals (playerScope keeper.book session round standing.player) ∧
        standing.total = Scalar.sum standing.categories.values) ∧
      Won found.settings.direction standings winners ∧
      (found.players ≠ [] → winners ≠ []) := by
  obtain ⟨lines, computed, linePairs⟩ := exists_totals round known
  obtain ⟨totals, decided, pairs⟩ := exists_winners round known
  have answer : keeper.serviceTotals session round =
      .totals session round lines (winners found.settings.direction totals) := by
    rw [Keeper.serviceTotals, computed, decided]
    rfl
  have all : ∀ standing ∈ standings keeper session round found.players,
      IsNumber standing.total := by
    simp only [standings, List.forall_mem_map, List.mem_eraseDups]
    exact numbers
  refine ⟨standings keeper session round found.players, _, by rw [answer]; rfl, ?_, ?_, ?_,
    won_winners pairs all, fun somebody => winners_ne_nil_of_standings pairs all ?_⟩
  · have rows : (lines.mapWithKey Response.playerDocument).values =
        (standings keeper session round found.players).map Standing.document := by
      change (lines.pairs.map fun pair => (pair.1, Response.playerDocument pair.1 pair.2)).map
        Prod.snd = _
      rw [linePairs, List.map_map, List.map_map, standings, List.map_map, List.map_map]
      rfl
    rw [answer, Response.document, rows]
  · rw [standings, List.map_map]
    exact List.map_id _
  · rw [standings, List.forall_mem_map]
    exact fun player _ => ⟨rfl, rfl⟩
  · obtain ⟨player, plays⟩ := List.exists_mem_of_ne_nil _ somebody
    exact List.ne_nil_of_mem (List.mem_map_of_mem (List.mem_eraseDups.2 plays))

end Answer

instance : Scalar.Ordered ℚ where
  total _ _ := by simpa [Scalar.le] using le_total _ _
  trans _ _ _ := by simpa [Scalar.le] using le_trans
  lt_iff _ _ := by simpa [Scalar.le, Scalar.lt] using le_of_lt
  eq_iff _ _ := by simpa [Scalar.le, Scalar.eq] using le_antisymm_iff

-- One of the three players is named twice, and two of them have the same total.
def tiedSession : Session :=
  ⟨"s", "S", ["p", "q", "p", "r"], [], [], [], none, {}⟩

def tiedKeeper : Keeper ℚ where
  book :=
    { Book.empty with
      sessions := Table.ofList [("s", tiedSession)]
      entries := Table.ofList
        [("a", ⟨⟨"s", some "p", 2, 0, none, none, none, .manual⟩, "a"⟩),
          ("b", ⟨⟨"s", some "q", 1, 0, none, none, none, .manual⟩, "b"⟩),
          ("c", ⟨⟨"s", some "r", 2, 0, none, none, none, .manual⟩, "c"⟩)] }
  windows := .standard

theorem playerTotal_tiedKeeper :
    ["p", "q", "r"].map (fun player => playerTotal (playerScope tiedKeeper.book "s" none player)) =
      [2, 1, 2] := by
  have total (player : String) : playerTotal (playerScope tiedKeeper.book "s" none player) =
      Scalar.sum (baseTotals tiedKeeper.book "s" (some player)).values := by
    rw [playerTotal, Scope.categoryTotals_eq_base rfl]
    rfl
  simp only [total]
  decide +kernel

theorem serviceTotals_tiedKeeper :
    tiedKeeper.book.session? "s" = some tiedSession ∧
    (∀ player ∈ tiedSession.players,
      IsNumber (playerTotal (playerScope tiedKeeper.book "s" none player))) ∧
    ∃ (standings : List (Standing ℚ)) (winners : List String),
      (tiedKeeper.serviceTotals "s" none).document = .record [
        ("session_id", .text "s"),
        ("round_id", .null),
        ("players", .list (standings.map Standing.document)),
        ("winners", .texts winners)] ∧
      standings.map Standing.player = ["p", "q", "r"] ∧
      standings.map Standing.total = [2, 1, 2] ∧
      "p" ∈ winners ∧ "q" ∉ winners ∧ "r" ∈ winners := by
  have known : tiedKeeper.book.session? "s" = some tiedSession := rfl
  have numbers : ∀ player ∈ tiedSession.players,
      IsNumber (playerTotal (playerScope tiedKeeper.book "s" none player)) :=
    fun _ _ => decide_eq_true rfl
  obtain ⟨standings, winners, -, answer, players, reported, won, -⟩ :=
    serviceTotals_reports_winners none known numbers
  have totals : standings.map Standing.total = [2, 1, 2] := by
    rw [← playerTotal_tiedKeeper, ← show _ = ["p", "q", "r"] from players, List.map_map]
    refine List.map_congr_left fun standing listed => ?_
    rw [(reported standing listed).2, (reported standing listed).1]
    rfl
  refine ⟨known, numbers, standings, winners, answer, players, totals, ?_⟩
  rw [won.best, won.best, won.best, totals]
  obtain ⟨p, _, rfl, isP, players⟩ := List.map_eq_cons_iff.1 players
  obtain ⟨q, _, rfl, isQ, players⟩ := List.map_eq_cons_iff.1 players
  obtain ⟨r, _, rfl, isR, players⟩ := List.map_eq_cons_iff.1 players
  obtain rfl := List.map_eq_nil_iff.1 players
  obtain ⟨ofP, ofQ, ofR⟩ : p.total = 2 ∧ q.total = 1 ∧ r.total = 2 := by simpa using totals
  have top : Direction.Best .higherWins [2, 1, 2] (2 : ℚ) := ⟨by decide +kernel, by decide +kernel⟩
  have low : ¬ Direction.Best .higherWins [2, 1, 2] (1 : ℚ) := fun best =>
    absurd (best.unbeaten 2 (by decide +kernel)) (by decide +kernel)
  simp [isP, isQ, isR, ofP, ofQ, ofR, tiedSession, top, low]

end Scorekeeper
