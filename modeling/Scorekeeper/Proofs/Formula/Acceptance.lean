import Scorekeeper.Proofs.Except
import Scorekeeper.Proofs.Formula.Grammar
import Scorekeeper.Proofs.Formula.Operands
import Scorekeeper.Proofs.Formula.PostfixOrder
import Scorekeeper.Proofs.Formula.Yard
import Scorekeeper.Proofs.Scalar.Exact
import Scorekeeper.Scalar.Double

set_option autoImplicit false

/-!
# Accepted formulas

A formula is given a value only if the yard takes its tokens and one operand is left at the end.
Each number, reference or call adds an operand, and each operator or comma takes one.  As long as no
operand follows another with nothing between them, there is at most one where an operand has just
ended and none where one is still to come; an operator, a comma or a closing parenthesis that stands
where an operand should have ended leaves one too few for good.  So tokens that keep their operands
apart have a value only if they are a sentence.  Operands side by side are what escapes: a formula
such as `1 2 +` has a value as well.
-/

namespace Scorekeeper.Formula

open Scorekeeper.Decimal Scorekeeper.Text

variable {R : Type} [Scalar R]

namespace Yard

inductive Nested : List Pending → List Frame → Prop
  | outermost : Nested [] []
  | operator {pending : List Pending} {frames : List Frame} (op : Operator)
      (nested : Nested pending frames) : Nested (.operator op :: pending) frames
  | parentheses {pending : List Pending} {frames : List Frame} (nested : Nested pending frames) :
      Nested (.openParen :: pending) (⟨false, 0⟩ :: frames)
  | call {pending : List Pending} {frames : List Frame} (function : String) (commas : Nat)
      (nested : Nested pending frames) :
      Nested (.openParen :: .function function :: pending) (⟨true, commas⟩ :: frames)

def operators (pending : List Pending) : Nat :=
  pending.countP fun waiting => waiting matches .operator _

def commas (frames : List Frame) : Nat :=
  (frames.map Frame.commas).sum

def owed (pending : List Pending) (frames : List Frame) : Int :=
  operators pending + commas frames

theorem owed_operator (op : Operator) (pending : List Pending) (frames : List Frame) :
    owed (.operator op :: pending) frames = owed pending frames + 1 := by
  simp only [owed, operators, List.countP_cons, if_true]
  omega

theorem owed_parentheses (pending : List Pending) (frames : List Frame) :
    owed (.openParen :: pending) (⟨false, 0⟩ :: frames) = owed pending frames := by
  simp [owed, operators, commas]

theorem owed_call (function : String) (count : Nat) (pending : List Pending) (frames : List Frame) :
    owed (.openParen :: .function function :: pending) (⟨true, count⟩ :: frames) =
      owed pending frames + count := by
  simp [owed, operators, commas]
  omega

theorem owed_comma (count : Nat) (pending : List Pending) (frames : List Frame) :
    owed pending (⟨true, count + 1⟩ :: frames) = owed pending (⟨true, count⟩ :: frames) + 1 := by
  simp [owed, commas]
  omega

theorem Nested.comma {pending : List Pending} {count : Nat} {frames : List Frame}
    (nested : Nested pending (⟨true, count⟩ :: frames)) :
    Nested pending (⟨true, count + 1⟩ :: frames) := by
  generalize same : (⟨true, count⟩ : Frame) :: frames = opened at nested
  induction nested with
  | outermost => cases same
  | operator op _ ih => exact .operator op (ih same)
  | parentheses => cases same
  | call function commas nested =>
    cases same
    exact .call function _ nested

theorem release_openParen {waiting : Pending → Bool} (stays : waiting .openParen = false)
    (pending : List Pending) :
    release waiting (.openParen :: pending) = ([], .openParen :: pending) := by
  simp [release, stays]

theorem Nested.release {pending : List Pending} {frames : List Frame}
    (nested : Nested pending frames) {waiting : Pending → Bool}
    (stays : waiting .openParen = false) :
    Nested (release waiting pending).2 frames ∧
      net (release waiting pending).1 + owed pending frames =
        owed (release waiting pending).2 frames := by
  induction nested with
  | outermost => exact ⟨.outermost, rfl⟩
  | @operator pending frames op nested ih =>
    cases released : waiting (.operator op) with
    | true =>
      rw [release_operator released, owed_operator]
      refine ⟨ih.1, ?_⟩
      rw [net_cons, ← ih.2, Item.net]
      omega
    | false =>
      have whole : Formula.release waiting (.operator op :: pending) =
          ([], .operator op :: pending) := by
        simp [Formula.release, released]
      rw [whole]
      exact ⟨.operator op nested, by simp⟩
  | parentheses nested =>
    rw [release_openParen stays]
    exact ⟨.parentheses nested, by simp⟩
  | call function commas nested =>
    rw [release_openParen stays]
    exact ⟨.call function commas nested, by simp⟩

theorem Nested.close {pending rest : List Pending} {frames outer : List Frame} {items : List Item}
    {previous : Option Token} (nested : Nested pending frames) (filled : previous ≠ some .openParen)
    (closes : Yard.close ⟨pending, frames, previous⟩ = .ok (items, rest, outer)) :
    ∃ frame, frames = frame :: outer ∧ Nested rest outer ∧
      net items + owed pending frames = owed rest outer := by
  induction nested generalizing items with
  | outermost => cases closes
  | operator op nested ih =>
    -- What is released above the parenthesis takes the operands that were owed for it.
    rw [close_operator, map_eq_ok_iff] at closes
    obtain ⟨⟨released, left, opened⟩, closes, same⟩ := closes
    cases same
    obtain ⟨frame, rfl, inner, counted⟩ := ih closes
    refine ⟨frame, rfl, inner, ?_⟩
    rw [net_cons, owed_operator, ← counted, Item.net]
    omega
  | @parentheses pending frames nested =>
    have closed : Yard.close ⟨.openParen :: pending, ⟨false, 0⟩ :: frames, previous⟩ =
        .ok ([], pending, frames) := rfl
    rw [closed] at closes
    cases closes
    exact ⟨_, rfl, nested, by simp [owed_parentheses]⟩
  | @call pending frames function commas nested =>
    by_cases missing : previous = some .comma
    · subst missing
      cases closes
    · have closed : Yard.close ⟨.openParen :: .function function :: pending,
          ⟨true, commas⟩ :: frames, previous⟩ =
          .ok ([.call function (commas + 1)], pending, frames) := by
        simp only [Yard.close, release_openParen (show Pending.inside .openParen = false from rfl),
          if_true, if_neg missing, if_neg filled, List.nil_append]
        rfl
      rw [closed] at closes
      cases closes
      refine ⟨_, rfl, nested, ?_⟩
      rw [owed_call, net_cons, net_nil, Item.net]
      omega

theorem Nested.separate {pending rest : List Pending} {frames inner : List Frame}
    {items : List Item} {previous : Option Token} (nested : Nested pending frames)
    (separates : Yard.separate ⟨pending, frames, previous⟩ = .ok (items, rest, inner)) :
    ∃ count outer, frames = ⟨true, count⟩ :: outer ∧ inner = ⟨true, count + 1⟩ :: outer ∧
      Nested rest inner ∧ net items + owed pending frames + 1 = owed rest inner := by
  rcases frames with _ | ⟨⟨_ | _, count⟩, outer⟩
  · cases separates
  · cases separates
  · simp only [Yard.separate] at separates
    split at separates
    · cases separates
    · cases separates
      have released := nested.release (show Pending.inside .openParen = false from rfl)
      refine ⟨count, outer, rfl, rfl, released.1.comma, ?_⟩
      rw [owed_comma, ← released.2]

theorem Nested.net_pending {pending : List Pending} (nested : Nested pending []) :
    net (pending.filterMap Pending.item?) + owed pending [] = 0 := by
  generalize same : ([] : List Frame) = frames at nested
  induction nested with
  | outermost => rfl
  | operator op _ ih =>
    cases same
    have counted := ih rfl
    rw [owed_operator]
    change -1 + net (List.filterMap Pending.item? _) + _ = 0
    omega
  | parentheses => cases same
  | call => cases same

theorem Nested.finish {pending : List Pending} {frames : List Frame} {items : List Item}
    {previous : Option Token} (nested : Nested pending frames) (ready : Ready previous)
    (finishes : Yard.finish ⟨pending, frames, previous⟩ = .ok items) :
    frames = [] ∧ net items + owed pending frames = 0 := by
  rw [Yard.finish] at finishes
  split at finishes
  · rename_i name same
    exact absurd same (ready name)
  · cases frames with
    | nil =>
      cases finishes
      exact ⟨rfl, nested.net_pending⟩
    | cons => cases finishes

def missing (after : Bool) : Int :=
  if after then 0 else 1

/-- The tokens left add so many operands, which are no more than are missing, and as many only if
they complete the sentence. -/
structure Fits (after : Bool) (calls : List Bool) (tokens : List Token) (count : Int) : Prop where
  atMost : count ≤ missing after
  completes : count = missing after → Completes after calls tokens

namespace Fits

variable {after : Bool} {calls inner : List Bool} {tokens rest : List Token} {count : Int}

theorem operand (later : Fits true inner rest count)
    (completes : Completes true inner rest → Completes false calls tokens) :
    Fits false calls tokens (count + 1) where
  atMost := Int.add_le_add_right later.atMost 1
  completes same := completes (later.completes (add_right_cancel same))

theorem opened (later : Fits false inner rest count)
    (completes : Completes false inner rest → Completes false calls tokens) :
    Fits false calls tokens count where
  atMost := later.atMost
  completes same := completes (later.completes same)

theorem lacking (less : count ≤ 0) : Fits false calls tokens count where
  atMost := Int.le_trans less (by decide)
  completes same := absurd (same ▸ less) (by decide)

theorem closed (later : Fits true inner rest count)
    (completes : Completes true inner rest → Completes true calls tokens) :
    Fits after calls tokens count := by
  cases after with
  | false => exact lacking later.atMost
  | true => exact ⟨later.atMost, fun same => completes (later.completes same)⟩

theorem taken (later : Fits false inner rest count)
    (completes : Completes false inner rest → Completes true calls tokens) :
    Fits after calls tokens (count - 1) := by
  have less : count - 1 ≤ 0 := Int.sub_nonpos_of_le later.atMost
  cases after with
  | false => exact lacking less
  | true => exact ⟨less, fun same => completes (later.completes (Int.sub_eq_zero.1 same))⟩

theorem finish : Fits after [] [] 0 := by
  cases after with
  | false => exact lacking (Int.le_refl 0)
  | true => exact ⟨Int.le_refl 0, fun _ => .finish⟩

end Fits

def afterOperand (previous : Option Token) : Bool :=
  previous.any Token.endsOperand

-- The tokens left keep the operands apart, and a parenthesis just opened has something in it.
structure GoesOn (previous : Option Token) (tokens : List Token) : Prop where
  ready : Ready previous
  filled : previous = some .openParen → tokens.head? ≠ some .closeParen
  apart : ∀ next ∈ tokens.head?, next.startsOperand = true → afterOperand previous = false
  separated : Separated tokens

theorem goesOn_cons {token : Token} {rest : List Token} (other : ∀ name, token ≠ .function name)
    (filled : token = .openParen → rest.head? ≠ some .closeParen)
    (separated : Separated (token :: rest)) : GoesOn (some token) rest where
  ready := ready_some other
  filled same := filled (Option.some.inj same)
  apart next first starts := by
    cases rest with
    | nil => cases first
    | cons head later =>
      cases first
      have apart := (separated_cons.1 separated).1
      rw [Token.separates_eq other, starts] at apart
      simpa [afterOperand] using apart
  separated := separated.tail

theorem close_of_step {yard next : Yard} {released : List Item} (ready : Ready yard.previous)
    (step : yard.step .closeParen = .ok (released, next)) :
    ∃ pending frames, yard.close = .ok (released, pending, frames) ∧
      next = ⟨pending, frames, some .closeParen⟩ := by
  simp only [Yard.step, checkCall_ready ready, ok_bind] at step
  obtain ⟨⟨_, pending, frames⟩, closes, same⟩ := bind_eq_ok_iff.1 step
  cases same
  exact ⟨pending, frames, closes, rfl⟩

theorem separate_of_step {yard next : Yard} {released : List Item} (ready : Ready yard.previous)
    (step : yard.step .comma = .ok (released, next)) :
    ∃ pending frames, yard.separate = .ok (released, pending, frames) ∧
      next = ⟨pending, frames, some .comma⟩ := by
  simp only [Yard.step, checkCall_ready ready, ok_bind] at step
  obtain ⟨⟨_, pending, frames⟩, separates, same⟩ := bind_eq_ok_iff.1 step
  cases same
  exact ⟨pending, frames, separates, rfl⟩

theorem step_operator_ready {yard : Yard} {op : Operator} (ready : Ready yard.previous) :
    yard.step (.operator op) = .ok ((release (Pending.yieldsTo op) yard.pending).1,
      ⟨.operator op :: (release (Pending.yieldsTo op) yard.pending).2, yard.frames,
        some (.operator op)⟩) := by
  simp only [Yard.step, checkCall_ready ready]
  rfl

-- However the yard stands, what it makes of the tokens fits them.
def Weighed (tokens : List Token) : Prop :=
  ∀ (pending : List Pending) (frames : List Frame) (previous : Option Token) (items : List Item),
    Nested pending frames → GoesOn previous tokens →
      Yard.run ⟨pending, frames, previous⟩ tokens = .ok items →
        Fits (afterOperand previous) (frames.map Frame.isCall) tokens
          (net items + owed pending frames)

theorem weighed_nil : Weighed [] := by
  intro pending frames previous items nested goesOn runs
  obtain ⟨rfl, counted⟩ := nested.finish goesOn.ready runs
  rw [counted]
  exact .finish

theorem weighed_operand {token : Token} {item : Item} {rest : List Token} (later : Weighed rest)
    (starts : token.startsOperand = true) (ends : token.endsOperand = true) (one : item.net = 1)
    (step : ∀ pending frames previous, Ready previous →
      Yard.step ⟨pending, frames, previous⟩ token = .ok ([item], ⟨pending, frames, some token⟩))
    (completes : ∀ calls, Completes true calls rest → Completes false calls (token :: rest)) :
    Weighed (token :: rest) := by
  intro pending frames previous items nested goesOn runs
  rw [run_cons _ (step pending frames previous goesOn.ready)] at runs
  obtain ⟨left, ran, rfl⟩ := map_eq_ok_iff.1 runs
  have goes : GoesOn (some token) rest :=
    goesOn_cons (by rintro name rfl; cases ends) (by rintro rfl; cases ends) goesOn.separated
  have fits := later _ _ _ _ nested goes ran
  rw [show afterOperand (some token) = true from ends] at fits
  rw [goesOn.apart token rfl starts]
  have counted : net ([item] ++ left) + owed pending frames =
      net left + owed pending frames + 1 := by
    rw [net_append, net_cons, net_nil, one]
    omega
  rw [counted]
  exact fits.operand (completes _)

theorem weighed_operator {op : Operator} {rest : List Token} (later : Weighed rest) :
    Weighed (.operator op :: rest) := by
  intro pending frames previous items nested goesOn runs
  -- What is released takes what was owed for it; from here on the operator itself is owed one.
  obtain ⟨inside, taken⟩ := nested.release (show Pending.yieldsTo op .openParen = false from rfl)
  rw [run_cons _ (step_operator_ready goesOn.ready)] at runs
  obtain ⟨left, ran, rfl⟩ := map_eq_ok_iff.1 runs
  have goes : GoesOn (some (.operator op)) rest :=
    goesOn_cons (by simp) (by simp) goesOn.separated
  have fits := later _ _ _ _ (inside.operator op) goes ran
  rw [owed_operator, ← taken] at fits
  have counted : net ((release (Pending.yieldsTo op) pending).1 ++ left) + owed pending frames =
      net left + (net (release (Pending.yieldsTo op) pending).1 + owed pending frames + 1) - 1 := by
    rw [net_append]
    omega
  rw [counted]
  exact fits.taken (.operator op)

theorem weighed_close {rest : List Token} (later : Weighed rest) :
    Weighed (.closeParen :: rest) := by
  intro pending frames previous items nested goesOn runs
  obtain ⟨released, next, left, step, ran, rfl⟩ := run_cons_eq_ok runs
  obtain ⟨outer, outside, closes, rfl⟩ := close_of_step goesOn.ready step
  obtain ⟨frame, rfl, enclosed, owes⟩ :=
    nested.close (fun opened => goesOn.filled opened rfl) closes
  have goes : GoesOn (some .closeParen) rest := goesOn_cons (by simp) (by simp) goesOn.separated
  have fits := later _ _ _ _ enclosed goes ran
  rw [← owes, ← add_assoc, add_comm (net left), ← net_append] at fits
  exact fits.closed (.close frame.isCall)

theorem weighed_comma {rest : List Token} (later : Weighed rest) : Weighed (.comma :: rest) := by
  intro pending frames previous items nested goesOn runs
  obtain ⟨released, next, left, step, ran, rfl⟩ := run_cons_eq_ok runs
  obtain ⟨inside, _, separates, rfl⟩ := separate_of_step goesOn.ready step
  obtain ⟨count, outer, rfl, rfl, enclosed, owes⟩ := nested.separate separates
  have goes : GoesOn (some .comma) rest := goesOn_cons (by simp) (by simp) goesOn.separated
  have fits := later _ _ _ _ enclosed goes ran
  -- The call takes one operand more, which is owed until it is closed.
  have counted : net (released ++ left) + owed pending (⟨true, count⟩ :: outer) =
      net left + owed inside (⟨true, count + 1⟩ :: outer) - 1 := by
    rw [net_append, ← owes]
    omega
  rw [counted]
  exact fits.taken .comma

theorem weighed_parentheses {rest : List Token} (later : Weighed rest)
    (filled : rest.head? ≠ some .closeParen) : Weighed (.openParen :: rest) := by
  intro pending frames previous items nested goesOn runs
  rw [run_cons _ (step_openParen pending frames previous goesOn.ready), emit_nil] at runs
  have goes : GoesOn (some .openParen) rest :=
    goesOn_cons (by simp) (fun _ => filled) goesOn.separated
  have fits := later _ _ _ _ nested.parentheses goes runs
  rw [goesOn.apart _ rfl rfl]
  rw [owed_parentheses] at fits
  exact fits.opened .parentheses

theorem weighed_emptyParentheses {rest : List Token} (later : Weighed rest) :
    Weighed (.openParen :: .closeParen :: rest) := by
  intro pending frames previous items nested goesOn runs
  have closes : Yard.step ⟨.openParen :: pending, ⟨false, 0⟩ :: frames, some .openParen⟩
      .closeParen = .ok ([], ⟨pending, frames, some .closeParen⟩) := rfl
  rw [run_cons _ (step_openParen pending frames previous goesOn.ready), run_cons _ closes, emit_nil,
    emit_nil] at runs
  have goes : GoesOn (some .closeParen) rest :=
    goesOn_cons (by simp) (by simp) goesOn.separated.tail
  -- Parentheses with nothing in them stand where an operand is still to come and leave none.
  rw [goesOn.apart _ rfl rfl]
  exact .lacking (later _ _ _ _ nested goes runs).atMost

theorem weighed_call {function : String} {rest : List Token} (later : Weighed rest)
    (filled : rest.head? ≠ some .closeParen) :
    Weighed (.function function :: .openParen :: rest) := by
  intro pending frames previous items nested goesOn runs
  rw [run_call pending frames previous function rest goesOn.ready] at runs
  have goes : GoesOn (some .openParen) rest :=
    goesOn_cons (by simp) (fun _ => filled) goesOn.separated.tail
  have fits := later _ _ _ _ (nested.call function 0) goes runs
  rw [goesOn.apart _ rfl rfl]
  rw [owed_call, Nat.cast_zero, add_zero] at fits
  exact fits.opened (.call function)

theorem weighed_emptyCall {function : String} {rest : List Token} (later : Weighed rest) :
    Weighed (.function function :: .openParen :: .closeParen :: rest) := by
  intro pending frames previous items nested goesOn runs
  have closes : Yard.step ⟨.openParen :: .function function :: pending, ⟨true, 0⟩ :: frames,
      some .openParen⟩ .closeParen =
      .ok ([.call function 0], ⟨pending, frames, some .closeParen⟩) := rfl
  rw [run_call pending frames previous function _ goesOn.ready, run_cons _ closes] at runs
  obtain ⟨left, ran, rfl⟩ := map_eq_ok_iff.1 runs
  have goes : GoesOn (some .closeParen) rest :=
    goesOn_cons (by simp) (by simp) goesOn.separated.tail.tail
  have fits := later _ _ _ _ nested goes ran
  rw [goesOn.apart _ rfl rfl]
  have counted : net ([.call function 0] ++ left) + owed pending frames =
      net left + owed pending frames + 1 := by
    rw [net_append, net_cons, net_nil, Item.net]
    omega
  rw [counted]
  exact fits.operand (.emptyCall function)

theorem weighed_function {function : String} {rest : List Token}
    (uncalled : rest.head? ≠ some .openParen) : Weighed (.function function :: rest) := by
  intro pending frames previous items nested goesOn runs
  cases rest with
  | nil =>
    obtain ⟨released, next, left, step, ran, rfl⟩ := run_cons_eq_ok runs
    simp only [Yard.step, checkCall_ready goesOn.ready] at step
    cases step
    cases ran
  | cons next later =>
    have opens : next = .openParen := by
      simpa [Token.separates] using (separated_cons.1 goesOn.separated).1
    exact absurd (congrArg some opens) uncalled

-- A call takes up to three tokens at once, so the recursion is on their number.
theorem weighed (tokens : List Token) : Weighed tokens := by
  match tokens with
  | [] => exact weighed_nil
  | .number text :: rest =>
    refine weighed_operand (weighed rest) rfl rfl (show (Item.number text).net = 1 from rfl) ?_
      fun _ => .number text
    intro pending frames previous ready
    simp only [Yard.step, checkCall_ready ready]
    rfl
  | .reference name :: rest =>
    refine weighed_operand (weighed rest) rfl rfl (show (Item.reference name).net = 1 from rfl) ?_
      fun _ => .reference name
    intro pending frames previous ready
    simp only [Yard.step, checkCall_ready ready]
    rfl
  | .operator _ :: rest => exact weighed_operator (weighed rest)
  | .closeParen :: rest => exact weighed_close (weighed rest)
  | .comma :: rest => exact weighed_comma (weighed rest)
  | .openParen :: rest =>
    by_cases filled : rest.head? = some .closeParen
    · obtain ⟨later, rfl⟩ := List.head?_eq_some_iff.1 filled
      exact weighed_emptyParentheses (weighed later)
    · exact weighed_parentheses (weighed rest) filled
  | .function function :: rest =>
    by_cases called : rest.head? = some .openParen
    · obtain ⟨inside, rfl⟩ := List.head?_eq_some_iff.1 called
      by_cases filled : inside.head? = some .closeParen
      · obtain ⟨later, rfl⟩ := List.head?_eq_some_iff.1 filled
        exact weighed_emptyCall (weighed later)
      · exact weighed_call (weighed inside) filled
    · exact weighed_function called
termination_by tokens.length

end Yard

theorem isSentence_of_toPostfix {tokens : List Token} {items : List Item}
    (ordered : toPostfix tokens = .ok items) (single : net items = 1)
    (separated : Separated tokens) : IsSentence tokens := by
  have goesOn : Yard.GoesOn none tokens := ⟨nofun, nofun, fun _ _ _ => rfl, separated⟩
  have fits := Yard.weighed tokens [] [] none items .outermost goesOn ordered
  exact isSentence_iff_completes.2 (fits.completes (by simp [single]; rfl))

theorem isSentence_iff_separated (context : Context R) (formula : String) (value : R)
    (accepted : evaluate context formula = .ok value) :
    ∃ tokens, tokenize (trimmed formula) = .ok tokens ∧
      (IsSentence (resolveSigns tokens) ↔ Separated (resolveSigns tokens)) := by
  obtain ⟨tokens, items, read, ordered, single⟩ := net_of_evaluate accepted
  exact ⟨tokens, read, IsSentence.separated, isSentence_of_toPostfix ordered single⟩

theorem evaluate_eq_run {context : Context R} {formula : String} {token : Token}
    {tokens : List Token} {items : List Item} (filled : (trim formula.toList).isEmpty = false)
    (read : tokenize (trimmed formula) = .ok (token :: tokens))
    (ordered : toPostfix (resolveSigns (token :: tokens)) = .ok items) :
    evaluate context formula = ((run context items).run []).1 := by
  have compiled : compile formula = .ok items :=
    compile_eq_ok_iff.2 ⟨filled, token :: tokens, read, List.cons_ne_nil _ _, ordered⟩
  rw [evaluate, trace, evaluation_eq, compiled]
  rfl

theorem read_one : (Scalar.read? "1" : Option R) = some (Scalar.ofNumeral (.finite false 1 0)) := by
  rw [Scalar.read?, show Numeral.read? "1" = some (.finite false 1 0) by decide]
  rfl

theorem read_two : (Scalar.read? "2" : Option R) = some (Scalar.ofNumeral (.finite false 2 0)) := by
  rw [Scalar.read?, show Numeral.read? "2" = some (.finite false 2 0) by decide]
  rfl

theorem evaluate_one (context : Context R) :
    evaluate context "1" = .ok (Scalar.ofNumeral (.finite false 1 0)) := by
  have read : tokenize (trimmed "1") = .ok [.number "1"] := by
    rw [tokenize, show (trimmed "1").toList = "1".toList by decide]
    exact scan_cons rfl rfl scan_nil
  rw [evaluate_eq_run (by decide) read rfl]
  simp [run, runFrom, Item.step, read_one]
  rfl

theorem isSentence_iff_separated_max :
    evaluate (tableContext ([] : List (String × ℚ)) none) "max(1,(2))" = .ok 2 ∧
      ∃ tokens, tokenize (trimmed "max(1,(2))") = .ok tokens ∧
        (IsSentence (resolveSigns tokens) ↔ Separated (resolveSigns tokens)) := by
  have read : tokenize (trimmed "max(1,(2))") = .ok [.function "max", .openParen, .number "1",
      .comma, .openParen, .number "2", .closeParen, .closeParen] := by
    rw [tokenize, show (trimmed "max(1,(2))").toList = "max(1,(2))".toList by decide]
    repeat first
      | exact scan_nil
      | refine scan_cons rfl rfl ?_
  have ordered : toPostfix (resolveSigns [.function "max", .openParen, .number "1", .comma,
      .openParen, .number "2", .closeParen, .closeParen]) =
      .ok [.number "1", .number "2", .call "max" 2] := rfl
  have accepted : evaluate (tableContext ([] : List (String × ℚ)) none) "max(1,(2))" = .ok 2 := by
    rw [evaluate_eq_run (by decide) read ordered]
    have name : lowercase "max" = "max" := by decide
    simp [run, runFrom, Item.step, read_one, read_two, callNamed, callSpecial?, name,
      Function.ofName?, callNumeric, Function.mostArguments?, Function.apply, extremeOf, extreme,
      Operand.toNumber, Scalar.lt, Scalar.ofNumeral]
    rfl
  exact ⟨accepted, isSentence_iff_separated _ _ _ accepted⟩

theorem juxtaposed_accepted :
    (∃ value, evaluate (tableContext ([] : List (String × Float)) none) "1 2 +" = .ok value) ∧
      ∃ tokens, tokenize (trimmed "1 2 +") = .ok tokens ∧ ¬ IsSentence (resolveSigns tokens) := by
  have read : tokenize (trimmed "1 2 +") = .ok [.number "1", .number "2", .operator .plus] := by
    rw [tokenize, show (trimmed "1 2 +").toList = "1 2 +".toList by decide]
    repeat first
      | exact scan_nil
      | refine scan_skip rfl ?_
      | refine scan_cons rfl rfl ?_
  refine ⟨?_, _, read, fun sentence => ?_⟩
  · rw [evaluate_eq_run (by decide) read rfl]
    exact ⟨_, rfl⟩
  · have apart := (separated_cons.1 sentence.separated).1
    cases apart

end Scorekeeper.Formula
