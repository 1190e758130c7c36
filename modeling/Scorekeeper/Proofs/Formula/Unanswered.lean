import Scorekeeper.Proofs.Formula.Acceptance
import Scorekeeper.Proofs.Formula.Dependence

set_option autoImplicit false

/-!
# Formulas without an answer

Over named quantities, where every name has a number, a formula either has a value or is in error,
with two exceptions.  The extreme of a single number is none, and rounding at decimals so far below
zero that the power of ten vanishes leaves a division by zero.  Neither is an error of the formula
that could be reported as such.  They come up exactly where a run comes to one of these calls.
-/

namespace Scorekeeper.Formula

open Scorekeeper.Text

variable {R A B : Type}

open Evaluation

theorem Alike.steady_left {known : String → Prop} {fits : A → Prop} {left right : Evaluation R A}
    (alike : Alike known fits left right) : left.Steady := by
  obtain ⟨outcome, made, runs, -⟩ := alike.steady
  exact ⟨outcome, made, runs⟩

abbrev anyName : String → Prop := fun _ => True

theorem Operand.within_anyName (operand : Operand R) : operand.Within anyName := by
  cases operand <;> trivial

theorem Context.agreesOn_self (context : Context R) : context.AgreesOn anyName context where
  category _ _ := rfl
  object? := by cases context.object? <;> constructor; exact fun _ _ => rfl
  state? := by cases context.state? <;> constructor; exact fun _ _ => rfl
  owns? := rfl
  round? := rfl
  phase? := rfl

theorem steady_toNumber (context : Context R) (operand : Operand R) :
    (operand.toNumber context).Steady :=
  (context.agreesOn_self.toNumber operand.within_anyName).steady_left

theorem steady_toNumbers (context : Context R) (operands : List (Operand R)) :
    (operands.mapM (Operand.toNumber context)).Steady :=
  (context.agreesOn_self.toNumbers fun operand _ => operand.within_anyName).steady_left

variable [Scalar R]

theorem steady_apply (op : Operator) (a b : R) : (op.apply a b).Steady := by
  have alike : AlikeNumbers anyName (op.apply a b) _ := alike_apply op a b
  exact alike.steady_left

theorem steady_answer (name : String) (function : Function) (numbers : List R) :
    (function.answer name numbers).Steady := by
  have alike : AlikeNumbers anyName (function.answer name numbers) _ :=
    alike_answer name function numbers
  exact alike.steady_left

theorem steady_runFrom (context : Context R) (stack : List (Operand R)) (items : List Item) :
    (runFrom context stack items).Steady :=
  (context.agreesOn_self.runFrom (fun operand _ => operand.within_anyName)
    fun _ _ => trivial).steady_left

inductive Reaches (context : Context R) :
    List (Operand R) → List Item → List (Operand R) → Item → Prop
  | here (stack : List (Operand R)) (item : Item) (rest : List Item) :
      Reaches context stack (item :: rest) stack item
  | later {stack next there : List (Operand R)} {item reached : Item} {rest : List Item}
      (step : (item.step context stack).outcome = .ok next)
      (reaches : Reaches context next rest there reached) :
      Reaches context stack (item :: rest) there reached

/-- Calls of numeric functions that come to no value and to no error of the formula. -/
inductive Function.Unanswered : Function → List R → ArithmeticFault → Prop
  | max (x : R) : Unanswered .max [x] .loneArgument
  | min (x : R) : Unanswered .min [x] .loneArgument
  | round {x decimals factor : R} {n : Int} (scale : Scalar.powerOfTen? decimals = some factor)
      (whole : Scalar.floor (x * factor + half) = .ok n)
      (vanishes : Scalar.eq factor Scalar.zero = true) :
      Unanswered .round [x, decimals] .zeroFactor

def Operand.amount (references : List (String × R)) : Operand R → R
  | .number x => x
  | .reference name => (lookupFolded references name).getD Scalar.zero

def Item.Unanswered (references : List (String × R)) (stack : List (Operand R)) (item : Item)
    (fault : ArithmeticFault) : Prop :=
  ∃ name count function, item = .call name count ∧ count ≤ stack.length ∧
    Function.ofName? (lowercase name) = some function ∧
    function.Unanswered ((stack.take count).reverse.map (Operand.amount references)) fault

def Fault.Escapes : Fault R → Prop
  | .malformed cause => cause = .lostStep
  | .uncomputable _ => False
  | .arithmetic _ => True

omit [Scalar R] in
theorem Fault.Escapes.outcome_fail_ne {fault : Fault R} (escapes : fault.Escapes)
    (cause : Uncomputable R) : (fail cause : Evaluation R A).outcome ≠ .error fault := by
  rintro ⟨⟩
  exact escapes

theorem misfit?_of_unanswered {function : Function} {numbers : List R} {fault : ArithmeticFault}
    (unanswered : function.Unanswered numbers fault) (name : String) :
    function.misfit? (R := R) name numbers.length = none := by
  cases unanswered <;> rfl

omit [Scalar R] in
theorem wholePart_ne_arithmetic {part : R → Except RoundingFault Int} {x : R}
    {fault : ArithmeticFault} : wholePart part x ≠ .error (.arithmetic fault) := by
  rw [wholePart]
  split <;> nofun

omit [Scalar R] in
theorem wholePart_eq_ok_iff {part : R → Except RoundingFault Int} {x : R} {n : Int} :
    wholePart part x = .ok n ↔ part x = .ok n := by
  rw [wholePart]
  cases part x <;> simp

theorem roundAt_eq_error_iff {x decimals : R} {fault : ArithmeticFault} :
    roundAt x decimals = .error (.arithmetic fault) ↔
      Function.Unanswered .round [x, decimals] fault := by
  constructor
  · intro fails
    rw [roundAt] at fails
    split at fails
    · rename_i factor scale
      rcases bind_eq_error_iff.1 fails with unrounded | ⟨n, floored, rest⟩
      · exact (wholePart_ne_arithmetic unrounded).elim
      · split at rest
        · rename_i vanishes
          cases rest
          exact .round scale (wholePart_eq_ok_iff.1 floored) vanishes
        · cases rest
    · cases fails
  · intro unanswered
    cases unanswered with
    | round scale whole vanishes =>
      simp only [roundAt, scale, wholePart_eq_ok_iff.2 whole, ok_bind, vanishes]
      rfl

theorem apply_eq_error_iff {function : Function} {numbers : List R} {name : String}
    {fault : ArithmeticFault} (fits : function.misfit? (R := R) name numbers.length = none) :
    function.apply numbers = .error (.arithmetic fault) ↔ function.Unanswered numbers fault := by
  rcases numbers with _ | ⟨x, _ | ⟨y, rest⟩⟩
  · cases fits
  · cases function with
    | max | min =>
      refine ⟨fun fails => ?_, fun unanswered => ?_⟩
      · cases fails
        constructor
      · cases unanswered
        rfl
    | round =>
      refine iff_of_false (fun fails => ?_) nofun
      rcases bind_eq_error_iff.1 fails with unrounded | ⟨_, _, done⟩
      · exact wholePart_ne_arithmetic unrounded
      · cases done
    | floor | ceil =>
      exact iff_of_false (fun fails => wholePart_ne_arithmetic (map_eq_error_iff.1 fails)) nofun
    | _ => exact iff_of_false nofun nofun
  · cases function with
    | round =>
      cases rest with
      | nil => exact roundAt_eq_error_iff
      | cons => cases fits
    | abs | floor | ceil => cases fits
    | _ => exact iff_of_false nofun nofun

theorem outcome_answer_iff {function : Function} {numbers : List R} {name : String}
    (fits : function.misfit? (R := R) name numbers.length = none) {fault : Fault R}
    (escapes : fault.Escapes) :
    (function.answer name numbers).outcome = .error fault ↔
      ∃ arithmetic, fault = .arithmetic arithmetic ∧ function.Unanswered numbers arithmetic := by
  simp only [← apply_eq_error_iff fits, Function.answer]
  rcases function.apply numbers with (cause | _ | raised) | x <;>
    cases fault <;> simp_all [Fault.Escapes]

section Table

variable {references : List (String × R)} {round? : Option Int}

theorem outcome_toNumber (operand : Operand R) :
    (operand.toNumber (tableContext references round?)).outcome =
      .ok (operand.amount references) := by
  cases operand <;> rfl

theorem outcome_toNumber_bind (operand : Operand R) {later : R → Evaluation R A}
    (steady : ∀ x, (later x).Steady) :
    (operand.toNumber (tableContext references round?) >>= later).outcome =
      (later (operand.amount references)).outcome := by
  rw [outcome_bind steady, outcome_toNumber, ok_bind]

theorem outcome_toNumbers (operands : List (Operand R)) :
    (operands.mapM (Operand.toNumber (tableContext references round?))).outcome =
      .ok (operands.map (Operand.amount references)) := by
  induction operands with
  | nil => rfl
  | cons first rest ih =>
    have pushes (x : R) : (rest.mapM (Operand.toNumber (tableContext references round?)) >>=
        fun xs => pure (x :: xs)).Steady :=
      (steady_toNumbers _ rest).bind fun _ => steady_pure _
    rw [List.mapM_cons, outcome_toNumber_bind first pushes, outcome_bind fun _ => steady_pure _, ih]
    rfl

theorem outcome_callIf_ne (operands : List (Operand R)) {fault : Fault R}
    (escapes : fault.Escapes) :
    (callIf (tableContext references round?) operands).outcome ≠ .error fault := by
  rcases operands with _ | ⟨condition, _ | ⟨whenTrue, _ | ⟨whenFalse, _ | _⟩⟩⟩
  case cons.cons.cons.nil => cases condition <;> cases whenTrue <;> cases whenFalse <;> exact nofun
  all_goals exact escapes.outcome_fail_ne _

theorem outcome_special_ne (held : ∀ index ∈ round?, Scalar.holds R index = true) {name : String}
    {operands : List (Operand R)} {call : Evaluation R R}
    (special : Special (tableContext references round?) operands name call) {fault : Fault R}
    (escapes : fault.Escapes) : call.outcome ≠ .error fault := by
  cases special with
  | state known | owns known | phase _ known => cases known
  | round _ known =>
    rw [Quantity.toReal, if_pos (held _ known)]
    exact nofun
  | choice => exact outcome_callIf_ne operands escapes

theorem eq_nil_of_special {context : Context R} {name : String} {operands : List (Operand R)}
    {call : Evaluation R R} (special : Special context operands name call) {function : Function}
    (numeric : Function.ofName? name = some function) : operands = [] := by
  cases special with
  | round empty => exact empty
  | _ => cases numeric

theorem outcome_callNumeric_iff {name : String} {function : Function} {operands : List (Operand R)}
    {fault : Fault R} (escapes : fault.Escapes) :
    (callNumeric (tableContext references round?) name function operands).outcome = .error fault ↔
      ∃ arithmetic, fault = .arithmetic arithmetic ∧
        function.Unanswered (operands.map (Operand.amount references)) arithmetic := by
  rw [callNumeric_eq]
  cases fits : function.misfit? (R := R) name operands.length with
  | some cause =>
    refine iff_of_false (escapes.outcome_fail_ne cause) ?_
    rintro ⟨_, _, unanswered⟩
    have fitting := misfit?_of_unanswered unanswered name
    rw [List.length_map, fits] at fitting
    cases fitting
  | none =>
    rw [← List.length_map (Operand.amount references)] at fits
    rw [outcome_bind (steady_answer name function), outcome_toNumbers, ok_bind,
      outcome_answer_iff fits escapes]

theorem outcome_callNamed_iff (held : ∀ index ∈ round?, Scalar.holds R index = true) {name : String}
    {operands : List (Operand R)} {fault : Fault R} (escapes : fault.Escapes) :
    (callNamed (tableContext references round?) name operands).outcome = .error fault ↔
      ∃ arithmetic function, fault = .arithmetic arithmetic ∧
        Function.ofName? (lowercase name) = some function ∧
        function.Unanswered (operands.map (Operand.amount references)) arithmetic := by
  rw [callNamed]
  cases special : callSpecial? (tableContext references round?) (lowercase name) operands with
  | some call =>
    have special := special_of_callSpecial? special
    refine iff_of_false (outcome_special_ne held special escapes) ?_
    rintro ⟨_, function, _, numeric, unanswered⟩
    -- `round` alone is both special and numeric, and asked without operands it is special.
    rw [eq_nil_of_special special numeric] at unanswered
    cases unanswered
  | none =>
    cases numeric : Function.ofName? (lowercase name) with
    | some function => simp [outcome_callNumeric_iff escapes]
    | none =>
      dsimp only
      refine iff_of_false ?_ (by simp)
      split
      · exact escapes.outcome_fail_ne _
      · rintro ⟨⟩
        cases escapes

theorem outcome_apply_ne (op : Operator) (a b : R) {fault : Fault R} (escapes : fault.Escapes) :
    (op.apply a b).outcome ≠ .error fault := by
  cases op with
  | divide =>
    rw [Operator.apply]
    split
    · exact escapes.outcome_fail_ne _
    · rintro ⟨⟩
  | power =>
    rw [Operator.apply]
    cases Scalar.power a b with
    | ok x => rintro ⟨⟩
    | error cause => exact escapes.outcome_fail_ne _
  | _ => rintro ⟨⟩

variable (held : ∀ index ∈ round?, Scalar.holds R index = true)
include held

theorem outcome_step_iff {stack : List (Operand R)} {item : Item} {fault : Fault R}
    (escapes : fault.Escapes) :
    (item.step (tableContext references round?) stack).outcome = .error fault ↔
      ∃ arithmetic, fault = .arithmetic arithmetic ∧
        item.Unanswered references stack arithmetic := by
  cases item with
  | number text =>
    refine iff_of_false ?_ (by simp [Item.Unanswered])
    rw [Item.step]
    split
    · exact nofun
    · rintro ⟨⟩
      cases escapes
  | reference name => exact iff_of_false nofun (by simp [Item.Unanswered])
  | operator op =>
    refine iff_of_false ?_ (by simp [Item.Unanswered])
    rcases stack with _ | ⟨right, _ | ⟨left, rest⟩⟩
    case cons.cons =>
      have pushes (a b : R) : (op.apply a b >>= fun x =>
          (pure (.number x :: rest) : Evaluation R (List (Operand R)))).Steady :=
        (steady_apply op a b).bind fun _ => steady_pure _
      intro raises
      rw [Item.step, outcome_toNumber_bind right fun b => (steady_toNumber _ left).bind fun a =>
        pushes a b, outcome_toNumber_bind left fun a => pushes a _,
        outcome_bind fun _ => steady_pure _] at raises
      rcases bind_eq_error_iff.1 raises with failed | ⟨_, _, done⟩
      · exact outcome_apply_ne op _ _ escapes failed
      · cases done
    all_goals exact escapes.outcome_fail_ne _
  | call name count =>
    rw [Item.step]
    split
    · rename_i lacking
      refine iff_of_false (escapes.outcome_fail_ne _) ?_
      rintro ⟨_, _, _, _, _, ⟨⟩, enough, _⟩
      exact absurd lacking (Nat.not_lt.2 enough)
    · rename_i enough
      have called : (callNamed (tableContext references round?) name (stack.take count).reverse >>=
          fun x => (pure (.number x :: stack.drop count) :
            Evaluation R (List (Operand R)))).outcome = .error fault ↔
          (callNamed (tableContext references round?) name
            (stack.take count).reverse).outcome = .error fault := by
        rw [outcome_bind fun _ => steady_pure _, bind_eq_error_iff]
        exact or_iff_left nofun
      rw [called, outcome_callNamed_iff held escapes]
      constructor
      · rintro ⟨arithmetic, function, same, numeric, unanswered⟩
        exact ⟨arithmetic, same, name, count, function, rfl, Nat.not_lt.1 enough, numeric,
          unanswered⟩
      · rintro ⟨arithmetic, same, _, _, function, ⟨⟩, _, numeric, unanswered⟩
        exact ⟨arithmetic, function, same, numeric, unanswered⟩

theorem outcome_runFrom_iff {stack : List (Operand R)} {items : List Item} {fault : Fault R}
    (escapes : fault.Escapes) :
    (runFrom (tableContext references round?) stack items).outcome = .error fault ↔
      ∃ there item arithmetic, Reaches (tableContext references round?) stack items there item ∧
        item.Unanswered references there arithmetic ∧ fault = .arithmetic arithmetic := by
  induction items generalizing stack with
  | nil =>
    refine iff_of_false ?_ (by rintro ⟨_, _, _, ⟨⟩, _⟩)
    rcases stack with _ | ⟨result, _ | _⟩
    case cons.nil =>
      rw [runFrom, outcome_toNumber]
      rintro ⟨⟩
    all_goals exact escapes.outcome_fail_ne _
  | cons item rest ih =>
    rw [Expression.runFrom_cons, outcome_bind fun next => steady_runFrom _ next rest,
      bind_eq_error_iff, outcome_step_iff held escapes]
    constructor
    · rintro (⟨arithmetic, same, unanswered⟩ | ⟨next, step, later⟩)
      · exact ⟨stack, item, arithmetic, .here stack item rest, unanswered, same⟩
      · obtain ⟨there, reached, arithmetic, reaches, unanswered, same⟩ := ih.1 later
        exact ⟨there, reached, arithmetic, .later step reaches, unanswered, same⟩
    · rintro ⟨there, reached, arithmetic, reaches, unanswered, same⟩
      cases reaches with
      | here => exact .inl ⟨arithmetic, same, unanswered⟩
      | later step reaches =>
        exact .inr ⟨_, step, ih.2 ⟨there, reached, arithmetic, reaches, unanswered, same⟩⟩

end Table

theorem firstToken_ne_lostStep (c : Char) (rest : List Char) :
    firstToken c rest ≠ .error .lostStep := by
  intro lost
  unfold firstToken at lost
  repeat' split at lost
  all_goals cases lost

theorem scan_ne_lostStep (text : List Char) : scan text ≠ .error .lostStep := by
  intro lost
  induction text using scan.induct with
  | case1 =>
    rw [scan_nil] at lost
    cases lost
  | case2 c rest blank ih =>
    rw [scan_blank blank] at lost
    exact ih lost
  | case3 c rest visible cause first =>
    rw [scan_unread (Bool.eq_false_iff.2 visible) first] at lost
    cases lost
    exact firstToken_ne_lostStep c rest first
  | case4 c rest visible token after first ih =>
    rw [scan_token (Bool.eq_false_iff.2 visible) first] at lost
    exact ih (map_eq_error_iff.1 lost)

theorem compile_ne_lostStep (formula : String) : compile formula ≠ .error .lostStep := by
  intro lost
  rw [compile] at lost
  split at lost
  · cases lost
  rcases bind_eq_error_iff.1 lost with unread | ⟨tokens, _, lost⟩
  · exact scan_ne_lostStep _ unread
  split at lost
  · cases lost
  · exact toPostfix_ne_lostStep _ lost

theorem evaluate_eq_error_iff {context : Context R} {formula : String} {fault : Fault R} :
    evaluate context formula = .error fault ↔
      (∃ cause, compile formula = .error cause ∧ fault = .malformed cause) ∨
      ∃ items, compile formula = .ok items ∧ (run context items).outcome = .error fault := by
  change (evaluation context formula).outcome = _ ↔ _
  have steady (items : List Item) : (run context items).Steady := steady_runFrom context [] items
  rw [evaluation_eq, outcome_bind steady]
  cases compile formula with
  | error cause => simp [ofMalformed, bind, Except.bind, eq_comm]
  | ok items => simp [ofMalformed, bind, Except.bind]

def ComesUnanswered (references : List (String × R)) (round? : Option Int) (formula : String)
    (fault : ArithmeticFault) : Prop :=
  ∃ items stack item, compile formula = .ok items ∧
    Reaches (tableContext references round?) [] items stack item ∧
    item.Unanswered references stack fault

theorem evaluate_eq_escape_iff {references : List (String × R)} {round? : Option Int}
    (held : ∀ index ∈ round?, Scalar.holds R index = true) {formula : String} {fault : Fault R}
    (escapes : fault.Escapes) :
    evaluate (tableContext references round?) formula = .error fault ↔
      ∃ arithmetic, ComesUnanswered references round? formula arithmetic ∧
        fault = .arithmetic arithmetic := by
  rw [evaluate_eq_error_iff]
  constructor
  · rintro (⟨cause, uncompiled, rfl⟩ | ⟨items, compiled, ran⟩)
    · obtain rfl : cause = .lostStep := escapes
      exact (compile_ne_lostStep formula uncompiled).elim
    · obtain ⟨there, item, arithmetic, reaches, unanswered, same⟩ :=
        (outcome_runFrom_iff held escapes).1 ran
      exact ⟨arithmetic, ⟨items, there, item, compiled, reaches, unanswered⟩, same⟩
  · rintro ⟨arithmetic, ⟨items, stack, item, compiled, reaches, unanswered⟩, same⟩
    exact .inr ⟨items, compiled, (outcome_runFrom_iff held escapes).2
      ⟨stack, item, arithmetic, reaches, unanswered, same⟩⟩

theorem evaluate_loneArgument (context : Context R) :
    evaluate context "max(1)" = .error (.arithmetic .loneArgument) := by
  have read : tokenize (trimmed "max(1)") =
      .ok [.function "max", .openParen, .number "1", .closeParen] := by
    rw [tokenize, show (trimmed "max(1)").toList = "max(1)".toList by decide]
    repeat first
      | exact scan_nil
      | refine scan_cons rfl rfl ?_
  have ordered : toPostfix (resolveSigns [.function "max", .openParen, .number "1", .closeParen]) =
      .ok [.number "1", .call "max" 1] := rfl
  have name : lowercase "max" = "max" := by decide
  rw [evaluate_eq_run (by decide) read ordered]
  simp [run, runFrom, Item.step, read_one, callNamed, callSpecial?, name, Function.ofName?,
    callNumeric, Function.mostArguments?, Function.apply, extremeOf, Operand.toNumber]
  rfl

end Scorekeeper.Formula
