import Scorekeeper.Formula.Check
import Scorekeeper.Proofs.Formula.Expression
import Scorekeeper.Proofs.Formula.Operands
import Scorekeeper.Proofs.Formula.Spelling
import Scorekeeper.Proofs.Formula.Yard
import Scorekeeper.Scalar.Double

set_option autoImplicit false

/-!
# What a formula depends on

The outcome of a formula depends on its context only through what that makes of the names the
formula refers to, and no other name is looked up.  Names that a function is asked about are another
matter, since a number has a name too.
-/

namespace Scorekeeper.Formula

open Scorekeeper.Text

theorem mem_references_iff {formula name : String} :
    name ∈ references formula ↔
      ∃ tokens, tokenize (trimmed formula) = .ok tokens ∧ .reference name ∈ tokens := by
  have named (token : Token) : token.reference? = some name ↔ token = .reference name := by
    cases token <;> simp [Token.reference?]
  rw [references]
  cases tokenize (trimmed formula) with
  | error cause => simp
  | ok tokens => simp [List.mem_mergeSort, named]

theorem mem_references_iff_of_read {formula name : String} {tokens : List Token}
    (read : tokenize (trimmed formula) = .ok tokens) :
    name ∈ references formula ↔ .reference name ∈ tokens := by
  simp [mem_references_iff, read]

theorem mem_references_of_compile {formula name : String} {items : List Item}
    (compiled : compile formula = .ok items) (member : .reference name ∈ items) :
    name ∈ references formula := by
  obtain ⟨_, tokens, read, _, ordered⟩ := compile_eq_ok_iff.1 compiled
  have word : Item.token (.reference name) ∈ items.map Item.token := List.mem_map_of_mem member
  have kept := List.mem_filter.1 ((words_toPostfix ordered).mem_iff.1 word)
  exact mem_references_iff.2
    ⟨tokens, read, (mem_resolveSignsFrom_iff (by simp) (by simp) false tokens).1 kept.1⟩

def Lookup.Within (known : String → Prop) : Lookup → Prop
  | .object name | .category name | .state name => known name
  | .owns _ _ | .round | .phase => True

variable {R A B : Type}

/-- Two computations that cannot be told apart: each has the outcome and makes the lookups of the
other, whatever was looked up before.  All its lookups are within what is known, and a result fits.
-/
structure Alike (known : String → Prop) (fits : A → Prop) (left right : Evaluation R A) : Prop where
  same : left = right
  steady : ∃ outcome made, (∀ before, left.run before = (outcome, before ++ made)) ∧
    (∀ lookup ∈ made, lookup.Within known) ∧ ∀ a, outcome = .ok a → fits a

namespace Alike

variable {known : String → Prop} {fits : A → Prop}

theorem pure {a : A} (fit : fits a) : Alike known fits (pure a : Evaluation R A) (pure a) where
  same := rfl
  steady := by
    refine ⟨.ok a, [], fun before => ?_, nofun, ?_⟩
    · rw [List.append_nil]
      rfl
    · rintro _ ⟨⟩
      exact fit

theorem throw (fault : Fault R) :
    Alike known fits (throw fault : Evaluation R A) (throw fault) where
  same := rfl
  steady := by
    refine ⟨.error fault, [], fun before => ?_, nofun, nofun⟩
    rw [List.append_nil]
    rfl

theorem record {lookup : Lookup} (within : lookup.Within known) :
    Alike known (fun _ => True) (record lookup : Evaluation R Unit) (record lookup) where
  same := rfl
  steady := ⟨.ok (), [lookup], fun _ => rfl, by simpa using within, fun _ _ => trivial⟩

theorem bind {between : B → Prop} {left right : Evaluation R B} {later other : B → Evaluation R A}
    (first : Alike known between left right)
    (next : ∀ b, between b → Alike known fits (later b) (other b)) :
    Alike known fits (left >>= later) (right >>= other) := by
  obtain ⟨rfl, outcome, made, runs, within, fit⟩ := first
  have opened := fun rest : B → Evaluation R A => Evaluation.run_bind runs rest
  cases outcome with
  | error fault =>
    refine ⟨?_, .error fault, made, opened later, within, nofun⟩
    funext before
    exact (opened later before).trans (opened other before).symm
  | ok b =>
    obtain ⟨same, outcome, more, ran, inside, fitting⟩ := next b (fit b rfl)
    refine ⟨?_, outcome, made ++ more, fun before => ?_, ?_, fitting⟩
    · funext before
      refine (opened later before).trans ((congrFun same _).trans (opened other before).symm)
    · rw [opened, ← List.append_assoc]
      exact ran _
    · intro lookup member
      exact (List.mem_append.1 member).elim (within lookup) (inside lookup)

end Alike

/-- The contexts have the same lookups, which answer alike for the known names.  A question of
ownership may be of anything. -/
structure Context.AgreesOn (known : String → Prop) (left right : Context R) : Prop where
  category : ∀ name, known name → left.category name = right.category name
  object? : Option.Rel (fun left right => ∀ name, known name → left name = right name)
    left.object? right.object?
  state? : Option.Rel (fun left right => ∀ name, known name → left name = right name)
    left.state? right.state?
  owns? : left.owns? = right.owns?
  round? : left.round? = right.round?
  phase? : left.phase? = right.phase?

def Operand.Within (known : String → Prop) : Operand R → Prop
  | .number _ => True
  | .reference name => known name

abbrev AlikeNumbers (known : String → Prop) : Evaluation R R → Evaluation R R → Prop :=
  Alike known fun _ => True

section Functions

variable [Scalar R]

def Function.misfit? (name : String) (function : Function) (count : Nat) :
    Option (Uncomputable R) :=
  if count = 0 then some (.tooFewArguments name)
  else
    match function.mostArguments? with
    | some most => if most < count then some (.tooManyArguments name most) else none
    | none => none

def Function.answer (name : String) (function : Function) (numbers : List R) : Evaluation R R :=
  match function.apply numbers with
  | .ok x => pure x
  | .error (.rounding fault) => fail (.rounding name fault)
  | .error .decimalsOutOfRange => fail (.decimalsOutOfRange name)
  | .error (.arithmetic fault) => throw (.arithmetic fault)

theorem callNumeric_eq (context : Context R) (name : String) (function : Function)
    (operands : List (Operand R)) :
    callNumeric context name function operands =
      match function.misfit? name operands.length with
      | some cause => fail cause
      | none => operands.mapM (Operand.toNumber context) >>= function.answer name := by
  rw [callNumeric, Function.misfit?]
  cases operands with
  | nil => rfl
  | cons first rest =>
    rw [List.isEmpty_cons, if_neg Bool.false_ne_true, List.length_cons,
      if_neg (Nat.succ_ne_zero rest.length)]
    cases function.mostArguments? with
    | none => rfl
    | some most =>
      dsimp only
      split <;> rfl

end Functions

section Congruence

variable {known : String → Prop} {left right : Context R}

theorem alike_lift (result : Except ArithmeticFault A) :
    Alike known (fun _ => True) (lift result : Evaluation R A) (lift result) := by
  cases result with
  | ok a => exact .pure trivial
  | error fault => exact .throw _

theorem alike_apply [Scalar R] (op : Operator) (a b : R) :
    AlikeNumbers known (op.apply a b) (op.apply a b) := by
  cases op with
  | divide =>
    rw [Operator.apply]
    split
    · exact .throw _
    · exact .pure trivial
  | power =>
    rw [Operator.apply]
    cases Scalar.power a b with
    | ok x => exact .pure trivial
    | error fault => exact .throw _
  | _ => exact .pure trivial

theorem alike_answer [Scalar R] (name : String) (function : Function) (numbers : List R) :
    AlikeNumbers known (function.answer name numbers) (function.answer name numbers) := by
  rw [Function.answer]
  rcases function.apply numbers with (_ | _ | _) | x
  case ok => exact .pure trivial
  all_goals exact .throw _

namespace Context.AgreesOn

theorem resolve (agree : left.AgreesOn known right) {name : String} (member : known name) :
    AlikeNumbers known (left.resolve name) (right.resolve name) := by
  have category : AlikeNumbers known
      (record (.category name) >>= fun _ => lift (left.category name))
      (record (.category name) >>= fun _ => lift (right.category name)) := by
    rw [agree.category name member]
    exact .bind (.record member) fun _ _ => alike_lift _
  have objects := agree.object?
  rw [Context.resolve, Context.resolve]
  generalize left.object? = leftObjects at objects ⊢
  generalize right.object? = rightObjects at objects ⊢
  cases objects with
  | none => exact category
  | some same =>
    simp only [same name member]
    refine .bind (.record member) fun _ _ => .bind (alike_lift _) fun found _ => ?_
    cases found with
    | none => exact category
    | some x => exact .pure trivial

theorem toNumber (agree : left.AgreesOn known right) {operand : Operand R}
    (within : operand.Within known) :
    AlikeNumbers known (operand.toNumber left) (operand.toNumber right) := by
  cases operand with
  | number x => exact .pure trivial
  | reference name => exact agree.resolve within

theorem toNumbers (agree : left.AgreesOn known right) {operands : List (Operand R)}
    (within : ∀ operand ∈ operands, operand.Within known) :
    Alike known (fun _ => True) (operands.mapM (Operand.toNumber left))
      (operands.mapM (Operand.toNumber right)) := by
  induction operands with
  | nil => exact .pure trivial
  | cons first rest ih =>
    rw [List.forall_mem_cons] at within
    rw [List.mapM_cons, List.mapM_cons]
    exact .bind (agree.toNumber within.1) fun _ _ => .bind (ih within.2) fun _ _ => .pure trivial

variable [Scalar R]

theorem callState {state other : String → String} {operands : List (Operand R)}
    (same : ∀ name, known name → state name = other name)
    (within : ∀ operand ∈ operands, operand.Within known) :
    AlikeNumbers known (callState state operands) (callState other operands) := by
  rcases operands with _ | ⟨_ | name, _ | _⟩
  case cons.reference.nil =>
    have member : known name := within (.reference name) (by simp)
    simp only [Formula.callState, same name member]
    exact .bind (.record member) fun _ _ => .pure trivial
  all_goals exact .throw _

theorem callOwns (owns : String → Option String → Bool) (operands : List (Operand R)) :
    AlikeNumbers known (callOwns owns operands) (callOwns owns operands) := by
  rcases operands with _ | ⟨object, _ | ⟨player, _ | _⟩⟩
  case cons.nil | cons.cons.nil => exact .bind (.record trivial) fun _ _ => .pure trivial
  all_goals exact .throw _

theorem callIf (agree : left.AgreesOn known right) {operands : List (Operand R)}
    (within : ∀ operand ∈ operands, operand.Within known) :
    AlikeNumbers known (callIf left operands) (callIf right operands) := by
  rcases operands with _ | ⟨condition, _ | ⟨whenTrue, _ | ⟨whenFalse, _ | _⟩⟩⟩
  case cons.cons.cons.nil =>
    refine .bind (agree.toNumber (within condition (by simp))) fun _ _ => ?_
    refine .bind (agree.toNumber (within whenTrue (by simp))) fun _ _ => ?_
    exact .bind (agree.toNumber (within whenFalse (by simp))) fun _ _ => .pure trivial
  all_goals exact .throw _

theorem callNumeric (agree : left.AgreesOn known right) (name : String) (function : Function)
    {operands : List (Operand R)} (within : ∀ operand ∈ operands, operand.Within known) :
    AlikeNumbers known (callNumeric left name function operands)
      (callNumeric right name function operands) := by
  rw [callNumeric_eq, callNumeric_eq]
  cases function.misfit? name operands.length with
  | some cause => exact .throw _
  | none =>
    exact .bind (agree.toNumbers within) fun numbers _ => alike_answer name function numbers

theorem callSpecial? (agree : left.AgreesOn known right) (name : String)
    {operands : List (Operand R)} (within : ∀ operand ∈ operands, operand.Within known) :
    Option.Rel (AlikeNumbers known) (callSpecial? left name operands)
      (callSpecial? right name operands) := by
  rw [Formula.callSpecial?, Formula.callSpecial?, agree.owns?, agree.round?, agree.phase?]
  split
  · have states := agree.state?
    generalize left.state? = leftStates at states ⊢
    generalize right.state? = rightStates at states ⊢
    cases states with
    | none => exact .none
    | some same => exact .some (callState same within)
  split
  · cases right.owns? with
    | none => exact .none
    | some owns => exact .some (callOwns owns operands)
  split
  · cases right.round? with
    | none => exact .none
    | some index => exact .some (.bind (.record trivial) fun _ _ => alike_lift _)
  split
  · cases right.phase? with
    | none => exact .none
    | some phase => exact .some (.bind (.record trivial) fun _ _ => .pure trivial)
  split
  · exact .some (agree.callIf within)
  · exact .none

theorem callNamed (agree : left.AgreesOn known right) (name : String)
    {operands : List (Operand R)} (within : ∀ operand ∈ operands, operand.Within known) :
    AlikeNumbers known (callNamed left name operands) (callNamed right name operands) := by
  have special := agree.callSpecial? (lowercase name) within
  rw [Formula.callNamed, Formula.callNamed]
  generalize Formula.callSpecial? left (lowercase name) operands = leftCall at special ⊢
  generalize Formula.callSpecial? right (lowercase name) operands = rightCall at special ⊢
  cases special with
  | some alike => exact alike
  | none =>
    dsimp only
    cases Function.ofName? (lowercase name) with
    | some function => exact agree.callNumeric name function within
    | none =>
      dsimp only
      split <;> exact .throw _

theorem step (agree : left.AgreesOn known right) {stack : List (Operand R)} {item : Item}
    (within : ∀ operand ∈ stack, operand.Within known)
    (member : ∀ name, item = .reference name → known name) :
    Alike known (fun next => ∀ operand ∈ next, operand.Within known) (item.step left stack)
      (item.step right stack) := by
  cases item with
  | number text =>
    rw [Item.step, Item.step]
    cases (Scalar.read? text : Option R) with
    | none => exact .throw _
    | some x => exact .pure (List.forall_mem_cons.2 ⟨trivial, within⟩)
  | reference name => exact .pure (List.forall_mem_cons.2 ⟨member name rfl, within⟩)
  | operator op =>
    rcases stack with _ | ⟨b, _ | ⟨a, rest⟩⟩
    case cons.cons =>
      rw [List.forall_mem_cons, List.forall_mem_cons] at within
      refine .bind (agree.toNumber within.1) fun b _ => ?_
      refine .bind (agree.toNumber within.2.1) fun a _ => ?_
      refine .bind (alike_apply op a b) fun x _ => ?_
      exact .pure (List.forall_mem_cons.2 ⟨trivial, within.2.2⟩)
    all_goals exact .throw _
  | call function count =>
    rw [Item.step, Item.step]
    split
    · exact .throw _
    · have taken : ∀ operand ∈ (stack.take count).reverse, operand.Within known :=
        fun operand member => within operand (List.mem_of_mem_take (List.mem_reverse.1 member))
      have left : ∀ operand ∈ stack.drop count, operand.Within known :=
        fun operand member => within operand (List.mem_of_mem_drop member)
      refine .bind (agree.callNamed function taken) fun x _ => ?_
      exact .pure (List.forall_mem_cons.2 ⟨trivial, left⟩)

theorem runFrom (agree : left.AgreesOn known right) {stack : List (Operand R)}
    {items : List Item} (within : ∀ operand ∈ stack, operand.Within known)
    (members : ∀ name, .reference name ∈ items → known name) :
    AlikeNumbers known (runFrom left stack items) (runFrom right stack items) := by
  induction items generalizing stack with
  | nil =>
    rcases stack with _ | ⟨result, _ | _⟩
    case cons.nil => exact agree.toNumber (within result (by simp))
    all_goals exact .throw _
  | cons item rest ih =>
    rw [Expression.runFrom_cons, Expression.runFrom_cons]
    refine .bind (agree.step within ?_) fun next inside => ih inside ?_
    · rintro name rfl
      exact members name List.mem_cons_self
    · exact fun name member => members name (List.mem_cons_of_mem _ member)

end Context.AgreesOn

theorem alike_ofMalformed (result : Except Malformed A) :
    Alike known (fun a => result = .ok a) (ofMalformed result : Evaluation R A)
      (ofMalformed result) := by
  cases result with
  | ok a => exact .pure rfl
  | error cause => exact .throw _

variable [Scalar R]

theorem Context.AgreesOn.evaluation {formula : String}
    (agree : left.AgreesOn (· ∈ references formula) right) :
    AlikeNumbers (· ∈ references formula) (evaluation left formula)
      (evaluation right formula) := by
  rw [evaluation_eq, evaluation_eq]
  refine .bind (alike_ofMalformed _) fun items compiled => agree.runFrom nofun ?_
  exact fun name member => mem_references_of_compile compiled member

theorem Context.AgreesOn.evaluate_eq {formula : String}
    (agree : left.AgreesOn (· ∈ references formula) right) :
    evaluate left formula = evaluate right formula := by
  rw [evaluate, evaluate, trace, trace, agree.evaluation.same]

end Congruence

theorem trace_of_agreesOn [Scalar R] {left right : Context R} {formula : String}
    (agree : left.AgreesOn (· ∈ references formula) right) :
    trace left formula = trace right formula ∧
      ∀ lookup ∈ (trace left formula).2, lookup.Within (· ∈ references formula) := by
  obtain ⟨same, outcome, made, runs, within, -⟩ := agree.evaluation
  refine ⟨by rw [trace, trace, same], fun lookup member => within lookup ?_⟩
  rwa [trace, runs, List.nil_append] at member

def sceneContext (elsewhere : Float) (state : String) : Context Float where
  category name := .ok (if name = "a" ∨ name = "b" then 2 else elsewhere)
  state? := some fun name => if name = "a" ∨ name = "b" then "owned" else state

theorem trace_of_agreesOn_scene :
    (sceneContext 5 "active").AgreesOn (· ∈ references "{a}^state({b})")
      (sceneContext 7 "inactive") ∧
    trace (sceneContext 5 "active") "{a}^state({b})" =
      trace (sceneContext 7 "inactive") "{a}^state({b})" ∧
    ∀ lookup ∈ (trace (sceneContext 5 "active") "{a}^state({b})").2,
      lookup.Within (· ∈ references "{a}^state({b})") := by
  have read : tokenize (trimmed "{a}^state({b})") = .ok [.reference "a", .operator .power,
      .function "state", .openParen, .reference "b", .closeParen] := by
    rw [tokenize, show (trimmed "{a}^state({b})").toList = ['{', 'a', '}', '^', 's', 't', 'a', 't',
      'e', '(', '{', 'b', '}', ')'] by decide]
    repeat first
      | exact scan_nil
      | refine scan_cons rfl rfl ?_
  have known : ∀ name ∈ references "{a}^state({b})", name = "a" ∨ name = "b" := by
    intro name member
    simpa using (mem_references_iff_of_read read).1 member
  have agree (left right : Float) (state other : String) :
      (sceneContext left state).AgreesOn (· ∈ references "{a}^state({b})")
        (sceneContext right other) := by
    refine ⟨fun name member => ?_, .none, .some fun name member => ?_, rfl, rfl, rfl⟩
    · simp only [sceneContext, known name member, if_true]
    · simp only [known name member, if_true]
  exact ⟨agree .., trace_of_agreesOn (agree ..)⟩

end Scorekeeper.Formula
