import Scorekeeper.Proofs.Formula.Acceptance
import Scorekeeper.Proofs.Formula.Dependence

set_option autoImplicit false

/-!
# Objections to formulas that have a value

The check of a formula counts parentheses and reads the names in its text, while the evaluation sets
frames aside and comes upon functions as their turn comes.  Still a formula that has a value in some
context is objected to for nothing but a reference without a name.
-/

namespace Scorekeeper.Formula

open Scorekeeper.Text

theorem balance_resolveSignsFrom (depth : Nat) (afterOperand : Bool) (tokens : List Token) :
    balanceObjection? depth (resolveSignsFrom afterOperand tokens) =
      balanceObjection? depth tokens := by
  induction tokens generalizing depth afterOperand with
  | nil => rfl
  | cons token rest ih =>
    cases token with
    | operator op =>
      rw [resolveSignsFrom]
      split
      · cases op <;> exact ih ..
      · exact ih ..
    | closeParen =>
      cases depth with
      | zero => rfl
      | succ outer => exact ih ..
    | _ => exact ih ..

variable {R : Type} [Scalar R]

theorem isFunction_of_callNamed {context : Context R} {name : String} {operands : List (Operand R)}
    {x : R} (gives : (callNamed context name operands).Gives x) :
    isFunction (lowercase name) = true := by
  rw [callNamed] at gives
  rw [isFunction, Bool.or_eq_true]
  cases special : callSpecial? context (lowercase name) operands with
  | some call =>
    refine .inr ?_
    generalize lowercase name = lowered at special
    cases special_of_callSpecial? special <;> rfl
  | none =>
    cases found : Function.ofName? (lowercase name) with
    | some function => exact .inl rfl
    | none =>
      simp only [special, found] at gives
      split at gives
      · rename_i special
        exact .inr special
      · exact (Evaluation.gives_throw gives).elim

theorem isFunction_of_runFrom {context : Context R} {stack : List (Operand R)} {items : List Item}
    {value : R} (gives : (runFrom context stack items).Gives value) :
    ∀ function count, .call function count ∈ items → isFunction (lowercase function) = true := by
  induction items generalizing stack with
  | nil => exact nofun
  | cons item rest ih =>
    rw [Expression.runFrom_cons] at gives
    obtain ⟨next, step, later⟩ := gives.bind
    intro function count member
    rcases List.mem_cons.1 member with rfl | member
    · rw [Item.step] at step
      split at step
      · exact (Evaluation.gives_throw step).elim
      · obtain ⟨x, called, -⟩ := step.bind
        exact isFunction_of_callNamed called
    · exact ih later function count member

theorem exists_call_of_mem {tokens : List Token} {items : List Item} {name : String}
    (ordered : toPostfix (resolveSigns tokens) = .ok items) (member : .function name ∈ tokens) :
    ∃ count, .call name count ∈ items := by
  have kept : Token.function name ∈ words (resolveSigns tokens) :=
    List.mem_filter.2 ⟨(mem_resolveSignsFrom_iff (by simp) (by simp) false tokens).2 member, rfl⟩
  obtain ⟨item, called, same⟩ := List.mem_map.1 ((words_toPostfix ordered).mem_iff.2 kept)
  cases item <;> cases same
  exact ⟨_, called⟩

theorem Token.objection?_of_known {token : Token}
    (known : ∀ name, token = .function name → isFunction (lowercase name) = true) :
    token.objection? = if token = .reference "" then some .emptyReference else none := by
  cases token with
  | reference name =>
    by_cases unnamed : name = ""
    · rw [unnamed]
      rfl
    · simp [Token.objection?, unnamed]
  | function name => simp [Token.objection?, known name rfl]
  | _ => rfl

theorem findSome?_objection? {tokens : List Token}
    (known : ∀ name, .function name ∈ tokens → isFunction (lowercase name) = true) :
    tokens.findSome? Token.objection? =
      if .reference "" ∈ tokens then some .emptyReference else none := by
  induction tokens with
  | nil => rfl
  | cons token rest ih =>
    have first : token.objection? =
        if token = .reference "" then some .emptyReference else none :=
      Token.objection?_of_known fun name same => known name (same ▸ List.mem_cons_self)
    have later := ih fun name member => known name (List.mem_cons_of_mem _ member)
    rw [List.findSome?_cons, first, later]
    by_cases unnamed : token = .reference ""
    · simp [unnamed]
    · simp [unnamed, Ne.symm unnamed]

theorem objection?_of_evaluate {context : Context R} {formula : String} {value : R}
    (accepted : evaluate context formula = .ok value) :
    objection? formula = (if "" ∈ references formula then some .emptyReference else none) ∧
      ∃ tokens, tokenize (trimmed formula) = .ok tokens ∧ balanceObjection? 0 tokens = none ∧
        ∀ token ∈ tokens, token ≠ .reference "" → token.objection? = none := by
  obtain ⟨items, compiled, gives⟩ := gives_run_of_evaluate accepted
  obtain ⟨filled, tokens, read, some, ordered⟩ := compile_eq_ok_iff.1 compiled
  have balanced : balanceObjection? 0 tokens = none := by
    rw [← balance_resolveSignsFrom 0 false]
    exact balance_toPostfix ordered
  have known (name : String) (member : .function name ∈ tokens) :
      isFunction (lowercase name) = true := by
    obtain ⟨count, called⟩ := exists_call_of_mem ordered member
    exact isFunction_of_runFrom gives name count called
  refine ⟨?_, tokens, read, balanced, fun token member named => ?_⟩
  · obtain ⟨first, rest, rfl⟩ := List.exists_cons_of_ne_nil some
    simp only [objection?, filled, read, balanced, Option.none_or, Bool.false_eq_true, if_false,
      findSome?_objection? known, mem_references_iff_of_read read]
  · rw [Token.objection?_of_known fun name same => known name (same ▸ member), if_neg named]

theorem objection?_of_evaluate_unnamed :
    evaluate (tableContext ([] : List (String × ℚ)) none) "max({},1)" = .ok 1 ∧
      objection? "max({},1)" = some .emptyReference := by
  have read : tokenize (trimmed "max({},1)") = .ok [.function "max", .openParen, .reference "",
      .comma, .number "1", .closeParen] := by
    rw [tokenize, show (trimmed "max({},1)").toList = "max({},1)".toList by decide]
    repeat first
      | exact scan_nil
      | refine scan_cons rfl rfl ?_
  have ordered : toPostfix (resolveSigns [.function "max", .openParen, .reference "", .comma,
      .number "1", .closeParen]) = .ok [.reference "", .number "1", .call "max" 2] := rfl
  have accepted : evaluate (tableContext ([] : List (String × ℚ)) none) "max({},1)" = .ok 1 := by
    rw [evaluate_eq_run (by decide) read ordered]
    have name : lowercase "max" = "max" := by decide
    simp [run, runFrom, Item.step, read_one, callNamed, callSpecial?, name, Function.ofName?,
      callNumeric, Function.mostArguments?, Function.apply, extremeOf, extreme,
      Operand.toNumber, Context.resolve, tableContext, lookupFolded, Scalar.zero, Scalar.whole,
      Scalar.lt, Scalar.ofNumeral]
    rfl
  have unnamed : "" ∈ references "max({},1)" := (mem_references_iff_of_read read).2 (by simp)
  refine ⟨accepted, ?_⟩
  rw [(objection?_of_evaluate accepted).1, if_pos unnamed]

end Scorekeeper.Formula
