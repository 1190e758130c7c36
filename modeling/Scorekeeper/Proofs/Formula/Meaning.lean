import Scorekeeper.Proofs.Formula.PostfixOrder
import Scorekeeper.Scalar.Double

set_option autoImplicit false

namespace Scorekeeper.Formula

open Scorekeeper.Text

theorem admitted_written {level : Nat} {expression : Expression} {tokens : List Token}
    (written : Written level expression tokens) : Admitted (.openParen :: tokens) := by
  have ends : AdmitAfterOperand [] := fun last _ => .singleton last
  have admitted := written.admitted admitsOperand_open ends
  rwa [List.append_nil] at admitted

theorem exists_cons_of_written {level : Nat} {expression : Expression} {tokens : List Token}
    (written : Written level expression tokens) : ∃ token rest, tokens = token :: rest := by
  cases written with
  | binary _ left _ =>
    obtain ⟨token, rest, rfl⟩ := exists_cons_of_written left
    exact ⟨_, _, rfl⟩
  | _ => exact ⟨_, _, rfl⟩

-- A sign stands where an operand is still to come, and a written expression has none there.
theorem resolveSigns_written {level : Nat} {expression : Expression} {tokens : List Token}
    (written : Written level expression tokens) : resolveSigns tokens = tokens :=
  resolveSigns_eq_self_iff.2 ((admitted_written written).signsFollowOperands rfl)

theorem tokenize_written {level : Nat} {expression : Expression} {tokens : List Token}
    {formula : String} (written : Written level expression tokens)
    (spelled : Spelled tokens formula.toList) : tokenize (trimmed formula) = .ok tokens := by
  rw [tokenize, trimmed, String.toList_ofList]
  exact scan_spelled (admitted_written written) written.lexical (trim_spelled written.lexical spelled)

theorem isEmpty_trim_written {level : Nat} {expression : Expression} {tokens : List Token}
    {formula : String} (written : Written level expression tokens)
    (spelled : Spelled tokens formula.toList) : (trim formula.toList).isEmpty = false := by
  obtain ⟨token, rest, rfl⟩ := exists_cons_of_written written
  have inner := trim_spelled written.lexical spelled
  simpa using ne_nil_of_spelled (written.lexical token (by simp)) inner

variable {R : Type} [Scalar R]

theorem evaluation_written {level : Nat} {expression : Expression} {tokens : List Token}
    {formula : String} (context : Context R) (written : Written level expression tokens)
    (spelled : Spelled tokens formula.toList) :
    evaluation context formula = expression.value context := by
  have filled := isEmpty_trim_written written spelled
  have read := tokenize_written written spelled
  obtain ⟨token, rest, rfl⟩ := exists_cons_of_written written
  rw [evaluation, filled, read, ← Expression.run_postfixOrder]
  simp only [ofMalformed, pure_bind, resolveSigns_written written, toPostfix_written written]
  rfl

theorem trace_written {level : Nat} {expression : Expression} {tokens : List Token}
    {formula : String} (context : Context R) (written : Written level expression tokens)
    (spelled : Spelled tokens formula.toList) :
    trace context formula = (expression.value context).run [] := by
  rw [trace, evaluation_written context written spelled]

def nestedFormula : String := " 2^3 ^{a b}* max (1.5,(round( ))) - (({x}) )"

def nestedExpression : Expression :=
  .binary .minus
    (.binary .times
      (.binary .power (.binary .power (.number "2") (.number "3")) (.reference "a b"))
      (.call "max" [.number "1.5", .group (.call "round" [])]))
    (.reference "x")

def nestedTokens : List Token :=
  [.number "2", .operator .power, .number "3", .operator .power, .reference "a b", .operator .times,
    .function "max", .openParen, .number "1.5", .comma, .openParen, .function "round", .openParen,
    .closeParen, .closeParen, .closeParen, .operator .minus, .openParen, .openParen, .reference "x",
    .closeParen, .closeParen]

theorem trace_written_nested :
    Written 0 nestedExpression nestedTokens ∧ Spelled nestedTokens nestedFormula.toList ∧
      trace (tableContext [("x", (1 : Float))] (some 3)) nestedFormula =
        (nestedExpression.value (tableContext [("x", (1 : Float))] (some 3))).run [] := by
  have written : Written 0 nestedExpression nestedTokens :=
    .binary (by decide)
      (.binary (by decide)
        (.binary (by decide) (.binary (by decide) (.number (by decide)) (.number (by decide)))
          (.reference (by decide)))
        (.call (by decide)
          (.more (.number (by decide)) (.last (.group (.call (by decide) .none))))))
      -- Parentheses that nothing calls for are welcome too.
      (.parentheses (.parentheses (.reference (by decide))))
  have spelled : Spelled nestedTokens nestedFormula.toList := by
    repeat first
      | exact .nil
      | refine .token ?_
      | refine .blank rfl ?_
  exact ⟨written, spelled, trace_written _ written spelled⟩

end Scorekeeper.Formula
