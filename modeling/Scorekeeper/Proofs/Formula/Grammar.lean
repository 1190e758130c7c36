import Scorekeeper.Proofs.Formula.Spelling

set_option autoImplicit false

/-!
# Sentences

The grammar of a formula, apart from what binds more tightly than what.  A token list is a sentence
if and only if it can be read from left to right by one who knows, of all that was read, whether an
operand has just ended and which of the open parentheses are those of calls.
-/

namespace Scorekeeper.Formula

mutual

inductive IsSentence : List Token → Prop
  | operand {tokens : List Token} (operand : IsOperand tokens) : IsSentence tokens
  | binary {op : Operator} {left right : List Token} (leftSentence : IsSentence left)
      (rightSentence : IsSentence right) : IsSentence (left ++ .operator op :: right)

inductive IsOperand : List Token → Prop
  | number (text : String) : IsOperand [.number text]
  | reference (name : String) : IsOperand [.reference name]
  | parentheses {tokens : List Token} (inner : IsSentence tokens) :
      IsOperand (.openParen :: (tokens ++ [.closeParen]))
  | call {tokens : List Token} (function : String) (arguments : IsArguments tokens) :
      IsOperand (.function function :: .openParen :: (tokens ++ [.closeParen]))

inductive IsArguments : List Token → Prop
  | none : IsArguments []
  | some {tokens : List Token} (series : IsSeries tokens) : IsArguments tokens

inductive IsSeries : List Token → Prop
  | last {tokens : List Token} (only : IsSentence tokens) : IsSeries tokens
  | more {tokens later : List Token} (first : IsSentence tokens) (others : IsSeries later) :
      IsSeries (tokens ++ .comma :: later)

end

/-- The tokens complete a sentence, after an operand of it or where one is still to come.  Of each
open parenthesis, the innermost first, `calls` tells whether it is that of a call. -/
inductive Completes : Bool → List Bool → List Token → Prop
  | finish : Completes true [] []
  | number {calls : List Bool} {rest : List Token} (text : String)
      (later : Completes true calls rest) : Completes false calls (.number text :: rest)
  | reference {calls : List Bool} {rest : List Token} (name : String)
      (later : Completes true calls rest) : Completes false calls (.reference name :: rest)
  | parentheses {calls : List Bool} {rest : List Token}
      (later : Completes false (false :: calls) rest) : Completes false calls (.openParen :: rest)
  | call {calls : List Bool} {rest : List Token} (function : String)
      (later : Completes false (true :: calls) rest) :
      Completes false calls (.function function :: .openParen :: rest)
  | emptyCall {calls : List Bool} {rest : List Token} (function : String)
      (later : Completes true calls rest) :
      Completes false calls (.function function :: .openParen :: .closeParen :: rest)
  | operator {calls : List Bool} {rest : List Token} (op : Operator)
      (later : Completes false calls rest) : Completes true calls (.operator op :: rest)
  | close {calls : List Bool} {rest : List Token} (isCall : Bool)
      (later : Completes true calls rest) : Completes true (isCall :: calls) (.closeParen :: rest)
  | comma {calls : List Bool} {rest : List Token} (later : Completes false (true :: calls) rest) :
      Completes true (true :: calls) (.comma :: rest)

mutual

theorem IsSentence.completes {tokens rest : List Token} {calls : List Bool}
    (sentence : IsSentence tokens) (later : Completes true calls rest) :
    Completes false calls (tokens ++ rest) := by
  match sentence with
  | .operand operand => exact operand.completes later
  | .binary left right =>
    rw [List.append_assoc, List.cons_append]
    exact left.completes (.operator _ (right.completes later))

theorem IsOperand.completes {tokens rest : List Token} {calls : List Bool}
    (operand : IsOperand tokens) (later : Completes true calls rest) :
    Completes false calls (tokens ++ rest) := by
  match operand with
  | .number text => exact .number text later
  | .reference name => exact .reference name later
  | .parentheses inner =>
    rw [List.cons_append, List.append_assoc]
    exact .parentheses (inner.completes (.close false later))
  | .call function .none => exact .emptyCall function later
  | .call function (.some series) =>
    rw [List.cons_append, List.cons_append, List.append_assoc]
    exact .call function (series.completes (.close true later))

theorem IsSeries.completes {tokens rest : List Token} {calls : List Bool}
    (series : IsSeries tokens) (later : Completes true (true :: calls) rest) :
    Completes false (true :: calls) (tokens ++ rest) := by
  match series with
  | .last only => exact only.completes later
  | .more first others =>
    rw [List.append_assoc, List.cons_append]
    exact first.completes (.comma (others.completes later))

end

inductive Continues : List Token → Prop
  | nothing : Continues []
  | operator {tokens : List Token} (op : Operator) (sentence : IsSentence tokens) :
      Continues (.operator op :: tokens)

theorem IsOperand.sentence {tokens more : List Token} (operand : IsOperand tokens)
    (continues : Continues more) : IsSentence (tokens ++ more) := by
  cases continues with
  | nothing => simpa using IsSentence.operand operand
  | operator op sentence => exact .binary (.operand operand) sentence

/-- What closes the open parentheses, from right after the sentence that stands in the innermost
one. -/
inductive Closes : List Bool → List Token → Prop
  | finish : Closes [] []
  | close {calls : List Bool} {more outer : List Token} (isCall : Bool)
      (continues : Continues more) (closes : Closes calls outer) :
      Closes (isCall :: calls) (.closeParen :: (more ++ outer))
  | comma {calls : List Bool} {argument outer : List Token} (sentence : IsSentence argument)
      (closes : Closes (true :: calls) outer) :
      Closes (true :: calls) (.comma :: (argument ++ outer))

theorem Closes.series {calls : List Bool} {argument back : List Token}
    (closes : Closes (true :: calls) back) (sentence : IsSentence argument) :
    ∃ series more outer, argument ++ back = series ++ .closeParen :: (more ++ outer) ∧
      IsSeries series ∧ Continues more ∧ Closes calls outer := by
  generalize same : true :: calls = opened at closes
  induction closes generalizing argument with
  | finish => cases same
  | close isCall continues closes =>
    cases same
    exact ⟨argument, _, _, rfl, .last sentence, continues, closes⟩
  | comma next closes ih =>
    cases same
    obtain ⟨series, more, outer, split, isSeries, continues, closes⟩ := ih next rfl
    refine ⟨argument ++ .comma :: series, more, outer, ?_, .more sentence isSeries, continues,
      closes⟩
    rw [split, List.append_assoc, List.cons_append]

def IsPart : Bool → List Token → Prop
  | true, tokens => Continues tokens
  | false, tokens => IsSentence tokens

theorem Completes.split {after : Bool} {calls : List Bool} {tokens : List Token}
    (completes : Completes after calls tokens) :
    ∃ front back, tokens = front ++ back ∧ IsPart after front ∧ Closes calls back := by
  induction completes with
  | finish => exact ⟨[], [], rfl, .nothing, .finish⟩
  | number text _ ih =>
    obtain ⟨front, back, rfl, continues, closes⟩ := ih
    exact ⟨.number text :: front, back, rfl, (IsOperand.number text).sentence continues, closes⟩
  | reference name _ ih =>
    obtain ⟨front, back, rfl, continues, closes⟩ := ih
    exact ⟨.reference name :: front, back, rfl, (IsOperand.reference name).sentence continues,
      closes⟩
  | parentheses _ ih =>
    obtain ⟨front, back, rfl, sentence, closes⟩ := ih
    cases closes with
    | @close _ more outer _ continues closes =>
      have whole := (IsOperand.parentheses sentence).sentence continues
      exact ⟨_, outer, by simp, whole, closes⟩
  | call function _ ih =>
    obtain ⟨front, back, rfl, sentence, closes⟩ := ih
    obtain ⟨series, more, outer, split, isSeries, continues, closes⟩ := closes.series sentence
    have whole := (IsOperand.call function (.some isSeries)).sentence continues
    exact ⟨_, outer, by simp [split], whole, closes⟩
  | emptyCall function _ ih =>
    obtain ⟨front, back, rfl, continues, closes⟩ := ih
    have whole := (IsOperand.call function .none).sentence continues
    exact ⟨_, back, rfl, whole, closes⟩
  | operator op _ ih =>
    obtain ⟨front, back, rfl, sentence, closes⟩ := ih
    exact ⟨.operator op :: front, back, rfl, .operator op sentence, closes⟩
  | close isCall _ ih =>
    obtain ⟨front, back, rfl, continues, closes⟩ := ih
    exact ⟨[], _, rfl, .nothing, .close isCall continues closes⟩
  | comma _ ih =>
    obtain ⟨front, back, rfl, sentence, closes⟩ := ih
    exact ⟨[], _, rfl, .nothing, .comma sentence closes⟩

theorem isSentence_iff_completes {tokens : List Token} :
    IsSentence tokens ↔ Completes false [] tokens := by
  constructor
  · intro sentence
    simpa using sentence.completes .finish
  · intro completes
    obtain ⟨front, back, rfl, sentence, closes⟩ := completes.split
    cases closes
    rw [List.append_nil]
    exact sentence

/-- Whether the second token may come right after the first as far as whole operands go: an operand
must not start where one has just ended, and the name of a function needs its parenthesis. -/
def Token.separates : Token → Token → Bool
  | .function _, next => next = .openParen
  | token, next => !(token.endsOperand && next.startsOperand)

def Separated (tokens : List Token) : Prop :=
  tokens.IsChain fun token next => token.separates next = true

theorem separated_cons {token next : Token} {rest : List Token} :
    Separated (token :: next :: rest) ↔
      token.separates next = true ∧ Separated (next :: rest) :=
  List.isChain_cons_cons

theorem Token.separates_eq {token : Token} (other : ∀ name, token ≠ .function name) (next : Token) :
    token.separates next = !(token.endsOperand && next.startsOperand) := by
  cases token with
  | function name => exact absurd rfl (other name)
  | _ => rfl

theorem Completes.separated {after : Bool} {calls : List Bool} {tokens : List Token}
    (completes : Completes after calls tokens) {last : Token} (ends : last.endsOperand = after)
    (other : ∀ name, last ≠ .function name) : Separated (last :: tokens) := by
  induction completes generalizing last with
  | finish => exact .singleton last
  | call _ _ ih =>
    have inner := @ih .openParen rfl (by simp)
    exact separated_cons.2 ⟨by simp [Token.separates_eq other, ends], separated_cons.2 ⟨rfl, inner⟩⟩
  | emptyCall _ _ ih =>
    have outer := @ih .closeParen rfl (by simp)
    exact separated_cons.2 ⟨by simp [Token.separates_eq other, ends],
      separated_cons.2 ⟨rfl, separated_cons.2 ⟨rfl, outer⟩⟩⟩
  | _ =>
    rename_i ih
    refine separated_cons.2 ⟨?_, ih rfl (by simp)⟩
    simp [Token.separates_eq other, ends, Token.startsOperand]

theorem IsSentence.separated {tokens : List Token} (sentence : IsSentence tokens) :
    Separated tokens := by
  have completes := isSentence_iff_completes.1 sentence
  have whole : Separated (.comma :: tokens) := completes.separated rfl (by simp)
  exact whole.tail

end Scorekeeper.Formula
