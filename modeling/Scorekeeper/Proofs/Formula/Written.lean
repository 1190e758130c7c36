import Scorekeeper.Proofs.Formula.Expression
import Scorekeeper.Proofs.Formula.Spelling

set_option autoImplicit false

/-!
# Written expressions

An expression is written as tokens with parentheses wherever its operators would otherwise bind in
another way, and wherever else one likes.  The level is the least precedence that an operator
outside all parentheses may have.
-/

namespace Scorekeeper.Formula

mutual

inductive Written : Nat → Expression → List Token → Prop
  | number {level : Nat} {text : String} (lexical : (Token.number text).isLexical = true) :
      Written level (.number text) [.number text]
  | reference {level : Nat} {name : String} (lexical : (Token.reference name).isLexical = true) :
      Written level (.reference name) [.reference name]
  /-- All operators associate to the left, so the right operand must bind more tightly. -/
  | binary {level : Nat} {op : Operator} {left right : Expression}
      {leftTokens rightTokens : List Token} (binds : level ≤ op.precedence)
      (leftWritten : Written op.precedence left leftTokens)
      (rightWritten : Written (op.precedence + 1) right rightTokens) :
      Written level (.binary op left right) (leftTokens ++ .operator op :: rightTokens)
  | group {level : Nat} {inner : Expression} {tokens : List Token}
      (written : Written 0 inner tokens) :
      Written level (.group inner) (.openParen :: (tokens ++ [.closeParen]))
  | parentheses {level : Nat} {expression : Expression} {tokens : List Token}
      (written : Written 0 expression tokens) :
      Written level expression (.openParen :: (tokens ++ [.closeParen]))
  | call {level : Nat} {function : String} {arguments : List Expression} {tokens : List Token}
      (lexical : (Token.function function).isLexical = true)
      (written : WrittenArguments arguments tokens) :
      Written level (.call function arguments)
        (.function function :: .openParen :: (tokens ++ [.closeParen]))

inductive WrittenArguments : List Expression → List Token → Prop
  | none : WrittenArguments [] []
  | last {expression : Expression} {tokens : List Token} (written : Written 0 expression tokens) :
      WrittenArguments [expression] tokens
  | more {first second : Expression} {rest : List Expression} {tokens later : List Token}
      (written : Written 0 first tokens) (others : WrittenArguments (second :: rest) later) :
      WrittenArguments (first :: second :: rest) (tokens ++ .comma :: later)

end

theorem lexical_of_parentheses {tokens : List Token}
    (lexical : ∀ token ∈ tokens, token.isLexical = true) :
    ∀ token ∈ Token.openParen :: (tokens ++ [.closeParen]), token.isLexical = true := by
  simp only [List.mem_cons, List.mem_append, List.not_mem_nil, or_false]
  rintro token (rfl | member | rfl)
  · trivial
  · exact lexical token member
  · trivial

mutual

theorem Written.lexical {level : Nat} {expression : Expression} {tokens : List Token}
    (written : Written level expression tokens) : ∀ token ∈ tokens, token.isLexical = true := by
  match written with
  | .number lexical => simpa using lexical
  | .reference lexical => simpa using lexical
  | .binary _ left right =>
    have before := left.lexical
    have after := right.lexical
    simp only [List.mem_append, List.mem_cons]
    rintro token (member | rfl | member)
    · exact before token member
    · trivial
    · exact after token member
  | .group inner => exact lexical_of_parentheses inner.lexical
  | .parentheses inner => exact lexical_of_parentheses inner.lexical
  | .call lexical arguments =>
    have inside := lexical_of_parentheses arguments.lexical
    simp only [List.mem_cons]
    rintro token (rfl | member)
    · exact lexical
    · exact inside token (by simpa using member)

theorem WrittenArguments.lexical {expressions : List Expression} {tokens : List Token}
    (written : WrittenArguments expressions tokens) : ∀ token ∈ tokens, token.isLexical = true := by
  match written with
  | .none => simp
  | .last only => exact only.lexical
  | .more first others =>
    have before := first.lexical
    have after := others.lexical
    simp only [List.mem_append, List.mem_cons]
    rintro token (member | rfl | member)
    · exact before token member
    · trivial
    · exact after token member

end

/-!
What precedes an expression must admit the start of an operand, and what follows it the end of one.
Stated for the tokens around an expression, this needs no case on its first and last tokens.
-/

def Token.AdmitsOperand (token : Token) : Prop :=
  ∀ next : Token, next.startsOperand = true → token.admits next = true

def AdmitAfterOperand (rest : List Token) : Prop :=
  ∀ last : Token, last.endsOperand = true → Admitted (last :: rest)

theorem admitAfterOperand_cons {token : Token} {rest : List Token}
    (follows : token.followsOperand = true) (admitted : Admitted (token :: rest)) :
    AdmitAfterOperand (token :: rest) := by
  intro last ends
  refine admitted_cons.2 ⟨?_, admitted⟩
  cases last <;> simp_all [Token.admits, Token.endsOperand]

theorem admitAfterOperand_close {rest : List Token} (after : AdmitAfterOperand rest) :
    AdmitAfterOperand (.closeParen :: rest) :=
  admitAfterOperand_cons rfl (after .closeParen rfl)

theorem admits_open {token : Token} (before : token.AdmitsOperand) :
    token.admits .openParen = true :=
  before .openParen rfl

theorem admitsOperand_open : Token.openParen.AdmitsOperand := by
  intro next starts
  simp [Token.admits, starts]

theorem admitsOperand_operator (op : Operator) : (Token.operator op).AdmitsOperand :=
  fun _ starts => starts

theorem admitsOperand_comma : Token.comma.AdmitsOperand :=
  fun _ starts => starts

mutual

theorem Written.admitted {level : Nat} {expression : Expression} {tokens : List Token}
    (written : Written level expression tokens) {token : Token} {rest : List Token}
    (before : token.AdmitsOperand) (after : AdmitAfterOperand rest) :
    Admitted (token :: (tokens ++ rest)) := by
  match written with
  | .number _ => exact admitted_cons.2 ⟨before _ rfl, after _ rfl⟩
  | .reference _ => exact admitted_cons.2 ⟨before _ rfl, after _ rfl⟩
  | .binary _ left right =>
    rw [List.append_assoc, List.cons_append]
    exact left.admitted before
      (admitAfterOperand_cons rfl (right.admitted (admitsOperand_operator _) after))
  | .group inner =>
    rw [List.cons_append, List.append_assoc]
    exact admitted_cons.2 ⟨admits_open before,
      inner.admitted admitsOperand_open (admitAfterOperand_close after)⟩
  | .parentheses inner =>
    rw [List.cons_append, List.append_assoc]
    exact admitted_cons.2 ⟨admits_open before,
      inner.admitted admitsOperand_open (admitAfterOperand_close after)⟩
  | .call _ arguments =>
    rw [List.cons_append, List.cons_append, List.append_assoc]
    exact admitted_cons.2 ⟨before _ rfl,
      admitted_cons.2 ⟨rfl,
        arguments.admitted admitsOperand_open (fun _ => rfl) (after .closeParen rfl)⟩⟩

theorem WrittenArguments.admitted {expressions : List Expression} {tokens : List Token}
    (written : WrittenArguments expressions tokens) {token : Token} {rest : List Token}
    (before : token.AdmitsOperand) (closes : expressions = [] → token.admits .closeParen = true)
    (after : Admitted (.closeParen :: rest)) :
    Admitted (token :: (tokens ++ .closeParen :: rest)) := by
  match written with
  | .none => exact admitted_cons.2 ⟨closes rfl, after⟩
  | .last only => exact only.admitted before (admitAfterOperand_cons rfl after)
  | .more first others =>
    rw [List.append_assoc, List.cons_append]
    exact first.admitted before
      (admitAfterOperand_cons rfl (others.admitted admitsOperand_comma (by simp) after))

end

namespace Expression

def IsLexical : Expression → Prop
  | .number text => (Token.number text).isLexical = true
  | .reference name => (Token.reference name).isLexical = true
  | .binary _ left right => left.IsLexical ∧ right.IsLexical
  | .group inner => inner.IsLexical
  | .call function arguments =>
    (Token.function function).isLexical = true ∧ ∀ argument ∈ arguments, argument.IsLexical

mutual

theorem exists_written {level : Nat} {expression : Expression} (lexical : expression.IsLexical) :
    ∃ tokens, Written level expression tokens := by
  match expression with
  | .number text => exact ⟨_, .number (by simpa [IsLexical] using lexical)⟩
  | .reference name => exact ⟨_, .reference (by simpa [IsLexical] using lexical)⟩
  | .binary op left right =>
    rw [IsLexical] at lexical
    obtain ⟨leftTokens, leftWritten⟩ := exists_written lexical.1
    obtain ⟨rightTokens, rightWritten⟩ := exists_written lexical.2
    exact ⟨_, .parentheses (.binary (Nat.zero_le _) leftWritten rightWritten)⟩
  | .group inner =>
    rw [IsLexical] at lexical
    obtain ⟨tokens, written⟩ := exists_written lexical
    exact ⟨_, .group written⟩
  | .call function arguments =>
    rw [IsLexical] at lexical
    obtain ⟨tokens, written⟩ := exists_writtenArguments lexical.2
    exact ⟨_, .call lexical.1 written⟩

theorem exists_writtenArguments {expressions : List Expression}
    (lexical : ∀ expression ∈ expressions, expression.IsLexical) :
    ∃ tokens, WrittenArguments expressions tokens := by
  match expressions with
  | [] => exact ⟨[], .none⟩
  | [only] =>
    obtain ⟨tokens, written⟩ := exists_written (lexical only (by simp))
    exact ⟨tokens, .last written⟩
  | first :: second :: rest =>
    obtain ⟨tokens, written⟩ := exists_written (lexical first (by simp))
    obtain ⟨later, others⟩ := exists_writtenArguments
      (fun expression member => lexical expression (List.mem_cons_of_mem first member))
    exact ⟨_, .more written others⟩

end

theorem exists_formula {expression : Expression} (lexical : expression.IsLexical) :
    ∃ tokens formula, Written 0 expression tokens ∧ Spelled tokens (String.toList formula) := by
  obtain ⟨tokens, written⟩ := exists_written lexical
  refine ⟨tokens, String.ofList (tokens.flatMap Token.spelling), written, ?_⟩
  rw [String.toList_ofList]
  exact spelled_flatMap tokens

end Expression

end Scorekeeper.Formula
