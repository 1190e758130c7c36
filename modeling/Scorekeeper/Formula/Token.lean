import Scorekeeper.Text.Blank

set_option autoImplicit false

/-!
# Tokens of a formula

Numbers are rows of digits and points, references stand in braces, and a function name is an ASCII
letter followed by letters, digits and underscores.  Each token takes as many characters as it can;
a reference whose brace is not closed runs to the end of the text.
-/

namespace Scorekeeper.Formula

open Scorekeeper.Text

inductive Operator
  | plus
  | minus
  | times
  | divide
  | power
deriving Repr, DecidableEq

def Operator.symbol : Operator → Char
  | .plus => '+'
  | .minus => '-'
  | .times => '*'
  | .divide => '/'
  | .power => '^'

def Operator.ofChar? : Char → Option Operator
  | '+' => some .plus
  | '-' => some .minus
  | '*' => some .times
  | '/' => some .divide
  | '^' => some .power
  | _ => none

theorem Operator.ofChar?_eq_some_iff (c : Char) (op : Operator) :
    Operator.ofChar? c = some op ↔ c = op.symbol := by
  constructor
  · unfold Operator.ofChar?
    split <;> rintro ⟨⟩ <;> rfl
  · rintro rfl
    cases op <;> rfl

def Operator.precedence : Operator → Nat
  | .plus | .minus => 1
  | .times | .divide => 2
  | .power => 3

inductive Token
  | number (text : String)
  | reference (name : String)
  | operator (op : Operator)
  | function (name : String)
  | openParen
  | closeParen
  | comma
deriving Repr, DecidableEq

def Token.text : Token → String
  | .number text => text
  | .reference name => name
  | .operator op => String.singleton op.symbol
  | .function name => name
  | .openParen => "("
  | .closeParen => ")"
  | .comma => ","

def isNumberChar (c : Char) : Bool :=
  c.isDigit || c = '.'

def isNameChar (c : Char) : Bool :=
  c.isAlphanum || c = '_'

inductive Malformed
  | empty
  | noTokens
  | unexpected (c : Char)
  | functionWithoutParen (name : String)
  | unmatchedClosing
  | unmatchedOpening
  | missingArgument
  | strayComma
  | invalidNumber (text : String)
  | unknownFunction (name : String)
  /-- The operators and the open parentheses have lost step; no token list leads here. -/
  | lostStep
deriving Repr, DecidableEq

def Malformed.message : Malformed → String
  | .empty => "Empty formula"
  | .noTokens => "No tokens found"
  | .unexpected c => "Unexpected character: " ++ String.singleton c
  | .functionWithoutParen name => "Expected '(' after function " ++ name
  | .unmatchedClosing => "Unmatched closing parenthesis"
  | .unmatchedOpening => "Unmatched opening parenthesis"
  | .missingArgument => "Missing function argument"
  | .strayComma => "Unexpected comma outside function call"
  | .invalidNumber text => "Invalid number: " ++ text
  | .unknownFunction name => "Unknown function: " ++ name
  | .lostStep => "pop from empty list"

theorem length_dropWhile_le (p : Char → Bool) (text : List Char) :
    (text.dropWhile p).length ≤ text.length :=
  (List.dropWhile_sublist p).length_le

def firstToken (c : Char) (rest : List Char) : Except Malformed (Token × List Char) :=
  if isNumberChar c then
    .ok (.number (String.ofList (c :: rest.takeWhile isNumberChar)), rest.dropWhile isNumberChar)
  else if c = '{' then
    .ok (.reference (String.ofList (rest.takeWhile (· ≠ '}'))), (rest.dropWhile (· ≠ '}')).drop 1)
  else if c = '(' then .ok (.openParen, rest)
  else if c = ')' then .ok (.closeParen, rest)
  else if c = ',' then .ok (.comma, rest)
  else if c.isAlpha then
    .ok (.function (String.ofList (c :: rest.takeWhile isNameChar)), rest.dropWhile isNameChar)
  else
    match Operator.ofChar? c with
    | some op => .ok (.operator op, rest)
    | none => .error (.unexpected c)

theorem length_of_firstToken {c : Char} {rest after : List Char} {token : Token}
    (first : firstToken c rest = .ok (token, after)) : after.length ≤ rest.length := by
  unfold firstToken at first
  have digits := length_dropWhile_le isNumberChar rest
  have names := length_dropWhile_le isNameChar rest
  have braces := length_dropWhile_le (fun c : Char => decide (c ≠ '}')) rest
  split at first
  · cases first; exact digits
  split at first
  · cases first; simp only [List.length_drop]; omega
  split at first
  · cases first; exact Nat.le_refl _
  split at first
  · cases first; exact Nat.le_refl _
  split at first
  · cases first; exact Nat.le_refl _
  split at first
  · cases first; exact names
  split at first
  · cases first; exact Nat.le_refl _
  · cases first

def scan : List Char → Except Malformed (List Token)
  | [] => .ok []
  | c :: rest =>
    if isBlank c then scan rest
    else
      match _first : firstToken c rest with
      | .error cause => .error cause
      | .ok (token, after) => do
        let tokens ← scan after
        return token :: tokens
termination_by text => text.length
decreasing_by
  · simp
  · have := length_of_firstToken _first
    simp only [List.length_cons]
    omega

def tokenize (formula : String) : Except Malformed (List Token) :=
  scan formula.toList

end Scorekeeper.Formula
