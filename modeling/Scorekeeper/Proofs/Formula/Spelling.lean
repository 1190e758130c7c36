import Mathlib.Data.List.Chain
import Scorekeeper.Proofs.Formula.Sign

set_option autoImplicit false

namespace Scorekeeper.Formula

open Scorekeeper.Text

def Token.spelling : Token → List Char
  | .reference name => '{' :: (name.toList ++ ['}'])
  | token => token.text.toList

def Token.isLexical : Token → Bool
  | .number text => text ≠ "" && text.toList.all isNumberChar
  | .reference name => '}' ∉ name.toList
  | .function name =>
    match name.toList with
    | c :: rest => c.isAlpha && rest.all isNameChar
    | [] => false
  | _ => true

theorem Token.isLexical_number {text : String} : (Token.number text).isLexical = true ↔
    text ≠ "" ∧ ∀ c ∈ text.toList, isNumberChar c = true := by
  simp [Token.isLexical]

theorem Token.isLexical_reference {name : String} :
    (Token.reference name).isLexical = true ↔ '}' ∉ name.toList := by
  simp [Token.isLexical]

theorem Token.isLexical_function {name : String} : (Token.function name).isLexical = true ↔
    ∃ c rest, name.toList = c :: rest ∧ c.isAlpha = true ∧ ∀ d ∈ rest, isNameChar d = true := by
  cases same : name.toList <;> simp [Token.isLexical, same]

inductive Spelled : List Token → List Char → Prop
  | nil : Spelled [] []
  | blank {tokens : List Token} {text : List Char} {c : Char} (blank : isBlank c = true)
      (spelled : Spelled tokens text) : Spelled tokens (c :: text)
  | token {token : Token} {tokens : List Token} {text : List Char}
      (spelled : Spelled tokens text) : Spelled (token :: tokens) (token.spelling ++ text)

theorem spelled_flatMap (tokens : List Token) : Spelled tokens (tokens.flatMap Token.spelling) := by
  induction tokens with
  | nil => exact .nil
  | cons token rest ih => exact .token ih

def Token.startsOperand : Token → Bool
  | .number _ | .reference _ | .function _ | .openParen => true
  | _ => false

def Token.followsOperand : Token → Bool
  | .operator _ | .closeParen | .comma => true
  | _ => false

def Token.admits : Token → Token → Bool
  | .number _, next | .reference _, next | .closeParen, next => next.followsOperand
  | .function _, next => next = .openParen
  | .operator _, next | .comma, next => next.startsOperand
  | .openParen, next => next.startsOperand || next = .closeParen

def Admitted (tokens : List Token) : Prop :=
  tokens.IsChain fun token next => token.admits next = true

theorem admitted_cons {token next : Token} {rest : List Token} :
    Admitted (token :: next :: rest) ↔ token.admits next = true ∧ Admitted (next :: rest) :=
  List.isChain_cons_cons

theorem Token.endsOperand_of_admits_sign {token next : Token} (admits : token.admits next = true)
    (sign : next.isSign = true) : token.endsOperand = true := by
  cases next with
  | operator op => cases token <;> simp_all [Token.admits, Token.startsOperand, Token.endsOperand]
  | _ => simp [Token.isSign] at sign

theorem Admitted.signsFollowOperands {token : Token} {tokens : List Token}
    (admitted : Admitted (token :: tokens)) (outside : token.endsOperand = false) :
    SignsFollowOperands tokens := by
  rintro before sign after rfl kind
  have follows : ∀ last ∈ (token :: before).getLast?, last.endsOperand = true := by
    intro last found
    have split : Admitted (token :: before ++ sign :: after) := admitted
    exact Token.endsOperand_of_admits_sign ((List.isChain_append.1 split).2.2 last found sign rfl)
      (Token.isSign_iff.2 kind)
  cases before using List.reverseRecOn with
  | nil => cases outside.symm.trans (follows token rfl)
  | append_singleton front last =>
    rw [← List.cons_append, List.getLast?_concat] at follows
    exact afterOperand_concat.2 (follows last rfl)

theorem mem_resolveSignsFrom_iff {token : Token} (number : ∀ text, token ≠ .number text)
    (operator : ∀ op, token ≠ .operator op) (afterOperand : Bool) (tokens : List Token) :
    token ∈ resolveSignsFrom afterOperand tokens ↔ token ∈ tokens := by
  induction tokens generalizing afterOperand with
  | nil => exact Iff.rfl
  | cons first rest ih =>
    rw [resolveSignsFrom, List.mem_append, ih, List.mem_cons]
    refine or_congr_left ?_
    cases sign : first.isSign && !afterOperand with
    | false => simp
    | true =>
      -- Neither a sign nor what it is replaced by is the token.
      obtain ⟨op, rfl⟩ : ∃ op, first = .operator op := by
        cases first with
        | operator op => exact ⟨op, rfl⟩
        | _ => cases sign
      cases op <;> simp [Token.signTokens, number, operator]

/-- The characters that would lengthen a token if they came right after it. -/
def Token.extendedBy : Token → Char → Bool
  | .number _, c => isNumberChar c
  | .function _, c => isNameChar c
  | _, _ => false

def Token.Stops (token : Token) (text : List Char) : Prop :=
  ∀ c rest, text = c :: rest → token.extendedBy c = false

theorem isBlank_of_printed {c : Char} (low : 0x20 < c.toNat) (high : c.toNat < 0x7F) :
    isBlank c = false := by
  simp only [isBlank, Bool.or_eq_false_iff, Bool.and_eq_false_iff, decide_eq_false_iff_not,
    beq_eq_false_iff_ne]
  omega

theorem toNat_of_isAlpha {c : Char} (letter : c.isAlpha = true) :
    (65 ≤ c.toNat ∧ c.toNat ≤ 90) ∨ (97 ≤ c.toNat ∧ c.toNat ≤ 122) := by
  have either : (decide (c.val ≥ 'A'.val ∧ c.val ≤ 'Z'.val) ||
      decide (c.val ≥ 'a'.val) && decide (c.val ≤ 'z'.val)) = true := letter
  simp only [Bool.or_eq_true, Bool.and_eq_true, decide_eq_true_eq, UInt32.le_iff_toNat_le,
    ge_iff_le] at either
  exact either

theorem toNat_of_isDigit {c : Char} (digit : c.isDigit = true) : 48 ≤ c.toNat ∧ c.toNat ≤ 57 := by
  simp only [Char.isDigit, Bool.and_eq_true, decide_eq_true_eq, UInt32.le_iff_toNat_le,
    ge_iff_le] at digit
  exact digit

theorem toNat_of_isNumberChar {c : Char} (number : isNumberChar c = true) :
    (48 ≤ c.toNat ∧ c.toNat ≤ 57) ∨ c.toNat = 46 := by
  simp only [isNumberChar, Bool.or_eq_true, decide_eq_true_eq] at number
  rcases number with digit | rfl
  · exact .inl (toNat_of_isDigit digit)
  · exact .inr rfl

theorem isBlank_of_isNumberChar {c : Char} (number : isNumberChar c = true) :
    isBlank c = false := by
  have code := toNat_of_isNumberChar number
  exact isBlank_of_printed (by omega) (by omega)

theorem isBlank_of_isAlpha {c : Char} (letter : c.isAlpha = true) : isBlank c = false := by
  have code := toNat_of_isAlpha letter
  exact isBlank_of_printed (by omega) (by omega)

theorem isBlank_of_isNameChar {c : Char} (name : isNameChar c = true) : isBlank c = false := by
  simp only [isNameChar, Char.isAlphanum, Bool.or_eq_true, decide_eq_true_eq] at name
  rcases name with (letter | digit) | rfl
  · exact isBlank_of_isAlpha letter
  · exact isBlank_of_isNumberChar (by simp [isNumberChar, digit])
  · rfl

theorem isNumberChar_of_isAlpha {c : Char} (letter : c.isAlpha = true) :
    isNumberChar c = false := by
  rw [Bool.eq_false_iff]
  intro number
  have := toNat_of_isAlpha letter
  have := toNat_of_isNumberChar number
  omega

theorem takeWhile_append_of_stop {p : Char → Bool} {word rest : List Char}
    (inside : ∀ c ∈ word, p c = true) (stop : ∀ c after, rest = c :: after → p c = false) :
    (word ++ rest).takeWhile p = word ∧ (word ++ rest).dropWhile p = rest := by
  rw [List.takeWhile_append_of_pos inside, List.dropWhile_append_of_pos inside]
  cases rest with
  | nil => simp
  | cons c after => simp [stop c after rfl]

theorem firstToken_number {text : String} {rest : List Char}
    (lexical : (Token.number text).isLexical = true) (stops : (Token.number text).Stops rest) :
    ∃ c after, text.toList = c :: after ∧ isNumberChar c = true ∧
      firstToken c (after ++ rest) = .ok (.number text, rest) := by
  obtain ⟨nonempty, digits⟩ := Token.isLexical_number.1 lexical
  cases spelled : text.toList with
  | nil => exact absurd (String.toList_eq_nil_iff.1 spelled) nonempty
  | cons c after =>
    rw [spelled] at digits
    have split := takeWhile_append_of_stop
      (fun d member => digits d (List.mem_cons_of_mem c member)) stops
    refine ⟨c, after, rfl, digits c (by simp), ?_⟩
    rw [firstToken, if_pos (digits c (by simp)), split.1, split.2, ← spelled,
      String.ofList_toList]

theorem firstToken_function {name : String} {rest : List Char}
    (lexical : (Token.function name).isLexical = true) (stops : (Token.function name).Stops rest) :
    ∃ c after, name.toList = c :: after ∧ c.isAlpha = true ∧
      firstToken c (after ++ rest) = .ok (.function name, rest) := by
  obtain ⟨c, after, spelled, letter, word⟩ := Token.isLexical_function.1 lexical
  have split := takeWhile_append_of_stop word stops
  have code := toNat_of_isAlpha letter
  have other (d : Char) (outside : ¬ d.isAlpha) : c ≠ d := by
    rintro rfl
    exact outside letter
  refine ⟨c, after, spelled, letter, ?_⟩
  rw [firstToken, if_neg (by simp [isNumberChar_of_isAlpha letter]), if_neg (other _ (by decide)),
    if_neg (other _ (by decide)), if_neg (other _ (by decide)), if_neg (other _ (by decide)),
    if_pos letter, split.1, split.2, ← spelled, String.ofList_toList]

theorem firstToken_reference {name : String} (rest : List Char)
    (lexical : (Token.reference name).isLexical = true) :
    firstToken '{' (name.toList ++ '}' :: rest) = .ok (.reference name, rest) := by
  have inside : ∀ c ∈ name.toList, decide (c ≠ '}') = true := by
    intro c member
    rw [decide_eq_true_iff]
    rintro rfl
    exact Token.isLexical_reference.1 lexical member
  have stop : ∀ c after, '}' :: rest = c :: after → decide (c ≠ '}') = false := by
    rintro c after ⟨⟩
    rfl
  have split := takeWhile_append_of_stop inside stop
  rw [firstToken, if_neg (by decide), if_pos rfl, split.1, split.2, String.ofList_toList]
  rfl

theorem firstToken_spelling {token : Token} {rest : List Char} (lexical : token.isLexical = true)
    (stops : token.Stops rest) :
    ∃ c after, token.spelling = c :: after ∧ isBlank c = false ∧
      firstToken c (after ++ rest) = .ok (token, rest) := by
  cases token with
  | number text =>
    obtain ⟨c, after, spelled, number, first⟩ := firstToken_number lexical stops
    exact ⟨c, after, spelled, isBlank_of_isNumberChar number, first⟩
  | function name =>
    obtain ⟨c, after, spelled, letter, first⟩ := firstToken_function lexical stops
    exact ⟨c, after, spelled, isBlank_of_isAlpha letter, first⟩
  | reference name =>
    refine ⟨'{', name.toList ++ ['}'], rfl, rfl, ?_⟩
    rw [List.append_assoc]
    exact firstToken_reference rest lexical
  | operator op =>
    refine ⟨op.symbol, [], by simp [Token.spelling, Token.text], by cases op <;> rfl, ?_⟩
    cases op <;> rfl
  | openParen => exact ⟨'(', [], rfl, rfl, rfl⟩
  | closeParen => exact ⟨')', [], rfl, rfl, rfl⟩
  | comma => exact ⟨',', [], rfl, rfl, rfl⟩

theorem Token.spelling_eq_cons {token : Token} (lexical : token.isLexical = true) :
    ∃ c after, token.spelling = c :: after ∧ isBlank c = false := by
  have stops : token.Stops [] := by rintro c rest ⟨⟩
  obtain ⟨c, after, first, visible, -⟩ := firstToken_spelling lexical stops
  exact ⟨c, after, first, visible⟩

-- The general equation of `scan` is much faster to derive than the one for each of its cases.
theorem scan_blank {c : Char} (blank : isBlank c = true) (rest : List Char) :
    scan (c :: rest) = scan rest := by
  rw [scan.eq_def]
  simp only [blank, if_true]

theorem scan_token {c : Char} {rest after : List Char} {token : Token}
    (visible : isBlank c = false) (first : firstToken c rest = .ok (token, after)) :
    scan (c :: rest) = (token :: ·) <$> scan after := by
  rw [scan.eq_def]
  simp only [visible, Bool.false_eq_true, if_false]
  split
  · rename_i cause failed
    rw [first] at failed
    cases failed
  · rename_i found left same
    rw [first] at same
    cases same
    cases scan after <;> rfl

theorem scan_unread {c : Char} {rest : List Char} {cause : Malformed} (visible : isBlank c = false)
    (first : firstToken c rest = .error cause) : scan (c :: rest) = .error cause := by
  rw [scan.eq_def]
  simp only [visible, Bool.false_eq_true, if_false]
  split
  · rename_i other failed
    rw [first] at failed
    cases failed
    rfl
  · rename_i found left read
    rw [first] at read
    cases read

theorem scan_nil : scan [] = .ok [] := by
  rw [scan.eq_def]

theorem scan_skip {c : Char} {rest : List Char} {tokens : List Token} (blank : isBlank c = true)
    (later : scan rest = .ok tokens) : scan (c :: rest) = .ok tokens := by
  rw [scan_blank blank, later]

theorem scan_cons {c : Char} {rest after : List Char} {token : Token} {tokens : List Token}
    (visible : isBlank c = false) (first : firstToken c rest = .ok (token, after))
    (later : scan after = .ok tokens) : scan (c :: rest) = .ok (token :: tokens) := by
  rw [scan_token visible first, later]
  rfl

theorem Token.extendedBy_of_isBlank {token : Token} {c : Char} (blank : isBlank c = true) :
    token.extendedBy c = false := by
  rw [Bool.eq_false_iff]
  intro longer
  cases token with
  | number text => exact Bool.false_ne_true ((isBlank_of_isNumberChar longer).symm.trans blank)
  | function name => exact Bool.false_ne_true ((isBlank_of_isNameChar longer).symm.trans blank)
  | _ => exact Bool.false_ne_true longer

theorem Token.extendedBy_of_admits {token next : Token} {c : Char} {after : List Char}
    (admits : token.admits next = true) (first : next.spelling = c :: after) :
    token.extendedBy c = false := by
  cases token with
  | number text =>
    cases next with
    | operator op =>
      simp only [Token.spelling, Token.text, String.toList_singleton] at first
      cases first
      cases op <;> rfl
    | closeParen => cases first; rfl
    | comma => cases first; rfl
    | _ => simp [Token.admits, Token.followsOperand] at admits
  | function name =>
    simp only [Token.admits, decide_eq_true_eq] at admits
    subst admits
    cases first
    rfl
  | _ => rfl

theorem Token.stops_of_spelled {token : Token} {tokens : List Token} {text : List Char}
    (admitted : Admitted (token :: tokens))
    (lexical : ∀ token ∈ tokens, token.isLexical = true) (spelled : Spelled tokens text) :
    token.Stops text := by
  intro c rest same
  cases spelled with
  | nil => cases same
  | blank blank _ =>
    cases same
    exact Token.extendedBy_of_isBlank blank
  | @token next later text spelled =>
    rw [admitted_cons] at admitted
    obtain ⟨d, after, first, -⟩ := Token.spelling_eq_cons (lexical next (by simp))
    rw [first] at same
    cases same
    exact Token.extendedBy_of_admits admitted.1 first

theorem scan_spelled {token : Token} {tokens : List Token} {text : List Char}
    (admitted : Admitted (token :: tokens))
    (lexical : ∀ token ∈ tokens, token.isLexical = true) (spelled : Spelled tokens text) :
    scan text = .ok tokens := by
  induction spelled generalizing token with
  | nil => rw [scan.eq_def]
  | blank blank _ ih => rw [scan_blank blank, ih admitted lexical]
  | @token next later text spelled ih =>
    rw [admitted_cons] at admitted
    have laterLexical : ∀ token ∈ later, token.isLexical = true :=
      fun token member => lexical token (List.mem_cons_of_mem next member)
    obtain ⟨c, after, same, visible, first⟩ := firstToken_spelling (lexical next (by simp))
      (Token.stops_of_spelled admitted.2 laterLexical spelled)
    rw [same, List.cons_append, scan_token visible first, ih admitted.2 laterLexical]
    rfl

theorem trimStart_spelled {tokens : List Token} {text : List Char}
    (lexical : ∀ token ∈ tokens, token.isLexical = true) (spelled : Spelled tokens text) :
    Spelled tokens (trimStart text) := by
  induction spelled with
  | nil => exact .nil
  | @blank tokens text c blank spelled ih =>
    rw [trimStart, List.dropWhile_cons_of_pos blank]
    exact ih lexical
  | @token next later text spelled ih =>
    obtain ⟨c, after, first, visible⟩ := Token.spelling_eq_cons (lexical next (by simp))
    rw [trimStart, first, List.cons_append, List.dropWhile_cons_of_neg (by simp [visible]),
      ← List.cons_append, ← first]
    exact .token spelled

theorem trimEnd_append (front back : List Char) :
    trimEnd (front ++ back) =
      if trimEnd back = [] then trimEnd front else front ++ trimEnd back := by
  simp only [trimEnd, trimStart, List.reverse_append, List.dropWhile_append, List.isEmpty_iff,
    List.reverse_eq_nil_iff]
  split
  · rfl
  · rw [List.reverse_append, List.reverse_reverse]

theorem append_last_of_visible {word : List Char} (nonempty : word ≠ [])
    (visible : ∀ c ∈ word, isBlank c = false) :
    ∃ front last, word = front ++ [last] ∧ isBlank last = false :=
  ⟨word.dropLast, word.getLast nonempty, (List.dropLast_append_getLast nonempty).symm,
    visible _ (List.getLast_mem nonempty)⟩

theorem Token.spelling_eq_append {token : Token} (lexical : token.isLexical = true) :
    ∃ front last, token.spelling = front ++ [last] ∧ isBlank last = false := by
  cases token with
  | number text =>
    obtain ⟨nonempty, digits⟩ := Token.isLexical_number.1 lexical
    exact append_last_of_visible (by simpa [Token.spelling, Token.text] using nonempty)
      (fun c member => isBlank_of_isNumberChar (digits c member))
  | function name =>
    obtain ⟨c, rest, spelled, letter, word⟩ := Token.isLexical_function.1 lexical
    refine append_last_of_visible (by simp [Token.spelling, Token.text, spelled]) ?_
    intro d member
    simp only [Token.spelling, Token.text, spelled, List.mem_cons] at member
    rcases member with rfl | inside
    · exact isBlank_of_isAlpha letter
    · exact isBlank_of_isNameChar (word d inside)
  | reference name => exact ⟨'{' :: name.toList, '}', rfl, rfl⟩
  | operator op =>
    exact ⟨[], op.symbol, by simp [Token.spelling, Token.text], by cases op <;> rfl⟩
  | openParen => exact ⟨[], '(', rfl, rfl⟩
  | closeParen => exact ⟨[], ')', rfl, rfl⟩
  | comma => exact ⟨[], ',', rfl, rfl⟩

theorem trimEnd_spelled {tokens : List Token} {text : List Char}
    (lexical : ∀ token ∈ tokens, token.isLexical = true) (spelled : Spelled tokens text) :
    Spelled tokens (trimEnd text) := by
  induction spelled with
  | nil => exact .nil
  | @blank tokens text c blank spelled ih =>
    rw [← List.singleton_append, trimEnd_append]
    have ends := ih lexical
    split
    · rename_i empty
      rw [empty] at ends
      simpa [trimEnd, trimStart, blank] using ends
    · exact .blank blank ends
  | @token next later text spelled ih =>
    have ends := ih fun token member => lexical token (List.mem_cons_of_mem next member)
    obtain ⟨front, last, same, visible⟩ := Token.spelling_eq_append (lexical next (by simp))
    have whole : trimEnd next.spelling = next.spelling := by
      rw [same]
      simp [trimEnd, trimStart, visible]
    rw [trimEnd_append, whole]
    split
    · rename_i empty
      rw [empty] at ends
      have alone : Spelled (next :: later) (next.spelling ++ []) := .token ends
      rwa [List.append_nil] at alone
    · exact .token ends

theorem trim_spelled {tokens : List Token} {text : List Char}
    (lexical : ∀ token ∈ tokens, token.isLexical = true) (spelled : Spelled tokens text) :
    Spelled tokens (trim text) :=
  trimEnd_spelled lexical (trimStart_spelled lexical spelled)

theorem ne_nil_of_spelled {token : Token} {tokens : List Token} {text : List Char}
    (lexical : token.isLexical = true) (spelled : Spelled (token :: tokens) text) : text ≠ [] := by
  cases spelled with
  | blank => simp
  | token spelled =>
    obtain ⟨c, after, first, -⟩ := Token.spelling_eq_cons lexical
    simp [first]

end Scorekeeper.Formula
