import Mathlib.Data.List.TakeWhile
import Scorekeeper.Proofs.Except
import Scorekeeper.Proofs.Formula.Spelling

set_option autoImplicit false

namespace Scorekeeper.Formula

open Scorekeeper.Text

def braceAfter (inside : Bool) (c : Char) : Bool :=
  if inside then c ≠ '}' else c = '{'

/-- A text without the blanks outside braces; `inside` tells whether it starts within braces. -/
def condensed (inside : Bool) : List Char → List Char
  | [] => []
  | c :: rest =>
    if !inside && isBlank c then condensed (braceAfter inside c) rest
    else c :: condensed (braceAfter inside c) rest

def closing (inside : Bool) (text : List Char) : List Char :=
  if text.foldl braceAfter inside then ['}'] else []

theorem condensed_append (inside : Bool) (front back : List Char) :
    condensed inside (front ++ back) =
      condensed inside front ++ condensed (front.foldl braceAfter inside) back := by
  induction front generalizing inside with
  | nil => rfl
  | cons c rest ih =>
    rw [List.cons_append, condensed, condensed, ih, List.foldl_cons]
    split <;> rfl

theorem closing_append (inside : Bool) (front back : List Char) :
    closing inside (front ++ back) = closing (front.foldl braceAfter inside) back := by
  rw [closing, closing, List.foldl_append]

theorem condensed_plain {word : List Char}
    (plain : ∀ c ∈ word, isBlank c = false ∧ c ≠ '{') :
    condensed false word = word ∧ word.foldl braceAfter false = false := by
  induction word with
  | nil => exact ⟨rfl, rfl⟩
  | cons c rest ih =>
    rw [List.forall_mem_cons] at plain
    obtain ⟨same, outside⟩ := ih plain.2
    have after : braceAfter false c = false := by simp [braceAfter, plain.1.2]
    simp [condensed, plain.1.1, after, same, outside]

theorem condensed_inside {name : List Char} (unclosed : '}' ∉ name) :
    condensed true name = name ∧ name.foldl braceAfter true = true := by
  induction name with
  | nil => exact ⟨rfl, rfl⟩
  | cons c rest ih =>
    rw [List.mem_cons, not_or] at unclosed
    obtain ⟨same, inside⟩ := ih unclosed.2
    have after : braceAfter true c = true := by simp [braceAfter, Ne.symm unclosed.1]
    simp [condensed, after, same, inside]

theorem ne_brace_of_isNumberChar {c : Char} (number : isNumberChar c = true) : c ≠ '{' := by
  rintro rfl
  cases number

theorem ne_brace_of_isNameChar {c : Char} (name : isNameChar c = true) : c ≠ '{' := by
  rintro rfl
  cases name

theorem isNameChar_of_isAlpha {c : Char} (letter : c.isAlpha = true) : isNameChar c = true := by
  simp [isNameChar, Char.isAlphanum, letter]

theorem condensed_spelling {token : Token} (lexical : token.isLexical = true) :
    condensed false token.spelling = token.spelling ∧
      token.spelling.foldl braceAfter false = false := by
  cases token with
  | number text =>
    obtain ⟨-, digits⟩ := Token.isLexical_number.1 lexical
    exact condensed_plain fun c member =>
      ⟨isBlank_of_isNumberChar (digits c member), ne_brace_of_isNumberChar (digits c member)⟩
  | function name =>
    obtain ⟨c, rest, spelled, letter, word⟩ := Token.isLexical_function.1 lexical
    have named : ∀ d ∈ name.toList, isNameChar d = true := by
      rw [spelled, List.forall_mem_cons]
      exact ⟨isNameChar_of_isAlpha letter, word⟩
    exact condensed_plain fun d member =>
      ⟨isBlank_of_isNameChar (named d member), ne_brace_of_isNameChar (named d member)⟩
  | reference name =>
    obtain ⟨same, inside⟩ := condensed_inside (Token.isLexical_reference.1 lexical)
    have opened : condensed false ('{' :: (name.toList ++ ['}'])) =
        '{' :: condensed true (name.toList ++ ['}']) := rfl
    rw [Token.spelling, opened, condensed_append, same, List.foldl_cons, List.foldl_append,
      show braceAfter false '{' = true from rfl, inside]
    exact ⟨rfl, rfl⟩
  | operator op => cases op <;> exact ⟨rfl, rfl⟩
  | openParen => exact ⟨rfl, rfl⟩
  | closeParen => exact ⟨rfl, rfl⟩
  | comma => exact ⟨rfl, rfl⟩

theorem firstToken_brace (rest : List Char) :
    ∃ name after, firstToken '{' rest = .ok (.reference name, after) ∧ '}' ∉ name.toList ∧
      (rest = name.toList ++ '}' :: after ∨ rest = name.toList ∧ after = []) := by
  have unclosed : '}' ∉ rest.takeWhile (· ≠ '}') := fun member => by
    simpa using List.mem_takeWhile_imp member
  refine ⟨String.ofList (rest.takeWhile (· ≠ '}')), (rest.dropWhile (· ≠ '}')).drop 1, rfl, ?_, ?_⟩
  · rwa [String.toList_ofList]
  · have whole := List.takeWhile_append_dropWhile (p := (· ≠ '}')) (l := rest)
    have stops := List.head?_dropWhile_not (· ≠ '}') rest
    rw [String.toList_ofList]
    cases left : rest.dropWhile (· ≠ '}') with
    | nil =>
      rw [left, List.append_nil] at whole
      exact .inr ⟨whole.symm, rfl⟩
    | cons d later =>
      rw [left] at whole stops
      obtain rfl : d = '}' := by simpa using stops
      exact .inl whole.symm

theorem firstToken_eq_ok {c : Char} {rest after : List Char} {token : Token}
    (first : firstToken c rest = .ok (token, after)) :
    token.isLexical = true ∧ (c :: rest = token.spelling ++ after ∨
      ∃ name, token = .reference name ∧ c :: rest = '{' :: name.toList ∧ after = []) := by
  -- Only a reference may end with the text before it is closed.
  by_cases brace : c = '{'
  · subst brace
    obtain ⟨name, left, read, unclosed, closed | ⟨same, rfl⟩⟩ := firstToken_brace rest
    · cases read.symm.trans first
      exact ⟨Token.isLexical_reference.2 unclosed, .inl (by simp [Token.spelling, closed])⟩
    · cases read.symm.trans first
      exact ⟨Token.isLexical_reference.2 unclosed, .inr ⟨name, rfl, by rw [same], rfl⟩⟩
  unfold firstToken at first
  split at first
  · rename_i number
    cases first
    refine ⟨Token.isLexical_number.2 ⟨by simp, ?_⟩, .inl (by simp [Token.spelling, Token.text])⟩
    rw [String.toList_ofList, List.forall_mem_cons]
    exact ⟨number, fun d member => List.mem_takeWhile_imp member⟩
  split at first
  · rename_i same
    cases first
    exact ⟨rfl, .inl (same ▸ rfl)⟩
  split at first
  · rename_i same
    cases first
    exact ⟨rfl, .inl (same ▸ rfl)⟩
  split at first
  · rename_i same
    cases first
    exact ⟨rfl, .inl (same ▸ rfl)⟩
  split at first
  · rename_i letter
    cases first
    exact ⟨Token.isLexical_function.2 ⟨c, _, String.toList_ofList, letter,
      fun d member => List.mem_takeWhile_imp member⟩, .inl (by simp [Token.spelling, Token.text])⟩
  split at first
  · rename_i op known
    cases first
    rw [Operator.ofChar?_eq_some_iff] at known
    exact ⟨rfl, .inl (by simp [Token.spelling, Token.text, known])⟩
  · cases first

inductive Scanned : List Char → List Token → Prop
  | nil : Scanned [] []
  | blank {c : Char} {rest : List Char} {tokens : List Token} (blank : isBlank c = true)
      (later : Scanned rest tokens) : Scanned (c :: rest) tokens
  | token {token : Token} {after : List Char} {tokens : List Token}
      (lexical : token.isLexical = true) (later : Scanned after tokens) :
      Scanned (token.spelling ++ after) (token :: tokens)
  | unclosed {name : String} (lexical : (Token.reference name).isLexical = true) :
      Scanned ('{' :: name.toList) [.reference name]

theorem scanned_of_scan {text : List Char} {tokens : List Token} (read : scan text = .ok tokens) :
    Scanned text tokens := by
  induction text using scan.induct generalizing tokens with
  | case1 =>
    rw [scan_nil] at read
    cases read
    exact .nil
  | case2 c rest blank ih =>
    rw [scan_blank blank] at read
    exact .blank blank (ih read)
  | case3 c rest visible cause first =>
    rw [scan_unread (Bool.eq_false_iff.2 visible) first] at read
    cases read
  | case4 c rest visible token after first ih =>
    rw [scan_token (Bool.eq_false_iff.2 visible) first] at read
    obtain ⟨later, scanned, rfl⟩ := map_eq_ok_iff.1 read
    obtain ⟨lexical, whole | ⟨name, rfl, whole, rfl⟩⟩ := firstToken_eq_ok first
    · rw [whole]
      exact .token lexical (ih scanned)
    · rw [scan_nil] at scanned
      cases scanned
      rw [whole]
      exact .unclosed lexical

theorem Scanned.lexical {text : List Char} {tokens : List Token} (scanned : Scanned text tokens) :
    ∀ token ∈ tokens, token.isLexical = true := by
  induction scanned with
  | nil => simp
  | blank _ _ ih => exact ih
  | token lexical _ ih => exact List.forall_mem_cons.2 ⟨lexical, ih⟩
  | unclosed lexical => simpa using lexical

theorem Scanned.flatMap_spelling {text : List Char} {tokens : List Token}
    (scanned : Scanned text tokens) :
    tokens.flatMap Token.spelling = condensed false text ++ closing false text := by
  induction scanned with
  | nil => rfl
  | @blank c rest tokens blank _ ih =>
    -- A blank between tokens stands outside braces and opens none.
    have outside : braceAfter false c = false := by
      rw [braceAfter, if_neg Bool.false_ne_true, decide_eq_false_iff_not]
      rintro rfl
      cases blank
    rw [ih, closing, closing, List.foldl_cons, outside, condensed, blank, outside]
    rfl
  | @token token after tokens lexical _ ih =>
    obtain ⟨same, outside⟩ := condensed_spelling lexical
    rw [List.flatMap_cons, ih, condensed_append, closing_append, same, outside, List.append_assoc]
  | @unclosed name lexical =>
    obtain ⟨same, inside⟩ := condensed_inside (Token.isLexical_reference.1 lexical)
    have opened : condensed false ('{' :: name.toList) = '{' :: condensed true name.toList := rfl
    have left : closing false ('{' :: name.toList) = closing true name.toList := rfl
    rw [opened, same, left, closing, inside]
    simp [Token.spelling]

inductive Spaced : List Token → List Char → Prop
  | none : Spaced [] []
  | last (token : Token) : Spaced [token] token.spelling
  | more {token next : Token} {rest : List Token} {blanks text : List Char} (gap : blanks ≠ [])
      (blank : ∀ c ∈ blanks, isBlank c = true) (later : Spaced (next :: rest) text) :
      Spaced (token :: next :: rest) (token.spelling ++ (blanks ++ text))

theorem scan_blanks {blanks : List Char} (blank : ∀ c ∈ blanks, isBlank c = true)
    (text : List Char) : scan (blanks ++ text) = scan text := by
  induction blanks with
  | nil => rfl
  | cons c rest ih =>
    rw [List.forall_mem_cons] at blank
    rw [List.cons_append, scan_blank blank.1, ih blank.2]

theorem scan_spelling {token : Token} {rest : List Char} {tokens : List Token}
    (lexical : token.isLexical = true) (stops : token.Stops rest) (later : scan rest = .ok tokens) :
    scan (token.spelling ++ rest) = .ok (token :: tokens) := by
  obtain ⟨c, after, same, visible, first⟩ := firstToken_spelling lexical stops
  rw [same, List.cons_append]
  exact scan_cons visible first later

theorem scan_spaced {tokens : List Token} {text : List Char}
    (lexical : ∀ token ∈ tokens, token.isLexical = true) (spaced : Spaced tokens text) :
    scan text = .ok tokens := by
  induction spaced with
  | none => exact scan_nil
  | last token =>
    rw [← List.append_nil token.spelling]
    exact scan_spelling (lexical token (by simp)) (by rintro c rest ⟨⟩) scan_nil
  | @more token next rest blanks text gap blank _ ih =>
    rw [List.forall_mem_cons] at lexical
    refine scan_spelling lexical.1 ?_ ?_
    · intro c after same
      obtain ⟨d, others, rfl⟩ := List.exists_cons_of_ne_nil gap
      cases same
      exact Token.extendedBy_of_isBlank (blank c (by simp))
    · rw [scan_blanks blank]
      exact ih lexical.2

theorem tokenize_lossless :
    (∀ (text : String) (tokens : List Token), tokenize text = .ok tokens →
      tokens.flatMap Token.spelling =
        condensed false text.toList ++ closing false text.toList) ∧
    ∀ (tokens : List Token) (text : String), (∀ token ∈ tokens, token.isLexical = true) →
      Spaced tokens text.toList → tokenize text = .ok tokens :=
  ⟨fun _ _ read => (scanned_of_scan read).flatMap_spelling,
    fun _ _ lexical spaced => scan_spaced lexical spaced⟩

theorem tokenize_lossless_torn :
    tokenize "f2( { x }-.5\x7by " =
        .ok [.function "f2", .openParen, .reference " x ", .operator .minus, .number ".5",
          .reference "y "] ∧
      [Token.function "f2", .openParen, .reference " x ", .operator .minus, .number ".5",
        .reference "y "].flatMap Token.spelling = "f2({ x }-.5{y }".toList ∧
      tokenize "f2 ( \t{ x } - .5\n2" =
        .ok [.function "f2", .openParen, .reference " x ", .operator .minus, .number ".5",
          .number "2"] := by
  have read : tokenize "f2( { x }-.5\x7by " =
      .ok [.function "f2", .openParen, .reference " x ", .operator .minus, .number ".5",
        .reference "y "] := by
    rw [tokenize, show "f2( { x }-.5\x7by ".toList = ['f', '2', '(', ' ', '{', ' ', 'x', ' ', '}',
      '-', '.', '5', '{', 'y', ' '] by decide]
    repeat first
      | exact scan_nil
      | refine scan_skip rfl ?_
      | refine scan_cons rfl rfl ?_
  have spaced : Spaced [.function "f2", .openParen, .reference " x ", .operator .minus,
      .number ".5", .number "2"] "f2 ( \t{ x } - .5\n2".toList :=
    @Spaced.more _ _ _ [' '] _ (by simp) (by simp [isBlank]) <|
    @Spaced.more _ _ _ [' ', '\t'] _ (by simp) (by simp [isBlank]) <|
    @Spaced.more _ _ _ [' '] _ (by simp) (by simp [isBlank]) <|
    @Spaced.more _ _ _ [' '] _ (by simp) (by simp [isBlank]) <|
    @Spaced.more _ _ _ ['\n'] _ (by simp) (by simp [isBlank]) <|
    .last (.number "2")
  exact ⟨read, tokenize_lossless.1 _ _ read, tokenize_lossless.2 _ _ (by decide) spaced⟩

end Scorekeeper.Formula
