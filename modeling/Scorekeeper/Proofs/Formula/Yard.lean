import Scorekeeper.Formula.Check
import Scorekeeper.Formula.Postfix
import Scorekeeper.Proofs.Except

set_option autoImplicit false

/-!
# Runs of the yard

Whatever tokens a yard is given, well ordered or not, it loses none that stands for something to
compute: each comes out as one item, numbers and references in the order in which they came.  A run
that comes to an end has met its parentheses in balance.  And no run finds anything but a
parenthesis waiting, and under that of a call its function, where the open frames say that it is
there.
-/

namespace Scorekeeper.Formula

def Item.token : Item → Token
  | .number text => .number text
  | .reference name => .reference name
  | .operator op => .operator op
  | .call function _ => .function function

def Pending.token? : Pending → Option Token
  | .operator op => some (.operator op)
  | .function name => some (.function name)
  | .openParen => none

def Token.groups : Token → Bool
  | .openParen | .closeParen | .comma => true
  | _ => false

def words (tokens : List Token) : List Token :=
  tokens.filter fun token => !token.groups

def Token.isOperand : Token → Bool
  | .number _ | .reference _ => true
  | _ => false

def operands (tokens : List Token) : List Token :=
  tokens.filter Token.isOperand

theorem operands_append (front back : List Token) :
    operands (front ++ back) = operands front ++ operands back :=
  List.filter_append front back

namespace Yard

def opensCall (yard : Yard) : Bool :=
  yard.previous matches some (.function _)

/-- What a yard makes of a token: the items it lets go, and what waits and is open from then on. -/
inductive Shifts (yard : Yard) : Token → List Item → List Pending → List Frame → Prop
  | number (text : String) : Shifts yard (.number text) [.number text] yard.pending yard.frames
  | reference (name : String) :
      Shifts yard (.reference name) [.reference name] yard.pending yard.frames
  | function (name : String) :
      Shifts yard (.function name) [] (.function name :: yard.pending) yard.frames
  | operator {items : List Item} {pending : List Pending} (op : Operator)
      (released : release (Pending.yieldsTo op) yard.pending = (items, pending)) :
      Shifts yard (.operator op) items (.operator op :: pending) yard.frames
  | openParen : Shifts yard .openParen [] (.openParen :: yard.pending)
      (⟨yard.opensCall, 0⟩ :: yard.frames)
  | closeGroup {items : List Item} {pending : List Pending} {commas : Nat} {frames : List Frame}
      (opened : yard.frames = ⟨false, commas⟩ :: frames)
      (released : release Pending.inside yard.pending = (items, .openParen :: pending)) :
      Shifts yard .closeParen items pending frames
  | closeCall {items : List Item} {pending : List Pending} {function : String} {commas : Nat}
      {frames : List Frame} (opened : yard.frames = ⟨true, commas⟩ :: frames)
      (filled : yard.previous ≠ some .comma)
      (released : release Pending.inside yard.pending =
        (items, .openParen :: .function function :: pending)) :
      Shifts yard .closeParen
        (items ++ [.call function (if yard.previous = some .openParen then 0 else commas + 1)])
        pending frames
  | comma {items : List Item} {pending : List Pending} {commas : Nat} {frames : List Frame}
      (opened : yard.frames = ⟨true, commas⟩ :: frames)
      (filled : ¬ (yard.previous = some .comma ∨ yard.previous = some .openParen))
      (released : release Pending.inside yard.pending = (items, pending)) :
      Shifts yard .comma items pending (⟨true, commas + 1⟩ :: frames)

theorem shifts_of_close {yard : Yard} {items : List Item} {pending : List Pending}
    {frames : List Frame} (closes : yard.close = .ok (items, pending, frames)) :
    Shifts yard .closeParen items pending frames := by
  rw [close] at closes
  cases opened : yard.frames with
  | nil =>
    rw [opened] at closes
    cases closes
  | cons frame outside =>
    obtain ⟨isCall, commas⟩ := frame
    cases left : release Pending.inside yard.pending with
    | mk released rest =>
      simp only [opened, left] at closes
      rcases rest with _ | ⟨_ | _ | _, outer⟩
      case cons.openParen =>
        cases isCall with
        | false =>
          cases closes
          exact .closeGroup opened left
        | true =>
          by_cases missing : yard.previous = some .comma
          · simp only [missing, if_true] at closes
            cases closes
          · simp only [missing, if_true, if_false] at closes
            rcases outer with _ | ⟨_ | _ | _, inner⟩
            case cons.function =>
              cases closes
              exact .closeCall opened missing left
            all_goals cases closes
      all_goals cases closes

theorem shifts_of_separate {yard : Yard} {items : List Item} {pending : List Pending}
    {frames : List Frame} (separates : yard.separate = .ok (items, pending, frames)) :
    Shifts yard .comma items pending frames := by
  rw [separate] at separates
  split at separates
  · rename_i commas outside opened
    split at separates
    · cases separates
    · rename_i filled
      cases separates
      exact .comma opened filled rfl
  · cases separates

theorem shifts_of_step {yard next : Yard} {token : Token} {items : List Item}
    (step : yard.step token = .ok (items, next)) :
    ∃ pending frames, next = ⟨pending, frames, some token⟩ ∧
      Shifts yard token items pending frames := by
  rw [Yard.step] at step
  obtain ⟨_, _, shifted⟩ := bind_eq_ok_iff.1 step
  cases token with
  | number text =>
    cases shifted
    exact ⟨_, _, rfl, .number text⟩
  | reference name =>
    cases shifted
    exact ⟨_, _, rfl, .reference name⟩
  | function name =>
    cases shifted
    exact ⟨_, _, rfl, .function name⟩
  | operator op =>
    cases shifted
    exact ⟨_, _, rfl, .operator op rfl⟩
  | openParen =>
    cases shifted
    exact ⟨_, _, rfl, .openParen⟩
  | closeParen =>
    obtain ⟨⟨released, pending, frames⟩, closes, same⟩ := bind_eq_ok_iff.1 shifted
    cases same
    exact ⟨_, _, rfl, shifts_of_close closes⟩
  | comma =>
    obtain ⟨⟨released, pending, frames⟩, separates, same⟩ := bind_eq_ok_iff.1 shifted
    cases same
    exact ⟨_, _, rfl, shifts_of_separate separates⟩

theorem run_cons_eq_ok {yard : Yard} {token : Token} {rest : List Token} {items : List Item}
    (runs : yard.run (token :: rest) = .ok items) :
    ∃ released next later, yard.step token = .ok (released, next) ∧ next.run rest = .ok later ∧
      items = released ++ later := by
  rw [run] at runs
  obtain ⟨⟨released, next⟩, step, others⟩ := bind_eq_ok_iff.1 runs
  obtain ⟨later, ran, same⟩ := bind_eq_ok_iff.1 others
  cases same
  exact ⟨released, next, later, step, ran, rfl⟩

def waiting (pending : List Pending) : List Token :=
  pending.filterMap Pending.token?

theorem map_token_item? (pending : List Pending) :
    (pending.filterMap Pending.item?).map Item.token = waiting pending := by
  rw [waiting, List.map_filterMap]
  congr 1
  funext token
  cases token <;> rfl

theorem waiting_release {yields : Pending → Bool} {pending left : List Pending} {items : List Item}
    (released : release yields pending = (items, left)) :
    waiting pending = items.map Item.token ++ waiting left := by
  cases released
  rw [map_token_item?, waiting, waiting, waiting, ← List.filterMap_append,
    List.takeWhile_append_dropWhile]

@[simp] theorem waiting_openParen (pending : List Pending) :
    waiting (.openParen :: pending) = waiting pending := rfl

@[simp] theorem waiting_function (name : String) (pending : List Pending) :
    waiting (.function name :: pending) = .function name :: waiting pending := rfl

theorem Shifts.words {yard : Yard} {token : Token} {items : List Item} {pending : List Pending}
    {frames : List Frame} (shifts : Shifts yard token items pending frames) :
    (items.map Item.token ++ waiting pending).Perm
      (waiting yard.pending ++ Formula.words [token]) := by
  cases shifts with
  | number text => exact List.perm_append_comm
  | reference name => exact List.perm_append_comm
  | function name => exact (List.perm_append_singleton _ _).symm
  | operator op released =>
    rw [waiting_release released, List.append_assoc]
    exact (List.perm_append_singleton _ _).symm.append_left _
  | openParen => simp [Formula.words, Token.groups]
  | closeGroup _ released => simp [waiting_release released, Formula.words, Token.groups]
  | closeCall _ _ released =>
    simp [waiting_release released, Formula.words, Token.groups, Item.token]
  | comma _ _ released => simp [waiting_release released, Formula.words, Token.groups]

theorem finish_eq_ok {yard : Yard} {items : List Item} (finishes : yard.finish = .ok items) :
    yard.frames = [] ∧ items = yard.pending.filterMap Pending.item? := by
  rw [finish] at finishes
  split at finishes
  · cases finishes
  · split at finishes
    · rename_i empty
      cases finishes
      exact ⟨List.isEmpty_iff.1 empty, rfl⟩
    · cases finishes

theorem words_run {yard : Yard} {tokens : List Token} {items : List Item}
    (runs : yard.run tokens = .ok items) :
    (items.map Item.token).Perm (waiting yard.pending ++ words tokens) := by
  induction tokens generalizing yard items with
  | nil =>
    obtain ⟨_, rfl⟩ := finish_eq_ok runs
    rw [map_token_item?]
    simp [words]
  | cons token rest ih =>
    obtain ⟨released, next, later, step, ran, rfl⟩ := run_cons_eq_ok runs
    obtain ⟨pending, frames, rfl, shifts⟩ := shifts_of_step step
    have split : words (token :: rest) = words [token] ++ words rest :=
      List.filter_append [token] rest
    calc
      ((released ++ later).map Item.token).Perm
          (released.map Item.token ++ (waiting pending ++ words rest)) := by
        rw [List.map_append]
        exact (ih ran).append_left _
      _ = released.map Item.token ++ waiting pending ++ words rest := by rw [List.append_assoc]
      List.Perm _ (waiting yard.pending ++ words [token] ++ words rest) :=
        shifts.words.append_right _
      _ = waiting yard.pending ++ words (token :: rest) := by rw [split, List.append_assoc]

theorem operands_release (pending : List Pending) :
    operands ((pending.filterMap Pending.item?).map Item.token) = [] := by
  rw [map_token_item?, operands, List.filter_eq_nil_iff]
  intro token waits
  obtain ⟨waiting, -, same⟩ := List.mem_filterMap.1 waits
  cases waiting <;> cases same <;> simp [Token.isOperand]

theorem Shifts.operands {yard : Yard} {token : Token} {items : List Item} {pending : List Pending}
    {frames : List Frame} (shifts : Shifts yard token items pending frames) :
    Formula.operands (items.map Item.token) = Formula.operands [token] := by
  have released {yields : Pending → Bool} {made : List Item} {rest : List Pending}
      (released : release yields yard.pending = (made, rest)) :
      Formula.operands (made.map Item.token) = [] := by
    cases released
    exact operands_release _
  cases shifts with
  | operator op made => exact released made
  | closeGroup _ made => exact released made
  | closeCall _ _ made =>
    rw [List.map_append, operands_append, released made]
    rfl
  | comma _ _ made => exact released made
  | _ => rfl

theorem operands_run {yard : Yard} {tokens : List Token} {items : List Item}
    (runs : yard.run tokens = .ok items) :
    operands (items.map Item.token) = operands tokens := by
  induction tokens generalizing yard items with
  | nil =>
    obtain ⟨-, rfl⟩ := finish_eq_ok runs
    exact operands_release _
  | cons token rest ih =>
    obtain ⟨released, next, later, step, ran, rfl⟩ := run_cons_eq_ok runs
    obtain ⟨pending, frames, rfl, shifts⟩ := shifts_of_step step
    rw [List.map_append, operands_append, shifts.operands, ih ran, ← operands_append]
    rfl

theorem Shifts.balance {yard : Yard} {token : Token} {items : List Item} {pending : List Pending}
    {frames : List Frame} (shifts : Shifts yard token items pending frames) (rest : List Token) :
    balanceObjection? yard.frames.length (token :: rest) =
      balanceObjection? frames.length rest := by
  cases shifts with
  | closeGroup opened => rw [opened]; rfl
  | closeCall opened => rw [opened]; rfl
  | comma opened => rw [opened]; rfl
  | _ => rfl

theorem balance_run {yard : Yard} {tokens : List Token} {items : List Item}
    (runs : yard.run tokens = .ok items) : balanceObjection? yard.frames.length tokens = none := by
  induction tokens generalizing yard items with
  | nil =>
    obtain ⟨closed, _⟩ := finish_eq_ok runs
    rw [closed]
    rfl
  | cons token rest ih =>
    obtain ⟨released, next, later, step, ran, -⟩ := run_cons_eq_ok runs
    obtain ⟨pending, frames, rfl, shifts⟩ := shifts_of_step step
    rw [shifts.balance]
    exact ih ran

/-- The parentheses that wait are those of the open frames, and under that of a call waits its
function. -/
inductive Matched : List Pending → List Frame → Prop
  | outermost : Matched [] []
  | operator {pending : List Pending} {frames : List Frame} (op : Operator)
      (matched : Matched pending frames) : Matched (.operator op :: pending) frames
  | function {pending : List Pending} {frames : List Frame} (name : String)
      (matched : Matched pending frames) : Matched (.function name :: pending) frames
  | group {pending : List Pending} {frames : List Frame} (commas : Nat)
      (matched : Matched pending frames) :
      Matched (.openParen :: pending) (⟨false, commas⟩ :: frames)
  | call {pending : List Pending} {frames : List Frame} (function : String) (commas : Nat)
      (matched : Matched pending frames) :
      Matched (.openParen :: .function function :: pending) (⟨true, commas⟩ :: frames)

structure InStep (yard : Yard) : Prop where
  matched : Matched yard.pending yard.frames
  named : ∀ name, yard.previous = some (.function name) →
    ∃ pending, yard.pending = .function name :: pending

theorem Matched.dropWhile {pending : List Pending} {frames : List Frame}
    (matched : Matched pending frames) {yields : Pending → Bool}
    (stays : yields .openParen = false) : Matched (pending.dropWhile yields) frames := by
  induction matched with
  | outermost => exact .outermost
  | operator op matched ih =>
    rw [List.dropWhile_cons]
    split
    · exact ih
    · exact .operator op matched
  | function name matched ih =>
    rw [List.dropWhile_cons]
    split
    · exact ih
    · exact .function name matched
  | group commas matched =>
    rw [List.dropWhile_cons, stays]
    exact .group commas matched
  | call function commas matched =>
    rw [List.dropWhile_cons, stays]
    exact .call function commas matched

theorem Matched.of_release {yields : Pending → Bool} {pending left : List Pending}
    {frames : List Frame} {items : List Item} (matched : Matched pending frames)
    (stays : yields .openParen = false) (released : release yields pending = (items, left)) :
    Matched left frames := by
  cases released
  exact matched.dropWhile stays

theorem Matched.top {pending left : List Pending} {frame : Frame} {frames : List Frame}
    {items : List Item} (matched : Matched pending (frame :: frames))
    (released : release Pending.inside pending = (items, left)) :
    ∃ outer, left = .openParen :: outer ∧
      (frame.isCall = true → ∃ function rest, outer = .function function :: rest) := by
  have outside : ∀ token ∈ left.head?, token.inside = false := by
    cases released
    intro token first
    have stays := List.head?_dropWhile_not Pending.inside pending
    rw [Option.mem_def] at first
    rw [first] at stays
    simpa using stays
  cases matched.of_release rfl released with
  | operator op => cases outside (.operator op) rfl
  | function name => cases outside (.function name) rfl
  | group commas matched => exact ⟨_, rfl, nofun⟩
  | call function commas matched => exact ⟨_, rfl, fun _ => ⟨_, _, rfl⟩⟩

theorem Matched.comma {pending : List Pending} {commas : Nat} {frames : List Frame}
    (matched : Matched pending (⟨true, commas⟩ :: frames)) :
    Matched pending (⟨true, commas + 1⟩ :: frames) := by
  generalize same : (⟨true, commas⟩ : Frame) :: frames = opened at matched
  induction matched with
  | outermost => cases same
  | operator op _ ih => exact .operator op (ih same)
  | function name _ ih => exact .function name (ih same)
  | group => cases same
  | call function _ matched =>
    cases same
    exact .call function _ matched

theorem InStep.shift {yard : Yard} {token : Token} {items : List Item} {pending : List Pending}
    {frames : List Frame} (inStep : yard.InStep)
    (shifts : Shifts yard token items pending frames) : InStep ⟨pending, frames, some token⟩ := by
  cases shifts with
  | number | reference => exact ⟨inStep.matched, nofun⟩
  | function name =>
    refine ⟨.function name inStep.matched, fun other same => ?_⟩
    cases same
    exact ⟨_, rfl⟩
  | operator op released => exact ⟨.operator op (inStep.matched.of_release rfl released), nofun⟩
  | openParen =>
    refine ⟨?_, nofun⟩
    cases call : yard.opensCall with
    | false => exact .group 0 inStep.matched
    | true =>
      -- The function that the call is of has just been put on top.
      obtain ⟨name, last⟩ : ∃ name, yard.previous = some (.function name) := by
        rw [opensCall] at call
        split at call
        · rename_i name last
          exact ⟨name, last⟩
        · cases call
      obtain ⟨below, top⟩ := inStep.named name last
      have matched := inStep.matched
      rw [top] at matched ⊢
      cases matched with
      | function _ matched => exact .call name 0 matched
  | closeGroup opened released =>
    have matched := inStep.matched.of_release rfl released
    rw [opened] at matched
    cases matched with
    | group _ matched => exact ⟨matched, nofun⟩
  | closeCall opened _ released =>
    have matched := inStep.matched.of_release rfl released
    rw [opened] at matched
    cases matched with
    | call _ _ matched => exact ⟨matched, nofun⟩
  | comma opened _ released =>
    have matched := inStep.matched.of_release rfl released
    rw [opened] at matched
    exact ⟨matched.comma, nofun⟩

theorem inStep_start : InStep .start where
  matched := .outermost
  named name last := by cases last

theorem InStep.close_ne {yard : Yard} (inStep : yard.InStep) : yard.close ≠ .error .lostStep := by
  intro lost
  rw [close] at lost
  cases opened : yard.frames with
  | nil =>
    rw [opened] at lost
    cases lost
  | cons frame frames =>
    have matched := inStep.matched
    rw [opened] at matched
    cases left : release Pending.inside yard.pending with
    | mk items rest =>
      obtain ⟨outer, rfl, called⟩ := matched.top left
      simp only [opened, left] at lost
      cases call : frame.isCall with
      | false =>
        rw [call] at lost
        cases lost
      | true =>
        obtain ⟨function, below, rfl⟩ := called call
        by_cases missing : yard.previous = some .comma
        · simp only [call, missing, if_true] at lost
          cases lost
        · simp only [call, missing, if_true, if_false] at lost
          cases lost

theorem InStep.step_ne {yard : Yard} (inStep : yard.InStep) (token : Token) :
    yard.step token ≠ .error .lostStep := by
  intro lost
  rw [Yard.step] at lost
  rcases bind_eq_error_iff.1 lost with unchecked | ⟨_, _, lost⟩
  · unfold checkCall at unchecked
    split at unchecked
    · split at unchecked
      · cases unchecked
      · cases unchecked
    · cases unchecked
  cases token with
  | closeParen =>
    rcases bind_eq_error_iff.1 lost with lost | ⟨_, _, done⟩
    · exact inStep.close_ne lost
    · cases done
  | comma =>
    rcases bind_eq_error_iff.1 lost with lost | ⟨_, _, done⟩
    · rw [separate] at lost
      split at lost
      · split at lost <;> cases lost
      · cases lost
    · cases done
  | _ => cases lost

theorem InStep.run_ne {yard : Yard} (inStep : yard.InStep) (tokens : List Token) :
    yard.run tokens ≠ .error .lostStep := by
  induction tokens generalizing yard with
  | nil =>
    intro lost
    rw [run, finish] at lost
    split at lost
    · cases lost
    · split at lost <;> cases lost
  | cons token rest ih =>
    intro lost
    rw [run] at lost
    rcases bind_eq_error_iff.1 lost with lost | ⟨⟨items, next⟩, step, later⟩
    · exact inStep.step_ne token lost
    · obtain ⟨pending, frames, rfl, shifts⟩ := shifts_of_step step
      rcases bind_eq_error_iff.1 later with lost | ⟨_, _, done⟩
      · exact ih (inStep.shift shifts) lost
      · cases done

end Yard

theorem words_toPostfix {tokens : List Token} {items : List Item}
    (ordered : toPostfix tokens = .ok items) : (items.map Item.token).Perm (words tokens) :=
  Yard.words_run ordered

theorem operands_toPostfix {tokens : List Token} {items : List Item}
    (ordered : toPostfix tokens = .ok items) : operands (items.map Item.token) = operands tokens :=
  Yard.operands_run ordered

theorem balance_toPostfix {tokens : List Token} {items : List Item}
    (ordered : toPostfix tokens = .ok items) : balanceObjection? 0 tokens = none :=
  Yard.balance_run ordered

theorem toPostfix_ne_lostStep (tokens : List Token) : toPostfix tokens ≠ .error .lostStep :=
  Yard.inStep_start.run_ne tokens

end Scorekeeper.Formula
