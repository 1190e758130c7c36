import Scorekeeper.Formula.Postfix
import Scorekeeper.Proofs.Formula.Written

set_option autoImplicit false

/-!
# Postfix order of written expressions

The tokens of a written expression leave the yard as the expression in postfix order.  Operators
that still wait when the expression ends count as released already: what comes next releases them
before it does anything else.
-/

namespace Scorekeeper.Formula

def emit (items : List Item) (later : Except Malformed (List Item)) :
    Except Malformed (List Item) :=
  later.map (items ++ ·)

@[simp] theorem emit_nil (later : Except Malformed (List Item)) : emit [] later = later := by
  cases later <;> rfl

@[simp] theorem emit_emit (first second : List Item) (later : Except Malformed (List Item)) :
    emit first (emit second later) = emit (first ++ second) later := by
  cases later <;> simp [emit, Except.map]

namespace Yard

theorem run_cons {yard next : Yard} {token : Token} {items : List Item} (rest : List Token)
    (step : yard.step token = .ok (items, next)) :
    yard.run (token :: rest) = emit items (next.run rest) := by
  simp only [run, step, bind, Except.bind]
  cases next.run rest <;> rfl

def Ready (previous : Option Token) : Prop :=
  ∀ name, previous ≠ some (.function name)

theorem checkCall_ready {previous : Option Token} (ready : Ready previous) (token : Token) :
    checkCall previous token = .ok () := by
  unfold checkCall
  split
  · rename_i name
    exact absurd rfl (ready name)
  · rfl

theorem ready_some {token : Token} (other : ∀ name, token ≠ .function name) :
    Ready (some token) := by
  intro name same
  exact other name (Option.some.inj same)

theorem step_endsOperand {pending : List Pending} {frames : List Frame} {last : Token}
    (ends : last.endsOperand = true) (token : Token) :
    Yard.step ⟨pending, frames, some last⟩ token =
      Yard.step ⟨pending, frames, some .closeParen⟩ token := by
  cases last with
  | number | reference => cases token <;> simp [step, checkCall, close, separate]
  | closeParen => rfl
  | _ => cases ends

theorem run_endsOperand {pending : List Pending} {frames : List Frame} {last : Token}
    (ends : last.endsOperand = true) (rest : List Token) :
    Yard.run ⟨pending, frames, some last⟩ rest =
      Yard.run ⟨pending, frames, some .closeParen⟩ rest := by
  cases rest with
  | nil =>
    cases last with
    | number | reference | closeParen => rfl
    | _ => cases ends
  | cons token rest => rw [run, run, step_endsOperand ends]

theorem run_emit {yard other : Yard} {token : Token} {items : List Item} (rest : List Token)
    (step : yard.step token =
      (other.step token).map fun (released, next) => (items ++ released, next)) :
    yard.run (token :: rest) = emit items (other.run (token :: rest)) := by
  rw [run, run, step]
  cases other.step token with
  | error cause => rfl
  | ok result =>
    simp only [Except.map, bind, Except.bind]
    cases result.2.run rest with
    | error cause => rfl
    | ok later => simp [emit, Except.map, pure, Except.pure]

theorem release_operator {waiting : Pending → Bool} {op : Operator}
    (released : waiting (.operator op) = true) (pending : List Pending) :
    release waiting (.operator op :: pending) =
      (.operator op :: (release waiting pending).1, (release waiting pending).2) := by
  simp [release, released, Pending.item?]

theorem close_operator (op : Operator) (pending : List Pending) (frames : List Frame)
    (previous : Option Token) :
    Yard.close ⟨.operator op :: pending, frames, previous⟩ =
      (Yard.close ⟨pending, frames, previous⟩).map fun (released, rest) =>
        (.operator op :: released, rest) := by
  cases frames with
  | nil => rfl
  | cons frame frames =>
    rw [close, close]
    simp only [release_operator (show Pending.inside (.operator op) = true from rfl)]
    -- Both sides go on from the same released items, so they stop or go on alike.
    obtain ⟨released, opened⟩ := release Pending.inside pending
    rcases opened with _ | ⟨_ | _ | _, outer⟩
    case cons.openParen =>
      by_cases missing : previous = some .comma
      · cases frame.isCall <;> simp [missing] <;> rfl
      · cases frame.isCall
        · rfl
        · rcases outer with _ | ⟨_ | _ | _, rest⟩ <;> simp [missing] <;> rfl
    all_goals rfl

theorem separate_operator (op : Operator) (pending : List Pending) (frames : List Frame)
    (previous : Option Token) :
    Yard.separate ⟨.operator op :: pending, frames, previous⟩ =
      (Yard.separate ⟨pending, frames, previous⟩).map fun (released, rest) =>
        (.operator op :: released, rest) := by
  rw [separate, separate]
  simp only [release_operator (show Pending.inside (.operator op) = true from rfl)]
  rcases frames with _ | ⟨⟨_ | _, commas⟩, frames⟩
  · rfl
  · rfl
  · by_cases missing : previous = some .comma ∨ previous = some .openParen
    · simp [missing]
      rfl
    · simp [missing]
      rfl

def Ends (level : Nat) : List Token → Prop
  | [] | .closeParen :: _ | .comma :: _ => True
  | .operator op :: _ => op.precedence ≤ level
  | _ => False

theorem Ends.mono {level higher : Nat} {rest : List Token} (ends : Ends level rest)
    (below : level ≤ higher) : Ends higher rest := by
  rcases rest with _ | ⟨_ | _ | op | _ | _ | _ | _, rest⟩ <;> simp_all [Ends]
  omega

theorem run_release {pending : List Pending} {frames : List Frame} {op : Operator}
    {rest : List Token} (ends : Ends op.precedence rest) :
    Yard.run ⟨.operator op :: pending, frames, some .closeParen⟩ rest =
      emit [.operator op] (Yard.run ⟨pending, frames, some .closeParen⟩ rest) := by
  rcases rest with _ | ⟨token, rest⟩
  · cases frames <;> rfl
  apply run_emit
  cases token with
  | closeParen =>
    simp only [step, checkCall, close_operator]
    cases Yard.close ⟨pending, frames, some .closeParen⟩ <;> rfl
  | comma =>
    simp only [step, checkCall, separate_operator]
    cases Yard.separate ⟨pending, frames, some .closeParen⟩ <;> rfl
  | operator next =>
    have yields : Pending.yieldsTo next (.operator op) = true :=
      decide_eq_true (show next.precedence ≤ op.precedence from ends)
    simp only [step, checkCall, release_operator yields]
    rfl
  | _ => exact ends.elim

-- Whether operators of a level leave on the stack what waits there.
def Holds (level : Nat) : List Pending → Prop
  | .operator op :: _ => op.precedence < level
  | _ => True

theorem holds_openParen (level : Nat) (pending : List Pending) :
    Holds level (.openParen :: pending) :=
  trivial

theorem Holds.mono {level higher : Nat} {pending : List Pending} (holds : Holds level pending)
    (below : level ≤ higher) : Holds higher pending := by
  rcases pending with _ | ⟨_ | _ | _, pending⟩
  · trivial
  · exact Nat.lt_of_lt_of_le holds below
  · trivial
  · trivial

theorem release_holds {op : Operator} {pending : List Pending}
    (holds : Holds op.precedence pending) :
    release (Pending.yieldsTo op) pending = ([], pending) := by
  rcases pending with _ | ⟨waiting | _ | _, pending⟩
  · rfl
  · have stays : Pending.yieldsTo op (.operator waiting) = false :=
      decide_eq_false (Nat.not_le_of_lt holds)
    simp [release, stays]
  · rfl
  · rfl

variable (pending : List Pending) (frames : List Frame) (previous : Option Token)

theorem step_operator {op : Operator} (ready : Ready previous)
    (holds : Holds op.precedence pending) :
    Yard.step ⟨pending, frames, previous⟩ (.operator op) =
      .ok ([], ⟨.operator op :: pending, frames, some (.operator op)⟩) := by
  simp only [step, checkCall_ready ready, release_holds holds]
  rfl

theorem step_openParen (ready : Ready previous) :
    Yard.step ⟨pending, frames, previous⟩ .openParen =
      .ok ([], ⟨.openParen :: pending, ⟨false, 0⟩ :: frames, some .openParen⟩) := by
  simp only [step, checkCall_ready ready]
  rcases previous with _ | last
  · rfl
  · cases last with
    | function name => exact absurd rfl (ready name)
    | _ => rfl

def Reads (level : Nat) (tokens : List Token) (items : List Item) : Prop :=
  ∀ (pending : List Pending) (frames : List Frame) (previous : Option Token) (rest : List Token),
    Ready previous → Holds level pending → Ends level rest →
      Yard.run ⟨pending, frames, previous⟩ (tokens ++ rest) =
        emit items (Yard.run ⟨pending, frames, some .closeParen⟩ rest)

theorem reads_operand {level : Nat} {token : Token} {item : Item} (ends : token.endsOperand = true)
    (step : ∀ pending frames previous, Ready previous →
      Yard.step ⟨pending, frames, previous⟩ token = .ok ([item], ⟨pending, frames, some token⟩)) :
    Reads level [token] [item] := by
  intro pending frames previous rest ready _ _
  rw [List.singleton_append, run_cons rest (step pending frames previous ready),
    run_endsOperand ends]

theorem reads_binary {level : Nat} {op : Operator} {leftTokens rightTokens : List Token}
    {leftItems rightItems : List Item} (binds : level ≤ op.precedence)
    (left : Reads op.precedence leftTokens leftItems)
    (right : Reads (op.precedence + 1) rightTokens rightItems) :
    Reads level (leftTokens ++ .operator op :: rightTokens)
      (leftItems ++ rightItems ++ [.operator op]) := by
  intro pending frames previous rest ready holds ends
  have closed : Ready (some .closeParen) := ready_some (by simp)
  have opened : Ready (some (.operator op)) := ready_some (by simp)
  have below : Holds op.precedence pending := holds.mono binds
  have above : Holds (op.precedence + 1) (.operator op :: pending) := Nat.lt_succ_self _
  have after : Ends op.precedence rest := ends.mono binds
  calc
    Yard.run ⟨pending, frames, previous⟩ ((leftTokens ++ .operator op :: rightTokens) ++ rest)
    _ = emit leftItems (Yard.run ⟨pending, frames, some .closeParen⟩
          (.operator op :: (rightTokens ++ rest))) := by
      rw [List.append_assoc, List.cons_append]
      exact left pending frames previous _ ready below (Nat.le_refl _)
    _ = emit leftItems (Yard.run ⟨.operator op :: pending, frames, some (.operator op)⟩
          (rightTokens ++ rest)) := by
      rw [run_cons _ (step_operator pending frames _ closed below), emit_nil]
    _ = emit (leftItems ++ rightItems)
          (Yard.run ⟨.operator op :: pending, frames, some .closeParen⟩ rest) := by
      rw [right _ frames _ rest opened above (after.mono (Nat.le_succ _)), emit_emit]
    _ = emit (leftItems ++ rightItems ++ [.operator op])
          (Yard.run ⟨pending, frames, some .closeParen⟩ rest) := by
      rw [run_release after, emit_emit]

theorem reads_parentheses {level : Nat} {tokens : List Token} {items : List Item}
    (inner : Reads 0 tokens items) :
    Reads level (.openParen :: (tokens ++ [.closeParen])) items := by
  intro pending frames previous rest ready _ _
  have opened : Ready (some .openParen) := ready_some (by simp)
  have closes : Yard.step ⟨.openParen :: pending, ⟨false, 0⟩ :: frames, some .closeParen⟩
      .closeParen = .ok ([], ⟨pending, frames, some .closeParen⟩) := rfl
  rw [List.cons_append, List.append_assoc, List.singleton_append,
    run_cons _ (step_openParen pending frames previous ready), emit_nil,
    inner _ _ _ (.closeParen :: rest) opened (holds_openParen 0 pending) trivial,
    run_cons rest closes, emit_nil]

def ReadsArguments (tokens : List Token) (items : List Item) (count : Nat) : Prop :=
  ∀ (function : String) (pending : List Pending) (frames : List Frame) (commas : Nat)
    (previous : Option Token) (rest : List Token), Ready previous →
    Yard.run ⟨.openParen :: .function function :: pending, ⟨true, commas⟩ :: frames, previous⟩
        (tokens ++ .closeParen :: rest) =
      emit (items ++ [.call function (commas + count)])
        (Yard.run ⟨pending, frames, some .closeParen⟩ rest)

theorem readsArguments_last {tokens : List Token} {items : List Item}
    (only : Reads 0 tokens items) :
    ReadsArguments tokens items 1 := by
  intro function pending frames commas previous rest ready
  have closes : Yard.step ⟨.openParen :: .function function :: pending, ⟨true, commas⟩ :: frames,
      some .closeParen⟩ .closeParen =
      .ok ([.call function (commas + 1)], ⟨pending, frames, some .closeParen⟩) := rfl
  rw [only _ _ _ (.closeParen :: rest) ready (holds_openParen 0 _) trivial, run_cons rest closes,
    emit_emit]

theorem readsArguments_more {tokens later : List Token} {items laterItems : List Item} {count : Nat}
    (first : Reads 0 tokens items) (others : ReadsArguments later laterItems count) :
    ReadsArguments (tokens ++ .comma :: later) (items ++ laterItems) (count + 1) := by
  intro function pending frames commas previous rest ready
  have separates : Yard.step ⟨.openParen :: .function function :: pending, ⟨true, commas⟩ :: frames,
      some .closeParen⟩ .comma =
      .ok ([], ⟨.openParen :: .function function :: pending, ⟨true, commas + 1⟩ :: frames,
        some .comma⟩) := rfl
  have separated : Ready (some .comma) := ready_some (by simp)
  rw [List.append_assoc, List.cons_append,
    first _ _ _ (.comma :: _) ready (holds_openParen 0 _) trivial,
    run_cons _ separates, emit_nil, others function pending frames (commas + 1) _ rest separated,
    emit_emit]
  simp only [List.append_assoc, Nat.add_comm, Nat.add_left_comm]

theorem run_call (function : String) (rest : List Token) (ready : Ready previous) :
    Yard.run ⟨pending, frames, previous⟩ (.function function :: .openParen :: rest) =
      Yard.run ⟨.openParen :: .function function :: pending, ⟨true, 0⟩ :: frames, some .openParen⟩
        rest := by
  have named : Yard.step ⟨pending, frames, previous⟩ (.function function) =
      .ok ([], ⟨.function function :: pending, frames, some (.function function)⟩) := by
    simp only [step, checkCall_ready ready]
    rfl
  rw [run_cons _ named, emit_nil, run_cons rest rfl, emit_nil]

theorem reads_call {level : Nat} {function : String} {tokens : List Token} {items : List Item}
    {count : Nat} (arguments : ReadsArguments tokens items count) :
    Reads level (.function function :: .openParen :: (tokens ++ [.closeParen]))
      (items ++ [.call function count]) := by
  intro pending frames previous rest ready _ _
  have opened : Ready (some .openParen) := ready_some (by simp)
  simp only [List.cons_append, List.append_assoc, List.nil_append]
  rw [run_call pending frames previous function _ ready,
    arguments function pending frames 0 _ rest opened, Nat.zero_add]

theorem reads_emptyCall {level : Nat} {function : String} :
    Reads level [.function function, .openParen, .closeParen] [.call function 0] := by
  intro pending frames previous rest ready _ _
  have closes : Yard.step ⟨.openParen :: .function function :: pending, ⟨true, 0⟩ :: frames,
      some .openParen⟩ .closeParen =
      .ok ([.call function 0], ⟨pending, frames, some .closeParen⟩) := rfl
  simp only [List.cons_append, List.nil_append]
  rw [run_call pending frames previous function _ ready, run_cons rest closes]

end Yard

mutual

theorem Written.reads {level : Nat} {expression : Expression} {tokens : List Token}
    (written : Written level expression tokens) :
    Yard.Reads level tokens expression.postfixOrder := by
  match written with
  | .number _ =>
    apply Yard.reads_operand rfl
    intro pending frames previous ready
    simp only [Yard.step, Yard.checkCall_ready ready]
    rfl
  | .reference _ =>
    apply Yard.reads_operand rfl
    intro pending frames previous ready
    simp only [Yard.step, Yard.checkCall_ready ready]
    rfl
  | .binary binds left right => exact Yard.reads_binary binds left.reads right.reads
  | .group inner => exact Yard.reads_parentheses inner.reads
  | .parentheses inner => exact Yard.reads_parentheses inner.reads
  | .call _ arguments =>
    have read := arguments.reads
    cases arguments with
    | none => exact Yard.reads_emptyCall
    | last => exact Yard.reads_call (read (by simp))
    | more => exact Yard.reads_call (read (by simp))

theorem WrittenArguments.reads {expressions : List Expression} {tokens : List Token}
    (written : WrittenArguments expressions tokens) (nonempty : expressions ≠ []) :
    Yard.ReadsArguments tokens (Expression.postfixOrders expressions) expressions.length := by
  match written with
  | .none => exact absurd rfl nonempty
  | .last only => simpa [Expression.postfixOrders] using Yard.readsArguments_last only.reads
  | .more first others => exact Yard.readsArguments_more first.reads (others.reads (by simp))

end

theorem toPostfix_written {level : Nat} {expression : Expression} {tokens : List Token}
    (written : Written level expression tokens) :
    toPostfix tokens = .ok expression.postfixOrder := by
  have ready : Yard.Ready none := by
    intro name same
    cases same
  have read := written.reads [] [] none [] ready trivial trivial
  rw [List.append_nil] at read
  exact read.trans (by simp [emit, Yard.run, Yard.finish, Except.map])

end Scorekeeper.Formula
