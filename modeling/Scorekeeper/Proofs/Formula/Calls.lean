import Mathlib.Data.List.Infix
import Scorekeeper.Proofs.Formula.Lossless
import Scorekeeper.Proofs.Formula.Sign
import Scorekeeper.Proofs.Formula.Yard

set_option autoImplicit false

/-!
# Calls and their arguments

What follows the name of a function is checked by its text alone, so a reference called `(` passes
for a parenthesis.  Every function that has a parenthesis is let go where that closes, as a call of
as many arguments as the commas in there separate.  One that has a reference in its place waits like
an operator and becomes a call without arguments where the tokens around it end.
-/

namespace Scorekeeper.Formula

inductive Use
  | call (function : String) (arguments : List (List Token))
  | bare (function : String)

def Use.isCall : Use → Bool
  | .call _ _ => true
  | .bare _ => false

def Use.item : Use → Item
  | .call function arguments => .call function arguments.length
  | .bare function => .call function 0

def Item.isCall : Item → Bool
  | .call _ _ => true
  | _ => false

mutual

/-- Tokens without a comma outside parentheses: the functions in them in the order in which they are
let go, and those that still wait when the tokens end, the last one first. -/
inductive Stretch : List Token → List Use → List String → Prop
  | nil : Stretch [] [] []
  | operand {token : Token} {rest : List Token} {uses : List Use} {waiting : List String}
      (plain : token.isOperand = true) (later : Stretch rest uses waiting) :
      Stretch (token :: rest) uses waiting
  | operator {rest : List Token} {uses : List Use} {waiting : List String} (op : Operator)
      (later : Stretch rest uses waiting) : Stretch (.operator op :: rest) uses waiting
  | bare {rest : List Token} {uses : List Use} {waiting : List String} (function : String)
      (later : Stretch rest uses waiting) :
      Stretch (.function function :: .reference "(" :: rest) uses (waiting ++ [function])
  | group {inner rest : List Token} {uses more : List Use} {left waiting : List String}
      (inside : Stretch inner uses left) (later : Stretch rest more waiting) :
      Stretch (.openParen :: (inner ++ .closeParen :: rest)) (uses ++ left.map .bare ++ more)
        waiting
  | call {arguments : List (List Token)} {rest : List Token} {uses more : List Use}
      {waiting : List String} (function : String) (inside : Arguments arguments uses)
      (later : Stretch rest more waiting) :
      Stretch (.function function :: .openParen ::
          ([Token.comma].intercalate arguments ++ .closeParen :: rest))
        (uses ++ .call function arguments :: more) waiting

inductive Arguments : List (List Token) → List Use → Prop
  | nil : Arguments [] []
  | cons {argument : List Token} {arguments : List (List Token)} {uses more : List Use}
      {left : List String} (filled : argument ≠ []) (first : Stretch argument uses left)
      (others : Arguments arguments more) :
      Arguments (argument :: arguments) (uses ++ left.map .bare ++ more)

end

theorem Stretch.append {front back : List Token} {uses more : List Use}
    {left waiting : List String} (first : Stretch front uses left)
    (later : Stretch back more waiting) :
    Stretch (front ++ back) (uses ++ more) (waiting ++ left) := by
  match first with
  | .nil => simpa using later
  | .operand plain rest => exact .operand plain (rest.append later)
  | .operator op rest => exact .operator op (rest.append later)
  | .bare function rest =>
    rw [← List.append_assoc]
    exact .bare function (rest.append later)
  | .group inside rest =>
    rw [List.cons_append, List.append_assoc, List.cons_append, List.append_assoc]
    exact .group inside (rest.append later)
  | .call function inside rest =>
    rw [List.cons_append, List.cons_append, List.append_assoc, List.cons_append,
      List.append_assoc, List.cons_append]
    exact .call function inside (rest.append later)

theorem Arguments.concat {arguments : List (List Token)} {argument : List Token}
    {uses more : List Use} {left : List String} (earlier : Arguments arguments uses)
    (filled : argument ≠ []) (last : Stretch argument more left) :
    Arguments (arguments ++ [argument]) (uses ++ (more ++ left.map .bare)) := by
  match earlier with
  | .nil => simpa using Arguments.cons filled last .nil
  | .cons nonempty first others =>
    rw [List.append_assoc]
    exact .cons nonempty first (others.concat filled last)

theorem intercalate_concat (arguments : List (List Token)) (argument : List Token) :
    [Token.comma].intercalate (arguments ++ [argument]) =
      arguments.flatMap (· ++ [.comma]) ++ argument := by
  induction arguments with
  | nil => exact List.intercalate_singleton
  | cons first rest ih =>
    rw [List.cons_append, List.intercalate_cons_of_ne_nil (by simp), ih, List.flatMap_cons,
      List.append_assoc (first ++ [Token.comma])]

theorem infix_intercalate {arguments : List (List Token)} {argument : List Token}
    (member : argument ∈ arguments) : argument <:+: [Token.comma].intercalate arguments := by
  induction arguments with
  | nil => cases member
  | cons first rest ih =>
    by_cases last : rest = []
    · subst last
      rw [List.mem_singleton.1 member, List.intercalate_singleton]
    · rw [List.intercalate_cons_of_ne_nil last]
      rcases List.mem_cons.1 member with rfl | member
      · rw [List.append_assoc]
        exact (List.prefix_append _ _).isInfix
      · exact (ih member).trans (List.suffix_append _ _).isInfix

def Token.leads : Token → Bool
  | .function _ | .openParen | .comma => true
  | _ => false

theorem lexical_resolveSigns {tokens : List Token}
    (lexical : ∀ token ∈ tokens, token.isLexical = true) :
    ∀ token ∈ resolveSigns tokens, token.isLexical = true := by
  intro token member
  rcases List.mem_cons.1 ((resolves_iff.2 rfl).subset member) with rfl | given
  · rfl
  · exact lexical token given

theorem Token.text_eq_iff {token : Token} (lexical : token.isLexical = true) :
    token.text = "(" ↔ token = .openParen ∨ token = .reference "(" := by
  cases token with
  | number text =>
    refine iff_of_false ?_ (by simp)
    rintro rfl
    cases lexical
  | function name =>
    refine iff_of_false ?_ (by simp)
    rintro rfl
    cases lexical
  | operator op => cases op <;> simp [text, Operator.symbol]
  | _ => simp [text]

namespace Yard

/-- What waits above what waited when the tokens were `opened`: operators, and these functions. -/
inductive Waits (opened : List Pending) : List Pending → List String → Prop
  | none : Waits opened opened []
  | operator {pending : List Pending} {functions : List String} (op : Operator)
      (waits : Waits opened pending functions) : Waits opened (.operator op :: pending) functions
  | function {pending : List Pending} {functions : List String} (function : String)
      (waits : Waits opened pending functions) :
      Waits opened (.function function :: pending) (function :: functions)

section

variable {opened pending : List Pending} {functions : List String}

theorem Waits.of_yields (op : Operator) (stops : ∀ waiting ∈ opened.head?, waiting = .openParen)
    (waits : Waits opened pending functions) :
    Waits opened (release (Pending.yieldsTo op) pending).2 functions ∧
      (release (Pending.yieldsTo op) pending).1.filter Item.isCall = [] := by
  induction waits with
  | none =>
    rw [release_of_stops fun first found => by rw [stops first found]; rfl]
    exact ⟨.none, rfl⟩
  | operator waiting waits ih =>
    rw [release_cons]
    split
    · exact ih
    · exact ⟨.operator waiting waits, rfl⟩
  | function function waits => exact ⟨.function function waits, rfl⟩

theorem Waits.of_inside (stops : ∀ waiting ∈ opened.head?, waiting = .openParen)
    (waits : Waits opened pending functions) :
    (release Pending.inside pending).2 = opened ∧
      (release Pending.inside pending).1.filter Item.isCall =
        (functions.map .bare).map Use.item := by
  induction waits with
  | none =>
    rw [release_of_stops fun first found => by rw [stops first found]; rfl]
    exact ⟨rfl, rfl⟩
  | operator op waits ih => exact ih
  | function function waits ih => exact ⟨ih.1, congrArg (List.cons (Item.call function 0)) ih.2⟩

theorem Waits.items (waits : Waits [] pending functions) :
    (pending.filterMap Pending.item?).filter Item.isCall = (functions.map .bare).map Use.item := by
  obtain ⟨none, calls⟩ := waits.of_inside (by simp)
  have whole : pending.takeWhile Pending.inside = pending :=
    List.takeWhile_eq_self_iff.2 (List.dropWhile_eq_nil_iff.1 none)
  rwa [release, whole] at calls

end

/-- The tokens up to the innermost parenthesis that is open, and in a call up to the last comma of
it: the functions let go by then, what waits and is open, and the last of the tokens. -/
inductive Around : List Token → List Use → List Pending → List Frame → Option Token → Prop
  | nothing : Around [] [] [] [] none
  | group {outer tokens : List Token} {before uses : List Use} {opened pending : List Pending}
      {frames : List Frame} {start : Option Token} {waiting : List String}
      (outside : Around outer before opened frames start) (stretch : Stretch tokens uses waiting)
      (waits : Waits opened pending waiting) :
      Around (outer ++ tokens ++ [.openParen]) (before ++ uses) (.openParen :: pending)
        (⟨false, 0⟩ :: frames) (some .openParen)
  | call {outer tokens : List Token} {before uses inside : List Use}
      {opened pending : List Pending} {frames : List Frame} {start : Option Token}
      {waiting : List String} (function : String) (arguments : List (List Token))
      (outside : Around outer before opened frames start) (stretch : Stretch tokens uses waiting)
      (waits : Waits opened pending waiting) (filled : Arguments arguments inside) :
      Around (outer ++ tokens ++
          .function function :: .openParen :: arguments.flatMap (· ++ [.comma]))
        (before ++ uses ++ inside) (.openParen :: .function function :: pending)
        (⟨true, arguments.length⟩ :: frames)
        (some (if arguments = [] then .openParen else .comma))

-- The tokens are those around the innermost parenthesis and a stretch within it.
inductive Reading : List Token → List Use → Yard → Prop
  | within {outer tokens : List Token} {before uses : List Use} {opened pending : List Pending}
      {frames : List Frame} {start previous : Option Token} {waiting : List String}
      (around : Around outer before opened frames start) (stretch : Stretch tokens uses waiting)
      (waits : Waits opened pending waiting)
      (last : tokens = [] ∧ previous = start ∨
        tokens ≠ [] ∧ previous.any Token.leads = false) :
      Reading (outer ++ tokens) (before ++ uses) ⟨pending, frames, previous⟩

theorem Around.stops {tokens : List Token} {uses : List Use} {opened : List Pending}
    {frames : List Frame} {start : Option Token} (around : Around tokens uses opened frames start) :
    ∀ waiting ∈ opened.head?, waiting = .openParen := by
  cases around <;> simp

theorem Around.start_ne {tokens : List Token} {uses : List Use} {opened : List Pending}
    {frames : List Frame} {start : Option Token} (around : Around tokens uses opened frames start)
    (function : String) : start ≠ some (.function function) := by
  cases around with
  | nothing => simp
  | group => simp
  | call => split <;> simp

theorem Reading.opensCall {tokens : List Token} {uses : List Use} {yard : Yard}
    (reading : Reading tokens uses yard) : yard.opensCall = false := by
  obtain ⟨around, -, -, last⟩ := reading
  rw [Yard.opensCall]
  split
  · rename_i function same
    rcases last with ⟨-, starts⟩ | ⟨-, ends⟩
    · exact absurd (starts.symm.trans same) (around.start_ne function)
    · subst same
      cases ends
  · rfl

section

variable {outer tokens more : List Token} {before uses made : List Use}
  {opened pending left : List Pending} {frames : List Frame} {start : Option Token} {commas : Nat}
  {waiting names : List String} {items : List Item}

theorem Around.extend (around : Around outer before opened frames start)
    (stretch : Stretch tokens uses waiting) (next : Stretch more made names) (filled : more ≠ [])
    (waits : Waits opened pending (names ++ waiting)) (last : Token) (ends : last.leads = false) :
    Reading (outer ++ tokens ++ more) (before ++ uses ++ made) ⟨pending, frames, some last⟩ := by
  rw [List.append_assoc, List.append_assoc]
  exact .within around (stretch.append next) waits
    (.inr ⟨List.append_ne_nil_of_right_ne_nil tokens filled, ends⟩)

theorem Around.closeGroup (around : Around outer before opened (⟨false, commas⟩ :: frames) start)
    (stretch : Stretch tokens uses waiting) (waits : Waits opened pending waiting)
    (released : release Pending.inside pending = (items, .openParen :: left)) :
    Reading (outer ++ tokens ++ [.closeParen]) (before ++ uses ++ waiting.map .bare)
        ⟨left, frames, some .closeParen⟩ ∧
      items.filter Item.isCall = (waiting.map .bare).map Use.item := by
  obtain ⟨found, calls⟩ := waits.of_inside around.stops
  rw [released] at found calls
  cases around with
  | group outside earlier below =>
    cases found
    refine ⟨?_, calls⟩
    have group := outside.extend earlier (.group stretch .nil) (List.cons_ne_nil _ _) below
      .closeParen rfl
    simpa using group

theorem Around.closeCall {function : String} {previous : Option Token}
    (around : Around outer before opened (⟨true, commas⟩ :: frames) start)
    (stretch : Stretch tokens uses waiting) (waits : Waits opened pending waiting)
    (last : tokens = [] ∧ previous = start ∨ tokens ≠ [] ∧ previous.any Token.leads = false)
    (filled : previous ≠ some .comma)
    (released : release Pending.inside pending =
      (items, .openParen :: .function function :: left)) :
    ∃ arguments, Reading (outer ++ tokens ++ [.closeParen])
        (before ++ uses ++ (waiting.map .bare ++ [.call function arguments]))
        ⟨left, frames, some .closeParen⟩ ∧
      items.filter Item.isCall = (waiting.map .bare).map Use.item ∧
      (if previous = some .openParen then 0 else commas + 1) = arguments.length := by
  obtain ⟨found, calls⟩ := waits.of_inside around.stops
  rw [released] at found calls
  cases around with
  | call name arguments outside earlier below inside =>
    cases found
    rcases last with ⟨rfl, rfl⟩ | ⟨nonempty, ends⟩
    · -- With nothing since the last comma the parenthesis is refused, so there was no comma.
      cases stretch
      obtain rfl : arguments = [] := by
        by_contra some
        rw [if_neg some] at filled
        exact filled rfl
      refine ⟨[], ?_, calls, rfl⟩
      have call := outside.extend earlier (.call function inside .nil) (List.cons_ne_nil _ _) below
        .closeParen rfl
      simpa using call
    · refine ⟨arguments ++ [tokens], ?_, calls, ?_⟩
      · have call := outside.extend earlier (.call function (inside.concat nonempty stretch) .nil)
          (List.cons_ne_nil _ _) below .closeParen rfl
        rw [intercalate_concat] at call
        simpa using call
      · rw [if_neg, List.length_append]
        · rfl
        · rintro rfl
          cases ends

theorem Around.comma {previous : Option Token}
    (around : Around outer before opened (⟨true, commas⟩ :: frames) start)
    (stretch : Stretch tokens uses waiting) (waits : Waits opened pending waiting)
    (last : tokens = [] ∧ previous = start ∨ tokens ≠ [] ∧ previous.any Token.leads = false)
    (filled : ¬ (previous = some .comma ∨ previous = some .openParen))
    (released : release Pending.inside pending = (items, left)) :
    Reading (outer ++ tokens ++ [.comma]) (before ++ uses ++ waiting.map .bare)
        ⟨left, ⟨true, commas + 1⟩ :: frames, some .comma⟩ ∧
      items.filter Item.isCall = (waiting.map .bare).map Use.item := by
  obtain ⟨found, calls⟩ := waits.of_inside around.stops
  rw [released] at found calls
  subst found
  cases around with
  | call name arguments outside earlier below inside =>
    refine ⟨?_, calls⟩
    rcases last with ⟨-, rfl⟩ | ⟨nonempty, -⟩
    · split at filled <;> simp at filled
    · have around := Around.call name _ outside earlier below (inside.concat nonempty stretch)
      have reading := Reading.within around .nil .none (.inl ⟨rfl, rfl⟩)
      simpa using reading

end

theorem Reading.step {tokens : List Token} {uses : List Use} {yard next : Yard} {token : Token}
    {items : List Item} (reading : Reading tokens uses yard)
    (other : ∀ function, token ≠ .function function) (step : yard.step token = .ok (items, next)) :
    ∃ more, Reading (tokens ++ [token]) (uses ++ more) next ∧
      items.filter Item.isCall = more.map Use.item := by
  have call := reading.opensCall
  obtain ⟨pending, frames, rfl, shifts⟩ := shifts_of_step step
  obtain ⟨around, stretch, waits, last⟩ := reading
  cases shifts with
  | number text =>
    exact ⟨[], around.extend stretch (.operand rfl .nil) (List.cons_ne_nil _ _) waits _ rfl, rfl⟩
  | reference name =>
    exact ⟨[], around.extend stretch (.operand rfl .nil) (List.cons_ne_nil _ _) waits _ rfl, rfl⟩
  | function name => exact absurd rfl (other name)
  | operator op released =>
    obtain ⟨left, calls⟩ := waits.of_yields op around.stops
    rw [released] at left calls
    exact ⟨[], around.extend stretch (.operator op .nil) (List.cons_ne_nil _ _) (.operator op left)
      _ rfl, calls⟩
  | openParen =>
    have opened := Reading.within (around.group stretch waits) .nil .none (.inl ⟨rfl, rfl⟩)
    rw [call]
    exact ⟨[], by simpa using opened, rfl⟩
  | closeGroup was released =>
    cases was
    exact ⟨_, around.closeGroup stretch waits released⟩
  | closeCall was filled released =>
    cases was
    obtain ⟨arguments, closed, calls, count⟩ :=
      around.closeCall stretch waits last filled released
    refine ⟨_, closed, ?_⟩
    rw [List.filter_append, calls, count, List.map_append]
    rfl
  | comma was filled released =>
    cases was
    exact ⟨_, around.comma stretch waits last filled released⟩

theorem reading_start : Reading [] [] .start :=
  .within .nothing .nil .none (.inl ⟨rfl, rfl⟩)

theorem exists_next_of_run {yard : Yard} {function : String} {rest : List Token} {items : List Item}
    (named : yard.previous = some (.function function)) (runs : yard.run rest = .ok items) :
    ∃ next later, rest = next :: later ∧ next.text = "(" := by
  cases rest with
  | nil =>
    rw [run, finish, named] at runs
    cases runs
  | cons next later =>
    refine ⟨next, later, rfl, ?_⟩
    obtain ⟨_, _, _, step, -, -⟩ := run_cons_eq_ok runs
    obtain ⟨_, checked, -⟩ := bind_eq_ok_iff.1 step
    rw [named, checkCall] at checked
    split at checked
    · assumption
    · cases checked

theorem Reading.function {tokens rest : List Token} {uses : List Use} {yard : Yard}
    {function : String} {items : List Item} (reading : Reading tokens uses yard)
    (lexical : ∀ token ∈ rest, token.isLexical = true)
    (runs : yard.run (.function function :: rest) = .ok items) :
    ∃ last later next left, rest = last :: later ∧ next.run later = .ok left ∧
      Reading (tokens ++ [.function function, last]) uses next ∧
      items.filter Item.isCall = left.filter Item.isCall := by
  obtain ⟨_, named, after, step, ran, rfl⟩ := run_cons_eq_ok runs
  obtain ⟨_, _, rfl, shifts⟩ := shifts_of_step step
  cases shifts
  obtain ⟨last, later, rfl, reads⟩ := exists_next_of_run rfl ran
  obtain ⟨released, next, left, step, ran, rfl⟩ := run_cons_eq_ok ran
  obtain ⟨pending, frames, rfl, shifts⟩ := shifts_of_step step
  obtain ⟨around, stretch, waits, -⟩ := reading
  rcases (Token.text_eq_iff (lexical last List.mem_cons_self)).1 reads with rfl | rfl
  · cases shifts
    have opened := Reading.within (around.call function [] stretch waits .nil) .nil .none
      (.inl ⟨rfl, rfl⟩)
    exact ⟨_, later, _, left, rfl, ran, by simpa [Yard.opensCall] using opened, rfl⟩
  · cases shifts
    have bare := around.extend stretch (.bare function .nil) (List.cons_ne_nil _ _)
      (.function function waits) (.reference "(") rfl
    exact ⟨_, later, _, left, rfl, ran, by simpa using bare, rfl⟩

theorem Reading.run {tokens rest : List Token} {uses : List Use} {yard : Yard} {items : List Item}
    (reading : Reading tokens uses yard) (lexical : ∀ token ∈ rest, token.isLexical = true)
    (runs : yard.run rest = .ok items) :
    ∃ more waiting, Stretch (tokens ++ rest) more waiting ∧
      uses.map Use.item ++ items.filter Item.isCall =
        (more ++ waiting.map Use.bare).map Use.item := by
  -- The name of a function is read with what follows it, so the recursion is on the length.
  match rest with
  | [] =>
    obtain ⟨closed, rfl⟩ := finish_eq_ok runs
    obtain ⟨around, stretch, waits, -⟩ := reading
    cases closed
    cases around
    refine ⟨_, _, by simpa using stretch, ?_⟩
    rw [waits.items, List.nil_append, List.map_append]
  | token :: rest =>
    rw [List.forall_mem_cons] at lexical
    by_cases named : ∃ function, token = .function function
    · obtain ⟨function, rfl⟩ := named
      obtain ⟨last, later, next, left, rfl, ran, read, same⟩ := reading.function lexical.2 runs
      rw [List.forall_mem_cons] at lexical
      obtain ⟨more, waiting, stretch, calls⟩ := read.run lexical.2.2 ran
      exact ⟨more, waiting, by simpa using stretch, same ▸ calls⟩
    · obtain ⟨released, next, later, step, ran, rfl⟩ := run_cons_eq_ok runs
      obtain ⟨made, read, calls⟩ := reading.step (not_exists.1 named) step
      obtain ⟨more, waiting, stretch, others⟩ := read.run lexical.2 ran
      refine ⟨more, waiting, by simpa using stretch, ?_⟩
      rw [← others, List.filter_append, calls, List.map_append, List.append_assoc]
termination_by rest.length

theorem exists_run_of_append {yard : Yard} {front back : List Token} {items : List Item}
    (runs : yard.run (front ++ back) = .ok items) :
    ∃ (next : Yard) (later : List Item), next.run back = .ok later := by
  induction front generalizing yard items with
  | nil => exact ⟨yard, items, runs⟩
  | cons token rest ih =>
    obtain ⟨_, next, later, -, ran, -⟩ := run_cons_eq_ok runs
    exact ih ran

end Yard

theorem exists_next_of_toPostfix {before after : List Token} {function : String}
    {items : List Item} (ordered : toPostfix (before ++ .function function :: after) = .ok items) :
    ∃ next later, after = next :: later ∧ next.text = "(" := by
  obtain ⟨yard, left, runs⟩ := Yard.exists_run_of_append ordered
  obtain ⟨_, next, later, step, ran, -⟩ := Yard.run_cons_eq_ok runs
  obtain ⟨_, _, rfl, -⟩ := Yard.shifts_of_step step
  exact Yard.exists_next_of_run rfl ran

theorem exists_stretch_of_toPostfix {tokens : List Token} {items : List Item}
    (lexical : ∀ token ∈ tokens, token.isLexical = true) (ordered : toPostfix tokens = .ok items) :
    ∃ uses waiting, Stretch tokens uses waiting ∧
      items.filter Item.isCall = (uses ++ waiting.map Use.bare).map Use.item := by
  obtain ⟨uses, waiting, stretch, calls⟩ := Yard.reading_start.run lexical ordered
  exact ⟨uses, waiting, stretch, calls⟩

/-- Nowhere does a reference called `(` come right after the name of a function. -/
def Unmistaken (tokens : List Token) : Prop :=
  ∀ function, ¬ [.function function, .reference "("] <:+: tokens

theorem Unmistaken.of_infix {part tokens : List Token} (clear : Unmistaken tokens)
    (within : part <:+: tokens) : Unmistaken part :=
  fun function found => clear function (found.trans within)

mutual

theorem Stretch.called {tokens : List Token} {uses : List Use} {waiting : List String}
    (stretch : Stretch tokens uses waiting) (clear : Unmistaken tokens) :
    (∀ use ∈ uses, use.isCall = true) ∧ waiting = [] := by
  match stretch with
  | .nil => exact ⟨by simp, rfl⟩
  | .operand _ later => exact later.called (clear.of_infix (List.suffix_cons _ _).isInfix)
  | .operator _ later => exact later.called (clear.of_infix (List.suffix_cons _ _).isInfix)
  | .bare function later => exact absurd ⟨[], _, rfl⟩ (clear function)
  | @Stretch.group inner rest _ _ _ _ inside later =>
    obtain ⟨within, rfl⟩ := inside.called (clear.of_infix (List.infix_append' [_] inner _))
    obtain ⟨after, rfl⟩ := later.called
      (clear.of_infix ⟨.openParen :: (inner ++ [.closeParen]), [], by simp⟩)
    rw [List.map_nil, List.append_nil]
    exact ⟨List.forall_mem_append.2 ⟨within, after⟩, rfl⟩
  | @Stretch.call arguments rest _ _ _ function inside later =>
    have within := inside.called fun argument member => clear.of_infix
      ((infix_intercalate member).trans (List.infix_append' [_, _] _ _))
    obtain ⟨after, rfl⟩ := later.called (clear.of_infix
      ⟨.function function :: .openParen :: ([Token.comma].intercalate arguments ++ [.closeParen]),
        [], by simp⟩)
    exact ⟨List.forall_mem_append.2 ⟨within, List.forall_mem_cons.2 ⟨rfl, after⟩⟩, rfl⟩

theorem Arguments.called {arguments : List (List Token)} {uses : List Use}
    (filled : Arguments arguments uses) (clear : ∀ argument ∈ arguments, Unmistaken argument) :
    ∀ use ∈ uses, use.isCall = true := by
  match filled with
  | .nil => simp
  | .cons _ first others =>
    rw [List.forall_mem_cons] at clear
    obtain ⟨within, rfl⟩ := first.called clear.1
    rw [List.map_nil, List.append_nil]
    exact List.forall_mem_append.2 ⟨within, others.called clear.2⟩

end

structure Called (tokens : List Token) (items : List Item) : Prop where
  opened : ∀ before function after, tokens = before ++ .function function :: after →
    after.head? = some .openParen
  counted : ∃ calls, Stretch tokens calls [] ∧ (∀ use ∈ calls, use.isCall = true) ∧
    items.filter Item.isCall = calls.map Use.item

theorem called_iff_unmistaken (formula : String) (tokens : List Token) (items : List Item)
    (read : tokenize formula = .ok tokens) (ordered : toPostfix (resolveSigns tokens) = .ok items) :
    (∃ uses waiting, Stretch (resolveSigns tokens) uses waiting ∧
      items.filter Item.isCall = (uses ++ waiting.map Use.bare).map Use.item) ∧
    (Called (resolveSigns tokens) items ↔ Unmistaken (resolveSigns tokens)) := by
  have lexical := lexical_resolveSigns (scanned_of_scan read).lexical
  obtain ⟨uses, waiting, stretch, counted⟩ := exists_stretch_of_toPostfix lexical ordered
  refine ⟨⟨uses, waiting, stretch, counted⟩, ?_, ?_⟩
  · rintro called function ⟨before, after, split⟩
    rw [List.append_assoc] at split
    cases called.opened before function _ split.symm
  · intro clear
    obtain ⟨calls, rfl⟩ := stretch.called clear
    rw [List.map_nil, List.append_nil] at counted
    refine ⟨?_, uses, stretch, calls, counted⟩
    intro before function after split
    rw [split] at ordered lexical clear
    obtain ⟨next, later, rfl, reads⟩ := exists_next_of_toPostfix ordered
    rcases (Token.text_eq_iff (lexical next (by simp))).1 reads with rfl | rfl
    · rfl
    · exact absurd ⟨before, later, by simp⟩ (clear function)

theorem called_iff_unmistaken_nested :
    tokenize "max(-{a},min(2,(3)),round())" = .ok [.function "max", .openParen, .operator .minus,
        .reference "a", .comma, .function "min", .openParen, .number "2", .comma, .openParen,
        .number "3", .closeParen, .closeParen, .comma, .function "round", .openParen, .closeParen,
        .closeParen] ∧
      Called (resolveSigns [.function "max", .openParen, .operator .minus, .reference "a", .comma,
          .function "min", .openParen, .number "2", .comma, .openParen, .number "3", .closeParen,
          .closeParen, .comma, .function "round", .openParen, .closeParen, .closeParen])
        [.number "0", .reference "a", .operator .minus, .number "2", .number "3", .call "min" 2,
          .call "round" 0, .call "max" 3] := by
  have read : tokenize "max(-{a},min(2,(3)),round())" = .ok [.function "max", .openParen,
      .operator .minus, .reference "a", .comma, .function "min", .openParen, .number "2", .comma,
      .openParen, .number "3", .closeParen, .closeParen, .comma, .function "round", .openParen,
      .closeParen, .closeParen] := by
    rw [tokenize, show "max(-{a},min(2,(3)),round())".toList = ['m', 'a', 'x', '(', '-', '{', 'a',
      '}', ',', 'm', 'i', 'n', '(', '2', ',', '(', '3', ')', ')', ',', 'r', 'o', 'u', 'n', 'd', '(',
      ')', ')'] by decide]
    repeat first
      | exact scan_nil
      | refine scan_cons rfl rfl ?_
  refine ⟨read, (called_iff_unmistaken _ _ _ read rfl).2.2 fun function found => ?_⟩
  exact absurd (found.subset (List.mem_cons_of_mem _ List.mem_cons_self)) (by decide)

theorem not_called_max :
    tokenize "max\x7b(\x7d" = .ok [.function "max", .reference "("] ∧
      toPostfix (resolveSigns [.function "max", .reference "("]) =
        .ok [.reference "(", .call "max" 0] ∧
      ¬ Called (resolveSigns [.function "max", .reference "("])
        [.reference "(", .call "max" 0] := by
  refine ⟨?_, rfl, fun called => ?_⟩
  · rw [tokenize, show "max\x7b(\x7d".toList = ['m', 'a', 'x', '{', '(', '}'] by decide]
    repeat first
      | exact scan_nil
      | refine scan_cons rfl rfl ?_
  · cases called.opened [] "max" [.reference "("] rfl

end Scorekeeper.Formula
