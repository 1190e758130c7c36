import Scorekeeper.Proofs.Formula.Lossless
import Scorekeeper.Proofs.Formula.Yard

set_option autoImplicit false

/-!
# What a closing parenthesis finds

A closing parenthesis takes from what waits whatever stands above a parenthesis, that parenthesis
and, for a call, what stands under it, without a look at any of them.  It finds there its own
partner, put there when that was read and never touched since, and the function of the call.
-/

namespace Scorekeeper.Formula

inductive Balanced : List Token → Prop
  | nil : Balanced []
  | token {token : Token} {rest : List Token} (opens : token ≠ .openParen)
      (closes : token ≠ .closeParen) (later : Balanced rest) : Balanced (token :: rest)
  | parentheses {inner rest : List Token} (inside : Balanced inner) (later : Balanced rest) :
      Balanced (.openParen :: (inner ++ .closeParen :: rest))

theorem Balanced.append {front back : List Token} (first : Balanced front)
    (later : Balanced back) : Balanced (front ++ back) := by
  induction first with
  | nil => exact later
  | token opens closes _ ih => exact .token opens closes ih
  | parentheses inside _ _ ih =>
    rw [List.cons_append, List.append_assoc, List.cons_append]
    exact .parentheses inside ih

theorem Balanced.concat {tokens : List Token} {token : Token} (balanced : Balanced tokens)
    (opens : token ≠ .openParen) (closes : token ≠ .closeParen) : Balanced (tokens ++ [token]) :=
  balanced.append (.token opens closes .nil)

theorem Balanced.closed {outer inner : List Token} (outside : Balanced outer)
    (inside : Balanced inner) : Balanced (outer ++ .openParen :: (inner ++ [.closeParen])) :=
  outside.append (.parentheses inside .nil)

theorem prefix_append_cases {A : Type} {part front back : List A} (starts : part <+: front ++ back) :
    part <+: front ∨ ∃ more, part = front ++ more ∧ more <+: back := by
  rcases List.prefix_or_prefix_of_prefix starts (List.prefix_append front back) with
    within | ⟨more, rfl⟩
  · exact .inl within
  · exact .inr ⟨more, rfl, (List.prefix_append_right_inj front).1 starts⟩

namespace Yard

def reads (yard : Yard) : List Token → Except Malformed Yard
  | [] => .ok yard
  | token :: rest => do
    let (_, next) ← yard.step token
    next.reads rest

theorem reads_append (yard : Yard) (front back : List Token) :
    yard.reads (front ++ back) = yard.reads front >>= fun next => next.reads back := by
  induction front generalizing yard with
  | nil => rfl
  | cons token rest ih =>
    rw [List.cons_append, reads, reads]
    cases yard.step token with
    | error cause => rfl
    | ok made => exact ih made.2

theorem reads_concat_eq_ok_iff {yard last : Yard} {tokens : List Token} {token : Token} :
    yard.reads (tokens ++ [token]) = .ok last ↔
      ∃ before items, yard.reads tokens = .ok before ∧ before.step token = .ok (items, last) := by
  rw [reads_append, bind_eq_ok_iff]
  constructor
  · rintro ⟨before, read, step⟩
    obtain ⟨⟨items, next⟩, step, same⟩ := bind_eq_ok_iff.1 step
    cases same
    exact ⟨before, items, read, step⟩
  · rintro ⟨before, items, read, step⟩
    exact ⟨before, read, bind_eq_ok_iff.2 ⟨_, step, rfl⟩⟩

theorem previous_of_reads {tokens : List Token} {yard : Yard}
    (read : start.reads tokens = .ok yard) : yard.previous = tokens.getLast? := by
  induction tokens using List.reverseRecOn with
  | nil =>
    cases read
    rfl
  | append_singleton tokens token =>
    obtain ⟨before, items, -, step⟩ := reads_concat_eq_ok_iff.1 read
    obtain ⟨pending, frames, rfl, -⟩ := shifts_of_step step
    simp

theorem exists_reads_of_run {yard : Yard} {tokens : List Token} {items : List Item}
    (runs : yard.run tokens = .ok items) :
    ∃ last left, yard.reads tokens = .ok last ∧ last.finish = .ok left := by
  induction tokens generalizing yard items with
  | nil => exact ⟨yard, items, rfl, runs⟩
  | cons token rest ih =>
    obtain ⟨released, next, later, step, ran, -⟩ := run_cons_eq_ok runs
    obtain ⟨last, left, read, finishes⟩ := ih ran
    exact ⟨last, left, bind_eq_ok_iff.2 ⟨_, step, read⟩, finishes⟩

/-- The tokens `inner` have been read within a parenthesis that came when the yard was `opened`: all
along it waits where it was put then, on what waited then, and nothing but operators and functions
waits above it now. -/
structure Within (outer inner : List Token) (opened yard : Yard) : Prop where
  balanced : Balanced inner
  read : start.reads outer = .ok opened
  kept : ∀ part between, part <+: inner →
    start.reads (outer ++ .openParen :: part) = .ok between →
      .openParen :: opened.pending <:+ between.pending
  waits : ∃ above, yard.pending = above ++ .openParen :: opened.pending ∧
    ∀ waiting ∈ above, waiting.inside = true
  framed : ∃ commas, yard.frames = ⟨opened.opensCall, commas⟩ :: opened.frames

inductive Opened : List Token → Yard → Prop
  | outermost {tokens : List Token} {yard : Yard} (balanced : Balanced tokens)
      (closed : yard.frames = []) (plain : ∀ waiting ∈ yard.pending, waiting.inside = true) :
      Opened tokens yard
  | within {outer inner : List Token} {opened yard : Yard} (outside : Opened outer opened)
      (inside : Within outer inner opened yard) : Opened (outer ++ .openParen :: inner) yard

theorem dropWhile_append_of_stop {A : Type} {p : A → Bool} {stop : A} (stays : p stop = false)
    (above below : List A) :
    (above ++ stop :: below).dropWhile p = above.dropWhile p ++ stop :: below := by
  rw [List.dropWhile_append, List.dropWhile_cons_of_neg (by simp [stays])]
  split
  · rename_i gone
    rw [List.isEmpty_iff.1 gone, List.nil_append]
  · rfl

theorem Shifts.above {yard : Yard} {token : Token} {items : List Item} {pending : List Pending}
    {frames : List Frame} (shifts : Shifts yard token items pending frames)
    (opens : token ≠ .openParen) (closes : token ≠ .closeParen) {above below : List Pending}
    (waits : yard.pending = above ++ below) (plain : ∀ waiting ∈ above, waiting.inside = true)
    (stops : below = [] ∨ ∃ rest, below = .openParen :: rest) :
    ∃ left, pending = left ++ below ∧ ∀ waiting ∈ left, waiting.inside = true := by
  -- Whatever is released, a parenthesis stops it.
  have released {yields : Pending → Bool} (stays : yields .openParen = false) :
      (above ++ below).dropWhile yields = above.dropWhile yields ++ below := by
    rcases stops with rfl | ⟨rest, rfl⟩
    · rw [List.append_nil, List.append_nil]
    · exact dropWhile_append_of_stop stays above rest
  have inside (yields : Pending → Bool) : ∀ waiting ∈ above.dropWhile yields,
      waiting.inside = true :=
    fun waiting member => plain waiting ((List.dropWhile_sublist yields).subset member)
  cases shifts with
  | number | reference => exact ⟨above, waits, plain⟩
  | function name =>
    exact ⟨.function name :: above, by rw [waits, List.cons_append],
      List.forall_mem_cons.2 ⟨rfl, plain⟩⟩
  | operator op made =>
    cases made
    exact ⟨.operator op :: above.dropWhile (Pending.yieldsTo op),
      by rw [waits, released rfl, List.cons_append], List.forall_mem_cons.2 ⟨rfl, inside _⟩⟩
  | openParen => exact absurd rfl opens
  | closeGroup => exact absurd rfl closes
  | closeCall => exact absurd rfl closes
  | comma _ _ made =>
    cases made
    exact ⟨above.dropWhile Pending.inside, by rw [waits, released rfl], inside _⟩

theorem Shifts.framed {yard : Yard} {token : Token} {items : List Item} {pending : List Pending}
    {frames : List Frame} (shifts : Shifts yard token items pending frames)
    (opens : token ≠ .openParen) (closes : token ≠ .closeParen) :
    frames = yard.frames ∨ ∃ commas outer,
      yard.frames = ⟨true, commas⟩ :: outer ∧ frames = ⟨true, commas + 1⟩ :: outer := by
  cases shifts with
  | openParen => exact absurd rfl opens
  | closeGroup => exact absurd rfl closes
  | closeCall => exact absurd rfl closes
  | comma opened => exact .inr ⟨_, _, opened, rfl⟩
  | _ => exact .inl rfl

theorem Within.step {outer inner : List Token} {opened yard next : Yard} {token : Token}
    {items : List Item} (within : Within outer inner opened yard)
    (read : start.reads (outer ++ .openParen :: inner) = .ok yard)
    (step : yard.step token = .ok (items, next)) (opens : token ≠ .openParen)
    (closes : token ≠ .closeParen) : Within outer (inner ++ [token]) opened next := by
  have reached : start.reads (outer ++ .openParen :: (inner ++ [token])) = .ok next := by
    rw [← List.cons_append, ← List.append_assoc]
    exact reads_concat_eq_ok_iff.2 ⟨yard, items, read, step⟩
  obtain ⟨pending, frames, rfl, shifts⟩ := shifts_of_step step
  obtain ⟨above, waits, plain⟩ := within.waits
  obtain ⟨commas, framed⟩ := within.framed
  obtain ⟨left, waits, plain⟩ := shifts.above opens closes waits plain (.inr ⟨_, rfl⟩)
  refine ⟨within.balanced.concat opens closes, within.read, ?_, ⟨left, waits, plain⟩, ?_⟩
  · intro part between starts passed
    rcases List.prefix_concat_iff.1 starts with rfl | starts
    · cases reached.symm.trans passed
      exact ⟨left, waits.symm⟩
    · exact within.kept part between starts passed
  · rcases shifts.framed opens closes with same | ⟨count, outside, was, now⟩
    · exact ⟨commas, by rw [same, framed]⟩
    · obtain ⟨⟨call, -⟩, rfl⟩ : (opened.opensCall = true ∧ commas = count) ∧
          opened.frames = outside := by simpa [framed] using was
      exact ⟨count + 1, by rw [now, call]⟩

/-- What a parenthesis that closes leaves behind is what waited before the one that it closes, and
in a call before the function, which was read right before that one. -/
def Closes (outer : List Token) (opened : Yard) (items : List Item) (next : Yard) : Prop :=
  ((∀ function, outer.getLast? ≠ some (.function function)) ∧ next.pending = opened.pending) ∨
    ∃ front function before count, outer = front ++ [.function function] ∧
      start.reads front = .ok before ∧ opened.pending = .function function :: before.pending ∧
      next.pending = before.pending ∧ items.getLast? = some (.call function count)

theorem opensCall_iff {tokens : List Token} {yard : Yard} (read : start.reads tokens = .ok yard) :
    yard.opensCall = true ↔ ∃ front function, tokens = front ++ [.function function] := by
  rw [opensCall, previous_of_reads read]
  cases tokens using List.reverseRecOn with
  | nil => simp
  | append_singleton front last =>
    rw [List.getLast?_concat]
    cases last <;> simp

theorem Within.found {outer inner : List Token} {opened yard : Yard}
    (within : Within outer inner opened yard) :
    (release Pending.inside yard.pending).2 = .openParen :: opened.pending := by
  obtain ⟨above, waits, plain⟩ := within.waits
  rw [release, waits, dropWhile_append_of_stop rfl, List.dropWhile_eq_nil_iff.2 plain,
    List.nil_append]

theorem Within.closes {outer inner : List Token} {opened yard next : Yard} {items : List Item}
    (within : Within outer inner opened yard) (step : yard.step .closeParen = .ok (items, next)) :
    next.frames = opened.frames ∧ Closes outer opened items next := by
  obtain ⟨commas, framed⟩ := within.framed
  have found := within.found
  obtain ⟨pending, frames, rfl, shifts⟩ := shifts_of_step step
  cases shifts with
  | @closeGroup _ _ count _ was released =>
    rw [released] at found
    cases found
    obtain ⟨⟨group, -⟩, rfl⟩ : (opened.opensCall = false ∧ commas = count) ∧
        opened.frames = frames := by simpa [framed] using was
    refine ⟨rfl, .inl ⟨fun function last => ?_, rfl⟩⟩
    rw [← previous_of_reads within.read] at last
    simp [opensCall, last] at group
  | @closeCall _ _ name count _ was _ released =>
    rw [released] at found
    obtain ⟨⟨call, -⟩, rfl⟩ : (opened.opensCall = true ∧ commas = count) ∧
        opened.frames = frames := by simpa [framed] using was
    obtain ⟨front, function, rfl⟩ := (opensCall_iff within.read).1 call
    obtain ⟨before, made, read, named⟩ := reads_concat_eq_ok_iff.1 within.read
    obtain ⟨_, _, rfl, pushed⟩ := shifts_of_step named
    cases pushed
    cases found
    exact ⟨rfl, .inr ⟨front, name, before, _, rfl, read, rfl, rfl, List.getLast?_concat⟩⟩

theorem Within.close {front middle inner : List Token} {first opened yard next : Yard}
    {items : List Item} (around : Within front middle first opened)
    (within : Within (front ++ .openParen :: middle) inner opened yard)
    (read : start.reads (front ++ .openParen :: (middle ++ .openParen :: inner)) = .ok yard)
    (step : yard.step .closeParen = .ok (items, next)) :
    Within front (middle ++ .openParen :: (inner ++ [.closeParen])) first next := by
  obtain ⟨framed, closes⟩ := within.closes step
  obtain ⟨above, waits, plain⟩ := around.waits
  -- Seen from the parenthesis around it, a call takes its function off what waits, a group nothing.
  have left : ∃ above, next.pending = above ++ .openParen :: first.pending ∧
      ∀ waiting ∈ above, waiting.inside = true := by
    rcases closes with ⟨-, same⟩ | ⟨_, function, before, _, -, -, pushed, same, -⟩
    · exact ⟨above, by rw [same, waits], plain⟩
    · rw [waits] at pushed
      cases above with
      | nil => cases pushed
      | cons top rest =>
        obtain ⟨-, below⟩ := List.cons.inj pushed
        exact ⟨rest, same.trans below.symm,
          fun waiting member => plain waiting (List.mem_cons_of_mem _ member)⟩
  refine ⟨around.balanced.closed within.balanced, around.read, ?_, left, framed ▸ around.framed⟩
  intro part between starts passed
  -- The start ends before the inner parenthesis, with it, within it, or where it is closed.
  rcases prefix_append_cases starts with before | ⟨more, rfl, later⟩
  · exact around.kept part between before passed
  have suffix : .openParen :: first.pending <:+ opened.pending := ⟨above, waits.symm⟩
  rcases List.prefix_cons_iff.1 later with rfl | ⟨more, rfl, inside⟩
  · rw [List.append_nil] at passed
    cases within.read.symm.trans passed
    exact suffix
  rcases List.prefix_concat_iff.1 inside with rfl | inside
  · obtain ⟨above, waits, -⟩ := left
    have reached : start.reads (front ++ .openParen :: (middle ++ .openParen ::
        (inner ++ [.closeParen]))) = .ok next := by
      have parts : front ++ .openParen :: (middle ++ .openParen :: (inner ++ [.closeParen])) =
          front ++ .openParen :: (middle ++ .openParen :: inner) ++ [.closeParen] := by simp
      rw [parts]
      exact reads_concat_eq_ok_iff.2 ⟨yard, items, read, step⟩
    cases reached.symm.trans passed
    exact ⟨above, waits.symm⟩
  · have parts : front ++ .openParen :: (middle ++ .openParen :: more) =
        front ++ .openParen :: middle ++ .openParen :: more := by simp
    rw [parts] at passed
    exact suffix.trans ((List.suffix_cons _ _).trans (within.kept more between inside passed))

theorem Opened.close {outer inner : List Token} {opened yard next : Yard} {items : List Item}
    (outside : Opened outer opened) (within : Within outer inner opened yard)
    (read : start.reads (outer ++ .openParen :: inner) = .ok yard)
    (step : yard.step .closeParen = .ok (items, next)) :
    Opened (outer ++ .openParen :: (inner ++ [.closeParen])) next := by
  cases outside with
  | outermost balanced closed plain =>
    obtain ⟨framed, closes⟩ := within.closes step
    refine .outermost (balanced.closed within.balanced) (framed.trans closed) ?_
    rcases closes with ⟨-, same⟩ | ⟨_, function, before, _, -, -, pushed, same, -⟩
    · rwa [same]
    · rw [pushed] at plain
      rw [same]
      exact fun waiting member => plain waiting (List.mem_cons_of_mem _ member)
  | @within front middle first _ outside around =>
    rw [List.append_assoc, List.cons_append] at read ⊢
    exact .within outside (around.close within read step)

theorem Opened.open {tokens : List Token} {yard next : Yard} {items : List Item}
    (opened : Opened tokens yard) (read : start.reads tokens = .ok yard)
    (step : yard.step .openParen = .ok (items, next)) : Opened (tokens ++ [.openParen]) next := by
  have reached := reads_concat_eq_ok_iff.2 ⟨yard, items, read, step⟩
  obtain ⟨pending, frames, rfl, shifts⟩ := shifts_of_step step
  cases shifts
  refine .within opened ⟨.nil, read, ?_, ⟨[], rfl, nofun⟩, 0, rfl⟩
  intro part between starts passed
  cases List.prefix_nil.1 starts
  cases reached.symm.trans passed
  exact List.suffix_rfl

theorem Opened.step {tokens : List Token} {yard next : Yard} {token : Token} {items : List Item}
    (opened : Opened tokens yard) (read : start.reads tokens = .ok yard)
    (step : yard.step token = .ok (items, next)) : Opened (tokens ++ [token]) next := by
  -- Only a parenthesis changes which ones are open.
  by_cases opens : token = .openParen
  · subst opens
    exact opened.open read step
  by_cases closes : token = .closeParen
  · subst closes
    cases opened with
    | outermost _ closed _ =>
      obtain ⟨pending, frames, rfl, shifts⟩ := shifts_of_step step
      cases shifts with
      | closeGroup was => rw [closed] at was; cases was
      | closeCall was => rw [closed] at was; cases was
    | within outside inside =>
      rw [List.append_assoc, List.cons_append]
      exact outside.close inside read step
  cases opened with
  | outermost balanced closed plain =>
    obtain ⟨pending, frames, rfl, shifts⟩ := shifts_of_step step
    obtain ⟨left, waits, plain⟩ :=
      shifts.above opens closes (List.append_nil _).symm plain (.inl rfl)
    refine .outermost (balanced.concat opens closes) ?_ (by rwa [waits, List.append_nil])
    rcases shifts.framed opens closes with same | ⟨_, _, was, _⟩
    · rw [same, closed]
    · rw [closed] at was
      cases was
  | within outside inside =>
    rw [List.append_assoc, List.cons_append]
    exact .within outside (inside.step read step opens closes)

theorem opened_of_reads {tokens : List Token} {yard : Yard}
    (read : start.reads tokens = .ok yard) : Opened tokens yard := by
  -- Steps are taken at the end, so the induction is on the tokens from there.
  induction tokens using List.reverseRecOn generalizing yard with
  | nil =>
    cases read
    exact .outermost .nil rfl nofun
  | append_singleton tokens token ih =>
    obtain ⟨before, items, first, step⟩ := reads_concat_eq_ok_iff.1 read
    exact (ih first).step first step

-- The parenthesis that closes next has no partner, or finds it where it was put and leaves what
-- waited before it.
def FindsPartner (before : List Token) (yard : Yard) : Prop :=
  (Balanced before ∧ yard.frames = []) ∨
    ∃ outer inner opened, before = outer ++ .openParen :: inner ∧
      Within outer inner opened yard ∧ ∀ items next, yard.step .closeParen = .ok (items, next) →
        next.frames = opened.frames ∧ Closes outer opened items next

theorem Opened.findsPartner {before : List Token} {yard : Yard} (opened : Opened before yard) :
    FindsPartner before yard := by
  cases opened with
  | outermost balanced closed plain => exact .inl ⟨balanced, closed⟩
  | @within outer inner opened _ _ inside =>
    exact .inr ⟨outer, inner, opened, rfl, inside, fun _ _ step => inside.closes step⟩

theorem balanced_of_run {tokens : List Token} {items : List Item}
    (runs : start.run tokens = .ok items) : Balanced tokens := by
  obtain ⟨last, left, read, finishes⟩ := exists_reads_of_run runs
  obtain ⟨closed, -⟩ := finish_eq_ok finishes
  cases opened_of_reads read with
  | outermost balanced => exact balanced
  | within _ inside =>
    obtain ⟨commas, framed⟩ := inside.framed
    rw [closed] at framed
    cases framed

theorem Shifts.function_mem {yard : Yard} {token : Token} {items : List Item}
    {pending : List Pending} {frames : List Frame}
    (shifts : Shifts yard token items pending frames) {name : String}
    (waits : .function name ∈ pending) :
    .function name ∈ yard.pending ∨ token = .function name := by
  have left {yields : Pending → Bool} {made : List Item} {rest : List Pending}
      (released : release yields yard.pending = (made, rest)) : rest ⊆ yard.pending := by
    cases released
    exact (List.dropWhile_sublist yields).subset
  cases shifts with
  | number | reference => exact .inl waits
  | function other =>
    rcases List.mem_cons.1 waits with same | waits
    · cases same
      exact .inr rfl
    · exact .inl waits
  | operator op released =>
    rcases List.mem_cons.1 waits with same | waits
    · cases same
    · exact .inl (left released waits)
  | openParen =>
    rcases List.mem_cons.1 waits with same | waits
    · cases same
    · exact .inl waits
  | closeGroup _ released => exact .inl (left released (by simp [waits]))
  | closeCall _ _ released => exact .inl (left released (by simp [waits]))
  | comma _ _ released => exact .inl (left released waits)

theorem function_mem_of_reads {tokens : List Token} {yard : Yard} {name : String}
    (read : start.reads tokens = .ok yard) (waits : .function name ∈ yard.pending) :
    .function name ∈ tokens := by
  induction tokens using List.reverseRecOn generalizing yard with
  | nil =>
    cases read
    cases waits
  | append_singleton tokens token ih =>
    obtain ⟨before, items, first, step⟩ := reads_concat_eq_ok_iff.1 read
    obtain ⟨pending, frames, rfl, shifts⟩ := shifts_of_step step
    rcases shifts.function_mem waits with earlier | rfl
    · exact List.mem_append_left _ (ih first earlier)
    · simp

end Yard

-- What waits is compared by its text alone when a parenthesis is looked for.
def Pending.text : Pending → String
  | .operator op => String.singleton op.symbol
  | .function name => name
  | .openParen => "("

theorem Pending.text_eq_iff {waiting : Pending}
    (named : ∀ name, waiting = .function name → (Token.function name).isLexical = true) :
    waiting.text = "(" ↔ waiting = .openParen := by
  cases waiting with
  | operator op => cases op <;> simp [text, Operator.symbol]
  | function name =>
    refine iff_of_false ?_ nofun
    rintro rfl
    cases named "(" rfl
  | openParen => simp [text]

theorem toPostfix_finds_partners (formula : String) (tokens : List Token)
    (read : tokenize formula = .ok tokens) :
    toPostfix (resolveSigns tokens) ≠ .error .lostStep ∧
    (∀ before after yard, resolveSigns tokens = before ++ after →
      Yard.start.reads before = .ok yard →
        (∀ waiting ∈ yard.pending, waiting.text = "(" ↔ waiting = .openParen) ∧
        yard.FindsPartner before) ∧
    ∀ items, toPostfix (resolveSigns tokens) = .ok items →
      Balanced (resolveSigns tokens) ∧
      (items.map Item.token).Perm (words (resolveSigns tokens)) ∧
      operands (items.map Item.token) = operands (resolveSigns tokens) := by
  refine ⟨toPostfix_ne_lostStep _, ?_, fun items ordered =>
    ⟨Yard.balanced_of_run ordered, words_toPostfix ordered, operands_toPostfix ordered⟩⟩
  intro before after yard split reached
  refine ⟨fun waiting waits => Pending.text_eq_iff ?_, (Yard.opened_of_reads reached).findsPartner⟩
  rintro name rfl
  have member : .function name ∈ resolveSigns tokens := by
    rw [split]
    exact List.mem_append_left after (Yard.function_mem_of_reads reached waits)
  rw [resolveSigns, mem_resolveSignsFrom_iff (by simp) (by simp)] at member
  exact (scanned_of_scan read).lexical _ member

theorem toPostfix_finds_partners_max :
    tokenize "max(-{a},(2))" = .ok [.function "max", .openParen, .operator .minus, .reference "a",
        .comma, .openParen, .number "2", .closeParen, .closeParen] ∧
      (∃ yard, Yard.start.reads [.function "max", .openParen, .number "0", .operator .minus,
          .reference "a", .comma, .openParen, .number "2", .closeParen] = .ok yard ∧
        yard.pending = [.openParen, .function "max"] ∧
        yard.FindsPartner [.function "max", .openParen, .number "0", .operator .minus,
          .reference "a", .comma, .openParen, .number "2", .closeParen]) ∧
      Balanced (resolveSigns [.function "max", .openParen, .operator .minus, .reference "a",
        .comma, .openParen, .number "2", .closeParen, .closeParen]) := by
  have read : tokenize "max(-{a},(2))" = .ok [.function "max", .openParen, .operator .minus,
      .reference "a", .comma, .openParen, .number "2", .closeParen, .closeParen] := by
    rw [tokenize, show "max(-{a},(2))".toList = ['m', 'a', 'x', '(', '-', '{', 'a', '}', ',', '(',
      '2', ')', ')'] by decide]
    repeat first
      | exact scan_nil
      | refine scan_cons rfl rfl ?_
  obtain ⟨-, found, ordered⟩ := toPostfix_finds_partners _ _ read
  exact ⟨read, ⟨_, rfl, rfl, (found _ [.closeParen] _ rfl rfl).2⟩,
    (ordered [.number "0", .reference "a", .operator .minus, .number "2", .call "max" 2] rfl).1⟩

end Scorekeeper.Formula
