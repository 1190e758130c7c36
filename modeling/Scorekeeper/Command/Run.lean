import Scorekeeper.Command.Line
import Scorekeeper.Formula.Check
import Scorekeeper.Keeper.Totals
import Scorekeeper.Record.Elements

set_option autoImplicit false

namespace Scorekeeper

open Scorekeeper.Text

structure Outcome where
  code : Nat
  output : String
deriving Repr, DecidableEq

inductive Abort
  | arithmetic (fault : ArithmeticFault)
  | unreadable (problems : List Problem)
deriving Repr, DecidableEq

def Abort.message : Abort → String
  | .arithmetic fault => fault.message
  | .unreadable problems => Problem.summary problems

namespace Outcome

def lines (code : Nat) (texts : List String) : Outcome :=
  ⟨code, "".intercalate (texts.map (· ++ "\n"))⟩

def error (code : Nat) (message : String) : Outcome :=
  lines code ["Error: " ++ message]

def ofHalt : Command.Halt → Outcome
  | .help text => ⟨0, text⟩
  | .misuse => ⟨2, ""⟩

end Outcome

variable {R : Type} [Scalar R]

namespace Command

def runValidate (formula : String) : Outcome :=
  match Formula.objection? formula with
  | none => .lines 0 ["Formula is valid"]
  | some objection => .lines 1 ["Invalid formula: " ++ objection.message]

def readReference (text : String) : Except String (String × R) :=
  match splitEquals text with
  | (_, none) | ("", _) => .error ("expected NAME=VALUE, got " ++ quoted text)
  | (name, some value) =>
    match Scalar.read? value with
    | some x => .ok (trimmed name, x)
    | none => .error ("value for " ++ quoted name ++ " is not a number: " ++ quoted value)

def runEvaluate (formula : String) (references : List String) (round : Option Int) :
    Except Abort Outcome :=
  match references.mapM (readReference (R := R)) with
  | .error complaint => .ok (.error 2 complaint)
  | .ok pairs =>
    -- Of references with one name the last counts.
    let named := (Table.ofList pairs).pairs.map fun (name, x) => (name, Quantity.real x)
    match Formula.evaluateWith named round formula with
    | .ok x => .ok (.lines 0 [Scalar.brief x])
    | .error (.malformed cause) => .ok (.error 1 cause.message)
    | .error (.uncomputable cause) => .ok (.error 1 cause.message)
    | .error (.arithmetic fault) => .error (.arithmetic fault)

def playerLines (categories : Table (Category R)) (player : String) (totals : Table R) :
    List String :=
  let sorted := totals.pairs.mergeSort fun a b => a.1 ≤ b.1
  let shownCategory (id : String) : Option String := if id = uncategorized then none else some id
  (player ++ ": " ++ Scalar.brief (Scalar.sum totals.values)) ::
    sorted.map fun (id, total) =>
      "  " ++ categoryName categories (shownCategory id) ++ ": " ++ Scalar.brief total

def winnersLine (winners : List String) : String :=
  "Winners: " ++ if winners.isEmpty then "-" else ", ".intercalate winners

def runTotals (book : Book R) (session : String) (round : Option String) : Outcome :=
  let keeper : Keeper R := ⟨book, .standard⟩
  let printed : Except Refusal (List String) := do
    let totals ← keeper.totals session round
    let winners ← keeper.winners session round
    return (totals.mapWithKey (playerLines book.categories)).values.flatten ++ [winnersLine winners]
  match printed with
  | .ok texts => .lines 0 texts
  | .error refusal => .error 1 refusal.message

def file? : Command → Option String
  | .totals file _ _ => some file
  | _ => none

/-- A command with the content of its file, if that was found.  There is no server to run here. -/
def run (content : Option (Value R)) : Command → Except Abort Outcome
  | .validate formula => .ok (runValidate formula)
  | .evaluate formula named round => runEvaluate (R := R) formula named round
  | .references formula => .ok (.lines 0 (Formula.references formula))
  | .totals file session round =>
    match content with
    | none => .ok (.error 1 ("File not found: " ++ file))
    | some value => do
      let book ← (Record.readBook value).mapError Abort.unreadable
      return runTotals book session round
  | .serve => .ok (.error 1 "no HTTP server is available")

end Command

inductive Plan
  | finished (outcome : Outcome)
  | run (command : Command)

def Plan.ofArguments (arguments : List String) : Plan :=
  match Command.parse arguments with
  | .error halt => .finished (.ofHalt halt)
  | .ok none => .finished ⟨1, Command.overview⟩
  | .ok (some command) => .run command

end Scorekeeper
