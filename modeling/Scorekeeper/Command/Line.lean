import Scorekeeper.Command.Form
import Scorekeeper.Decimal.Numeral

set_option autoImplicit false

namespace Scorekeeper

open Scorekeeper.Command

inductive Command
  | validate (formula : String)
  | evaluate (formula : String) (references : List String) (round : Option Int)
  | references (formula : String)
  | totals (file session : String) (round : Option String)
  | serve
deriving Repr, DecidableEq

namespace Command

def anyText (_ : String) : Bool := true

def isWholeText (text : String) : Bool :=
  (Decimal.wholeNumber? text).isSome

def formulaOperand : Operand := ⟨"formula", "Formula text"⟩

def validateForm : Form := ⟨"validate", formulaOperand, []⟩

def evaluateForm : Form :=
  ⟨"eval", formulaOperand, [
    { names := ["--ref"], accepts? := some anyText, label := "NAME=VALUE",
      purpose := "Reference value (repeatable)" },
    { names := ["--round"], accepts? := some isWholeText, label := "ROUND",
      purpose := "Value of round()" }]⟩

def referencesForm : Form := ⟨"refs", formulaOperand, []⟩

def totalsForm : Form :=
  ⟨"totals", some ⟨"state_file", "Path to persisted state JSON"⟩, [
    { names := ["--session"], accepts? := some anyText, label := "SESSION",
      purpose := "Session id", required := true },
    { names := ["--round"], accepts? := some anyText, label := "ROUND",
      purpose := "Round id in context" }]⟩

def serveForm : Form :=
  ⟨"serve", none, [
    { names := ["--host"], accepts? := some anyText, label := "HOST", purpose := "Bind address" },
    { names := ["--port"], accepts? := some isWholeText, label := "PORT", purpose := "Port" }]⟩

def forms : List Form :=
  [validateForm, evaluateForm, referencesForm, totalsForm, serveForm]

def ofFilled (form : Form) (filled : Filled) : Command :=
  let operand := filled.operand.getD ""
  match form.name with
  | "validate" => .validate operand
  | "eval" =>
    .evaluate operand (filled.allValues "--ref")
      ((filled.value? "--round").bind Decimal.wholeNumber?)
  | "refs" => .references operand
  | "totals" => .totals operand ((filled.value? "--session").getD "") (filled.value? "--round")
  | _ => .serve

def overview : String :=
  let choices := "\x7bvalidate,eval,refs,totals,serve\x7d"
  "\n".intercalate [
    "usage: tally [-h] " ++ choices ++ " ...",
    "",
    "Tally - Board Game Scoring Engine",
    "",
    "positional arguments:",
    "  " ++ choices,
    "                        Commands",
    "    validate            Check formula syntax",
    "    eval                Evaluate a formula",
    "    refs                List formula references",
    "    totals              Compute totals from a state snapshot",
    "    serve               Run the HTTP API",
    "",
    "options:",
    "  -h, --help            show this help message and exit",
    ""]

/-- The command that a line asks for, if it names one; `stray` says that a flag stood before it that
does not exist. -/
def parseAfter (stray : Bool) : List String → Except Halt (Option Command)
  | [] => if stray then .error .misuse else .ok none
  | first :: rest =>
    match readWords? [helpFlag] [first] with
    | some [.flag _ name value] => .error (Form.haltAt overview name value)
    | some [.unknown] => parseAfter true rest
    | some [.plain name] =>
      match forms.find? (·.name = name) with
      | none => .error .misuse
      | some form =>
        match form.fill rest with
        | .error halt => .error halt
        | .ok filled =>
          if stray || !form.isComplete filled then .error .misuse
          else .ok (some (ofFilled form filled))
    | _ => .error .misuse

def parse (arguments : List String) : Except Halt (Option Command) :=
  parseAfter false arguments

end Command

end Scorekeeper
