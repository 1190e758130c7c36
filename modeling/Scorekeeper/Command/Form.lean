import Scorekeeper.Command.Word

set_option autoImplicit false

/-!
# Forms

What a command takes: flags, and perhaps one operand.  A form is filled in from the words in their
order; the first call for help or misuse among them decides, while words too many and parts that are
missing only count at the end.
-/

namespace Scorekeeper.Command

inductive Halt
  | help (text : String)
  | misuse
deriving Repr, DecidableEq

structure Operand where
  label : String
  purpose : String

structure Form where
  name : String
  operand? : Option Operand
  flags : List Flag

structure Filled where
  operand : Option String := none
  /-- The first name of each flag that was given a value, with the value. -/
  values : List (String × String) := []
  stray : Bool := false
  atOperand : Bool := false

def helpFlag : Flag :=
  { names := ["-h", "--help"], accepts? := none, purpose := "show this help message and exit" }

def Flag.name (flag : Flag) : String :=
  flag.names.headD ""

namespace Form

def allFlags (form : Form) : List Flag :=
  helpFlag :: form.flags

def invocation (flag : Flag) : String :=
  match flag.accepts? with
  | none => ", ".intercalate flag.names
  | some _ => flag.name ++ " " ++ flag.label

def synopsis (flag : Flag) : String :=
  let shortest := match flag.accepts? with
    | none => flag.name
    | some _ => invocation flag
  if flag.required then shortest else "[" ++ shortest ++ "]"

def padded (width : Nat) (text : String) : String :=
  text ++ String.ofList (List.replicate (width - text.length) ' ')

def rows (width : Nat) (entries : List (String × String)) : List String :=
  entries.map fun (name, purpose) => "  " ++ padded (width + 2) name ++ purpose

def helpText (form : Form) : String :=
  let operands := (form.operand?.map fun operand => (operand.label, operand.purpose)).toList
  let flags := form.allFlags.map fun flag => (invocation flag, flag.purpose)
  let width := ((operands ++ flags).map fun entry => entry.1.length).foldl max 0
  let usage := ["usage:", "tally", form.name] ++ form.allFlags.map synopsis ++
    operands.map Prod.fst
  let operandSection :=
    if operands.isEmpty then [] else "positional arguments:" :: rows width operands ++ [""]
  "".intercalate (([" ".intercalate usage, ""] ++ operandSection ++
    "options:" :: rows width flags).map (· ++ "\n"))

/-- What stands in one word with a call for help: nothing, or behind its short name a call for it
again. -/
def haltAt (help name : String) : Option String → Halt
  | none => .help help
  | some value =>
    if !name.startsWith "--" && !value.isEmpty && value.all (· = 'h') then .help help else .misuse

def Filled.withValue (filled : Filled) (flag : Flag) (accepts : String → Bool) (value : String) :
    Except Halt Filled :=
  if accepts value then
    .ok { filled with values := filled.values ++ [(flag.name, value)], atOperand := false }
  else .error .misuse

def Filled.isStray (filled : Filled) : Filled :=
  { filled with stray := true, atOperand := false }

def wantsOperand (form : Form) (filled : Filled) : Bool :=
  form.operand?.isSome && filled.operand.isNone

def fillFrom (form : Form) (filled : Filled) : List Word → Except Halt Filled
  | [] => .ok filled
  | .unknown :: rest => form.fillFrom (Filled.isStray filled) rest
  | .plain text :: rest =>
    if form.wantsOperand filled then
      form.fillFrom { filled with operand := some text, atOperand := true } rest
    else form.fillFrom (Filled.isStray filled) rest
  -- A separator goes with the operand, before it or right after it.
  | .separator :: rest =>
    if form.wantsOperand filled || filled.atOperand then form.fillFrom filled rest
    else form.fillFrom (Filled.isStray filled) rest
  | .flag flag name value :: rest =>
    match flag.accepts?, value, rest with
    | none, value, _ => .error (haltAt form.helpText name value)
    | some accepts, some value, rest => do
      form.fillFrom (← Filled.withValue filled flag accepts value) rest
    | some accepts, none, .plain value :: rest => do
      form.fillFrom (← Filled.withValue filled flag accepts value) rest
    | some _, none, _ => .error .misuse

def isComplete (form : Form) (filled : Filled) : Bool :=
  !filled.stray && !form.wantsOperand filled &&
    form.flags.all fun flag => !flag.required || (filled.values.lookup flag.name).isSome

def fill (form : Form) (arguments : List String) : Except Halt Filled :=
  match readWords? form.allFlags arguments with
  | none => .error .misuse
  | some words => form.fillFrom {} words

end Form

def Filled.value? (filled : Filled) (name : String) : Option String :=
  filled.values.reverse.lookup name

def Filled.allValues (filled : Filled) (name : String) : List String :=
  (filled.values.filter (·.1 = name)).map Prod.snd

end Scorekeeper.Command
