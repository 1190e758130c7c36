import Scorekeeper.Command.Run
import Scorekeeper.Document.Reader
import Scorekeeper.Scalar.Double
import Scorekeeper.Settings

set_option autoImplicit false

namespace Scorekeeper

def readVariables : IO (List (String × String)) :=
  Settings.variableNames.filterMapM fun name => do
    return (← IO.getEnv name).map fun value => (name, value)

def readDocument (file : String) : IO (Option (Value Float)) := do
  try
    match Document.read? (← IO.FS.readFile file) with
    | some value => return some value
    | none => throw (IO.userError ("no JSON document: " ++ file))
  catch
    -- A missing file is for the command to report.
    | .noFileOrDirectory .. => return none
    | problem => throw problem

def printOutcome (outcome : Outcome) : IO UInt32 := do
  IO.print outcome.output
  return UInt32.ofNat outcome.code

def complain (message : String) : IO UInt32 := do
  IO.eprintln message
  return 1

def runCommand (command : Command) : IO UInt32 := do
  let pairs ← readVariables
  match Settings.ofVariables (R := Float) (fun name => pairs.lookup name) with
  | .error text => complain (notNumberMessage text)
  | .ok _ =>
    let content ← match command.file? with
      | none => pure none
      | some file => readDocument file
    match command.run content with
    | .ok outcome => printOutcome outcome
    | .error abort => complain abort.message

end Scorekeeper

open Scorekeeper

def main (arguments : List String) : IO UInt32 :=
  match Plan.ofArguments arguments with
  | .finished outcome => printOutcome outcome
  | .run command => runCommand command
