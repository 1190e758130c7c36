import Scorekeeper.Ledger.Cycle
import Scorekeeper.Text.Case
import Scorekeeper.Text.Quoted

set_option autoImplicit false

namespace Scorekeeper

open Scorekeeper.Text

structure Settings (R : Type) where
  environment : String
  logLevel : String
  logDirectory : Option String
  windows : Windows R
  allowedOrigins : List String

def notNumberMessage (text : String) : String :=
  "could not convert string to float: " ++ quoted text

namespace Settings

def variableNames : List String :=
  ["TALLY_ENV", "TALLY_LOG_LEVEL", "TALLY_LOG_DIR", "TALLY_DUPLICATE_WINDOW",
    "TALLY_TRIGGER_WINDOW", "TALLY_FOLLOWUP_WINDOW", "TALLY_ALLOWED_ORIGINS"]

variable {R : Type} [Scalar R]

def windowOf (text : Option String) (default : R) : Except String R :=
  match text with
  | none => .ok default
  | some text =>
    match Scalar.read? text with
    | some window => .ok window
    | none => .error text

def ofVariables (read? : String → Option String) : Except String (Settings R) := do
  let standard : Windows R := .standard
  let duplicate ← windowOf (read? "TALLY_DUPLICATE_WINDOW") standard.duplicate
  let trigger ← windowOf (read? "TALLY_TRIGGER_WINDOW") standard.trigger
  let followup ← windowOf (read? "TALLY_FOLLOWUP_WINDOW") standard.followup
  return {
    environment := (read? "TALLY_ENV").getD "development"
    logLevel := uppercase ((read? "TALLY_LOG_LEVEL").getD "INFO")
    logDirectory := present (read? "TALLY_LOG_DIR")
    windows := { duplicate, trigger, followup }
    allowedOrigins := ((read? "TALLY_ALLOWED_ORIGINS").getD "*").splitOn "," }

end Settings

end Scorekeeper
