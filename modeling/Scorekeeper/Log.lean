import Scorekeeper.Text.Case

set_option autoImplicit false

namespace Scorekeeper

open Scorekeeper.Text

def logLevels : List (String × Nat) :=
  [("CRITICAL", 50), ("FATAL", 50), ("ERROR", 40), ("WARN", 30), ("WARNING", 30), ("INFO", 20),
    ("DEBUG", 10), ("NOTSET", 0)]

def logLevel (name : String) : Nat :=
  (logLevels.lookup (uppercase name)).getD 20

structure LogSetup where
  level : Nat
  fileName : Option String
deriving Repr, DecidableEq

def LogSetup.make (environment level stamp : String) (hasDirectory : Bool) : LogSetup :=
  { level := logLevel level
    fileName := if hasDirectory then some s!"tally-{environment}-{stamp}.log" else none }

end Scorekeeper
