set_option autoImplicit false

namespace Scorekeeper

inductive Direction
  | higherWins
  | lowerWins
deriving Repr, DecidableEq

def Direction.ofText? : String → Option Direction
  | "higherWins" => some .higherWins
  | "lowerWins" => some .lowerWins
  | _ => none

structure SessionSettings where
  roundsEnabled : Bool := false
  direction : Direction := .higherWins
  allowNegative : Bool := true
deriving Repr, DecidableEq

structure Session where
  id : String
  title : String
  players : List String
  rounds : List String
  rules : List String
  objects : List String
  template : Option String
  settings : SessionSettings
deriving Repr, DecidableEq

structure Round where
  id : String
  session : String
  index : Int
  label : String
deriving Repr, DecidableEq

end Scorekeeper
