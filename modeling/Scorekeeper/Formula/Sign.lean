import Scorekeeper.Formula.Token

set_option autoImplicit false

/-!
# Signs

A plus or minus that does not follow an operand is a sign.  A minus sign becomes a subtraction from
zero and a plus sign is dropped, so that every plus and minus left stands between two operands.
-/

namespace Scorekeeper.Formula

def Token.endsOperand : Token → Bool
  | .number _ | .reference _ | .closeParen => true
  | _ => false

def Token.isSign : Token → Bool
  | .operator .plus | .operator .minus => true
  | _ => false

def Token.signTokens : Token → List Token
  | .operator .minus => [.number "0", .operator .minus]
  | _ => []

/-- The tokens with their signs resolved; `afterOperand` tells what the token before them was. -/
def resolveSignsFrom (afterOperand : Bool) : List Token → List Token
  | [] => []
  | token :: rest =>
    (if token.isSign && !afterOperand then token.signTokens else [token]) ++
      resolveSignsFrom token.endsOperand rest

def resolveSigns (tokens : List Token) : List Token :=
  resolveSignsFrom false tokens

end Scorekeeper.Formula
