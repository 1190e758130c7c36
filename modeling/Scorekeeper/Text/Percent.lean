import Scorekeeper.Text.Hex
import Scorekeeper.Text.Utf8

set_option autoImplicit false

/-!
# Percent codes

In the query of a request a percent sign and two hexadecimal digits are one byte of a text.  A
percent sign without them stands for itself.  Bytes make up characters only within a stretch of
ASCII: any other character stands for itself and ends the stretch.
-/

namespace Scorekeeper.Text

def isAscii (c : Char) : Bool := c.toNat < 0x80

/-- The characters of a text; `bytes` are those of the present stretch of ASCII, the latest first. -/
def percentDecodedFrom (bytes : List Nat) : List Char → List Char
  | '%' :: a :: b :: rest =>
    match readHex? [a, b] with
    | some byte => percentDecodedFrom (byte :: bytes) rest
    | none => percentDecodedFrom ('%'.toNat :: bytes) (a :: b :: rest)
  | c :: rest =>
    if isAscii c then percentDecodedFrom (c.toNat :: bytes) rest
    else decodeFrom none bytes.reverse ++ c :: percentDecodedFrom [] rest
  | [] => decodeFrom none bytes.reverse

def percentDecoded (text : List Char) : String :=
  String.ofList (percentDecodedFrom [] text)

end Scorekeeper.Text
