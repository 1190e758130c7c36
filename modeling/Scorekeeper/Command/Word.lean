import Scorekeeper.Text.Blank
import Scorekeeper.Text.Digit

set_option autoImplicit false

/-!
# Words of a command line

How an argument reads where some flags are known.  A flag starts with a minus sign; a long one may
be shortened as long as it means one flag, and its value may follow it behind an equals sign.
Negative numbers and texts with a blank are no flags, and nothing behind a lone `--` is.
-/

namespace Scorekeeper.Command

structure Flag where
  names : List String
  accepts? : Option (String → Bool)
  label : String := ""
  purpose : String
  required : Bool := false

inductive Word
  | plain (text : String)
  | separator
  | flag (flag : Flag) (name : String) (value : Option String)
  | unknown

def splitEquals (text : String) : String × Option String :=
  match text.toList.dropWhile (· ≠ '=') with
  | [] => (text, none)
  | _ :: value => (String.ofList (text.toList.takeWhile (· ≠ '=')), some (String.ofList value))

def isDigits (text : List Char) : Bool :=
  !text.isEmpty && text.all fun c => (Text.digitValue? c).isSome

/-- Whether a text behind a minus sign is a number: digits, with at most one point that has digits
after it. -/
def isUnsigned (text : List Char) : Bool :=
  let whole := text.takeWhile (· ≠ '.')
  match text.dropWhile (· ≠ '.') with
  | [] => isDigits whole
  | _ :: fraction => (whole.isEmpty || isDigits whole) && isDigits fraction

def isNegativeNumber (text : String) : Bool :=
  match text.toList with
  | '-' :: rest => isUnsigned (Text.withoutNewline rest)
  | _ => false

def named? (flags : List Flag) (name : String) : Option Flag :=
  flags.find? (·.names.contains name)

def abbreviated (flags : List Flag) (text : String) : List Word :=
  let (start, value) := splitEquals text
  flags.flatMap fun flag =>
    (flag.names.filter (·.startsWith start)).map fun name => .flag flag name value

def joined (flags : List Flag) (text : String) : List Word :=
  let name := String.ofList (text.toList.take 2)
  let value := String.ofList (text.toList.drop 2)
  flags.flatMap fun flag =>
    (flag.names.filter (· = name)).map fun name => .flag flag name (some value)

/-- A text that starts with a minus sign but names no flag exactly; `none` where it may mean several
flags. -/
def readMarked? (flags : List Flag) (text : String) : Option Word :=
  match (if text.startsWith "--" then abbreviated else joined) flags text with
  | [word] => some word
  | [] => some (if isNegativeNumber text || text.contains ' ' then .plain text else .unknown)
  | _ => none

def readWord? (flags : List Flag) (text : String) : Option Word :=
  if !text.startsWith "-" || text = "-" then some (.plain text)
  else
    match named? flags text, splitEquals text with
    | some flag, _ => some (.flag flag text none)
    | none, (name, some value) =>
      match named? flags name with
      | some flag => some (.flag flag name (some value))
      | none => readMarked? flags text
    | none, (_, none) => readMarked? flags text

def readWords? (flags : List Flag) : List String → Option (List Word)
  | [] => some []
  | "--" :: rest => some (.separator :: rest.map .plain)
  | text :: rest => do return (← readWord? flags text) :: (← readWords? flags rest)

end Scorekeeper.Command
