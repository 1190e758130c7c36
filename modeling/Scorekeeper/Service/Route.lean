import Scorekeeper.Text.Blank
import Scorekeeper.Text.Percent

set_option autoImplicit false

/-!
# Routes

The places that requests can be sent to.  A place has one method, but for the manual, which may be
asked for its head alone.  A path that is a place but for the slashes at its end is sent on there.
-/

namespace Scorekeeper

open Scorekeeper.Text

inductive Route
  | about
  | manual
  | health
  | formulaCheck
  | formulaValue
  | formulaReferences
  | book
  | totals (session : String)
  | entries (session : String)
  | entry (session id : String)
  | ruleTest (session : String)
  | review (session : String)
deriving Repr, DecidableEq

namespace Route

def ofSession? (session : String) : List String → Option Route
  | ["totals"] => some (.totals session)
  | ["entries"] => some (.entries session)
  | ["entries", id] => if id = "" then none else some (.entry session id)
  | ["rules", "test"] => some (.ruleTest session)
  | ["validation"] => some (.review session)
  | _ => none

def ofSegments? : List String → Option Route
  | ["", ""] => some .about
  | ["", "openapi.json"] | ["", "api", "docs"] | ["", "api", "redoc"]
  | ["", "docs", "oauth2-redirect"] => some .manual
  | ["", "api", "v1", "health"] => some .health
  | ["", "api", "v1", "formulas", "validate"] => some .formulaCheck
  | ["", "api", "v1", "formulas", "evaluate"] => some .formulaValue
  | ["", "api", "v1", "formulas", "references"] => some .formulaReferences
  | ["", "api", "v1", "state"] => some .book
  | "" :: "api" :: "v1" :: "sessions" :: session :: rest =>
    if session = "" then none else ofSession? session rest
  | _ => none

def methods : Route → List String
  | .formulaCheck | .formulaValue | .formulaReferences | .entries _ | .ruleTest _ => ["POST"]
  | .book => ["PUT"]
  | .entry _ _ => ["DELETE"]
  | .manual => ["GET", "HEAD"]
  | .about | .health | .totals _ | .review _ => ["GET"]

/-- The route of a path that is split at its slashes, else of the path without a line feed at its
end. -/
def ofPath? (path : String) : Option Route :=
  (ofSegments? (path.splitOn "/")).or
    (ofSegments? ((String.ofList (withoutNewline path.toList)).splitOn "/"))

def otherPath (path : String) : String :=
  let slashes := path.toList.reverse.takeWhile (· = '/')
  if slashes.isEmpty then path ++ "/"
  else String.ofList (path.toList.take (path.toList.length - slashes.length))

def isElsewhere (path : String) : Bool :=
  path ≠ "/" && (ofPath? (otherPath path)).isSome

end Route

structure Address where
  path : String
  query : List (String × String)
deriving Repr, DecidableEq

namespace Address

def cutAt (mark : Char) (text : List Char) : List Char × List Char :=
  (text.takeWhile (· ≠ mark), (text.dropWhile (· ≠ mark)).drop 1)

def queryText (text : List Char) : String :=
  percentDecoded (text.map fun c => if c = '+' then ' ' else c)

def queryPair (text : List Char) : String × String :=
  let (name, value) := cutAt '=' text
  (queryText name, queryText value)

/-- The address that a text stands for.  A path is taken as it is, and a query read byte by byte. -/
def ofText (text : String) : Address :=
  let (path, query) := cutAt '?' text.toList
  { path := String.ofList path
    query := ((String.ofList (bytewise query)).splitOn "&").map fun pair => queryPair pair.toList }

def value? (address : Address) (name : String) : Option String :=
  address.query.reverse.lookup name

end Address

end Scorekeeper
