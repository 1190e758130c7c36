import Scorekeeper.Game.Category
import Scorekeeper.Game.Session
import Scorekeeper.Game.Template
import Scorekeeper.Table

set_option autoImplicit false

/-!
# The book

Everything that is known at one moment: the sessions with their categories, rounds, rules and
objects, the templates, and the ledger of all entries.  Totals are never stored.
-/

namespace Scorekeeper

structure Book (R : Type) where
  sessions : Table Session
  categories : Table (Category R)
  rounds : Table Round
  entries : Table (Entry R)
  rules : Table (Rule R)
  templates : Table (Template R)
  objects : Table (ObjectInstance R)
  /-- Whether all of it is read from one text, so that it has a single thing that is no number. -/
  oneText : Bool

namespace Book

variable {R : Type}

def empty : Book R :=
  ⟨.empty, .empty, .empty, .empty, .empty, .empty, .empty, false⟩

def session? (book : Book R) (session : String) : Option Session :=
  book.sessions.get? session

def template? (book : Book R) (session : String) : Option (Template R) := do
  let template ← present (← book.session? session).template
  book.templates.get? template

def sessionCategories (book : Book R) (session : String) : List (Category R) :=
  book.categories.values.filter (·.session = session)

def sessionEntries (book : Book R) (session : String) : List (Entry R) :=
  book.entries.values.filter (·.session = session)

def sessionRules (book : Book R) (session : String) : List (Rule R) :=
  match book.session? session with
  | none => []
  | some found => found.rules.filterMap book.rules.get?

def round? (book : Book R) (round : Option String) : Option Round :=
  round.bind book.rounds.get?

def roundAt? (book : Book R) (session : String) (index : Int) : Option Round :=
  book.rounds.values.find? fun round => round.session = session && round.index = index

def listed (book : Book R) (session : String) : List String :=
  ((book.session? session).map Session.objects).getD []

def sessionObjects (book : Book R) (session : String) : List (ObjectInstance R) :=
  match book.listed session with
  | [] => book.objects.values.filter (·.session = session)
  | ids => ids.filterMap book.objects.get?

def instance? (book : Book R) (session definition : String) (player : Option String) :
    Option (ObjectInstance R) :=
  (book.sessionObjects session).find? fun object =>
    object.definition = definition && object.player = player

def addEntry (book : Book R) (entry : Entry R) : Book R :=
  { book with entries := book.entries.put entry.id entry }

def addEntries (book : Book R) (entries : List (Entry R)) : Book R :=
  entries.foldl addEntry book

def removeEntry (book : Book R) (id : String) : Book R :=
  { book with entries := book.entries.erase id }

/-- A session that lists its objects lists one that is stored for it. -/
def listObject (sessions : Table Session) (object : ObjectInstance R) : Table Session :=
  match sessions.get? object.session with
  | none => sessions
  | some session =>
    if session.objects.isEmpty || session.objects.contains object.id then sessions
    else sessions.put object.session { session with objects := session.objects ++ [object.id] }

def putObject (book : Book R) (object : ObjectInstance R) : Book R :=
  { book with
    objects := book.objects.put object.id object
    sessions := listObject book.sessions object }

def putObjects (book : Book R) (objects : List (ObjectInstance R)) : Book R :=
  objects.foldl putObject book

def unusedOrigin (book : Book R) : Nat :=
  (book.objects.values.map ObjectInstance.latestOrigin).foldl max 0 + 1

def templateOrigin (book : Book R) : Origin :=
  if book.oneText then .text else .single book.unusedOrigin

/-- Adds an instance that comes from outside the book. -/
def admitObject (book : Book R) (object : ObjectInstance R) : Book R :=
  book.putObject (object.withOrigins book.unusedOrigin (book.unusedOrigin + 1))

def admitObjects (book : Book R) (objects : List (ObjectInstance R)) : Book R :=
  objects.foldl admitObject book

/-- The book with every value given on its own. -/
def apart (book : Book R) : Book R :=
  { book with
    objects := Table.ofList (book.objects.pairs.mapIdx fun index (key, object) =>
      (key, object.withOrigins (2 * index + 1) (2 * index + 2)))
    oneText := false }

end Book

end Scorekeeper
