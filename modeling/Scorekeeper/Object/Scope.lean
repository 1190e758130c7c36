import Scorekeeper.Game.Book

set_option autoImplicit false

/-!
# Scopes

A scope is where something is evaluated: a book, a session, a player or nobody in particular, and a
round or none.  It also holds the objects whose references are being followed, so that references
that lead back to them can be cut.
-/

namespace Scorekeeper

structure Scope (R : Type) where
  book : Book R
  session : String
  player : Option String := none
  round : Option String := none
  resolving : List String := []

namespace Scope

variable {R : Type}

def template? (scope : Scope R) : Option (Template R) :=
  scope.book.template? scope.session

def definitions (scope : Scope R) : List (ObjectDefinition R) :=
  match scope.template? with
  | none => []
  | some template => template.objects

def roundIndex (scope : Scope R) : Int :=
  match scope.book.round? scope.round with
  | none => 0
  | some round => round.index

def forPlayer (scope : Scope R) (player : Option String) : Scope R :=
  { scope with player := player }

def entering (scope : Scope R) (definition : String) : Scope R :=
  { scope with resolving := definition :: scope.resolving }

def categories (scope : Scope R) : List (Category R) :=
  scope.book.sessionCategories scope.session

def instance? (scope : Scope R) (definition : String) : Option (ObjectInstance R) :=
  scope.book.instance? scope.session definition scope.player

end Scope

end Scorekeeper
