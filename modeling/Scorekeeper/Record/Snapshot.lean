import Scorekeeper.Game.Book
import Scorekeeper.Record.Field

set_option autoImplicit false

namespace Scorekeeper.Record

variable {R : Type} [Scalar R]

def stored : Dialect := ⟨true, .modelType⟩

def directions : List (String × Direction) :=
  [("higherWins", .higherWins), ("lowerWins", .lowerWins)]

def displayTypes : List (String × DisplayType) :=
  [("sum", .sum), ("formula", .formula), ("weighted", .weighted)]

def sources : List (String × Source) :=
  [("manual", .manual), ("ruleEngine", .ruleEngine)]

def subjects : List (String × Subject) :=
  [("total", .total), ("category", .category), ("round", .round)]

def comparisons : List (String × Comparison) :=
  [Comparison.atLeast, .atMost, .equal, .unequal, .above, .below].map fun comparison =>
    (comparison.text, comparison)

def effects : List (String × Effect) :=
  [("add", .add), ("multiply", .multiply), ("set", .set)]

def objectKinds : List (String × ObjectKind) :=
  [("number", .number), ("boolean", .boolean), ("string", .string), ("resource", .resource),
    ("territory", .territory), ("card", .card), ("custom", .custom), ("set", .set)]

def setKinds : List (String × SetKind) :=
  [("identical", .identical), ("elements", .elements)]

def plainOwnerships : List (String × Ownership) :=
  [("global", .shared), ("player", .player), ("inactive", .inactive)]

variable (dialect : Dialect)

def settings : Reading R SessionSettings :=
  record dialect fun fields =>
    (fun roundsEnabled direction allowNegative => { roundsEnabled, direction, allowNegative })
      <$> defaulted dialect fields "rounds_enabled" bool false
      <*> defaulted dialect fields "score_direction" (oneOf directions) .higherWins
      <*> defaulted dialect fields "allow_negative" bool true

def session : Reading R Session :=
  record dialect fun fields =>
    (fun id title settings players rounds rules objects template =>
        { id, title, players, rounds, rules, objects, template, settings })
      <$> required dialect fields "id" text
      <*> defaulted dialect fields "title" text ""
      <*> defaulted dialect fields "settings" (settings dialect) {}
      <*> defaulted dialect fields "player_ids" (list text) []
      <*> defaulted dialect fields "round_ids" (list text) []
      <*> defaulted dialect fields "rule_ids" (list text) []
      <*> defaulted dialect fields "object_value_ids" (list text) []
      <*> given dialect fields "template_id" text

def category : Reading R (Category R) :=
  record dialect fun fields =>
    (fun id session name order parentId weight formula display =>
        { id, session, name, display, parentId, formula, weight, order })
      <$> required dialect fields "id" text
      <*> required dialect fields "session_id" text
      <*> required dialect fields "name" text
      <*> defaulted dialect fields "sort_order" whole 0
      <*> given dialect fields "parent_category_id" text
      <*> given dialect fields "weight" score
      <*> given dialect fields "formula" text
      <*> defaulted dialect fields "display_type" (oneOf displayTypes) .sum

def round : Reading R Round :=
  record dialect fun fields =>
    (fun id session index label => { id, session, index, label })
      <$> required dialect fields "id" text
      <*> required dialect fields "session_id" text
      <*> required dialect fields "index" whole
      <*> defaulted dialect fields "label" text ""

def entry : Reading R (Entry R) :=
  record dialect fun fields =>
    (fun id session player createdAt value round category note source =>
        { id, session, player := some player, value, createdAt, category, round, note, source })
      <$> required dialect fields "id" text
      <*> required dialect fields "session_id" text
      <*> required dialect fields "player_id" text
      <*> required dialect fields "created_at" score
      <*> required dialect fields "value" score
      <*> given dialect fields "round_id" text
      <*> given dialect fields "category_id" text
      <*> given dialect fields "note" text
      <*> defaulted dialect fields "source" (oneOf sources) .manual

def figure : Reading R (Figure R) := fun value =>
  (score value).map fun amount => { amount, quoted := value.isText }

def condition : Reading R (Condition R) :=
  record dialect fun fields =>
    (fun subject comparison value category round => { subject, comparison, value, category, round })
      <$> required dialect fields "type" (oneOf subjects)
      <*> required dialect fields "operator" (oneOf comparisons)
      <*> required dialect fields "value" figure
      <*> given dialect fields "category_id" text
      <*> given dialect fields "round_id" text

def action : Reading R (Action R) :=
  record dialect fun fields =>
    (fun effect value target => { effect, value, target })
      <$> required dialect fields "type" (oneOf effects)
      <*> required dialect fields "value" figure
      <*> given dialect fields "target_category_id" text

def rule : Reading R (Rule R) :=
  record dialect fun fields =>
    (fun id session name condition action enabled templateRule =>
        { id, session, name, condition, action, enabled, templateRule })
      <$> defaulted dialect fields "id" text ""
      <*> defaulted dialect fields "session_id" text ""
      <*> required dialect fields "name" text
      <*> required dialect fields "condition" (condition dialect)
      <*> required dialect fields "action" (action dialect)
      <*> defaulted dialect fields "enabled" bool true
      <*> given dialect fields "template_rule_id" text

def ruleTemplate : Reading R (RuleTemplate R) :=
  record dialect fun fields =>
    (fun id name description condition action enabled required =>
        { id, name, condition, action, enabled, required, description })
      <$> required dialect fields "id" text
      <*> required dialect fields "name" text
      <*> given dialect fields "description" text
      <*> required dialect fields "condition" (condition dialect)
      <*> required dialect fields "action" (action dialect)
      <*> defaulted dialect fields "enabled" bool true
      <*> defaulted dialect fields "required" bool false

def objectReference : Reading R Ownership :=
  record dialect fun fields =>
    (fun _ id => .ofObject id)
      <$> required dialect fields "type" (oneOf [("object", ())])
      <*> required dialect fields "object_id" text

def ownership : Reading R Ownership := fun value =>
  .either ((oneOf plainOwnerships value).inside "literal['global','player','inactive']")
    ((objectReference dialect value).inside "ObjectReference")

inductive WindowKind
  | round
  | phase
  | object

def windowKinds : List (String × WindowKind) :=
  [("round", .round), ("phase", .phase), ("object", .object)]

def windowRecord : Reading R Window :=
  record dialect fun fields =>
    (fun kind round index phase object => match kind with
        | .round => .round round index
        | .phase => .phase phase
        | .object => .whileObject (object.getD ""))
      <$> required dialect fields "type" (oneOf windowKinds)
      <*> given dialect fields "round_id" text
      <*> given dialect fields "round_index" whole
      <*> given dialect fields "phase_id" text
      <*> given dialect fields "object_id" text

def window : Reading R Window := fun value =>
  .either ((oneOf [("always", .always)] value).inside "literal['always']")
    ((windowRecord dialect value).inside "WindowSnapshot")

def definition : Reading R (ObjectDefinition R) :=
  record dialect fun fields =>
    (fun id name kind defaultValue least most options description ownership? window? calculation
          scoreImpact setKind setElements =>
        { id, name, kind, ownership?, window?, calculation, scoreImpact, defaultValue, least, most,
          options, setKind, setElements, description })
      <$> required dialect fields "id" text
      <*> required dialect fields "name" text
      <*> defaulted dialect fields "type" (oneOf objectKinds) .number
      <*> defaulted dialect fields "default_value" anything .null
      <*> given dialect fields "min" score
      <*> given dialect fields "max" score
      <*> given dialect fields "options" (list text)
      <*> given dialect fields "description" text
      <*> given dialect fields "ownership" (ownership dialect)
      <*> given dialect fields "active_window" (window dialect)
      <*> given dialect fields "calculation" text
      <*> given dialect fields "score_impact" text
      <*> given dialect fields "set_type" (oneOf setKinds)
      <*> defaulted dialect fields "set_elements" (list text) []

def mechanic : Reading R (Mechanic R) :=
  record dialect fun fields =>
    (fun id kind name config enabled => { id, kind, name, enabled, config })
      <$> required dialect fields "id" text
      <*> required dialect fields "type" text
      <*> defaulted dialect fields "name" text ""
      <*> defaulted dialect fields "config" (pairs anything) []
      <*> defaulted dialect fields "enabled" bool true

def template : Reading R (Template R) :=
  record dialect fun fields =>
    (fun id name version rules objects mechanics => { id, name, objects, rules, mechanics, version })
      <$> required dialect fields "id" text
      <*> required dialect fields "name" text
      <*> defaulted dialect fields "version" text "1.0"
      <*> defaulted dialect fields "rule_templates" (list (ruleTemplate dialect)) []
      <*> defaulted dialect fields "object_definitions" (list (definition dialect)) []
      <*> defaulted dialect fields "mechanics" (list (mechanic dialect)) []

def object : Reading R (ObjectInstance R) :=
  record dialect fun fields =>
    (fun id session definition player stored updatedAt updatedBy state computed lastComputedAt =>
        { id, session, definition, stored := .ofText stored, player, computed := .ofText computed,
          state, updatedAt, updatedBy, lastComputedAt })
      <$> required dialect fields "id" text
      <*> required dialect fields "session_id" text
      <*> required dialect fields "object_definition_id" text
      <*> given dialect fields "player_id" text
      <*> defaulted dialect fields "value" anything .null
      <*> defaulted dialect fields "updated_at" score Scalar.zero
      <*> defaulted dialect fields "updated_by" text "manual"
      <*> given dialect fields "state" text
      <*> defaulted dialect fields "computed_value" anything .null
      <*> given dialect fields "last_computed_at" score

def table {A : Type} (reading : Reading R A) : Reading R (Table A) := fun value =>
  (pairs reading value).map Table.ofList

/-- A book of one text, whose object values are still as the document has them. -/
def book : Reading R (Book R) :=
  record dialect fun fields =>
    (fun sessions categories rounds entries rules templates objects =>
        { sessions, categories, rounds, entries, rules, templates, objects, oneText := true })
      <$> defaulted dialect fields "sessions" (table (session dialect)) .empty
      <*> defaulted dialect fields "categories" (table (category dialect)) .empty
      <*> defaulted dialect fields "rounds" (table (round dialect)) .empty
      <*> defaulted dialect fields "entries" (table (entry dialect)) .empty
      <*> defaulted dialect fields "rules" (table (rule dialect)) .empty
      <*> defaulted dialect fields "templates" (table (template dialect)) .empty
      <*> defaulted dialect fields "object_values" (table (object dialect)) .empty

end Scorekeeper.Record
