import Scorekeeper.Record.Elements

set_option autoImplicit false

namespace Scorekeeper

variable {R : Type}

structure FormulaRequest where
  formula : String

structure EvaluateRequest (R : Type) where
  formula : String
  references : List (String × R)
  roundIndex : Option Int

structure EntryRequest (R : Type) where
  player : String
  value : R
  category : Option String
  round : Option String
  note : Option String

structure RuleTestRequest (R : Type) where
  player : String
  round : Option String
  ruleId : Option String
  rule : Option (Rule R)

namespace Record

/-- How a request is read, and the records inside it; `noRecord` is the fault of a body that is
none. -/
def requestDialect (noRecord : FieldFault) : Dialect := ⟨false, noRecord⟩

def storedDialect (noRecord : FieldFault) : Dialect := ⟨true, noRecord⟩

variable [Scalar R] (noRecord : FieldFault)

def formulaRequest : Reading R FormulaRequest :=
  let dialect := requestDialect noRecord
  record dialect fun fields =>
    FormulaRequest.mk <$> required dialect fields "formula" text

def evaluateRequest : Reading R (EvaluateRequest R) :=
  let dialect := requestDialect noRecord
  record dialect fun fields =>
    EvaluateRequest.mk
      <$> required dialect fields "formula" text
      <*> defaulted dialect fields "references" (pairs score) []
      <*> given dialect fields "round_index" whole

def entryRequest : Reading R (EntryRequest R) :=
  let dialect := requestDialect noRecord
  record dialect fun fields =>
    EntryRequest.mk
      <$> required dialect fields "player_id" text
      <*> required dialect fields "value" score
      <*> given dialect fields "category_id" text
      <*> given dialect fields "round_id" text
      <*> given dialect fields "note" text

def ruleTestRequest : Reading R (RuleTestRequest R) :=
  let dialect := requestDialect noRecord
  record dialect fun fields =>
    RuleTestRequest.mk
      <$> required dialect fields "player_id" text
      <*> given dialect fields "round_id" text
      <*> given dialect fields "rule_id" text
      <*> given dialect fields "rule" (rule (storedDialect noRecord))

end Record

end Scorekeeper
