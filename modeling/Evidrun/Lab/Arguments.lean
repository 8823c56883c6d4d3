import Mathlib.Data.List.Infix
import Evidrun.Lib.DocumentSchema

/-!
# Tool arguments and refusals of the Lab Agent

What a provider sends as the arguments of a tool call, how it is read and checked
against the schema of the tool (`lab/turn.py`), and the refusals that name why a call
was not served (`contracts/lab_agent/errors.py`).

A Python string is its code points, since `json.loads` reads an escaped unpaired
surrogate as one. Such a string has no UTF-8 encoding.
-/

namespace Evidrun.Lab

open DocumentSchema

set_option autoImplicit false

/-! ## Values -/

/-- A Python string, by its code points. -/
abbrev PyStr : Type := List Nat

def PyStr.ofText (text : String) : PyStr := text.toList.map Char.toNat

def isSurrogate (point : Nat) : Bool := 0xD800 ≤ point && point ≤ 0xDFFF

/-- `encode("utf-8")` does not raise. -/
def PyStr.encodable (text : PyStr) : Bool := text.all fun point => !isSurrogate point

/-- The text of a string without surrogates. -/
def PyStr.toText? (text : PyStr) : Option String :=
  if text.encodable then some (String.ofList (text.map Char.ofNat)) else none

/-- What `json.loads` builds. -/
inductive PyValue
  | none
  | bool (value : Bool)
  | int (value : Int)
  | float (value : Rat)
  | str (value : PyStr)
  | list (items : List PyValue)
  | dict (entries : List (PyStr × PyValue))

abbrev PyDict : Type := List (PyStr × PyValue)

mutual

/-- No string inside has a surrogate. -/
def PyValue.encodable : PyValue → Bool
  | .none | .bool _ | .int _ | .float _ => true
  | .str value => PyStr.encodable value
  | .list items => encodableItems items
  | .dict entries => encodableEntries entries

def encodableItems : List PyValue → Bool
  | [] => true
  | item :: rest => item.encodable && encodableItems rest

def encodableEntries : List (PyStr × PyValue) → Bool
  | [] => true
  | (key, value) :: rest => PyStr.encodable key && (value.encodable && encodableEntries rest)

end

/-- `entries.get(key)`. -/
def PyDict.get? (entries : PyDict) (key : PyStr) : Option PyValue := entries.lookup key

def PyDict.keys (entries : PyDict) : List PyStr := entries.map Prod.fst

/-- An entry that is there and not `None`. -/
def PyDict.given (entries : PyDict) (key : String) : Option PyValue :=
  match PyDict.get? entries (PyStr.ofText key) with
  | some .none | Option.none => Option.none
  | some value => some value

/-! ## Refusals -/

inductive LabAgentStage
  | catalog | budget | schema | scope | classification | authority | draft
deriving DecidableEq

def LabAgentStage.value : LabAgentStage → String
  | .catalog => "catalog"
  | .budget => "budget"
  | .schema => "schema"
  | .scope => "scope"
  | .classification => "classification"
  | .authority => "authority"
  | .draft => "draft"

inductive LabAgentErrorCode
  | catalogToolUnknown
  | catalogToolNotOffered
  | budgetToolCallsExhausted
  | budgetRoundTripsExhausted
  | budgetWallTimeExhausted
  | budgetRefusalsExhausted
  | budgetRefusalRepeated
  | schemaArgumentSetInvalid
  | schemaArgumentTypeInvalid
  | schemaArgumentLimitExceeded
  | schemaScopeArgumentForbidden
  | scopeTargetNotVisible
  | scopeFocusMismatch
  | scopeProjectRequired
  | classificationGrantRequired
  | authorityHumanDecisionRequired
  | authorityLedgerWriteForbidden
  | authorityPersistedEffectForbidden
  | draftValidationFailed
  | draftNotValidated
  | draftScopeOverrideForbidden
deriving DecidableEq

namespace LabAgentErrorCode

def stage : LabAgentErrorCode → LabAgentStage
  | catalogToolUnknown | catalogToolNotOffered => .catalog
  | budgetToolCallsExhausted | budgetRoundTripsExhausted | budgetWallTimeExhausted
  | budgetRefusalsExhausted | budgetRefusalRepeated => .budget
  | schemaArgumentSetInvalid | schemaArgumentTypeInvalid | schemaArgumentLimitExceeded
  | schemaScopeArgumentForbidden => .schema
  | scopeTargetNotVisible | scopeFocusMismatch | scopeProjectRequired => .scope
  | classificationGrantRequired => .classification
  | authorityHumanDecisionRequired | authorityLedgerWriteForbidden
  | authorityPersistedEffectForbidden => .authority
  | draftValidationFailed | draftNotValidated | draftScopeOverrideForbidden => .draft

def value : LabAgentErrorCode → String
  | catalogToolUnknown => "catalog.tool_unknown"
  | catalogToolNotOffered => "catalog.tool_not_offered"
  | budgetToolCallsExhausted => "budget.tool_calls_exhausted"
  | budgetRoundTripsExhausted => "budget.round_trips_exhausted"
  | budgetWallTimeExhausted => "budget.wall_time_exhausted"
  | budgetRefusalsExhausted => "budget.refusals_exhausted"
  | budgetRefusalRepeated => "budget.refusal_repeated"
  | schemaArgumentSetInvalid => "schema.argument_set_invalid"
  | schemaArgumentTypeInvalid => "schema.argument_type_invalid"
  | schemaArgumentLimitExceeded => "schema.argument_limit_exceeded"
  | schemaScopeArgumentForbidden => "schema.scope_argument_forbidden"
  | scopeTargetNotVisible => "scope.target_not_visible"
  | scopeFocusMismatch => "scope.focus_mismatch"
  | scopeProjectRequired => "scope.project_required"
  | classificationGrantRequired => "classification.grant_required"
  | authorityHumanDecisionRequired => "authority.human_decision_required"
  | authorityLedgerWriteForbidden => "authority.ledger_write_forbidden"
  | authorityPersistedEffectForbidden => "authority.persisted_effect_forbidden"
  | draftValidationFailed => "draft.validation_failed"
  | draftNotValidated => "draft.not_validated"
  | draftScopeOverrideForbidden => "draft.scope_override_forbidden"

/-- The value of `CATEGORY_BY_CODE`. -/
def category : LabAgentErrorCode → String
  | catalogToolUnknown | catalogToolNotOffered | scopeTargetNotVisible | scopeFocusMismatch =>
      "not_found"
  | budgetToolCallsExhausted | budgetRoundTripsExhausted | budgetWallTimeExhausted
  | budgetRefusalsExhausted | budgetRefusalRepeated => "exhausted"
  | schemaArgumentSetInvalid | schemaArgumentTypeInvalid | schemaArgumentLimitExceeded
  | schemaScopeArgumentForbidden | draftValidationFailed => "invalid"
  | scopeProjectRequired | authorityHumanDecisionRequired | authorityLedgerWriteForbidden
  | authorityPersistedEffectForbidden | draftNotValidated | draftScopeOverrideForbidden =>
      "rejected"
  | classificationGrantRequired => "forbidden"

/-- The message and the remediation of the refusals that the loop itself makes. -/
def messages : LabAgentErrorCode → Option (String × String)
  | catalogToolUnknown => some ("A tool solicitada não existe no catálogo efetivo.",
      "Use somente uma tool anunciada nesta sessão.")
  | catalogToolNotOffered => some ("A tool solicitada não é oferecida nesta forma de sessão.",
      "Use uma tool anunciada ou abra a forma de sessão necessária.")
  | budgetToolCallsExhausted => some ("O teto de tool calls deste turno foi alcançado.",
      "Responda com o trabalho já concluído; não solicite outra tool.")
  | budgetWallTimeExhausted => some ("O teto de tempo deste turno foi alcançado.",
      "Responda com o trabalho já concluído.")
  | schemaArgumentSetInvalid => some
      ("O conjunto de argumentos não corresponde ao schema da tool.",
        "Use exatamente as chaves declaradas pela tool.")
  | schemaArgumentTypeInvalid => some ("Um argumento não corresponde ao tipo declarado.",
      "Corrija o tipo do campo indicado antes de tentar novamente.")
  | schemaArgumentLimitExceeded => some ("Um argumento excede o limite declarado.",
      "Reduza o valor ao teto declarado antes de tentar novamente.")
  | schemaScopeArgumentForbidden => some
      ("Scope, sessão e autoridade não podem ser argumentos de tool.",
        "Remova o campo; o runtime deriva o scope da sessão validada.")
  | _ => none

end LabAgentErrorCode

/-- A named refusal; its stage is that of its code. -/
structure LabAgentError where
  code : LabAgentErrorCode
  message : String
  remediation : String
  fieldPath : List String
  toolName : Option String

/-- What serving a call can raise. -/
inductive Fault
  | providerRequestError
  /-- A `ValueError`, which a pydantic `ValidationError` and a `UnicodeEncodeError` are. -/
  | valueError
  | typeError
  | keyError
  /-- Any other exception. -/
  | other (name : String)
deriving DecidableEq

/-- A `NonEmptyStr`. -/
def nonEmptyText (text : String) : Except Fault String :=
  if strip text = "" then .error .valueError else .ok (strip text)

def pathText (part : PyStr) : Except Fault String :=
  match PyStr.toText? part with
  | some text => nonEmptyText text
  | none => .error .valueError

def refusalError (code : LabAgentErrorCode) (toolName : String) (fieldPath : List PyStr) :
    Except Fault LabAgentError :=
  match code.messages with
  | none => .error .valueError
  | some (message, remediation) => do
      let fieldPath ← fieldPath.mapM pathText
      let toolName ← nonEmptyText toolName
      .ok ⟨code, message, remediation, fieldPath, some toolName⟩

def errorPayload (error : LabAgentError) : PyValue :=
  let text (value : String) : PyValue := .str (PyStr.ofText value)
  .dict [(PyStr.ofText "stage", text error.code.stage.value),
    (PyStr.ofText "code", text error.code.value),
    (PyStr.ofText "category", text error.code.category),
    (PyStr.ofText "message", text error.message),
    (PyStr.ofText "remediation", text error.remediation),
    (PyStr.ofText "field_path", .list (error.fieldPath.map text)),
    (PyStr.ofText "tool_name", (error.toolName.map text).getD .none)]

/-! ## Reading the arguments -/

/-- `parse_arguments`; `none` of the codec is a `JSONDecodeError`. -/
def parseArguments (loads : String → Except Fault (Option PyValue)) (raw toolName : String) :
    Except Fault (PyDict × Option LabAgentError) := do
  match ← loads raw with
  | some (.dict entries) => .ok (entries, none)
  | some value => do
      let error ← refusalError .schemaArgumentTypeInvalid toolName []
      .ok ([(PyStr.ofText "$value", value)], some error)
  | none => do
      let error ← refusalError .schemaArgumentTypeInvalid toolName []
      .ok ([(PyStr.ofText "$raw", .str (PyStr.ofText raw))], some error)

/-! ## The schema of a tool -/

section Schema

variable (toolName : String)

/-- The first check that refuses or raises. -/
def firstError : List (Except Fault (Option LabAgentError)) → Except Fault (Option LabAgentError)
  | [] => .ok none
  | check :: rest => do
      match ← check with
      | some error => .ok (some error)
      | none => firstError rest

def refuseWhen (condition : Bool) (code : LabAgentErrorCode) (path : List PyStr) :
    Except Fault (Option LabAgentError) :=
  if condition then do .ok (some (← refusalError code toolName path)) else .ok none

/-- A limit of a rule; comparing with anything that is no number raises. -/
def limitOf (rule : PyDict) (key : String) : Except Fault (Option Rat) :=
  match PyDict.given rule key with
  | none => .ok none
  | some (.int value) => .ok (some value)
  | some (.float value) => .ok (some value)
  | some (.bool value) => .ok (some (if value then 1 else 0))
  | some _ => .error .typeError

def checkLimit (rule : PyDict) (key : String) (exceeded : Rat → Bool) (path : List PyStr) :
    Except Fault (Option LabAgentError) := do
  match ← limitOf rule key with
  | some limit => refuseWhen toolName (exceeded limit) .schemaArgumentLimitExceeded path
  | none => .ok none

/-- `value in choices`. -/
def inChoices (value : PyStr) : PyValue → Except Fault Bool
  | .list items => .ok (items.any fun item => match item with
      | .str choice => choice == value
      | _ => false)
  | .dict entries => .ok (decide (value ∈ PyDict.keys entries))
  | .str text => .ok (decide (value <:+: text))
  | _ => .error .typeError

def checkChoices (rule : PyDict) (value : PyStr) (path : List PyStr) :
    Except Fault (Option LabAgentError) :=
  match PyDict.given rule "enum" with
  | none => .ok none
  | some choices => do
      let inside ← inChoices value choices
      refuseWhen toolName (!inside) .schemaArgumentTypeInvalid path

/-- `validators.get(expected, False)`, which raises for an unhashable `expected`. -/
def typeMatches (expected : Option PyValue) (value : PyValue) : Except Fault Bool :=
  match expected with
  | some (.str name) =>
      .ok (match value with
        | .str _ => name = PyStr.ofText "string"
        | .int _ => name = PyStr.ofText "integer" || name = PyStr.ofText "number"
        | .float _ => name = PyStr.ofText "number"
        | .bool _ => name = PyStr.ofText "boolean"
        | .list _ => name = PyStr.ofText "array"
        | .dict _ => name = PyStr.ofText "object"
        | .none => name = PyStr.ofText "null")
  | some (.list _) | some (.dict _) => .error .typeError
  | _ => .ok false

/-- `value is None and rule.get("nullable") is True`. -/
def isAllowedNull (rule : PyDict) : PyValue → Bool
  | .none => match PyDict.given rule "nullable" with
      | some (.bool true) => true
      | _ => false
  | _ => false

def checkNumber (rule : PyDict) (value : Rat) (path : List PyStr) :
    Except Fault (Option LabAgentError) :=
  firstError [checkLimit toolName rule "maximum" (fun limit => decide (value > limit)) path,
    checkLimit toolName rule "minimum" (fun limit => decide (value < limit)) path]

mutual

def validateValue (rule : PyDict) (path : List PyStr) (value : PyValue) :
    Except Fault (Option LabAgentError) := do
  if isAllowedNull rule value then .ok none
  else if !(← typeMatches (PyDict.given rule "type") value) then
    refuseWhen toolName true .schemaArgumentTypeInvalid path
  else match value with
    | .str text =>
        firstError
          [checkLimit toolName rule "maxLength" (fun limit => decide ((text.length : Rat) > limit))
              path,
            checkLimit toolName rule "minLength" (fun limit => decide ((text.length : Rat) < limit))
              path,
            checkChoices toolName rule text path]
    | .int number => checkNumber toolName rule number path
    | .float number => checkNumber toolName rule number path
    | .list items => do
        let tooMany ← checkLimit toolName rule "maxItems"
          (fun limit => decide ((items.length : Rat) > limit)) path
        match tooMany, PyDict.given rule "items" with
        | some error, _ => .ok (some error)
        | none, some (.dict itemRule) => validateItems itemRule path 0 items
        | none, _ => .ok none
    | _ => .ok none

def validateItems (rule : PyDict) (path : List PyStr) (index : Nat) :
    List PyValue → Except Fault (Option LabAgentError)
  | [] => .ok none
  | item :: rest => do
      match ← validateValue rule (path ++ [PyStr.ofText (toString index)]) item with
      | some error => .ok (some error)
      | none => validateItems rule path (index + 1) rest

end

/-- The keys that only the runtime sets, in order. -/
def forbiddenScopeKeys : List String :=
  ["actor", "authority", "project_id", "scope", "session_id", "workspace_id"]

def validateSchema (schema arguments : PyDict) : Except Fault (Option LabAgentError) :=
  let keys := PyDict.keys arguments
  match forbiddenScopeKeys.find? fun key => PyStr.ofText key ∈ keys with
  | some field =>
      refuseWhen toolName true .schemaScopeArgumentForbidden [PyStr.ofText field]
  | none =>
      let declared := match PyDict.get? schema (PyStr.ofText "properties") with
        | some (.dict properties) => PyDict.keys properties
        | _ => []
      if !(keys.all (· ∈ declared) && declared.all (· ∈ keys)) then
        refuseWhen toolName true .schemaArgumentSetInvalid []
      else match PyDict.get? schema (PyStr.ofText "properties") with
        | some (.dict properties) => firstError <| arguments.map fun entry =>
            match PyDict.get? properties entry.1 with
            | some (.dict rule) => validateValue toolName rule [entry.1] entry.2
            | _ => refuseWhen toolName true .schemaArgumentTypeInvalid [entry.1]
        | _ => refuseWhen toolName true .schemaArgumentSetInvalid []

end Schema

end Evidrun.Lab
