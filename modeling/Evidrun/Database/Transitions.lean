import Evidrun.Database.Store

/-!
# The Run lifecycle and the protocol of a Subject turn

The rules that decide from a Run's status and its earlier events whether an
event may follow: the lifecycle machine (`ledger/transitions.py`), phase
validity (`_validate_phase`) and the pairing of tool calls with their results
(`check_tool_events`). They read no other table.
-/

namespace Evidrun.Database

open JsonText DocumentSchema Evidrun.Contracts

set_option autoImplicit false

/-! ## Statuses -/

/-- `TERMINAL_RUN_STATUSES`. -/
def terminalStatus : RunStatus → Bool
  | .completed | .failed | .cancelled | .budgetExhausted | .guardrailStopped => true
  | _ => false

/-- `TERMINAL_EVENT_TYPES`. -/
def terminalEvent : EventType → Bool
  | .runCompleted | .runFailed | .runCancelled | .runBudgetExhausted | .runGuardrailStopped => true
  | _ => false

def openStatuses : List RunStatus := [.queued, .preparing, .running, .paused, .evaluating]

/-- From which statuses a lifecycle event may come, and where it leads. -/
def lifecycleRule : EventType → Option (List RunStatus × RunStatus)
  | .runPreparing => some ([.queued], .preparing)
  | .runRunning => some ([.preparing], .running)
  | .runPaused => some ([.running], .paused)
  | .runResumed => some ([.paused], .running)
  | .runEvaluating => some ([.running], .evaluating)
  | .runCompleted => some ([.evaluating], .completed)
  | .runFailed => some (openStatuses, .failed)
  | .runCancelled => some (openStatuses, .cancelled)
  | .runBudgetExhausted => some (openStatuses, .budgetExhausted)
  | .runGuardrailStopped => some (openStatuses, .guardrailStopped)
  | _ => none

/-- `payload.get(name)` is `None` or the expected text. -/
def declares (payload : Json) (name expected : String) : Bool :=
  payload.field name == .null || payload.field name == .str expected

/-- The status rules of `event_transition`, without the identity check of `run.queued`. -/
def statusTransition (status : RunStatus) (kind : EventType) (payload : Json)
    (hasPriorEvent : Bool) : Except Exc (Option RunStatus) := do
  require (!terminalStatus status)
    (.valueError "no Run events may be appended after a terminal lifecycle event")
  require (hasPriorEvent || kind == .runQueued)
    (.valueError "run.queued must be the first Run event")
  if kind = .runQueued then
    require (!hasPriorEvent && status == .queued)
      (.valueError "run.queued must be the first lifecycle event")
    .ok none
  else
    match lifecycleRule kind with
    | none => .ok none
    | some (allowedFrom, target) => do
        require (status ∈ allowedFrom)
          (.valueError ("invalid Run lifecycle transition: " ++ status.text ++ " -> " ++ target.text))
        require (declares payload "from_status" status.text)
          (.valueError "Run lifecycle payload has an incorrect from_status")
        require (declares payload "status" target.text)
          (.valueError "terminal event type and payload status do not match")
        .ok (some target)

def eventTransition (run : RunRow) (kind : EventType) (payload : Json) (hasPriorEvent : Bool) :
    Except Exc (Option RunStatus) := do
  let next ← statusTransition run.status kind payload hasPriorEvent
  require (kind != .runQueued || (payload.field "run_id" == .str run.id &&
      payload.field "variant_id" == .str run.variantId))
    (.valueError "run.queued identity does not match the RunRecord")
  .ok next

/-! ## Facts of a Run -/

/-- An event as the rules read it. -/
structure Fact where
  eventType : EventType
  payload : Json

def RunEventRow.fact (row : RunEventRow) : Fact := ⟨row.eventType, row.payloadJson.document⟩

def countOf (kind : EventType) (prior : List Fact) : Nat :=
  prior.countP fun fact => fact.eventType = kind

def validatePhase (status : RunStatus) (kind : EventType) (prior : List Fact) :
    Except Exc Unit := do
  require (!terminalStatus status)
    (.valueError "no Run events may be appended after a terminal lifecycle event")
  require (kind.allowedRunStatuses.all (status ∈ ·))
    (.valueError (kind.text ++ " is not valid while the Run is " ++ status.text))
  require (kind != .subjectInvoked ||
      countOf .subjectInvoked prior == countOf .subjectResponded prior)
    (.valueError "Subject invocation requires the prior turn to be complete")
  require (kind != .subjectResponded ||
      countOf .subjectInvoked prior == countOf .subjectResponded prior + 1)
    (.valueError "Subject response requires one unmatched Subject invocation")
  require (kind != .runEvaluating || 0 < countOf .subjectResponded prior)
    (.valueError "Run cannot enter evaluation before a Subject response")

/-! ## Tool calls -/

/-- `payload[name]`. -/
def item (payload : Json) (name : String) : Except Exc Json :=
  orRaise (payload.get? name) (.keyError name)

/-- What the earlier events say about tools: offered capabilities as canonical
text, called payloads by call id (the latest first), and settled call ids. -/
structure ToolState where
  offered : List String
  calls : List (String × Json)
  terminals : List String

def ToolState.empty : ToolState := ⟨[], [], []⟩

/-- Read one earlier event. -/
def ToolState.record (state : ToolState) (fact : Fact) : Except Exc ToolState :=
  if fact.eventType = .capabilityOffered then do
    let ref ← item fact.payload "capability_ref"
    .ok { state with offered := canonicalJson ref :: state.offered }
  else if fact.eventType = .toolCalled then do
    let callId ← item fact.payload "call_id"
    .ok { state with calls := (callId.asString, fact.payload) :: state.calls }
  else if fact.eventType.settlesTool then do
    let callId ← item fact.payload "call_id"
    .ok { state with terminals := callId.asString :: state.terminals }
  else .ok state

def toolState (prior : List Fact) : Except Exc ToolState :=
  prior.foldlM ToolState.record .empty

def isDict : Json → Bool
  | .obj _ => true
  | _ => false

/-- Whether a tool event may follow what the earlier events say about tools. -/
def checkToolCall (state : ToolState) (kind : EventType) (payload : Json) : Except Exc Unit := do
  let callId := (← item payload "call_id").asString
  if kind = .toolCalled then
    let capability ← item payload "capability_ref"
    let arguments := payload.field "arguments_ref"
    require ((state.calls.lookup callId).isNone && canonicalJson capability ∈ state.offered &&
        isDict arguments && arguments.field "media_type" == .str "application/json" &&
        arguments.field "classification" == .str "internal")
      (.valueError "tool call is duplicate, unoffered, or missing canonical arguments")
  else
    let called ← orRaise (state.calls.lookup callId)
      (.valueError "tool result requires one unmatched canonical call")
    require (callId ∉ state.terminals)
      (.valueError "tool result requires one unmatched canonical call")
    let calledCapability ← item called "capability_ref"
    if kind = .toolCompleted ∨ kind = .toolFailed then
      let capability ← item payload "capability_ref"
      require (capability == calledCapability)
        (.valueError "tool result capability does not match its call")
    require (kind != .toolCompleted || isDict (payload.field "result_ref"))
      (.valueError "completed tool call requires a result artifact")

def checkToolEvents (kind : EventType) (payload : Json) (prior : List Fact) :
    Except Exc Unit := do
  require (countOf .subjectInvoked prior == countOf .subjectResponded prior + 1)
    (.valueError "tool events require one active Subject invocation")
  checkToolCall (← toolState prior) kind payload

/-- The call ids of the events of some types. -/
def callIds (select : EventType → Bool) (prior : List Fact) : Except Exc (List String) :=
  (prior.filter fun fact => select fact.eventType).mapM fun fact => do
    .ok (← item fact.payload "call_id").asString

/-- The called and not yet settled tool calls. -/
def openToolCalls (prior : List Fact) : Except Exc (List String) := do
  let called ← callIds (· == .toolCalled) prior
  let settled ← callIds EventType.settlesTool prior
  .ok (called.filter (· ∉ settled))

end Evidrun.Database
