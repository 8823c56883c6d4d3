import Evidrun.Contracts.Evaluation
import Evidrun.Database.Fencing
import Evidrun.Database.Transitions

/-!
# The Run ledger

How an event is admitted, sealed into the hash chain and written, by each of the
writers: `append_event` (`ledger/store.py`), the in-session appender
(`ledger/appender.py`) and the Subject response. The family checks follow
`ledger/handlers/`.
-/

namespace Evidrun.Database

open JsonText DocumentSchema Evidrun.Contracts

set_option autoImplicit false

/-! ## Event rows -/

def optionalStr : Option String → Json
  | some value => .str value
  | none => .null

/-- The envelope of an event: everything its hash covers. -/
def envelopeFields (head : EventHead) (payload : Json) : List (String × Json) :=
  [("event_id", .str head.id),
    ("schema_version", .str "1"),
    ("run_id", .str head.runId),
    ("sequence", .int head.sequence),
    ("type", .str head.eventType.text),
    ("occurred_at_utc", .str (isoformat head.occurredAt)),
    ("actor_type", .str head.actorType),
    ("actor_id", .str head.actorId),
    ("classification", .str head.classification),
    ("payload", payload),
    ("correlation_id", .str head.correlationId),
    ("causation_id", optionalStr head.causationId),
    ("prev_event_hash", optionalStr head.prevEventHash)]

/-- The row of an event with its payload text and hash. -/
def sealEvent (platform : Platform) (head : EventHead) (payload : Json)
    (operationKey : Option String) : RunEventRow :=
  { head with
    payloadJson := .write payload
    eventHash := sha256Json platform (.obj (envelopeFields head payload))
    operationKey := operationKey }

/-- The document of a stored event (`read_model/projections.py`). -/
def eventDocument (row : RunEventRow) : Json :=
  .obj (envelopeFields row.toEventHead row.payloadJson.document ++
    [("event_hash", .str row.eventHash)])

/-! ## Family checks -/

/-- Read a contract of the Run from its row. -/
def readRunSpec (platform : Platform) (row : RunSpecRow) : Except Exc Json := do
  .ok (← validated (RunSpec.modelValidate platform row.specJson.document)).dump

def readAdmission (platform : Platform) (row : AdmissionRecordRow) : Except Exc Json := do
  .ok (← validated (AdmissionRecord.modelValidate platform row.recordJson.document)).dump

def readEvaluation (platform : Platform) (row : EvaluationRecordRow) : Except Exc Json := do
  .ok (← validated (EvaluationRecord.modelValidate platform row.recordJson.document)).dump

/-- The RunSpec row of a Run, with the texts for a Run without one and for a missing row. -/
def runSpecRowOf (store : Store) (run : RunRow) (noSpec missing : String) :
    Except Exc RunSpecRow := do
  let id ← orRaise run.runSpecId (.valueError noSpec)
  orRaise (store.runSpec? id) (.valueError missing)

def checkEvaluationCompleted (store : Store) (runId : String) (payload : Json)
    (prior : List Fact) : Except Exc Unit := do
  let evaluationId := (← item payload "evaluation_record_id").asString
  let exact := Exc.valueError "evaluation.completed requires the exact persisted EvaluationRecord"
  let evaluation ← orRaise (store.evaluation? evaluationId) exact
  require (evaluation.runId == runId) exact
  require (.str evaluation.recordDigest == (← item payload "evaluation_record_digest")) exact
  require (evaluation.recordJson.document.field "gate_status" == (← item payload "gate_status"))
    exact
  require (!prior.any fun fact => fact.eventType == .evaluationCompleted &&
      fact.payload.field "evaluation_record_id" == .str evaluationId)
    (.valueError "EvaluationRecord already has a completion event")

def checkRunQueued (store : Store) (run : RunRow) (payload : Json) : Except Exc Unit := do
  let noContracts := Exc.valueError "run.queued requires canonical Run contracts"
  let missing := Exc.valueError "run.queued references missing Run contracts"
  let specId ← orRaise run.runSpecId noContracts
  let admissionId ← orRaise run.admissionId noContracts
  let spec ← orRaise (store.runSpec? specId) missing
  let admission ← orRaise (store.admission? admissionId) missing
  require (payload.field "run_spec_digest" == .str spec.digest &&
      payload.field "admission_digest" == .str admission.digest)
    (.valueError "run.queued contract digests do not match the RunRecord")

/-- `bool(json.loads(text))` of a list or an object. -/
def truthy : Json → Bool
  | .arr [] | .obj [] | .null | .bool false | .str "" => false
  | .int value => value != 0
  | _ => true

def checkContextComposed (platform : Platform) (store : Store) (run : RunRow) (runId : String)
    (payload : Json) : Except Exc Unit := do
  let exact := Exc.valueError "context.composed requires the exact persisted ContextSnapshot"
  let snapshotId := (← item payload "snapshot_id").asString
  let snapshot ← orRaise (store.snapshot? snapshotId) exact
  require (snapshot.runId == runId) exact
  require (.str snapshot.policyId == (← item payload "policy_id")) exact
  require (.str snapshot.strategy == (← item payload "strategy")) exact
  require (.str snapshot.contentHash == (← item payload "content_hash")) exact
  require (.int snapshot.sourceChars == (← item payload "source_chars")) exact
  require (.int snapshot.selectedChars == (← item payload "selected_chars")) exact
  require (.bool (truthy snapshot.omittedJson.document) == (← item payload "omitted")) exact
  let specRow ← runSpecRowOf store run "context.composed requires a canonical RunSpec"
    "context.composed references a missing RunSpec"
  let policy := (← readRunSpec platform specRow).field "context_policy"
  require (policy != .null && policy.field "id" == .str snapshot.policyId &&
      policy.field "strategy" == .str snapshot.strategy)
    (.valueError "ContextSnapshot policy does not match the admitted RunSpec")

def checkSubjectInvoked (platform : Platform) (store : Store) (run : RunRow) (runId : String)
    (payload : Json) : Except Exc Unit := do
  let noContracts := Exc.valueError "Subject invocation requires canonical Run contracts"
  let missing := Exc.valueError "Subject invocation references missing canonical evidence"
  let specId ← orRaise run.runSpecId noContracts
  let admissionId ← orRaise run.admissionId noContracts
  let specRow ← orRaise (store.runSpec? specId) missing
  let admissionRow ← orRaise (store.admission? admissionId) missing
  let envelopeRow ← orRaise (store.envelope? runId) missing
  let spec ← readRunSpec platform specRow
  let inventory := (← readAdmission platform admissionRow).field "resolved_inventory"
  let providerFields := ["provider_profile_id", "provider_model", "provider_reasoning_effort",
    "provider_adapter"]
  require (payload.field "runner" == (inventory.field "runner_ref").field "name" &&
      payload.field "network" ==
        ((spec.field "workspace").field "network_policy").field "mode" &&
      payload.field "subject_envelope_digest" == .str envelopeRow.digest &&
      providerFields.all fun name => payload.field name == inventory.field name)
    (.valueError "Subject invocation does not match admitted runner/provider evidence")

def checkSubjectResponded (platform : Platform) (store : Store) (run : RunRow) (payload : Json) :
    Except Exc Unit := do
  let specRow ← runSpecRowOf store run "Subject response requires a canonical RunSpec"
    "Subject response references a missing RunSpec"
  let spec ← readRunSpec platform specRow
  require (payload.field "capture_mode" == (spec.field "capture_policy").field "default_mode")
    (.valueError "Subject response capture mode does not match the RunSpec policy")

def checkCapabilityOffered (platform : Platform) (store : Store) (run : RunRow) (payload : Json) :
    Except Exc Unit := do
  let admissionId ← orRaise run.admissionId
    (.valueError "capability offer requires a canonical admission")
  let admissionRow ← orRaise (store.admission? admissionId)
    (.valueError "capability offer references a missing admission")
  let inventory := (← readAdmission platform admissionRow).field "resolved_inventory"
  let offeredRef ← item payload "capability_ref"
  let mismatch := Exc.valueError "capability offer does not match the admitted inventory"
  match (inventory.items "capabilities").filter fun capability =>
      capability.field "status" == .str "resolved" && capability.field "resolved_ref" == offeredRef
    with
  | [matched] => do
      require (matched.field "required" == (← item payload "required")) mismatch
      require (matched.field "exposure" == (← item payload "exposure")) mismatch
      require (.arr (matched.items "effective_permissions") ==
          (← item payload "effective_permissions"))
        mismatch
  | _ => .error mismatch

/-- One referenced record: it belongs to the Run, reads back, and was announced. -/
def checkTerminalRef (platform : Platform) (store : Store) (runId : String) (prior : List Fact)
    (ref : Json) : Except Exc Json := do
  let outside := Exc.valueError "terminal event references an evaluation outside the Run"
  let evaluation ← orRaise (store.evaluation? ref.asString) outside
  require (evaluation.runId == runId) outside
  let record ← readEvaluation platform evaluation
  require (prior.any fun fact => fact.eventType == .evaluationCompleted &&
      fact.payload.field "evaluation_record_id" == .str ref.asString &&
      fact.payload.field "evaluation_record_digest" == .str evaluation.recordDigest)
    (.valueError "terminal evaluation ref has no matching completion event")
  .ok record

def evaluationIdsOf (store : Store) (runId : String) : List String :=
  (store.evaluations.filter fun row => row.runId = runId).map (·.id)

def sameSet (left right : List String) : Bool := left.all (· ∈ right) && right.all (· ∈ left)

/-- A completed Run covers every stage that its gates let be seen. -/
def checkStageCoverage (kind : EventType) (plan : Json) (records : List Json) : Except Exc Unit :=
  if kind = .runCompleted then do
    let gates ← valueChecked (EvaluationValidator.gateResults plan records)
    require ((EvaluationValidator.stagesVisibleAfterGates plan gates).all fun stage =>
        (gates.lookup stage).isSome)
      (.valueError "completed Run does not cover the required EvaluationPlan stages")
  else .ok ()

/-- A plan that requires human adjudication has an adjudicator's record referenced. -/
def checkAdjudicated (store : Store) (plan : Json) (refs : List Json) : Except Exc Unit :=
  require ((plan.field "human_adjudication_policy").field "required" != .bool true ||
      refs.any fun ref => (store.evaluation? ref.asString).any fun row =>
        row.sourceType == "human_adjudicator")
    (.valueError "terminal event requires the planned verified human adjudication")

def checkNoOpenCalls (prior : List Fact) : Except Exc Unit := do
  let openCalls ← openToolCalls prior
  require openCalls.isEmpty (.valueError "terminal Run cannot contain an unresolved tool call")

def checkTerminalEvent (platform : Platform) (store : Store) (run : RunRow) (runId : String)
    (kind : EventType) (payload : Json) (prior : List Fact) : Except Exc Unit := do
  let specRow ← runSpecRowOf store run "terminal event requires a canonical RunSpec"
    "terminal event references a missing RunSpec"
  let spec ← readRunSpec platform specRow
  let goalResult ← item payload "goal_result"
  require (goalResult.field "goal_mode" == (spec.field "goal").field "mode")
    (.valueError "terminal Goal result mode does not match the RunSpec Goal")
  require (goalResult.field "goal_mode" != .str "bounded_exploration" ||
      goalResult.field "stop_condition_kind" ∈ column spec "stop_conditions" "kind")
    (.valueError "bounded exploration terminal references an undeclared stop condition")
  let refs := payload.items "evaluation_record_refs"
  require (sameSet (refs.map Json.asString) (evaluationIdsOf store runId))
    (.valueError "terminal event must reference every persisted EvaluationRecord exactly")
  require (kind != .runCompleted || (0 < countOf .subjectResponded prior && !refs.isEmpty))
    (.valueError "completed Run requires a Subject response and evaluation records")
  let records ← refs.mapM (checkTerminalRef platform store runId prior)
  let plan := spec.field "evaluation_plan"
  checkStageCoverage kind plan records
  checkAdjudicated store plan refs
  (payload.items "checkpoint_refs").forM fun ref =>
    require ((store.checkpoint? ref.asString).any fun row => row.runId == runId)
      (.valueError "terminal event references a checkpoint outside the Run")
  checkNoOpenCalls prior

def runFamilyChecks (platform : Platform) (store : Store) (run : RunRow) (runId : String)
    (kind : EventType) (payload : Json) (prior : List Fact) : Except Exc Unit :=
  match kind with
  | .evaluationCompleted => checkEvaluationCompleted store runId payload prior
  | .runQueued => checkRunQueued store run payload
  | .contextComposed => checkContextComposed platform store run runId payload
  | .subjectInvoked => checkSubjectInvoked platform store run runId payload
  | .capabilityOffered => checkCapabilityOffered platform store run payload
  | .toolCalled | .toolApproved | .toolDenied | .toolCompleted | .toolFailed =>
      checkToolEvents kind payload prior
  | .subjectResponded => checkSubjectResponded platform store run payload
  | .runCompleted | .runFailed | .runCancelled | .runBudgetExhausted | .runGuardrailStopped =>
      checkTerminalEvent platform store run runId kind payload prior
  | _ => .ok ()

/-! ## `append_event` -/

structure AppendRequest where
  runId : String
  eventType : String
  payload : Json
  actorType : String := "system"
  actorId : String := "evidrun"
  classification : String := "internal"
  correlationId : Option String := none
  causationId : Option String := none
  operationKey : Option String := none
  lease : Option LeaseFence := none
  completeExecution : Bool := false
  rejectExecutionCode : Option String := none

def allowedActorTypes : List String :=
  ["system", "subject", "evaluator", "tool", "skill", "observer"]

/-- `FENCED_EVENT_TYPES`. -/
def fencedEvent : EventType → Bool
  | .capabilityOffered | .toolCalled | .toolDenied | .toolCompleted | .toolFailed => true
  | _ => false

/-- The white space `str.strip` removes: Unicode white space and the separators U+001C to U+001F. -/
def pyStrip (text : String) : String :=
  String.ofList (stripChars (fun char => isWhitespace char ||
    (0x1C ≤ char.toNat && char.toNat ≤ 0x1F)) text.toList)

/-- Reject the request before any session opens, and normalize the payload. -/
def validateRequest (platform : Platform) (request : AppendRequest) :
    Except Exc (EventType × Json) := do
  require (request.actorType ∈ allowedActorTypes)
    (.valueError "Run events cannot claim human authority without a typed attestation flow")
  require (pyStrip request.actorId != "") (.valueError "Run event actor_id cannot be empty")
  let kind ← orRaise (EventType.ofText? request.eventType)
    (.valueError ("unregistered Run Event payload type: " ++ request.eventType))
  require (!kind.unsupported)
    (.valueError "Run event type is reserved until its coordinator/runtime is implemented")
  require (!fencedEvent kind || request.lease.isSome)
    (.valueError "runtime capability and tool events require an active lease fence")
  let payload ← validated (normalizeEventPayload platform kind request.payload)
  require (!request.completeExecution || request.lease.isSome)
    (.valueError "atomic execution completion requires a lease fence")
  match request.rejectExecutionCode with
  | none => .ok (kind, payload)
  | some code => do
      require (!request.completeExecution && request.lease.isSome)
        (.valueError "atomic execution rejection requires only a lease fence")
      validateReasonCode code
      .ok (kind, payload)

/-- Complete or reject the request's lease, as the request asks. -/
def settleLease (store : Store) (request : AppendRequest) (finishedAt : Time) : Except Exc Store :=
  match request.lease with
  | none => .ok store
  | some fence =>
      if request.completeExecution then completeActiveLease store fence request.runId finishedAt
      else match request.rejectExecutionCode with
        | some code => rejectActiveLease store fence request.runId finishedAt code
        | none => .ok store

/-- The stored event says the same as the one that was asked for. -/
def sameEvent (existing : RunEventRow) (kind : EventType) (payload : Json) : Bool :=
  existing.eventType == kind && existing.payloadJson.text == canonicalJson payload

/-- Write the chain link, advance the status and settle the lease. -/
def persistEvent (platform : Platform) (store : Store) (request : AppendRequest)
    (kind : EventType) (payload : Json) (last : Option RunEventRow) (nextStatus : Option RunStatus)
    (occurredAt : Time) : Except Exc (RunEventRow × Store) := do
  let (eventId, store) := newId platform "evt" store
  let head : EventHead :=
    { id := eventId
      runId := request.runId
      sequence := match last with
        | none => 1
        | some row => row.sequence + 1
      eventType := kind
      occurredAt := occurredAt
      actorType := request.actorType
      actorId := request.actorId
      classification := request.classification
      correlationId := match request.correlationId with
        | none | some "" => request.runId
        | some given => given
      causationId := request.causationId
      prevEventHash := last.map (·.eventHash) }
  let row := sealEvent platform head payload request.operationKey
  let store ← store.insertEvent row
  let store := match nextStatus with
    | none => store
    | some next => store.updateRun request.runId fun run =>
        { run with
          status := next
          completedAt := if terminalStatus next then some occurredAt else run.completedAt }
  let store ← settleLease store request occurredAt
  .ok (row, store)

def appendEventBody (platform : Platform) (request : AppendRequest) (clock : Nat → Time)
    (store : Store) : Except Exc (RunEventRow × Store) := do
  let (kind, payload) ← validateRequest platform request
  validateOptionalLease store request.lease request.runId (clock 0)
  let run ← orRaise (store.run? request.runId) (.keyError ("Run not found: " ++ request.runId))
  match request.operationKey.bind (store.eventByKey? request.runId) with
  | some existing => do
      require (sameEvent existing kind payload)
        (.valueError "Run operation key conflicts with an existing event")
      let store ← settleLease store request (clock 1)
      .ok (existing, store)
  | none => do
      let priorEvents := store.eventsOf request.runId
      let prior := priorEvents.map RunEventRow.fact
      validatePhase run.status kind prior
      runFamilyChecks platform store run request.runId kind payload prior
      let nextStatus ← eventTransition run kind payload !priorEvents.isEmpty
      persistEvent platform store request kind payload priorEvents.getLast? nextStatus (clock 1)

def appendEvent (platform : Platform) (request : AppendRequest) (clock : Nat → Time)
    (store : Store) : Outcome RunEventRow :=
  transact (appendEventBody platform request clock) store

/-! ## The in-session appender -/

structure OnceRequest where
  eventType : EventType
  payload : Json
  operationKey : String
  allowedStatuses : List RunStatus
  nextStatus : Option RunStatus := none

/-- Append an event unless its operation key already wrote it. The status is read
and advanced in the caller's transaction. -/
def appendEventOnce (platform : Platform) (runId : String) (request : OnceRequest)
    (occurredAt : Time) (store : Store) : Except Exc (RunEventRow × Store) := do
  let payload ← validated (normalizeEventPayload platform request.eventType request.payload)
  match store.eventByKey? runId request.operationKey with
  | some existing => do
      require (sameEvent existing request.eventType payload)
        (.valueError "Run operation key conflicts with an existing event")
      .ok (existing, store)
  | none => do
      let run ← orRaise (store.run? runId) (.keyError runId)
      require (run.status ∈ request.allowedStatuses)
        (.valueError (request.eventType.text ++ " is not valid while the Run is " ++
          run.status.text))
      let last ← orRaise (store.eventsOf runId).getLast?
        (.valueError "prepared Run is missing run.queued")
      let (eventId, store) := newId platform "evt" store
      let head : EventHead :=
        { id := eventId
          runId := runId
          sequence := last.sequence + 1
          eventType := request.eventType
          occurredAt := occurredAt
          actorType := "system"
          actorId := "evidrun"
          classification := "internal"
          correlationId := runId
          causationId := none
          prevEventHash := some last.eventHash }
      let row := sealEvent platform head payload (some request.operationKey)
      let store ← store.insertEvent row
      let store := match request.nextStatus with
        | none => store
        | some next => store.updateRun runId fun run => { run with status := next }
      .ok (row, store)

/-! ## `save_subject_response` -/

structure ResponseRequest (platform : Platform) where
  runId : String
  spec : RunSpec platform
  responsePayload : Json
  capturedOutput : Option String
  lease : LeaseFence

def evaluatingRequest : OnceRequest where
  eventType := .runEvaluating
  payload := .obj [("from_status", .str "running"),
    ("reason", .str "terminal Subject response captured")]
  operationKey := "run:evaluating"
  allowedStatuses := [.running]
  nextStatus := some .evaluating

def saveSubjectResponseBody (platform : Platform) (request : ResponseRequest platform)
    (clock : Nat → Time) (store : Store) : Except Exc (RunEventRow × Store) := do
  validateOptionalLease store (some request.lease) request.runId (clock 0)
  let noSpec := Exc.valueError "Subject response requires a canonical RunSpec"
  let inexact := Exc.valueError "Subject response RunSpec is not exact"
  let run ← orRaise (store.run? request.runId) noSpec
  let specId ← orRaise run.runSpecId noSpec
  let specRow ← orRaise (store.runSpec? specId) inexact
  require (specRow.digest == digestOf platform request.spec) inexact
  let response ← validated
    (normalizeEventPayload platform .subjectResponded request.responsePayload)
  require (response.field "capture_mode" ==
      (request.spec.dump.field "capture_policy").field "default_mode")
    (.valueError "Subject response capture mode does not match the RunSpec")
  let prior := (store.eventsOf request.runId).map RunEventRow.fact
  require ((store.eventByKey? request.runId "subject:responded").isSome ||
      countOf .subjectInvoked prior == countOf .subjectResponded prior + 1)
    (.valueError "Subject response requires one unmatched Subject invocation")
  let (row, store) ← appendEventOnce platform request.runId
    { eventType := .subjectResponded
      payload := response
      operationKey := "subject:responded"
      allowedStatuses := [.running] } (clock 1) store
  let store := store.updateRun request.runId fun run => { run with output := request.capturedOutput }
  let (_, store) ← appendEventOnce platform request.runId evaluatingRequest (clock 2) store
  .ok (row, store)

def saveSubjectResponse (platform : Platform) (request : ResponseRequest platform)
    (clock : Nat → Time) (store : Store) : Outcome RunEventRow :=
  transact (saveSubjectResponseBody platform request clock) store

end Evidrun.Database
