import Evidrun.Contracts.Base

/-!
# Run events

Event types, their payload models and the Run statuses in which each may be
recorded, following `evidrun.contracts.runtime.events`. A payload is checked
against the model of its type and stored as the model's semantic document.
-/

namespace Evidrun.Contracts

open JsonText DocumentSchema

set_option autoImplicit false

inductive RunStatus
  | queued | preparing | running | paused | evaluating
  | completed | failed | cancelled | budgetExhausted | guardrailStopped
deriving DecidableEq, Repr

def RunStatus.text : RunStatus → String
  | .queued => "queued"
  | .preparing => "preparing"
  | .running => "running"
  | .paused => "paused"
  | .evaluating => "evaluating"
  | .completed => "completed"
  | .failed => "failed"
  | .cancelled => "cancelled"
  | .budgetExhausted => "budget_exhausted"
  | .guardrailStopped => "guardrail_stopped"

/-- The event types that have a payload model. -/
inductive EventType
  | runQueued | runPreparing | runRunning | runPaused | runResumed | runEvaluating
  | contextComposed | subjectInvoked | subjectResponded | evaluationCompleted
  | capabilityOffered | skillLoaded | skillInvoked | skillCompleted | skillFailed
  | toolCalled | toolApproved | toolDenied | toolCompleted | toolFailed
  | checkpointValidationFailed | progressObserverStarted | progressArtifactCreated
  | progressObserverFailed
  | runCompleted | runFailed | runCancelled | runBudgetExhausted | runGuardrailStopped
deriving DecidableEq, Repr

namespace EventType

def text : EventType → String
  | .runQueued => "run.queued"
  | .runPreparing => "run.preparing"
  | .runRunning => "run.running"
  | .runPaused => "run.paused"
  | .runResumed => "run.resumed"
  | .runEvaluating => "run.evaluating"
  | .contextComposed => "context.composed"
  | .subjectInvoked => "subject.invoked"
  | .subjectResponded => "subject.responded"
  | .evaluationCompleted => "evaluation.completed"
  | .capabilityOffered => "capability.offered"
  | .skillLoaded => "skill.loaded"
  | .skillInvoked => "skill.invoked"
  | .skillCompleted => "skill.completed"
  | .skillFailed => "skill.failed"
  | .toolCalled => "tool.called"
  | .toolApproved => "tool.approved"
  | .toolDenied => "tool.denied"
  | .toolCompleted => "tool.completed"
  | .toolFailed => "tool.failed"
  | .checkpointValidationFailed => "checkpoint.validation_failed"
  | .progressObserverStarted => "progress.observer_started"
  | .progressArtifactCreated => "progress.artifact_created"
  | .progressObserverFailed => "progress.observer_failed"
  | .runCompleted => "run.completed"
  | .runFailed => "run.failed"
  | .runCancelled => "run.cancelled"
  | .runBudgetExhausted => "run.budget_exhausted"
  | .runGuardrailStopped => "run.guardrail_stopped"

def all : List EventType :=
  [.runQueued, .runPreparing, .runRunning, .runPaused, .runResumed, .runEvaluating,
    .contextComposed, .subjectInvoked, .subjectResponded, .evaluationCompleted,
    .capabilityOffered, .skillLoaded, .skillInvoked, .skillCompleted, .skillFailed,
    .toolCalled, .toolApproved, .toolDenied, .toolCompleted, .toolFailed,
    .checkpointValidationFailed, .progressObserverStarted, .progressArtifactCreated,
    .progressObserverFailed, .runCompleted, .runFailed, .runCancelled, .runBudgetExhausted,
    .runGuardrailStopped]

/-- The registered type of a name, if there is one. -/
def ofText? (name : String) : Option EventType := all.find? fun kind => kind.text == name

@[simp] theorem ofText?_text (kind : EventType) : ofText? kind.text = some kind := by
  cases kind <;> decide

theorem text_of_ofText? (name : String) (kind : EventType) (found : ofText? name = some kind) :
    kind.text = name := by
  simpa using List.find?_some found

/-- `EVENT_ALLOWED_RUN_STATUSES`. -/
def allowedRunStatuses : EventType → Option (List RunStatus)
  | .contextComposed => some [.preparing]
  | .capabilityOffered => some [.preparing, .running]
  | .skillLoaded => some [.preparing, .running]
  | .subjectInvoked => some [.running]
  | .subjectResponded => some [.running]
  | .skillInvoked => some [.running]
  | .skillCompleted => some [.running]
  | .skillFailed => some [.running]
  | .toolCalled => some [.running]
  | .toolApproved => some [.running]
  | .toolDenied => some [.running]
  | .toolCompleted => some [.running]
  | .toolFailed => some [.running]
  | .checkpointValidationFailed => some [.running, .paused, .evaluating]
  | .evaluationCompleted => some [.evaluating]
  | _ => none

/-- `UNSUPPORTED_RUNTIME_EVENT_TYPES`. -/
def unsupported : EventType → Bool
  | .runPaused | .runResumed | .skillLoaded | .skillInvoked | .skillCompleted | .skillFailed
  | .toolApproved | .checkpointValidationFailed | .progressObserverStarted
  | .progressArtifactCreated | .progressObserverFailed => true
  | _ => false

/-- The types whose name starts with `tool.`. -/
def isTool : EventType → Bool
  | .toolCalled | .toolApproved | .toolDenied | .toolCompleted | .toolFailed => true
  | _ => false

/-- The types that settle a tool call. -/
def settlesTool : EventType → Bool
  | .toolDenied | .toolCompleted | .toolFailed => true
  | _ => false

end EventType

/-! ## Payload models -/

def runQueuedPayload : Schema :=
  .model
    [required "admission_digest" digest,
      required "run_id" nonEmptyStr,
      required "run_spec_digest" digest,
      required "variant_id" nonEmptyStr]
    noCheck

def runPreparingPayload : Schema := .model [required "scenario_ref" contractRef] noCheck

def runLifecyclePayload : Schema :=
  .model
    [required "from_status" (literal ["queued", "preparing", "running", "paused", "evaluating"]),
      required "reason" nonEmptyStr]
    noCheck

def contextComposedPayload : Schema :=
  .model
    [required "content_hash" digest,
      required "omitted" boolean,
      required "policy_id" nonEmptyStr,
      required "selected_chars" (integerFrom 0),
      required "snapshot_id" nonEmptyStr,
      required "source_chars" (integerFrom 0),
      required "strategy" (literal ["head", "tail", "full"])]
    noCheck

def validateProviderResolution (payload : Json) : Except String Unit :=
  let providerFields := [payload.get? "provider_profile_id", payload.get? "provider_model",
    payload.get? "provider_reasoning_effort", payload.get? "provider_adapter"]
  raiseIf (providerFields.any (·.isSome) && providerFields.any (·.isNone))
    "Subject invocation provider resolution must be all-or-none"

def subjectInvokedPayload : Schema :=
  .model
    [optional "evaluation_guidance_digest" digest,
      required "network" (literal ["disabled", "provider_only", "allowlist"]),
      optional "provider_adapter" nonEmptyStr,
      optional "provider_model" nonEmptyStr,
      optional "provider_profile_id" nonEmptyStr,
      optional "provider_reasoning_effort" nonEmptyStr,
      required "runner" nonEmptyStr,
      required "subject_envelope_digest" digest]
    validateProviderResolution

def isArtifactRefText : Json → Bool
  | .str item => startsWith "artifact:".toList item
  | _ => false

def validateCaptureShape (payload : Json) : Except String Unit := do
  let output := payload.get? "output"
  let outputRef := payload.get? "output_ref"
  let evidence := payload.items "evidence"
  let mode := strOf payload "capture_mode"
  raiseIf (mode == some "redacted" &&
      (output != some (.str "[REDACTED]") || outputRef.isSome || !evidence.isEmpty))
    "redacted Subject capture requires the redaction marker and no raw evidence"
  raiseIf (mode == some "metadata" && (output.isSome || outputRef.isSome || !evidence.isEmpty))
    "metadata Subject capture cannot contain output or raw evidence"
  raiseIf (mode == some "disabled" && (output.isSome || outputRef.isSome || !evidence.isEmpty ||
      !(payload.items "metadata").isEmpty))
    "disabled Subject capture cannot contain captured content"
  raiseIf (mode == some "raw_encrypted" && (output.isSome || outputRef.isNone ||
      (outputRef.bind fun ref => ref.get? "classification") != some (.str "sensitive") ||
      evidence.any fun item => !isArtifactRefText item))
    "raw encrypted Subject capture requires a sensitive output artifact ref"

def captureMode : Schema := literal ["metadata", "redacted", "raw_encrypted", "disabled"]

def subjectRespondedPayload : Schema :=
  .model
    [required "capture_mode" captureMode,
      tuple "evidence" text,
      tuple "metadata" keyValue,
      optional "output" text,
      required "output_digest" digest,
      optional "output_ref" artifactRef]
    validateCaptureShape

def gateStatus : Schema := literal ["passed", "failed", "not_applicable"]

def evaluationCompletedPayload : Schema :=
  .model
    [required "evaluation_record_digest" digest,
      required "evaluation_record_id" nonEmptyStr,
      required "gate_status" gateStatus]
    noCheck

def capabilityOfferedPayload : Schema :=
  .model
    [required "capability_ref" capabilityDescriptorRef,
      tuple "effective_permissions" nonEmptyStr,
      required "exposure" (literal ["schema_only", "instructions", "instructions_and_schema"]),
      required "required" boolean]
    noCheck

def skillLoadedPayload : Schema :=
  .model [required "capability_ref" capabilityDescriptorRef, tuple "instruction_refs" artifactRef]
    noCheck

def capabilityInvocationPayload : Schema :=
  .model [required "capability_ref" capabilityDescriptorRef, required "invocation_id" nonEmptyStr]
    noCheck

def capabilityResultPayload : Schema :=
  .model
    [required "capability_ref" capabilityDescriptorRef,
      required "invocation_id" nonEmptyStr,
      optional "reason" nonEmptyStr,
      optional "result_ref" artifactRef]
    noCheck

def toolCalledPayload : Schema :=
  .model
    [optional "arguments_ref" artifactRef,
      required "call_id" nonEmptyStr,
      required "capability_ref" capabilityDescriptorRef,
      required "input_digest" digest]
    noCheck

def toolDecisionPayload : Schema :=
  .model
    [required "call_id" nonEmptyStr,
      required "decided_by" nonEmptyStr,
      required "rationale" nonEmptyStr]
    noCheck

def toolResultPayload : Schema :=
  .model
    [required "call_id" nonEmptyStr,
      required "capability_ref" capabilityDescriptorRef,
      optional "reason" nonEmptyStr,
      optional "result_ref" artifactRef]
    noCheck

def checkpointValidationFailedPayload : Schema :=
  .model
    [required "checkpoint_definition_id" nonEmptyStr,
      tuple "evidence_refs" evidenceRef,
      required "rationale" nonEmptyStr,
      required "validator_ref" capabilityDescriptorRef]
    noCheck

def progressObserverStartedPayload : Schema :=
  .model
    [required "attempt_id" nonEmptyStr,
      required "definition_id" nonEmptyStr,
      required "event_hash" digest,
      required "policy_ref" contractRef,
      required "summarizer_ref" capabilityDescriptorRef,
      required "up_to_event_sequence" (integerFrom 1)]
    noCheck

def progressArtifactCreatedPayload : Schema :=
  .model
    [required "artifact_ref" artifactRef,
      required "attempt_id" nonEmptyStr,
      required "event_hash" digest,
      required "progress_record_digest" digest,
      required "progress_record_id" nonEmptyStr,
      required "up_to_event_sequence" (integerFrom 1)]
    noCheck

def progressObserverFailedPayload : Schema :=
  .model
    [required "attempt_id" nonEmptyStr,
      required "definition_id" nonEmptyStr,
      required "event_hash" digest,
      required "phase" (literal ["input_materialization", "summarizer_resolution", "invocation",
        "output_validation", "artifact_write", "record_persistence"]),
      required "policy_ref" contractRef,
      required "reason_code" nonEmptyStr,
      defaulted "retryable" (.bool false) boolean,
      required "up_to_event_sequence" (integerFrom 1)]
    noCheck

def goalStateTerminalResult : Schema :=
  .model
    [defaulted "goal_mode" (.str "goal_state") (literal ["goal_state"]),
      required "state" (literal ["achieved", "partially_achieved", "not_achieved",
        "not_assessable"])]
    noCheck

def boundedExplorationTerminalResult : Schema :=
  .model
    [required "disposition" (literal ["concluded", "incomplete", "not_assessable"]),
      tuple "evidence_refs" evidenceRef,
      defaulted "goal_mode" (.str "bounded_exploration") (literal ["bounded_exploration"]),
      optional "learning_summary_ref" artifactRef,
      required "stop_condition_kind" nonEmptyStr,
      required "stop_reason" (literal ["evidence_saturation", "bounded_completion", "budget_limit",
        "time_limit", "turn_limit", "human_stop", "guardrail", "provider_failure"])]
    noCheck

def terminalGoalResult : Schema :=
  .tagged "goal_mode"
    [("goal_state", goalStateTerminalResult),
      ("bounded_exploration", boundedExplorationTerminalResult)]

def validateUniqueRecordRefs (payload : Json) : Except String Unit := do
  raiseIf (!decide (payload.items "evaluation_record_refs").Nodup)
    "terminal evaluation record refs must be unique"
  raiseIf (!decide (payload.items "checkpoint_refs").Nodup)
    "terminal checkpoint refs must be unique"

def runTerminalPayload : Schema :=
  .model
    [tuple "checkpoint_refs" nonEmptyStr,
      tuple "evaluation_record_refs" nonEmptyStr,
      required "goal_result" terminalGoalResult,
      required "status" (literal ["completed", "failed", "cancelled", "budget_exhausted",
        "guardrail_stopped"]),
      required "terminal_cause" nonEmptyStr]
    validateUniqueRecordRefs

/-- `EVENT_PAYLOAD_MODELS`. -/
def EventType.payloadModel : EventType → Schema
  | .runQueued => runQueuedPayload
  | .runPreparing => runPreparingPayload
  | .runRunning => runLifecyclePayload
  | .runPaused => runLifecyclePayload
  | .runResumed => runLifecyclePayload
  | .runEvaluating => runLifecyclePayload
  | .contextComposed => contextComposedPayload
  | .subjectInvoked => subjectInvokedPayload
  | .subjectResponded => subjectRespondedPayload
  | .evaluationCompleted => evaluationCompletedPayload
  | .capabilityOffered => capabilityOfferedPayload
  | .skillLoaded => skillLoadedPayload
  | .skillInvoked => capabilityInvocationPayload
  | .skillCompleted => capabilityResultPayload
  | .skillFailed => capabilityResultPayload
  | .toolCalled => toolCalledPayload
  | .toolApproved => toolDecisionPayload
  | .toolDenied => toolDecisionPayload
  | .toolCompleted => toolResultPayload
  | .toolFailed => toolResultPayload
  | .checkpointValidationFailed => checkpointValidationFailedPayload
  | .progressObserverStarted => progressObserverStartedPayload
  | .progressArtifactCreated => progressArtifactCreatedPayload
  | .progressObserverFailed => progressObserverFailedPayload
  | .runCompleted => runTerminalPayload
  | .runFailed => runTerminalPayload
  | .runCancelled => runTerminalPayload
  | .runBudgetExhausted => runTerminalPayload
  | .runGuardrailStopped => runTerminalPayload

/-- The payload's semantic document, or why the model of its type refuses it. An
unregistered type never gets this far: it has no `EventType`. -/
def normalizeEventPayload (platform : Platform) (kind : EventType) (payload : Json) :
    Except String Json :=
  normalize platform.coercion kind.payloadModel payload

section WellFormed

variable (coercion : Coercion)

private theorem wellFormed_goalStateTerminalResult :
    WellFormed coercion goalStateTerminalResult := by
  rw [goalStateTerminalResult, WellFormed]
  exact ⟨by decide, by simp [literal, validate, Scalar.parse]⟩

private theorem wellFormed_boundedExplorationTerminalResult :
    WellFormed coercion boundedExplorationTerminalResult := by
  rw [boundedExplorationTerminalResult, WellFormed]
  exact ⟨by decide, by simp [literal, nonEmptyStr, validate, Scalar.parse]⟩

theorem wellFormed_terminalGoalResult : WellFormed coercion terminalGoalResult := by
  rw [terminalGoalResult, WellFormed, WellFormedCases]
  refine ⟨wellFormed_goalStateTerminalResult coercion, fun given dump => ?_, ?_⟩
  · exact literal_dump coercion _ _ (by decide) "goal_mode" "goal_state" (by simp) given dump
  rw [WellFormedCases]
  refine ⟨wellFormed_boundedExplorationTerminalResult coercion, fun given dump => ?_, ?_⟩
  · exact literal_dump coercion _ _ (by decide) "goal_mode" "bounded_exploration" (by simp) given dump
  · simp [WellFormedCases]

/-- Every payload model lists its fields in key order, and its defaults pass it. -/
theorem wellFormed_payloadModel (kind : EventType) : WellFormed coercion kind.payloadModel := by
  have goal := wellFormed_terminalGoalResult coercion
  cases kind <;>
    simp only [EventType.payloadModel, runQueuedPayload, runPreparingPayload, runLifecyclePayload,
      contextComposedPayload, subjectInvokedPayload, subjectRespondedPayload,
      evaluationCompletedPayload, capabilityOfferedPayload, skillLoadedPayload,
      capabilityInvocationPayload, capabilityResultPayload, toolCalledPayload,
      toolDecisionPayload, toolResultPayload, checkpointValidationFailedPayload,
      progressObserverStartedPayload, progressArtifactCreatedPayload,
      progressObserverFailedPayload, runTerminalPayload, WellFormed] <;>
    refine ⟨by decide, ?_⟩ <;>
    simp [goal, digest, nonEmptyStr, literal, integerFrom, boolean, text, captureMode, gateStatus,
      validate, Scalar.parse]

theorem normalizeEventPayload_ordered (platform : Platform) (kind : EventType)
    (payload document : Json)
    (read : normalizeEventPayload platform kind payload = .ok document) :
    document.ordered = true :=
  normalize_ordered platform.coercion kind.payloadModel
    (wellFormed_payloadModel platform.coercion kind) payload document read

end WellFormed

end Evidrun.Contracts
