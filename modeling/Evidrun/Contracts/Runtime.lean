import Evidrun.Contracts.Authoring

/-!
# Runtime contracts

The admitted RunSpec, its admission, the envelope the Subject receives and the
evaluation records, following `evidrun.contracts.runtime`. An instance of a
contract is held as its validated dump, and an attribute that is `None` is
absent from the dump.
-/

namespace Evidrun.Contracts

open JsonText DocumentSchema

set_option autoImplicit false

def refOfType (reference : Json) (kind : String) : Bool :=
  reference.field "contract_type" == .str kind

/-! ## RunSpec -/

def validateCheckpointPair (spec : Json) : Except String Unit := do
  raiseIf (isSet spec "checkpoint_policy_ref" != isSet spec "checkpoint_policy")
    "checkpoint policy ref and payload must be present together"
  raiseIf (isSet spec "progress_artifact_policy_ref" != isSet spec "progress_artifact_policy")
    "progress artifact policy ref and payload must be present together"
  let terminalKinds := ((spec.items "stop_conditions").filter fun stop =>
    stop.field "action" == .str "terminal").map fun stop => stop.field "kind"
  raiseIf ((spec.field "goal").field "mode" == .str "bounded_exploration" &&
      terminalKinds.all fun kind => kind == .str "goal_complete")
    "bounded exploration requires a bounded terminal stop condition"
  raiseIf (!hasItems spec "stop_conditions") "RunSpec requires at least one stop condition"
  let expectedRefs := [("study_ref", "study"), ("scenario_ref", "scenario"), ("goal_ref", "goal"),
    ("agent_inventory_ref", "agent_inventory"), ("workspace_template_ref", "workspace_template"),
    ("interaction_protocol_ref", "interaction_protocol"),
    ("evaluation_plan_ref", "evaluation_plan")]
  raiseIf (expectedRefs.any fun (name, kind) => !refOfType (spec.field name) kind)
    "RunSpec contains a reference in the wrong contract slot"
  raiseIf (isSet spec "checkpoint_policy_ref" &&
      !refOfType (spec.field "checkpoint_policy_ref") "checkpoint_policy")
    "RunSpec checkpoint slot requires a checkpoint_policy ref"
  raiseIf (isSet spec "progress_artifact_policy_ref" &&
      !refOfType (spec.field "progress_artifact_policy_ref") "progress_artifact_policy")
    "RunSpec progress slot requires a progress_artifact_policy ref"

def schemaVersion : String × Presence × Schema :=
  defaulted "schema_version" (.str "1") (literal ["1"])

def runSpec : Schema :=
  .model
    [required "agent_inventory" agentInventorySpec,
      required "agent_inventory_ref" contractRef,
      required "budgets" budgetSpec,
      required "capture_policy" capturePolicySpec,
      optional "checkpoint_policy" checkpointPolicySpec,
      optional "checkpoint_policy_ref" contractRef,
      optional "context_policy" contextPolicySpec,
      required "evaluation_plan" evaluationPlanSpec,
      required "evaluation_plan_ref" contractRef,
      tuple "extensions" extensionRef,
      required "goal" goalSpec,
      required "goal_ref" contractRef,
      required "interaction_protocol" interactionProtocolSpec,
      required "interaction_protocol_ref" contractRef,
      tuple "limitations" nonEmptyStr,
      optional "progress_artifact_policy" progressArtifactPolicySpec,
      optional "progress_artifact_policy_ref" contractRef,
      required "repetition_index" (integerFrom 1),
      required "scenario" scenarioSpec,
      required "scenario_ref" contractRef,
      schemaVersion,
      optional "seed" (.scalar (.integer none)),
      required "stop_conditions" (.list 0 stopCondition),
      required "study_ref" contractRef,
      required "variant_id" nonEmptyStr,
      required "workspace" workspaceTemplateSpec,
      required "workspace_template_ref" contractRef]
    validateCheckpointPair

/-! ## Admission -/

def resolutionReason : Schema :=
  .model
    [required "code" (literal ["unsupported", "denied", "unavailable", "digest_mismatch"]),
      required "detail" nonEmptyStr]
    noCheck

def validateResolution (capability : Json) : Except String Unit := do
  let resolved := capability.field "status" == .str "resolved"
  raiseIf (resolved && (!isSet capability "resolved_ref" || !isSet capability "adapter" ||
      !isSet capability "effective_interface_version"))
    "resolved capability requires an exact ref, adapter, and interface version"
  raiseIf (resolved && isSet capability "reason")
    "resolved capability cannot contain an unresolved reason"
  raiseIf (!resolved && !isSet capability "reason") "unresolved capability requires a reason"
  raiseIf (!resolved && (isSet capability "resolved_ref" || isSet capability "adapter" ||
      isSet capability "effective_interface_version" ||
      hasItems capability "effective_permissions" ||
      hasItems capability "satisfied_authority_constraints" ||
      hasItems capability "context_refs"))
    "unresolved capability cannot expose an effective resolution"
  raiseIf (capability.field "exposure" == .str "schema_only" && hasItems capability "context_refs")
    "schema-only capability cannot expose instruction context"

def resolutionStatus : Schema := literal ["resolved", "unsupported", "denied", "unavailable"]

def resolvedCapability : Schema :=
  .model
    [optional "adapter" nonEmptyStr,
      tuple "context_refs" artifactRef,
      optional "effective_interface_version" nonEmptyStr,
      tuple "effective_permissions" nonEmptyStr,
      required "exposure" exposure,
      required "kind" (literal ["tool", "skill"]),
      optional "reason" resolutionReason,
      required "requested_ref" capabilityDescriptorRef,
      required "required" boolean,
      optional "resolved_ref" capabilityDescriptorRef,
      tuple "satisfied_authority_constraints" nonEmptyStr,
      required "status" resolutionStatus]
    validateResolution

def admissionIssue : Schema :=
  .model
    [required "blocking" boolean,
      required "category" (literal ["runner", "provider", "capability", "runtime", "workspace",
        "interaction", "observer", "authority", "policy"]),
      required "reason" resolutionReason,
      required "subject_ref" nonEmptyStr]
    noCheck

def validateRequirementRef (inventory : Json) : Except String Unit := do
  raiseIf (!refOfType (inventory.field "requirement_ref") "agent_inventory")
    "resolved inventory requires an agent_inventory ref"
  let providerFields := ["provider_profile_digest", "provider_model",
    "provider_reasoning_effort", "provider_adapter"]
  let online := isSet inventory "provider_profile_id"
  raiseIf (!online && providerFields.any (isSet inventory))
    "offline inventory cannot contain provider resolution fields"
  raiseIf (online && providerFields.any fun name => !isSet inventory name)
    "provider inventory requires digest, model, reasoning, and adapter"

def resolvedAgentInventory : Schema :=
  .model
    [tuple "capabilities" resolvedCapability,
      optional "provider_adapter" nonEmptyStr,
      optional "provider_model" nonEmptyStr,
      optional "provider_profile_digest" digest,
      optional "provider_profile_id" nonEmptyStr,
      optional "provider_reasoning_effort" nonEmptyStr,
      required "requirement_ref" contractRef,
      required "runner_ref" capabilityDescriptorRef,
      tuple "runtime_capabilities" nonEmptyStr]
    validateRequirementRef

def executionTrustRef : Schema :=
  .model [required "digest" digest, required "trust_id" nonEmptyStr] noCheck

/-- Whether the record names something that keeps the Run from being executed. -/
def admissionBlocked (record : Json) : Bool :=
  hasItems record "missing_requirements" || hasItems record "denied_policies" ||
    record.field "workspace_status" != .str "resolved" ||
    record.field "interaction_status" != .str "resolved" ||
    (record.items "issues").any (fun issue => issue.field "blocking" == .bool true) ||
    ((record.field "resolved_inventory").items "capabilities").any fun capability =>
      capability.field "required" == .bool true && capability.field "status" != .str "resolved"

def validateDecision (record : Json) : Except String Unit := do
  raiseIf (record.field "run_spec_ref" !=
      .str ("run-spec:" ++ (record.field "run_spec_digest").asString))
    "admission RunSpec ref must be content-addressed by its digest"
  raiseIf (record.field "decision" == .str "admitted" && admissionBlocked record)
    "admitted record cannot contain blocking resolution failures"
  raiseIf (record.field "decision" == .str "rejected" && !admissionBlocked record)
    "rejected admission requires a blocking reason"

def utcDateTime : Schema := .scalar .timestamp

def admissionRecord : Schema :=
  .model
    [required "created_at_utc" utcDateTime,
      required "decision" (literal ["admitted", "rejected"]),
      tuple "denied_policies" nonEmptyStr,
      optional "execution_trust" executionTrustRef,
      required "interaction_status" (literal ["resolved", "unsupported"]),
      tuple "issues" admissionIssue,
      tuple "missing_requirements" nonEmptyStr,
      required "resolved_inventory" resolvedAgentInventory,
      required "run_spec_digest" digest,
      required "run_spec_ref" nonEmptyStr,
      schemaVersion,
      tuple "warnings" nonEmptyStr,
      required "workspace_status" resolutionStatus]
    validateDecision

/-! ## Run records -/

/-- `text.replace(old, "")`, after the characters of a match that are still to be skipped. -/
def removeAll (old : List Char) : Nat → List Char → List Char
  | _, [] => []
  | skip + 1, _ :: rest => removeAll old skip rest
  | 0, char :: rest =>
      if old.isPrefixOf (char :: rest) then removeAll old (old.length - 1) rest
      else char :: removeAll old 0 rest

/-- The hex digits that `uuid.UUID` reads: a URN prefix, braces and hyphens are optional. -/
def uuidDigits (raw : List Char) : List Char :=
  let bare := removeAll "uuid:".toList 0 (removeAll "urn:".toList 0 raw)
  (stripChars (fun char => char == '{' || char == '}') bare).filter (· != '-')

def isHexDigit (char : Char) : Bool :=
  char.isDigit || ('a' ≤ char && char ≤ 'f') || ('A' ≤ char && char ≤ 'F')

/-- A UUID of the RFC variant and version 7. -/
def isUuid7 (raw : List Char) : Bool :=
  let digits := uuidDigits raw
  digits.length == 32 && digits.all isHexDigit && digits[12]? == some '7' &&
    digits[16]?.any (fun char => char ∈ ['8', '9', 'a', 'b', 'A', 'B'])

/-- Run IDs must contain a UUIDv7. -/
def isRunId (value : String) : Bool :=
  let chars := value.toList
  isUuid7 (if "run_".toList.isPrefixOf chars then chars.drop 4 else chars)

def runId : Schema := .scalar (.trimmed isRunId)

def validateLineageAndRefs (record : Json) : Except String Unit := do
  raiseIf (!refOfType (record.field "study_ref") "study") "RunRecord requires a Study ref"
  raiseIf (!refOfType (record.field "scenario_ref") "scenario") "RunRecord requires a Scenario ref"
  raiseIf (record.field "retry_of" == record.field "run_id") "Run cannot retry itself"

def runRecord : Schema :=
  .model
    [required "admission_digest" digest,
      required "admission_id" nonEmptyStr,
      required "created_at_utc" utcDateTime,
      optional "execution_trust" executionTrustRef,
      required "repetition_index" (integerFrom 1),
      optional "retry_of" runId,
      required "run_id" runId,
      required "run_spec_digest" digest,
      required "run_spec_id" nonEmptyStr,
      required "scenario_ref" contractRef,
      schemaVersion,
      required "study_ref" contractRef,
      required "variant_id" nonEmptyStr]
    validateLineageAndRefs

/-! ## Subject envelope -/

def subjectWorkspace : Schema :=
  .model
    [required "external_effect_mode" externalEffectMode,
      tuple "mounts" nonEmptyStr,
      required "network_mode" networkMode,
      required "runtime_kind" nonEmptyStr,
      tuple "write_zones" nonEmptyStr]
    noCheck

def subjectEvaluationDimension : Schema :=
  .model
    [tuple "anchors" keyValue,
      required "description" nonEmptyStr,
      required "id" nonEmptyStr,
      optional "maximum" number,
      optional "minimum" number,
      required "value_type" dimensionValueType]
    noCheck

def validatePlan (guidance : Json) : Except String Unit := do
  raiseIf (!refOfType (guidance.field "plan_ref") "evaluation_plan")
    "Subject evaluation guidance requires an evaluation_plan ref"
  raiseIf (!hasItems guidance "dimensions")
    "Subject evaluation guidance requires public dimensions"

def subjectEvaluationGuidance : Schema :=
  .model
    [required "dimensions" (.list 0 subjectEvaluationDimension),
      defaulted "mode" (.str "pre_run") (literal ["pre_run"]),
      required "plan_ref" contractRef]
    validatePlan

def subjectEnvelope : Schema :=
  .model
    [required "budgets" budgetSpec,
      tuple "effective_capabilities" resolvedCapability,
      optional "evaluation_guidance" subjectEvaluationGuidance,
      required "goal" goalSpec,
      required "inputs" (.list 0 inputBinding),
      required "interaction_protocol" interactionProtocolSpec,
      required "run_spec_digest" digest,
      schemaVersion,
      required "stop_conditions" (.list 0 stopCondition),
      required "workspace" subjectWorkspace]
    noCheck

/-! ## Evaluation records -/

def validateBoundary (boundary : Json) : Except String Unit := do
  let sequence := isSet boundary "up_to_event_sequence"
  let hash := isSet boundary "event_hash"
  let checkpoint := isSet boundary "checkpoint_id"
  raiseIf ((sequence || hash) && (!sequence || !hash))
    "evaluation event boundary requires both sequence and hash"
  raiseIf (!(sequence || hash) && !checkpoint)
    "evaluation requires an event or checkpoint boundary"
  raiseIf ((sequence || hash) && checkpoint)
    "evaluation boundary must use either an event or a checkpoint"

def evaluationBoundary : Schema :=
  .model
    [optional "checkpoint_id" nonEmptyStr,
      optional "event_hash" digest,
      optional "up_to_event_sequence" (integerFrom 1)]
    validateBoundary

def dimensionValue : Schema :=
  .model
    [optional "confidence" fraction,
      required "dimension_id" nonEmptyStr,
      required "evidence_refs" (.list 1 evidenceRef),
      required "rationale" nonEmptyStr,
      required "value" (.scalar .primitive)]
    noCheck

def validateTargets (relation : Json) : Except String Unit :=
  raiseIf (!allDistinct (relation.items "target_record_refs"))
    "adjudication target records must be unique"

def adjudicatesEvaluationRelation : Schema :=
  .model [kindField "adjudicates", required "target_record_refs" (.list 1 nonEmptyStr)]
    validateTargets

def validateConsideredRecords (relation : Json) : Except String Unit :=
  raiseIf (!allDistinct (relation.items "considers_record_refs"))
    "considered evaluation records must be unique"

def independentHumanReviewRelation : Schema :=
  .model [tuple "considers_record_refs" nonEmptyStr, kindField "independent_review"]
    validateConsideredRecords

def humanEvaluationRelation : Schema :=
  .tagged "kind"
    [("adjudicates", adjudicatesEvaluationRelation),
      ("independent_review", independentHumanReviewRelation)]

def humanAttestationRecord : Schema :=
  .model
    [required "action" (literal ["revision.accepted", "revision.rejected", "revision.superseded",
        "evaluation.adjudicated", "evaluation.reviewed"]),
      required "assertion_ref" artifactRef,
      required "attestation_id" nonEmptyStr,
      required "challenge_digest" digest,
      required "credential_id" nonEmptyStr,
      required "origin" nonEmptyStr,
      required "principal_id" nonEmptyStr,
      required "relying_party_id" nonEmptyStr,
      schemaVersion,
      required "subject_digest" digest,
      required "target_digest" digest,
      defaulted "user_verification" (.str "required_verified") (literal ["required_verified"]),
      defaulted "verification_method" (.str "webauthn") (literal ["webauthn"]),
      required "verified_at_utc" utcDateTime,
      required "verifier_ref" capabilityDescriptorRef]
    noCheck

/-- What a human signs when they evaluate: the content without the signature. -/
def humanSubjectDigest (platform : Platform) (record : Json) : String :=
  sha256Json platform <| .obj <|
    ["boundary", "dimension_values", "evaluator_ref", "gate_status", "plan_ref", "relation",
      "run_id", "source_type", "stage_id", "status"].map fun name => (name, record.field name)

def validateAdjudication (platform : Platform) (record : Json) : Except String Unit := do
  raiseIf (!refOfType (record.field "plan_ref") "evaluation_plan")
    "evaluation record requires an evaluation_plan ref"
  let adjudicator := record.field "source_type" == .str "human_adjudicator"
  let reviewer := record.field "source_type" == .str "human_reviewer"
  let judge := record.field "source_type" == .str "model_judge"
  let isHuman := reviewer || adjudicator
  let attestation := record.field "human_attestation"
  let relationKind := (record.field "relation").field "kind"
  raiseIf (isHuman && record.field "status" != .str "final") "human evaluations must be final"
  raiseIf (isHuman && attestation == .null)
    "human evaluations require verified attestation evidence"
  raiseIf (!isHuman && (attestation != .null || isSet record "relation"))
    "automated evaluations cannot claim human authority or precedence"
  raiseIf (adjudicator && relationKind != .str "adjudicates")
    "human adjudication requires explicit target records"
  raiseIf (reviewer && relationKind != .str "independent_review")
    "human review requires an independent review relation"
  raiseIf (judge && record.field "status" != .str "provisional")
    "model judge evaluations remain provisional"
  raiseIf (judge && !(isSet record "provider_profile_id" && isSet record "provider_model"))
    "model judge evaluation requires provider and model resolution"
  raiseIf (!judge && (isSet record "provider_profile_id" || isSet record "provider_model"))
    "only model judge evaluations may declare provider and model resolution"
  let expectedAction := if adjudicator then "evaluation.adjudicated" else "evaluation.reviewed"
  raiseIf (isHuman && attestation.field "action" != .str expectedAction)
    "human attestation action does not match the evaluation role"
  raiseIf (isHuman && attestation.field "target_digest" != (record.field "plan_ref").field "digest")
    "human evaluation attestation must target the EvaluationPlan"
  raiseIf (isHuman && attestation.field "subject_digest" !=
      .str (humanSubjectDigest platform record))
    "human attestation does not cover the evaluation content"
  raiseIf (isHuman && record.field "created_at_utc" != attestation.field "verified_at_utc")
    "human evaluation timestamp must be the verified attestation timestamp"
  raiseIf (!allDistinct (column record "dimension_values" "dimension_id"))
    "evaluation record dimensions must be unique"

def evaluationRecord (platform : Platform) : Schema :=
  .model
    [required "boundary" evaluationBoundary,
      required "created_at_utc" utcDateTime,
      required "dimension_values" (.list 0 dimensionValue),
      required "evaluator_ref" capabilityDescriptorRef,
      required "gate_status" (literal ["passed", "failed", "not_applicable"]),
      optional "human_attestation" humanAttestationRecord,
      required "plan_ref" contractRef,
      optional "provider_model" nonEmptyStr,
      optional "provider_profile_id" nonEmptyStr,
      required "record_id" nonEmptyStr,
      optional "relation" humanEvaluationRelation,
      required "run_id" nonEmptyStr,
      schemaVersion,
      required "source_type" (literal ["deterministic_grader", "model_judge", "human_reviewer",
        "human_adjudicator"]),
      required "stage_id" nonEmptyStr,
      required "status" (literal ["provisional", "final"])]
    (validateAdjudication platform)

/-! ## Checkpoint records -/

def checkpointValidation : Schema :=
  .model
    [tuple "evidence_refs" evidenceRef,
      required "passed" boolean,
      required "rationale" nonEmptyStr,
      required "validator_ref" capabilityDescriptorRef]
    noCheck

def validateCheckpoint (record : Json) : Except String Unit := do
  raiseIf (!refOfType (record.field "policy_ref") "checkpoint_policy")
    "checkpoint record requires a checkpoint_policy ref"
  raiseIf (!allDistinct (column record "validations" "validator_ref"))
    "checkpoint validator results must be unique"
  raiseIf (!(column record "validations" "passed").all (· = .bool true))
    "checkpoint records require successful validations"
  raiseIf (isSet record "admission_record_id" != isSet record "admission_record_digest")
    "checkpoint admission id and digest must be present together"
  raiseIf (record.field "replayability" != .str "deterministic" &&
      !hasItems record "replayability_limitations")
    "non-deterministic checkpoints require replayability limitations"

def checkpointRecord : Schema :=
  .model
    [optional "admission_record_digest" digest,
      optional "admission_record_id" nonEmptyStr,
      optional "artifact_manifest_ref" artifactRef,
      required "checkpoint_id" nonEmptyStr,
      tuple "compatibility_tags" nonEmptyStr,
      tuple "context_snapshot_refs" nonEmptyStr,
      required "created_at_utc" utcDateTime,
      required "definition_digest" digest,
      required "definition_id" nonEmptyStr,
      tuple "evaluation_record_refs" nonEmptyStr,
      required "event_hash" digest,
      required "policy_ref" contractRef,
      optional "protocol_state_ref" artifactRef,
      required "replayability" (literal ["none", "partial", "deterministic"]),
      tuple "replayability_limitations" nonEmptyStr,
      required "run_id" nonEmptyStr,
      schemaVersion,
      required "up_to_event_sequence" (integerFrom 1),
      required "validations" (.list 0 checkpointValidation),
      optional "workspace_snapshot_ref" artifactRef]
    validateCheckpoint

/-! ## Well-formedness -/

section WellFormed

variable (coercion : Coercion)

attribute [local simp] nonEmptyStr literal integerFrom boolean digest exposure networkMode
  externalEffectMode number dimensionValueType runId resolutionStatus utcDateTime fraction validate
  Scalar.parse

@[simp] theorem wellFormedFields_schemaVersion (rest : List (String × Presence × Schema)) :
    WellFormedFields coercion (schemaVersion :: rest) ↔ WellFormedFields coercion rest := by
  simp [schemaVersion, literal, validate, Scalar.parse]

@[simp] theorem wellFormed_runSpec : WellFormed coercion runSpec :=
  wellFormed_model (by decide) (by simp)

@[simp] theorem wellFormed_resolutionReason : WellFormed coercion resolutionReason :=
  wellFormed_model (by decide) (by simp)

@[simp] theorem wellFormed_resolvedCapability : WellFormed coercion resolvedCapability :=
  wellFormed_model (by decide) (by simp)

@[simp] theorem wellFormed_executionTrustRef : WellFormed coercion executionTrustRef :=
  wellFormed_model (by decide) (by simp)

@[simp] theorem wellFormed_runRecord : WellFormed coercion runRecord :=
  wellFormed_model (by decide) (by simp)

@[simp] theorem wellFormed_admissionIssue : WellFormed coercion admissionIssue :=
  wellFormed_model (by decide) (by simp)

@[simp] theorem wellFormed_resolvedAgentInventory : WellFormed coercion resolvedAgentInventory :=
  wellFormed_model (by decide) (by simp)

@[simp] theorem wellFormed_admissionRecord : WellFormed coercion admissionRecord :=
  wellFormed_model (by decide) (by simp)

@[simp] theorem wellFormed_subjectWorkspace : WellFormed coercion subjectWorkspace :=
  wellFormed_model (by decide) (by simp)

@[simp] theorem wellFormed_subjectEvaluationDimension :
    WellFormed coercion subjectEvaluationDimension :=
  wellFormed_model (by decide) (by simp)

@[simp] theorem wellFormed_subjectEvaluationGuidance :
    WellFormed coercion subjectEvaluationGuidance :=
  wellFormed_model (by decide) (by simp)

@[simp] theorem wellFormed_subjectEnvelope : WellFormed coercion subjectEnvelope :=
  wellFormed_model (by decide) (by simp)

@[simp] theorem wellFormed_evaluationBoundary : WellFormed coercion evaluationBoundary :=
  wellFormed_model (by decide) (by simp)

@[simp] theorem wellFormed_dimensionValue : WellFormed coercion dimensionValue :=
  wellFormed_model (by decide) (by simp)

@[simp] theorem wellFormed_humanEvaluationRelation :
    WellFormed coercion humanEvaluationRelation := by
  rw [humanEvaluationRelation, WellFormed]
  exact wellFormedCases_kind (by decide) (by simp) (by simp) <|
    wellFormedCases_kind (by decide) (by simp) (by simp) <|
    wellFormedCases_nil coercion _

@[simp] theorem wellFormed_humanAttestationRecord : WellFormed coercion humanAttestationRecord :=
  wellFormed_model (by decide) (by simp)

@[simp] theorem wellFormed_evaluationRecord (platform : Platform) :
    WellFormed coercion (evaluationRecord platform) :=
  wellFormed_model (by decide) (by simp)

@[simp] theorem wellFormed_checkpointValidation : WellFormed coercion checkpointValidation :=
  wellFormed_model (by decide) (by simp)

@[simp] theorem wellFormed_checkpointRecord : WellFormed coercion checkpointRecord :=
  wellFormed_model (by decide) (by simp)

end WellFormed

/-! ## Instances -/

abbrev RunSpec (platform : Platform) : Type := Instance platform.coercion runSpec

abbrev AdmissionRecord (platform : Platform) : Type := Instance platform.coercion admissionRecord

abbrev RunRecord (platform : Platform) : Type := Instance platform.coercion runRecord

abbrev SubjectEnvelope (platform : Platform) : Type := Instance platform.coercion subjectEnvelope

abbrev EvaluationRecord (platform : Platform) : Type :=
  Instance platform.coercion (evaluationRecord platform)

abbrev CheckpointRecord (platform : Platform) : Type :=
  Instance platform.coercion checkpointRecord

/-- The digest of a contract: of its content without null and empty parts. -/
def digestOf (platform : Platform) {schema : Schema}
    (contract : Instance platform.coercion schema) : String :=
  sha256Json platform contract.semanticDocument

def EvaluationRecord.modelValidate (platform : Platform) (document : Json) :
    Except String (EvaluationRecord platform) :=
  Instance.modelValidate (wellFormed_evaluationRecord platform.coercion platform) document

def CheckpointRecord.modelValidate (platform : Platform) (document : Json) :
    Except String (CheckpointRecord platform) :=
  Instance.modelValidate (wellFormed_checkpointRecord platform.coercion) document

def RunSpec.modelValidate (platform : Platform) (document : Json) :
    Except String (RunSpec platform) :=
  Instance.modelValidate (wellFormed_runSpec platform.coercion) document

def AdmissionRecord.modelValidate (platform : Platform) (document : Json) :
    Except String (AdmissionRecord platform) :=
  Instance.modelValidate (wellFormed_admissionRecord platform.coercion) document

def SubjectEnvelope.modelValidate (platform : Platform) (document : Json) :
    Except String (SubjectEnvelope platform) :=
  Instance.modelValidate (wellFormed_subjectEnvelope platform.coercion) document

end Evidrun.Contracts
