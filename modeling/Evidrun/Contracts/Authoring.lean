import Evidrun.Contracts.Base

/-!
# Authoring contracts

What a study's author declares before a Run exists: goal, scenario, inventory,
workspace, interaction, evaluation plan, checkpoints, budgets and capture. The
models follow `evidrun.contracts.authoring` and the context policy of
`evidrun.experiments.models`.
-/

namespace Evidrun.Contracts

open JsonText DocumentSchema

set_option autoImplicit false

/-- The values of one attribute over the items of a list. -/
def column (document : Json) (list name : String) : List Json :=
  (document.items list).map fun item => item.field name

def allDistinct (values : List Json) : Bool := decide values.Nodup

def hasItems (document : Json) (name : String) : Bool := !(document.items name).isEmpty

def isSet (document : Json) (name : String) : Bool := document.field name != .null

/-! ## Numbers -/

/-- The number a float text names. -/
def floatValue (float : FloatText) : Rat :=
  let unsigned := float.chars.dropWhile fun char => char == '-' || char == '+'
  let isExponent := fun char : Char => char == 'e' || char == 'E'
  let mantissa := unsigned.takeWhile fun char => !isExponent char
  let exponent := readInt (((unsigned.dropWhile fun char => !isExponent char).drop 1).filter
    (· != '+'))
  let whole := mantissa.takeWhile (· != '.')
  let fraction := (mantissa.dropWhile (· != '.')).drop 1
  let digits : Rat := (Nat.ofDigitChars 10 (whole ++ fraction) 0 : Nat)
  let shift := exponent - fraction.length
  let size := if 0 ≤ shift then digits * 10 ^ shift.toNat else digits / 10 ^ (-shift).toNat
  if float.chars.head? = some '-' then -size else size

def number : Schema := .scalar (.float fun _ => true)

/-- `Field(ge=0)` on a float. -/
def nonNegative : Schema := .scalar (.float fun value => 0 ≤ floatValue value)

/-- `Field(ge=0, le=1)` on a float. -/
def fraction : Schema := .scalar (.float fun value => 0 ≤ floatValue value && floatValue value ≤ 1)

/-! ## Run declarations -/

def budgetSpec : Schema :=
  .model
    [optional "max_cost" nonNegative,
      optional "max_input_tokens" (integerFrom 1),
      optional "max_output_tokens" (integerFrom 1),
      optional "max_tool_calls" (integerFrom 1),
      optional "max_turns" (integerFrom 1),
      required "max_wall_seconds" (integerFrom 1)]
    noCheck

def validatePredicateRef (stop : Json) : Except String Unit := do
  raiseIf (stop.field "kind" == .str "predicate" && !isSet stop "predicate_ref")
    "predicate stop condition requires a predicate_ref"
  raiseIf (stop.field "kind" != .str "predicate" && isSet stop "predicate_ref")
    "predicate_ref is only valid for predicate stop conditions"

def stopCondition : Schema :=
  .model
    [defaulted "action" (.str "terminal") (literal ["terminal", "pause"]),
      required "kind" (literal ["goal_complete", "bounded_exploration_complete",
        "budget_exhausted", "human_stop", "guardrail_violation", "provider_error", "predicate"]),
      optional "predicate_ref" capabilityDescriptorRef]
    validatePredicateRef

def capturePolicySpec : Schema :=
  .model
    [required "default_mode" (literal ["metadata", "redacted", "raw_encrypted", "disabled"]),
      defaulted "raw_sensitive" (.str "disabled") (literal ["disabled", "opt_in"]),
      defaulted "sensitive_ttl_days" (.int 30) (integerFrom 1)]
    noCheck

def contextPolicySpec : Schema :=
  .model
    [required "id" text,
      required "max_chars" (integerFrom 1),
      required "strategy" (literal ["head", "tail", "full"])]
    noCheck

def validatePayloadIdentity (extension : Json) : Except String Unit := do
  let payload := extension.field "payload_ref"
  raiseIf (extension.field "digest" != payload.field "digest")
    "extension digest must match its payload artifact"
  raiseIf (extension.field "classification" != payload.field "classification")
    "extension classification must match its payload artifact"

def extensionRef : Schema :=
  .model
    [required "classification" classification,
      required "digest" digest,
      required "namespace" nonEmptyStr,
      required "payload_ref" artifactRef,
      defaulted "required" (.bool true) boolean,
      required "schema_ref" artifactRef,
      required "schema_version" nonEmptyStr,
      required "slot" nonEmptyStr]
    validatePayloadIdentity

/-! ## Goal and scenario -/

def goalOutcome : Schema :=
  .model [required "description" nonEmptyStr, required "id" nonEmptyStr] noCheck

def goalConstraint : Schema :=
  .model
    [required "description" nonEmptyStr,
      required "id" nonEmptyStr,
      required "rule" (literal ["must", "must_not"])]
    noCheck

def validateGoalShape (goal : Json) : Except String Unit := do
  let outcomeIds := column goal "outcomes" "id"
  let constraintIds := column goal "constraints" "id"
  raiseIf (!allDistinct outcomeIds) "goal outcome ids must be unique"
  raiseIf (!allDistinct constraintIds) "goal constraint ids must be unique"
  raiseIf (outcomeIds.any fun id => id ∈ constraintIds)
    "goal ids must be unique across outcomes and constraints"
  raiseIf (goal.field "mode" == .str "goal_state" && !hasItems goal "outcomes")
    "goal_state requires at least one outcome"
  raiseIf (goal.field "mode" == .str "bounded_exploration" &&
      !(hasItems goal "learning_targets" || hasItems goal "outcomes"))
    "bounded_exploration requires a learning target or outcome"

def goalSpec : Schema :=
  .model
    [tuple "completion_observations" nonEmptyStr,
      tuple "constraints" goalConstraint,
      tuple "evidence_expectations" nonEmptyStr,
      required "instruction" nonEmptyStr,
      tuple "learning_targets" nonEmptyStr,
      required "mode" (literal ["goal_state", "bounded_exploration"]),
      tuple "outcomes" goalOutcome]
    validateGoalShape

def inputBinding : Schema :=
  .model
    [required "id" nonEmptyStr,
      defaulted "mount_access" (.str "read_only") (literal ["read_only", "read_write"]),
      optional "mount_name" nonEmptyStr,
      required "role" nonEmptyStr,
      required "source" artifactRef,
      required "visibility" (literal ["subject", "evaluator", "laboratory",
        "subject_and_evaluator"])]
    noCheck

def validateBindingIds (scenario : Json) : Except String Unit := do
  raiseIf (!hasItems scenario "input_bindings") "scenario requires at least one input binding"
  raiseIf (!allDistinct (column scenario "input_bindings" "id"))
    "scenario input binding ids must be unique"

def scenarioSpec : Schema :=
  .model
    [required "description" nonEmptyStr,
      required "input_bindings" (.list 0 inputBinding),
      tuple "limitations" nonEmptyStr,
      tuple "observable_conditions" nonEmptyStr,
      tuple "provenance" nonEmptyStr]
    validateBindingIds

/-! ## Inventory and workspace -/

def exposure : Schema := literal ["schema_only", "instructions", "instructions_and_schema"]

def capabilityRequirement : Schema :=
  .model
    [tuple "authority_constraints" nonEmptyStr,
      required "capability_ref" capabilityDescriptorRef,
      required "exposure" exposure,
      tuple "instruction_refs" artifactRef,
      required "kind" (literal ["tool", "skill"]),
      required "minimum_interface_version" nonEmptyStr,
      tuple "requested_permissions" nonEmptyStr,
      defaulted "required" (.bool true) boolean]
    noCheck

def runtimeRequirement : Schema :=
  .model [required "capability" nonEmptyStr, defaulted "required" (.bool true) boolean] noCheck

def validateCapabilityKeys (inventory : Json) : Except String Unit :=
  let keys := (inventory.items "capability_requirements").map fun item =>
    Json.arr [item.field "kind", (item.field "capability_ref").field "namespace",
      (item.field "capability_ref").field "name"]
  raiseIf (!allDistinct keys) "capability requirements must be unique"

def agentInventorySpec : Schema :=
  .model
    [tuple "capability_requirements" capabilityRequirement,
      optional "provider_profile_id" nonEmptyStr,
      required "runner_ref" capabilityDescriptorRef,
      tuple "runtime_requirements" runtimeRequirement,
      required "subject_id" nonEmptyStr]
    validateCapabilityKeys

def workspaceMount : Schema :=
  .model
    [required "access" (literal ["read_only", "read_write"]),
      required "name" nonEmptyStr,
      required "source" artifactRef,
      required "target" nonEmptyStr]
    noCheck

/-- A mode whose allowlist is present exactly when the mode is `allowlist`. -/
def validateAllowlist (list missing unexpected : String) (policy : Json) : Except String Unit := do
  raiseIf (policy.field "mode" == .str "allowlist" && !hasItems policy list) missing
  raiseIf (policy.field "mode" != .str "allowlist" && hasItems policy list) unexpected

def networkMode : Schema := literal ["disabled", "provider_only", "allowlist"]

def networkPolicy : Schema :=
  .model [tuple "allowed_endpoint_refs" nonEmptyStr, required "mode" networkMode]
    (validateAllowlist "allowed_endpoint_refs" "allowlist network policy requires endpoint refs"
      "endpoint refs are only valid for allowlist network policy")

def externalEffectMode : Schema := literal ["denied", "approval_required", "allowlist"]

def externalEffectPolicy : Schema :=
  .model [tuple "allowed_effects" nonEmptyStr, required "mode" externalEffectMode]
    (validateAllowlist "allowed_effects" "external effect allowlist requires effects"
      "allowed effects are only valid for allowlist policy")

def snapshotPolicy : Schema :=
  .model [defaulted "capture_workspace" (.bool false) boolean, tuple "include_zones" nonEmptyStr]
    noCheck

/-- The pattern `^[a-z][a-z0-9.-]*$` with at most 64 characters. -/
def isBindingId (id : String) : Bool :=
  let isLower := fun char : Char => 'a' ≤ char && char ≤ 'z'
  id.toList.length ≤ 64 && (id.toList.take 1).any isLower &&
    id.toList.all fun char => isLower char || char.isDigit || char == '.' || char == '-'

def secretBindingRef : Schema :=
  .model
    [required "binding_id" (.scalar (.trimmed isBindingId)),
      required "source" (literal ["keychain", "environment"])]
    noCheck

def validateTtl (policy : Json) : Except String Unit := do
  raiseIf (policy.field "mode" == .str "retain_until_ttl" && !isSet policy "ttl_seconds")
    "retain_until_ttl cleanup requires ttl_seconds"
  raiseIf (policy.field "mode" != .str "retain_until_ttl" && isSet policy "ttl_seconds")
    "ttl_seconds is only valid with retain_until_ttl"

def cleanupPolicy : Schema :=
  .model
    [defaulted "mode" (.str "discard") (literal ["discard", "retain_until_ttl", "retain"]),
      optional "ttl_seconds" (integerFrom 1)]
    validateTtl

def validateWorkspaceNames (workspace : Json) : Except String Unit := do
  raiseIf (!allDistinct (column workspace "mounts" "name")) "workspace mount names must be unique"
  raiseIf (!allDistinct (workspace.items "write_zones")) "workspace write zones must be unique"

def workspaceTemplateSpec : Schema :=
  .model
    [defaulted "cleanup_policy" (.obj [("mode", .str "discard")]) cleanupPolicy,
      required "external_effect_policy" externalEffectPolicy,
      defaulted "lifecycle" (.str "ephemeral_per_run") (literal ["ephemeral_per_run"]),
      tuple "mounts" workspaceMount,
      required "network_policy" networkPolicy,
      required "runtime_kind" nonEmptyStr,
      tuple "secret_binding_refs" secretBindingRef,
      defaulted "snapshot_policy"
        (.obj [("capture_workspace", .bool false), ("include_zones", .arr [])]) snapshotPolicy,
      tuple "write_zones" nonEmptyStr]
    validateWorkspaceNames

/-! ## Interaction protocol -/

def interactionNode : Schema :=
  .model
    [optional "content_ref" artifactRef,
      required "id" nonEmptyStr,
      required "kind" (literal ["prompt", "await_subject", "checkpoint", "human_approval",
        "terminal"])]
    noCheck

/-- The discriminating field of a trigger or relation model. -/
def kindField (kind : String) : String × Presence × Schema :=
  defaulted "kind" (.str kind) (literal [kind])

def interactionTrigger : Schema :=
  .tagged "kind"
    [("always", .model [kindField "always"] noCheck),
      ("event", .model [required "event_type" nonEmptyStr, kindField "event"] noCheck),
      ("checkpoint_reached",
        .model [required "checkpoint_definition_id" nonEmptyStr, kindField "checkpoint_reached"]
          noCheck),
      ("evaluator_signal",
        .model [kindField "evaluator_signal", required "signal" nonEmptyStr,
          required "stage_id" nonEmptyStr] noCheck),
      ("human_signal", .model [kindField "human_signal", required "signal" nonEmptyStr] noCheck),
      ("predicate",
        .model [kindField "predicate", required "predicate_ref" capabilityDescriptorRef] noCheck)]

def interactionEdge : Schema :=
  .model
    [defaulted "max_activations" (.int 1) (integerFrom 1),
      defaulted "priority" (.int 0) (.scalar (.integer none)),
      required "source" nonEmptyStr,
      required "target" nonEmptyStr,
      required "trigger" interactionTrigger]
    noCheck

def validateGraph (protocol : Json) : Except String Unit := do
  let ids := column protocol "nodes" "id"
  let graph := protocol.field "mode" == .str "graph"
  raiseIf (protocol.field "mode" == .str "single_turn" &&
      (hasItems protocol "nodes" || hasItems protocol "edges"))
    "single_turn protocol cannot declare graph nodes or edges"
  raiseIf (graph && ids.isEmpty) "graph protocol requires nodes"
  raiseIf (graph && !allDistinct ids) "interaction node ids must be unique"
  raiseIf (graph && (protocol.items "edges").any fun edge =>
      edge.field "source" ∉ ids || edge.field "target" ∉ ids)
    "interaction edge references unknown node"

def interactionProtocolSpec : Schema :=
  .model
    [tuple "edges" interactionEdge,
      tuple "initial_message_refs" artifactRef,
      defaulted "max_turns" (.int 1) (integerFrom 1),
      required "mode" (literal ["single_turn", "graph"]),
      tuple "nodes" interactionNode,
      optional "system_prompt_ref" artifactRef]
    validateGraph

/-! ## Evaluation plan -/

def dimensionValueType : Schema := literal ["boolean", "number", "category"]

/-- Whether both attributes are floats and the first is not below the second. -/
def notBelow (left right : Json) : Bool :=
  match left, right with
  | .float first, .float second => floatValue second ≤ floatValue first
  | _, _ => false

def validateScale (dimension : Json) : Except String Unit := do
  raiseIf (dimension.field "value_type" == .str "number" &&
      notBelow (dimension.field "minimum") (dimension.field "maximum"))
    "evaluation dimension minimum must be lower than maximum"
  raiseIf (dimension.field "value_type" != .str "number" &&
      (isSet dimension "minimum" || isSet dimension "maximum"))
    "only numeric dimensions can declare minimum or maximum"

def evaluationDimension : Schema :=
  .model
    [tuple "anchors" keyValue,
      required "description" nonEmptyStr,
      required "id" nonEmptyStr,
      optional "maximum" number,
      optional "minimum" number,
      required "value_type" dimensionValueType]
    validateScale

def validateReference (trigger : Json) : Except String Unit := do
  let kind := trigger.field "kind"
  raiseIf (kind == .str "checkpoint" && !isSet trigger "reference")
    "checkpoint evaluation trigger requires a reference"
  raiseIf (kind == .str "event" && !isSet trigger "reference")
    "event evaluation trigger requires a reference"
  raiseIf (kind == .str "run_terminal" && isSet trigger "reference")
    "run_terminal evaluation trigger cannot declare a reference"

def evaluationTrigger : Schema :=
  .model
    [required "kind" (literal ["run_terminal", "checkpoint", "event"]),
      optional "reference" nonEmptyStr]
    validateReference

def evaluationStage : Schema :=
  .model
    [required "evaluator_ref" capabilityDescriptorRef,
      defaulted "hard_gate" (.bool false) boolean,
      required "id" nonEmptyStr,
      required "kind" (literal ["integrity", "deterministic_grader", "model_judge",
        "human_review"]),
      tuple "output_dimensions" nonEmptyStr,
      tuple "parameters" keyValue,
      required "trigger" evaluationTrigger]
    noCheck

def validateDisclosure (disclosure : Json) : Except String Unit := do
  let silent := disclosure.field "mode" == .str "none"
  raiseIf (silent && (hasItems disclosure "dimension_ids" ||
      disclosure.field "include_scale" == .bool true ||
      disclosure.field "include_anchors" == .bool true))
    "none disclosure cannot expose evaluation guidance"
  raiseIf (!silent && !hasItems disclosure "dimension_ids")
    "enabled Subject disclosure requires public dimensions"

def subjectEvaluationDisclosure : Schema :=
  .model
    [tuple "dimension_ids" nonEmptyStr,
      defaulted "include_anchors" (.bool false) boolean,
      defaulted "include_scale" (.bool false) boolean,
      defaulted "mode" (.str "none") (literal ["none", "pre_run", "on_request", "post_run"])]
    validateDisclosure

def noSubjectDisclosure : Json :=
  .obj [("dimension_ids", .arr []), ("include_anchors", .bool false),
    ("include_scale", .bool false), ("mode", .str "none")]

def evaluationDisclosure : Schema :=
  .model
    [tuple "hidden_input_refs" artifactRef,
      defaulted "subject" noSubjectDisclosure subjectEvaluationDisclosure]
    noCheck

def blindingPolicy : Schema := .model [tuple "hidden_fields" nonEmptyStr] noCheck

def aggregationSpec : Schema :=
  .model [tuple "parameters" keyValue, required "projector_ref" capabilityDescriptorRef] noCheck

def validateRequiredAuthority (policy : Json) : Except String Unit := do
  let parts := [isSet policy "adjudicator_ref", hasItems policy "adjudicable_stage_ids",
    isSet policy "attestation_verifier_ref"]
  let needed := policy.field "required" == .bool true
  raiseIf (needed && !parts.all id)
    "required human adjudication needs an adjudicator, stages, and verifier"
  raiseIf (!needed && parts.any id) "optional adjudication authority is not supported in v1"

def humanAdjudicationPolicy : Schema :=
  .model
    [tuple "adjudicable_stage_ids" nonEmptyStr,
      optional "adjudicator_ref" capabilityDescriptorRef,
      optional "attestation_verifier_ref" capabilityDescriptorRef,
      defaulted "required" (.bool false) boolean]
    validateRequiredAuthority

def validateEvaluationPlan (plan : Json) : Except String Unit := do
  let dimensionIds := column plan "dimensions" "id"
  let stageIds := column plan "stages" "id"
  raiseIf (dimensionIds.isEmpty || stageIds.isEmpty) "evaluation plan requires dimensions and stages"
  raiseIf (!allDistinct dimensionIds) "evaluation dimension ids must be unique"
  raiseIf (!allDistinct stageIds) "evaluation stage ids must be unique"
  raiseIf ((plan.items "stages").any fun stage =>
      (stage.items "output_dimensions").any fun id => id ∉ dimensionIds)
    "evaluation stage references unknown dimension"
  raiseIf ((((plan.field "disclosure").field "subject").items "dimension_ids").any fun id =>
      id ∉ dimensionIds)
    "disclosure references unknown dimension"
  raiseIf (((plan.field "human_adjudication_policy").items "adjudicable_stage_ids").any fun id =>
      id ∉ stageIds)
    "human adjudication policy references an unknown stage"

def evaluationPlanSpec : Schema :=
  .model
    [optional "aggregation" aggregationSpec,
      defaulted "blinding_policy" (.obj [("hidden_fields", .arr [])]) blindingPolicy,
      required "dimensions" (.list 0 evaluationDimension),
      defaulted "disclosure"
        (.obj [("hidden_input_refs", .arr []), ("subject", noSubjectDisclosure)])
        evaluationDisclosure,
      defaulted "human_adjudication_policy"
        (.obj [("adjudicable_stage_ids", .arr []), ("required", .bool false)])
        humanAdjudicationPolicy,
      tuple "limitations" nonEmptyStr,
      required "stages" (.list 0 evaluationStage)]
    validateEvaluationPlan

/-! ## Checkpoint and progress policies -/

def checkpointTrigger : Schema :=
  .tagged "kind"
    [("manual", .model [kindField "manual"] noCheck),
      ("event", .model [required "event_type" nonEmptyStr, kindField "event"] noCheck),
      ("protocol_node", .model [kindField "protocol_node", required "node_id" nonEmptyStr] noCheck),
      ("predicate",
        .model [kindField "predicate", required "predicate_ref" capabilityDescriptorRef] noCheck)]

def checkpointCaptureSpec : Schema :=
  .model
    (["agent_inventory", "artifact_manifest", "context_snapshot", "evaluation_records",
      "protocol_state", "provider_resolution", "workspace_snapshot"].map fun name =>
        defaulted name (.bool false) boolean)
    noCheck

def checkpointDefinition : Schema :=
  .model
    [required "capture" checkpointCaptureSpec,
      tuple "compatibility_tags" nonEmptyStr,
      required "id" nonEmptyStr,
      required "label" nonEmptyStr,
      required "order" (integerFrom 1),
      defaulted "required" (.bool false) boolean,
      required "trigger" checkpointTrigger,
      tuple "validator_refs" capabilityDescriptorRef]
    noCheck

def validateCheckpointDefinitions (policy : Json) : Except String Unit := do
  raiseIf (!hasItems policy "definitions") "checkpoint policy requires at least one definition"
  raiseIf (!allDistinct (column policy "definitions" "id"))
    "checkpoint definition ids must be unique"
  raiseIf (!allDistinct (column policy "definitions" "order"))
    "checkpoint definition order must be unique"

def checkpointPolicySpec : Schema :=
  .model [required "definitions" (.list 0 checkpointDefinition)] validateCheckpointDefinitions

def progressArtifactTrigger : Schema :=
  .tagged "kind"
    [("checkpoint_reached",
        .model [required "checkpoint_definition_id" nonEmptyStr, kindField "checkpoint_reached"]
          noCheck),
      ("subject_turn_interval",
        .model
          [defaulted "counted_event_type" (.str "subject.responded")
              (literal ["subject.responded"]),
            required "every_n_turns" (integerFrom 1),
            kindField "subject_turn_interval"]
          noCheck)]

def progressAuthority : Json :=
  .arr [.str "read_current_run_ledger_prefix", .str "write_progress_artifact_only",
    .str "no_subject_feedback"]

def progressArtifactDefinition : Schema :=
  .model
    [defaulted "audience" (.str "laboratory_human") (literal ["laboratory_human"]),
      defaulted "authority_constraints" progressAuthority (.constant progressAuthority),
      required "id" nonEmptyStr,
      defaulted "input_scope" (.str "complete_run_ledger_prefix")
        (literal ["complete_run_ledger_prefix"]),
      required "label" nonEmptyStr,
      defaulted "max_output_characters" (.int 12000) (integerFrom 1),
      defaulted "minimum_interface_version" (.str "1") nonEmptyStr,
      required "summarizer_ref" capabilityDescriptorRef,
      required "trigger" progressArtifactTrigger]
    noCheck

def validateProgressDefinitions (policy : Json) : Except String Unit := do
  raiseIf (!hasItems policy "definitions")
    "progress artifact policy requires at least one definition"
  raiseIf (!allDistinct (column policy "definitions" "id"))
    "progress artifact definition ids must be unique"

def progressArtifactPolicySpec : Schema :=
  .model
    [required "definitions" (.list 0 progressArtifactDefinition), tuple "limitations" nonEmptyStr]
    validateProgressDefinitions

/-! ## Well-formedness -/

section WellFormed

variable (coercion : Coercion)

attribute [local simp] nonEmptyStr literal integerFrom boolean text digest classification
  nonNegative exposure networkMode externalEffectMode number dimensionValueType validate
  Scalar.parse

@[simp] theorem wellFormed_budgetSpec : WellFormed coercion budgetSpec :=
  wellFormed_model (by decide) (by simp)

@[simp] theorem wellFormed_stopCondition : WellFormed coercion stopCondition :=
  wellFormed_model (by decide) (by simp)

@[simp] theorem wellFormed_capturePolicySpec : WellFormed coercion capturePolicySpec :=
  wellFormed_model (by decide) (by simp)

@[simp] theorem wellFormed_contextPolicySpec : WellFormed coercion contextPolicySpec :=
  wellFormed_model (by decide) (by simp)

@[simp] theorem wellFormed_extensionRef : WellFormed coercion extensionRef :=
  wellFormed_model (by decide) (by simp)

@[simp] theorem wellFormed_goalOutcome : WellFormed coercion goalOutcome :=
  wellFormed_model (by decide) (by simp)

@[simp] theorem wellFormed_goalConstraint : WellFormed coercion goalConstraint :=
  wellFormed_model (by decide) (by simp)

@[simp] theorem wellFormed_goalSpec : WellFormed coercion goalSpec :=
  wellFormed_model (by decide) (by simp)

@[simp] theorem wellFormed_inputBinding : WellFormed coercion inputBinding :=
  wellFormed_model (by decide) (by simp)

@[simp] theorem wellFormed_scenarioSpec : WellFormed coercion scenarioSpec :=
  wellFormed_model (by decide) (by simp)

@[simp] theorem wellFormed_capabilityRequirement : WellFormed coercion capabilityRequirement :=
  wellFormed_model (by decide) (by simp)

@[simp] theorem wellFormed_runtimeRequirement : WellFormed coercion runtimeRequirement :=
  wellFormed_model (by decide) (by simp)

@[simp] theorem wellFormed_agentInventorySpec : WellFormed coercion agentInventorySpec :=
  wellFormed_model (by decide) (by simp)

@[simp] theorem wellFormed_workspaceMount : WellFormed coercion workspaceMount :=
  wellFormed_model (by decide) (by simp)

@[simp] theorem wellFormed_networkPolicy : WellFormed coercion networkPolicy :=
  wellFormed_model (by decide) (by simp)

@[simp] theorem wellFormed_externalEffectPolicy : WellFormed coercion externalEffectPolicy :=
  wellFormed_model (by decide) (by simp)

@[simp] theorem wellFormed_snapshotPolicy : WellFormed coercion snapshotPolicy :=
  wellFormed_model (by decide) (by simp)

@[simp] theorem wellFormed_secretBindingRef : WellFormed coercion secretBindingRef :=
  wellFormed_model (by decide) (by simp)

@[simp] theorem wellFormed_cleanupPolicy : WellFormed coercion cleanupPolicy :=
  wellFormed_model (by decide) (by simp)

@[simp] theorem wellFormed_workspaceTemplateSpec : WellFormed coercion workspaceTemplateSpec := by
  have noSnapshot : validate coercion snapshotPolicy
      (.obj [("capture_workspace", .bool false), ("include_zones", .arr [])]) =
        .ok (.obj [("capture_workspace", .bool false), ("include_zones", .arr [])]) :=
    validate_stable (wellFormed_snapshotPolicy coercion) (.obj []) _ (by
      simp [snapshotPolicy, defaulted, tuple, validateFields, readPresence, consField, noCheck, bind, Except.bind])
  have discard : validate coercion cleanupPolicy (.obj [("mode", .str "discard")]) =
      .ok (.obj [("mode", .str "discard")]) :=
    validate_stable (wellFormed_cleanupPolicy coercion) (.obj []) _ (by
      simp [cleanupPolicy, defaulted, optional, validateFields, readPresence, consField, bind, Except.bind]
      decide)
  exact wellFormed_model (by decide) (by simp [noSnapshot, discard])

variable {coercion} in
/-- One case of a union over `kind`. -/
theorem wellFormedCases_kind {kind : String} {fields : List (String × Presence × Schema)}
    {check : Json → Except String Unit} {rest : List (String × Schema)}
    (increasing : (names fields).Pairwise (· < ·)) (formed : WellFormedFields coercion fields)
    (member : kindField kind ∈ fields) (others : WellFormedCases coercion "kind" rest) :
    WellFormedCases coercion "kind" ((kind, .model fields check) :: rest) := by
  rw [WellFormedCases]
  exact ⟨wellFormed_model increasing formed,
    literal_dump coercion fields check increasing "kind" kind member, others⟩

theorem wellFormedCases_nil (tag : String) : WellFormedCases coercion tag [] := by
  simp [WellFormedCases]

@[simp] theorem wellFormedFields_kindField (kind : String)
    (rest : List (String × Presence × Schema)) :
    WellFormedFields coercion (kindField kind :: rest) ↔ WellFormedFields coercion rest := by
  simp [kindField, literal, validate, Scalar.parse]

@[simp] theorem wellFormed_interactionTrigger : WellFormed coercion interactionTrigger := by
  rw [interactionTrigger, WellFormed]
  exact wellFormedCases_kind (by decide) (by simp) (by simp) <|
    wellFormedCases_kind (by decide) (by simp) (by simp) <|
    wellFormedCases_kind (by decide) (by simp) (by simp) <|
    wellFormedCases_kind (by decide) (by simp) (by simp) <|
    wellFormedCases_kind (by decide) (by simp) (by simp) <|
    wellFormedCases_kind (by decide) (by simp) (by simp) <|
    wellFormedCases_nil coercion _

@[simp] theorem wellFormed_interactionNode : WellFormed coercion interactionNode :=
  wellFormed_model (by decide) (by simp)

@[simp] theorem wellFormed_interactionEdge : WellFormed coercion interactionEdge :=
  wellFormed_model (by decide) (by simp)

@[simp] theorem wellFormed_interactionProtocolSpec : WellFormed coercion interactionProtocolSpec :=
  wellFormed_model (by decide) (by simp)

@[simp] theorem wellFormed_evaluationDimension : WellFormed coercion evaluationDimension :=
  wellFormed_model (by decide) (by simp)

@[simp] theorem wellFormed_evaluationTrigger : WellFormed coercion evaluationTrigger :=
  wellFormed_model (by decide) (by simp)

@[simp] theorem wellFormed_evaluationStage : WellFormed coercion evaluationStage :=
  wellFormed_model (by decide) (by simp)

@[simp] theorem wellFormed_subjectEvaluationDisclosure :
    WellFormed coercion subjectEvaluationDisclosure :=
  wellFormed_model (by decide) (by simp)

@[simp] theorem wellFormed_evaluationDisclosure : WellFormed coercion evaluationDisclosure := by
  have silent : validate coercion subjectEvaluationDisclosure noSubjectDisclosure =
      .ok noSubjectDisclosure :=
    validate_stable (wellFormed_subjectEvaluationDisclosure coercion) (.obj []) _ (by
      simp [subjectEvaluationDisclosure, defaulted, tuple, validateFields, readPresence, consField, bind, Except.bind]
      decide)
  exact wellFormed_model (by decide) (by simp [silent])

@[simp] theorem wellFormed_blindingPolicy : WellFormed coercion blindingPolicy :=
  wellFormed_model (by decide) (by simp)

@[simp] theorem wellFormed_aggregationSpec : WellFormed coercion aggregationSpec :=
  wellFormed_model (by decide) (by simp)

@[simp] theorem wellFormed_humanAdjudicationPolicy : WellFormed coercion humanAdjudicationPolicy :=
  wellFormed_model (by decide) (by simp)

@[simp] theorem wellFormed_evaluationPlanSpec : WellFormed coercion evaluationPlanSpec := by
  have noDisclosure : validate coercion evaluationDisclosure
      (.obj [("hidden_input_refs", .arr []), ("subject", noSubjectDisclosure)]) =
        .ok (.obj [("hidden_input_refs", .arr []), ("subject", noSubjectDisclosure)]) :=
    validate_stable (wellFormed_evaluationDisclosure coercion) (.obj []) _ (by
      simp [evaluationDisclosure, defaulted, tuple, validateFields, readPresence, consField, noCheck, bind, Except.bind])
  have noBlinding : validate coercion blindingPolicy (.obj [("hidden_fields", .arr [])]) =
      .ok (.obj [("hidden_fields", .arr [])]) :=
    validate_stable (wellFormed_blindingPolicy coercion) (.obj []) _ (by
      simp [blindingPolicy, defaulted, tuple, validateFields, readPresence, consField, noCheck, bind, Except.bind])
  have noAdjudication : validate coercion humanAdjudicationPolicy
      (.obj [("adjudicable_stage_ids", .arr []), ("required", .bool false)]) =
        .ok (.obj [("adjudicable_stage_ids", .arr []), ("required", .bool false)]) :=
    validate_stable (wellFormed_humanAdjudicationPolicy coercion) (.obj []) _ (by
      simp [humanAdjudicationPolicy, defaulted, tuple, optional, validateFields, readPresence, consField, bind, Except.bind]
      decide)
  exact wellFormed_model (by decide)
    (by simp [noDisclosure, noBlinding, noAdjudication])

@[simp] theorem wellFormed_checkpointTrigger : WellFormed coercion checkpointTrigger := by
  rw [checkpointTrigger, WellFormed]
  exact wellFormedCases_kind (by decide) (by simp) (by simp) <|
    wellFormedCases_kind (by decide) (by simp) (by simp) <|
    wellFormedCases_kind (by decide) (by simp) (by simp) <|
    wellFormedCases_kind (by decide) (by simp) (by simp) <|
    wellFormedCases_nil coercion _

@[simp] theorem wellFormed_checkpointCaptureSpec : WellFormed coercion checkpointCaptureSpec :=
  wellFormed_model (by decide) (by simp)

@[simp] theorem wellFormed_checkpointDefinition : WellFormed coercion checkpointDefinition :=
  wellFormed_model (by decide) (by simp)

@[simp] theorem wellFormed_checkpointPolicySpec : WellFormed coercion checkpointPolicySpec :=
  wellFormed_model (by decide) (by simp)

@[simp] theorem wellFormed_progressArtifactTrigger :
    WellFormed coercion progressArtifactTrigger := by
  rw [progressArtifactTrigger, WellFormed]
  exact wellFormedCases_kind (by decide) (by simp) (by simp) <|
    wellFormedCases_kind (by decide)
      (by simp) (by simp) <|
    wellFormedCases_nil coercion _

@[simp] theorem wellFormed_progressArtifactDefinition :
    WellFormed coercion progressArtifactDefinition := by
  have authority : WellFormed coercion (.constant progressAuthority) := by
    rw [WellFormed]
    exact ⟨by decide, by simp [progressAuthority, dropEmpty, dropEmptyItems], by decide⟩
  have version : strip "1" = "1" := by decide
  exact wellFormed_model (by decide) (by simp [authority, version])

@[simp] theorem wellFormed_progressArtifactPolicySpec :
    WellFormed coercion progressArtifactPolicySpec :=
  wellFormed_model (by decide) (by simp)

end WellFormed

end Evidrun.Contracts
