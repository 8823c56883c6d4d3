import Evidrun.Lib.DocumentRestore
import Evidrun.Contracts.Runtime

/-!
# Contracts that are read back from their documents

`semantic_model_dump` drops null and empty parts. Every nested contract restores
them by its defaults: its lists default to empty, or its validator does not let
them be empty. Three records require a list that may be empty: the inputs and
stop conditions of a SubjectEnvelope, the values of an EvaluationRecord and the
validations of a CheckpointRecord.
-/

namespace Evidrun.Contracts

open JsonText DocumentSchema

set_option autoImplicit false

variable {coercion : Coercion}

section Fields

variable (guarded : List String) (name : String) (schema : Schema)
  (rest : List (String × Presence × Schema))

@[simp] theorem restoresFields_nil : RestoresFields coercion guarded [] := by
  simp [RestoresFields]

@[simp] theorem restoresFields_required :
    RestoresFields coercion guarded (required name schema :: rest) ↔
      Restores coercion schema ∧ (name ∈ guarded ∨ Filled coercion schema) ∧
        RestoresFields coercion guarded rest := by
  simp [RestoresFields, required, RestoresField]

@[simp] theorem restoresFields_optional :
    RestoresFields coercion guarded (optional name schema :: rest) ↔
      Restores coercion schema ∧ (name ∈ guarded ∨ Filled coercion schema) ∧
        RestoresFields coercion guarded rest := by
  simp [RestoresFields, optional, RestoresField]

@[simp] theorem restoresFields_defaulted (usual : Json) :
    RestoresFields coercion guarded (defaulted name usual schema :: rest) ↔
      Restores coercion schema ∧ (name ∈ guarded ∨ Recovers coercion schema usual) ∧
        RestoresFields coercion guarded rest := by
  simp [RestoresFields, defaulted, RestoresField]

@[simp] theorem filledFields_required :
    FilledFields coercion (required name schema :: rest) ↔
      Filled coercion schema ∨ FilledFields coercion rest := by
  simp [FilledFields, required]

@[simp] theorem filledFields_optional :
    FilledFields coercion (optional name schema :: rest) ↔ FilledFields coercion rest := by
  simp [FilledFields, optional]

@[simp] theorem filledFields_defaulted (usual : Json) :
    FilledFields coercion (defaulted name usual schema :: rest) ↔
      Filled coercion schema ∨ FilledFields coercion rest := by
  simp [FilledFields, defaulted]

end Fields

attribute [simp] restores_scalar filled_scalar restores_constant restores_list

attribute [local simp] nonEmptyStr literal tuple boolean integerFrom digest schemaVersion
  contractType classification text number nonNegative kindField exposure networkMode
  externalEffectMode utcDateTime

/-- A contract that its document restores, and that is never empty itself. -/
abbrev Durable (coercion : Coercion) (schema : Schema) : Prop :=
  Restores coercion schema ∧ Filled coercion schema

variable {fields : List (String × Presence × Schema)} {check : Json → Except String Unit}
  {schema : Schema}

@[simp] theorem recovers_scalar (rule : Scalar) (usual : Json) :
    Recovers coercion (.scalar rule) usual :=
  (filled_scalar rule).recovers usual

@[simp] theorem recovers_tuple (item : Schema) : Recovers coercion (.list 0 item) (.arr []) :=
  recovers_list item

/-- A contract without a guarded list. -/
theorem durable_plain (formed : WellFormed coercion (.model fields check))
    (restores : RestoresFields coercion [] fields) (filled : FilledFields coercion fields) :
    Durable coercion (.model fields check) :=
  ⟨restores_model [] formed restores (by simp), filled_model formed filled⟩

/-- A contract whose validator keeps the guarded lists from being empty. -/
theorem durable_guarded (guarded : List String) (formed : WellFormed coercion (.model fields check))
    (restores : RestoresFields coercion guarded fields) (filled : FilledFields coercion fields)
    (guards : ∀ dump, check dump = .ok () → ∀ name ∈ guarded, dump.items name ≠ []) :
    Durable coercion (.model fields check) :=
  ⟨restores_model guarded formed restores guards, filled_model formed filled⟩

/-! ## Shared contracts -/

@[simp] theorem durable_contractRef : Durable coercion contractRef :=
  durable_plain (wellFormed_contractRef coercion) (by simp) (by simp)

@[simp] theorem durable_artifactRef : Durable coercion artifactRef :=
  durable_plain (wellFormed_artifactRef coercion) (by simp) (by simp)

@[simp] theorem durable_capabilityDescriptorRef : Durable coercion capabilityDescriptorRef :=
  durable_plain (wellFormed_capabilityDescriptorRef coercion) (by simp) (by simp)

@[simp] theorem durable_evidenceRef : Durable coercion evidenceRef :=
  durable_plain (wellFormed_evidenceRef coercion) (by simp) (by simp)

@[simp] theorem durable_keyValue : Durable coercion keyValue :=
  durable_plain (wellFormed_keyValue coercion) (by simp) (by simp)

/-- A tagged union whose cases are contracts without a guarded list. -/
theorem durable_kinds {tag : String} {cases : List (String × Schema)}
    (formed : WellFormed coercion (.tagged tag cases))
    (each : ∀ choice ∈ cases, match choice.2 with
      | .model fields _ => RestoresFields coercion [] fields ∧ FilledFields coercion fields
      | _ => False) :
    Durable coercion (.tagged tag cases) := by
  have durable : ∀ choice ∈ cases, Durable coercion choice.2 := by
    intro ⟨value, schema⟩ member
    have parts := each (value, schema) member
    rw [WellFormed] at formed
    have caseFormed := (wellFormedCases_mem formed member).1
    cases schema with
    | model fields check => exact durable_plain caseFormed parts.1 parts.2
    | _ => exact parts.elim
  exact ⟨restores_tagged formed fun choice member => (durable choice member).1,
    filled_tagged fun choice member => (durable choice member).2⟩

@[simp] theorem raiseIf_ok (condition : Bool) (reason : String) (done : Unit) :
    raiseIf condition reason = .ok done ↔ condition = false := by
  cases condition <;> simp [raiseIf]

/-- A validator that passed passed its first check and the rest. -/
theorem raiseIf_bind_ok (condition : Bool) (reason : String) (rest : Unit → Except String Unit) :
    (raiseIf condition reason >>= rest) = .ok () ↔ condition = false ∧ rest () = .ok () := by
  cases condition <;> simp [raiseIf, bind, Except.bind]

theorem items_of_hasItems {document : Json} {name : String} (given : hasItems document name = true) :
    document.items name ≠ [] := by
  simpa [hasItems] using given

/-! ## Authoring contracts -/

@[simp] theorem durable_budgetSpec : Durable coercion budgetSpec :=
  durable_plain (wellFormed_budgetSpec coercion) (by simp) (by simp)

@[simp] theorem durable_stopCondition : Durable coercion stopCondition :=
  durable_plain (wellFormed_stopCondition coercion) (by simp) (by simp)

@[simp] theorem durable_capturePolicySpec : Durable coercion capturePolicySpec :=
  durable_plain (wellFormed_capturePolicySpec coercion) (by simp) (by simp)

@[simp] theorem durable_contextPolicySpec : Durable coercion contextPolicySpec :=
  durable_plain (wellFormed_contextPolicySpec coercion) (by simp) (by simp)

@[simp] theorem durable_extensionRef : Durable coercion extensionRef :=
  durable_plain (wellFormed_extensionRef coercion) (by simp) (by simp)

@[simp] theorem durable_goalOutcome : Durable coercion goalOutcome :=
  durable_plain (wellFormed_goalOutcome coercion) (by simp) (by simp)

@[simp] theorem durable_goalConstraint : Durable coercion goalConstraint :=
  durable_plain (wellFormed_goalConstraint coercion) (by simp) (by simp)

@[simp] theorem durable_goalSpec : Durable coercion goalSpec :=
  durable_plain (wellFormed_goalSpec coercion) (by simp) (by simp)

@[simp] theorem durable_inputBinding : Durable coercion inputBinding :=
  durable_plain (wellFormed_inputBinding coercion) (by simp) (by simp)

@[simp] theorem durable_scenarioSpec : Durable coercion scenarioSpec := by
  refine durable_guarded ["input_bindings"] (wellFormed_scenarioSpec coercion) (by simp)
    (by simp) ?_
  intro dump checked name guard
  rw [validateBindingIds, raiseIf_bind_ok] at checked
  rw [List.mem_singleton.mp guard]
  exact items_of_hasItems (by simpa using checked.1)

@[simp] theorem durable_capabilityRequirement : Durable coercion capabilityRequirement :=
  durable_plain (wellFormed_capabilityRequirement coercion) (by simp) (by simp)

@[simp] theorem durable_runtimeRequirement : Durable coercion runtimeRequirement :=
  durable_plain (wellFormed_runtimeRequirement coercion) (by simp) (by simp)

@[simp] theorem durable_agentInventorySpec : Durable coercion agentInventorySpec :=
  durable_plain (wellFormed_agentInventorySpec coercion) (by simp) (by simp)

@[simp] theorem durable_workspaceMount : Durable coercion workspaceMount :=
  durable_plain (wellFormed_workspaceMount coercion) (by simp) (by simp)

@[simp] theorem durable_networkPolicy : Durable coercion networkPolicy :=
  durable_plain (wellFormed_networkPolicy coercion) (by simp) (by simp)

@[simp] theorem durable_externalEffectPolicy : Durable coercion externalEffectPolicy :=
  durable_plain (wellFormed_externalEffectPolicy coercion) (by simp) (by simp)

@[simp] theorem durable_snapshotPolicy : Durable coercion snapshotPolicy :=
  durable_plain (wellFormed_snapshotPolicy coercion) (by simp) (by simp)

@[simp] theorem durable_secretBindingRef : Durable coercion secretBindingRef :=
  durable_plain (wellFormed_secretBindingRef coercion) (by simp) (by simp)

@[simp] theorem durable_cleanupPolicy : Durable coercion cleanupPolicy :=
  durable_plain (wellFormed_cleanupPolicy coercion) (by simp) (by simp)

@[simp] theorem durable_workspaceTemplateSpec : Durable coercion workspaceTemplateSpec :=
  durable_plain (wellFormed_workspaceTemplateSpec coercion)
    (by simp [durable_cleanupPolicy.2.recovers, durable_snapshotPolicy.2.recovers]) (by simp)

@[simp] theorem durable_interactionTrigger : Durable coercion interactionTrigger :=
  durable_kinds (wellFormed_interactionTrigger coercion) (by simp)

@[simp] theorem durable_interactionNode : Durable coercion interactionNode :=
  durable_plain (wellFormed_interactionNode coercion) (by simp) (by simp)

@[simp] theorem durable_interactionEdge : Durable coercion interactionEdge :=
  durable_plain (wellFormed_interactionEdge coercion) (by simp) (by simp)

@[simp] theorem durable_interactionProtocolSpec : Durable coercion interactionProtocolSpec :=
  durable_plain (wellFormed_interactionProtocolSpec coercion) (by simp) (by simp)

@[simp] theorem durable_evaluationDimension : Durable coercion evaluationDimension :=
  durable_plain (wellFormed_evaluationDimension coercion)
    (by simp [dimensionValueType]) (by simp)

@[simp] theorem durable_evaluationTrigger : Durable coercion evaluationTrigger :=
  durable_plain (wellFormed_evaluationTrigger coercion) (by simp) (by simp)

@[simp] theorem durable_evaluationStage : Durable coercion evaluationStage :=
  durable_plain (wellFormed_evaluationStage coercion) (by simp) (by simp)

@[simp] theorem durable_subjectEvaluationDisclosure :
    Durable coercion subjectEvaluationDisclosure :=
  durable_plain (wellFormed_subjectEvaluationDisclosure coercion) (by simp) (by simp)

@[simp] theorem durable_evaluationDisclosure : Durable coercion evaluationDisclosure :=
  durable_plain (wellFormed_evaluationDisclosure coercion)
    (by simp [durable_subjectEvaluationDisclosure.2.recovers]) (by simp)

/-- A blinding policy may be empty, and is then the default one. -/
theorem restores_blindingPolicy :
    Restores coercion blindingPolicy ∧
      Recovers coercion blindingPolicy (.obj [("hidden_fields", .arr [])]) :=
  ⟨restores_model [] (wellFormed_blindingPolicy coercion) (by simp) (by simp),
    @recovers_lists coercion noCheck [("hidden_fields", nonEmptyStr)]⟩

@[simp] theorem durable_aggregationSpec : Durable coercion aggregationSpec :=
  durable_plain (wellFormed_aggregationSpec coercion) (by simp) (by simp)

@[simp] theorem durable_humanAdjudicationPolicy : Durable coercion humanAdjudicationPolicy :=
  durable_plain (wellFormed_humanAdjudicationPolicy coercion) (by simp) (by simp)

@[simp] theorem durable_evaluationPlanSpec : Durable coercion evaluationPlanSpec := by
  refine durable_guarded ["dimensions", "stages"] (wellFormed_evaluationPlanSpec coercion)
    (by simp [restores_blindingPolicy, durable_evaluationDisclosure.2.recovers,
      durable_humanAdjudicationPolicy.2.recovers])
    (by simp) ?_
  intro dump checked name guard
  rw [validateEvaluationPlan, raiseIf_bind_ok] at checked
  have given : dump.items "dimensions" ≠ [] ∧ dump.items "stages" ≠ [] := by
    simpa [column] using checked.1
  rcases List.mem_pair.mp guard with rfl | rfl
  · exact given.1
  · exact given.2

@[simp] theorem durable_checkpointTrigger : Durable coercion checkpointTrigger :=
  durable_kinds (wellFormed_checkpointTrigger coercion) (by simp)

@[simp] theorem durable_checkpointCaptureSpec : Durable coercion checkpointCaptureSpec :=
  durable_plain (wellFormed_checkpointCaptureSpec coercion) (by simp) (by simp)

@[simp] theorem durable_checkpointDefinition : Durable coercion checkpointDefinition :=
  durable_plain (wellFormed_checkpointDefinition coercion) (by simp) (by simp)

@[simp] theorem durable_checkpointPolicySpec : Durable coercion checkpointPolicySpec := by
  have guards : ∀ dump, validateCheckpointDefinitions dump = .ok () →
      ∀ name ∈ ["definitions"], dump.items name ≠ [] := by
    intro dump checked name guard
    rw [validateCheckpointDefinitions, raiseIf_bind_ok] at checked
    rw [List.mem_singleton.mp guard]
    exact items_of_hasItems (by simpa using checked.1)
  exact ⟨restores_model ["definitions"] (wellFormed_checkpointPolicySpec coercion) (by simp) guards,
    filled_guarded guards List.mem_cons_self⟩

@[simp] theorem durable_progressArtifactTrigger : Durable coercion progressArtifactTrigger :=
  durable_kinds (wellFormed_progressArtifactTrigger coercion) (by simp)

@[simp] theorem durable_progressArtifactDefinition : Durable coercion progressArtifactDefinition :=
  durable_plain (wellFormed_progressArtifactDefinition coercion)
    (by simp [(filled_constant (show
      isEmpty (dropEmpty progressAuthority) = false by rfl)).recovers]) (by simp)

@[simp] theorem durable_progressArtifactPolicySpec :
    Durable coercion progressArtifactPolicySpec := by
  have guards : ∀ dump, validateProgressDefinitions dump = .ok () →
      ∀ name ∈ ["definitions"], dump.items name ≠ [] := by
    intro dump checked name guard
    rw [validateProgressDefinitions, raiseIf_bind_ok] at checked
    rw [List.mem_singleton.mp guard]
    exact items_of_hasItems (by simpa using checked.1)
  exact ⟨restores_model ["definitions"] (wellFormed_progressArtifactPolicySpec coercion)
      (by simp) guards,
    filled_guarded guards List.mem_cons_self⟩

/-! ## Runtime contracts -/

@[simp] theorem filled_list_one (item : Schema) : Filled coercion (.list 1 item) :=
  filled_list Nat.one_pos

@[simp] theorem durable_resolutionReason : Durable coercion resolutionReason :=
  durable_plain (wellFormed_resolutionReason coercion) (by simp) (by simp)

@[simp] theorem durable_resolvedCapability : Durable coercion resolvedCapability :=
  durable_plain (wellFormed_resolvedCapability coercion)
    (by simp [resolutionStatus]) (by simp)

@[simp] theorem durable_admissionIssue : Durable coercion admissionIssue :=
  durable_plain (wellFormed_admissionIssue coercion) (by simp) (by simp)

@[simp] theorem durable_resolvedAgentInventory : Durable coercion resolvedAgentInventory :=
  durable_plain (wellFormed_resolvedAgentInventory coercion) (by simp) (by simp)

@[simp] theorem durable_executionTrustRef : Durable coercion executionTrustRef :=
  durable_plain (wellFormed_executionTrustRef coercion) (by simp) (by simp)

theorem restores_runSpec : Restores coercion runSpec := by
  refine restores_model ["stop_conditions"] (wellFormed_runSpec coercion)
    (by simp) ?_
  intro dump checked name guard
  simp only [validateCheckpointPair, raiseIf_bind_ok] at checked
  obtain ⟨_, _, _, given, _⟩ := checked
  rw [List.mem_singleton.mp guard]
  exact items_of_hasItems (by simpa using given)

theorem restores_admissionRecord : Restores coercion admissionRecord :=
  restores_model [] (wellFormed_admissionRecord coercion)
    (by simp [resolutionStatus])
    (by simp)

theorem restores_runRecord : Restores coercion runRecord :=
  restores_model [] (wellFormed_runRecord coercion)
    (by simp [runId])
    (by simp)

@[simp] theorem durable_subjectWorkspace : Durable coercion subjectWorkspace :=
  durable_plain (wellFormed_subjectWorkspace coercion) (by simp) (by simp)

@[simp] theorem durable_subjectEvaluationDimension : Durable coercion subjectEvaluationDimension :=
  durable_plain (wellFormed_subjectEvaluationDimension coercion)
    (by simp [dimensionValueType]) (by simp)

@[simp] theorem durable_subjectEvaluationGuidance : Durable coercion subjectEvaluationGuidance := by
  refine durable_guarded ["dimensions"] (wellFormed_subjectEvaluationGuidance coercion)
    (by simp) (by simp) ?_
  intro dump checked name guard
  rw [validatePlan, raiseIf_bind_ok, raiseIf_ok] at checked
  rw [List.mem_singleton.mp guard]
  exact items_of_hasItems (by simpa using checked.2)

theorem lookup_of_isSet {dumped : List (String × Json)} {name : String}
    (given : isSet (.obj dumped) name = true) : ∃ value, dumped.lookup name = some value := by
  cases held : dumped.lookup name with
  | none => simp [isSet, Json.field, Json.get?, held] at given
  | some value => exact ⟨value, rfl⟩

/-- Its validator asks that some part of a boundary is set. -/
@[simp] theorem durable_evaluationBoundary : Durable coercion evaluationBoundary := by
  refine ⟨restores_model [] (wellFormed_evaluationBoundary coercion) (by simp) (by simp), ?_⟩
  intro given dump read
  have formed := wellFormed_evaluationBoundary coercion
  rw [evaluationBoundary, WellFormed] at formed
  obtain ⟨values, dumped, rfl, rfl, valid, checked⟩ := validate_model read
  have filled : ∀ name schema, optional name schema ∈
      [optional "checkpoint_id" nonEmptyStr, optional "event_hash" digest,
        optional "up_to_event_sequence" (integerFrom 1)] → Filled coercion schema →
      isSet (.obj dumped) name = true → isEmpty (dropEmpty (.obj dumped)) = false := by
    intro name schema member inner given
    obtain ⟨value, held⟩ := lookup_of_isSet given
    obtain ⟨present, source, sourceValid⟩ :=
      validateFields_source formed.1 formed.2 valid member held
    exact isEmpty_dropEmpty_of_lookup held
      (keep_of_not_isEmpty present (inner source value sourceValid))
  simp only [validateBoundary, raiseIf_bind_ok] at checked
  have some := checked.2.1
  simp only [Bool.and_eq_false_iff, Bool.not_eq_false', Bool.or_eq_true] at some
  rcases some with (sequence | hash) | checkpoint
  · exact filled _ (integerFrom 1) (by simp) (filled_scalar _) sequence
  · exact filled _ digest (by simp) (filled_scalar _) hash
  · exact filled _ nonEmptyStr (by simp) (filled_scalar _) checkpoint

@[simp] theorem durable_dimensionValue : Durable coercion dimensionValue :=
  durable_plain (wellFormed_dimensionValue coercion)
    (by simp [fraction]) (by simp)

@[simp] theorem durable_humanEvaluationRelation : Durable coercion humanEvaluationRelation :=
  durable_kinds (wellFormed_humanEvaluationRelation coercion)
    (by simp [adjudicatesEvaluationRelation, independentHumanReviewRelation])

@[simp] theorem durable_humanAttestationRecord : Durable coercion humanAttestationRecord :=
  durable_plain (wellFormed_humanAttestationRecord coercion) (by simp) (by simp)

@[simp] theorem durable_checkpointValidation : Durable coercion checkpointValidation :=
  durable_plain (wellFormed_checkpointValidation coercion) (by simp) (by simp)

/-! ## Stored texts -/

/-- `model_validate_json` of a stored text. -/
def modelValidateJson {schema : Schema} (formed : WellFormed coercion schema) (text : String) :
    Except String (Instance coercion schema) :=
  match loads text with
  | some document => Instance.modelValidate formed document
  | none => .error "Invalid JSON"

/-- The stored text of a contract is read as the same contract, with the same digest. -/
def Decodes (platform : Platform) {schema : Schema} (formed : WellFormed platform.coercion schema)
    (contract : Instance platform.coercion schema) : Prop :=
  ∃ read, modelValidateJson formed (canonicalJson contract.semanticDocument) = .ok read ∧
    read = contract ∧ digestOf platform read = digestOf platform contract

theorem decodes_iff (platform : Platform) (formed : WellFormed platform.coercion schema)
    (contract : Instance platform.coercion schema) :
    Decodes platform formed contract ↔
      validate platform.coercion schema (dropEmpty contract.dump) = .ok contract.dump := by
  have ordered : contract.semanticDocument.ordered = true :=
    dropEmpty_ordered _ (validate_ordered formed contract.valid)
  have text : modelValidateJson formed (canonicalJson contract.semanticDocument) =
      Instance.modelValidate formed contract.semanticDocument := by
    rw [modelValidateJson, loads_canonicalJson _ ordered]
  rw [Decodes, text, ← Instance.semanticDocument, ← Instance.modelValidate_ok formed]
  constructor
  · rintro ⟨read, parsed, rfl, _⟩
    exact parsed
  · intro parsed
    exact ⟨contract, parsed, rfl, rfl⟩

theorem decodes_of_restores (platform : Platform) (formed : WellFormed platform.coercion schema)
    (restores : Restores platform.coercion schema) (contract : Instance platform.coercion schema) :
    Decodes platform formed contract :=
  (decodes_iff platform formed contract).mpr
    (validate_dropEmpty formed contract.valid (restores _ _ contract.valid))

/-- A record with required lists that may be empty decodes exactly when none of them is. -/
theorem decodes_iff_filled (platform : Platform) (guarded : List String)
    (formed : WellFormed platform.coercion schema) (contract : Instance platform.coercion schema)
    (shape : schema = .model fields check)
    (restores : RestoresFields platform.coercion guarded fields)
    (lists : ∀ name ∈ guarded, ∃ item, (name, .required, .list 0 item) ∈ fields) :
    Decodes platform formed contract ↔ ∀ name ∈ guarded, hasItems contract.dump name = true := by
  subst shape
  rw [decodes_iff]
  have given : ∀ name, hasItems contract.dump name = true ↔ contract.dump.items name ≠ [] := by
    simp [hasItems]
  constructor
  · intro read name guard
    rw [given]
    intro empty
    obtain ⟨item, member⟩ := lists name guard
    exact not_validate_dropEmpty formed contract.valid member empty _ read
  · intro filled
    exact validate_dropEmpty formed contract.valid
      (retained_of_guarded formed restores contract.valid fun name guard =>
        (given name).mp (filled name guard))

theorem subjectEnvelope_decodes_iff (platform : Platform) (envelope : SubjectEnvelope platform) :
    Decodes platform (wellFormed_subjectEnvelope platform.coercion) envelope ↔
      hasItems envelope.dump "inputs" = true ∧ hasItems envelope.dump "stop_conditions" = true := by
  have iff := decodes_iff_filled platform ["inputs", "stop_conditions"]
    (wellFormed_subjectEnvelope platform.coercion) envelope rfl
    (by simp)
    (by simp [required, optional, defaulted])
  simpa using iff

theorem evaluationRecord_decodes_iff (platform : Platform) (record : EvaluationRecord platform) :
    Decodes platform (wellFormed_evaluationRecord platform.coercion platform) record ↔
      hasItems record.dump "dimension_values" = true := by
  have iff := decodes_iff_filled platform ["dimension_values"]
    (wellFormed_evaluationRecord platform.coercion platform) record rfl
    (by simp)
    (by simp [required, optional, defaulted])
  simpa using iff

theorem checkpointRecord_decodes_iff (platform : Platform) (record : CheckpointRecord platform) :
    Decodes platform (wellFormed_checkpointRecord platform.coercion) record ↔
      hasItems record.dump "validations" = true := by
  have iff := decodes_iff_filled platform ["validations"]
    (wellFormed_checkpointRecord platform.coercion) record rfl
    (by simp)
    (by simp [required, optional, defaulted])
  simpa using iff

end Evidrun.Contracts
