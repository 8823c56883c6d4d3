import Evidrun.Contracts.RunSpecFields
import Evidrun.Contracts.StudyDigest

/-!
# The envelope of the Subject

`SubjectEnvelopeCompiler.compile` copies parts of a RunSpec and its admission into
the envelope that the Subject receives. Every part of a RunSpec is valid by
itself, so that the envelope can always be built; what it holds depends on the
parts the Subject may see and on nothing else.
-/

namespace Evidrun.Contracts

open JsonText DocumentSchema

set_option autoImplicit false

abbrev InputBinding (platform : Platform) : Type := Instance platform.coercion inputBinding

namespace SubjectEnvelopeCompiler

variable {platform : Platform}

/-! ## Compiling -/

def declaredVisibleInputs (spec : Json) : List Json :=
  (inputBindings spec).filter fun item =>
    item.field "visibility" ∈ [Json.str "subject", .str "subject_and_evaluator"]

/-- The entry of `{item.id: item for item in items}`; the ids are distinct. -/
def byId (items : List Json) (id : Json) : Except Raised Json :=
  match items.find? fun item => item.field "id" == id with
  | some item => .ok item
  | none => .error (.keyError id.asString)

/-- What a materialized input has to share with the declared one. -/
def authorityMetadata (binding : Json) : List Json :=
  ["role", "visibility", "mount_access", "mount_name"].map binding.field ++
    ["media_type", "classification"].map (binding.field "source").field

def sameIds (left right : List Json) : Bool :=
  left.all (fun item => item.field "id" ∈ right.map fun other => other.field "id") &&
    right.all fun item => item.field "id" ∈ left.map fun other => other.field "id"

def checkInputs (declared visible : List Json) : Except Raised Unit := do
  raiseWhen (!sameIds visible declared)
    (.valueError "materialized Subject inputs must match visible scenario inputs")
  visible.forM fun materialized => do
    let item ← byId declared (materialized.field "id")
    raiseWhen (authorityMetadata materialized != authorityMetadata item)
      (.valueError "materialized Subject input changed its declared authority metadata")

def effectiveCapabilities (admission : Json) : List Json :=
  ((admission.field "resolved_inventory").items "capabilities").filter fun item =>
    item.field "status" == .str "resolved"

/-- The arguments of `SubjectWorkspace`. -/
def workspaceDocument (workspace : Json) : Json :=
  .obj [("external_effect_mode", (workspace.field "external_effect_policy").field "mode"),
    ("mounts", .arr (column workspace "mounts" "name")),
    ("network_mode", (workspace.field "network_policy").field "mode"),
    ("runtime_kind", workspace.field "runtime_kind"),
    ("write_zones", .arr (workspace.items "write_zones"))]

def subjectDisclosure (spec : Json) : Json :=
  ((spec.field "evaluation_plan").field "disclosure").field "subject"

/-- The arguments of `SubjectEvaluationDimension`: scale and anchors only if they are disclosed. -/
def publicDimension (disclosure dimension : Json) : Json :=
  let scale := fun name =>
    if disclosure.field "include_scale" = .bool true then dimension.field name else .null
  .obj [("anchors", .arr <|
      if disclosure.field "include_anchors" = .bool true then dimension.items "anchors" else []),
    ("description", dimension.field "description"), ("id", dimension.field "id"),
    ("maximum", scale "maximum"), ("minimum", scale "minimum"),
    ("value_type", dimension.field "value_type")]

def publicDimensions (spec : Json) : Except Raised (List Json) :=
  let disclosure := subjectDisclosure spec
  (disclosure.items "dimension_ids").mapM fun id => do
    .ok (publicDimension disclosure
      (← byId ((spec.field "evaluation_plan").items "dimensions") id))

/-- The arguments of `SubjectEvaluationGuidance`, or `None`. -/
def evaluationGuidance (spec : Json) : Except Raised Json :=
  if (subjectDisclosure spec).field "mode" = .str "pre_run" then do
    .ok (.obj [("dimensions", .arr (← publicDimensions spec)),
      ("plan_ref", spec.field "evaluation_plan_ref")])
  else .ok .null

/-- The inputs that the envelope lists. -/
def visibleInputs (spec : RunSpec platform)
    (materialized : Option (List (InputBinding platform))) : List Json :=
  match materialized with
  | some inputs => inputs.map fun input => input.dump
  | none => declaredVisibleInputs spec.dump

def compile (spec : RunSpec platform) (admission : AdmissionRecord platform)
    (materializedInputs : Option (List (InputBinding platform))) :
    Except Raised (SubjectEnvelope platform) := do
  raiseWhen (admission.dump.field "run_spec_digest" != .str (digestOf platform spec))
    (.valueError "admission does not belong to the RunSpec")
  raiseWhen (admission.dump.field "decision" != .str "admitted")
    (.valueError "subject envelope cannot be created for rejected admission")
  let declared := declaredVisibleInputs spec.dump
  raiseWhen (isSet spec.dump "context_policy" && materializedInputs.isNone)
    (.valueError "context-limited RunSpec requires materialized Subject inputs")
  let visible := visibleInputs spec materializedInputs
  checkInputs declared visible
  let guidance ← evaluationGuidance spec.dump
  built <| SubjectEnvelope.modelValidate platform <|
    .obj [("budgets", spec.dump.field "budgets"),
      ("effective_capabilities", .arr (effectiveCapabilities admission.dump)),
      ("evaluation_guidance", guidance),
      ("goal", spec.dump.field "goal"),
      ("inputs", .arr visible),
      ("interaction_protocol", spec.dump.field "interaction_protocol"),
      ("run_spec_digest", .str (digestOf platform spec)),
      ("stop_conditions", spec.dump.field "stop_conditions"),
      ("workspace", workspaceDocument (spec.dump.field "workspace"))]

/-! ## Every part is valid by itself -/

section

variable {coercion : Coercion}

theorem reads_as {schema : Schema} {value result : Json} (given : value ≠ .null)
    (read : validate coercion schema value = .ok result) (presence : Presence) :
    readPresence (validate coercion schema) presence (some value) = .ok (some result) := by
  rw [readPresence_of_ne_null given, read]
  rfl

/-- What an optional field holds. -/
def held (value : Json) : Option Json := if value = .null then none else some value

theorem reads_held {schema : Schema} {value : Json}
    (stable : value ≠ .null → validate coercion schema value = .ok value) :
    readPresence (validate coercion schema) .optional (some value) = .ok (held value) := by
  by_cases unset : value = .null
  · rw [unset]
    rfl
  · rw [held, if_neg unset]
    exact reads_value unset (stable unset) _

/-- A dimension as the envelope holds it. -/
def dimensionDump (disclosure dimension : Json) : Json :=
  let scale := fun name =>
    if disclosure.field "include_scale" = .bool true then dimension.field name else .null
  .obj (present [("anchors", some (.arr <|
      if disclosure.field "include_anchors" = .bool true then dimension.items "anchors" else [])),
    ("description", some (dimension.field "description")), ("id", some (dimension.field "id")),
    ("maximum", held (scale "maximum")), ("minimum", held (scale "minimum")),
    ("value_type", some (dimension.field "value_type"))])

theorem validate_publicDimension {dimension : Json}
    (stable : validate coercion evaluationDimension dimension = .ok dimension) (disclosure : Json) :
    validate coercion subjectEvaluationDimension (publicDimension disclosure dimension) =
      .ok (dimensionDump disclosure dimension) := by
  have formed := wellFormed_evaluationDimension coercion
  have anchors : ∀ value ∈ (if disclosure.field "include_anchors" = .bool true then
      dimension.items "anchors" else []), validate coercion keyValue value = .ok value := by
    split_ifs
    · exact items_source formed stable (show tuple "anchors" keyValue ∈ _ by simp)
    · simp
  have scale : ∀ name, optional name number ∈ [optional "maximum" number, optional "minimum" number] →
      readPresence (validate coercion number) .optional (some
          (if disclosure.field "include_scale" = .bool true then dimension.field name else .null)) =
        .ok (held
          (if disclosure.field "include_scale" = .bool true then dimension.field name else .null)) := by
    intro name member
    refine reads_held fun given => ?_
    split_ifs at given ⊢
    · refine ((field_source formed stable (show optional name number ∈ _ from ?_)).resolve_left
        fun unset => given unset.1).2.2
      simp only [List.mem_cons, List.not_mem_nil, or_false] at member ⊢
      rcases member with same | same <;> simp [same]
    · exact absurd rfl given
  refine validate_reads
    [("anchors", some (.arr _), some (.arr _)), ("description", some _, some _),
      ("id", some _, some _), ("maximum", some _, _), ("minimum", some _, _),
      ("value_type", some _, some _)] (by decide) ?_ rfl
  exact .cons ⟨rfl, reads_items anchors _⟩ <|
    .cons ⟨rfl, kept_field formed stable (show required "description" nonEmptyStr ∈ _ by simp)
      (by simp)⟩ <|
    .cons ⟨rfl, kept_field formed stable (show required "id" nonEmptyStr ∈ _ by simp) (by simp)⟩ <|
    .cons ⟨rfl, scale "maximum" (by simp)⟩ <| .cons ⟨rfl, scale "minimum" (by simp)⟩ <|
    .cons ⟨rfl, kept_field formed stable (show required "value_type" dimensionValueType ∈ _ by simp)
      (by simp)⟩ .nil

end

section Spec

variable (spec : RunSpec platform)

theorem validate_workspaceDocument :
    validate platform.coercion subjectWorkspace (workspaceDocument (spec.dump.field "workspace")) =
      .ok (workspaceDocument (spec.dump.field "workspace")) := by
  have formed := wellFormed_workspaceTemplateSpec platform.coercion
  have stable := RunSpec.workspace_stable spec
  have effects := field_stable formed stable
    (show required "external_effect_policy" externalEffectPolicy ∈ _ by simp) (by simp)
  have network := field_stable formed stable
    (show required "network_policy" networkPolicy ∈ _ by simp) (by simp)
  have mounts : ∀ name ∈ column (spec.dump.field "workspace") "mounts" "name",
      validate platform.coercion nonEmptyStr name = .ok name := by
    intro name member
    obtain ⟨mount, inside, rfl⟩ := List.mem_map.mp member
    exact field_stable (wellFormed_workspaceMount platform.coercion)
      (items_source formed stable (show tuple "mounts" workspaceMount ∈ _ by simp) mount inside)
      (show required "name" nonEmptyStr ∈ _ by simp) (by simp)
  refine validate_reads
    [("external_effect_mode", some _, some _), ("mounts", some (.arr _), some (.arr _)),
      ("network_mode", some _, some _), ("runtime_kind", some _, some _),
      ("write_zones", some (.arr _), some (.arr _))] (by decide) ?_ rfl
  exact .cons ⟨rfl, kept_field (wellFormed_externalEffectPolicy platform.coercion) effects
      (show required "mode" externalEffectMode ∈ _ by simp) (by simp)⟩ <|
    .cons ⟨rfl, reads_items mounts _⟩ <|
    .cons ⟨rfl, kept_field (wellFormed_networkPolicy platform.coercion) network
      (show required "mode" networkMode ∈ _ by simp) (by simp)⟩ <|
    .cons ⟨rfl, kept_field formed stable (show required "runtime_kind" nonEmptyStr ∈ _ by simp)
      (by simp)⟩ <|
    .cons ⟨rfl, reads_items (items_source formed stable
      (show tuple "write_zones" nonEmptyStr ∈ _ by simp)) _⟩ .nil

theorem disclosure_stable :
    validate platform.coercion subjectEvaluationDisclosure (subjectDisclosure spec.dump) =
      .ok (subjectDisclosure spec.dump) :=
  field_stable (wellFormed_evaluationDisclosure platform.coercion)
    (field_stable (wellFormed_evaluationPlanSpec platform.coercion) (RunSpec.plan_stable spec)
      (show defaulted "disclosure"
        (.obj [("hidden_input_refs", .arr []), ("subject", noSubjectDisclosure)])
        evaluationDisclosure ∈ _ by simp) (by simp))
    (show defaulted "subject" noSubjectDisclosure subjectEvaluationDisclosure ∈ _ by simp) (by simp)

/-- A disclosed dimension is one of the plan. -/
theorem byId_disclosed {id : Json}
    (member : id ∈ (subjectDisclosure spec.dump).items "dimension_ids") :
    ∃ dimension ∈ (spec.dump.field "evaluation_plan").items "dimensions",
      dimension.field "id" = id ∧
        byId ((spec.dump.field "evaluation_plan").items "dimensions") id = .ok dimension := by
  obtain ⟨_, dumped, _, shape, _, checked⟩ := validate_model (RunSpec.plan_stable spec)
  rw [← shape] at checked
  simp only [validateEvaluationPlan, raiseIf_bind_ok] at checked
  have known := checked.2.2.2.2.1
  simp only [List.any_eq_false, decide_eq_true_eq, not_not] at known
  obtain ⟨dimension, inside, same⟩ := List.mem_map.mp (known id member)
  cases found : ((spec.dump.field "evaluation_plan").items "dimensions").find?
      fun item => item.field "id" == id with
  | none => exact absurd same (by simpa using List.find?_eq_none.mp found dimension inside)
  | some first =>
      refine ⟨first, List.mem_of_find?_eq_some found, ?_, by rw [byId, found]⟩
      simpa using List.find?_some found

theorem dimension_stable {dimension : Json}
    (member : dimension ∈ (spec.dump.field "evaluation_plan").items "dimensions") :
    validate platform.coercion evaluationDimension dimension = .ok dimension :=
  items_source (wellFormed_evaluationPlanSpec platform.coercion) (RunSpec.plan_stable spec)
    (show required "dimensions" (.list 0 evaluationDimension) ∈ _ by simp) dimension member

/-- The disclosed dimensions are found. -/
theorem publicDimensions_ok :
    ∃ dimensions, List.Forall₂ (fun id dimension =>
        dimension ∈ (spec.dump.field "evaluation_plan").items "dimensions" ∧
          dimension.field "id" = id)
        ((subjectDisclosure spec.dump).items "dimension_ids") dimensions ∧
      publicDimensions spec.dump =
        .ok (dimensions.map (publicDimension (subjectDisclosure spec.dump))) := by
  obtain ⟨dimensions, aligned⟩ := Aligned.exists_aligned fun id member => byId_disclosed spec member
  refine ⟨dimensions, aligned.imp fun _ _ found => ⟨found.1, found.2.1⟩, ?_⟩
  rw [publicDimensions, mapM_except_ok, List.forall₂_map_right_iff]
  refine aligned.imp fun id dimension found => ?_
  rw [found.2.2]
  rfl

/-- The guidance as the envelope holds it. -/
def guidanceDump (spec : Json) (dimensions : List Json) : Json :=
  .obj [("dimensions", .arr (dimensions.map (dimensionDump (subjectDisclosure spec)))),
    ("mode", .str "pre_run"), ("plan_ref", spec.field "evaluation_plan_ref")]

theorem planRef_kind : refOfType (spec.dump.field "evaluation_plan_ref") "evaluation_plan" = true := by
  obtain ⟨_, dumped, _, shape, _, checked⟩ := validate_model spec.valid
  rw [← shape] at checked
  simp only [validateCheckpointPair, raiseIf_bind_ok] at checked
  have slots := checked.2.2.2.2.1
  simp only [List.any_cons, List.any_nil, Bool.or_eq_false_iff, Bool.not_eq_false'] at slots
  exact slots.2.2.2.2.2.2.1

theorem disclosed_of_pre_run
    (mode : (subjectDisclosure spec.dump).field "mode" = .str "pre_run") :
    (subjectDisclosure spec.dump).items "dimension_ids" ≠ [] := by
  obtain ⟨_, dumped, _, shape, _, checked⟩ := validate_model (disclosure_stable spec)
  rw [← shape] at checked
  simp only [validateDisclosure, raiseIf_bind_ok, mode] at checked
  simpa [hasItems] using checked.2

theorem validate_guidance {dimensions : List Json}
    (found : ∀ dimension ∈ dimensions,
      dimension ∈ (spec.dump.field "evaluation_plan").items "dimensions")
    (given : dimensions ≠ []) :
    validate platform.coercion subjectEvaluationGuidance
        (.obj [("dimensions", .arr (dimensions.map (publicDimension (subjectDisclosure spec.dump)))),
          ("plan_ref", spec.dump.field "evaluation_plan_ref")]) =
      .ok (guidanceDump spec.dump dimensions) := by
  have listed : validate platform.coercion (.list 0 subjectEvaluationDimension)
      (.arr (dimensions.map (publicDimension (subjectDisclosure spec.dump)))) =
        .ok (.arr (dimensions.map (dimensionDump (subjectDisclosure spec.dump)))) := by
    refine validate_items (Nat.zero_le _) ?_
    rw [List.forall₂_map_left_iff, List.forall₂_map_right_iff, List.forall₂_same]
    exact fun dimension member =>
      validate_publicDimension (dimension_stable spec (found dimension member)) _
  refine validate_reads
    [("dimensions", some (.arr _), some (.arr _)), ("mode", none, some (.str "pre_run")),
      ("plan_ref", some _, some _)] (by decide) ?_ ?_
  · exact .cons ⟨rfl, reads_as (by simp) listed _⟩ <|
      .cons ⟨rfl, rfl⟩ <|
      .cons ⟨rfl, kept_field (wellFormed_runSpec platform.coercion) spec.valid
        (show required "evaluation_plan_ref" contractRef ∈ _ by simp) (by simp)⟩ .nil
  · have shown : hasItems (guidanceDump spec.dump dimensions) "dimensions" = true := by
      show (!(dimensions.map _).isEmpty) = true
      simpa using given
    have kind : refOfType ((guidanceDump spec.dump dimensions).field "plan_ref") "evaluation_plan" =
        true := planRef_kind spec
    show validatePlan (guidanceDump spec.dump dimensions) = .ok ()
    simp only [validatePlan, raiseIf_bind_ok, raiseIf_ok, kind, shown, Bool.not_true, and_self]

variable {spec} in
/-- The guidance that the envelope of a RunSpec holds. -/
inductive Guidance (spec : RunSpec platform) : Option Json → Prop
  | none (silent : (subjectDisclosure spec.dump).field "mode" ≠ .str "pre_run") : Guidance spec none
  | shown (dimensions : List Json)
      (aligned : List.Forall₂ (fun id dimension =>
          dimension ∈ (spec.dump.field "evaluation_plan").items "dimensions" ∧
            dimension.field "id" = id)
          ((subjectDisclosure spec.dump).items "dimension_ids") dimensions)
      (mode : (subjectDisclosure spec.dump).field "mode" = .str "pre_run") :
      Guidance spec (some (guidanceDump spec.dump dimensions))

/-- The guidance is absent, or lists the disclosed dimensions of the plan. -/
theorem evaluationGuidance_ok :
    ∃ document guidance, evaluationGuidance spec.dump = .ok document ∧
      readPresence (validate platform.coercion subjectEvaluationGuidance) .optional
        (some document) = .ok guidance ∧ Guidance spec guidance := by
  by_cases mode : (subjectDisclosure spec.dump).field "mode" = .str "pre_run"
  · obtain ⟨dimensions, aligned, found⟩ := publicDimensions_ok spec
    have listed : ∀ dimension ∈ dimensions,
        dimension ∈ (spec.dump.field "evaluation_plan").items "dimensions" := by
      intro dimension member
      obtain ⟨_, _, inside, _⟩ := Aligned.exists_left aligned member
      exact inside
    have given : dimensions ≠ [] := by
      rintro rfl
      exact disclosed_of_pre_run spec mode (List.forall₂_nil_right_iff.mp aligned)
    have valid := validate_guidance spec listed given
    exact ⟨_, _, by rw [evaluationGuidance, if_pos mode, found]; rfl, reads_as (by simp) valid _,
      .shown dimensions aligned mode⟩
  · exact ⟨.null, none, by rw [evaluationGuidance, if_neg mode], rfl, .none mode⟩

/-- An admission that admits this RunSpec. -/
structure AdmittedFor (admission : AdmissionRecord platform) : Prop where
  digest : admission.dump.field "run_spec_digest" = .str (digestOf platform spec)
  decision : admission.dump.field "decision" = .str "admitted"

theorem visibleInputs_stable (materialized : Option (List (InputBinding platform))) :
    ∀ value ∈ visibleInputs spec materialized,
      validate platform.coercion inputBinding value = .ok value := by
  intro value member
  cases materialized with
  | none => exact RunSpec.binding_stable spec (List.mem_filter.mp member).1
  | some inputs =>
      obtain ⟨input, _, rfl⟩ := List.mem_map.mp member
      exact input.valid

/-- The envelope as it is held. -/
def envelopeDump (admission : AdmissionRecord platform) (visible : List Json)
    (guidance : Option Json) : Json :=
  .obj (present [("budgets", some (spec.dump.field "budgets")),
    ("effective_capabilities", some (.arr (effectiveCapabilities admission.dump))),
    ("evaluation_guidance", guidance),
    ("goal", some (spec.dump.field "goal")),
    ("inputs", some (.arr visible)),
    ("interaction_protocol", some (spec.dump.field "interaction_protocol")),
    ("run_spec_digest", some (.str (digestOf platform spec))),
    ("schema_version", some (.str "1")),
    ("stop_conditions", some (spec.dump.field "stop_conditions")),
    ("workspace", some (workspaceDocument (spec.dump.field "workspace")))])

variable {spec} {admission : AdmissionRecord platform}

theorem capability_stable {capability : Json}
    (member : capability ∈ effectiveCapabilities admission.dump) :
    validate platform.coercion resolvedCapability capability = .ok capability :=
  items_source (wellFormed_resolvedAgentInventory platform.coercion)
    (field_stable (wellFormed_admissionRecord platform.coercion) admission.valid
      (show required "resolved_inventory" resolvedAgentInventory ∈ _ by simp) (by simp))
    (show tuple "capabilities" resolvedCapability ∈ _ by simp) capability
    (List.mem_filter.mp member).1

theorem validate_envelope (own : AdmittedFor spec admission) {visible : List Json}
    (bound : ∀ value ∈ visible, validate platform.coercion inputBinding value = .ok value)
    {document : Json} {guidance : Option Json}
    (guided : readPresence (validate platform.coercion subjectEvaluationGuidance) .optional
      (some document) = .ok guidance) :
    validate platform.coercion subjectEnvelope
        (.obj [("budgets", spec.dump.field "budgets"),
          ("effective_capabilities", .arr (effectiveCapabilities admission.dump)),
          ("evaluation_guidance", document),
          ("goal", spec.dump.field "goal"),
          ("inputs", .arr visible),
          ("interaction_protocol", spec.dump.field "interaction_protocol"),
          ("run_spec_digest", .str (digestOf platform spec)),
          ("stop_conditions", spec.dump.field "stop_conditions"),
          ("workspace", workspaceDocument (spec.dump.field "workspace"))]) =
      .ok (envelopeDump spec admission visible guidance) := by
  have formed := wellFormed_runSpec platform.coercion
  -- the digest of the RunSpec is valid because the admission carries it
  have digested := field_stable (wellFormed_admissionRecord platform.coercion) admission.valid
    (show required "run_spec_digest" Contracts.digest ∈ _ by simp) (by simp)
  rw [own.digest] at digested
  refine validate_reads
    [("budgets", some _, some _), ("effective_capabilities", some (.arr _), some (.arr _)),
      ("evaluation_guidance", some document, guidance), ("goal", some _, some _),
      ("inputs", some (.arr _), some (.arr _)), ("interaction_protocol", some _, some _),
      ("run_spec_digest", some _, some _), ("schema_version", none, some (.str "1")),
      ("stop_conditions", some _, some _), ("workspace", some _, some _)] (by decide) ?_ rfl
  exact .cons ⟨rfl, kept_field formed spec.valid (show required "budgets" budgetSpec ∈ _ by simp)
      (by simp)⟩ <|
    .cons ⟨rfl, reads_items (fun _ member => capability_stable member) _⟩ <|
    .cons ⟨rfl, guided⟩ <|
    .cons ⟨rfl, kept_field formed spec.valid (show required "goal" goalSpec ∈ _ by simp)
      (by simp)⟩ <|
    .cons ⟨rfl, reads_items bound _⟩ <|
    .cons ⟨rfl, kept_field formed spec.valid
      (show required "interaction_protocol" interactionProtocolSpec ∈ _ by simp) (by simp)⟩ <|
    .cons ⟨rfl, reads_value (by simp) digested _⟩ <|
    .cons ⟨rfl, rfl⟩ <|
    .cons ⟨rfl, kept_field formed spec.valid
      (show required "stop_conditions" (.list 0 stopCondition) ∈ _ by simp) (by simp)⟩ <|
    .cons ⟨rfl, reads_value (by simp [workspaceDocument]) (validate_workspaceDocument spec) _⟩ .nil

/-- For a RunSpec and its own admission only the inputs can be refused. -/
theorem compile_eq (own : AdmittedFor spec admission)
    (materialized : Option (List (InputBinding platform))) :
    ∃ envelope guidance, Guidance spec guidance ∧
      envelope.dump = envelopeDump spec admission (visibleInputs spec materialized) guidance ∧
      compile spec admission materialized = (do
        raiseWhen (isSet spec.dump "context_policy" && materialized.isNone)
          (.valueError "context-limited RunSpec requires materialized Subject inputs")
        checkInputs (declaredVisibleInputs spec.dump) (visibleInputs spec materialized)
        .ok envelope) := by
  obtain ⟨document, guidance, computed, guided, allowed⟩ := evaluationGuidance_ok spec
  have valid := validate_envelope own (visibleInputs_stable spec materialized) guided
  have formed := wellFormed_subjectEnvelope platform.coercion
  have stable := validate_stable formed _ _ valid
  refine ⟨⟨_, stable⟩, guidance, allowed, rfl, ?_⟩
  have read := (Instance.modelValidate_ok formed _ ⟨_, stable⟩).mpr valid
  have matching : (admission.dump.field "run_spec_digest" != .str (digestOf platform spec)) =
      false := by simp [own.digest]
  have admitted : (admission.dump.field "decision" != .str "admitted") = false := by
    simp [own.decision]
  rw [compile, matching, admitted, computed]
  change (do
    raiseWhen _ _
    checkInputs _ _
    built (Instance.modelValidate formed _)) = _
  rw [read]
  rfl

end Spec

/-- The declared inputs are their own materialization. -/
theorem checkInputs_declared (spec : RunSpec platform) :
    checkInputs (declaredVisibleInputs spec.dump) (declaredVisibleInputs spec.dump) = .ok () := by
  obtain ⟨_, dumped, _, shape, _, checked⟩ := validate_model (RunSpec.scenario_stable spec)
  rw [← shape] at checked
  simp only [validateBindingIds, raiseIf_bind_ok, raiseIf_ok, allDistinct, Bool.not_eq_false',
    decide_eq_true_eq] at checked
  have distinct : ((declaredVisibleInputs spec.dump).map fun item => item.field "id").Nodup :=
    checked.2.sublist (List.filter_sublist.map _)
  have same : sameIds (declaredVisibleInputs spec.dump) (declaredVisibleInputs spec.dump) = true := by
    simp only [sameIds, Bool.and_self, List.all_eq_true, decide_eq_true_eq]
    exact fun item member => List.mem_map_of_mem member
  rw [checkInputs, bind_ok]
  refine ⟨(), by simp [same], (forM_except_ok _ _).mpr fun item member => ?_⟩
  have found : byId (declaredVisibleInputs spec.dump) (item.field "id") = .ok item := by
    cases first : (declaredVisibleInputs spec.dump).find? fun other =>
        other.field "id" == item.field "id" with
    | none => simpa using List.find?_eq_none.mp first item member
    | some other =>
        rw [byId, first, List.inj_on_of_nodup_map distinct (List.mem_of_find?_eq_some first) member
          (by simpa using List.find?_some first)]
  rw [bind_ok]
  exact ⟨item, found, by simp⟩

/-- An admitted RunSpec without a context policy has an envelope. -/
theorem compile_declared {spec : RunSpec platform} {admission : AdmissionRecord platform}
    (own : AdmittedFor spec admission) (unlimited : isSet spec.dump "context_policy" = false) :
    ∃ envelope, compile spec admission none = .ok envelope := by
  obtain ⟨envelope, _, _, _, run⟩ := compile_eq own none
  refine ⟨envelope, ?_⟩
  rw [run, unlimited]
  show (checkInputs _ (declaredVisibleInputs spec.dump) >>= fun _ => _) = _
  rw [checkInputs_declared]
  rfl

/-! ## What the envelope depends on -/

/-- Two dimensions are the same for a Subject with this disclosure. -/
structure SameDimension (disclosure left right : Json) : Prop where
  description : left.field "description" = right.field "description"
  valueType : left.field "value_type" = right.field "value_type"
  scale : disclosure.field "include_scale" = .bool true →
    left.field "minimum" = right.field "minimum" ∧ left.field "maximum" = right.field "maximum"
  anchors : disclosure.field "include_anchors" = .bool true →
    left.items "anchors" = right.items "anchors"

/-- Two RunSpecs agree on what the Subject may see. -/
structure SameForSubject (left right : RunSpec platform) : Prop where
  goal : left.dump.field "goal" = right.dump.field "goal"
  interactionProtocol :
    left.dump.field "interaction_protocol" = right.dump.field "interaction_protocol"
  budgets : left.dump.field "budgets" = right.dump.field "budgets"
  stopConditions : left.dump.field "stop_conditions" = right.dump.field "stop_conditions"
  runtimeKind : (left.dump.field "workspace").field "runtime_kind" =
    (right.dump.field "workspace").field "runtime_kind"
  mountNames : column (left.dump.field "workspace") "mounts" "name" =
    column (right.dump.field "workspace") "mounts" "name"
  writeZones : (left.dump.field "workspace").items "write_zones" =
    (right.dump.field "workspace").items "write_zones"
  networkMode : ((left.dump.field "workspace").field "network_policy").field "mode" =
    ((right.dump.field "workspace").field "network_policy").field "mode"
  externalEffectMode :
    ((left.dump.field "workspace").field "external_effect_policy").field "mode" =
      ((right.dump.field "workspace").field "external_effect_policy").field "mode"
  visibleInputs : declaredVisibleInputs left.dump = declaredVisibleInputs right.dump
  disclosure : subjectDisclosure left.dump = subjectDisclosure right.dump
  /-- Of the dimensions only those that are disclosed before the Run. -/
  dimensions : (subjectDisclosure left.dump).field "mode" = .str "pre_run" →
    ∀ first ∈ (left.dump.field "evaluation_plan").items "dimensions",
      ∀ second ∈ (right.dump.field "evaluation_plan").items "dimensions",
        first.field "id" = second.field "id" →
          first.field "id" ∈ (subjectDisclosure left.dump).items "dimension_ids" →
            SameDimension (subjectDisclosure left.dump) first second

/-- Two envelopes are equal except for the digest of the RunSpec and the plan that the
guidance names. -/
structure SameEnvelope (left right : SubjectEnvelope platform) : Prop where
  fields : ∀ name, name ≠ "run_spec_digest" → name ≠ "evaluation_guidance" →
    left.dump.field name = right.dump.field name
  guidance : (left.dump.field "evaluation_guidance").erase "plan_ref" =
    (right.dump.field "evaluation_guidance").erase "plan_ref"

/-- Both calls are refused alike, or return envelopes that are the same for the Subject. -/
def SameOutcome : Except Raised (SubjectEnvelope platform) →
    Except Raised (SubjectEnvelope platform) → Prop
  | .ok left, .ok right => SameEnvelope left right
  | .error left, .error right => left = right
  | _, _ => False

theorem lookup_present_congr {name : String} {left right : List (String × Option Json)}
    (same : List.Forall₂ (fun first second =>
      first.1 = second.1 ∧ (first.1 = name → first.2 = second.2)) left right) :
    (present left).lookup name = (present right).lookup name := by
  induction same with
  | nil => rfl
  | @cons first second rest others head _ ih =>
      obtain ⟨key, value⟩ := first
      obtain ⟨other, held⟩ := second
      obtain ⟨rfl, alike⟩ := head
      rw [present_cons, present_cons]
      by_cases here : key = name
      · rw [show value = held from alike here]
        cases held with
        | none => exact ih
        | some content => simp [consField, here]
      · rw [lookup_consField_ne _ _ _ _ fun equal => here equal.symm,
          lookup_consField_ne _ _ _ _ fun equal => here equal.symm, ih]

section Independence

variable {left right : RunSpec platform}

theorem dimensionDump_congr {disclosure first second : Json}
    (same : SameDimension disclosure first second) (id : first.field "id" = second.field "id") :
    dimensionDump disclosure first = dimensionDump disclosure second := by
  have anchors : (if disclosure.field "include_anchors" = .bool true then first.items "anchors"
      else []) = if disclosure.field "include_anchors" = .bool true then second.items "anchors"
        else [] := by
    split_ifs with shown
    · exact same.anchors shown
    · rfl
  have scale : ∀ name ∈ ["maximum", "minimum"],
      (if disclosure.field "include_scale" = .bool true then first.field name else .null) =
        if disclosure.field "include_scale" = .bool true then second.field name else .null := by
    intro name member
    simp only [List.mem_cons, List.not_mem_nil, or_false] at member
    split_ifs with shown
    · rcases member with rfl | rfl
      · exact (same.scale shown).2
      · exact (same.scale shown).1
    · rfl
  simp only [dimensionDump, anchors, scale "maximum" (by simp), scale "minimum" (by simp),
    same.description, same.valueType, id]

/-- The guidances of the two RunSpecs differ in the plan they name only. -/
theorem guidance_congr (same : SameForSubject left right) {first second : Option Json}
    (ours : Guidance left first) (theirs : Guidance right second) :
    (first.getD .null).erase "plan_ref" = (second.getD .null).erase "plan_ref" := by
  cases ours with
  | none silent =>
      cases theirs with
      | none => rfl
      | shown _ _ mode => exact absurd (same.disclosure ▸ mode) silent
  | shown dimensions aligned mode =>
      cases theirs with
      | none silent => exact absurd (same.disclosure ▸ mode) silent
      | shown others alignedOther _ =>
          have listed : dimensions.map (dimensionDump (subjectDisclosure left.dump)) =
              others.map (dimensionDump (subjectDisclosure left.dump)) := by
            refine Aligned.map_congr aligned (same.disclosure ▸ alignedOther) ?_
            intro id member first second ours theirs
            have matching : first.field "id" = second.field "id" := ours.2.trans theirs.2.symm
            exact dimensionDump_congr
              (same.dimensions mode first ours.1 second theirs.1 matching (ours.2.symm ▸ member))
              matching
          have shape : ∀ spec : RunSpec platform, ∀ dimensions,
              ((some (guidanceDump spec.dump dimensions)).getD .null).erase "plan_ref" =
                .obj [("dimensions", .arr
                  (dimensions.map (dimensionDump (subjectDisclosure spec.dump)))),
                  ("mode", .str "pre_run")] := fun _ _ => rfl
          rw [shape, shape, listed, same.disclosure]

theorem sameEnvelope (same : SameForSubject left right)
    {leftAdmission rightAdmission : AdmissionRecord platform}
    (capabilities : effectiveCapabilities leftAdmission.dump =
      effectiveCapabilities rightAdmission.dump)
    {visible : List Json} {first second : Option Json} (ours : Guidance left first)
    (theirs : Guidance right second) {envelope other : SubjectEnvelope platform}
    (dump : envelope.dump = envelopeDump left leftAdmission visible first)
    (dumpOther : other.dump = envelopeDump right rightAdmission visible second) :
    SameEnvelope envelope other := by
  constructor
  · intro name notDigest notGuidance
    have workspace : workspaceDocument (left.dump.field "workspace") =
        workspaceDocument (right.dump.field "workspace") := by
      simp only [workspaceDocument, same.externalEffectMode, same.mountNames, same.networkMode,
        same.runtimeKind, same.writeZones]
    rw [dump, dumpOther]
    show ((present _).lookup name).getD .null = ((present _).lookup name).getD .null
    rw [lookup_present_congr]
    exact .cons ⟨rfl, fun _ => congrArg some same.budgets⟩ <|
      .cons ⟨rfl, fun _ => by rw [capabilities]⟩ <|
      .cons ⟨rfl, fun here => absurd here.symm notGuidance⟩ <|
      .cons ⟨rfl, fun _ => congrArg some same.goal⟩ <| .cons ⟨rfl, fun _ => rfl⟩ <|
      .cons ⟨rfl, fun _ => congrArg some same.interactionProtocol⟩ <|
      .cons ⟨rfl, fun here => absurd here.symm notDigest⟩ <| .cons ⟨rfl, fun _ => rfl⟩ <|
      .cons ⟨rfl, fun _ => congrArg some same.stopConditions⟩ <|
      .cons ⟨rfl, fun _ => congrArg some workspace⟩ .nil
  · have held : ∀ (spec : RunSpec platform) (admission : AdmissionRecord platform) guidance,
        (envelopeDump spec admission visible guidance).field "evaluation_guidance" =
          guidance.getD .null := by
      intro spec admission guidance
      cases guidance <;> rfl
    rw [dump, dumpOther, held, held]
    exact guidance_congr same ours theirs

/-- The envelope of the Subject depends only on what the Subject may see. The context policy
counts only if the inputs were not materialized. -/
theorem subject_envelope_independent {leftAdmission rightAdmission : AdmissionRecord platform}
    (leftOwn : AdmittedFor left leftAdmission) (rightOwn : AdmittedFor right rightAdmission)
    (capabilities : effectiveCapabilities leftAdmission.dump =
      effectiveCapabilities rightAdmission.dump)
    (same : SameForSubject left right) (materialized : Option (List (InputBinding platform))) :
    ((materialized = none →
        isSet left.dump "context_policy" = isSet right.dump "context_policy") →
      SameOutcome (compile left leftAdmission materialized)
        (compile right rightAdmission materialized)) ∧
    ∀ envelope other, compile left leftAdmission materialized = .ok envelope →
      compile right rightAdmission materialized = .ok other → SameEnvelope envelope other := by
  obtain ⟨envelope, first, ours, dump, run⟩ := compile_eq leftOwn materialized
  obtain ⟨other, second, theirs, dumpOther, runOther⟩ := compile_eq rightOwn materialized
  have visible : visibleInputs left materialized = visibleInputs right materialized := by
    cases materialized with
    | none => exact same.visibleInputs
    | some inputs => rfl
  rw [visible] at dump run
  have alike := sameEnvelope same capabilities ours theirs dump dumpOther
  constructor
  · intro limits
    have limited : (isSet left.dump "context_policy" && materialized.isNone) =
        (isSet right.dump "context_policy" && materialized.isNone) := by
      cases materialized with
      | none => rw [limits rfl]
      | some inputs => simp
    rw [run, runOther, same.visibleInputs, limited]
    cases raiseWhen (isSet right.dump "context_policy" && materialized.isNone)
        (.valueError "context-limited RunSpec requires materialized Subject inputs") with
    | error exception => exact rfl
    | ok _ =>
        cases checkInputs (declaredVisibleInputs right.dump) (visibleInputs right materialized) with
        | error exception => exact rfl
        | ok _ => exact alike
  · intro compiled compiledOther done doneOther
    rw [run] at done
    rw [runOther] at doneOther
    simp only [bind_ok, Except.ok.injEq] at done doneOther
    obtain ⟨_, _, _, _, rfl⟩ := done
    obtain ⟨_, _, _, _, rfl⟩ := doneOther
    exact alike

end Independence

end SubjectEnvelopeCompiler

namespace Sample

def passedDimension : Json :=
  .obj [("anchors", .arr [.obj [("key", .str "high"), ("value", .str "right")]]),
    ("description", .str "passed"), ("id", .str "passed"), ("value_type", .str "boolean")]

/-- A plan that discloses one dimension and keeps the expected answer to the evaluator. -/
def disclosingPlan (expected : String) (secret : List Json) : Json :=
  .obj [("blinding_policy", .obj [("hidden_fields", .arr [])]),
    ("dimensions", .arr (passedDimension :: secret)),
    ("disclosure", .obj [("hidden_input_refs", .arr []),
      ("subject", .obj [("dimension_ids", .arr [.str "passed"]), ("include_anchors", .bool false),
        ("include_scale", .bool true), ("mode", .str "pre_run")])]),
    ("human_adjudication_policy", .obj [("adjudicable_stage_ids", .arr []),
      ("required", .bool false)]),
    ("limitations", .arr []),
    ("stages", .arr [.obj [("evaluator_ref", capability), ("hard_gate", .bool false),
      ("id", .str "grade"), ("kind", .str "deterministic_grader"),
      ("output_dimensions", .arr [.str "passed"]),
      ("parameters", .arr [.obj [("key", .str "expected"), ("value", .str expected)]]),
      ("trigger", .obj [("kind", .str "event"), ("reference", .str "subject.responded")])]])]

def disclosingSpec (plan : Json) : Json :=
  .obj [("agent_inventory", agent.payload), ("agent_inventory_ref", contract .agentInventory "one"),
    ("budgets", .obj [("max_wall_seconds", .int 60)]),
    ("capture_policy", .obj [("default_mode", .str "metadata"), ("raw_sensitive", .str "disabled"),
      ("sensitive_ttl_days", .int 30)]),
    ("evaluation_plan", plan), ("evaluation_plan_ref", contract .evaluationPlan "one"),
    ("extensions", .arr []), ("goal", goal.payload), ("goal_ref", contract .goal "one"),
    ("interaction_protocol", interaction.payload),
    ("interaction_protocol_ref", contract .interactionProtocol "one"), ("limitations", .arr []),
    ("repetition_index", .int 1), ("scenario", scenarioPayload),
    ("scenario_ref", contract .scenario "one"), ("schema_version", .str "1"),
    ("stop_conditions", .arr [.obj [("action", .str "terminal"), ("kind", .str "goal_complete")]]),
    ("study_ref", contract .study "one"), ("variant_id", .str "default"),
    ("workspace", workspace.payload), ("workspace_template_ref", contract .workspaceTemplate "one")]

def plainSpec : RunSpec platform :=
  ⟨disclosingSpec (disclosingPlan "42" []), by decide +kernel⟩

def secretDimension : Json :=
  .obj [("anchors", .arr []), ("description", .str "secret"), ("id", .str "secret"),
    ("value_type", .str "boolean")]

/-- Another expected answer, and a dimension that is not disclosed. -/
def secretSpec : RunSpec platform :=
  ⟨disclosingSpec (disclosingPlan "43" [secretDimension]), by decide +kernel⟩

def admission : AdmissionRecord platform :=
  ⟨.obj [("created_at_utc", .str "2026-01-01T00:00:00Z"), ("decision", .str "admitted"),
    ("denied_policies", .arr []), ("interaction_status", .str "resolved"), ("issues", .arr []),
    ("missing_requirements", .arr []),
    ("resolved_inventory", .obj [("capabilities", .arr []),
      ("requirement_ref", contract .agentInventory "one"), ("runner_ref", capability),
      ("runtime_capabilities", .arr [])]),
    ("run_spec_digest", .str digestText), ("run_spec_ref", .str ("run-spec:" ++ digestText)),
    ("schema_version", .str "1"), ("warnings", .arr []), ("workspace_status", .str "resolved")],
    by decide +kernel⟩

theorem same_for_subject :
    SubjectEnvelopeCompiler.SameForSubject plainSpec secretSpec := by
  refine ⟨rfl, rfl, rfl, rfl, rfl, rfl, rfl, rfl, rfl, rfl, rfl, fun _ first member second other
    alike _ => ?_⟩
  have only : first = passedDimension := List.mem_singleton.mp member
  have shared : second = passedDimension := by
    rcases List.mem_cons.mp other with same | hidden
    · exact same
    · rw [only, List.mem_singleton.mp hidden] at alike
      exact absurd alike (by decide)
  rw [only, shared]
  exact ⟨rfl, rfl, fun _ => ⟨rfl, rfl⟩, fun _ => rfl⟩

end Sample

/-- The Subject receives an envelope for both RunSpecs and cannot tell them apart. -/
theorem secret_parameters_not_disclosed :
    Sample.plainSpec ≠ Sample.secretSpec ∧ ∃ envelope other,
      SubjectEnvelopeCompiler.compile Sample.plainSpec Sample.admission none = .ok envelope ∧
        SubjectEnvelopeCompiler.compile Sample.secretSpec Sample.admission none = .ok other ∧
          SubjectEnvelopeCompiler.SameEnvelope envelope other := by
  refine ⟨by decide +kernel, ?_⟩
  have own : SubjectEnvelopeCompiler.AdmittedFor Sample.plainSpec Sample.admission := ⟨rfl, rfl⟩
  have ownOther : SubjectEnvelopeCompiler.AdmittedFor Sample.secretSpec Sample.admission :=
    ⟨rfl, rfl⟩
  obtain ⟨envelope, compiled⟩ := SubjectEnvelopeCompiler.compile_declared own rfl
  obtain ⟨other, compiledOther⟩ := SubjectEnvelopeCompiler.compile_declared ownOther rfl
  exact ⟨envelope, other, compiled, compiledOther,
    (SubjectEnvelopeCompiler.subject_envelope_independent own ownOther rfl
      Sample.same_for_subject none).2 envelope other compiled compiledOther⟩

end Evidrun.Contracts
