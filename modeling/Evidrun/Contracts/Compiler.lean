import Evidrun.Contracts.Revisions

/-!
# The Study compiler

`StudyCompiler` turns a Study into one RunSpec for every scenario, variant and
repetition, following `evidrun.contracts.compiler`. A variant selects, for each
slot, its own override or what it inherits from the Study and its blueprint; the
references it selects are resolved and copied into the RunSpec.

The declared comparisons are checked before the matrix is built, on the first
scenario and the first repetition only.
-/

namespace Evidrun.Contracts

open JsonText DocumentSchema

set_option autoImplicit false

abbrev ContractResolver (platform : Platform) : Type := Json → Except Raised (Revision platform)

/-- A `StudyRevision`. -/
abbrev StudyRevision (platform : Platform) : Type :=
  Instance platform.coercion (revisionEnvelope .study)

def StudyRevision.revision {platform : Platform} (study : StudyRevision platform) :
    Revision platform := ⟨.study, study⟩

/-! ## Extensions -/

abbrev ExtensionKey : Type := String × String × String

/-- The validators of extension payloads, by namespace, schema version and schema digest. -/
structure ExtensionSchemaRegistry where
  validators : ExtensionKey → Option (Json → Except Raised Unit)

namespace ExtensionSchemaRegistry

def empty : ExtensionSchemaRegistry := ⟨fun _ => none⟩

def register (registry : ExtensionSchemaRegistry) (key : ExtensionKey)
    (validator : Json → Except Raised Unit) : ExtensionSchemaRegistry :=
  ⟨fun other => if other = key then some validator else registry.validators other⟩

def validate (registry : ExtensionSchemaRegistry) (extension : Json) : Except Raised Unit :=
  let space := (extension.field "namespace").asString
  let key := (space, (extension.field "schema_version").asString,
    ((extension.field "schema_ref").field "digest").asString)
  match registry.validators key with
  | none =>
      raiseWhen (extension.field "required" == .bool true)
        (.valueError ("unregistered required extension schema: " ++ space))
  | some validator => validator (extension.field "payload_ref")

end ExtensionSchemaRegistry

/-! ## Comparing RunSpecs -/

/-- The attributes of a RunSpec that make up a slot. -/
def VariantSlot.fields : VariantSlot → List String
  | .goal => ["goal_ref", "goal"]
  | .scenario => ["scenario_ref", "scenario"]
  | .agentInventory => ["agent_inventory_ref", "agent_inventory"]
  | .workspaceTemplate => ["workspace_template_ref", "workspace"]
  | .interactionProtocol => ["interaction_protocol_ref", "interaction_protocol"]
  | .evaluationPlan => ["evaluation_plan_ref", "evaluation_plan"]
  | .checkpointPolicy => ["checkpoint_policy_ref", "checkpoint_policy"]
  | .progressArtifactPolicy => ["progress_artifact_policy_ref", "progress_artifact_policy"]
  | .contextPolicy => ["context_policy"]
  | .budgets => ["budgets"]
  | .stopConditions => ["stop_conditions"]
  | .capturePolicy => ["capture_policy"]
  | .extensions => ["extensions"]

def slotValue (spec : Json) (slot : VariantSlot) : List Json := slot.fields.map spec.field

/-- `VariantDiffer.changed_slots`, in the order of the slots. -/
def changedSlots (baseline candidate : Json) : List VariantSlot :=
  VariantSlot.all.filter fun slot => slotValue baseline slot != slotValue candidate slot

/-! ## Refusals of the compile phase -/

def compileRejected (code message remediation : String) : Raised :=
  .rejected ⟨code, message, [], some remediation⟩

def compileRevisionNotStudy (found : String) : Raised :=
  compileRejected "compile.revision_not_study"
    ("A revision informada não é uma Study; o tipo encontrado foi " ++ found ++ ".")
    "Compile a revision de uma Study."

def sortedNames (slots : List VariantSlot) : List String :=
  (slots.map VariantSlot.name).insertionSort (· ≤ ·)

def compileControlledSlotsMismatch (expected : String) (observed : List VariantSlot) : Raised :=
  let rendered := if observed.isEmpty then "nenhum" else ", ".intercalate (sortedNames observed)
  compileRejected "compile.controlled_slots_mismatch"
    ("Uma comparação controlada deve alterar exatamente sua variável primária; " ++
      "esperado " ++ expected ++ ", observados " ++ rendered ++ ".")
    "Isole a variável primária ou declare a comparação como exploratória."

def compileConfounderMissing (slots : List VariantSlot) : Raised :=
  compileRejected "compile.confounder_missing"
    ("Um estudo exploratório deve declarar confounders para as diferenças " ++
      "adicionais: " ++ ", ".intercalate (sortedNames slots) ++ ".")
    "Declare um confounder para cada slot adicional alterado."

/-! ## What a variant selects -/

/-- An override, or what it overrides when it is `None`. -/
def orInherited (override inherited : Json) : Json :=
  if override = .null then inherited else override

structure Selection where
  goalRef : Json
  scenarioRef : Json
  agentRef : Json
  workspaceRef : Json
  interactionRef : Json
  evaluationRef : Json
  checkpointRef : Json
  progressRef : Json
  contextPolicy : Json
  budgets : Json
  stopConditions : Json
  capturePolicy : Json
  extensions : Json

def select (payload matrixScenarioRef variant : Json) : Selection :=
  let blueprint := payload.field "run_blueprint"
  let overrides := variant.field "overrides"
  let slot (name : String) : Json := orInherited (overrides.field name) (blueprint.field name)
  { goalRef := orInherited (overrides.field "goal_ref") (payload.field "goal_ref")
    scenarioRef := orInherited (overrides.field "scenario_ref") matrixScenarioRef
    agentRef := slot "agent_inventory_ref"
    workspaceRef := slot "workspace_template_ref"
    interactionRef := slot "interaction_protocol_ref"
    evaluationRef := slot "evaluation_plan_ref"
    checkpointRef := slot "checkpoint_policy_ref"
    progressRef := slot "progress_artifact_policy_ref"
    contextPolicy := slot "context_policy"
    budgets := slot "budgets"
    stopConditions := slot "stop_conditions"
    capturePolicy := slot "capture_policy"
    extensions := slot "extensions" }

def listOf : Json → List Json
  | .arr items => items
  | _ => []

/-! ## Materializing a cell -/

structure StudyCompiler (platform : Platform) where
  resolver : ContractResolver platform
  extensionRegistry : ExtensionSchemaRegistry

/-- One cell of the matrix of a Study. -/
structure Cell where
  scenarioRef : Json
  variant : Json
  repetition : Int
deriving DecidableEq

/-- The seed of a repetition. -/
def seedOf (payload : Json) (repetition : Int) : Json :=
  let strategy := payload.field "seed_strategy"
  if strategy.field "kind" = .str "deterministic" then .int 0
  else if strategy.field "kind" = .str "fixed" then strategy.field "seed"
  else .int (integerOf (strategy.field "seed") + repetition - 1)

/-- The revisions a selection resolves to, and the payloads of its optional policies. -/
structure Resolved (platform : Platform) where
  goal : Revision platform
  scenario : Revision platform
  agent : Revision platform
  workspace : Revision platform
  interaction : Revision platform
  evaluation : Revision platform
  checkpoint : Json
  progress : Json

def resolveTyped {platform : Platform} (resolver : ContractResolver platform) (reference : Json)
    (expected : ContractType) : Except Raised (Revision platform) := do
  let revision ← resolver reference
  raiseWhen (revision.kind != expected) (.typeError
    ((reference.field "logical_id").asString ++ " resolved as " ++ revision.kind.className ++
      ", expected " ++ expected.className))
  .ok revision

/-- The payload of an optional policy. -/
def resolvePolicy {platform : Platform} (resolver : ContractResolver platform) (reference : Json)
    (expected : ContractType) : Except Raised Json :=
  if reference = .null then .ok .null
  else (resolveTyped resolver reference expected).map Revision.payload

/-- A progress artifact may only wait for a checkpoint that the policy defines. -/
def checkProgressTriggers (progress checkpoint : Json) : Except Raised Unit :=
  raiseWhen ((progress.items "definitions").any fun definition =>
      (definition.field "trigger").field "kind" == .str "checkpoint_reached" &&
        (definition.field "trigger").field "checkpoint_definition_id" ∉
          column checkpoint "definitions" "id")
    (.valueError "progress artifact trigger references an unknown checkpoint definition")

def resolveSelection {platform : Platform} (resolver : ContractResolver platform)
    (chosen : Selection) : Except Raised (Resolved platform) := do
  let goal ← resolveTyped resolver chosen.goalRef .goal
  let scenario ← resolveTyped resolver chosen.scenarioRef .scenario
  let agent ← resolveTyped resolver chosen.agentRef .agentInventory
  let workspace ← resolveTyped resolver chosen.workspaceRef .workspaceTemplate
  let interaction ← resolveTyped resolver chosen.interactionRef .interactionProtocol
  let evaluation ← resolveTyped resolver chosen.evaluationRef .evaluationPlan
  let checkpoint ← resolvePolicy resolver chosen.checkpointRef .checkpointPolicy
  let progress ← resolvePolicy resolver chosen.progressRef .progressArtifactPolicy
  checkProgressTriggers progress checkpoint
  .ok { goal, scenario, agent, workspace, interaction, evaluation, checkpoint, progress }

/-- The document a RunSpec is built from. -/
def runSpecDocument {platform : Platform} (studyRef payload variantId : Json) (repetition : Int)
    (chosen : Selection) (resolved : Resolved platform) : Json :=
  .obj [("agent_inventory", resolved.agent.payload),
    ("agent_inventory_ref", resolved.agent.ref),
    ("budgets", chosen.budgets),
    ("capture_policy", chosen.capturePolicy),
    ("checkpoint_policy", resolved.checkpoint),
    ("checkpoint_policy_ref", chosen.checkpointRef),
    ("context_policy", chosen.contextPolicy),
    ("evaluation_plan", resolved.evaluation.payload),
    ("evaluation_plan_ref", resolved.evaluation.ref),
    ("extensions", chosen.extensions),
    ("goal", resolved.goal.payload),
    ("goal_ref", resolved.goal.ref),
    ("interaction_protocol", resolved.interaction.payload),
    ("interaction_protocol_ref", resolved.interaction.ref),
    ("limitations", .arr (payload.items "limitations" ++
      resolved.scenario.payload.items "limitations")),
    ("progress_artifact_policy", resolved.progress),
    ("progress_artifact_policy_ref", chosen.progressRef),
    ("repetition_index", .int repetition),
    ("scenario", resolved.scenario.payload),
    ("scenario_ref", resolved.scenario.ref),
    ("seed", seedOf payload repetition),
    ("stop_conditions", chosen.stopConditions),
    ("study_ref", studyRef),
    ("variant_id", variantId),
    ("workspace", resolved.workspace.payload),
    ("workspace_template_ref", resolved.workspace.ref)]

namespace StudyCompiler

variable {platform : Platform}

def materialize (compiler : StudyCompiler platform) (study : StudyRevision platform) (cell : Cell) :
    Except Raised (RunSpec platform) := do
  let payload := study.revision.payload
  let chosen := select payload cell.scenarioRef cell.variant
  let resolved ← resolveSelection compiler.resolver chosen
  (listOf chosen.extensions).forM compiler.extensionRegistry.validate
  built <| RunSpec.modelValidate platform <|
    runSpecDocument study.revision.ref payload (cell.variant.field "id") cell.repetition chosen
      resolved

/-! ## Comparisons -/

def expectedSlot (comparison : Json) : String :=
  let primary := (comparison.field "primary_variable").asString
  if startsWith "extension:".toList primary then "extensions" else primary

def variantById (payload id : Json) : Except Raised Json :=
  match (payload.items "variants").find? fun variant => variant.field "id" == id with
  | some variant => .ok variant
  | none => .error (.keyError id.asString)

def validateComparison (compiler : StudyCompiler platform) (study : StudyRevision platform)
    (scenarioRef comparison : Json) : Except Raised Unit := do
  let payload := study.revision.payload
  let baselineVariant ← variantById payload (comparison.field "baseline_variant")
  let baseline ← compiler.materialize study ⟨scenarioRef, baselineVariant, 1⟩
  let candidateVariant ← variantById payload (comparison.field "candidate_variant")
  let candidate ← compiler.materialize study ⟨scenarioRef, candidateVariant, 1⟩
  let changed := changedSlots baseline.dump candidate.dump
  let expected := expectedSlot comparison
  raiseWhen (payload.field "evidence_mode" == .str "prospective_controlled" &&
      changed.map VariantSlot.name != [expected])
    (compileControlledSlotsMismatch expected changed)
  let unexplained := changed.filter fun slot => slot.name != expected
  raiseWhen (payload.field "evidence_mode" == .str "exploratory" && !unexplained.isEmpty &&
      !hasItems candidateVariant "confounders")
    (compileConfounderMissing unexplained)

def validateComparisons (compiler : StudyCompiler platform) (study : StudyRevision platform) :
    Except Raised Unit :=
  let payload := study.revision.payload
  (payload.items "comparisons").forM
    (compiler.validateComparison study ((payload.items "scenario_refs").headD .null))

/-! ## Compiling -/

/-- The cells of a Study: scenarios, then variants, then repetitions. -/
def cells (payload : Json) : List Cell :=
  (payload.items "scenario_refs").flatMap fun scenarioRef =>
    (payload.items "variants").flatMap fun variant =>
      (List.range (integerOf (payload.field "repetitions")).toNat).map fun index : Nat =>
        ⟨scenarioRef, variant, (index : Int) + 1⟩

def compile (compiler : StudyCompiler platform) (study : StudyRevision platform) :
    Except Raised (List (RunSpec platform)) := do
  let resolved ← compiler.resolver study.revision.ref
  raiseWhen (resolved.kind != .study) (compileRevisionNotStudy resolved.kind.className)
  compiler.validateComparisons study
  (cells study.revision.payload).mapM (compiler.materialize study)

/-! ## What the compiler did -/

theorem materialize_ok {compiler : StudyCompiler platform} {study : StudyRevision platform}
    {cell : Cell} {spec : RunSpec platform}
    (compiled : compiler.materialize study cell = .ok spec) :
    ∃ resolved,
      resolveSelection compiler.resolver
          (select study.revision.payload cell.scenarioRef cell.variant) = .ok resolved ∧
        validate platform.coercion runSpec
          (runSpecDocument study.revision.ref study.revision.payload (cell.variant.field "id")
            cell.repetition (select study.revision.payload cell.scenarioRef cell.variant)
            resolved) = .ok spec.dump := by
  simp only [materialize, bind_ok, built_ok] at compiled
  obtain ⟨resolved, found, _, _, read⟩ := compiled
  exact ⟨resolved, found, (Instance.modelValidate_ok _ _ spec).mp read⟩

theorem compile_ok {compiler : StudyCompiler platform} {study : StudyRevision platform}
    {specs : List (RunSpec platform)} (compiled : compiler.compile study = .ok specs) :
    compiler.validateComparisons study = .ok () ∧
      List.Forall₂ (fun cell spec => compiler.materialize study cell = .ok spec)
        (cells study.revision.payload) specs := by
  simp only [compile, bind_ok] at compiled
  obtain ⟨_, _, _, _, _, compared, mapped⟩ := compiled
  exact ⟨compared, (mapM_except_ok _ _ _).mp mapped⟩

theorem mem_cells {payload : Json} {cell : Cell} :
    cell ∈ cells payload ↔ cell.scenarioRef ∈ payload.items "scenario_refs" ∧
      cell.variant ∈ payload.items "variants" ∧ 1 ≤ cell.repetition ∧
        cell.repetition ≤ integerOf (payload.field "repetitions") := by
  simp only [cells, List.mem_flatMap, List.mem_map, List.mem_range]
  constructor
  · rintro ⟨scenarioRef, scenario, variant, inside, index, below, rfl⟩
    exact ⟨scenario, inside, by simp only; omega, by simp only; omega⟩
  · rintro ⟨scenario, inside, positive, bounded⟩
    refine ⟨cell.scenarioRef, scenario, cell.variant, inside, (cell.repetition - 1).toNat,
      by omega, ?_⟩
    have index : (((cell.repetition - 1).toNat : Nat) : Int) + 1 = cell.repetition := by omega
    rw [index]

end StudyCompiler

/-! ## The payload of a Study -/

namespace StudyRevision

variable {platform : Platform} (study : StudyRevision platform)

theorem payload_stable :
    validate platform.coercion studySpec study.revision.payload = .ok study.revision.payload := by
  obtain ⟨given, valid⟩ := study.revision.payload_valid
  exact validate_stable (wellFormed_studySpec platform.coercion) _ _ valid

theorem payload_checked : validateMatrix study.revision.payload = .ok () := by
  obtain ⟨_, _, _, shape, _, checked⟩ := validate_model study.payload_stable
  rw [shape]
  exact checked

/-- A Study has a scenario, so that the compiler finds the first one. -/
theorem first_scenario :
    (study.revision.payload.items "scenario_refs").headD .null ∈
      study.revision.payload.items "scenario_refs" := by
  have scenarios := items_of_validateMatrix study.payload_checked "scenario_refs" (by simp)
  cases refs : study.revision.payload.items "scenario_refs" with
  | nil => exact absurd refs scenarios
  | cons ref rest => exact List.mem_cons_self

theorem variant_stable {variant : Json} (member : variant ∈ study.revision.payload.items "variants") :
    validate platform.coercion variantSpec variant = .ok variant :=
  items_source (wellFormed_studySpec platform.coercion) study.payload_stable
    (show defaulted "variants" (.arr [defaultVariant]) (.list 0 variantSpec) ∈ studySpecFields by
      simp [studySpecFields]) variant member

theorem blueprint_stable :
    validate platform.coercion runBlueprint (study.revision.payload.field "run_blueprint") =
      .ok (study.revision.payload.field "run_blueprint") := by
  have held := field_source (wellFormed_studySpec platform.coercion) study.payload_stable
    (show required "run_blueprint" runBlueprint ∈ studySpecFields by simp [studySpecFields])
  exact (held.resolve_left (by simp)).2.2

theorem repetitions_pos : 1 ≤ integerOf (study.revision.payload.field "repetitions") := by
  have held := field_source (wellFormed_studySpec platform.coercion) study.payload_stable
    (show defaulted "repetitions" (.int 1) (integerFrom 1) ∈ studySpecFields by
      simp [studySpecFields])
  obtain ⟨_, _, stable⟩ := held.resolve_left (by simp)
  generalize study.revision.payload.field "repetitions" = count at stable
  simp only [integerFrom, validate, Scalar.parse] at stable
  split at stable
  next value _ =>
    split_ifs at stable with bound
    cases stable
    simpa [integerOf] using bound
  · cases stable

end StudyRevision

end Evidrun.Contracts
