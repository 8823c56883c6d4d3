import Evidrun.Contracts.RoundTrip

/-!
# Studies

The Study an author writes: its intent, the blueprint of a Run, the variants with
their overrides, the comparisons and the seeds, following
`evidrun.contracts.authoring.study`, `study_intent` and `run`.

An override is `None` or a value. For `stop_conditions` and `extensions` the value
may be an empty tuple, which is not the same as `None`, and the semantic document
has neither: a Study is read back from its document with the same content, but not
always as the same Study.
-/

namespace Evidrun.Contracts

open JsonText DocumentSchema

set_option autoImplicit false

/-! ## Run blueprint -/

def validateStops (blueprint : Json) : Except String Unit := do
  raiseIf (!hasItems blueprint "stop_conditions")
    "run blueprint requires at least one stop condition"
  let expectedRefs := [("agent_inventory_ref", "agent_inventory"),
    ("workspace_template_ref", "workspace_template"),
    ("interaction_protocol_ref", "interaction_protocol"),
    ("evaluation_plan_ref", "evaluation_plan")]
  raiseIf (expectedRefs.any fun (name, kind) => !refOfType (blueprint.field name) kind)
    "run blueprint contains a reference in the wrong contract slot"
  raiseIf (isSet blueprint "checkpoint_policy_ref" &&
      !refOfType (blueprint.field "checkpoint_policy_ref") "checkpoint_policy")
    "checkpoint policy slot requires a checkpoint_policy ref"
  raiseIf (isSet blueprint "progress_artifact_policy_ref" &&
      !refOfType (blueprint.field "progress_artifact_policy_ref") "progress_artifact_policy")
    "progress artifact policy slot requires a progress_artifact_policy ref"

def runBlueprintFields : List (String × Presence × Schema) :=
  [required "agent_inventory_ref" contractRef,
    required "budgets" budgetSpec,
    required "capture_policy" capturePolicySpec,
    optional "checkpoint_policy_ref" contractRef,
    optional "context_policy" contextPolicySpec,
    required "evaluation_plan_ref" contractRef,
    tuple "extensions" extensionRef,
    required "interaction_protocol_ref" contractRef,
    optional "progress_artifact_policy_ref" contractRef,
    required "stop_conditions" (.list 0 stopCondition),
    required "workspace_template_ref" contractRef]

def runBlueprint : Schema := .model runBlueprintFields validateStops

/-! ## Variants and comparisons -/

/-- The reference slots a variant can override, with the contract each one holds. -/
def overrideRefs : List (String × String) :=
  [("goal_ref", "goal"), ("scenario_ref", "scenario"), ("agent_inventory_ref", "agent_inventory"),
    ("workspace_template_ref", "workspace_template"),
    ("interaction_protocol_ref", "interaction_protocol"),
    ("evaluation_plan_ref", "evaluation_plan"), ("checkpoint_policy_ref", "checkpoint_policy"),
    ("progress_artifact_policy_ref", "progress_artifact_policy")]

def validateRefSlots (overrides : Json) : Except String Unit :=
  raiseIf (overrideRefs.any fun (name, kind) =>
      isSet overrides name && !refOfType (overrides.field name) kind)
    "variant override contains a reference in the wrong contract slot"

def variantOverridesFields : List (String × Presence × Schema) :=
  [optional "agent_inventory_ref" contractRef,
    optional "budgets" budgetSpec,
    optional "capture_policy" capturePolicySpec,
    optional "checkpoint_policy_ref" contractRef,
    optional "context_policy" contextPolicySpec,
    optional "evaluation_plan_ref" contractRef,
    optional "extensions" (.list 0 extensionRef),
    optional "goal_ref" contractRef,
    optional "interaction_protocol_ref" contractRef,
    optional "progress_artifact_policy_ref" contractRef,
    optional "scenario_ref" contractRef,
    optional "stop_conditions" (.list 0 stopCondition),
    optional "workspace_template_ref" contractRef]

def variantOverrides : Schema := .model variantOverridesFields validateRefSlots

def variantSpec : Schema :=
  .model
    [tuple "confounders" nonEmptyStr,
      required "id" nonEmptyStr,
      required "label" nonEmptyStr,
      optional "notes" nonEmptyStr,
      defaulted "overrides" (.obj []) variantOverrides]
    noCheck

inductive VariantSlot
  | goal | scenario | agentInventory | workspaceTemplate | interactionProtocol | evaluationPlan
  | checkpointPolicy | progressArtifactPolicy | contextPolicy | budgets | stopConditions
  | capturePolicy | extensions
deriving DecidableEq, Repr

namespace VariantSlot

def all : List VariantSlot :=
  [.goal, .scenario, .agentInventory, .workspaceTemplate, .interactionProtocol, .evaluationPlan,
    .checkpointPolicy, .progressArtifactPolicy, .contextPolicy, .budgets, .stopConditions,
    .capturePolicy, .extensions]

theorem mem_all (slot : VariantSlot) : slot ∈ all := by
  cases slot <;> decide

def name : VariantSlot → String
  | .goal => "goal"
  | .scenario => "scenario"
  | .agentInventory => "agent_inventory"
  | .workspaceTemplate => "workspace_template"
  | .interactionProtocol => "interaction_protocol"
  | .evaluationPlan => "evaluation_plan"
  | .checkpointPolicy => "checkpoint_policy"
  | .progressArtifactPolicy => "progress_artifact_policy"
  | .contextPolicy => "context_policy"
  | .budgets => "budgets"
  | .stopConditions => "stop_conditions"
  | .capturePolicy => "capture_policy"
  | .extensions => "extensions"

end VariantSlot

def validatePrimaryVariable (comparison : Json) : Except String Unit := do
  raiseIf (comparison.field "baseline_variant" == comparison.field "candidate_variant")
    "comparison variants must be different"
  let primary := (comparison.field "primary_variable").asString
  raiseIf (primary ∉ VariantSlot.all.map VariantSlot.name &&
      !startsWith "extension:".toList primary)
    "comparison primary variable is not a typed variant slot"

def comparisonPlan : Schema :=
  .model
    [required "baseline_variant" nonEmptyStr,
      required "candidate_variant" nonEmptyStr,
      required "primary_variable" nonEmptyStr]
    validatePrimaryVariable

def validateSeed (strategy : Json) : Except String Unit := do
  raiseIf (strategy.field "kind" == .str "fixed" && !isSet strategy "seed")
    "fixed seed strategy requires a seed"
  raiseIf (strategy.field "kind" == .str "deterministic" && isSet strategy "seed")
    "deterministic seed strategy does not accept an explicit seed"

def seedStrategy : Schema :=
  .model
    [required "kind" (literal ["deterministic", "fixed", "per_repetition"]),
      optional "seed" (.scalar (.integer none))]
    validateSeed

/-! ## Intent -/

def validateBoundaries (scope : Json) : Except String Unit :=
  raiseIf ((scope.items "included").any fun item => item ∈ scope.items "excluded")
    "intent scope cannot both include and exclude the same boundary"

def intentScope : Schema :=
  .model [tuple "excluded" nonEmptyStr, tuple "included" nonEmptyStr] validateBoundaries

def openScope : Json := .obj [("excluded", .arr []), ("included", .arr [])]

def studyIntent : Schema :=
  .model
    [tuple "assumptions" nonEmptyStr,
      optional "decision_to_inform" nonEmptyStr,
      optional "hypothesis" nonEmptyStr,
      required "purpose" nonEmptyStr,
      tuple "questions" nonEmptyStr,
      defaulted "scope" openScope intentScope]
    noCheck

/-! ## Study -/

def evidenceMode : Schema :=
  literal ["prospective_controlled", "counterfactual_replay", "retrospective_observational",
    "exploratory"]

def validateMatrix (study : Json) : Except String Unit := do
  let scenarioRefs := study.items "scenario_refs"
  raiseIf scenarioRefs.isEmpty "study requires at least one scenario"
  raiseIf (!allDistinct scenarioRefs) "study scenario refs must be unique"
  raiseIf (!refOfType (study.field "goal_ref") "goal" ||
      scenarioRefs.any fun reference => !refOfType reference "scenario")
    "study Goal or scenario reference has the wrong contract type"
  let variantIds := column study "variants" "id"
  raiseIf variantIds.isEmpty "study requires at least one variant"
  raiseIf (!allDistinct variantIds) "study variant ids must be unique"
  raiseIf (1 < scenarioRefs.length && (study.items "variants").any fun variant =>
      isSet (variant.field "overrides") "scenario_ref")
    "scenario overrides are ambiguous when the Study matrix has multiple scenarios"
  raiseIf ((study.items "comparisons").any fun comparison =>
      comparison.field "baseline_variant" ∉ variantIds ||
        comparison.field "candidate_variant" ∉ variantIds)
    "comparison references unknown variant"
  raiseIf (study.field "evidence_mode" == .str "prospective_controlled" &&
      !hasItems study "comparisons")
    "prospective_controlled study requires a comparison"
  raiseIf (study.field "evidence_mode" != .str "exploratory" &&
      (study.items "variants").any fun variant => hasItems variant "confounders")
    "variant confounders are only valid in exploratory studies"

def defaultVariant : Json :=
  .obj [("confounders", .arr []), ("id", .str "default"), ("label", .str "Default"),
    ("overrides", .obj [])]

def studySpecFields : List (String × Presence × Schema) :=
  [tuple "comparisons" comparisonPlan,
    required "evidence_mode" evidenceMode,
    required "goal_ref" contractRef,
    required "intent" studyIntent,
    tuple "limitations" nonEmptyStr,
    defaulted "repetitions" (.int 1) (integerFrom 1),
    required "run_blueprint" runBlueprint,
    required "scenario_refs" (.list 0 contractRef),
    defaulted "seed_strategy" (.obj [("kind", .str "deterministic")]) seedStrategy,
    tuple "tags" nonEmptyStr,
    defaulted "variants" (.arr [defaultVariant]) (.list 0 variantSpec)]

def studySpec : Schema := .model studySpecFields validateMatrix

/-! ## Well-formedness -/

section WellFormed

variable (coercion : Coercion)

@[simp] theorem wellFormed_runBlueprint : WellFormed coercion runBlueprint :=
  wellFormed_model (by decide) (by simp [runBlueprintFields])

@[simp] theorem wellFormed_variantOverrides : WellFormed coercion variantOverrides :=
  wellFormed_model (by decide) (by simp [variantOverridesFields])

theorem validate_noOverrides : validate coercion variantOverrides (.obj []) = .ok (.obj []) := rfl

@[simp] theorem wellFormed_variantSpec : WellFormed coercion variantSpec :=
  wellFormed_model (by decide) (by simp [validate_noOverrides, nonEmptyStr])

@[simp] theorem wellFormed_comparisonPlan : WellFormed coercion comparisonPlan :=
  wellFormed_model (by decide) (by simp [nonEmptyStr])

@[simp] theorem wellFormed_seedStrategy : WellFormed coercion seedStrategy :=
  wellFormed_model (by decide) (by simp [literal])

@[simp] theorem wellFormed_intentScope : WellFormed coercion intentScope :=
  wellFormed_model (by decide) (by simp [nonEmptyStr])

@[simp] theorem wellFormed_studyIntent : WellFormed coercion studyIntent := by
  have silent : validate coercion intentScope openScope = .ok openScope := rfl
  exact wellFormed_model (by decide) (by simp [silent, nonEmptyStr])

@[simp] theorem wellFormed_studySpec : WellFormed coercion studySpec := by
  have seeded : validate coercion seedStrategy (.obj [("kind", .str "deterministic")]) =
      .ok (.obj [("kind", .str "deterministic")]) := rfl
  have single : validate coercion (.list 0 variantSpec) (.arr [defaultVariant]) =
      .ok (.arr [defaultVariant]) := rfl
  have once : validate coercion (integerFrom 1) (.int 1) = .ok (.int 1) := by
    simp [integerFrom, validate, Scalar.parse]
  have counted : WellFormed coercion (integerFrom 1) := wellFormed_scalar coercion _
  exact wellFormed_model (by decide)
    (by simp [studySpecFields, seeded, single, once, counted, evidenceMode, literal, nonEmptyStr])

end WellFormed

/-! ## What is restored from the document -/

section Restored

variable {coercion : Coercion}

@[simp] theorem durable_runBlueprint :
    Restores coercion runBlueprint ∧ Filled coercion runBlueprint := by
  refine durable_guarded ["stop_conditions"] (wellFormed_runBlueprint coercion)
    (by simp [runBlueprintFields, tuple]) (by simp [runBlueprintFields]) ?_
  intro dump checked name guard
  rw [validateStops, raiseIf_bind_ok] at checked
  rw [List.mem_singleton.mp guard]
  exact items_of_hasItems (by simpa using checked.1)

@[simp] theorem durable_comparisonPlan :
    Restores coercion comparisonPlan ∧ Filled coercion comparisonPlan :=
  durable_plain (wellFormed_comparisonPlan coercion) (by simp [nonEmptyStr]) (by simp [nonEmptyStr])

@[simp] theorem durable_seedStrategy :
    Restores coercion seedStrategy ∧ Filled coercion seedStrategy :=
  durable_plain (wellFormed_seedStrategy coercion) (by simp [literal]) (by simp [literal])

theorem restores_intentScope :
    Restores coercion intentScope ∧ Recovers coercion intentScope openScope :=
  ⟨restores_model [] (wellFormed_intentScope coercion) (by simp [tuple, nonEmptyStr]) (by simp),
    @recovers_lists coercion validateBoundaries
      [("excluded", nonEmptyStr), ("included", nonEmptyStr)]⟩

@[simp] theorem durable_studyIntent :
    Restores coercion studyIntent ∧ Filled coercion studyIntent :=
  durable_plain (wellFormed_studyIntent coercion)
    (by simp [tuple, nonEmptyStr, restores_intentScope]) (by simp [tuple, nonEmptyStr])

section Fields

variable (guarded : List String) (name : String) (schema : Schema)
  (rest : List (String × Presence × Schema))

@[simp] theorem rereadsFields_nil : RereadsFields coercion guarded [] := by
  simp [RereadsFields]

@[simp] theorem rereadsFields_required :
    RereadsFields coercion guarded (required name schema :: rest) ↔
      Rereads coercion schema ∧ (name ∈ guarded ∨ Filled coercion schema) ∧
        RereadsFields coercion guarded rest := by
  simp [RereadsFields, required, RereadsField]

@[simp] theorem rereadsFields_optional :
    RereadsFields coercion guarded (optional name schema :: rest) ↔
      Rereads coercion schema ∧ RereadsFields coercion guarded rest := by
  simp [RereadsFields, optional, RereadsField]

@[simp] theorem rereadsFields_defaulted (usual : Json) :
    RereadsFields coercion guarded (defaulted name usual schema :: rest) ↔
      Rereads coercion schema ∧
        (name ∈ guarded ∨ RereadsField coercion (.default usual) schema) ∧
        RereadsFields coercion guarded rest := by
  simp [RereadsFields, defaulted]

end Fields

@[simp] theorem rereads_scalar (rule : Scalar) : Rereads coercion (.scalar rule) :=
  (restores_scalar rule).rereads (wellFormed_scalar coercion rule)

attribute [simp] rereads_list

variable {again given study : Json}

@[simp] theorem rereadsField_scalar (presence : Presence) (rule : Scalar) :
    RereadsField coercion presence (.scalar rule) :=
  ((filled_scalar rule).restoresField presence).rereadsField (wellFormed_scalar coercion rule)

@[simp] theorem rereadsField_tuple (item : Schema) :
    RereadsField coercion (.default (.arr [])) (.list 0 item) :=
  fun _ _ _ _ => rfl

theorem validateRefSlots_congr {overrides : Json}
    (same : ∀ slot ∈ overrideRefs, again.field slot.1 = overrides.field slot.1) :
    validateRefSlots again = validateRefSlots overrides := by
  simp only [overrideRefs, List.forall_mem_cons] at same
  simp only [validateRefSlots, overrideRefs, List.any_cons, List.any_nil, isSet, same]

theorem rereads_variantOverrides : Rereads coercion variantOverrides := by
  refine rereads_model [] (wellFormed_variantOverrides coercion) ?_ (by simp) ?_
  · simp [variantOverridesFields, durable_contractRef.1.rereads, durable_budgetSpec.1.rereads,
      durable_capturePolicySpec.1.rereads, durable_contextPolicySpec.1.rereads,
      (restores_list durable_extensionRef.1).rereads,
      (restores_list durable_stopCondition.1).rereads, wellFormed_budgetSpec,
      wellFormed_capturePolicySpec, wellFormed_contextPolicySpec, wellFormed_extensionRef,
      wellFormed_stopCondition]
  · intro given dumped again valid validAgain checked
    have formed := wellFormed_variantOverrides coercion
    rw [variantOverrides, WellFormed] at formed
    have slots : ∀ slot ∈ overrideRefs, optional slot.1 contractRef ∈ variantOverridesFields := by
      simp [overrideRefs, variantOverridesFields]
    rw [validateRefSlots_congr fun slot member => ?_]
    · exact checked
    · have same := lookup_reread formed.1 formed.2 valid validAgain (slots slot member)
        durable_contractRef.1 (Or.inl durable_contractRef.2)
      simp only [Json.field, Json.get?, same]

/-- The overrides that the document tells from `None`. An empty tuple of extensions
or of stop conditions is dropped from it. -/
def toldOverrides : List (String × Schema) :=
  [("agent_inventory_ref", contractRef), ("budgets", budgetSpec),
    ("capture_policy", capturePolicySpec), ("checkpoint_policy_ref", contractRef),
    ("context_policy", contextPolicySpec), ("evaluation_plan_ref", contractRef),
    ("goal_ref", contractRef), ("interaction_protocol_ref", contractRef),
    ("progress_artifact_policy_ref", contractRef), ("scenario_ref", contractRef),
    ("workspace_template_ref", contractRef)]

theorem field_reread_variantOverrides {overrides : Json}
    (valid : validate coercion variantOverrides given = .ok overrides)
    (read : validate coercion variantOverrides (dropEmpty overrides) = .ok again) {name : String}
    (told : name ∈ toldOverrides.map Prod.fst) : again.field name = overrides.field name := by
  have durable : ∀ slot ∈ toldOverrides, (Restores coercion slot.2 ∧ Filled coercion slot.2) ∧
      optional slot.1 slot.2 ∈ variantOverridesFields := by
    simp [toldOverrides, variantOverridesFields]
  obtain ⟨slot, member, rfl⟩ := List.mem_map.mp told
  obtain ⟨⟨restores, filled⟩, field⟩ := durable slot member
  have formed := wellFormed_variantOverrides coercion
  rw [variantOverrides, WellFormed] at formed
  obtain ⟨_, dumped, second, rfl, rfl, first, next⟩ := validate_model_reread valid read
  have same := lookup_reread formed.1 formed.2 first next field restores (Or.inl filled)
  simp only [Json.field, Json.get?, same]

theorem rereads_variantSpec : Rereads coercion variantSpec := by
  refine rereads_model [] (wellFormed_variantSpec coercion) ?_ (by simp) (fun _ _ _ _ _ _ => rfl)
  have overrides : RereadsField coercion (.default (.obj [])) variantOverrides :=
    fun _ _ _ _ => rfl
  simp [tuple, overrides, rereads_variantOverrides, nonEmptyStr]

/-- What reading a variant again does to it. -/
structure VariantReread (coercion : Coercion) (variant again : Json) : Prop where
  id : again.field "id" = variant.field "id"
  confounders : again.items "confounders" = variant.items "confounders"
  overridesValid : ∃ given,
    validate coercion variantOverrides given = .ok (variant.field "overrides")
  overrides : validate coercion variantOverrides (dropEmpty (variant.field "overrides")) =
    .ok (again.field "overrides")

theorem reread_variantSpec {variant : Json}
    (valid : validate coercion variantSpec given = .ok variant)
    (read : validate coercion variantSpec (dropEmpty variant) = .ok again) :
    VariantReread coercion variant again := by
  have formed := wellFormed_variantSpec coercion
  rw [variantSpec, WellFormed] at formed
  obtain ⟨_, dumped, second, rfl, rfl, first, next⟩ := validate_model_reread valid read
  have id := @lookup_reread coercion nonEmptyStr _ _ _ "id" .required formed.1 formed.2 _ first next
    (by simp [required]) (restores_scalar _) (Or.inl (filled_scalar _))
  have confounders := @lookup_reread coercion (.list 0 nonEmptyStr) _ _ _ "confounders"
    (.default (.arr [])) formed.1 formed.2 _ first next (by simp [tuple, defaulted])
    (restores_list (restores_scalar _)) (Or.inl (recovers_list _))
  have member : defaulted "overrides" (.obj []) variantOverrides ∈
      [tuple "confounders" nonEmptyStr, required "id" nonEmptyStr, required "label" nonEmptyStr,
        optional "notes" nonEmptyStr, defaulted "overrides" (.obj []) variantOverrides] := by simp
  obtain ⟨value, held⟩ :=
    validateFields_present_of_mandatory formed.1 first member (by simp)
  obtain ⟨_, source, sourceValid⟩ := validateFields_source formed.1 formed.2 first member held
  refine ⟨by simp only [Json.field, Json.get?, id], by simp only [Json.items, Json.get?, confounders],
    ⟨source, by simpa only [Json.field, Json.get?, held, Option.getD_some] using sourceValid⟩, ?_⟩
  refine validate_lookup_reread formed.1 formed.2 first next member (by simp) ?_
  rintro usual source value same valueValid - empty
  obtain ⟨_, entries, _, rfl, _, _⟩ := validate_model valueValid
  cases same
  rw [dropEmpty] at empty ⊢
  cases remaining : dropEmptyFields entries with
  | nil => exact validate_noOverrides coercion
  | cons first rest => simp [remaining, isEmpty] at empty

/-- A variant that was read again keeps the overrides that the document tells. -/
theorem VariantReread.field {variant : Json} (reread : VariantReread coercion variant again)
    {name : String} (told : name ∈ toldOverrides.map Prod.fst) :
    (again.field "overrides").field name = (variant.field "overrides").field name := by
  obtain ⟨given, valid⟩ := reread.overridesValid
  exact field_reread_variantOverrides valid reread.overrides told

def keptStudyFields : List String :=
  ["comparisons", "evidence_mode", "goal_ref", "intent", "limitations", "repetitions",
    "run_blueprint", "scenario_refs", "seed_strategy", "tags"]

/-- A Study and the Study read from its document, apart from the overrides that the
document does not tell. -/
structure StudyReread (coercion : Coercion) (study again : Json) : Prop where
  field : ∀ name ∈ keptStudyFields, again.get? name = study.get? name
  variants : List.Forall₂ (VariantReread coercion) (study.items "variants") (again.items "variants")

/-- Variants that were read again have the same values of whatever reading keeps. -/
theorem map_variants {Value : Type} {read : Json → Value} {variants again : List Json}
    (reread : List.Forall₂ (VariantReread coercion) variants again)
    (same : ∀ variant second, VariantReread coercion variant second → read second = read variant) :
    again.map read = variants.map read := by
  induction reread with
  | nil => rfl
  | cons head _ ih => rw [List.map_cons, List.map_cons, same _ _ head, ih]

theorem any_variants (test : Json → Bool) {variants again : List Json}
    (reread : List.Forall₂ (VariantReread coercion) variants again)
    (same : ∀ variant second, VariantReread coercion variant second → test second = test variant) :
    again.any test = variants.any test := by
  have mapped := map_variants reread same
  simpa [List.any_map] using congrArg (fun values => values.any id) mapped

theorem StudyReread.field_eq (reread : StudyReread coercion study again) {name : String}
    (kept : name ∈ keptStudyFields) :
    again.field name = study.field name ∧ again.items name = study.items name := by
  have same := reread.field name kept
  exact ⟨by simp only [Json.field, same], by simp only [Json.items, same]⟩

theorem validateMatrix_congr (reread : StudyReread coercion study again) :
    validateMatrix again = validateMatrix study := by
  have scenarios := (reread.field_eq (show "scenario_refs" ∈ keptStudyFields by decide)).2
  have goal := (reread.field_eq (show "goal_ref" ∈ keptStudyFields by decide)).1
  have comparisons := (reread.field_eq (show "comparisons" ∈ keptStudyFields by decide)).2
  have mode := (reread.field_eq (show "evidence_mode" ∈ keptStudyFields by decide)).1
  have ids : column again "variants" "id" = column study "variants" "id" :=
    map_variants reread.variants fun _ _ variant => variant.id
  have declared : hasItems again "comparisons" = hasItems study "comparisons" := by
    simp only [hasItems, comparisons]
  have overrides := any_variants (fun variant => isSet (variant.field "overrides") "scenario_ref")
    reread.variants fun _ _ variant => by
      simp only [isSet, variant.field (show "scenario_ref" ∈ toldOverrides.map Prod.fst by decide)]
  have confounders := any_variants (fun variant => hasItems variant "confounders")
    reread.variants fun _ _ variant => by simp only [hasItems, variant.confounders]
  simp only [validateMatrix, scenarios, goal, comparisons, declared, mode, ids, overrides,
    confounders]

theorem items_of_validateMatrix (checked : validateMatrix study = .ok ()) :
    ∀ name ∈ ["scenario_refs", "variants"], study.items name ≠ [] := by
  simp only [validateMatrix, raiseIf_bind_ok, column, List.isEmpty_map, List.isEmpty_eq_false_iff]
    at checked
  obtain ⟨scenarios, _, _, variants, _⟩ := checked
  simpa using ⟨scenarios, variants⟩

/-- The items of a list that was read, and of the list read from its content. -/
theorem forall₂_reread {least : Nat} {item : Schema} {list : Json}
    (valid : validate coercion (.list least item) given = .ok list)
    (read : validate coercion (.list least item) (dropEmpty list) = .ok again) :
    ∃ items seconds, list = .arr items ∧ again = .arr seconds ∧
      List.Forall₂ (fun value second => (∃ source, validate coercion item source = .ok value) ∧
        validate coercion item (dropEmpty value) = .ok second) items seconds := by
  obtain ⟨_, items, _, rfl, mapped, -⟩ := validate_list valid
  obtain ⟨contents, seconds, same, rfl, mappedAgain, -⟩ := validate_list read
  rw [dropEmpty, dropEmptyItems_eq_map, Json.arr.injEq] at same
  subst same
  rw [mapM_except_ok, List.forall₂_map_left_iff] at mappedAgain
  refine ⟨items, seconds, rfl, rfl, ?_⟩
  have sources : ∀ value ∈ items, ∃ source, validate coercion item source = .ok value :=
    fun value member => source_of_mem_mapM mapped member
  clear mapped valid read
  induction mappedAgain with
  | nil => exact .nil
  | cons head _ ih =>
      exact .cons ⟨sources _ List.mem_cons_self, head⟩
        (ih fun value member => sources value (List.mem_cons_of_mem _ member))

theorem studyReread_of_fields {given dumped again : List (String × Json)}
    (valid : validateFields coercion studySpecFields given = .ok dumped)
    (validAgain : validateFields coercion studySpecFields (dropEmptyFields dumped) = .ok again)
    (checked : validateMatrix (.obj dumped) = .ok ()) :
    StudyReread coercion (.obj dumped) (.obj again) := by
  have formed := wellFormed_studySpec coercion
  rw [studySpec, WellFormed] at formed
  have filled := items_of_validateMatrix checked
  constructor
  · intro name kept
    have safe : ∀ field ∈ studySpecFields.dropLast, Restores coercion field.2.2 ∧
        (RestoresField coercion field.2.1 field.2.2 ∨ field.1 = "scenario_refs") := by
      simp [studySpecFields, tuple, defaulted, required, RestoresField, evidenceMode, literal,
        nonEmptyStr, integerFrom, durable_seedStrategy.2.recovers]
    have named : keptStudyFields = names studySpecFields.dropLast := rfl
    rw [named] at kept
    obtain ⟨field, member, rfl⟩ := List.mem_map.mp kept
    obtain ⟨restores, safe⟩ := safe field member
    exact lookup_reread formed.1 formed.2 valid validAgain (List.dropLast_subset _ member)
      restores (safe.imp_right fun same => filled field.1 (by simp [same]))
  · have member : defaulted "variants" (.arr [defaultVariant]) (.list 0 variantSpec) ∈
        studySpecFields := by simp [studySpecFields]
    obtain ⟨value, held⟩ := validateFields_present_of_mandatory formed.1 valid member (by simp)
    obtain ⟨_, source, sourceValid⟩ := validateFields_source formed.1 formed.2 valid member held
    have read := validate_lookup_reread formed.1 formed.2 valid validAgain member (by simp) (by
      rintro usual source value - - held empty
      refine absurd empty ?_
      have kept := keep_of_items held (filled "variants" (by simp))
      intro empty
      simp [keep, empty] at kept)
    simp only [Json.field, Json.get?, held, Option.getD_some] at read
    obtain ⟨items, seconds, rfl, same, aligned⟩ := forall₂_reread sourceValid read
    have heldAgain : again.lookup "variants" = some (.arr seconds) := by
      cases found : again.lookup "variants" with
      | none => simp [found] at same
      | some value => simpa [found] using same
    simp only [Json.items, Json.get?, held, heldAgain]
    exact aligned.imp fun variant second both =>
      reread_variantSpec both.1.choose_spec both.2

theorem rereads_studySpec : Rereads coercion studySpec := by
  refine rereads_model ["scenario_refs", "variants"] (wellFormed_studySpec coercion) ?_
    (fun dump checked => items_of_validateMatrix checked) ?_
  · have strategy := (durable_seedStrategy.2.restoresField
      (.default (.obj [("kind", .str "deterministic")]))).rereadsField
        (wellFormed_seedStrategy coercion)
    simp [studySpecFields, tuple, strategy, durable_comparisonPlan.1.rereads,
      wellFormed_comparisonPlan, durable_contractRef.1.rereads, durable_studyIntent.1.rereads,
      wellFormed_studyIntent, durable_runBlueprint.1.rereads, wellFormed_runBlueprint,
      durable_seedStrategy.1.rereads, wellFormed_seedStrategy, rereads_variantSpec, evidenceMode,
      literal, nonEmptyStr, integerFrom]
  · intro given dumped again valid validAgain checked
    rw [validateMatrix_congr (studyReread_of_fields valid validAgain checked)]
    exact checked

/-- A Study is read from its document with the same content, up to the overrides
that the document does not tell. -/
theorem reread_studySpec (valid : validate coercion studySpec given = .ok study) :
    ∃ again, validate coercion studySpec (dropEmpty study) = .ok again ∧
      dropEmpty again = dropEmpty study ∧ StudyReread coercion study again := by
  obtain ⟨again, read, content⟩ := rereads_studySpec given study valid
  refine ⟨again, read, content, ?_⟩
  obtain ⟨_, _, _, shape, _, checked⟩ := validate_model valid
  obtain ⟨_, dumped, second, rfl, rfl, first, next⟩ := validate_model_reread valid read
  cases shape
  exact studyReread_of_fields first next checked

end Restored

end Evidrun.Contracts
