import Evidrun.Contracts.Matrix
import Evidrun.Lib.Table
import Mathlib.Data.Prod.Lex

/-!
# Execution trust

The closed set of revisions a Study is compiled from, the trust record that binds
one RunSpec to such a set, and the compilation from a sealed set, following
`evidrun.contracts.execution_trust`.

The sealer enumerates the references of a Study slot by slot. The compiler selects
references on its own, with the precedence of overrides, so that the sealed set
holds what the compiler asks for is a theorem here and not part of a definition.
-/

namespace Evidrun.Contracts

open JsonText DocumentSchema
open StudyCompiler

set_option autoImplicit false

/-! ## Revision sets -/

/-- References are ordered by kind, logical id, number and digest. -/
def refKey (reference : Json) : String ×ₗ String ×ₗ Int ×ₗ String :=
  toLex ((reference.field "contract_type").asString,
    toLex ((reference.field "logical_id").asString,
      toLex (integerOf (reference.field "revision"), (reference.field "digest").asString)))

def canonicalOrder (references : List Json) : List Json :=
  references.insertionSort fun left right => refKey left ≤ refKey right

def validateClosedSet (revisionSet : Json) : Except String Unit := do
  let references := revisionSet.items "revision_refs"
  raiseIf (!refOfType (revisionSet.field "study_ref") "study")
    "execution revision set requires a Study root"
  raiseIf (!decide (references.map identityKey).Nodup)
    "execution revision refs must have unique identities"
  raiseIf (revisionSet.field "study_ref" ∉ references)
    "execution revision set must include its Study root"
  raiseIf (references != canonicalOrder references)
    "execution revision refs must use canonical order"

def executionRevisionSetFields : List (String × Presence × Schema) :=
  [required "project_id" nonEmptyStr,
    required "revision_refs" (.list 1 contractRef),
    schemaVersion,
    required "study_ref" contractRef]

def executionRevisionSet : Schema := .model executionRevisionSetFields validateClosedSet

@[simp] theorem wellFormed_executionRevisionSet (coercion : Coercion) :
    WellFormed coercion executionRevisionSet :=
  wellFormed_model (by decide) (by simp [executionRevisionSetFields, nonEmptyStr])

abbrev ExecutionRevisionSet (platform : Platform) : Type :=
  Instance platform.coercion executionRevisionSet

/-- The arguments `ExecutionRevisionSet` is built from. -/
def revisionSetDocument (projectId studyRef revisionRefs : Json) : Json :=
  .obj [("project_id", projectId), ("revision_refs", revisionRefs), ("study_ref", studyRef)]

def ExecutionRevisionSet.modelValidate (platform : Platform) (document : Json) :
    Except String (ExecutionRevisionSet platform) :=
  Instance.modelValidate (wellFormed_executionRevisionSet platform.coercion) document

/-! ## Trust records -/

def verifiedDecisionBinding : Schema :=
  .model [required "decision_digest" digest, required "revision_ref" contractRef] noCheck

def validateRevisionSetAndBindingCoverage (platform : Platform) (record : Json) :
    Except String Unit := do
  let revisionSet ← ExecutionRevisionSet.modelValidate platform <|
    revisionSetDocument (record.field "project_id") (record.field "study_ref")
      (record.field "revision_refs")
  raiseIf (.str (digestOf platform revisionSet) != record.field "revision_set_digest")
    "execution trust revision-set digest does not recompute"
  let unverified := record.field "kind" == .str "unverified_revision_set"
  raiseIf (unverified && hasItems record "verified_decisions")
    "unverified execution trust cannot bind verified decisions"
  raiseIf (!unverified &&
      column record "verified_decisions" "revision_ref" != record.items "revision_refs")
    "verified execution trust must cover every revision in canonical order"

def executionTrustRecord (platform : Platform) : Schema :=
  .model
    [required "created_at_utc" utcDateTime,
      required "kind" (literal ["unverified_revision_set", "verified_revision_set"]),
      required "project_id" nonEmptyStr,
      required "revision_refs" (.list 1 contractRef),
      required "revision_set_digest" digest,
      required "run_spec_digest" digest,
      schemaVersion,
      required "study_ref" contractRef,
      required "trust_id" nonEmptyStr,
      tuple "verified_decisions" verifiedDecisionBinding]
    (validateRevisionSetAndBindingCoverage platform)

@[simp] theorem wellFormed_verifiedDecisionBinding (coercion : Coercion) :
    WellFormed coercion verifiedDecisionBinding :=
  wellFormed_model (by decide) (by simp [digest])

@[simp] theorem wellFormed_executionTrustRecord (platform : Platform) :
    WellFormed platform.coercion (executionTrustRecord platform) :=
  wellFormed_model (by decide)
    (by simp [utcDateTime, literal, nonEmptyStr, digest])

abbrev ExecutionTrustRecord (platform : Platform) : Type :=
  Instance platform.coercion (executionTrustRecord platform)

theorem ExecutionTrustRecord.digest_text {platform : Platform}
    (record : ExecutionTrustRecord platform) :
    record.dump.field "run_spec_digest" =
      .str (record.dump.field "run_spec_digest").asString := by
  have held := field_source (wellFormed_executionTrustRecord platform) record.valid
    (show required "run_spec_digest" digest ∈ _ by simp)
  have stable := (held.resolve_left (by simp)).2.2
  generalize record.dump.field "run_spec_digest" = value at stable
  cases value with
  | str text => rfl
  | _ => simp [digest, validate, Scalar.parse] at stable

section Sealing

variable {platform : Platform}

/-! ## The sealed resolver -/

/-- Resolve inside a tuple of revisions; of several with one identity the last one counts. -/
def resolveSealed (revisions : List (Revision platform)) : ContractResolver platform :=
  fun reference =>
    match Table.find Revision.identity revisions.reverse (identityKey reference) with
    | none =>
        .error (.keyError ("revision is outside the sealed set: " ++
          (reference.field "logical_id").asString ++ "@" ++
          toString (integerOf (reference.field "revision"))))
    | some revision => do
        raiseWhen (revision.ref != reference)
          (.valueError "sealed contract reference digest mismatch")
        .ok revision

def sealedContractResolver (revisionSet : ExecutionRevisionSet platform)
    (revisions : List (Revision platform)) : Except Raised (ContractResolver platform) := do
  let held := revisions.map Revision.identity
  let expected := (revisionSet.dump.items "revision_refs").map identityKey
  raiseWhen (!(held.all (· ∈ expected) && expected.all (· ∈ held)))
    (.valueError "sealed resolver revisions do not match the revision set")
  .ok (resolveSealed revisions)

/-! ## Sealing a Study -/

structure SealedStudy (platform : Platform) where
  revisionSet : ExecutionRevisionSet platform
  revisions : List (Revision platform)
  resolver : ContractResolver platform

def blueprintSlots : List (String × ContractType) :=
  [("agent_inventory_ref", .agentInventory), ("workspace_template_ref", .workspaceTemplate),
    ("interaction_protocol_ref", .interactionProtocol), ("evaluation_plan_ref", .evaluationPlan),
    ("checkpoint_policy_ref", .checkpointPolicy),
    ("progress_artifact_policy_ref", .progressArtifactPolicy)]

def overrideSlots : List (String × ContractType) :=
  ("goal_ref", .goal) :: ("scenario_ref", .scenario) :: blueprintSlots

/-- The references of a Study, each with the kind its slot asks for. -/
def typedSlots (payload : Json) : List (Json × ContractType) :=
  (payload.field "goal_ref", .goal) ::
    (payload.items "scenario_refs").map (fun reference => (reference, .scenario)) ++
    blueprintSlots.map (fun (name, kind) => ((payload.field "run_blueprint").field name, kind)) ++
    (payload.items "variants").flatMap fun variant =>
      overrideSlots.map fun (name, kind) => ((variant.field "overrides").field name, kind)

def collectReference (collected : List Json) (reference : Json) : Except Raised (List Json) :=
  match Table.find identityKey collected (identityKey reference) with
  | none => .ok (collected ++ [reference])
  | some existing => do
      raiseWhen (existing != reference)
        (.valueError "Study closure contains one identity with different digests")
      .ok collected

def collectReferences (study : Revision platform) : Except Raised (List Json) := do
  let slots := typedSlots study.payload
  raiseWhen (slots.any fun (reference, expected) =>
      reference != .null && !refOfType reference expected.name)
    (.valueError "Study closure contains an unsupported or cyclic contract ref")
  let references := study.ref :: slots.map Prod.fst
  (references.filter (· != .null)).foldlM collectReference []

/-- One revision of the closure. -/
def resolveMember (resolver : ContractResolver platform) (projectId : String) (reference : Json) :
    Except Raised (Revision platform) := do
  let revision ← resolver reference
  raiseWhen (revision.ref != reference)
    (.valueError "resolved revision does not reproduce its reference")
  raiseWhen (revision.projectId != projectId)
    (.valueError "execution revision set cannot cross a Project boundary")
  .ok revision

/-- `ExecutionRevisionSetSealer.seal`. -/
def sealStudy (resolver : ContractResolver platform) (study : StudyRevision platform) :
    Except Raised (SealedStudy platform) := do
  let root ← resolver study.revision.ref
  raiseWhen (root != study.revision)
    (.valueError "Study root did not resolve to the exact registered revision")
  let references ← collectReferences root
  let orderedRefs := canonicalOrder references
  let revisions ← orderedRefs.mapM (resolveMember resolver study.revision.projectId)
  let document ← built <| ExecutionRevisionSet.modelValidate platform <|
    revisionSetDocument (.str study.revision.projectId) study.revision.ref (.arr orderedRefs)
  let sealedResolver ← sealedContractResolver document revisions
  .ok ⟨document, revisions, sealedResolver⟩

/-! ## Compiling a sealed set -/

def Revision.asStudy (revision : Revision platform) : Except Raised (StudyRevision platform) :=
  match revision with
  | ⟨.study, contract⟩ => .ok contract
  | _ => .error (.typeError "execution revision-set root is not a StudyRevision")

def compileExecutionRevisionSet (revisionSet : ExecutionRevisionSet platform)
    (revisions : List (Revision platform)) : Except Raised (List (RunSpec platform)) := do
  let resolver ← sealedContractResolver revisionSet revisions
  let root ← resolver (revisionSet.dump.field "study_ref")
  let study ← root.asStudy
  raiseWhen (.str study.revision.projectId != revisionSet.dump.field "project_id")
    (.valueError "execution revision set cannot cross a Project boundary")
  let sealed ← sealStudy resolver study
  raiseWhen (sealed.revisionSet != revisionSet)
    (.valueError "execution revision set does not reproduce from its Study")
  compile ⟨sealed.resolver, .empty⟩ study

def validateExecutionTrustLineage (record : ExecutionTrustRecord platform)
    (runSpec : RunSpec platform) (revisions : List (Revision platform)) :
    Except Raised (List (RunSpec platform)) := do
  let revisionSet ← built <| ExecutionRevisionSet.modelValidate platform <|
    revisionSetDocument (record.dump.field "project_id") (record.dump.field "study_ref")
      (record.dump.field "revision_refs")
  let compiled ← compileExecutionRevisionSet revisionSet revisions
  let bound := (record.dump.field "run_spec_digest").asString
  raiseWhen (digestOf platform runSpec != bound ||
      Table.find (digestOf platform) compiled.reverse bound != some runSpec)
    (.valueError "execution trust RunSpec was not compiled from its revision set")
  .ok compiled

/-! ## What the sealer collects -/

section

variable {reference : Json} {references : List Json}

theorem collectReference_ok {collected result : List Json}
    (done : collectReference collected reference = .ok result) (other : Json) :
    other ∈ result ↔ other ∈ collected ∨ other = reference := by
  unfold collectReference at done
  split at done
  next => 
    cases done
    simp
  next existing found =>
    simp only [bind_ok, raiseWhen_ok] at done
    obtain ⟨_, same, rest⟩ := done
    cases rest
    have held := Table.find_mem found
    rw [show existing = reference by simpa using same] at held
    constructor
    · exact Or.inl
    · rintro (member | rfl)
      · exact member
      · exact held

theorem foldlM_collectReference_ok {collected result : List Json}
    (done : references.foldlM collectReference collected = .ok result) (other : Json) :
    other ∈ result ↔ other ∈ collected ∨ other ∈ references := by
  induction references generalizing collected with
  | nil =>
      cases done
      simp
  | cons reference rest ih =>
      simp only [List.foldlM_cons, bind_ok] at done
      obtain ⟨next, first, later⟩ := done
      rw [ih later, collectReference_ok first]
      simp [or_assoc]

theorem mem_canonicalOrder : reference ∈ canonicalOrder references ↔ reference ∈ references :=
  (List.perm_insertionSort _ references).mem_iff

/-- Everything a slot names is in the closure, and nothing else but the Study itself. -/
theorem collectReferences_ok {study : Revision platform}
    (done : collectReferences study = .ok references) (reference : Json) :
    reference ∈ canonicalOrder references ↔
      reference ≠ .null ∧
        (reference = study.ref ∨ reference ∈ (typedSlots study.payload).map Prod.fst) := by
  simp only [collectReferences, bind_ok] at done
  obtain ⟨_, _, collected⟩ := done
  rw [mem_canonicalOrder, foldlM_collectReference_ok collected]
  simp [and_comm]

/-! ## What the compiler asks for -/

/-- Two resolvers that agree on what the Study names. -/
def AgreeOn (payload : Json) (left right : ContractResolver platform) : Prop :=
  ∀ reference ∈ (typedSlots payload).map Prod.fst, reference ≠ .null → left reference = right reference

theorem resolveTyped_congr {left right : ContractResolver platform}
    (same : left reference = right reference) (kind : ContractType) :
    resolveTyped left reference kind = resolveTyped right reference kind := by
  simp only [resolveTyped, same]

theorem resolvePolicy_congr {left right : ContractResolver platform}
    (same : reference ≠ .null → left reference = right reference) (kind : ContractType) :
    resolvePolicy left reference kind = resolvePolicy right reference kind := by
  unfold resolvePolicy
  split_ifs with unset
  · rfl
  · rw [resolveTyped_congr (same unset)]

end

theorem orInherited_ne_null {override inherited : Json} (present : inherited ≠ .null) :
    orInherited override inherited ≠ .null := by
  unfold orInherited
  split_ifs with unset
  · exact present
  · exact unset

section Closure

variable {payload : Json} {left right : ContractResolver platform}

theorem AgreeOn.inherited (agree : AgreeOn payload left right) {override inherited : Json}
    (first : override ∈ (typedSlots payload).map Prod.fst)
    (second : inherited ∈ (typedSlots payload).map Prod.fst)
    (present : orInherited override inherited ≠ .null) :
    left (orInherited override inherited) = right (orInherited override inherited) := by
  refine agree _ ?_ present
  unfold orInherited
  split_ifs
  · exact second
  · exact first

theorem mem_typedSlots_goal : payload.field "goal_ref" ∈ (typedSlots payload).map Prod.fst := by
  simp [typedSlots]

theorem mem_typedSlots_scenario {reference : Json} (member : reference ∈ payload.items "scenario_refs") :
    reference ∈ (typedSlots payload).map Prod.fst := by
  simp [typedSlots, member]

theorem mem_typedSlots_blueprint {name : String} {kind : ContractType}
    (slot : (name, kind) ∈ blueprintSlots) :
    (payload.field "run_blueprint").field name ∈ (typedSlots payload).map Prod.fst := by
  refine List.mem_map.mpr ⟨((payload.field "run_blueprint").field name, kind), ?_, rfl⟩
  refine List.mem_append_left _ (List.mem_append_right _ ?_)
  exact List.mem_map.mpr ⟨(name, kind), slot, rfl⟩

theorem mem_typedSlots_override {variant : Json} (member : variant ∈ payload.items "variants")
    (name : String) (kind : ContractType) (slot : (name, kind) ∈ overrideSlots) :
    (variant.field "overrides").field name ∈ (typedSlots payload).map Prod.fst := by
  refine List.mem_map.mpr ⟨((variant.field "overrides").field name, kind), ?_, rfl⟩
  refine List.mem_append_right _ (List.mem_flatMap.mpr ⟨variant, member, ?_⟩)
  exact List.mem_map.mpr ⟨(name, kind), slot, rfl⟩

end Closure

/-- The slots a Study must fill. -/
theorem blueprint_ref_ne_null (study : StudyRevision platform) {name : String}
    (member : required name contractRef ∈ runBlueprintFields) :
    (study.revision.payload.field "run_blueprint").field name ≠ .null := by
  have held := field_source (wellFormed_runBlueprint platform.coercion) study.blueprint_stable member
  exact (held.resolve_left (by simp)).2.1

theorem goal_ref_ne_null (study : StudyRevision platform) :
    study.revision.payload.field "goal_ref" ≠ .null := by
  have held := field_source (wellFormed_studySpec platform.coercion) study.payload_stable
    (show required "goal_ref" contractRef ∈ studySpecFields by simp [studySpecFields])
  exact (held.resolve_left (by simp)).2.1

theorem scenario_ref_ne_null (study : StudyRevision platform) {reference : Json}
    (member : reference ∈ study.revision.payload.items "scenario_refs") : reference ≠ .null := by
  have stable := items_source (wellFormed_studySpec platform.coercion) study.payload_stable
    (show required "scenario_refs" (.list 0 contractRef) ∈ studySpecFields by
      simp [studySpecFields]) reference member
  exact validate_ne_null (wellFormed_contractRef _) stable

/-- What a variant selects for a slot of the blueprint. -/
def blueprintRef (payload variant : Json) (name : String) : Json :=
  orInherited ((variant.field "overrides").field name) ((payload.field "run_blueprint").field name)

section Selected

variable {study : StudyRevision platform} {left right : ContractResolver platform} {variant : Json}

section

variable {name : String} {kind : ContractType}

theorem agree_blueprintRef (agree : AgreeOn study.revision.payload left right)
    (member : variant ∈ study.revision.payload.items "variants")
    (slot : (name, kind) ∈ blueprintSlots)
    (present : blueprintRef study.revision.payload variant name ≠ .null) :
    left (blueprintRef study.revision.payload variant name) =
      right (blueprintRef study.revision.payload variant name) :=
  agree.inherited (mem_typedSlots_override member name kind (by simp [overrideSlots, slot]))
    (mem_typedSlots_blueprint slot) present

theorem resolveTyped_blueprintRef (agree : AgreeOn study.revision.payload left right)
    (member : variant ∈ study.revision.payload.items "variants")
    (slot : (name, kind) ∈ blueprintSlots)
    (declared : required name contractRef ∈ runBlueprintFields) :
    resolveTyped left (blueprintRef study.revision.payload variant name) kind =
      resolveTyped right (blueprintRef study.revision.payload variant name) kind :=
  resolveTyped_congr (agree_blueprintRef agree member slot
    (orInherited_ne_null (blueprint_ref_ne_null study declared))) kind

theorem resolvePolicy_blueprintRef (agree : AgreeOn study.revision.payload left right)
    (member : variant ∈ study.revision.payload.items "variants")
    (slot : (name, kind) ∈ blueprintSlots) :
    resolvePolicy left (blueprintRef study.revision.payload variant name) kind =
      resolvePolicy right (blueprintRef study.revision.payload variant name) kind :=
  resolvePolicy_congr (agree_blueprintRef agree member slot) kind

end

theorem resolveSelection_congr (agree : AgreeOn study.revision.payload left right)
    {scenarioRef : Json} (scenario : scenarioRef ∈ study.revision.payload.items "scenario_refs")
    (member : variant ∈ study.revision.payload.items "variants") :
    resolveSelection left (select study.revision.payload scenarioRef variant) =
      resolveSelection right (select study.revision.payload scenarioRef variant) := by
  have goal := resolveTyped_congr (agree.inherited
    (mem_typedSlots_override member "goal_ref" .goal (by simp [overrideSlots]))
    mem_typedSlots_goal (orInherited_ne_null (goal_ref_ne_null study))) .goal
  have scenario := resolveTyped_congr (agree.inherited
    (mem_typedSlots_override member "scenario_ref" .scenario (by simp [overrideSlots]))
    (mem_typedSlots_scenario scenario) (orInherited_ne_null (scenario_ref_ne_null study scenario)))
    .scenario
  have agent := resolveTyped_blueprintRef agree member
    (show ("agent_inventory_ref", .agentInventory) ∈ blueprintSlots by simp [blueprintSlots])
    (by simp [runBlueprintFields])
  have workspace := resolveTyped_blueprintRef agree member
    (show ("workspace_template_ref", .workspaceTemplate) ∈ blueprintSlots by simp [blueprintSlots])
    (by simp [runBlueprintFields])
  have interaction := resolveTyped_blueprintRef agree member
    (show ("interaction_protocol_ref", .interactionProtocol) ∈ blueprintSlots by
      simp [blueprintSlots]) (by simp [runBlueprintFields])
  have evaluation := resolveTyped_blueprintRef agree member
    (show ("evaluation_plan_ref", .evaluationPlan) ∈ blueprintSlots by simp [blueprintSlots])
    (by simp [runBlueprintFields])
  have checkpoint := resolvePolicy_blueprintRef agree member
    (show ("checkpoint_policy_ref", .checkpointPolicy) ∈ blueprintSlots by simp [blueprintSlots])
  have progress := resolvePolicy_blueprintRef agree member
    (show ("progress_artifact_policy_ref", .progressArtifactPolicy) ∈ blueprintSlots by
      simp [blueprintSlots])
  simp only [blueprintRef] at agent workspace interaction evaluation checkpoint progress
  simp only [resolveSelection, select]
  rw [goal, scenario, agent, workspace, interaction, evaluation, checkpoint, progress]

theorem materialize_congr_resolver (agree : AgreeOn study.revision.payload left right)
    (registry : ExtensionSchemaRegistry) {cell : Cell}
    (scenario : cell.scenarioRef ∈ study.revision.payload.items "scenario_refs")
    (member : cell.variant ∈ study.revision.payload.items "variants") :
    materialize ⟨left, registry⟩ study cell =
      materialize ⟨right, registry⟩ study cell := by
  simp only [materialize, resolveSelection_congr agree scenario member]

theorem bind_congr_ok {First Second : Type} {first : Except Raised First}
    {next other : First → Except Raised Second}
    (same : ∀ value, first = .ok value → next value = other value) :
    (first >>= next) = (first >>= other) := by
  cases first with
  | ok value => exact same value rfl
  | error raised => rfl

theorem validateComparison_congr_resolver (agree : AgreeOn study.revision.payload left right)
    (registry : ExtensionSchemaRegistry) {scenarioRef : Json}
    (scenario : scenarioRef ∈ study.revision.payload.items "scenario_refs") (comparison : Json) :
    validateComparison ⟨left, registry⟩ study scenarioRef comparison =
      validateComparison ⟨right, registry⟩ study scenarioRef comparison := by
  unfold validateComparison
  refine bind_congr_ok fun baselineVariant found => ?_
  rw [materialize_congr_resolver agree registry scenario (variantById_ok found).1]
  refine bind_congr_ok fun baseline _ => bind_congr_ok fun candidateVariant found => ?_
  rw [materialize_congr_resolver agree registry scenario (variantById_ok found).1]

theorem compile_congr_resolver (agree : AgreeOn study.revision.payload left right)
    (root : left study.revision.ref = right study.revision.ref)
    (registry : ExtensionSchemaRegistry) :
    compile ⟨left, registry⟩ study = compile ⟨right, registry⟩ study := by
  have head : (study.revision.payload.items "scenario_refs").headD .null ∈
      study.revision.payload.items "scenario_refs" := study.first_scenario
  have compared : validateComparisons ⟨left, registry⟩ study =
      validateComparisons ⟨right, registry⟩ study := by
    simp only [validateComparisons,
      funext (validateComparison_congr_resolver agree registry head)]
  have matrix : (cells study.revision.payload).mapM
        (materialize ⟨left, registry⟩ study) =
      (cells study.revision.payload).mapM
        (materialize ⟨right, registry⟩ study) := by
    refine Aligned.mapM_congr (List.forall₂_same.mpr fun cell member => ?_)
    obtain ⟨scenario, variant, _, _⟩ := mem_cells.mp member
    exact materialize_congr_resolver agree registry scenario variant
  simp only [compile, root, compared, matrix]

end Selected

/-! ## Resolving inside the sealed set -/

theorem resolveSealed_of_mem {revisions : List (Revision platform)}
    (distinct : (revisions.map Revision.identity).Nodup) {revision : Revision platform}
    (member : revision ∈ revisions) : resolveSealed revisions revision.ref = .ok revision := by
  have reversed : (revisions.reverse.map Revision.identity).Nodup := by
    rw [List.map_reverse, List.nodup_reverse]
    exact distinct
  have found : Table.find Revision.identity revisions.reverse (identityKey revision.ref) =
      some revision := Table.find_of_mem reversed (List.mem_reverse.mpr member)
  simp [resolveSealed, found, raiseWhen, bind, Except.bind]

theorem resolveMember_ok {resolver : ContractResolver platform} {projectId : String}
    {reference : Json} {revision : Revision platform} :
    resolveMember resolver projectId reference = .ok revision ↔
      resolver reference = .ok revision ∧ revision.ref = reference ∧
        revision.projectId = projectId := by
  simp only [resolveMember, bind_ok, raiseWhen_ok, bne_eq_false_iff_eq, Except.ok.injEq]
  constructor
  · rintro ⟨found, resolved, _, same, _, project, rfl⟩
    exact ⟨resolved, same, project⟩
  · rintro ⟨resolved, same, project⟩
    exact ⟨revision, resolved, (), same, (), project, rfl⟩

/-! ## What a sealed Study holds -/

/-- What the sealer found, from the references it collected. -/
structure SealedFrom (resolver : ContractResolver platform) (study : StudyRevision platform)
    (references : List Json) (sealed : SealedStudy platform) : Prop where
  root : resolver study.revision.ref = .ok study.revision
  collected : collectReferences study.revision = .ok references
  members : (canonicalOrder references).mapM (resolveMember resolver study.revision.projectId) =
    .ok sealed.revisions
  document : ExecutionRevisionSet.modelValidate platform
    (revisionSetDocument (.str study.revision.projectId) study.revision.ref
      (.arr (canonicalOrder references))) = .ok sealed.revisionSet
  inside : sealedContractResolver sealed.revisionSet sealed.revisions = .ok sealed.resolver

theorem sealStudy_ok {resolver : ContractResolver platform} {study : StudyRevision platform}
    {sealed : SealedStudy platform} :
    sealStudy resolver study = .ok sealed ↔
      ∃ references, SealedFrom resolver study references sealed := by
  simp only [sealStudy, bind_ok, raiseWhen_ok, bne_eq_false_iff_eq, built_ok,
    Except.ok.injEq]
  constructor
  · rintro ⟨_, root, _, rfl, references, collected, revisions, members, document, read, inner,
      inside, rfl⟩
    exact ⟨references, root, collected, members, read, inside⟩
  · rintro ⟨references, root, collected, members, read, inside⟩
    exact ⟨_, root, (), rfl, references, collected, _, members, _, read, _, inside, rfl⟩

namespace SealedFrom

variable {resolver : ContractResolver platform} {study : StudyRevision platform}
  {references : List Json} {sealed : SealedStudy platform}

theorem resolver_eq (found : SealedFrom resolver study references sealed) :
    sealed.resolver = resolveSealed sealed.revisions := by
  have inside := found.inside
  simp only [sealedContractResolver, bind_ok, Except.ok.injEq] at inside
  obtain ⟨_, _, same⟩ := inside
  exact same.symm

theorem member_of_ref (found : SealedFrom resolver study references sealed) {reference : Json}
    (member : reference ∈ canonicalOrder references) :
    ∃ revision ∈ sealed.revisions, resolver reference = .ok revision ∧ revision.ref = reference := by
  obtain ⟨revision, inside, resolved⟩ :=
    Aligned.exists_right ((mapM_except_ok _ _ _).mp found.members) member
  obtain ⟨resolved, same, _⟩ := resolveMember_ok.mp resolved
  exact ⟨revision, inside, resolved, same⟩

theorem map_ref (found : SealedFrom resolver study references sealed) :
    sealed.revisions.map Revision.ref = canonicalOrder references := by
  have aligned := (mapM_except_ok _ _ _).mp found.members
  refine List.forall₂_eq_eq_eq ▸ ?_
  rw [List.forall₂_map_left_iff]
  exact aligned.flip.imp fun revision reference resolved => (resolveMember_ok.mp resolved).2.1

theorem study_mem (found : SealedFrom resolver study references sealed) :
    study.revision.ref ∈ canonicalOrder references :=
  (collectReferences_ok found.collected _).mpr ⟨by simp [Revision.ref], Or.inl rfl⟩

theorem read (found : SealedFrom resolver study references sealed) :
    validate platform.coercion executionRevisionSet
      (revisionSetDocument (.str study.revision.projectId) study.revision.ref
        (.arr (canonicalOrder references))) = .ok sealed.revisionSet.dump :=
  (Instance.modelValidate_ok _ _ _).mp found.document

theorem project_id (found : SealedFrom resolver study references sealed) :
    sealed.revisionSet.dump.field "project_id" = .str study.revision.projectId :=
  Json.field_of_get <| get?_of_given (wellFormed_executionRevisionSet _) found.read
    (show required "project_id" nonEmptyStr ∈ executionRevisionSetFields by
      simp [executionRevisionSetFields]) rfl (by simp)
    (study.revision.text_stable (by simp [revisionFields]))

theorem study_ref (found : SealedFrom resolver study references sealed) :
    sealed.revisionSet.dump.field "study_ref" = study.revision.ref := by
  obtain ⟨result, valid, held⟩ := get?_of_read (wellFormed_executionRevisionSet _) found.read
    (show required "study_ref" contractRef ∈ executionRevisionSetFields by
      simp [executionRevisionSetFields])
    (show Json.get? _ "study_ref" = some study.revision.ref from rfl) (by simp [Revision.ref])
  rw [Json.field_of_get held, Revision.validate_ref valid]

theorem revision_refs (found : SealedFrom resolver study references sealed) :
    sealed.revisionSet.dump.get? "revision_refs" = some (.arr (canonicalOrder references)) := by
  obtain ⟨result, valid, held⟩ := get?_of_read (wellFormed_executionRevisionSet _) found.read
    (show required "revision_refs" (.list 1 contractRef) ∈ executionRevisionSetFields by
      simp [executionRevisionSetFields])
    (show Json.get? _ "revision_refs" = some (.arr (canonicalOrder references)) from rfl) (by simp)
  obtain ⟨items, dumps, same, rfl, mapped, _⟩ := validate_list valid
  cases same
  -- each reference is the reference of a revision, so it was read as it stands
  have kept : canonicalOrder references = dumps := by
    refine List.forall₂_eq_eq_eq ▸ ?_
    refine (List.forall₂_iff_zip.mpr ⟨((mapM_except_ok _ _ _).mp mapped).length_eq, ?_⟩)
    intro reference dump pair
    have read := (List.forall₂_iff_zip.mp ((mapM_except_ok _ _ _).mp mapped)).2 pair
    obtain ⟨revision, _, _, rfl⟩ := found.member_of_ref (List.of_mem_zip pair).1
    exact (Revision.validate_ref read).symm
  rw [held, kept]

theorem items_revision_refs (found : SealedFrom resolver study references sealed) :
    sealed.revisionSet.dump.items "revision_refs" = canonicalOrder references := by
  simp [Json.items, found.revision_refs]

theorem map_identity (found : SealedFrom resolver study references sealed) :
    sealed.revisions.map Revision.identity =
      (sealed.revisionSet.dump.items "revision_refs").map identityKey := by
  rw [found.items_revision_refs, ← found.map_ref, List.map_map]
  rfl

theorem distinct (found : SealedFrom resolver study references sealed) :
    (sealed.revisions.map Revision.identity).Nodup := by
  obtain ⟨_, dumped, _, shape, _, checked⟩ := validate_model sealed.revisionSet.valid
  rw [← shape] at checked
  simp only [validateClosedSet, raiseIf_bind_ok] at checked
  rw [found.map_identity]
  simpa using checked.2.1

/-- Re-sealing with a resolver that agrees on the closure gives the same seal. -/
theorem sealed_again (found : SealedFrom resolver study references sealed)
    {other : ContractResolver platform}
    (agree : ∀ reference ∈ canonicalOrder references, other reference = resolver reference) :
    SealedFrom other study references sealed := by
  refine ⟨?_, found.collected, ?_, found.document, found.inside⟩
  · rw [agree _ found.study_mem, found.root]
  · rw [← found.members]
    refine Aligned.mapM_congr (List.forall₂_same.mpr fun reference member => ?_)
    simp only [resolveMember, agree reference member]

section

variable {revisions : List (Revision platform)}

/-- The revisions of the seal, in any order, resolve the closure as the registry does. -/
theorem resolve_perm (found : SealedFrom resolver study references sealed)
    (perm : revisions.Perm sealed.revisions) :
    ∀ reference ∈ canonicalOrder references, resolveSealed revisions reference = resolver reference := by
  intro reference member
  obtain ⟨revision, inside, resolved, rfl⟩ := found.member_of_ref member
  have distinct := (perm.map Revision.identity).nodup_iff.mpr found.distinct
  rw [resolved, resolveSealed_of_mem distinct (perm.mem_iff.mpr inside)]

theorem agreeOn (found : SealedFrom resolver study references sealed)
    (perm : revisions.Perm sealed.revisions) :
    AgreeOn study.revision.payload (resolveSealed revisions) resolver := fun reference member present =>
  found.resolve_perm perm reference
    ((collectReferences_ok found.collected reference).mpr ⟨present, Or.inr member⟩)

theorem sealedContractResolver_perm (found : SealedFrom resolver study references sealed)
    (perm : revisions.Perm sealed.revisions) :
    sealedContractResolver sealed.revisionSet revisions = .ok (resolveSealed revisions) := by
  have keys := perm.map Revision.identity
  rw [found.map_identity] at keys
  simp only [sealedContractResolver, bind_ok, raiseWhen_ok]
  refine ⟨(), ?_, trivial⟩
  simp only [Bool.not_eq_false', Bool.and_eq_true, List.all_eq_true, decide_eq_true_eq]
  exact ⟨fun key => keys.mem_iff.mp, fun key => keys.mem_iff.mpr⟩

theorem compile_eq (found : SealedFrom resolver study references sealed)
    (perm : revisions.Perm sealed.revisions) (registry : ExtensionSchemaRegistry) :
    compile ⟨resolveSealed revisions, registry⟩ study =
      compile ⟨resolver, registry⟩ study :=
  compile_congr_resolver (found.agreeOn perm) (found.resolve_perm perm _ found.study_mem) registry

theorem compileExecutionRevisionSet_eq (found : SealedFrom resolver study references sealed)
    (perm : revisions.Perm sealed.revisions) :
    compileExecutionRevisionSet sealed.revisionSet revisions =
      compile ⟨resolver, .empty⟩ study := by
  have root : resolveSealed revisions study.revision.ref = .ok study.revision := by
    rw [found.resolve_perm perm _ found.study_mem, found.root]
  have again : sealStudy (resolveSealed revisions) study = .ok sealed :=
    sealStudy_ok.mpr ⟨references, found.sealed_again (found.resolve_perm perm)⟩
  have study_eq : study.revision.asStudy = .ok study := rfl
  have compiled := found.compile_eq (List.Perm.refl _) .empty
  rw [← found.resolver_eq] at compiled
  rw [← compiled]
  simp [compileExecutionRevisionSet, found.sealedContractResolver_perm perm, found.study_ref, root,
    study_eq, found.project_id, again, raiseWhen, bind, Except.bind]

/-- A trust record with the revision set of a seal. -/
theorem validateExecutionTrustLineage_eq (found : SealedFrom resolver study references sealed)
    {record : ExecutionTrustRecord platform}
    (bound : ∀ name ∈ ["project_id", "study_ref", "revision_refs"],
      record.dump.field name = sealed.revisionSet.dump.field name)
    (perm : revisions.Perm sealed.revisions) (runSpec : RunSpec platform)
    (specs : List (RunSpec platform)) :
    validateExecutionTrustLineage record runSpec revisions = .ok specs ↔
      compile ⟨resolver, .empty⟩ study = .ok specs ∧
        digestOf platform runSpec = (record.dump.field "run_spec_digest").asString ∧
        Table.find (digestOf platform) specs.reverse (digestOf platform runSpec) = some runSpec := by
  have document : ExecutionRevisionSet.modelValidate platform
      (revisionSetDocument (record.dump.field "project_id") (record.dump.field "study_ref")
        (record.dump.field "revision_refs")) = .ok sealed.revisionSet := by
    rw [bound "project_id" (by simp), bound "study_ref" (by simp), bound "revision_refs" (by simp),
      found.project_id, found.study_ref, Json.field_of_get found.revision_refs]
    exact found.document
  simp only [validateExecutionTrustLineage, document, bind_ok, raiseWhen_ok, built_ok,
    Except.ok.injEq]
  constructor
  · rintro ⟨_, rfl, compiled, same, _, checked, rfl⟩
    rw [found.compileExecutionRevisionSet_eq perm] at same
    simp only [Bool.or_eq_false_iff, bne_eq_false_iff_eq] at checked
    exact ⟨same, checked.1, by rw [checked.1]; exact checked.2⟩
  · rintro ⟨compiled, digest, located⟩
    refine ⟨sealed.revisionSet, rfl, specs, ?_, (), ?_, rfl⟩
    · rw [found.compileExecutionRevisionSet_eq perm, compiled]
    · simp [← digest, located]

end

end SealedFrom

/-- No two of the RunSpecs have different content under one digest. -/
def CollisionFree (specs : List (RunSpec platform)) : Prop :=
  ∀ spec ∈ specs, ∀ other ∈ specs, digestOf platform spec = digestOf platform other →
    spec.semanticDocument = other.semanticDocument

theorem find_digest_iff {specs : List (RunSpec platform)} (free : CollisionFree specs)
    (runSpec : RunSpec platform) :
    Table.find (digestOf platform) specs.reverse (digestOf platform runSpec) = some runSpec ↔
      runSpec ∈ specs := by
  constructor
  · intro located
    exact List.mem_reverse.mp (Table.find_mem located)
  · intro member
    cases located : Table.find (digestOf platform) specs.reverse (digestOf platform runSpec) with
    | none =>
        exact absurd rfl (Table.find_eq_none.mp located runSpec (List.mem_reverse.mpr member))
    | some other =>
        have inside := List.mem_reverse.mp (Table.find_mem located)
        have same := free other inside runSpec member (Table.find_key located)
        exact congrArg some (restores_runSpec.instance_ext (wellFormed_runSpec _) same)

end Sealing

end Evidrun.Contracts
