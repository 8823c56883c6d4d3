import Evidrun.Contracts.ExecutionTrust

/-!
# Fields of a RunSpec

The parts of a RunSpec are contracts of their own: what a dump holds is read again
unchanged, and its texts are trimmed.
-/

namespace Evidrun.Contracts

open JsonText DocumentSchema

set_option autoImplicit false

variable {platform : Platform} {coercion : Coercion}

def inputBindings (spec : Json) : List Json := (spec.field "scenario").items "input_bindings"

def inventoryOf (spec : Json) : Json := spec.field "agent_inventory"

def capabilityRequirements (spec : Json) : List Json :=
  (inventoryOf spec).items "capability_requirements"

theorem validate_text_iff {text : String} :
    validate coercion nonEmptyStr (.str text) = .ok (.str text) ↔ Trimmed text := by
  simp only [nonEmptyStr, validate, Scalar.parse, if_true, Trimmed]
  constructor
  · intro read
    split_ifs at read with blank
    have same : strip text = text := by simpa using read
    exact ⟨same, same ▸ blank⟩
  · rintro ⟨same, given⟩
    rw [same, if_neg given]

/-- A text of a contract. -/
theorem trimmed_of_stable {value : Json} (stable : validate coercion nonEmptyStr value = .ok value) :
    Trimmed value.asString := by
  rw [str_of_nonEmptyStr stable] at stable
  exact validate_text_iff.mp stable

namespace RunSpec

variable (spec : RunSpec platform)

theorem inventory_stable :
    validate platform.coercion agentInventorySpec (inventoryOf spec.dump) =
      .ok (inventoryOf spec.dump) :=
  field_stable (wellFormed_runSpec platform.coercion) spec.valid
    (show required "agent_inventory" agentInventorySpec ∈ _ by simp) (by simp)

theorem workspace_stable :
    validate platform.coercion workspaceTemplateSpec (spec.dump.field "workspace") =
      .ok (spec.dump.field "workspace") :=
  field_stable (wellFormed_runSpec platform.coercion) spec.valid
    (show required "workspace" workspaceTemplateSpec ∈ _ by simp) (by simp)

theorem scenario_stable :
    validate platform.coercion scenarioSpec (spec.dump.field "scenario") =
      .ok (spec.dump.field "scenario") :=
  field_stable (wellFormed_runSpec platform.coercion) spec.valid
    (show required "scenario" scenarioSpec ∈ _ by simp) (by simp)

theorem protocol_stable :
    validate platform.coercion interactionProtocolSpec (spec.dump.field "interaction_protocol") =
      .ok (spec.dump.field "interaction_protocol") :=
  field_stable (wellFormed_runSpec platform.coercion) spec.valid
    (show required "interaction_protocol" interactionProtocolSpec ∈ _ by simp) (by simp)

theorem plan_stable :
    validate platform.coercion evaluationPlanSpec (spec.dump.field "evaluation_plan") =
      .ok (spec.dump.field "evaluation_plan") :=
  field_stable (wellFormed_runSpec platform.coercion) spec.valid
    (show required "evaluation_plan" evaluationPlanSpec ∈ _ by simp) (by simp)

theorem requirement_stable {requirement : Json}
    (member : requirement ∈ capabilityRequirements spec.dump) :
    validate platform.coercion capabilityRequirement requirement = .ok requirement :=
  items_source (wellFormed_agentInventorySpec platform.coercion) spec.inventory_stable
    (show tuple "capability_requirements" capabilityRequirement ∈ _ by simp) requirement member

theorem binding_stable {binding : Json} (member : binding ∈ inputBindings spec.dump) :
    validate platform.coercion inputBinding binding = .ok binding :=
  items_source (wellFormed_scenarioSpec platform.coercion) spec.scenario_stable
    (show required "input_bindings" (.list 0 inputBinding) ∈ _ by simp) binding member

end RunSpec

end Evidrun.Contracts
