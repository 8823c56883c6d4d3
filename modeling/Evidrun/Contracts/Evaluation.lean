import Evidrun.Contracts.Runtime

/-!
# Evaluation validator

How an evaluation record is checked against its plan, and how the gate results
of a plan are projected from records (`evidrun.contracts.evaluation`). Plans and
records are the dumps of their contracts.
-/

namespace Evidrun.Contracts

open JsonText DocumentSchema

set_option autoImplicit false

namespace EvaluationValidator

/-- The value of an integer or a float. -/
def numberValue : Json → Option Rat
  | .int value => some value
  | .float value => some (floatValue value)
  | _ => none

/-- `str(value)` of a string, an integer, a float or a boolean. -/
def pyStr : Json → String
  | .str value => value
  | .int value => String.ofList (writeInt value)
  | .float value => String.ofList value.chars
  | .bool true => "True"
  | .bool false => "False"
  | _ => ""

def validateDimensionValue (dimension observation : Json) : Except String Unit :=
  let value := observation.field "value"
  if dimension.field "value_type" = .str "boolean" then
    match value with
    | .bool _ => .ok ()
    | _ => .error "boolean evaluation dimension requires a boolean value"
  else if dimension.field "value_type" = .str "number" then
    match numberValue value with
    | none => .error "numeric evaluation dimension requires a number"
    | some number => do
        raiseIf ((numberValue (dimension.field "minimum")).any (number < ·))
          "evaluation value is below the dimension minimum"
        raiseIf ((numberValue (dimension.field "maximum")).any (· < number))
          "evaluation value is above the dimension maximum"
  else
    match value with
    | .str text =>
        let categories := (dimension.items "anchors").map fun anchor => pyStr (anchor.field "value")
        raiseIf (!categories.isEmpty && text ∉ categories)
          "evaluation category is not declared by an anchor"
    | _ => .error "category evaluation dimension requires a string value"

/-- The source type that the records of a stage kind come from. -/
def expectedSource (kind : Json) : Json :=
  match kind with
  | .str "integrity" => .str "deterministic_grader"
  | .str "deterministic_grader" => .str "deterministic_grader"
  | .str "model_judge" => .str "model_judge"
  | .str "human_review" => .str "human_reviewer"
  | _ => .null

def stageOf (plan : Json) (stageId : Json) : Option Json :=
  (plan.items "stages").find? fun stage => stage.field "id" = stageId

def dimensionOf (plan : Json) (dimensionId : Json) : Option Json :=
  (plan.items "dimensions").find? fun dimension => dimension.field "id" = dimensionId

def sameMembers (left right : List Json) : Bool :=
  left.all (· ∈ right) && right.all (· ∈ left)

def validate (plan record : Json) : Except String Unit :=
  match stageOf plan (record.field "stage_id") with
  | none => .error "evaluation record references an unknown stage"
  | some stage => do
      if record.field "source_type" ≠ .str "human_adjudicator" then
        raiseIf (record.field "source_type" != expectedSource (stage.field "kind"))
          "evaluation source type does not match its plan stage"
        raiseIf (record.field "evaluator_ref" != stage.field "evaluator_ref")
          "evaluation record substituted the planned evaluator"
      raiseIf (!sameMembers (column record "dimension_values" "dimension_id")
          (stage.items "output_dimensions"))
        "evaluation record does not cover the stage output dimensions"
      (record.items "dimension_values").forM fun value =>
        match dimensionOf plan (value.field "dimension_id") with
        | some dimension => validateDimensionValue dimension value
        | none => .error "KeyError"

/-- Gates with explicit adjudication precedence, independent of order. -/
def gateResults (plan : Json) (records : List Json) : Except String (List (Json × Json)) := do
  let results ← (plan.items "stages").mapM fun stage => do
    let stageRecords := records.filter fun record => record.field "stage_id" = stage.field "id"
    let (adjudications, primaryRecords) := stageRecords.partition fun record =>
      record.field "source_type" = .str "human_adjudicator"
    raiseIf (1 < adjudications.length) "ambiguous human adjudication precedence in records"
    raiseIf (1 < primaryRecords.length) "ambiguous primary evaluation precedence in records"
    .ok ((adjudications ++ primaryRecords).head?.map fun record =>
      (stage.field "id", record.field "gate_status"))
  .ok (results.filterMap id)

/-- The ids of the stages up to the first hard gate that did not pass. -/
def visibleAfterGates (results : List (Json × Json)) : List Json → List Json
  | [] => []
  | stage :: rest =>
      let passed := match results.lookup (stage.field "id") with
        | some (.str "passed") => true
        | some (.str "not_applicable") => true
        | _ => false
      if stage.field "hard_gate" = .bool true ∧ passed = false then [stage.field "id"]
      else stage.field "id" :: visibleAfterGates results rest

def stagesVisibleAfterGates (plan : Json) (results : List (Json × Json)) : List Json :=
  visibleAfterGates results (plan.items "stages")

end EvaluationValidator

end Evidrun.Contracts
