import Evidrun.Database.Ledger

/-!
# Evaluation records

The writers of evaluation records and of the Grades projected from them
(`evaluation/records.py`), with the boundary checks of `evidence_boundary.py`.
`save_deterministic_evaluation` commits a record, its Grade and its
`evaluation.completed` event together; `save_evaluation_record` commits a record
alone and never looks at the status of the Run.
-/

namespace Evidrun.Database

open JsonText DocumentSchema Evidrun.Contracts

set_option autoImplicit false

/-- The event of a Run at a position that a document names. -/
def boundaryEvent? (store : Store) (runId : String) : Json → Option RunEventRow
  | .int (.ofNat sequence) => store.eventAt? runId sequence
  | _ => none

def checkpointOf? (store : Store) (boundary : Json) : Option CheckpointRecordRow :=
  match boundary.field "checkpoint_id" with
  | .str id => store.checkpoint? id
  | _ => none

/-! ## Boundaries -/

def validateEvidenceBoundary (store : Store) (runId : String) (sequence eventHash : Json) :
    Except Exc Unit :=
  if sequence = .null ∧ eventHash = .null then .ok ()
  else do
    require (sequence != .null && eventHash != .null)
      (.valueError "event boundary requires sequence and hash")
    require ((boundaryEvent? store runId sequence).any fun event => .str event.eventHash == eventHash)
      (.valueError "event boundary does not match the Run ledger")

def validateEvaluationBoundary (store : Store) (runId : String) (boundary : Json) :
    Except Exc Unit :=
  if boundary.field "checkpoint_id" = .null then .ok ()
  else require ((checkpointOf? store boundary).any fun row => row.runId == runId)
    (.valueError "evaluation checkpoint boundary does not belong to the Run")

/-- Check the boundary satisfies the stage trigger; the result is the evidence ceiling. -/
def validateTriggerBoundary (platform : Platform) (store : Store) (runId : String)
    (record stage : Json) : Except Exc Nat := do
  let boundary := record.field "boundary"
  let event := boundaryEvent? store runId (boundary.field "up_to_event_sequence")
  let checkpoint := checkpointOf? store boundary
  let trigger := stage.field "trigger"
  if trigger.field "kind" = .str "event" then
    require (event.any fun row => .str row.eventType.text == trigger.field "reference")
      (.valueError "evaluation boundary does not satisfy its event trigger")
  else if trigger.field "kind" = .str "checkpoint" then
    let row ← orRaise checkpoint
      (.valueError "evaluation checkpoint trigger requires a checkpoint boundary")
    if trigger.field "reference" ≠ .null then
      let read ← validated (CheckpointRecord.modelValidate platform row.recordJson.document)
      require (read.dump.field "definition_id" == trigger.field "reference")
        (.valueError "evaluation boundary does not satisfy its checkpoint trigger")
  else if trigger.field "kind" = .str "run_terminal" then
    require (event.any fun row => terminalEvent row.eventType)
      (.valueError "run-terminal evaluation requires a terminal event boundary")
  .ok (match event, checkpoint with
    | some row, _ => row.sequence
    | none, some row => row.upToEventSequence
    | none, none => 0)

/-! ## Evidence refs -/

/-- `ref.split(":", 1)`. -/
def splitRef (ref : String) : String × String :=
  let scheme := ref.toList.takeWhile (· != ':')
  (String.ofList scheme, String.ofList (ref.toList.drop (scheme.length + 1)))

/-- No evidence from another Run or past the boundary. -/
def checkEvidenceRef (store : Store) (runId : String) (ceiling : Nat) (evidence : Json) :
    Except Exc Unit := do
  let (scheme, target) := splitRef (evidence.field "ref").asString
  require (scheme != "run" || target == runId)
    (.valueError "evaluation evidence references a different Run")
  require (scheme != "event" || (store.event? target).any fun event =>
      event.runId == runId && decide (event.sequence ≤ ceiling))
    (.valueError "evaluation evidence event is outside its authorized boundary")

def validateEvidenceRefs (store : Store) (runId : String) (record : Json) (ceiling : Nat) :
    Except Exc Unit :=
  (record.items "dimension_values").forM fun dimension =>
    (dimension.items "evidence_refs").forM (checkEvidenceRef store runId ceiling)

/-! ## Relations between records -/

/-- The ledger position up to which a related record was made. -/
def relatedBoundarySequence (store : Store) (runId : String) (related : Json) :
    Except Exc Nat :=
  let boundary := related.field "boundary"
  match boundary.field "up_to_event_sequence" with
  | .int (.ofNat sequence) => .ok sequence
  | _ => do
      let unverifiable := Exc.valueError "related evaluation record has an unverifiable boundary"
      let checkpoint ← orRaise (checkpointOf? store boundary) unverifiable
      require (checkpoint.runId == runId) unverifiable
      .ok checkpoint.upToEventSequence

/-- A record that another one builds on: it belongs to the Run and reads back. -/
def relatedRecord (platform : Platform) (store : Store) (runId outside : String) (ref : Json) :
    Except Exc Json := do
  let row ← orRaise (store.evaluation? ref.asString) (.valueError outside)
  require (row.runId == runId) (.valueError outside)
  readEvaluation platform row

def collectTarget (platform : Platform) (store : Store) (runId : String) (record ref : Json) :
    Except Exc Nat := do
  let target ← relatedRecord platform store runId
    "human adjudication target must belong to the same Run" ref
  require (target.field "plan_ref" == record.field "plan_ref" &&
      target.field "stage_id" == record.field "stage_id")
    (.valueError "human adjudication target must use the same plan and stage")
  relatedBoundarySequence store runId target

def collectConsidered (platform : Platform) (store : Store) (runId : String) (ref : Json) :
    Except Exc Nat := do
  let considered ← relatedRecord platform store runId
    "human review can only consider records from the same Run" ref
  relatedBoundarySequence store runId considered

/-- The boundaries of the records that a human adjudication or review builds on. -/
def collectRelatedRecords (platform : Platform) (store : Store) (runId : String)
    (record plan : Json) : Except Exc (List Nat) :=
  let relation := record.field "relation"
  if record.field "source_type" = .str "human_adjudicator" then do
    require (relation.field "kind" == .str "adjudicates")
      (.valueError "human adjudication requires explicit target records")
    let policy := plan.field "human_adjudication_policy"
    let attestation := record.field "human_attestation"
    require (policy.field "required" == .bool true &&
        decide (record.field "stage_id" ∈ policy.items "adjudicable_stage_ids") &&
        record.field "evaluator_ref" == policy.field "adjudicator_ref" &&
        attestation != .null &&
        attestation.field "verifier_ref" == policy.field "attestation_verifier_ref")
      (.valueError "human adjudication is not authorized by the EvaluationPlan")
    (relation.items "target_record_refs").mapM (collectTarget platform store runId record)
  else if record.field "source_type" = .str "human_reviewer" then do
    require (relation.field "kind" == .str "independent_review")
      (.valueError "human review requires an independent review relation")
    (relation.items "considers_record_refs").mapM (collectConsidered platform store runId)
  else .ok []

/-- A human record does not claim knowledge of a later ledger prefix. -/
def validateHumanRelationBoundary (record : Json) (ceiling : Nat) (related : List Nat) :
    Except Exc Unit :=
  require ((record.field "source_type" != .str "human_reviewer" &&
      record.field "source_type" != .str "human_adjudicator") || related.all (· ≤ ceiling))
    (.valueError "human evaluation relation references a record outside its boundary")

/-- A stage behind a failed hard gate, or already recorded, accepts nothing new. -/
def validateStageAvailability (platform : Platform) (store : Store) (runId : String)
    (record plan : Json) : Except Exc Unit := do
  let priorRows := (store.evaluations.filter fun row => row.runId = runId).insertionSort
    fun left right => left.id ≤ right.id
  let priorRecords ← priorRows.mapM (readEvaluation platform)
  let adjudicator := record.field "source_type" == .str "human_adjudicator"
  require (!(adjudicator && priorRecords.any fun prior =>
      prior.field "stage_id" == record.field "stage_id" &&
        prior.field "source_type" == .str "human_adjudicator"))
    (.valueError "v1 permits only one human adjudication per stage")
  let gates ← valueChecked (EvaluationValidator.gateResults plan priorRecords)
  require (record.field "stage_id" ∈ EvaluationValidator.stagesVisibleAfterGates plan gates)
    (.valueError "evaluation stage is blocked by a failed hard gate")
  require (adjudicator || !priorRows.any fun prior =>
      .str prior.stageId == record.field "stage_id" &&
        .str prior.sourceType == record.field "source_type")
    (.valueError "evaluation stage already has a record from this source type")

/-! ## Rows of a record -/

def evaluationRow (platform : Platform) (record : EvaluationRecord platform) :
    EvaluationRecordRow where
  id := (record.dump.field "record_id").asString
  runId := (record.dump.field "run_id").asString
  sourceType := (record.dump.field "source_type").asString
  stageId := (record.dump.field "stage_id").asString
  recordJson := .write record.semanticDocument
  recordDigest := digestOf platform record

/-- The record of a stage of a Run from a source type. -/
def stageRecord? (store : Store) (wanted : EvaluationRecordRow) : Option EvaluationRecordRow :=
  store.evaluations.find? fun row =>
    row.runId = wanted.runId && row.stageId = wanted.stageId && row.sourceType = wanted.sourceType

/-! ## Grades -/

structure Grade where
  score : FloatText
  passed : Bool
  rationale : String
  evidence : List String

def Grade.evidenceJson (grade : Grade) : CanonicalText := .write (.arr (grade.evidence.map .str))

def Grade.stored (grade : Grade) (row : GradeRow) : Bool :=
  floatValue row.score == floatValue grade.score && row.passed == grade.passed &&
    row.rationale == grade.rationale && row.evidenceJson.text == grade.evidenceJson.text

/-- Write the Grade of a Run and grader, refusing to overwrite a different one. -/
def upsertGrade (platform : Platform) (runId graderId : String) (grade : Grade)
    (createdAt : Time) (store : Store) : Except Exc (GradeRow × Store) :=
  match store.grades.find? fun row => row.runId = runId && row.graderId = graderId with
  | some row => do
      require (grade.stored row)
        (.valueError "a different Grade already exists for this Run/grader")
      .ok (row, store)
  | none => do
      let (id, store) := newId platform "grade" store
      let row : GradeRow :=
        { id := id
          runId := runId
          graderId := graderId
          score := grade.score
          passed := grade.passed
          rationale := grade.rationale
          evidenceJson := grade.evidenceJson
          createdAt := createdAt }
      let store ← store.insertGrade row
      .ok (row, store)

def saveGrade (platform : Platform) (runId graderId : String) (grade : Grade)
    (lease : Option LeaseFence) (clock : Nat → Time) (store : Store) : Outcome GradeRow :=
  transact (fun store => do
    validateOptionalLease store lease runId (clock 0)
    upsertGrade platform runId graderId grade (clock 1) store) store

/-! ## `save_evaluation_record` -/

/-- How the installed verifier judges an attestation for a subject digest. -/
abbrev AttestationVerifier := Json → String → Except Exc Unit

/-- A human record has its attestation verified before the transaction that writes it. -/
def verifyHuman (platform : Platform) (verifier : AttestationVerifier) (record : Json) :
    Except Exc Unit :=
  if record.field "source_type" = .str "human_reviewer" ∨
      record.field "source_type" = .str "human_adjudicator" then do
    require (record.field "human_attestation" != .null)
      (.valueError "human evaluation requires attestation evidence")
    verifier (record.field "human_attestation") (humanSubjectDigest platform record)
  else .ok ()

/-- The RunSpec that a record's plan belongs to. -/
def specForRecord (platform : Platform) (store : Store) (runId : String) (record : Json) :
    Except Exc Json := do
  let run ← orRaise (store.run? runId) (.keyError ("Run not found: " ++ runId))
  let specRow ← runSpecRowOf store run "legacy Run does not have an EvaluationPlanRevision"
    "Run references a missing RunSpec"
  let spec ← readRunSpec platform specRow
  require (spec.field "evaluation_plan_ref" == record.field "plan_ref")
    (.valueError "evaluation plan does not belong to the RunSpec")
  .ok spec

/-- The stage of a plan that a record is for. -/
def validatedStage (plan record : Json) : Except Exc Json := do
  valueChecked (EvaluationValidator.validate plan record)
  orRaise (EvaluationValidator.stageOf plan (record.field "stage_id"))
    (.valueError "evaluation record references an unknown stage")

def saveEvaluationRecordBody (platform : Platform) (verifier : AttestationVerifier)
    (record : EvaluationRecord platform) (lease : Option LeaseFence) (clock : Nat → Time)
    (store : Store) : Except Exc (EvaluationRecordRow × Store) := do
  let row := evaluationRow platform record
  let runId := row.runId
  let dump := record.dump
  validateOptionalLease store lease runId (clock 0)
  match stageRecord? store row with
  | some existing => do
      require (existing.id == row.id && existing.recordDigest == row.recordDigest)
        (.valueError "evaluation stage already has a different record from this source type")
      .ok (existing, store)
  | none => do
      verifyHuman platform verifier dump
      let boundary := dump.field "boundary"
      validateEvaluationBoundary store runId boundary
      validateEvidenceBoundary store runId (boundary.field "up_to_event_sequence")
        (boundary.field "event_hash")
      validateOptionalLease store lease runId (clock 1)
      let spec ← specForRecord platform store runId dump
      let plan := spec.field "evaluation_plan"
      let stage ← validatedStage plan dump
      let ceiling ← validateTriggerBoundary platform store runId dump stage
      validateEvidenceRefs store runId dump ceiling
      match store.evaluations.find? fun other => other.recordDigest = row.recordDigest with
      | some existing => .ok (existing, store)
      | none => do
          let related ← collectRelatedRecords platform store runId dump plan
          validateHumanRelationBoundary dump ceiling related
          validateStageAvailability platform store runId dump plan
          let store ← store.insertEvaluation row
          .ok (row, store)

def saveEvaluationRecord (platform : Platform) (verifier : AttestationVerifier)
    (record : EvaluationRecord platform) (lease : Option LeaseFence) (clock : Nat → Time)
    (store : Store) : Outcome EvaluationRecordRow :=
  transact (saveEvaluationRecordBody platform verifier record lease clock) store

/-! ## `save_deterministic_evaluation` -/

/-- Insert the record, or find the identical one already stored for its stage. -/
def upsertDeterministicRecord (row : EvaluationRecordRow) (store : Store) :
    Except Exc (EvaluationRecordRow × Store) :=
  match stageRecord? store row with
  | some existing => do
      require (existing.id == row.id && existing.recordDigest == row.recordDigest &&
          existing.recordJson.text == row.recordJson.text)
        (.valueError "evaluation stage already has a different deterministic record")
      .ok (existing, store)
  | none => do
      let store ← store.insertEvaluation row
      .ok (row, store)

def evaluationCompletedRequest (platform : Platform) (record : EvaluationRecord platform) :
    OnceRequest :=
  let row := evaluationRow platform record
  { eventType := .evaluationCompleted
    payload := .obj [("evaluation_record_id", .str row.id),
      ("evaluation_record_digest", .str row.recordDigest),
      ("gate_status", record.dump.field "gate_status")]
    operationKey := "evaluation:" ++ row.stageId ++ ":completed"
    allowedStatuses := [.evaluating] }

/-- The event a deterministic record is bounded by, which must trigger its stage. -/
def triggeringEvent (store : Store) (runId : String) (record stage : Json) :
    Except Exc RunEventRow := do
  let boundary := record.field "boundary"
  let trigger := stage.field "trigger"
  let unsatisfied := Exc.valueError "evaluation boundary does not satisfy its event trigger"
  let event ← orRaise (boundaryEvent? store runId (boundary.field "up_to_event_sequence"))
    unsatisfied
  require (.str event.eventHash == boundary.field "event_hash" &&
      trigger.field "kind" == .str "event" &&
      .str event.eventType.text == trigger.field "reference")
    unsatisfied
  .ok event

/-- The RunSpec of an evaluating Run, exact and with the record's plan. -/
def evaluatingSpec (platform : Platform) (store : Store) (runId : String) (record : Json) :
    Except Exc Json := do
  let notEvaluating := Exc.valueError "deterministic evaluation requires an evaluating Run"
  let run ← orRaise (store.run? runId) notEvaluating
  let specId ← orRaise run.runSpecId notEvaluating
  require (run.status == .evaluating) notEvaluating
  let specRow ← orRaise (store.runSpec? specId) (.valueError "Run references a missing RunSpec")
  let spec ← validated (RunSpec.modelValidate platform specRow.specJson.document)
  require (digestOf platform spec == specRow.digest &&
      spec.dump.field "evaluation_plan_ref" == record.field "plan_ref")
    (.valueError "evaluation plan does not belong to the RunSpec")
  .ok spec.dump

def saveDeterministicEvaluationBody (platform : Platform) (record : EvaluationRecord platform)
    (grade : Grade) (lease : LeaseFence) (clock : Nat → Time) (store : Store) :
    Except Exc (EvaluationRecordRow × Store) := do
  let row := evaluationRow platform record
  let dump := record.dump
  require (dump.field "source_type" == .str "deterministic_grader")
    (.valueError "atomic built-in evaluation requires a deterministic grader")
  validateOptionalLease store (some lease) row.runId (clock 0)
  let spec ← evaluatingSpec platform store row.runId dump
  let stage ← validatedStage (spec.field "evaluation_plan") dump
  require ((dump.field "boundary").field "up_to_event_sequence" != .null)
    (.valueError "deterministic evaluation requires an event boundary")
  let event ← triggeringEvent store row.runId dump stage
  validateEvidenceRefs store row.runId dump event.sequence
  let (evaluationRow, store) ← upsertDeterministicRecord row store
  let (_, store) ← upsertGrade platform row.runId row.stageId grade (clock 1) store
  let (_, store) ← appendEventOnce platform row.runId (evaluationCompletedRequest platform record)
    (clock 2) store
  .ok (evaluationRow, store)

def saveDeterministicEvaluation (platform : Platform) (record : EvaluationRecord platform)
    (grade : Grade) (lease : LeaseFence) (clock : Nat → Time) (store : Store) :
    Outcome EvaluationRecordRow :=
  transact (saveDeterministicEvaluationBody platform record grade lease clock) store

end Evidrun.Database
