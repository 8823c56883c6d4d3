import Evidrun.Lib.JsonText
import Evidrun.Lib.Table
import Mathlib.Algebra.Order.Ring.Rat
import Mathlib.Data.List.Dedup

/-!
# Lab read repository

Which rows a Lab session sees: the scope that a session is created with
(`evidrun.infrastructure.database.lab`) and the scoped queries behind the read tools
(`evidrun.lab.tools.read_repository`). A column that holds a document is given as the
document, and the Project of a revision is the column that its document was written with.
-/

namespace Evidrun.Lab.Reads

open JsonText

set_option autoImplicit false

/-! ## Tables -/

structure ProjectRow where
  id : String
  workspaceId : String

/-- A `ContractRef`; the references that the repository follows name Study revisions. -/
structure Reference where
  logicalId : String
  revision : Int
  digest : String
deriving DecidableEq

structure ContractRevisionRow extends Reference where
  id : String
  contractType : String
  projectId : String
  status : String
  document : Json

structure ExperimentRevisionRow where
  id : String
  projectId : String

/-- A RunSpec is stored with the logical id of the Study it was compiled from. -/
structure RunSpecRow where
  id : String
  studyLogicalId : String
  studyRef : Reference
  /-- The scenario, the goal, the agent inventory and the evaluation plan. -/
  otherRefs : List Reference
  compiledFrom : studyLogicalId = studyRef.logicalId

structure RunRow where
  id : String
  experimentRevisionId : Option String
  runSpecId : Option String
  admissionId : Option String
  status : String
  variantId : String
  runner : String
  createdAt : Int
  completedAt : Option Int

structure RunEventRow where
  runId : String
  sequence : Nat
  eventType : String
  classification : String
  payload : Json

structure GradeRow where
  runId : String
  graderId : String
  score : Rat

structure ComparisonRow where
  id : String
  experimentRevisionId : String
  baselineRunId : String
  candidateRunId : String
  primaryVariable : String
  validity : String
  delta : Rat

/-- The tables, with their primary keys. -/
structure LabTables where
  workspaces : List String
  projects : List ProjectRow
  revisions : List ContractRevisionRow
  experiments : List ExperimentRevisionRow
  specs : List RunSpecRow
  runs : List RunRow
  events : List RunEventRow
  grades : List GradeRow
  comparisons : List ComparisonRow
  revisionKeys : (revisions.map ContractRevisionRow.id).Nodup
  specKeys : (specs.map RunSpecRow.id).Nodup
  runKeys : (runs.map RunRow.id).Nodup
  comparisonKeys : (comparisons.map ComparisonRow.id).Nodup

inductive FocusKind
  | study | run | comparison
deriving DecidableEq

/-- A scope has a focus only inside a Project. -/
structure SessionScope where
  workspaceId : String
  projectId : Option String
  focus : Option (FocusKind × String)

inductive Rejection
  | targetNotVisible (field : String)
  | classificationGrantRequired (field : String)
  | scopeProjectRequired
deriving DecidableEq

inductive ReadFault
  | rejected (rejection : Rejection)
  | keyError
  | valueError (reason : String)
deriving DecidableEq

namespace LabTables

variable (tables : LabTables)

def project? (id : String) : Option ProjectRow := Table.find ProjectRow.id tables.projects id

def revision? (id : String) : Option ContractRevisionRow :=
  Table.find ContractRevisionRow.id tables.revisions id

def experiment? (id : String) : Option ExperimentRevisionRow :=
  Table.find ExperimentRevisionRow.id tables.experiments id

def spec? (id : String) : Option RunSpecRow := Table.find RunSpecRow.id tables.specs id

def run? (id : String) : Option RunRow := Table.find RunRow.id tables.runs id

def comparison? (id : String) : Option ComparisonRow :=
  Table.find ComparisonRow.id tables.comparisons id

/-- The stored Study revision with the identity of a reference, whatever its digest. -/
def study? (reference : Reference) : Option ContractRevisionRow :=
  tables.revisions.find? fun row =>
    row.contractType = "study" && row.logicalId = reference.logicalId &&
      row.revision = reference.revision

/-! ## The scope of a session -/

/-- The Projects that a Run is attributed to when a session is focused on it. -/
def runProjects (run : RunRow) : List String :=
  ((run.experimentRevisionId.bind tables.experiment?).map ExperimentRevisionRow.projectId).toList ++
    (((run.runSpecId.bind tables.spec?).bind fun spec => tables.study? spec.studyRef).map
      ContractRevisionRow.projectId).toList

/-- The Project of a focus; none where the session is refused as not visible. -/
def projectForFocus : FocusKind × String → Option String
  | (.study, id) => do
      let study ← tables.revision? id
      if study.contractType = "study" then some study.projectId else none
  | (.comparison, id) => do
      let comparison ← tables.comparison? id
      let revision ← tables.experiment? comparison.experimentRevisionId
      some revision.projectId
  | (.run, id) => do
      let run ← tables.run? id
      match (tables.runProjects run).dedup with
      | [projectId] => some projectId
      | _ => none

/-- The scopes that `create_session` accepts. -/
def validateScope (scope : SessionScope) : Bool :=
  scope.workspaceId ≠ "" && scope.workspaceId ∈ tables.workspaces &&
    match scope.projectId with
    | none => scope.focus.isNone
    | some projectId =>
        (tables.project? projectId).any (·.workspaceId = scope.workspaceId) &&
          scope.focus.all fun focus => tables.projectForFocus focus = some projectId

/-! ## The Project of a Run -/

/-- `project_id_for_run`: the Study of the RunSpec, else the experiment. -/
def projectIdForRun (run : RunRow) : Except ReadFault String :=
  match run.runSpecId with
  | none =>
      match run.experimentRevisionId with
      | none => .error (.valueError "Run has no project-bearing contract")
      | some id =>
          match tables.experiment? id with
          | none => .error .keyError
          | some experiment => .ok experiment.projectId
  | some id =>
      match tables.spec? id with
      | none => .error .keyError
      | some spec =>
          match tables.study? spec.studyRef with
          | none => .error .keyError
          | some study =>
              if study.digest = spec.studyRef.digest then .ok study.projectId
              else .error (.valueError "stored contract does not match its reference")

/-- A missing contract is answered like a missing Run. -/
def resolveRun (run : RunRow) : Except ReadFault String :=
  match tables.projectIdForRun run with
  | .error .keyError => .error (.rejected (.targetNotVisible "run_id"))
  | answer => answer

def projectRequired (scope : SessionScope) : Except ReadFault String :=
  match scope.projectId with
  | none => .error (.rejected .scopeProjectRequired)
  | some projectId => .ok projectId

/-- A target of another Project or Workspace is refused like an absent one. -/
def requireProject (scope : SessionScope) (target field : String) : Except ReadFault Unit := do
  let projectId ← projectRequired scope
  if target = projectId then .ok () else .error (.rejected (.targetNotVisible field))

/-! ## The focus -/

/-- The condition that `_apply_focus_to_runs` adds to a query. -/
def inFocus (scope : SessionScope) (run : RunRow) : Bool :=
  match scope.focus with
  | none => true
  | some (.run, id) => run.id = id
  | some (.comparison, id) =>
      tables.comparisons.any fun row =>
        row.id = id && (row.baselineRunId = run.id || row.candidateRunId = run.id)
  | some (.study, id) =>
      tables.specs.any fun spec => run.runSpecId = some spec.id && spec.studyLogicalId = id

def focusAllowsRevision (scope : SessionScope) (revision : ContractRevisionRow) : Bool :=
  match scope.focus with
  | none => true
  | some (.study, id) => revision.logicalId = id
  | some _ =>
      (tables.runs.filter (tables.inFocus scope)).any fun run =>
        (run.runSpecId.bind tables.spec?).any fun spec =>
          (spec.studyRef :: spec.otherRefs).any (· = revision.toReference)

/-! ## The reads -/

def isClassified (classification : Json) : Bool :=
  classification = .str "sensitive" || classification = .str "restricted"

mutual
/-- `_contains_classified_content`. -/
def containsClassified : Json → Bool
  | .obj fields => (fields.lookup "classification").any isClassified || anyClassified fields
  | .arr items => anyClassifiedItem items
  | _ => false

def anyClassified : List (String × Json) → Bool
  | [] => false
  | (_, value) :: rest => containsClassified value || anyClassified rest

def anyClassifiedItem : List Json → Bool
  | [] => false
  | item :: rest => containsClassified item || anyClassifiedItem rest
end

structure RevisionView where
  document : Json
  status : String
  digest : String

def readContractRevision (scope : SessionScope) (revisionRef : String) :
    Except ReadFault RevisionView :=
  match tables.revision? revisionRef with
  | none => .error (.rejected (.targetNotVisible "revision_ref"))
  | some row => do
      requireProject scope row.projectId "revision_ref"
      if !tables.focusAllowsRevision scope row then
        .error (.rejected (.targetNotVisible "revision_ref"))
      else if containsClassified row.document then
        .error (.rejected (.classificationGrantRequired "revision_ref"))
      else .ok ⟨row.document, row.status, row.digest⟩

/-- The rows of a Project among candidates whose Project is read one by one. -/
def ofProject (projectId : String) : List RunRow → Except ReadFault (List RunRow)
  | [] => .ok []
  | row :: rest => do
      let owner ← tables.resolveRun row
      let others ← ofProject projectId rest
      .ok (if owner = projectId then row :: others else others)

/-- `ORDER BY created_at DESC, id`. -/
def newestFirst (left right : RunRow) : Bool :=
  right.createdAt < left.createdAt || (left.createdAt = right.createdAt && left.id ≤ right.id)

def listRuns (scope : SessionScope) (limit : Nat) (status : Option String) :
    Except ReadFault (List RunRow) := do
  let projectId ← projectRequired scope
  let candidates := (tables.runs.filter fun row =>
    tables.inFocus scope row && status.all (row.status = ·)).mergeSort newestFirst
  let rows ← tables.ofProject projectId candidates
  .ok (rows.take limit)

/-- The last terminal event of a Run. -/
def terminalEvent (runId : String) : Option RunEventRow :=
  (tables.events.filter fun event => event.runId = runId &&
    event.eventType ∈ ["run.completed", "run.failed", "run.budget_exhausted"]).foldl
      (fun last event => if last.all (·.sequence < event.sequence) then some event else last) none

structure RunView where
  row : RunRow
  terminal : Option RunEventRow

def readRun (scope : SessionScope) (runId : String) : Except ReadFault RunView :=
  match tables.run? runId with
  | none => .error (.rejected (.targetNotVisible "run_id"))
  | some row => do
      let projectId ← tables.resolveRun row
      requireProject scope projectId "run_id"
      if !tables.inFocus scope row then .error (.rejected (.targetNotVisible "run_id"))
      else
        let terminal := tables.terminalEvent runId
        if terminal.any fun event => isClassified (.str event.classification) then
          .error (.rejected (.classificationGrantRequired "run_id"))
        else .ok ⟨row, terminal⟩

def readComparison (scope : SessionScope) (comparisonId : String) :
    Except ReadFault ComparisonRow :=
  match tables.comparison? comparisonId with
  | none => .error (.rejected (.targetNotVisible "comparison_id"))
  | some row =>
      match tables.experiment? row.experimentRevisionId with
      | none => .error (.valueError "comparison references an unknown experiment revision")
      | some experiment => do
          requireProject scope experiment.projectId "comparison_id"
          if scope.focus.all (· = (.comparison, comparisonId)) then .ok row
          else .error (.rejected (.targetNotVisible "comparison_id"))

/-! ## Aggregation -/

inductive Metric
  | gradeScore | runCount | completionRate

def Metric.ofName? : String → Option Metric
  | "grade_score" => some .gradeScore
  | "run_count" => some .runCount
  | "completion_rate" => some .completionRate
  | _ => none

/-- The column that a grouping reads. -/
def groupColumn? : String → Option (RunRow → String)
  | "status" => some RunRow.status
  | "variant_id" => some RunRow.variantId
  | "runner" => some RunRow.runner
  | _ => none

/-- A row of `runs LEFT OUTER JOIN grades`. -/
structure Joined where
  run : RunRow
  score : Option Rat

def outerjoin (run : RunRow) : List Joined :=
  match tables.grades.filter fun grade => grade.runId = run.id with
  | [] => [⟨run, none⟩]
  | grades => grades.map fun grade => ⟨run, some grade.score⟩

def average (values : List Rat) : Option Rat :=
  if values.isEmpty then none else some (values.sum / values.length)

def distinctRuns (rows : List Joined) : Nat := (rows.map (·.run.id)).dedup.length

def Metric.value (rows : List Joined) : Metric → Option Rat
  | .gradeScore => average (rows.filterMap Joined.score)
  | .runCount => some (distinctRuns rows)
  | .completionRate => average (rows.map fun row => if row.run.completedAt.isSome then 1 else 0)

structure MetricGroup where
  group : String
  value : Option Rat
  sampleSize : Nat

/-- The groups of a joined selection, ordered by their key. -/
def groupsOf (metric : Metric) (column : RunRow → String) (rows : List Joined) :
    List MetricGroup :=
  ((rows.map fun row => column row.run).dedup.mergeSort (· ≤ ·)).map fun key =>
    let members := rows.filter fun row => column row.run = key
    ⟨key, metric.value members, distinctRuns members⟩

def aggregateMetrics (scope : SessionScope) (metric groupBy : String) (runIds : List String) :
    Except ReadFault (List MetricGroup) := do
  let projectId ← projectRequired scope
  match Metric.ofName? metric, groupColumn? groupBy with
  | some metric, some column =>
      let visible := tables.runs.filter fun row =>
        row.id ∈ runIds && tables.inFocus scope row &&
          (row.experimentRevisionId.bind tables.experiment?).any (·.projectId = projectId)
      if runIds.any (· ∉ visible.map RunRow.id) then
        .error (.rejected (.targetNotVisible "run_ids"))
      else
        .ok ((groupsOf metric column (visible.flatMap tables.outerjoin)).filter (0 < ·.sampleSize))
  | _, _ => .error (.valueError "metric and group_by must come from the declared allowlists")

end LabTables

end Evidrun.Lab.Reads
