import Evidrun.Contracts.Events
import Evidrun.Lib.Table

/-!
# The store

The rows of the tables the runtime reads and writes (`infrastructure/database/models.py`),
with the unique constraints the database enforces, and what a transaction does:
it commits what its body computed, or writes nothing when the body raises.

A text column written by `canonical_json` is a `CanonicalText`. A timestamp is a
naive UTC instant in microseconds. Identifiers come from `new_id`; `issued`
counts how many were handed out.
-/

namespace Evidrun.Database

open JsonText DocumentSchema Evidrun.Contracts

set_option autoImplicit false

/-- Microseconds since the epoch. -/
abbrev Time := Int

/-! ## Timestamps as text -/

def padded (width value : Nat) : List Char :=
  let digits := Nat.toDigits 10 value
  List.replicate (width - digits.length) '0' ++ digits

/-- Year, month and day of a day number, in the proleptic Gregorian calendar. -/
def civilFromDays (days : Int) : Int × Int × Int :=
  let shifted := days + 719468
  let era := shifted / 146097
  let dayOfEra := shifted - era * 146097
  let yearOfEra := (dayOfEra - dayOfEra / 1460 + dayOfEra / 36524 - dayOfEra / 146096) / 365
  let dayOfYear := dayOfEra - (365 * yearOfEra + yearOfEra / 4 - yearOfEra / 100)
  let monthIndex := (5 * dayOfYear + 2) / 153
  let day := dayOfYear - (153 * monthIndex + 2) / 5 + 1
  let month := if monthIndex < 10 then monthIndex + 3 else monthIndex - 9
  (yearOfEra + era * 400 + (if month ≤ 2 then 1 else 0), month, day)

/-- `datetime.isoformat()` of a naive instant. -/
def isoformat (time : Time) : String :=
  let seconds := time / 1000000
  let micros := (time % 1000000).toNat
  let (year, month, day) := civilFromDays (seconds / 86400)
  let clock := (seconds % 86400).toNat
  String.ofList <|
    padded 4 year.toNat ++ '-' :: padded 2 month.toNat ++ '-' :: padded 2 day.toNat ++
      'T' :: padded 2 (clock / 3600) ++ ':' :: padded 2 (clock / 60 % 60) ++
      ':' :: padded 2 (clock % 60) ++ (if micros = 0 then [] else '.' :: padded 6 micros)

/-! ## Rows -/

structure RunSpecRow where
  id : String
  specJson : CanonicalText
  digest : String

structure AdmissionRecordRow where
  id : String
  runSpecId : String
  decision : String
  recordJson : CanonicalText
  digest : String
  executionTrustId : Option String
  executionTrustDigest : Option String
  createdAt : Time

structure RunRow where
  id : String
  experimentRevisionId : Option String
  variantId : String
  repetition : Int
  status : RunStatus
  runner : String
  objective : String
  output : Option String
  contextHash : Option String
  retryOf : Option String
  runSpecId : Option String
  admissionId : Option String
  executionTrustId : Option String
  executionTrustDigest : Option String
  createdAt : Time
  completedAt : Option Time

/-- What an event says apart from its payload and its seal. -/
structure EventHead where
  id : String
  runId : String
  sequence : Nat
  eventType : EventType
  occurredAt : Time
  actorType : String
  actorId : String
  classification : String
  correlationId : String
  causationId : Option String
  prevEventHash : Option String

structure RunEventRow extends EventHead where
  payloadJson : CanonicalText
  eventHash : String
  operationKey : Option String

inductive JobStatus
  | queued | leased | completed | rejected
deriving DecidableEq, Repr

structure RunExecutionJobRow where
  id : String
  runId : String
  status : JobStatus
  idempotencyKey : String
  requestDigest : String
  availableAt : Time
  activeAttemptId : Option String
  leaseGeneration : Nat
  createdAt : Time
  finishedAt : Option Time
  rejectionCode : Option String
deriving DecidableEq

inductive AttemptStatus
  | leased | completed | released | expired | rejected
deriving DecidableEq, Repr

structure RunExecutionAttemptRow where
  id : String
  jobId : String
  ordinal : Nat
  workerId : String
  leaseGeneration : Nat
  status : AttemptStatus
  leasedAt : Time
  leaseExpiresAt : Time
  lastHeartbeatAt : Time
  finishedAt : Option Time
  reasonCode : Option String
deriving DecidableEq

structure SubjectEnvelopeRow where
  runId : String
  envelopeJson : CanonicalText
  digest : String
  createdAt : Time

structure ContextSnapshotRow where
  id : String
  runId : String
  policyId : String
  strategy : String
  maxChars : Int
  sourceChars : Int
  selectedChars : Int
  selectedContent : String
  omittedJson : CanonicalText
  contentHash : String
  createdAt : Time

/-- A Grade's score is the text of the float that was stored. -/
structure GradeRow where
  id : String
  runId : String
  graderId : String
  score : FloatText
  passed : Bool
  rationale : String
  evidenceJson : CanonicalText
  createdAt : Time

structure CheckpointRecordRow where
  id : String
  runId : String
  definitionId : String
  upToEventSequence : Nat
  recordJson : CanonicalText
  checkpointHash : String

structure EvaluationRecordRow where
  id : String
  runId : String
  sourceType : String
  stageId : String
  recordJson : CanonicalText
  recordDigest : String

structure Store where
  runSpecs : List RunSpecRow
  admissions : List AdmissionRecordRow
  runs : List RunRow
  events : List RunEventRow
  jobs : List RunExecutionJobRow
  attempts : List RunExecutionAttemptRow
  envelopes : List SubjectEnvelopeRow
  snapshots : List ContextSnapshotRow
  grades : List GradeRow
  checkpoints : List CheckpointRecordRow
  evaluations : List EvaluationRecordRow
  issued : Nat

/-! ## Exceptions and transactions -/

/-- A named refusal of the enqueue phase. -/
structure TriageError where
  code : String
  message : String
  fieldPath : List String
  remediation : String
deriving DecidableEq

inductive Exc
  | valueError (text : String)
  /-- A pydantic `ValidationError`, which is a `ValueError`. -/
  | validationError (text : String)
  /-- A `TriageRejected`, which is a `ValueError`. -/
  | triageRejected (error : TriageError)
  | keyError (text : String)
  | indexError (text : String)
  | leaseLost (text : String)
  /-- A unique constraint of the database was violated. -/
  | integrityError (constraint : String)
deriving DecidableEq

/-- What a call leaves behind and what its caller sees. A call can raise after it
committed, when the committed rows do not form a valid contract. -/
structure Outcome (Result : Type) where
  store : Store
  result : Except Exc Result

/-- Run a body in one transaction. -/
def transact {Result : Type} (body : Store → Except Exc (Result × Store)) (store : Store) :
    Outcome Result :=
  match body store with
  | .ok (result, after) => ⟨after, .ok result⟩
  | .error exception => ⟨store, .error exception⟩

theorem transact_store {Result : Type} (body : Store → Except Exc (Result × Store))
    (store : Store) :
    (transact body store).store = store ∨
      ∃ result, body store = .ok (result, (transact body store).store) := by
  unfold transact
  cases run : body store with
  | error exception => exact Or.inl rfl
  | ok pair => exact Or.inr ⟨pair.1, rfl⟩

/-- Run a body in one transaction, then convert the committed rows for the caller. -/
def commitThen {Rows Result : Type} (body : Store → Except Exc (Rows × Store))
    (convert : Rows → Except Exc Result) (store : Store) : Outcome Result :=
  match body store with
  | .ok (rows, after) => ⟨after, convert rows⟩
  | .error exception => ⟨store, .error exception⟩

/-- Converting the rows does not change what was committed. -/
@[simp] theorem commitThen_store {Rows Result : Type}
    (body : Store → Except Exc (Rows × Store)) (convert : Rows → Except Exc Result)
    (store : Store) : (commitThen body convert store).store = (transact body store).store := by
  unfold commitThen transact
  cases body store <;> rfl

/-- Raise unless a condition holds. -/
def require (condition : Bool) (exception : Exc) : Except Exc Unit :=
  if condition then .ok () else .error exception

@[simp] theorem require_ok (condition : Bool) (exception : Exc) (done : Unit) :
    require condition exception = .ok done ↔ condition = true := by
  unfold require
  split_ifs with holds <;> simp [holds]

/-- The value of an optional row, or the exception for a missing one. -/
def orRaise {Row : Type} (row : Option Row) (exception : Exc) : Except Exc Row :=
  match row with
  | some row => .ok row
  | none => .error exception

@[simp] theorem orRaise_ok {Row : Type} (row : Option Row) (exception : Exc) (found : Row) :
    orRaise row exception = .ok found ↔ row = some found := by
  cases row <;> simp [orRaise]

/-- A contract that fails to validate raises a pydantic error. -/
def validated {Result : Type} (read : Except String Result) : Except Exc Result :=
  match read with
  | .ok result => .ok result
  | .error reason => .error (.validationError reason)

@[simp] theorem validated_ok {Result : Type} (read : Except String Result) (result : Result) :
    validated read = .ok result ↔ read = .ok result := by
  cases read <;> simp [validated]

/-- A check that raises a `ValueError` with a reason. -/
def valueChecked {Result : Type} (check : Except String Result) : Except Exc Result :=
  match check with
  | .ok result => .ok result
  | .error reason => .error (.valueError reason)

/-! ## Queries -/

/-- `new_id(prefix)`: the identifier and the store that remembers it was handed out. -/
def newId (platform : Platform) (kind : String) (store : Store) : String × Store :=
  (kind ++ "_" ++ platform.uuid7 store.issued, { store with issued := store.issued + 1 })

namespace Store

def runSpec? (store : Store) (id : String) : Option RunSpecRow :=
  Table.find RunSpecRow.id store.runSpecs id

def admission? (store : Store) (id : String) : Option AdmissionRecordRow :=
  Table.find AdmissionRecordRow.id store.admissions id

def run? (store : Store) (id : String) : Option RunRow := Table.find RunRow.id store.runs id

def job? (store : Store) (id : String) : Option RunExecutionJobRow :=
  Table.find RunExecutionJobRow.id store.jobs id

def attempt? (store : Store) (id : String) : Option RunExecutionAttemptRow :=
  Table.find RunExecutionAttemptRow.id store.attempts id

def envelope? (store : Store) (runId : String) : Option SubjectEnvelopeRow :=
  Table.find SubjectEnvelopeRow.runId store.envelopes runId

def snapshot? (store : Store) (id : String) : Option ContextSnapshotRow :=
  Table.find ContextSnapshotRow.id store.snapshots id

def checkpoint? (store : Store) (id : String) : Option CheckpointRecordRow :=
  Table.find CheckpointRecordRow.id store.checkpoints id

def evaluation? (store : Store) (id : String) : Option EvaluationRecordRow :=
  Table.find EvaluationRecordRow.id store.evaluations id

def event? (store : Store) (id : String) : Option RunEventRow :=
  Table.find (fun row : RunEventRow => row.id) store.events id

/-- The events of a Run `order_by(sequence)`. -/
def eventsOf (store : Store) (runId : String) : List RunEventRow :=
  (store.events.filter fun row => row.runId = runId).insertionSort
    fun left right => left.sequence ≤ right.sequence

/-- The event of a Run with an operation key. -/
def eventByKey? (store : Store) (runId operationKey : String) : Option RunEventRow :=
  store.events.find? fun row => row.runId = runId && row.operationKey = some operationKey

/-- The event of a Run at a sequence number. -/
def eventAt? (store : Store) (runId : String) (sequence : Nat) : Option RunEventRow :=
  store.events.find? fun row => row.runId = runId && row.sequence = sequence

def updateRun (store : Store) (id : String) (change : RunRow → RunRow) : Store :=
  { store with runs := Table.modify RunRow.id store.runs id change }

def updateJob (store : Store) (id : String) (change : RunExecutionJobRow → RunExecutionJobRow) :
    Store :=
  { store with jobs := Table.modify RunExecutionJobRow.id store.jobs id change }

def updateAttempt (store : Store) (id : String)
    (change : RunExecutionAttemptRow → RunExecutionAttemptRow) : Store :=
  { store with attempts := Table.modify RunExecutionAttemptRow.id store.attempts id change }

/-! ## Inserts under the unique constraints -/

def insertEvent (store : Store) (row : RunEventRow) : Except Exc Store := do
  require (!store.events.any fun other => other.id = row.id) (.integrityError "run_events.id")
  require (!store.events.any fun other => other.runId = row.runId && other.sequence = row.sequence)
    (.integrityError "uq_run_event_sequence")
  require (row.operationKey.isNone || !store.events.any fun other =>
      other.runId = row.runId && other.operationKey = row.operationKey)
    (.integrityError "uq_run_event_operation")
  .ok { store with events := store.events ++ [row] }

def insertRun (store : Store) (row : RunRow) : Except Exc Store := do
  require (!store.runs.any fun other => other.id = row.id) (.integrityError "runs.id")
  .ok { store with runs := store.runs ++ [row] }

def insertJob (store : Store) (row : RunExecutionJobRow) : Except Exc Store := do
  require (!store.jobs.any fun other => other.id = row.id)
    (.integrityError "run_execution_jobs.id")
  require (!store.jobs.any fun other => other.runId = row.runId)
    (.integrityError "run_execution_jobs.run_id")
  require (!store.jobs.any fun other => other.idempotencyKey = row.idempotencyKey)
    (.integrityError "run_execution_jobs.idempotency_key")
  .ok { store with jobs := store.jobs ++ [row] }

def insertAttempt (store : Store) (row : RunExecutionAttemptRow) : Except Exc Store := do
  require (!store.attempts.any fun other => other.id = row.id)
    (.integrityError "run_execution_attempts.id")
  require (!store.attempts.any fun other =>
      other.jobId = row.jobId && other.ordinal = row.ordinal)
    (.integrityError "uq_run_attempt_ordinal")
  require (!store.attempts.any fun other =>
      other.jobId = row.jobId && other.leaseGeneration = row.leaseGeneration)
    (.integrityError "uq_run_attempt_generation")
  .ok { store with attempts := store.attempts ++ [row] }

def insertSnapshot (store : Store) (row : ContextSnapshotRow) : Except Exc Store := do
  require (!store.snapshots.any fun other => other.id = row.id)
    (.integrityError "context_snapshots.id")
  require (!store.snapshots.any fun other => other.runId = row.runId)
    (.integrityError "uq_context_snapshot_run")
  .ok { store with snapshots := store.snapshots ++ [row] }

def insertEnvelope (store : Store) (row : SubjectEnvelopeRow) : Except Exc Store := do
  require (!store.envelopes.any fun other => other.runId = row.runId)
    (.integrityError "subject_envelopes.run_id")
  .ok { store with envelopes := store.envelopes ++ [row] }

def insertGrade (store : Store) (row : GradeRow) : Except Exc Store := do
  require (!store.grades.any fun other => other.id = row.id) (.integrityError "grades.id")
  require (!store.grades.any fun other =>
      other.runId = row.runId && other.graderId = row.graderId)
    (.integrityError "uq_grade_run_grader")
  .ok { store with grades := store.grades ++ [row] }

def insertEvaluation (store : Store) (row : EvaluationRecordRow) : Except Exc Store := do
  require (!store.evaluations.any fun other => other.id = row.id)
    (.integrityError "evaluation_records.id")
  require (!store.evaluations.any fun other =>
      other.runId = row.runId && other.stageId = row.stageId && other.sourceType = row.sourceType)
    (.integrityError "uq_evaluation_stage_source")
  require (!store.evaluations.any fun other => other.recordDigest = row.recordDigest)
    (.integrityError "evaluation_records.record_digest")
  .ok { store with evaluations := store.evaluations ++ [row] }

/-! ## What an accepted insert did -/

variable {store after : Store}

theorem insertEvent_ok {row : RunEventRow} (inserted : store.insertEvent row = .ok after) :
    (∀ other ∈ store.events, other.id ≠ row.id) ∧
      (∀ other ∈ store.events, other.runId = row.runId → other.sequence ≠ row.sequence) ∧
      (∀ other ∈ store.events, other.runId = row.runId → row.operationKey ≠ none →
        other.operationKey ≠ row.operationKey) ∧
      after = { store with events := store.events ++ [row] } := by
  simp only [insertEvent, bind_ok, require_ok, Except.ok.injEq] at inserted
  obtain ⟨_, newId, _, newPlace, _, newKey, rfl⟩ := inserted
  refine ⟨by simpa using newId, by simpa using newPlace, ?_, rfl⟩
  intro other member same keyed
  cases key : row.operationKey with
  | none => exact absurd key keyed
  | some value =>
      simp only [key, Option.isNone_some, Bool.false_or, Bool.not_eq_true', List.any_eq_false,
        Bool.and_eq_true, decide_eq_true_eq, not_and] at newKey
      exact newKey other member same

theorem insertRun_ok {row : RunRow} (inserted : store.insertRun row = .ok after) :
    (∀ other ∈ store.runs, other.id ≠ row.id) ∧
      after = { store with runs := store.runs ++ [row] } := by
  simp only [insertRun, bind_ok, require_ok, Except.ok.injEq] at inserted
  obtain ⟨_, fresh, rfl⟩ := inserted
  exact ⟨by simpa using fresh, rfl⟩

theorem insertJob_ok {row : RunExecutionJobRow} (inserted : store.insertJob row = .ok after) :
    (∀ other ∈ store.jobs, other.id ≠ row.id) ∧ (∀ other ∈ store.jobs, other.runId ≠ row.runId) ∧
      after = { store with jobs := store.jobs ++ [row] } := by
  simp only [insertJob, bind_ok, require_ok, Except.ok.injEq] at inserted
  obtain ⟨_, fresh, _, single, _, _, rfl⟩ := inserted
  exact ⟨by simpa using fresh, by simpa using single, rfl⟩

theorem insertAttempt_ok {row : RunExecutionAttemptRow}
    (inserted : store.insertAttempt row = .ok after) :
    (∀ other ∈ store.attempts, other.id ≠ row.id) ∧
      after = { store with attempts := store.attempts ++ [row] } := by
  simp only [insertAttempt, bind_ok, require_ok, Except.ok.injEq] at inserted
  obtain ⟨_, fresh, _, _, _, _, rfl⟩ := inserted
  exact ⟨by simpa using fresh, rfl⟩

theorem insertSnapshot_ok {row : ContextSnapshotRow}
    (inserted : store.insertSnapshot row = .ok after) :
    after = { store with snapshots := store.snapshots ++ [row] } := by
  simp only [insertSnapshot, bind_ok, require_ok, Except.ok.injEq] at inserted
  obtain ⟨_, _, _, _, rfl⟩ := inserted
  rfl

theorem insertEnvelope_ok {row : SubjectEnvelopeRow}
    (inserted : store.insertEnvelope row = .ok after) :
    after = { store with envelopes := store.envelopes ++ [row] } := by
  simp only [insertEnvelope, bind_ok, require_ok, Except.ok.injEq] at inserted
  obtain ⟨_, _, rfl⟩ := inserted
  rfl

theorem insertGrade_ok {row : GradeRow} (inserted : store.insertGrade row = .ok after) :
    after = { store with grades := store.grades ++ [row] } := by
  simp only [insertGrade, bind_ok, require_ok, Except.ok.injEq] at inserted
  obtain ⟨_, _, _, _, rfl⟩ := inserted
  rfl

theorem insertEvaluation_ok {row : EvaluationRecordRow}
    (inserted : store.insertEvaluation row = .ok after) :
    (∀ other ∈ store.evaluations, other.id ≠ row.id) ∧
      (∀ other ∈ store.evaluations, other.runId = row.runId → other.stageId = row.stageId →
        other.sourceType ≠ row.sourceType) ∧
      after = { store with evaluations := store.evaluations ++ [row] } := by
  simp only [insertEvaluation, bind_ok, require_ok, Except.ok.injEq] at inserted
  obtain ⟨_, fresh, _, newStage, _, _, rfl⟩ := inserted
  exact ⟨by simpa using fresh, by simpa using newStage, rfl⟩

end Store

end Evidrun.Database
