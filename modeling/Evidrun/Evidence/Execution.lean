import Evidrun.Database.Attempts
import Mathlib.Data.List.Dedup

/-!
# Execution records

The job and attempt records of a bundle: how the exporter writes them
(`evidence/export/run_v3.py`, `evidence/archive.py`) and what the verifier asks of
them (`_record_execution` and `_attempt_chain_valid` of `evidence/verify/v3.py`).
The text of a member is written and read by `json`, so a member is its document.
-/

namespace Evidrun.Evidence

open JsonText DocumentSchema Evidrun.Contracts Evidrun.Database

set_option autoImplicit false

/-! ## Records as documents -/

/-- How an aware UTC instant is written in a record and read back. -/
structure TimeFormat (coercion : Coercion) where
  write : Time → String
  read : String → Option Time
  read_write : ∀ time, read (write time) = some time
  stamped : ∀ time, coercion.isTimestamp (write time) = true

def timestamp : Schema := .scalar .timestamp

def jobStatusText : JobStatus → String
  | .queued => "queued"
  | .leased => "leased"
  | .completed => "completed"
  | .rejected => "rejected"

def jobStatusOf? : String → Option JobStatus
  | "queued" => some .queued
  | "leased" => some .leased
  | "completed" => some .completed
  | "rejected" => some .rejected
  | _ => none

def attemptStatusText : AttemptStatus → String
  | .leased => "leased"
  | .completed => "completed"
  | .released => "released"
  | .expired => "expired"
  | .rejected => "rejected"

def attemptStatusOf? : String → Option AttemptStatus
  | "leased" => some .leased
  | "completed" => some .completed
  | "released" => some .released
  | "expired" => some .expired
  | "rejected" => some .rejected
  | _ => none

def runExecutionJob : Schema :=
  .model
    [optional "active_attempt_id" nonEmptyStr,
      required "available_at_utc" timestamp,
      required "created_at_utc" timestamp,
      optional "finished_at_utc" timestamp,
      required "idempotency_key" nonEmptyStr,
      required "job_id" nonEmptyStr,
      required "lease_generation" (integerFrom 0),
      optional "rejection_code" nonEmptyStr,
      required "request_digest" digest,
      required "run_id" nonEmptyStr,
      defaulted "schema_version" (.str "1") (literal ["1"]),
      required "status" (literal ["queued", "leased", "completed", "rejected"])]
    noCheck

def runExecutionAttempt : Schema :=
  .model
    [required "attempt_id" nonEmptyStr,
      optional "finished_at_utc" timestamp,
      required "job_id" nonEmptyStr,
      required "last_heartbeat_at_utc" timestamp,
      required "lease_expires_at_utc" timestamp,
      required "lease_generation" (integerFrom 1),
      required "leased_at_utc" timestamp,
      required "ordinal" (integerFrom 1),
      optional "reason_code" nonEmptyStr,
      defaulted "schema_version" (.str "1") (literal ["1"]),
      required "status" (literal ["leased", "completed", "released", "expired", "rejected"]),
      required "worker_id" nonEmptyStr]
    noCheck

section Documents

variable {coercion : Coercion} (format : TimeFormat coercion)

def timeJson (time : Time) : Json := .str (format.write time)

def textJson (text : NonEmptyStr) : Json := .str text.1

def jobFields (job : RunExecutionJob) : List (String × Option Json) :=
  [("active_attempt_id", job.activeAttemptId.map textJson),
    ("available_at_utc", timeJson format job.availableAt),
    ("created_at_utc", timeJson format job.createdAt),
    ("finished_at_utc", job.finishedAt.map (timeJson format)),
    ("idempotency_key", textJson job.idempotencyKey),
    ("job_id", textJson job.jobId),
    ("lease_generation", Json.int job.leaseGeneration),
    ("rejection_code", job.rejectionCode.map textJson),
    ("request_digest", Json.str job.requestDigest.1),
    ("run_id", textJson job.runId),
    ("schema_version", Json.str "1"),
    ("status", Json.str (jobStatusText job.status))]

def attemptFields (attempt : RunExecutionAttempt) : List (String × Option Json) :=
  [("attempt_id", textJson attempt.attemptId),
    ("finished_at_utc", attempt.finishedAt.map (timeJson format)),
    ("job_id", textJson attempt.jobId),
    ("last_heartbeat_at_utc", timeJson format attempt.lastHeartbeatAt),
    ("lease_expires_at_utc", timeJson format attempt.leaseExpiresAt),
    ("lease_generation", Json.int attempt.leaseGeneration),
    ("leased_at_utc", timeJson format attempt.leasedAt),
    ("ordinal", Json.int attempt.ordinal),
    ("reason_code", attempt.reasonCode.map textJson),
    ("schema_version", Json.str "1"),
    ("status", Json.str (attemptStatusText attempt.status)),
    ("worker_id", textJson attempt.workerId)]

/-- `semantic_model_dump` of a job. -/
def jobDocument (job : RunExecutionJob) : Json := .obj (present (jobFields format job))

/-- `semantic_model_dump` of an attempt. -/
def attemptDocument (attempt : RunExecutionAttempt) : Json :=
  .obj (present (attemptFields format attempt))

def timeField (document : Json) (name : String) : Except String Time :=
  match document.field name with
  | .str text => match format.read text with
      | some time => .ok time
      | none => .error "Input should be a valid datetime"
  | _ => .error "Input should be a valid datetime"

def optionalTimeField (document : Json) (name : String) : Except String (Option Time) :=
  match document.get? name with
  | none => .ok none
  | some _ => (timeField format document name).map some

def countField (document : Json) (name : String) : Nat := (intOf (document.field name)).toNat

/-- The columns of a job whose fields were read. -/
def jobColumns (dump : Json) : Except String RunExecutionJobRow := do
  let availableAt ← timeField format dump "available_at_utc"
  let createdAt ← timeField format dump "created_at_utc"
  let finishedAt ← optionalTimeField format dump "finished_at_utc"
  match jobStatusOf? (dump.field "status").asString with
  | none => .error "Input should be a permitted value"
  | some status =>
      .ok
        { id := (dump.field "job_id").asString
          runId := (dump.field "run_id").asString
          status := status
          idempotencyKey := (dump.field "idempotency_key").asString
          requestDigest := (dump.field "request_digest").asString
          availableAt := availableAt
          activeAttemptId := strOf dump "active_attempt_id"
          leaseGeneration := countField dump "lease_generation"
          createdAt := createdAt
          finishedAt := finishedAt
          rejectionCode := strOf dump "rejection_code" }

/-- The columns of an attempt whose fields were read. -/
def attemptColumns (dump : Json) : Except String RunExecutionAttemptRow := do
  let leasedAt ← timeField format dump "leased_at_utc"
  let leaseExpiresAt ← timeField format dump "lease_expires_at_utc"
  let lastHeartbeatAt ← timeField format dump "last_heartbeat_at_utc"
  let finishedAt ← optionalTimeField format dump "finished_at_utc"
  match attemptStatusOf? (dump.field "status").asString with
  | none => .error "Input should be a permitted value"
  | some status =>
      .ok
        { id := (dump.field "attempt_id").asString
          jobId := (dump.field "job_id").asString
          ordinal := countField dump "ordinal"
          workerId := (dump.field "worker_id").asString
          leaseGeneration := countField dump "lease_generation"
          status := status
          leasedAt := leasedAt
          leaseExpiresAt := leaseExpiresAt
          lastHeartbeatAt := lastHeartbeatAt
          finishedAt := finishedAt
          reasonCode := strOf dump "reason_code" }

/-- `RunExecutionJob.model_validate`. -/
def validateJob (given : Json) : Except String RunExecutionJob := do
  let dump ← validate coercion runExecutionJob given
  let columns ← jobColumns format dump
  readJob columns

/-- `RunExecutionAttempt.model_validate`. -/
def validateAttempt (given : Json) : Except String RunExecutionAttempt := do
  let dump ← validate coercion runExecutionAttempt given
  let columns ← attemptColumns format dump
  readAttempt columns

/-! ## Reading a record back -/

theorem parse_text (text : NonEmptyStr) :
    Scalar.parse coercion (.trimmed fun _ => true) (textJson text) = .ok (textJson text) := by
  obtain ⟨text, trimmed, given⟩ := text
  simp [textJson, Scalar.parse, trimmed, given]

theorem parse_time (time : Time) :
    Scalar.parse coercion .timestamp (timeJson format time) = .ok (timeJson format time) := by
  simp only [timeJson, Scalar.parse, coercion.timestamp_kept _ (format.stamped time)]

theorem kept_text (presence : Presence) (text : NonEmptyStr) :
    Kept coercion presence nonEmptyStr (some (textJson text)) :=
  ⟨by simp [textJson], by rw [nonEmptyStr, validate, parse_text]⟩

theorem kept_time (presence : Presence) (time : Time) :
    Kept coercion presence timestamp (some (timeJson format time)) :=
  ⟨by simp [timeJson], by rw [timestamp, validate, parse_time]⟩

theorem kept_count (least value : Nat) (bounded : least ≤ value) :
    Kept coercion .required (integerFrom least) (some (.int value)) :=
  ⟨by simp, by simp [integerFrom, validate, Scalar.parse, bounded]⟩

theorem kept_literal (presence : Presence) (values : List String) (value : String)
    (permitted : value ∈ values) : Kept coercion presence (literal values) (some (.str value)) :=
  ⟨by simp, by simp [literal, validate, Scalar.parse, permitted]⟩

theorem kept_optional {Value : Type} {schema : Schema} (value : Option Value) (write : Value → Json)
    (kept : ∀ value, Kept coercion .optional schema (some (write value))) :
    Kept coercion .optional schema (value.map write) := by
  cases value with
  | none => rfl
  | some value => exact kept value

theorem validate_jobDocument (job : RunExecutionJob) :
    validate coercion runExecutionJob (jobDocument format job) = .ok (jobDocument format job) := by
  refine validate_present _ (by decide) ?_ rfl
  have digested : Kept coercion .required digest (some (.str job.requestDigest.1)) :=
    ⟨by simp, by simp [digest, validate, Scalar.parse, job.requestDigest.2]⟩
  have status : jobStatusText job.status ∈ ["queued", "leased", "completed", "rejected"] := by
    cases job.status <;> decide
  exact .cons ⟨rfl, kept_optional _ _ (kept_text _)⟩ <| .cons ⟨rfl, kept_time format _ _⟩ <|
    .cons ⟨rfl, kept_time format _ _⟩ <| .cons ⟨rfl, kept_optional _ _ (kept_time format _)⟩ <|
    .cons ⟨rfl, kept_text _ _⟩ <| .cons ⟨rfl, kept_text _ _⟩ <|
    .cons ⟨rfl, kept_count 0 _ (Nat.zero_le _)⟩ <| .cons ⟨rfl, kept_optional _ _ (kept_text _)⟩ <|
    .cons ⟨rfl, digested⟩ <| .cons ⟨rfl, kept_text _ _⟩ <|
    .cons ⟨rfl, kept_literal _ _ _ (by decide)⟩ <| .cons ⟨rfl, kept_literal _ _ _ status⟩ .nil

theorem validate_attemptDocument (attempt : RunExecutionAttempt) :
    validate coercion runExecutionAttempt (attemptDocument format attempt) =
      .ok (attemptDocument format attempt) := by
  refine validate_present _ (by decide) ?_ rfl
  have status : attemptStatusText attempt.status ∈
      ["leased", "completed", "released", "expired", "rejected"] := by
    cases attempt.status <;> decide
  exact .cons ⟨rfl, kept_text _ _⟩ <| .cons ⟨rfl, kept_optional _ _ (kept_time format _)⟩ <|
    .cons ⟨rfl, kept_text _ _⟩ <| .cons ⟨rfl, kept_time format _ _⟩ <|
    .cons ⟨rfl, kept_time format _ _⟩ <| .cons ⟨rfl, kept_count 1 _ attempt.generation_pos⟩ <|
    .cons ⟨rfl, kept_time format _ _⟩ <| .cons ⟨rfl, kept_count 1 _ attempt.ordinal_pos⟩ <|
    .cons ⟨rfl, kept_optional _ _ (kept_text _)⟩ <| .cons ⟨rfl, kept_literal _ _ _ (by decide)⟩ <|
    .cons ⟨rfl, kept_literal _ _ _ status⟩ <| .cons ⟨rfl, kept_text _ _⟩ .nil

section ReadBack

variable {format} {document : Json} {name : String}

theorem timeField_of_get {time : Time} (held : document.get? name = some (timeJson format time)) :
    timeField format document name = .ok time := by
  simp only [timeField, Json.field, held, Option.getD_some, timeJson, format.read_write]

theorem optionalTimeField_of_get {time : Option Time}
    (held : document.get? name = time.map (timeJson format)) :
    optionalTimeField format document name = .ok time := by
  cases time with
  | none => simp only [optionalTimeField, held, Option.map_none]
  | some time =>
      simp only [Option.map_some] at held
      simp only [optionalTimeField, held, timeField_of_get held, Except.map]

theorem asString_of_get {text : String} (held : document.get? name = some (.str text)) :
    (document.field name).asString = text := by
  rw [Json.field_of_get held, Json.asString]

theorem strOf_of_get {text : Option NonEmptyStr} (held : document.get? name = text.map textJson) :
    strOf document name = text.map fun text => text.1 := by
  cases text with
  | none => simp only [strOf, held, Option.map_none]
  | some text => simp only [strOf, held, Option.map_some, textJson]

end ReadBack

/-- The columns a job's record names. -/
def columnsOfJob (job : RunExecutionJob) : RunExecutionJobRow where
  id := job.jobId.1
  runId := job.runId.1
  status := job.status
  idempotencyKey := job.idempotencyKey.1
  requestDigest := job.requestDigest.1
  availableAt := job.availableAt
  activeAttemptId := job.activeAttemptId.map fun text => text.1
  leaseGeneration := job.leaseGeneration
  createdAt := job.createdAt
  finishedAt := job.finishedAt
  rejectionCode := job.rejectionCode.map fun text => text.1

/-- The columns an attempt's record names. -/
def columnsOfAttempt (attempt : RunExecutionAttempt) : RunExecutionAttemptRow where
  id := attempt.attemptId.1
  jobId := attempt.jobId.1
  ordinal := attempt.ordinal
  workerId := attempt.workerId.1
  leaseGeneration := attempt.leaseGeneration
  status := attempt.status
  leasedAt := attempt.leasedAt
  leaseExpiresAt := attempt.leaseExpiresAt
  lastHeartbeatAt := attempt.lastHeartbeatAt
  finishedAt := attempt.finishedAt
  reasonCode := attempt.reasonCode.map fun text => text.1

theorem jobColumns_jobDocument (job : RunExecutionJob) :
    jobColumns format (jobDocument format job) = .ok (columnsOfJob job) := by
  have held : ∀ {name value}, (name, value) ∈ jobFields format job →
      (jobDocument format job).get? name = value :=
    lookup_present _ (by simp [jobFields])
  have inside : ∀ field ∈ jobFields format job, field ∈ jobFields format job := fun _ => id
  simp only [jobFields, List.forall_mem_cons] at inside
  obtain ⟨active, available, created, finished, key, jobId, generation, rejection, digested, runId,
    _, status, _⟩ := inside
  have known : jobStatusOf? (jobStatusText job.status) = some job.status := by
    cases job.status <;> rfl
  simp only [jobColumns, timeField_of_get (held available), timeField_of_get (held created),
    optionalTimeField_of_get (held finished), asString_of_get (held key),
    asString_of_get (held jobId), asString_of_get (held runId), strOf_of_get (held active),
    strOf_of_get (held rejection), asString_of_get (held digested), asString_of_get (held status),
    countField, Json.field_of_get (held generation), known, intOf, Int.toNat_natCast, bind, Except.bind,
    columnsOfJob]

theorem attemptColumns_attemptDocument (attempt : RunExecutionAttempt) :
    attemptColumns format (attemptDocument format attempt) = .ok (columnsOfAttempt attempt) := by
  have held : ∀ {name value}, (name, value) ∈ attemptFields format attempt →
      (attemptDocument format attempt).get? name = value :=
    lookup_present _ (by simp [attemptFields])
  have inside : ∀ field ∈ attemptFields format attempt, field ∈ attemptFields format attempt :=
    fun _ => id
  simp only [attemptFields, List.forall_mem_cons] at inside
  obtain ⟨attemptId, finished, jobId, heartbeat, expires, generation, leased, ordinal, reason, _,
    status, worker, _⟩ := inside
  have known : attemptStatusOf? (attemptStatusText attempt.status) = some attempt.status := by
    cases attempt.status <;> rfl
  simp only [attemptColumns, timeField_of_get (held leased), timeField_of_get (held expires),
    timeField_of_get (held heartbeat), optionalTimeField_of_get (held finished),
    asString_of_get (held attemptId), asString_of_get (held jobId), asString_of_get (held worker),
    strOf_of_get (held reason), asString_of_get (held status), countField,
    Json.field_of_get (held generation), Json.field_of_get (held ordinal), known, intOf, Int.toNat_natCast,
    bind, Except.bind, columnsOfAttempt]

theorem parse_nonEmptyStr (text : NonEmptyStr) : NonEmptyStr.parse text.1 = .ok text := by
  obtain ⟨text, trimmed, given⟩ := text
  simp only [NonEmptyStr.parse, trimmed, given, ne_eq, not_false_eq_true, dite_true]

theorem parseOptional_nonEmptyStr (text : Option NonEmptyStr) :
    parseOptional NonEmptyStr.parse (text.map fun text => text.1) = .ok text := by
  cases text with
  | none => rfl
  | some text => simp only [Option.map_some, parseOptional, parse_nonEmptyStr, bind, Except.bind]

theorem readJob_columns (job : RunExecutionJob) : readJob (columnsOfJob job) = .ok job := by
  have digested : Digest.parse job.requestDigest.1 = .ok job.requestDigest := by
    simp only [Digest.parse, job.requestDigest.2, dite_true]
    rfl
  rw [@readJob_of_parsed (columnsOfJob job) job.jobId job.runId job.idempotencyKey
    job.requestDigest job.activeAttemptId job.rejectionCode (parse_nonEmptyStr job.jobId)
    (parse_nonEmptyStr job.runId) (parse_nonEmptyStr job.idempotencyKey) digested
    (parseOptional_nonEmptyStr job.activeAttemptId) (parseOptional_nonEmptyStr job.rejectionCode)
    job.leased_iff job.finished_iff job.rejected_iff]
  rfl

theorem readAttempt_columns (attempt : RunExecutionAttempt) :
    readAttempt (columnsOfAttempt attempt) = .ok attempt := by
  rw [@readAttempt_of_parsed (columnsOfAttempt attempt) attempt.attemptId attempt.jobId
    attempt.workerId attempt.reasonCode (parse_nonEmptyStr attempt.attemptId)
    (parse_nonEmptyStr attempt.jobId) (parse_nonEmptyStr attempt.workerId)
    (parseOptional_nonEmptyStr attempt.reasonCode) ⟨attempt.ordinal_pos, attempt.generation_pos⟩
    attempt.expires_after attempt.heartbeat_after attempt.active_iff]
  rfl

/-- A job's record is read back as the job. -/
theorem validateJob_jobDocument (job : RunExecutionJob) :
    validateJob format (jobDocument format job) = .ok job := by
  simp only [validateJob, validate_jobDocument, jobColumns_jobDocument, readJob_columns, bind,
    Except.bind]

/-- An attempt's record is read back as the attempt. -/
theorem validateAttempt_attemptDocument (attempt : RunExecutionAttempt) :
    validateAttempt format (attemptDocument format attempt) = .ok attempt := by
  simp only [validateAttempt, validate_attemptDocument, attemptColumns_attemptDocument,
    readAttempt_columns, bind, Except.bind]

end Documents

/-! ## The exporter's members -/

section Members

variable (platform : Platform) (format : TimeFormat platform.coercion)

def jobDigest (job : RunExecutionJob) : String := sha256Json platform (jobDocument format job)

def attemptDigest (attempt : RunExecutionAttempt) : String :=
  sha256Json platform (attemptDocument format attempt)

/-- `record_dict`: a record with its digest. -/
def recordDict (document : Json) (digest : String) : Json :=
  match document with
  | .obj fields => .obj (fields ++ [("digest", .str digest)])
  | other => other

/-- The members `execution/jobs/…` and `execution/attempts/…` of a bundle. -/
structure ExecutionMembers where
  job : Json
  attempts : List Json

def exportExecution (store : Store) (runId : String) : Except Exc ExecutionMembers := do
  let execution ← getRunExecution store runId
  let (job, attempts) ← orRaise execution
    (.valueError "Evidence Bundle v3 requires durable execution records")
  .ok
    { job := recordDict (jobDocument format job) (jobDigest platform format job)
      attempts := attempts.map fun attempt =>
        recordDict (attemptDocument format attempt) (attemptDigest platform format attempt) }

/-! ## The verifier's checks -/

def loadAttempts : List Json → Except Exc (List RunExecutionAttempt × Bool)
  | [] => .ok ([], true)
  | document :: rest => do
      let expected ← orRaise (document.get? "digest") (.keyError "digest")
      let attempt ← validated (validateAttempt format (document.erase "digest"))
      let (attempts, digestsValid) ← loadAttempts rest
      .ok (attempt :: attempts,
        (Json.str (attemptDigest platform format attempt) == expected) && digestsValid)

/-- One attempt per generation, in order. -/
def ordinalsDense (job : RunExecutionJob) (attempts : List RunExecutionAttempt) : Bool :=
  (attempts.zipIdx 1).all fun (attempt, index) =>
    attempt.jobId.1 == job.jobId.1 && attempt.ordinal == index && attempt.leaseGeneration == index

def attemptsUnique (attempts : List RunExecutionAttempt) : Bool :=
  (attempts.map fun attempt => attempt.ordinal).dedup.length == attempts.length &&
    (attempts.map fun attempt => attempt.leaseGeneration).dedup.length == attempts.length

def terminalAgrees (job : RunExecutionJob) (attempts : List RunExecutionAttempt) : Bool :=
  attempts.getLast?.any fun last =>
    job.leaseGeneration == last.leaseGeneration &&
      attempts.dropLast.all (fun attempt =>
        attempt.status == .released || attempt.status == .expired) &&
      (job.status == .completed && last.status == .completed ||
        job.status == .rejected && last.status == .rejected)

def timestampsSane (attempts : List RunExecutionAttempt) : Bool :=
  attempts.all fun attempt =>
    decide (attempt.lastHeartbeatAt < attempt.leaseExpiresAt) &&
      attempt.finishedAt.any fun finishedAt =>
        decide (attempt.leasedAt ≤ finishedAt) && decide (attempt.lastHeartbeatAt ≤ finishedAt) &&
          (attempt.status != .expired || decide (attempt.leaseExpiresAt ≤ finishedAt))

def leasedInOrder (attempts : List RunExecutionAttempt) : Bool :=
  (attempts.zip attempts.tail).all fun (earlier, later) =>
    decide (earlier.leasedAt ≤ later.leasedAt)

/-- `_attempt_chain_valid`: the lease chain is dense and ordered, each attempt
finished, and only the last shares the job's terminal status. -/
def attemptChainValid (job : RunExecutionJob) (attempts : List RunExecutionAttempt) : Bool :=
  !attempts.isEmpty && ordinalsDense job attempts && attemptsUnique attempts &&
    terminalAgrees job attempts && timestampsSane attempts && leasedInOrder attempts

/-- What `_record_execution` asks of the job's record. -/
def jobRecordValid (runId : String) (job : RunExecutionJob) (digest : Json)
    (attempts : List RunExecutionAttempt) : Except Exc Bool :=
  if Json.str (jobDigest platform format job) == digest && job.runId.1 == runId &&
      job.status.terminal && job.activeAttemptId.isNone then
    match attempts.head?, attempts.getLast? with
    | some first, some last =>
        .ok (decide (job.createdAt ≤ first.leasedAt) && job.finishedAt.isSome &&
          last.finishedAt.isSome && job.finishedAt == last.finishedAt)
    | _, _ => .error (.indexError "list index out of range")
  else .ok false

/-- `_record_execution`: the results for the job's and for the attempts' member. -/
def recordExecution (runId : String) (members : ExecutionMembers) : Except Exc (Bool × Bool) := do
  let digest ← orRaise (members.job.get? "digest") (.keyError "digest")
  let job ← validated (validateJob format (members.job.erase "digest"))
  let (attempts, digestsValid) ← loadAttempts platform format members.attempts
  let jobValid ← jobRecordValid platform format runId job digest attempts
  .ok (jobValid, digestsValid && attemptChainValid job attempts)

end Members

/-! ## Members are read back as they were written -/

theorem recordDict_get {fields : List (String × Option Json)} {digest : String}
    (unnamed : "digest" ∉ fields.map Prod.fst) :
    (recordDict (.obj (present fields)) digest).get? "digest" = some (.str digest) := by
  simp [recordDict, Json.get?, List.lookup_append, lookup_present_unnamed fields unnamed]

theorem recordDict_erase {fields : List (String × Option Json)} {digest : String}
    (unnamed : "digest" ∉ fields.map Prod.fst) :
    (recordDict (.obj (present fields)) digest).erase "digest" = .obj (present fields) := by
  have others : ∀ field ∈ present fields, (field.1 != "digest") = true := by
    intro field member
    refine bne_iff_ne.mpr fun same => unnamed (present_names fields ?_)
    rw [← same]
    exact List.mem_map_of_mem member
  simp only [recordDict, Json.erase, List.filter_append, List.filter_eq_self.mpr others]
  simp

section ReadMembers

variable (platform : Platform) (format : TimeFormat platform.coercion)

theorem loadAttempts_exported (attempts : List RunExecutionAttempt) :
    loadAttempts platform format (attempts.map fun attempt =>
      recordDict (attemptDocument format attempt) (attemptDigest platform format attempt)) =
      .ok (attempts, true) := by
  induction attempts with
  | nil => rfl
  | cons attempt rest ih =>
      have unnamed : "digest" ∉ (attemptFields format attempt).map Prod.fst := by
        simp [attemptFields]
      simp only [List.map_cons, loadAttempts, attemptDocument, recordDict_get unnamed,
        recordDict_erase unnamed, orRaise, bind, Except.bind]
      have read := validateAttempt_attemptDocument format attempt
      simp only [attemptDocument] at read ih
      simp only [read, validated, ih, beq_self_eq_true, Bool.and_self]

/-- The verifier sees the records that the exporter took. -/
theorem recordExecution_exported (runId : String) (job : RunExecutionJob)
    (attempts : List RunExecutionAttempt) :
    recordExecution platform format runId
      { job := recordDict (jobDocument format job) (jobDigest platform format job)
        attempts := attempts.map fun attempt =>
          recordDict (attemptDocument format attempt) (attemptDigest platform format attempt) } =
      (jobRecordValid platform format runId job (.str (jobDigest platform format job))
        attempts).map fun jobValid => (jobValid, attemptChainValid job attempts) := by
  have unnamed : "digest" ∉ (jobFields format job).map Prod.fst := by simp [jobFields]
  have got : (recordDict (jobDocument format job) (jobDigest platform format job)).get? "digest" =
      some (.str (jobDigest platform format job)) := recordDict_get unnamed
  have erased : (recordDict (jobDocument format job) (jobDigest platform format job)).erase
      "digest" = jobDocument format job := recordDict_erase unnamed
  simp only [recordExecution, got, erased, validateJob_jobDocument, loadAttempts_exported, orRaise,
    validated, bind, Except.bind, Bool.true_and]
  cases jobRecordValid platform format runId job (.str (jobDigest platform format job)) attempts <;>
    rfl

end ReadMembers

/-! ## Records of a chain -/

/-- What the standard library promises about digests and identifiers. -/
structure Standard (platform : Platform) : Prop where
  hexdigest : ∀ text, isDigest (platform.sha256 text) = true
  uuid_visible : ∀ count, ∀ char ∈ (platform.uuid7 count).toList, isWhitespace char = false

section

variable {platform : Platform} {now : Time}

theorem Standard.issued_visible (standard : Standard platform) (kind : String) (count : Nat)
    (visible : ∀ char ∈ kind.toList, isWhitespace char = false) :
    ∀ char ∈ (kind ++ "_" ++ platform.uuid7 count).toList, isWhitespace char = false := by
  intro char member
  simp only [String.toList_append, List.mem_append] at member
  rcases member with (inKind | isMark) | inCount
  · exact visible char inKind
  · rw [List.mem_singleton.mp isMark]
    decide
  · exact standard.uuid_visible count char inCount

def trimmedJob (row : RunExecutionJobRow) : RunExecutionJobRow :=
  { row with
    id := strip row.id
    runId := strip row.runId
    idempotencyKey := strip row.idempotencyKey
    activeAttemptId := row.activeAttemptId.map strip
    rejectionCode := row.rejectionCode.map strip }

def trimmedAttempt (row : RunExecutionAttemptRow) : RunExecutionAttemptRow :=
  { row with
    id := strip row.id
    jobId := strip row.jobId
    workerId := strip row.workerId
    reasonCode := row.reasonCode.map strip }

theorem executionAttemptModel_of_sane {row : RunExecutionAttemptRow} (sane : row.Sane platform now)
    (owner : strip row.jobId ≠ "") (counted : 0 < row.ordinal ∧ 0 < row.leaseGeneration) :
    ∃ attempt, executionAttemptModel row = .ok attempt ∧
      columnsOfAttempt attempt = trimmedAttempt row := by
  obtain ⟨count, identified⟩ := sane.identified
  have named : strip row.id ≠ "" := by
    rw [identified]
    exact strip_issued _ _
  obtain ⟨attemptId, idRead, idSame⟩ := parse_of_strip named
  obtain ⟨jobId, jobRead, jobSame⟩ := parse_of_strip owner
  obtain ⟨workerId, workerRead, workerSame⟩ := parse_of_strip (strip_of_pyStrip sane.worker)
  obtain ⟨reasonCode, reasonRead, reasonSame, _⟩ := parseOptional_of_strip
    fun code given => strip_of_isReasonCode (sane.explained code given)
  have read := readAttempt_of_parsed idRead jobRead workerRead reasonRead counted
    (lt_of_le_of_lt sane.heartbeat sane.unexpired) sane.heartbeat sane.active
  refine ⟨_, (validated_ok ..).mpr read, ?_⟩
  simp only [columnsOfAttempt, trimmedAttempt, idSame, jobSame, workerSame, reasonSame]


theorem executionJobModel_of_chain {row : RunExecutionJobRow}
    {attempts : List RunExecutionAttemptRow} (standard : Standard platform)
    (chain : JobChain platform now row attempts) :
    ∃ job, executionJobModel row = .ok job ∧ columnsOfJob job = trimmedJob row := by
  obtain ⟨_, identified⟩ := chain.identified
  obtain ⟨_, ofRun⟩ := chain.ofRun
  obtain ⟨request, requested⟩ := chain.requested
  have named : strip row.id ≠ "" := by rw [identified]; exact strip_issued _ _
  have runNamed : strip row.runId ≠ "" := by rw [ofRun]; exact strip_issued _ _
  have digested : isDigest row.requestDigest = true := by rw [requested]; exact standard.hexdigest _
  have activeNamed : ∀ id, row.activeAttemptId = some id → strip id ≠ "" := by
    intro id active
    cases chain.phase with
    | waiting _ inactive =>
        rw [inactive] at active
        cases active
    | running earlier current split _ _ pointed =>
        rw [pointed] at active
        obtain rfl := Option.some.inj active
        obtain ⟨_, given⟩ := (chain.sane current (by rw [split]; simp)).identified
        rw [given]
        exact strip_issued _ _
    | closed _ _ _ _ inactive =>
        rw [inactive] at active
        cases active
  have codeNamed : ∀ code, row.rejectionCode = some code → strip code ≠ "" := by
    intro code rejected
    cases chain.phase with
    | waiting _ _ _ unrejected =>
        rw [unrejected] at rejected
        cases rejected
    | running _ _ _ _ _ _ _ unrejected =>
        rw [unrejected] at rejected
        cases rejected
    | closed _ _ _ _ _ _ _ _ outcome =>
        rcases outcome with ⟨_, _, unrejected⟩ | ⟨_, _, given, isGiven, coded⟩
        · rw [unrejected] at rejected
          cases rejected
        · rw [isGiven] at rejected
          obtain rfl := Option.some.inj rejected
          exact strip_of_isReasonCode coded
  obtain ⟨jobId, idRead, idSame⟩ := parse_of_strip named
  obtain ⟨runId, runRead, runSame⟩ := parse_of_strip runNamed
  obtain ⟨key, keyRead, keySame⟩ := parse_of_strip (strip_of_pyStrip chain.keyed)
  obtain ⟨active, activeRead, activeSame, activeSome⟩ := parseOptional_of_strip activeNamed
  obtain ⟨code, codeRead, codeSame, codeSome⟩ := parseOptional_of_strip codeNamed
  have digestRead : Digest.parse row.requestDigest = .ok ⟨row.requestDigest, digested⟩ := by
    rw [Digest.parse, dif_pos digested]
  obtain ⟨leased, finished, rejected⟩ := chain.phase.states
  have read := readJob_of_parsed idRead runRead keyRead digestRead activeRead codeRead
    (by rw [activeSome]; exact leased) finished (by rw [codeSome]; exact rejected)
  refine ⟨_, (validated_ok ..).mpr read, ?_⟩
  simp only [columnsOfJob, trimmedJob, idSame, runSame, keySame, activeSame, codeSame]

theorem executionAttemptModels_of_sane (rows : List RunExecutionAttemptRow)
    (readable : ∀ row ∈ rows, row.Sane platform now ∧ strip row.jobId ≠ "" ∧
      0 < row.ordinal ∧ 0 < row.leaseGeneration) :
    ∃ attempts, rows.mapM executionAttemptModel = .ok attempts ∧
      attempts.map columnsOfAttempt = rows.map trimmedAttempt := by
  induction rows with
  | nil => exact ⟨[], rfl, rfl⟩
  | cons row rest ih =>
      obtain ⟨sane, owner, counted⟩ := readable row List.mem_cons_self
      obtain ⟨attempt, read, same⟩ := executionAttemptModel_of_sane sane owner counted
      obtain ⟨attempts, others, sameOthers⟩ :=
        ih fun other member => readable other (List.mem_cons_of_mem _ member)
      exact ⟨attempt :: attempts, by simp [List.mapM_cons, read, others, bind, Except.bind, pure,
        Except.pure], by simp [same, sameOthers]⟩

end

/-! ## The records of a closed job pass -/

theorem zipIdx_of_range' {Item : Type} (number : Item → Nat) (items : List Item) (start : Nat)
    (numbered : items.map number = List.range' start items.length) :
    ∀ pair ∈ items.zipIdx start, number pair.1 = pair.2 := by
  induction items generalizing start with
  | nil => simp
  | cons item rest ih =>
      simp only [List.map_cons, List.length_cons, List.range'_succ, List.cons.injEq] at numbered
      intro pair member
      simp only [List.zipIdx_cons, List.mem_cons] at member
      rcases member with rfl | later
      · exact numbered.1
      · exact ih (start + 1) numbered.2 pair later

theorem zip_tail_of_pairwise {Item : Type} {Related : Item → Item → Prop} (items : List Item)
    (ordered : items.Pairwise Related) :
    ∀ pair ∈ items.zip items.tail, Related pair.1 pair.2 := by
  induction items with
  | nil => simp
  | cons item rest ih =>
      cases rest with
      | nil => simp
      | cons next others =>
          have later := ih (List.pairwise_cons.mp ordered).2
          intro pair member
          simp only [List.tail_cons, List.zip_cons_cons, List.mem_cons] at member
          rcases member with rfl | inside
          · exact (List.pairwise_cons.mp ordered).1 next List.mem_cons_self
          · exact later pair inside

section ClosedChain

variable {platform : Platform} {now : Time} {row : RunExecutionJobRow}
  {rows : List RunExecutionAttemptRow} {job : RunExecutionJob}
  {attempts : List RunExecutionAttempt}

/-- A column of the records is the column of the rows. -/
theorem column_of_columns {Value : Type} (column : RunExecutionAttemptRow → Value)
    (same : attempts.map columnsOfAttempt = rows.map trimmedAttempt)
    (kept : ∀ row, column (trimmedAttempt row) = column row) :
    attempts.map (fun attempt => column (columnsOfAttempt attempt)) = rows.map column := by
  have mapped := congrArg (List.map column) same
  simp only [List.map_map] at mapped
  rw [show (fun attempt => column (columnsOfAttempt attempt)) = column ∘ columnsOfAttempt from rfl,
    mapped]
  exact List.map_congr_left fun row _ => kept row

theorem row_of_attempt (same : attempts.map columnsOfAttempt = rows.map trimmedAttempt)
    {attempt : RunExecutionAttempt} (member : attempt ∈ attempts) :
    ∃ row ∈ rows, columnsOfAttempt attempt = trimmedAttempt row := by
  have inside : columnsOfAttempt attempt ∈ rows.map trimmedAttempt := by
    rw [← same]
    exact List.mem_map_of_mem member
  obtain ⟨row, stored, isRow⟩ := List.mem_map.mp inside
  exact ⟨row, stored, isRow.symm⟩

theorem ordinalsDense_of_chain (chain : JobChain platform now row rows)
    (sameJob : columnsOfJob job = trimmedJob row)
    (same : attempts.map columnsOfAttempt = rows.map trimmedAttempt) :
    ordinalsDense job attempts = true ∧ attemptsUnique attempts = true := by
  have ordinals := column_of_columns (fun row => row.ordinal) same fun _ => rfl
  have generations := column_of_columns (fun row => row.leaseGeneration) same fun _ => rfl
  rw [chain.ordinals] at ordinals
  rw [chain.generations] at generations
  simp only [columnsOfAttempt] at ordinals generations
  have count : attempts.length = row.leaseGeneration := by
    simpa using congrArg List.length ordinals
  constructor
  · rw [ordinalsDense, List.all_eq_true]
    rw [← count] at ordinals generations
    intro pair member
    have inside : pair.1 ∈ attempts := List.fst_mem_of_mem_zipIdx member
    obtain ⟨stored, isStored, columns⟩ := row_of_attempt same inside
    have owner : pair.1.jobId.1 = job.jobId.1 := by
      calc pair.1.jobId.1 = strip stored.jobId :=
            congrArg RunExecutionAttemptRow.jobId columns
        _ = strip row.id := by rw [chain.owned stored isStored]
        _ = job.jobId.1 := (congrArg RunExecutionJobRow.id sameJob).symm
    have ordinal := zipIdx_of_range' _ attempts 1 ordinals pair member
    have generation := zipIdx_of_range' _ attempts 1 generations pair member
    simp only [Bool.and_eq_true, beq_iff_eq]
    exact ⟨⟨owner, ordinal⟩, generation⟩
  · have distinct : (List.range' 1 row.leaseGeneration).dedup = List.range' 1 row.leaseGeneration :=
      List.dedup_eq_self.mpr (List.nodup_range' ..)
    simp only [attemptsUnique, ordinals, generations, distinct, List.length_range', count,
      beq_self_eq_true, Bool.and_self]

theorem leasedInOrder_of_chain (chain : JobChain platform now row rows)
    (same : attempts.map columnsOfAttempt = rows.map trimmedAttempt) :
    leasedInOrder attempts = true := by
  have leased := column_of_columns (fun row => row.leasedAt) same fun _ => rfl
  have ordered : (rows.map fun row => row.leasedAt).Pairwise (· ≤ ·) :=
    List.pairwise_map.mpr chain.ordered
  rw [← leased] at ordered
  rw [leasedInOrder, List.all_eq_true]
  intro pair member
  exact decide_eq_true (zip_tail_of_pairwise attempts (List.pairwise_map.mp ordered) pair member)

theorem timestampsSane_of_chain (chain : JobChain platform now row rows)
    (unleased : ∀ stored ∈ rows, stored.status ≠ .leased)
    (same : attempts.map columnsOfAttempt = rows.map trimmedAttempt) :
    timestampsSane attempts = true := by
  rw [timestampsSane, List.all_eq_true]
  intro attempt member
  obtain ⟨stored, isStored, columns⟩ := row_of_attempt same member
  have sane := chain.sane stored isStored
  obtain ⟨finishedAt, finished⟩ : ∃ finishedAt, stored.finishedAt = some finishedAt := by
    cases given : stored.finishedAt with
    | none => exact absurd (sane.active.mpr given) (unleased stored isStored)
    | some finishedAt => exact ⟨finishedAt, rfl⟩
  obtain ⟨beaten, ranOut⟩ := sane.finished finishedAt finished
  have leasedAt : attempt.leasedAt = stored.leasedAt :=
    congrArg RunExecutionAttemptRow.leasedAt columns
  have heartbeat : attempt.lastHeartbeatAt = stored.lastHeartbeatAt :=
    congrArg RunExecutionAttemptRow.lastHeartbeatAt columns
  have expires : attempt.leaseExpiresAt = stored.leaseExpiresAt :=
    congrArg RunExecutionAttemptRow.leaseExpiresAt columns
  have ended : attempt.finishedAt = some finishedAt :=
    (congrArg RunExecutionAttemptRow.finishedAt columns).trans finished
  have status : attempt.status = stored.status := congrArg RunExecutionAttemptRow.status columns
  simp only [leasedAt, heartbeat, expires, ended, status, Option.any_some, Bool.and_eq_true,
    decide_eq_true_eq, Bool.or_eq_true, bne_iff_ne]
  refine ⟨sane.unexpired, ⟨le_trans sane.heartbeat beaten, beaten⟩, ?_⟩
  by_cases expired : stored.status = .expired
  · exact Or.inr (ranOut expired)
  · exact Or.inl expired

end ClosedChain

section ClosedJob

variable {platform : Platform} {now : Time} {row : RunExecutionJobRow}
  {rows earlier : List RunExecutionAttemptRow} {current : RunExecutionAttemptRow}
  {job : RunExecutionJob} {attempts : List RunExecutionAttempt}

/-- The last attempt of a chain carries the job's generation. -/
theorem last_generation (chain : JobChain platform now row (earlier ++ [current])) :
    current.leaseGeneration = row.leaseGeneration := by
  have generations := chain.generations
  have count : row.leaseGeneration = earlier.length + 1 := by
    simpa using (congrArg List.length generations).symm
  rw [count, List.range'_concat, List.map_append] at generations
  have last := (List.append_inj' generations rfl).2
  simp only [List.map_cons, List.map_nil, List.cons.injEq] at last
  omega

theorem last_of_columns
    (same : attempts.map columnsOfAttempt = (earlier ++ [current]).map trimmedAttempt) :
    ∃ before last, attempts = before ++ [last] ∧
      before.map columnsOfAttempt = earlier.map trimmedAttempt ∧
      columnsOfAttempt last = trimmedAttempt current := by
  rw [List.map_append, List.map_eq_append_iff] at same
  obtain ⟨before, rest, rfl, sameBefore, sameRest⟩ := same
  rw [List.map_cons, List.map_nil, List.map_eq_singleton_iff] at sameRest
  obtain ⟨last, rfl, sameLast⟩ := sameRest
  exact ⟨before, last, rfl, sameBefore, sameLast⟩

theorem terminalAgrees_of_chain (chain : JobChain platform now row (earlier ++ [current]))
    (yielded : ∀ attempt ∈ earlier, attempt.Yielded) (outcome : ClosedBy row current)
    (sameJob : columnsOfJob job = trimmedJob row)
    (same : attempts.map columnsOfAttempt = (earlier ++ [current]).map trimmedAttempt) :
    terminalAgrees job attempts = true := by
  obtain ⟨before, last, rfl, sameBefore, sameLast⟩ := last_of_columns same
  have generation : job.leaseGeneration = last.leaseGeneration := by
    calc job.leaseGeneration = row.leaseGeneration :=
          congrArg RunExecutionJobRow.leaseGeneration sameJob
      _ = current.leaseGeneration := (last_generation chain).symm
      _ = last.leaseGeneration :=
          (congrArg RunExecutionAttemptRow.leaseGeneration sameLast).symm
  have given : ∀ attempt ∈ before, attempt.status = .released ∨ attempt.status = .expired := by
    intro attempt member
    obtain ⟨stored, isStored, columns⟩ := row_of_attempt sameBefore member
    have status : attempt.status = stored.status := congrArg RunExecutionAttemptRow.status columns
    rw [status]
    exact yielded stored isStored
  have jobStatus : job.status = row.status := congrArg RunExecutionJobRow.status sameJob
  have lastStatus : last.status = current.status :=
    congrArg RunExecutionAttemptRow.status sameLast
  simp only [terminalAgrees, List.getLast?_concat, Option.any_some, List.dropLast_concat,
    Bool.and_eq_true, Bool.or_eq_true, beq_iff_eq, List.all_eq_true, jobStatus, lastStatus]
  refine ⟨⟨generation, given⟩, ?_⟩
  rcases outcome with ⟨completed, ended, _⟩ | ⟨rejected, ended, _⟩
  · exact Or.inl ⟨completed, ended⟩
  · exact Or.inr ⟨rejected, ended⟩

/-- The records of a closed job pass the verifier's checks. -/
theorem records_of_closed (format : TimeFormat platform.coercion) (standard : Standard platform)
    (chain : JobChain platform now row rows) (closed : row.status.terminal = true)
    (sameJob : columnsOfJob job = trimmedJob row)
    (same : attempts.map columnsOfAttempt = rows.map trimmedAttempt) :
    jobRecordValid platform format row.runId job (.str (jobDigest platform format job)) attempts =
      .ok true ∧ attemptChainValid job attempts = true := by
  obtain ⟨dense, unique⟩ := ordinalsDense_of_chain chain sameJob same
  have ordered := leasedInOrder_of_chain chain same
  cases chain.phase with
  | waiting queued =>
      rw [queued] at closed
      cases closed
  | running _ _ _ _ leased =>
      rw [leased] at closed
      cases closed
  | closed earlier current split yielded inactive finishedAt finished ended outcome =>
      subst split
      have unleased : ∀ stored ∈ earlier ++ [current], stored.status ≠ .leased := by
        intro stored member
        rcases List.mem_append.mp member with inside | isLast
        · rcases yielded stored inside with status | status <;> simp [status]
        · rw [List.mem_singleton.mp isLast]
          rcases outcome with ⟨_, status, _⟩ | ⟨_, status, _⟩ <;> simp [status]
      have sane := timestampsSane_of_chain chain unleased same
      have agrees := terminalAgrees_of_chain chain yielded outcome sameJob same
      obtain ⟨before, last, rfl, sameBefore, sameLast⟩ := last_of_columns same
      constructor
      · obtain ⟨first, isFirst⟩ : ∃ first, (before ++ [last]).head? = some first :=
          ⟨_, List.head?_eq_some_head (by simp)⟩
        obtain ⟨stored, isStored, columns⟩ := row_of_attempt same (List.mem_of_head? isFirst)
        have created : job.createdAt = row.createdAt :=
          congrArg RunExecutionJobRow.createdAt sameJob
        have leasedAt : first.leasedAt = stored.leasedAt :=
          congrArg RunExecutionAttemptRow.leasedAt columns
        have jobFinished : job.finishedAt = some finishedAt :=
          (congrArg RunExecutionJobRow.finishedAt sameJob).trans finished
        have lastFinished : last.finishedAt = some finishedAt :=
          (congrArg RunExecutionAttemptRow.finishedAt sameLast).trans ended
        have status : job.status = row.status := congrArg RunExecutionJobRow.status sameJob
        have idle : job.activeAttemptId = none := by
          have mapped : (job.activeAttemptId.map fun text => text.1) = none := by
            refine (congrArg RunExecutionJobRow.activeAttemptId sameJob).trans ?_
            rw [trimmedJob, inactive]
            rfl
          exact Option.map_eq_none_iff.mp mapped
        have runId : job.runId.1 = row.runId := by
          obtain ⟨count, issued⟩ := chain.ofRun
          refine (congrArg RunExecutionJobRow.runId sameJob).trans (strip_of_visible ?_)
          rw [issued]
          have plain : ("run".toList.all fun char => isWhitespace char == false) = true := by decide
          exact standard.issued_visible "run" count fun char inside =>
            eq_of_beq (List.all_eq_true.mp plain char inside)
        simp only [jobRecordValid, beq_self_eq_true, runId, status, closed, idle,
          Option.isNone_none, Bool.and_self, if_true, isFirst, List.getLast?_concat, created,
          leasedAt, chain.since stored isStored, decide_true, jobFinished, lastFinished,
          Option.isSome_some]
      · simp only [attemptChainValid, dense, unique, agrees, sane, ordered, Bool.and_true]
        simp

end ClosedJob

theorem attemptsOf_of_chain {platform : Platform} {now : Time} {store : Store}
    {job : RunExecutionJobRow}
    (chain : JobChain platform now job (store.queue.attemptsFor job.id)) :
    attemptsOf store job.id = store.queue.attemptsFor job.id := by
  refine List.Pairwise.insertionSort_eq ?_
  have sorted : ((store.queue.attemptsFor job.id).map fun row => row.ordinal).Pairwise (· ≤ ·) := by
    rw [chain.ordinals]
    exact List.pairwise_le_range' ..
  exact List.pairwise_map.mp sorted

/-- The exporter finds the records of every closed job, and they pass. -/
theorem exported_records_pass {platform : Platform} {now : Time} {store : Store}
    {job : RunExecutionJobRow} (format : TimeFormat platform.coercion)
    (standard : Standard platform) (invariant : QueueInvariant platform now store.queue)
    (member : job ∈ store.jobs) (closed : job.status.terminal = true) :
    ∃ members, exportExecution platform format store job.runId = .ok members ∧
      recordExecution platform format job.runId members = .ok (true, true) := by
  have chain := invariant.chains job member
  obtain ⟨record, jobRead, sameJob⟩ := executionJobModel_of_chain standard chain
  have readable : ∀ row ∈ store.queue.attemptsFor job.id, row.Sane platform now ∧
      strip row.jobId ≠ "" ∧ 0 < row.ordinal ∧ 0 < row.leaseGeneration := by
    intro row inside
    obtain ⟨_, identified⟩ := chain.identified
    refine ⟨chain.sane row inside, ?_, ?_, ?_⟩
    · rw [chain.owned row inside, identified]
      exact strip_issued _ _
    · have numbered : row.ordinal ∈ List.range' 1 job.leaseGeneration := by
        rw [← chain.ordinals]
        exact List.mem_map_of_mem inside
      exact (List.mem_range'_1.mp numbered).1
    · have numbered : row.leaseGeneration ∈ List.range' 1 job.leaseGeneration := by
        rw [← chain.generations]
        exact List.mem_map_of_mem inside
      exact (List.mem_range'_1.mp numbered).1
  obtain ⟨attempts, attemptsRead, same⟩ := executionAttemptModels_of_sane _ readable
  have found : store.jobs.find? (fun row => row.runId = job.runId) = some job :=
    Table.find_of_mem invariant.distinctRuns member
  obtain ⟨jobValid, chainValid⟩ := records_of_closed format standard chain closed sameJob same
  refine ⟨⟨recordDict (jobDocument format record) (jobDigest platform format record),
    attempts.map fun attempt =>
      recordDict (attemptDocument format attempt) (attemptDigest platform format attempt)⟩, ?_, ?_⟩
  · simp only [exportExecution, getRunExecution, found, jobRead, attemptsOf_of_chain chain,
      attemptsRead, bind, Except.bind, orRaise]
  · rw [recordExecution_exported, jobValid, chainValid]
    rfl

/-! ## Runs of the queue -/

/-- Under a clock that never goes back and with leases of at least a microsecond,
every job is leased exactly to its one leased attempt, its attempts are numbered
by generation, and the records of a closed job pass the verifier. -/
theorem queue_and_records_of_run (platform : Platform) (format : TimeFormat platform.coercion)
    (standard : Standard platform) (now : Time) (store : Store)
    (run : QueueRun platform Lasts now store) (job : RunExecutionJobRow)
    (member : job ∈ store.jobs) :
    (job.status = .leased ↔ job.activeAttemptId.isSome = true) ∧
    (∀ attemptId, job.activeAttemptId = some attemptId →
      ∃ attempt ∈ store.attempts, attempt.id = attemptId ∧ attempt.jobId = job.id ∧
        attempt.status = .leased ∧ attempt.leaseGeneration = job.leaseGeneration ∧
        ∀ other ∈ store.attempts, other.jobId = job.id → other.status = .leased →
          other = attempt) ∧
    (attemptsOf store job.id).map (fun attempt => attempt.ordinal) =
      List.range' 1 job.leaseGeneration ∧
    (attemptsOf store job.id).map (fun attempt => attempt.leaseGeneration) =
      List.range' 1 job.leaseGeneration ∧
    (job.finishedAt.isSome = true ↔ job.status = .completed ∨ job.status = .rejected) ∧
    (job.rejectionCode.isSome = true ↔ job.status = .rejected) ∧
    (job.status = .completed ∨ job.status = .rejected →
      ∃ members, exportExecution platform format store job.runId = .ok members ∧
        recordExecution platform format job.runId members = .ok (true, true)) := by
  have invariant := run.invariant
  have chain := invariant.chains job member
  obtain ⟨leased, finished, rejected⟩ := chain.phase.states
  have terminal : job.status.terminal = true ↔ job.status = .completed ∨ job.status = .rejected := by
    cases job.status <;> simp [JobStatus.terminal]
  rw [attemptsOf_of_chain chain]
  refine ⟨leased, ?_, chain.ordinals, chain.generations, finished.symm.trans terminal,
    rejected.symm, fun closed =>
      exported_records_pass format standard invariant member (terminal.mpr closed)⟩
  intro attemptId active
  cases phase : chain.phase with
  | waiting _ inactive =>
      rw [inactive] at active
      cases active
  | closed _ _ _ _ inactive =>
      rw [inactive] at active
      cases active
  | running earlier current split yielded _ pointed _ _ held =>
      rw [pointed] at active
      have inside : ∀ attempt, attempt ∈ store.queue.attemptsFor job.id ↔
          attempt ∈ store.attempts ∧ attempt.jobId = job.id := by
        intro attempt
        simp [Queue.attemptsFor, Store.queue]
      have stored := (inside current).mp (by rw [split]; simp)
      have generation : current.leaseGeneration = job.leaseGeneration := by
        rw [split] at chain
        exact last_generation chain
      refine ⟨current, stored.1, Option.some.inj active, stored.2, held, generation, ?_⟩
      intro other otherStored owned otherLeased
      have listed := (inside other).mpr ⟨otherStored, owned⟩
      rw [split] at listed
      rcases List.mem_append.mp listed with before | isLast
      · rcases yielded other before with status | status <;> simp [status] at otherLeased
      · exact List.mem_singleton.mp isLast

namespace Sample

open Evidrun.Database.Sample (platform enqueueRequest enqueued claimed fence failure failed)

/-- Instants written as decimal microseconds. -/
def format : TimeFormat platform.coercion where
  write time := String.ofList (writeInt time)
  read text := match readNumberToken text.toList with
    | some (.int time) => some time
    | _ => none
  read_write time := by
    rw [String.toList_ofList, (readNumberToken_writeInt time).2.2]
  stamped _ := rfl

theorem standard : Standard platform where
  hexdigest _ := by
    change isDigest Database.Sample.digestText = true
    decide
  uuid_visible count char member := by
    have written : char ∈ Nat.toDigits 10 count := by simpa [platform] using member
    have digit : char.isDigit = true :=
      Nat.isDigit_of_mem_toDigits (by decide) (by decide) written
    simp only [Char.isDigit, Bool.and_eq_true, decide_eq_true_eq, ge_iff_le,
      UInt32.le_iff_toNat_le] at digit
    have from48 : 48 ≤ char.toNat := digit.1
    have to57 : char.toNat ≤ 57 := digit.2
    simp only [isWhitespace, Bool.or_eq_false_iff, Bool.and_eq_false_iff, decide_eq_false_iff_not,
      beq_eq_false_iff_ne]
    omega

/-- A heartbeat that extends the lease by a positive time below half a microsecond. -/
def beaten : Store := (heartbeatLease fence (1 / 16777216) 1 claimed).store

def reclaimed : Store := (claimNextJob platform ⟨"worker", 30, none⟩ 1 beaten).store

def completed : Store := (completeLease ⟨"job_2", "attempt_4", "worker", 2⟩ 2 reclaimed).store

theorem run_completed : QueueRun platform (fun seconds => 0 < seconds) 2 completed := by
  have start : QueueRun platform (fun seconds => 0 < seconds) 0 Database.Sample.admitted :=
    .start 0 ⟨rfl, rfl, rfl, rfl⟩
  have first : QueueRun platform (fun seconds => 0 < seconds) 0 enqueued :=
    .next start (.enqueueRun enqueueRequest 0 (by decide))
  have second : QueueRun platform (fun seconds => 0 < seconds) 0 claimed :=
    .next first (.claimNextJob ⟨"worker", 30, none⟩ 0 (by decide) (by norm_num))
  have third : QueueRun platform (fun seconds => 0 < seconds) 1 beaten :=
    .next second (.heartbeatLease fence (1 / 16777216) 1 (by decide) (by norm_num))
  have fourth : QueueRun platform (fun seconds => 0 < seconds) 1 reclaimed :=
    .next third (.claimNextJob ⟨"worker", 30, none⟩ 1 (by decide) (by norm_num))
  exact .next fourth (.completeLease ⟨"job_2", "attempt_4", "worker", 2⟩ 2 (by decide))

theorem run_failed : QueueRun platform Lasts 1 failed := by
  have start : QueueRun platform Lasts 0 Database.Sample.admitted := .start 0 ⟨rfl, rfl, rfl, rfl⟩
  have first : QueueRun platform Lasts 0 enqueued :=
    .next start (.enqueueRun enqueueRequest 0 (by decide))
  have lasting : Lasts 30 := by
    unfold Lasts
    decide +kernel
  have second : QueueRun platform Lasts 0 claimed :=
    .next first (.claimNextJob ⟨"worker", 30, none⟩ 0 (by decide) lasting)
  exact .next second (.appendEvent failure (fun _ => 1) (by decide) (by decide))

end Sample

theorem records_of_failed_sample :
    ∃ job ∈ Database.Sample.failed.jobs, job.status = .completed ∧
      ∃ members, exportExecution Database.Sample.platform Sample.format Database.Sample.failed
          job.runId = .ok members ∧
        recordExecution Database.Sample.platform Sample.format job.runId members =
          .ok (true, true) := by
  have evaluated : Database.Sample.failed.jobs.head?.map (fun job => job.status) =
      some .completed := by
    decide +kernel
  obtain ⟨job, found, completed⟩ := Option.map_eq_some_iff.mp evaluated
  have member := List.mem_of_head? found
  obtain ⟨_, _, _, _, _, _, records⟩ := queue_and_records_of_run Database.Sample.platform
    Sample.format Sample.standard 1 Database.Sample.failed Sample.run_failed job member
  exact ⟨job, member, completed, records (Or.inl completed)⟩

/-- A lease extended by a positive time that rounds to no time leaves an attempt
whose last heartbeat is not before its expiry. -/
theorem short_heartbeat_breaks_records :
    ∃ store, QueueRun Database.Sample.platform (fun seconds => 0 < seconds) 2 store ∧
      ∃ job ∈ store.jobs, job.status = .completed ∧
        ∃ members, exportExecution Database.Sample.platform Sample.format store job.runId =
            .ok members ∧
          recordExecution Database.Sample.platform Sample.format job.runId members =
            .ok (true, false) := by
  have evaluated : Sample.completed.jobs.head?.map (fun job => (job.status,
      (exportExecution Database.Sample.platform Sample.format Sample.completed job.runId).bind
        (recordExecution Database.Sample.platform Sample.format job.runId))) =
      some (.completed, .ok (true, false)) := by
    decide +kernel
  obtain ⟨job, found, facts⟩ := Option.map_eq_some_iff.mp evaluated
  obtain ⟨completed, checked⟩ := Prod.mk.inj facts
  obtain ⟨members, exported, recorded⟩ := (bind_ok ..).mp checked
  exact ⟨Sample.completed, Sample.run_completed, job, List.mem_of_head? found, completed, members,
    exported, recorded⟩

end Evidrun.Evidence
