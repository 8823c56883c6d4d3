import Evidrun.Database.Ledger
import Mathlib.Data.Rat.Floor

/-!
# The execution queue

Jobs and attempts as contracts (`contracts/runtime/execution.py`,
`queue/models.py`) and the operations on leases (`queue/lease.py`). A job or
attempt contract carries the state rules of its validator, so a row that breaks
one has no contract: the call that converts it raises, after its commit.
-/

namespace Evidrun.Database

open JsonText DocumentSchema Evidrun.Contracts

set_option autoImplicit false

/-! ## Contracts -/

/-- `StringConstraints(strip_whitespace=True, min_length=1)`. -/
def NonEmptyStr := { text : String // strip text = text ∧ text ≠ "" }

def NonEmptyStr.parse (text : String) : Except String NonEmptyStr :=
  if given : strip text ≠ "" then .ok ⟨strip text, strip_strip text, given⟩
  else .error "String should have at least 1 character"

def Digest := { text : String // isDigest text = true }

def Digest.parse (text : String) : Except String Digest :=
  if shaped : isDigest text = true then .ok ⟨text, shaped⟩
  else .error "String should match pattern '^[0-9a-f]\x7b64\x7d$'"

/-- An optional field of a contract. -/
def parseOptional {Value : Type} (parse : String → Except String Value) :
    Option String → Except String (Option Value)
  | none => .ok none
  | some text => do
      let value ← parse text
      .ok (some value)

/-! ## Texts that are not blank -/

theorem strip_issued (kind rest : String) : strip (kind ++ "_" ++ rest) ≠ "" := by
  have inside : '_' ∈ (kind ++ "_" ++ rest).toList := by simp
  exact strip_ne_empty inside (by decide)

theorem strip_of_pyStrip {text : String} (given : pyStrip text ≠ "") : strip text ≠ "" := by
  have chars : stripChars (fun char => isWhitespace char ||
      (0x1C ≤ char.toNat && char.toNat ≤ 0x1F)) text.toList ≠ [] := by
    intro blank
    exact given (by rw [pyStrip, blank])
  obtain ⟨char, member, visible⟩ := visible_of_stripChars chars
  simp only [Bool.or_eq_false_iff] at visible
  exact strip_ne_empty member visible.1

theorem strip_of_isReasonCode {code : String} (coded : isReasonCode code = true) :
    strip code ≠ "" := by
  simp only [isReasonCode, Bool.and_eq_true, List.any_eq_true] at coded
  obtain ⟨⟨_, first, member, lower⟩, _⟩ := coded
  refine strip_ne_empty (List.mem_of_mem_take member) ?_
  simp only [decide_eq_true_eq, Char.le_def, UInt32.le_iff_toNat_le] at lower
  have from97 : 97 ≤ first.toNat := lower.1
  have to122 : first.toNat ≤ 122 := lower.2
  simp only [isWhitespace, Bool.or_eq_false_iff, Bool.and_eq_false_iff, decide_eq_false_iff_not,
    beq_eq_false_iff_ne]
  omega

theorem parse_of_strip {text : String} (given : strip text ≠ "") :
    ∃ parsed : NonEmptyStr, NonEmptyStr.parse text = .ok parsed ∧ parsed.1 = strip text :=
  ⟨⟨strip text, strip_strip text, given⟩, by rw [NonEmptyStr.parse, dif_pos given], rfl⟩

theorem parseOptional_of_strip {text : Option String}
    (given : ∀ value, text = some value → strip value ≠ "") :
    ∃ parsed, parseOptional NonEmptyStr.parse text = .ok parsed ∧
      parsed.map (fun value => value.1) = text.map strip ∧ parsed.isSome = text.isSome := by
  cases text with
  | none => exact ⟨none, rfl, rfl, rfl⟩
  | some value =>
      obtain ⟨parsed, read, same⟩ := parse_of_strip (given value rfl)
      exact ⟨some parsed, by simp only [parseOptional, read, bind, Except.bind], by simp [same], rfl⟩

/-! ## Jobs and attempts -/

def JobStatus.terminal : JobStatus → Bool
  | .completed | .rejected => true
  | .queued | .leased => false

structure RunExecutionJob where
  jobId : NonEmptyStr
  runId : NonEmptyStr
  status : JobStatus
  idempotencyKey : NonEmptyStr
  requestDigest : Digest
  availableAt : Time
  activeAttemptId : Option NonEmptyStr
  leaseGeneration : Nat
  createdAt : Time
  finishedAt : Option Time
  rejectionCode : Option NonEmptyStr
  leased_iff : status = .leased ↔ activeAttemptId.isSome = true
  finished_iff : status.terminal = true ↔ finishedAt.isSome = true
  rejected_iff : status = .rejected ↔ rejectionCode.isSome = true

structure RunExecutionAttempt where
  attemptId : NonEmptyStr
  jobId : NonEmptyStr
  ordinal : Nat
  workerId : NonEmptyStr
  leaseGeneration : Nat
  status : AttemptStatus
  leasedAt : Time
  leaseExpiresAt : Time
  lastHeartbeatAt : Time
  finishedAt : Option Time
  reasonCode : Option NonEmptyStr
  ordinal_pos : 0 < ordinal
  generation_pos : 0 < leaseGeneration
  expires_after : leasedAt < leaseExpiresAt
  heartbeat_after : leasedAt ≤ lastHeartbeatAt
  active_iff : status = .leased ↔ finishedAt = none

/-- The contract of a job row, or the first rule of the validator that it breaks. -/
def readJob (row : RunExecutionJobRow) : Except String RunExecutionJob := do
  let jobId ← NonEmptyStr.parse row.id
  let runId ← NonEmptyStr.parse row.runId
  let idempotencyKey ← NonEmptyStr.parse row.idempotencyKey
  let requestDigest ← Digest.parse row.requestDigest
  let activeAttemptId ← parseOptional NonEmptyStr.parse row.activeAttemptId
  let rejectionCode ← parseOptional NonEmptyStr.parse row.rejectionCode
  if leased : row.status = .leased ↔ activeAttemptId.isSome = true then
    if finished : row.status.terminal = true ↔ row.finishedAt.isSome = true then
      if rejected : row.status = .rejected ↔ rejectionCode.isSome = true then
        .ok
          { jobId, runId, idempotencyKey, requestDigest, activeAttemptId, rejectionCode
            status := row.status
            availableAt := row.availableAt
            leaseGeneration := row.leaseGeneration
            createdAt := row.createdAt
            finishedAt := row.finishedAt
            leased_iff := leased
            finished_iff := finished
            rejected_iff := rejected }
      else .error (if row.status = .rejected then "rejected job requires a rejection code"
        else "only a rejected job can have a rejection code")
    else .error (if row.status.terminal then "terminal job requires finished_at_utc"
      else "non-terminal job cannot have finished_at_utc")
  else .error (if row.status = .leased then "leased job requires an active attempt"
    else "only a leased job can expose an active attempt")

def readAttempt (row : RunExecutionAttemptRow) : Except String RunExecutionAttempt := do
  let attemptId ← NonEmptyStr.parse row.id
  let jobId ← NonEmptyStr.parse row.jobId
  let workerId ← NonEmptyStr.parse row.workerId
  let reasonCode ← parseOptional NonEmptyStr.parse row.reasonCode
  if counted : 0 < row.ordinal ∧ 0 < row.leaseGeneration then
    if expires : row.leasedAt < row.leaseExpiresAt then
      if heartbeat : row.leasedAt ≤ row.lastHeartbeatAt then
        if active : row.status = .leased ↔ row.finishedAt = none then
          .ok
            { attemptId, jobId, workerId, reasonCode
              ordinal := row.ordinal
              leaseGeneration := row.leaseGeneration
              status := row.status
              leasedAt := row.leasedAt
              leaseExpiresAt := row.leaseExpiresAt
              lastHeartbeatAt := row.lastHeartbeatAt
              finishedAt := row.finishedAt
              ordinal_pos := counted.1
              generation_pos := counted.2
              expires_after := expires
              heartbeat_after := heartbeat
              active_iff := active }
        else .error (if row.status = .leased then "active attempt cannot be finished"
          else "inactive attempt requires finished_at_utc")
      else .error "heartbeat cannot predate lease acquisition"
    else .error "lease expiry must be after lease acquisition"
  else .error "Input should be greater than 0"

theorem readJob_of_parsed {row : RunExecutionJobRow} {jobId runId idempotencyKey : NonEmptyStr}
    {requestDigest : Digest} {activeAttemptId rejectionCode : Option NonEmptyStr}
    (jobParsed : NonEmptyStr.parse row.id = .ok jobId)
    (runParsed : NonEmptyStr.parse row.runId = .ok runId)
    (keyParsed : NonEmptyStr.parse row.idempotencyKey = .ok idempotencyKey)
    (digestParsed : Digest.parse row.requestDigest = .ok requestDigest)
    (activeParsed : parseOptional NonEmptyStr.parse row.activeAttemptId = .ok activeAttemptId)
    (rejectionParsed : parseOptional NonEmptyStr.parse row.rejectionCode = .ok rejectionCode)
    (leased : row.status = .leased ↔ activeAttemptId.isSome = true)
    (finished : row.status.terminal = true ↔ row.finishedAt.isSome = true)
    (rejected : row.status = .rejected ↔ rejectionCode.isSome = true) :
    readJob row = .ok
      { jobId, runId, idempotencyKey, requestDigest, activeAttemptId, rejectionCode
        status := row.status
        availableAt := row.availableAt
        leaseGeneration := row.leaseGeneration
        createdAt := row.createdAt
        finishedAt := row.finishedAt
        leased_iff := leased
        finished_iff := finished
        rejected_iff := rejected } := by
  simp only [readJob, jobParsed, runParsed, keyParsed, digestParsed, activeParsed,
    rejectionParsed, bind, Except.bind]
  rw [dif_pos leased, dif_pos finished, dif_pos rejected]

theorem readAttempt_of_parsed {row : RunExecutionAttemptRow}
    {attemptId jobId workerId : NonEmptyStr} {reasonCode : Option NonEmptyStr}
    (attemptParsed : NonEmptyStr.parse row.id = .ok attemptId)
    (jobParsed : NonEmptyStr.parse row.jobId = .ok jobId)
    (workerParsed : NonEmptyStr.parse row.workerId = .ok workerId)
    (reasonParsed : parseOptional NonEmptyStr.parse row.reasonCode = .ok reasonCode)
    (counted : 0 < row.ordinal ∧ 0 < row.leaseGeneration)
    (expires : row.leasedAt < row.leaseExpiresAt)
    (heartbeat : row.leasedAt ≤ row.lastHeartbeatAt)
    (active : row.status = .leased ↔ row.finishedAt = none) :
    readAttempt row = .ok
      { attemptId, jobId, workerId, reasonCode
        ordinal := row.ordinal
        leaseGeneration := row.leaseGeneration
        status := row.status
        leasedAt := row.leasedAt
        leaseExpiresAt := row.leaseExpiresAt
        lastHeartbeatAt := row.lastHeartbeatAt
        finishedAt := row.finishedAt
        ordinal_pos := counted.1
        generation_pos := counted.2
        expires_after := expires
        heartbeat_after := heartbeat
        active_iff := active } := by
  simp only [readAttempt, attemptParsed, jobParsed, workerParsed, reasonParsed, bind, Except.bind]
  rw [dif_pos counted, dif_pos expires, dif_pos heartbeat, dif_pos active]

def executionJobModel (row : RunExecutionJobRow) : Except Exc RunExecutionJob :=
  validated (readJob row)

def executionAttemptModel (row : RunExecutionAttemptRow) : Except Exc RunExecutionAttempt :=
  validated (readAttempt row)

/-! ## Lease durations -/

/-- The nearest integer, a half going to the even neighbour. -/
def roundHalfEven (value : Rat) : Int :=
  let below := ⌊value⌋
  let rest := value - below
  if rest < 1 / 2 then below
  else if 1 / 2 < rest then below + 1
  else if below % 2 = 0 then below else below + 1

/-- `timedelta(seconds=seconds)` in microseconds. -/
def timedeltaSeconds (seconds : Rat) : Int := roundHalfEven (seconds * 1000000)

/-! ## `claim_next_job` -/

/-- Expire the lease of one leased job when its attempt has run out. -/
def expireLease (claimedAt : Time) (store : Store) (leased : RunExecutionJobRow) :
    Except Exc Store := do
  let attemptId ← orRaise leased.activeAttemptId (.valueError "leased job has no active attempt")
  let attempt ← orRaise (store.attempt? attemptId)
    (.valueError "leased job references a missing attempt")
  if attempt.leaseExpiresAt ≤ claimedAt then
    .ok <| (store.updateAttempt attemptId fun attempt =>
        { attempt with
          status := .expired
          finishedAt := some claimedAt
          reasonCode := some "lease_expired" }).updateJob leased.id fun job =>
        { job with status := .queued, activeAttemptId := none, availableAt := claimedAt }
  else .ok store

def expireLeases (claimedAt : Time) (store : Store) : Except Exc Store :=
  (store.jobs.filter fun job => job.status = .leased).foldlM (expireLease claimedAt) store

/-- The order `(available_at, created_at, id)` in which queued jobs are taken. -/
def takenBefore (left right : RunExecutionJobRow) : Prop :=
  left.availableAt < right.availableAt ∨
    left.availableAt = right.availableAt ∧
      (left.createdAt < right.createdAt ∨
        left.createdAt = right.createdAt ∧ left.id ≤ right.id)

instance : DecidableRel takenBefore := fun left right => by
  unfold takenBefore
  infer_instance

def nextJob? (store : Store) (jobId : Option String) (now : Time) : Option RunExecutionJobRow :=
  ((store.jobs.filter fun job => job.status = .queued && decide (job.availableAt ≤ now) &&
      jobId.all (job.id = ·)).insertionSort takenBefore).head?

/-- `max(ordinal) or 0`, over the attempts of a job. -/
def lastOrdinal (store : Store) (jobId : String) : Nat :=
  ((store.attempts.filter fun attempt => attempt.jobId = jobId).map (·.ordinal)).foldl max 0

structure ClaimRequest where
  workerId : String
  leaseSeconds : Rat
  jobId : Option String := none

/-- The attempt a claim writes for a job. -/
def claimedAttempt (request : ClaimRequest) (store : Store) (job : RunExecutionJobRow)
    (attemptId : String) (claimedAt : Time) : RunExecutionAttemptRow where
  id := attemptId
  jobId := job.id
  ordinal := lastOrdinal store job.id + 1
  workerId := request.workerId
  leaseGeneration := job.leaseGeneration + 1
  status := .leased
  leasedAt := claimedAt
  leaseExpiresAt := claimedAt + timedeltaSeconds request.leaseSeconds
  lastHeartbeatAt := claimedAt
  finishedAt := none
  reasonCode := none

def grantTo (attempt : RunExecutionAttemptRow) (job : RunExecutionJobRow) : RunExecutionJobRow :=
  { job with
    status := .leased
    activeAttemptId := some attempt.id
    leaseGeneration := attempt.leaseGeneration }

def claimNextJobBody (platform : Platform) (request : ClaimRequest) (claimedAt : Time)
    (store : Store) :
    Except Exc (Option (RunExecutionJobRow × RunExecutionAttemptRow) × Store) := do
  require (pyStrip request.workerId != "") (.valueError "worker_id cannot be empty")
  require (decide (0 < request.leaseSeconds)) (.valueError "lease_seconds must be positive")
  let store ← expireLeases claimedAt store
  match nextJob? store request.jobId claimedAt with
  | none => .ok (none, store)
  | some job => do
      let (attemptId, store) := newId platform "attempt" store
      let attempt := claimedAttempt request store job attemptId claimedAt
      let store ← store.insertAttempt attempt
      .ok (some (grantTo attempt job, attempt), store.updateJob job.id (grantTo attempt))

def claimedModels : Option (RunExecutionJobRow × RunExecutionAttemptRow) →
    Except Exc (Option (RunExecutionJob × RunExecutionAttempt))
  | none => .ok none
  | some (jobRow, attemptRow) => do
      let job ← executionJobModel jobRow
      let attempt ← executionAttemptModel attemptRow
      .ok (some (job, attempt))

def claimNextJob (platform : Platform) (request : ClaimRequest) (claimedAt : Time)
    (store : Store) : Outcome (Option (RunExecutionJob × RunExecutionAttempt)) :=
  commitThen (claimNextJobBody platform request claimedAt) claimedModels store

/-! ## Operations under a fence -/

def heartbeatLeaseBody (fence : LeaseFence) (leaseSeconds : Rat) (heartbeatAt : Time)
    (store : Store) : Except Exc (RunExecutionAttemptRow × Store) := do
  let (_, attempt) ← requireActiveLease store fence heartbeatAt
  -- `lease_seconds` is not checked here, unlike in a claim.
  let extend := fun attempt : RunExecutionAttemptRow =>
    { attempt with
      lastHeartbeatAt := heartbeatAt
      leaseExpiresAt := heartbeatAt + timedeltaSeconds leaseSeconds }
  .ok (extend attempt, store.updateAttempt fence.attemptId extend)

def heartbeatLease (fence : LeaseFence) (leaseSeconds : Rat) (heartbeatAt : Time)
    (store : Store) : Outcome RunExecutionAttempt :=
  commitThen (heartbeatLeaseBody fence leaseSeconds heartbeatAt) executionAttemptModel store

def assertLease (store : Store) (fence : LeaseFence) (now : Time) : Except Exc Unit := do
  let _ ← requireActiveLease store fence now
  .ok ()

/-- Whether a Subject was invoked and has not responded. -/
def invocationPending (store : Store) (runId : String) : Bool :=
  let kinds := (store.events.filter fun event => event.runId = runId).map (·.eventType)
  decide (kinds.count .subjectResponded < kinds.count .subjectInvoked)

def releaseLeaseBody (fence : LeaseFence) (reasonCode : String) (availableAt : Option Time)
    (releasedAt : Time) (store : Store) : Except Exc (RunExecutionJobRow × Store) := do
  validateReasonCode reasonCode
  let (job, _) ← requireActiveLease store fence releasedAt
  require (!invocationPending store job.runId)
    (.valueError "lease cannot be released while a Subject invocation is pending")
  let release := fun job : RunExecutionJobRow =>
    { job with
      status := .queued
      activeAttemptId := none
      availableAt := availableAt.getD releasedAt }
  .ok (release job, (store.updateAttempt fence.attemptId fun attempt =>
      { attempt with
        status := .released
        finishedAt := some releasedAt
        reasonCode := some reasonCode }).updateJob fence.jobId release)

def releaseLease (fence : LeaseFence) (reasonCode : String) (availableAt : Option Time)
    (releasedAt : Time) (store : Store) : Outcome RunExecutionJob :=
  commitThen (releaseLeaseBody fence reasonCode availableAt releasedAt) executionJobModel store

/-- The job row a fenced operation returns, read back after its write. -/
def jobAfter (store : Store) (jobId : String) : Except Exc RunExecutionJobRow :=
  orRaise (store.job? jobId) (.keyError jobId)

def rejectLeaseBody (fence : LeaseFence) (reasonCode : String) (rejectedAt : Time)
    (store : Store) : Except Exc (RunExecutionJobRow × Store) := do
  validateReasonCode reasonCode
  let _ ← requireActiveLease store fence rejectedAt
  let store := settleRejected store fence rejectedAt reasonCode
  let job ← jobAfter store fence.jobId
  .ok (job, store)

def rejectLease (fence : LeaseFence) (reasonCode : String) (rejectedAt : Time) (store : Store) :
    Outcome RunExecutionJob :=
  commitThen (rejectLeaseBody fence reasonCode rejectedAt) executionJobModel store

def completeLeaseBody (fence : LeaseFence) (completedAt : Time) (store : Store) :
    Except Exc (RunExecutionJobRow × Store) := do
  let _ ← requireActiveLease store fence completedAt
  let store := settleCompleted store fence completedAt
  let job ← jobAfter store fence.jobId
  .ok (job, store)

def completeLease (fence : LeaseFence) (completedAt : Time) (store : Store) :
    Outcome RunExecutionJob :=
  commitThen (completeLeaseBody fence completedAt) executionJobModel store

/-! ## Reads -/

def getExecutionJob (store : Store) (jobId : String) : Except Exc RunExecutionJob := do
  let row ← orRaise (store.job? jobId) (.keyError jobId)
  executionJobModel row

/-- The attempts of a job `order_by(ordinal)`. -/
def attemptsOf (store : Store) (jobId : String) : List RunExecutionAttemptRow :=
  (store.attempts.filter fun attempt => attempt.jobId = jobId).insertionSort
    fun left right => left.ordinal ≤ right.ordinal

def getRunExecution (store : Store) (runId : String) :
    Except Exc (Option (RunExecutionJob × List RunExecutionAttempt)) :=
  match store.jobs.find? fun job => job.runId = runId with
  | none => .ok none
  | some row => do
      let job ← executionJobModel row
      let attempts ← (attemptsOf store row.id).mapM executionAttemptModel
      .ok (some (job, attempts))

end Evidrun.Database
