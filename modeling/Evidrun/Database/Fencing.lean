import Evidrun.Database.Store

/-!
# Lease fencing

A fence is the job, attempt, worker and generation a worker was given when it
claimed a job. Every write under a lease re-reads the live rows and refuses when
any element disagrees (`queue/fencing.py`).
-/

namespace Evidrun.Database

open JsonText DocumentSchema Evidrun.Contracts

set_option autoImplicit false

structure LeaseFence where
  jobId : String
  attemptId : String
  workerId : String
  leaseGeneration : Nat
deriving DecidableEq

/-- The fence's rows are live and its lease has not expired at `now`. -/
def leaseActive (fence : LeaseFence) (now : Time) (job : RunExecutionJobRow)
    (attempt : RunExecutionAttemptRow) : Bool :=
  job.status == .leased && job.activeAttemptId == some fence.attemptId &&
    job.leaseGeneration == fence.leaseGeneration && attempt.jobId == fence.jobId &&
    attempt.status == .leased && attempt.workerId == fence.workerId &&
    attempt.leaseGeneration == fence.leaseGeneration && decide (now < attempt.leaseExpiresAt)

def requireActiveLease (store : Store) (fence : LeaseFence) (now : Time) :
    Except Exc (RunExecutionJobRow × RunExecutionAttemptRow) :=
  match store.job? fence.jobId, store.attempt? fence.attemptId with
  | some job, some attempt =>
      if leaseActive fence now job attempt then .ok (job, attempt)
      else .error (.leaseLost "execution lease is no longer active")
  | _, _ => .error (.leaseLost "execution lease is no longer active")

def requireOwnedLease (store : Store) (fence : LeaseFence) (runId : String) (now : Time) :
    Except Exc (RunExecutionJobRow × RunExecutionAttemptRow) := do
  let (job, attempt) ← requireActiveLease store fence now
  require (job.runId == runId) (.leaseLost "execution lease does not own this Run")
  .ok (job, attempt)

def validateOptionalLease (store : Store) (lease : Option LeaseFence) (runId : String)
    (now : Time) : Except Exc Unit :=
  match lease with
  | none => .ok ()
  | some fence => do
      let _ ← requireOwnedLease store fence runId now
      .ok ()

/-- The rows of a lease that ended well. -/
def settleCompleted (store : Store) (fence : LeaseFence) (finishedAt : Time) : Store :=
  (store.updateAttempt fence.attemptId fun attempt =>
      { attempt with status := .completed, finishedAt := some finishedAt }).updateJob
    fence.jobId fun job =>
      { job with status := .completed, activeAttemptId := none, finishedAt := some finishedAt }

/-- The rows of a lease that was rejected. -/
def settleRejected (store : Store) (fence : LeaseFence) (finishedAt : Time) (reasonCode : String) :
    Store :=
  (store.updateAttempt fence.attemptId fun attempt =>
      { attempt with
        status := .rejected
        finishedAt := some finishedAt
        reasonCode := some reasonCode }).updateJob
    fence.jobId fun job =>
      { job with
        status := .rejected
        activeAttemptId := none
        finishedAt := some finishedAt
        rejectionCode := some reasonCode }

def completeActiveLease (store : Store) (fence : LeaseFence) (runId : String)
    (completedAt : Time) : Except Exc Store := do
  let _ ← requireOwnedLease store fence runId completedAt
  .ok (settleCompleted store fence completedAt)

def rejectActiveLease (store : Store) (fence : LeaseFence) (runId : String) (rejectedAt : Time)
    (reasonCode : String) : Except Exc Store := do
  let _ ← requireOwnedLease store fence runId rejectedAt
  .ok (settleRejected store fence rejectedAt reasonCode)

/-- The pattern `[a-z][a-z0-9_]{0,63}`. -/
def isReasonCode (code : String) : Bool :=
  let isLower := fun char : Char => 'a' ≤ char && char ≤ 'z'
  code.toList.length ≤ 64 && (code.toList.take 1).any isLower &&
    code.toList.all fun char => isLower char || char.isDigit || char == '_'

def validateReasonCode (code : String) : Except Exc Unit :=
  require (isReasonCode code) (.valueError "execution reason code must be a sanitized identifier")

/-! ## What an accepted fence says -/

theorem requireActiveLease_ok (store : Store) (fence : LeaseFence) (now : Time)
    (job : RunExecutionJobRow) (attempt : RunExecutionAttemptRow) :
    requireActiveLease store fence now = .ok (job, attempt) ↔
      store.job? fence.jobId = some job ∧ store.attempt? fence.attemptId = some attempt ∧
        leaseActive fence now job attempt = true := by
  unfold requireActiveLease
  cases jobFound : store.job? fence.jobId with
  | none => simp
  | some foundJob =>
      cases attemptFound : store.attempt? fence.attemptId with
      | none => simp
      | some foundAttempt =>
          by_cases active : leaseActive fence now foundJob foundAttempt = true
          · simp only [active, if_true, ok_pair, Option.some.injEq]
            constructor
            · rintro ⟨rfl, rfl⟩
              exact ⟨rfl, rfl, active⟩
            · rintro ⟨rfl, rfl, _⟩
              exact ⟨rfl, rfl⟩
          · simp only [active, Option.some.injEq]
            constructor
            · intro impossible
              cases impossible
            · rintro ⟨rfl, rfl, later⟩
              exact absurd later active

theorem leaseActive_iff (fence : LeaseFence) (now : Time) (job : RunExecutionJobRow)
    (attempt : RunExecutionAttemptRow) :
    leaseActive fence now job attempt = true ↔
      job.status = .leased ∧ job.activeAttemptId = some fence.attemptId ∧
        job.leaseGeneration = fence.leaseGeneration ∧ attempt.jobId = fence.jobId ∧
        attempt.status = .leased ∧ attempt.workerId = fence.workerId ∧
        attempt.leaseGeneration = fence.leaseGeneration ∧ now < attempt.leaseExpiresAt := by
  simp only [leaseActive, Bool.and_eq_true, beq_iff_eq, decide_eq_true_eq, and_assoc]

theorem requireOwnedLease_ok (store : Store) (fence : LeaseFence) (runId : String) (now : Time)
    (job : RunExecutionJobRow) (attempt : RunExecutionAttemptRow) :
    requireOwnedLease store fence runId now = .ok (job, attempt) ↔
      requireActiveLease store fence now = .ok (job, attempt) ∧ job.runId = runId := by
  simp only [requireOwnedLease, bind_ok, Prod.exists, require_ok, beq_iff_eq]
  constructor
  · rintro ⟨foundJob, foundAttempt, active, _, owned, same⟩
    cases same
    exact ⟨active, owned⟩
  · rintro ⟨active, owned⟩
    exact ⟨job, attempt, active, (), owned, rfl⟩

end Evidrun.Database
