import Evidrun.Database.History
import Evidrun.Lib.FencedLease
import Mathlib.Data.Prod.Lex
import Mathlib.Data.String.Basic

/-!
# Leases over whole runs

Everything that happens to the jobs and attempts of a store is one of four
steps: a job is opened, a lease is granted, extended or ended. Every store
operation is a sequence of such steps at one clock reading, and no assumption is
made on the readings of different operations.
-/

namespace Evidrun.Database

open JsonText DocumentSchema Evidrun.Contracts FencedLease

set_option autoImplicit false

/-! ## The queue and its steps -/

structure Queue where
  jobs : List RunExecutionJobRow
  attempts : List RunExecutionAttemptRow

def Store.queue (store : Store) : Queue := ⟨store.jobs, store.attempts⟩

def Queue.job? (queue : Queue) (id : String) : Option RunExecutionJobRow :=
  Table.find RunExecutionJobRow.id queue.jobs id

def Queue.attempt? (queue : Queue) (id : String) : Option RunExecutionAttemptRow :=
  Table.find RunExecutionAttemptRow.id queue.attempts id

/-- How a lease ends. -/
inductive Ending
  | expired
  | released (reasonCode : String) (availableAt : Time)
  | completed
  | rejected (reasonCode : String)

namespace Ending

def settleAttempt (ending : Ending) (now : Time) (attempt : RunExecutionAttemptRow) :
    RunExecutionAttemptRow :=
  match ending with
  | expired =>
      { attempt with
        status := .expired
        finishedAt := some now
        reasonCode := some "lease_expired" }
  | released reasonCode _ =>
      { attempt with
        status := .released
        finishedAt := some now
        reasonCode := some reasonCode }
  | completed => { attempt with status := .completed, finishedAt := some now }
  | rejected reasonCode =>
      { attempt with
        status := .rejected
        finishedAt := some now
        reasonCode := some reasonCode }

def settleJob (ending : Ending) (now : Time) (job : RunExecutionJobRow) : RunExecutionJobRow :=
  match ending with
  | expired => { job with status := .queued, activeAttemptId := none, availableAt := now }
  | released _ availableAt =>
      { job with status := .queued, activeAttemptId := none, availableAt := availableAt }
  | completed =>
      { job with status := .completed, activeAttemptId := none, finishedAt := some now }
  | rejected reasonCode =>
      { job with
        status := .rejected
        activeAttemptId := none
        finishedAt := some now
        rejectionCode := some reasonCode }

/-- A lease that ran out is expired; any other ending comes before that. -/
def Allowed (ending : Ending) (now : Time) (attempt : RunExecutionAttemptRow) : Prop :=
  match ending with
  | expired => attempt.leaseExpiresAt ≤ now
  | completed => now < attempt.leaseExpiresAt
  | released reasonCode _ | rejected reasonCode =>
      now < attempt.leaseExpiresAt ∧ isReasonCode reasonCode = true

@[simp] theorem settleJob_id (ending : Ending) (now : Time) (job : RunExecutionJobRow) :
    (ending.settleJob now job).id = job.id := by
  cases ending <;> rfl

@[simp] theorem settleAttempt_id (ending : Ending) (now : Time)
    (attempt : RunExecutionAttemptRow) : (ending.settleAttempt now attempt).id = attempt.id := by
  cases ending <;> rfl

end Ending

def beatAt (now : Time) (duration : Int) (attempt : RunExecutionAttemptRow) :
    RunExecutionAttemptRow :=
  { attempt with lastHeartbeatAt := now, leaseExpiresAt := now + duration }

@[simp] theorem grantTo_id (attempt : RunExecutionAttemptRow) (job : RunExecutionJobRow) :
    (grantTo attempt job).id = job.id := rfl

@[simp] theorem beatAt_id (now : Time) (duration : Int) (attempt : RunExecutionAttemptRow) :
    (beatAt now duration attempt).id = attempt.id := rfl

/-- The job is leased to the attempt. -/
structure Queue.Leased (queue : Queue) (job : RunExecutionJobRow)
    (attempt : RunExecutionAttemptRow) : Prop where
  job_found : queue.job? job.id = some job
  attempt_found : queue.attempt? attempt.id = some attempt
  leased : job.status = .leased
  active : job.activeAttemptId = some attempt.id

/-- A job as `enqueue_run` writes it. -/
structure RunExecutionJobRow.Opened (platform : Platform) (job : RunExecutionJobRow) (now : Time) :
    Prop where
  identified : ∃ count, job.id = "job" ++ "_" ++ platform.uuid7 count
  ofRun : ∃ count, job.runId = "run" ++ "_" ++ platform.uuid7 count
  requested : ∃ request, job.requestDigest = Database.requestDigest platform request
  queued : job.status = .queued
  inactive : job.activeAttemptId = none
  ungranted : job.leaseGeneration = 0
  unfinished : job.finishedAt = none
  unrejected : job.rejectionCode = none
  created : job.createdAt = now
  keyed : pyStrip job.idempotencyKey ≠ ""

/-- An attempt as `claim_next_job` writes it for a job. -/
structure RunExecutionAttemptRow.Granted (platform : Platform) (attempt : RunExecutionAttemptRow)
    (queue : Queue) (job : RunExecutionJobRow) (now : Time) (duration : Int) : Prop where
  identified : ∃ count, attempt.id = "attempt" ++ "_" ++ platform.uuid7 count
  owner : attempt.jobId = job.id
  ordinal : attempt.ordinal =
    ((queue.attempts.filter fun other => other.jobId = job.id).map (·.ordinal)).foldl max 0 + 1
  generation : attempt.leaseGeneration = job.leaseGeneration + 1
  leased : attempt.status = .leased
  leasedAt : attempt.leasedAt = now
  expires : attempt.leaseExpiresAt = now + duration
  heartbeat : attempt.lastHeartbeatAt = now
  unfinished : attempt.finishedAt = none
  unexplained : attempt.reasonCode = none
  worker : pyStrip attempt.workerId ≠ ""

/-- What can happen to the queue at one clock reading, for leases of durations
with a property. -/
inductive QueueStep (platform : Platform) (Lasting : Int → Prop) (now : Time) : Queue → Queue → Prop
  | opened {queue : Queue} (job : RunExecutionJobRow) (isOpened : job.Opened platform now)
      (fresh : ∀ other ∈ queue.jobs, other.id ≠ job.id)
      (single : ∀ other ∈ queue.jobs, other.runId ≠ job.runId) :
      QueueStep platform Lasting now queue { queue with jobs := queue.jobs ++ [job] }
  | granted {queue : Queue} (job : RunExecutionJobRow) (attempt : RunExecutionAttemptRow)
      (duration : Int) (lasting : Lasting duration)
      (found : queue.job? job.id = some job) (queued : job.status = .queued)
      (isGranted : attempt.Granted platform queue job now duration)
      (fresh : ∀ other ∈ queue.attempts, other.id ≠ attempt.id) :
      QueueStep platform Lasting now queue
        ⟨Table.modify RunExecutionJobRow.id queue.jobs job.id (grantTo attempt),
          queue.attempts ++ [attempt]⟩
  | extended {queue : Queue} (job : RunExecutionJobRow) (attempt : RunExecutionAttemptRow)
      (duration : Int) (lasting : Lasting duration) (held : queue.Leased job attempt)
      (live : now < attempt.leaseExpiresAt) :
      QueueStep platform Lasting now queue { queue with
        attempts := Table.modify RunExecutionAttemptRow.id queue.attempts attempt.id
          (beatAt now duration) }
  | ended {queue : Queue} (job : RunExecutionJobRow) (attempt : RunExecutionAttemptRow)
      (ending : Ending) (held : queue.Leased job attempt) (allowed : ending.Allowed now attempt) :
      QueueStep platform Lasting now queue
        ⟨Table.modify RunExecutionJobRow.id queue.jobs job.id (ending.settleJob now),
          Table.modify RunExecutionAttemptRow.id queue.attempts attempt.id
            (ending.settleAttempt now)⟩

abbrev QueueSteps (platform : Platform) (Lasting : Int → Prop) (now : Time) : Queue → Queue → Prop :=
  Relation.ReflTransGen (QueueStep platform Lasting now)

def Queue.DistinctJobs (queue : Queue) : Prop := (queue.jobs.map RunExecutionJobRow.id).Nodup

theorem QueueStep.distinctJobs {platform : Platform} {Lasting : Int → Prop} {now : Time}
    {queue after : Queue}
    (step : QueueStep platform Lasting now queue after) (distinct : queue.DistinctJobs) :
    after.DistinctJobs := by
  unfold Queue.DistinctJobs at distinct ⊢
  cases step with
  | opened job isOpened fresh single =>
      simp only [List.map_append, List.map_cons, List.map_nil]
      refine distinct.append (List.nodup_singleton _) ?_
      simpa [List.disjoint_singleton] using fresh
  | granted job attempt duration lasting found queued isGranted fresh =>
      rw [Table.map_key_modify _ _ _ (grantTo_id attempt)]
      exact distinct
  | extended job attempt duration lasting held live => exact distinct
  | ended job attempt ending held allowed =>
      rw [Table.map_key_modify _ _ _ (ending.settleJob_id now)]
      exact distinct

theorem QueueSteps.distinctJobs {platform : Platform} {Lasting : Int → Prop} {now : Time}
    {queue after : Queue}
    (steps : QueueSteps platform Lasting now queue after) (distinct : queue.DistinctJobs) :
    after.DistinctJobs := by
  induction steps with
  | refl => exact distinct
  | tail _ step ih => exact step.distinctJobs ih

/-! ## Operations that end or extend a lease -/

section Operations

variable {platform : Platform} {Lasting : Int → Prop} {store after : Store} {fence : LeaseFence}
  {now : Time}
  {job : RunExecutionJobRow} {attempt : RunExecutionAttemptRow}

/-- An accepted fence names the rows of a held lease that has not run out. -/
theorem leased_of_requireActiveLease
    (active : requireActiveLease store fence now = .ok (job, attempt)) :
    store.queue.Leased job attempt ∧ job.id = fence.jobId ∧ attempt.id = fence.attemptId ∧
      now < attempt.leaseExpiresAt := by
  obtain ⟨jobFound, attemptFound, live⟩ := (requireActiveLease_ok ..).mp active
  obtain ⟨leased, pointed, _, _, _, _, _, unexpired⟩ := (leaseActive_iff ..).mp live
  have sameJob : job.id = fence.jobId := Table.find_key jobFound
  have sameAttempt : attempt.id = fence.attemptId := Table.find_key attemptFound
  refine ⟨⟨?_, ?_, leased, ?_⟩, sameJob, sameAttempt, unexpired⟩
  · rw [sameJob]; exact jobFound
  · rw [sameAttempt]; exact attemptFound
  · rw [sameAttempt]; exact pointed

/-- Settling the rows of an accepted fence is one step of the queue. -/
theorem ended_of_requireActiveLease (ending : Ending)
    (active : requireActiveLease store fence now = .ok (job, attempt))
    (allowed : now < attempt.leaseExpiresAt → ending.Allowed now attempt) :
    QueueSteps platform Lasting now store.queue
      ((store.updateAttempt fence.attemptId (ending.settleAttempt now)).updateJob fence.jobId
        (ending.settleJob now)).queue := by
  obtain ⟨held, sameJob, sameAttempt, unexpired⟩ := leased_of_requireActiveLease active
  have step : QueueStep platform Lasting now _ _ := .ended job attempt ending held (allowed unexpired)
  rw [sameJob, sameAttempt] at step
  exact .single step

theorem settleCompleted_queue
    (active : requireActiveLease store fence now = .ok (job, attempt)) :
    QueueSteps platform Lasting now store.queue (settleCompleted store fence now).queue :=
  ended_of_requireActiveLease .completed active id

section

variable {reasonCode : String} {row : RunExecutionJobRow} {request : AppendRequest}

theorem settleRejected_queue (active : requireActiveLease store fence now = .ok (job, attempt))
    (coded : isReasonCode reasonCode = true) :
    QueueSteps platform Lasting now store.queue (settleRejected store fence now reasonCode).queue :=
  ended_of_requireActiveLease (.rejected reasonCode) active fun unexpired => ⟨unexpired, coded⟩

theorem heartbeatLease_queue {leaseSeconds : Rat} {row : RunExecutionAttemptRow}
    (lasting : Lasting (timedeltaSeconds leaseSeconds))
    (beat : heartbeatLeaseBody fence leaseSeconds now store = .ok (row, after)) :
    QueueSteps platform Lasting now store.queue after.queue := by
  simp only [heartbeatLeaseBody, bind_ok, Prod.exists, ok_pair] at beat
  obtain ⟨job, attempt, active, _, rfl⟩ := beat
  obtain ⟨held, _, sameAttempt, unexpired⟩ := leased_of_requireActiveLease active
  have step : QueueStep platform Lasting now _ _ := .extended job attempt _ lasting held unexpired
  rw [sameAttempt] at step
  exact .single step

theorem releaseLease_queue {availableAt : Option Time}
    (released : releaseLeaseBody fence reasonCode availableAt now store = .ok (row, after)) :
    QueueSteps platform Lasting now store.queue after.queue := by
  simp only [releaseLeaseBody, validateReasonCode, bind_ok, Prod.exists, ok_pair, require_ok] at released
  obtain ⟨_, coded, job, attempt, active, _, _, _, rfl⟩ := released
  exact ended_of_requireActiveLease (.released reasonCode (availableAt.getD now)) active
    fun unexpired => ⟨unexpired, coded⟩

theorem rejectLease_queue (rejected : rejectLeaseBody fence reasonCode now store = .ok (row, after)) :
    QueueSteps platform Lasting now store.queue after.queue := by
  simp only [rejectLeaseBody, validateReasonCode, bind_ok, Prod.exists, ok_pair, require_ok] at rejected
  obtain ⟨_, coded, job, attempt, active, _, _, _, rfl⟩ := rejected
  exact settleRejected_queue active coded

theorem completeLease_queue (completed : completeLeaseBody fence now store = .ok (row, after)) :
    QueueSteps platform Lasting now store.queue after.queue := by
  simp only [completeLeaseBody, bind_ok, Prod.exists, ok_pair] at completed
  obtain ⟨job, attempt, active, _, _, _, rfl⟩ := completed
  exact settleCompleted_queue active

/-- A request that settles its lease was refused unless its reason code is sanitized. -/
theorem validateRequest_code {kind : EventType} {payload : Json} {code : String}
    (accepted : validateRequest platform request = .ok (kind, payload))
    (rejects : request.rejectExecutionCode = some code) : isReasonCode code = true := by
  simp only [validateRequest, bind_ok] at accepted
  simp only [rejects, bind_ok, validateReasonCode, require_ok] at accepted
  obtain ⟨_, _, _, _, _, _, _, _, _, _, _, _, _, _, _, _, _, coded, _⟩ := accepted
  exact coded

theorem settleLease_queue
    (coded : ∀ code, request.rejectExecutionCode = some code → isReasonCode code = true)
    (settled : settleLease store request now = .ok after) :
    QueueSteps platform Lasting now store.queue after.queue := by
  rcases settleLease_cases settled with rfl | ⟨fence, job, attempt, _, owned, settled⟩
  · exact .refl
  · have active := ((requireOwnedLease_ok ..).mp owned).1
    rcases settled with ⟨_, rfl⟩ | ⟨code, rejects, rfl⟩
    · exact settleCompleted_queue active
    · exact settleRejected_queue active (coded code rejects)

theorem appendEvent_queue {clock : Nat → Time} {row : RunEventRow}
    (appended : appendEventBody platform request clock store = .ok (row, after)) :
    QueueSteps platform Lasting (clock 1) store.queue after.queue := by
  simp only [appendEventBody, bind_ok, Prod.exists] at appended
  obtain ⟨kind, payload, accepted, _, _, _, _, appended⟩ := appended
  have coded : ∀ code, request.rejectExecutionCode = some code → isReasonCode code = true :=
    fun _ => validateRequest_code accepted
  cases existing : request.operationKey.bind (store.eventByKey? request.runId) with
  | some earlier =>
      simp only [existing, bind_ok, ok_pair] at appended
      obtain ⟨_, _, _, settled, _, rfl⟩ := appended
      exact settleLease_queue coded settled
  | none =>
      simp only [existing, bind_ok, persistEvent, newId, ok_pair] at appended
      obtain ⟨_, _, _, _, next, _, _, insertion, _, settled, _, rfl⟩ := appended
      obtain ⟨_, _, _, rfl⟩ := Store.insertEvent_ok insertion
      have steps : QueueSteps platform Lasting (clock 1) _ _ := settleLease_queue coded settled
      cases next <;> exact steps

end

end Operations

/-! ## Claims -/

section Claims

variable {platform : Platform} {Lasting : Int → Prop} {now : Time}

section

variable {store after : Store}

/-- Expiring one leased job touches no other job. -/
theorem expireLease_queue (platform : Platform) (Lasting : Int → Prop) {job : RunExecutionJobRow}
    (found : store.job? job.id = some job) (leased : job.status = .leased)
    (expired : expireLease now store job = .ok after) :
    QueueSteps platform Lasting now store.queue after.queue ∧
      ∀ other : RunExecutionJobRow, other.id ≠ job.id → after.job? other.id = store.job? other.id := by
  simp only [expireLease, bind_ok, orRaise_ok] at expired
  obtain ⟨attemptId, active, attempt, attemptFound, expired⟩ := expired
  have sameAttempt : attempt.id = attemptId := Table.find_key attemptFound
  subst sameAttempt
  split_ifs at expired with ranOut
  · rw [← Except.ok.inj expired]
    refine ⟨.single (.ended job attempt .expired ⟨found, attemptFound, leased, active⟩ ranOut), ?_⟩
    intro other differ
    exact Table.find_modify_other _ _ _ _ (Ending.expired.settleJob_id now) differ
  · rw [← Except.ok.inj expired]
    exact ⟨.refl, fun _ _ => rfl⟩

theorem expireAll_queue (jobs : List RunExecutionJobRow)
    (distinct : (jobs.map RunExecutionJobRow.id).Nodup)
    (leased : ∀ job ∈ jobs, store.job? job.id = some job ∧ job.status = .leased)
    (expired : jobs.foldlM (expireLease now) store = .ok after) :
    QueueSteps platform Lasting now store.queue after.queue := by
  induction jobs generalizing store with
  | nil =>
      simp only [List.foldlM_nil] at expired
      rw [← Except.ok.inj expired]
  | cons job rest ih =>
      simp only [List.foldlM_cons, bind_ok] at expired
      obtain ⟨middle, first, others⟩ := expired
      simp only [List.map_cons, List.nodup_cons] at distinct
      obtain ⟨found, isLeased⟩ := leased job List.mem_cons_self
      obtain ⟨steps, untouched⟩ := expireLease_queue platform Lasting found isLeased first
      refine steps.trans (ih distinct.2 (fun other member => ?_) others)
      have differ : other.id ≠ job.id := fun same =>
        distinct.1 (same ▸ List.mem_map_of_mem member)
      rw [untouched other differ]
      exact leased other (List.mem_cons_of_mem _ member)

theorem expireLeases_queue (platform : Platform) (Lasting : Int → Prop)
    (distinct : store.queue.DistinctJobs) (expired : expireLeases now store = .ok after) :
    QueueSteps platform Lasting now store.queue after.queue := by
  refine expireAll_queue _ (distinct.sublist (List.filter_sublist.map _)) ?_ expired
  intro job member
  obtain ⟨stored, leased⟩ := List.mem_filter.mp member
  exact ⟨Table.find_of_mem distinct stored, by simpa using leased⟩

theorem nextJob_mem {jobId : Option String} {job : RunExecutionJobRow}
    (next : nextJob? store jobId now = some job) :
    job ∈ store.jobs ∧ job.status = .queued ∧ job.availableAt ≤ now ∧
      ∀ wanted, jobId = some wanted → job.id = wanted := by
  have member := (List.perm_insertionSort takenBefore _).mem_iff.mp
    (List.mem_of_mem_head? (Option.mem_def.mpr next))
  simp only [List.mem_filter, Bool.and_eq_true, decide_eq_true_eq] at member
  obtain ⟨stored, ⟨queued, available⟩, asked⟩ := member
  refine ⟨stored, queued, available, fun wanted given => ?_⟩
  simpa [given] using asked

theorem claimedAttempt_granted (platform : Platform) (request : ClaimRequest) (store : Store)
    (job : RunExecutionJobRow) (count : Nat) (named : pyStrip request.workerId ≠ "") :
    (claimedAttempt request store job ("attempt" ++ "_" ++ platform.uuid7 count) now).Granted
      platform store.queue job now (timedeltaSeconds request.leaseSeconds) :=
  ⟨⟨count, rfl⟩, rfl, rfl, rfl, rfl, rfl, rfl, rfl, rfl, rfl, named⟩

/-- A claim expires leases and then, if a job is available, grants it. -/
theorem claimNextJob_cases (Lasting : Int → Prop) {request : ClaimRequest}
    {claimed : Option (RunExecutionJobRow × RunExecutionAttemptRow)}
    (distinct : store.queue.DistinctJobs)
    (claim : claimNextJobBody platform request now store = .ok (claimed, after)) :
    ∃ middle : Queue, QueueSteps platform Lasting now store.queue middle ∧
      (claimed = none ∧ after.queue = middle ∨
        ∃ job attempt, claimed = some (grantTo attempt job, attempt) ∧
          middle.job? job.id = some job ∧ job.status = .queued ∧
          attempt.Granted platform middle job now (timedeltaSeconds request.leaseSeconds) ∧
          (∀ other ∈ middle.attempts, other.id ≠ attempt.id) ∧
          attempt.workerId = request.workerId ∧
          after.queue = ⟨Table.modify RunExecutionJobRow.id middle.jobs job.id (grantTo attempt),
            middle.attempts ++ [attempt]⟩) := by
  simp only [claimNextJobBody, bind_ok, require_ok, bne_iff_ne] at claim
  obtain ⟨_, named, _, _, middle, expired, claim⟩ := claim
  have steps := expireLeases_queue platform Lasting distinct expired
  refine ⟨middle.queue, steps, ?_⟩
  split at claim
  next => exact Or.inl ⟨(Prod.mk.inj (Except.ok.inj claim)).1.symm,
    by rw [(Prod.mk.inj (Except.ok.inj claim)).2]⟩
  next job next =>
      simp only [newId, bind_ok, ok_pair] at claim
      obtain ⟨_, inserted, claimedIs, rfl⟩ := claim
      obtain ⟨fresh, rfl⟩ := Store.insertAttempt_ok inserted
      obtain ⟨stored, queued, _⟩ := nextJob_mem next
      exact Or.inr ⟨job, _, claimedIs.symm, Table.find_of_mem (steps.distinctJobs distinct) stored,
        queued, claimedAttempt_granted platform request middle job _ named, fresh, rfl, rfl⟩

theorem claimNextJob_queue {request : ClaimRequest}
    {claimed : Option (RunExecutionJobRow × RunExecutionAttemptRow)}
    (distinct : store.queue.DistinctJobs)
    (lasting : Lasting (timedeltaSeconds request.leaseSeconds))
    (claim : claimNextJobBody platform request now store = .ok (claimed, after)) :
    QueueSteps platform Lasting now store.queue after.queue := by
  obtain ⟨middle, steps, ⟨_, same⟩ | ⟨job, attempt, _, found, queued, isGranted, fresh, _, same⟩⟩ :=
    claimNextJob_cases Lasting distinct claim
  · rw [same]
    exact steps
  · rw [same]
    exact steps.tail (.granted job attempt _ lasting found queued isGranted fresh)

theorem queuedJob_opened (platform : Platform) (request : EnqueueRequest) (count ofRun : Nat)
    (keyed : pyStrip request.idempotencyKey ≠ "") :
    (queuedJob platform request ("job" ++ "_" ++ platform.uuid7 count)
      ("run" ++ "_" ++ platform.uuid7 ofRun) now).Opened platform now :=
  ⟨⟨count, rfl⟩, ⟨ofRun, rfl⟩, ⟨request, rfl⟩, rfl, rfl, rfl, rfl, rfl, rfl, keyed⟩

/-- `enqueue_run` opens a job, or finds the one its idempotency key opened. -/
theorem enqueueRun_queue {request : EnqueueRequest} {rows : RunRow × RunExecutionJobRow}
    (enqueued : enqueueRunBody platform request now store = .ok (rows, after)) :
    QueueSteps platform Lasting now store.queue after.queue := by
  simp only [enqueueRunBody, bind_ok, require_ok, bne_iff_ne] at enqueued
  obtain ⟨_, keyed, enqueued⟩ := enqueued
  split at enqueued
  · simp only [bind_ok, ok_pair] at enqueued
    obtain ⟨_, _, _, _, _, rfl⟩ := enqueued
    exact .refl
  · simp only [bind_ok, Prod.exists, newId, appendQueuedEvent, ok_pair] at enqueued
    obtain ⟨spec, admission, row, _, revision, _, _, insertedRun, _, ⟨payload, _,
      insertedEvent⟩, _, insertedJob, _, rfl⟩ := enqueued
    obtain ⟨_, rfl⟩ := Store.insertRun_ok insertedRun
    obtain ⟨_, _, _, rfl⟩ := Store.insertEvent_ok insertedEvent
    obtain ⟨fresh, single, rfl⟩ := Store.insertJob_ok insertedJob
    exact .single (.opened _ (queuedJob_opened platform request _ _ keyed) fresh single)

end

end Claims

/-! ## Operations that leave the queue alone -/

section Frames

variable {platform : Platform} {store after : Store} {clock : Nat → Time}

theorem prepareRunExecution_queue {request : PrepareRequest platform}
    {rows : ContextSnapshotRow × SubjectEnvelopeRow}
    (prepared : prepareRunExecutionBody platform request clock store = .ok (rows, after)) :
    after.queue = store.queue := by
  simp only [prepareRunExecutionBody, bind_ok, Prod.exists, ok_pair] at prepared
  obtain ⟨_, _, _, _, _, first, snapshotted, _, second, enveloped, third, appended, _, rfl⟩ :=
    prepared
  rw [appendAll_frame _ _ appended, upsertSubjectEnvelope_frame enveloped,
    upsertContextSnapshot_frame snapshotted]
  rfl

theorem saveSubjectResponse_queue {request : ResponseRequest platform} {row : RunEventRow}
    (saved : saveSubjectResponseBody platform request clock store = .ok (row, after)) :
    after.queue = store.queue := by
  simp only [saveSubjectResponseBody, bind_ok, Prod.exists, ok_pair] at saved
  obtain ⟨_, _, _, _, _, _, _, _, _, _, _, _, _, _, _, _, _, middle, responded, _, final,
    evaluating, _, rfl⟩ := saved
  rw [appendEventOnce_frame evaluating, appendEventOnce_frame responded]
  rfl

theorem saveDeterministicEvaluation_queue {record : EvaluationRecord platform} {grade : Grade}
    {lease : LeaseFence} {row : EvaluationRecordRow}
    (saved : saveDeterministicEvaluationBody platform record grade lease clock store =
      .ok (row, after)) :
    after.queue = store.queue := by
  simp only [saveDeterministicEvaluationBody, bind_ok, Prod.exists, ok_pair] at saved
  obtain ⟨_, _, _, _, _, _, _, _, _, _, _, _, _, _, _, recorded, upserted, _, graded, grading,
    _, final, completed, _, rfl⟩ := saved
  rw [appendEventOnce_frame completed, upsertGrade_frame grading,
    upsertDeterministicRecord_frame upserted]
  rfl

end Frames

section

variable {platform : Platform} {Lasting : Int → Prop} {now : Time} {store after : Store}
  {job : RunExecutionJobRow} {attempt : RunExecutionAttemptRow}

theorem transact_queue {Result : Type} {body : Store → Except Exc (Result × Store)}
    (accepted : ∀ result after, body store = .ok (result, after) →
      QueueSteps platform Lasting now store.queue after.queue) :
    QueueSteps platform Lasting now store.queue (transact body store).store.queue := by
  rcases transact_store body store with same | ⟨result, committed⟩
  · rw [same]
  · exact accepted result _ committed

/-! ## Store operations as queue steps -/

/-- One store operation is a sequence of queue steps at one clock reading. -/
theorem StoreStep.queueSteps (step : StoreStep platform store after)
    (distinct : store.queue.DistinctJobs) :
    ∃ now, QueueSteps platform (fun _ => True) now store.queue after.queue := by
  cases step with
  | enqueueRun request requestedAt =>
      rw [Database.enqueueRun, commitThen_store]
      exact ⟨requestedAt, transact_queue fun _ _ => enqueueRun_queue⟩
  | prepareRunExecution request clock =>
      rw [Database.prepareRunExecution, commitThen_store]
      exact ⟨0, transact_queue fun _ _ prepared => by rw [prepareRunExecution_queue prepared]⟩
  | appendEvent request clock => exact ⟨clock 1, transact_queue fun _ _ => appendEvent_queue⟩
  | saveSubjectResponse request clock =>
      exact ⟨0, transact_queue fun _ _ saved => by rw [saveSubjectResponse_queue saved]⟩
  | saveDeterministicEvaluation record grade lease clock =>
      exact ⟨0, transact_queue fun _ _ saved => by rw [saveDeterministicEvaluation_queue saved]⟩
  | saveEvaluationRecord verifier record lease clock =>
      exact ⟨0, transact_queue fun _ _ saved => by rw [saveEvaluationRecord_frame saved]; rfl⟩
  | saveGrade runId graderId grade lease clock =>
      refine ⟨0, transact_queue fun _ _ saved => ?_⟩
      simp only [bind_ok] at saved
      obtain ⟨_, _, graded⟩ := saved
      rw [upsertGrade_frame graded]
      exact .refl
  | claimNextJob request claimedAt =>
      rw [Database.claimNextJob, commitThen_store]
      exact ⟨claimedAt, transact_queue fun _ _ => claimNextJob_queue distinct trivial⟩
  | heartbeatLease fence leaseSeconds heartbeatAt =>
      rw [Database.heartbeatLease, commitThen_store]
      exact ⟨heartbeatAt, transact_queue fun _ _ => heartbeatLease_queue trivial⟩
  | releaseLease fence reasonCode availableAt releasedAt =>
      rw [Database.releaseLease, commitThen_store]
      exact ⟨releasedAt, transact_queue fun _ _ => releaseLease_queue⟩
  | rejectLease fence reasonCode rejectedAt =>
      rw [Database.rejectLease, commitThen_store]
      exact ⟨rejectedAt, transact_queue fun _ _ => rejectLease_queue⟩
  | completeLease fence completedAt =>
      rw [Database.completeLease, commitThen_store]
      exact ⟨completedAt, transact_queue fun _ _ => completeLease_queue⟩

theorem Reachable.distinctJobs (reachable : Reachable platform store) :
    store.queue.DistinctJobs := by
  induction reachable with
  | start initial =>
      obtain ⟨_, _, jobs, _⟩ := initial
      simp [Queue.DistinctJobs, Store.queue, jobs]
  | next _ step ih =>
      obtain ⟨now, steps⟩ := step.queueSteps ih
      exact steps.distinctJobs ih

/-! ## The lease of a job -/

def RunExecutionJobRow.lease (job : RunExecutionJobRow) : Lease (Option String) :=
  match job.status with
  | .queued => .idle job.leaseGeneration
  | .leased => .held job.leaseGeneration job.activeAttemptId
  | .completed | .rejected => .closed job.leaseGeneration

def LeaseFence.token (fence : LeaseFence) : Token (Option String) :=
  ⟨fence.leaseGeneration, some fence.attemptId⟩

@[simp] theorem RunExecutionJobRow.lease_generation (job : RunExecutionJobRow) :
    job.lease.generation = job.leaseGeneration := by
  unfold RunExecutionJobRow.lease
  cases job.status <;> rfl

theorem RunExecutionJobRow.lease_closed (job : RunExecutionJobRow) :
    job.lease.isClosed = job.status.terminal := by
  unfold RunExecutionJobRow.lease
  cases job.status <;> rfl

theorem accepts_of_requireActiveLease {fence : LeaseFence}
    (active : requireActiveLease store fence now = .ok (job, attempt)) :
    Accepts job.lease fence.token := by
  obtain ⟨_, _, live⟩ := (requireActiveLease_ok ..).mp active
  obtain ⟨leased, pointed, generation, _⟩ := (leaseActive_iff ..).mp live
  simp only [Accepts, RunExecutionJobRow.lease, leased, pointed, generation, LeaseFence.token]

/-- Every job is still there, and its lease has run on. -/
def Queue.Advances (queue after : Queue) : Prop :=
  ∀ id job, queue.job? id = some job →
    ∃ later, after.job? id = some later ∧ Run job.lease later.lease

theorem Queue.Advances.refl (queue : Queue) : queue.Advances queue :=
  fun _ job found => ⟨job, found, .refl⟩

theorem Queue.Advances.trans {first second third : Queue} (earlier : first.Advances second)
    (later : second.Advances third) : first.Advances third := by
  intro id job found
  obtain ⟨middle, middleFound, before⟩ := earlier id job found
  obtain ⟨last, lastFound, after⟩ := later id middle middleFound
  exact ⟨last, lastFound, before.trans after⟩

/-- A change of one job moves the queue on when it moves the job's lease on. -/
theorem advances_of_modify {queue : Queue} {attempts : List RunExecutionAttemptRow}
    {change : RunExecutionJobRow → RunExecutionJobRow} (found : queue.job? job.id = some job)
    (keyed : ∀ row, (change row).id = row.id) (moved : Step job.lease (change job).lease) :
    queue.Advances ⟨Table.modify RunExecutionJobRow.id queue.jobs job.id change, attempts⟩ := by
  intro id other otherFound
  by_cases same : id = job.id
  · subst same
    rw [found] at otherFound
    obtain rfl := Option.some.inj otherFound
    refine ⟨change job, ?_, .single moved⟩
    rw [Queue.job?, Table.find_modify_self _ _ _ keyed]
    exact congrArg (Option.map change) found
  · refine ⟨other, ?_, .refl⟩
    rw [Queue.job?, Table.find_modify_other _ _ _ _ keyed same]
    exact otherFound

theorem QueueStep.advances {queue after : Queue} (step : QueueStep platform Lasting now queue after) :
    queue.Advances after := by
  cases step with
  | opened job isOpened fresh single =>
      intro id other found
      refine ⟨other, ?_, .refl⟩
      rw [Queue.job?, Table.find_append]
      exact congrArg (Option.or · _) found
  | granted job attempt duration lasting found queued isGranted fresh =>
      refine advances_of_modify found (grantTo_id attempt) ?_
      simp only [RunExecutionJobRow.lease, queued, grantTo, isGranted.generation]
      exact .grant job.leaseGeneration (some attempt.id)
  | extended job attempt duration lasting held live => exact .refl queue
  | ended job attempt ending held allowed =>
      refine advances_of_modify held.job_found (ending.settleJob_id now) ?_
      cases ending <;>
        simp only [RunExecutionJobRow.lease, held.leased, Ending.settleJob] <;>
        first
        | exact .giveUp job.leaseGeneration job.activeAttemptId
        | exact .close job.leaseGeneration job.activeAttemptId

theorem QueueSteps.advances {queue after : Queue}
    (steps : QueueSteps platform Lasting now queue after) : queue.Advances after := by
  induction steps with
  | refl => exact .refl queue
  | tail _ step ih => exact ih.trans step.advances

/-- Any number of further store operations. -/
abbrev Continues (platform : Platform) : Store → Store → Prop :=
  Relation.ReflTransGen (StoreStep platform)

theorem Continues.reachable (continues : Continues platform store after)
    (reachable : Reachable platform store) : Reachable platform after := by
  induction continues with
  | refl => exact reachable
  | tail _ step ih => exact .next ih step

theorem Continues.advances (continues : Continues platform store after)
    (reachable : Reachable platform store) : store.queue.Advances after.queue := by
  induction continues with
  | refl => exact .refl _
  | tail earlier step ih =>
      obtain ⟨now, steps⟩ := step.queueSteps (Continues.reachable earlier reachable).distinctJobs
      exact ih.trans steps.advances

/-! ## Fences over whole runs -/

/-- `require_active_lease` accepts the fence at a clock reading. -/
def Satisfies (store : Store) (fence : LeaseFence) (now : Time) : Prop :=
  ∃ rows, requireActiveLease store fence now = .ok rows

def fenceOf (job : RunExecutionJobRow) (attempt : RunExecutionAttemptRow) : LeaseFence :=
  ⟨job.id, attempt.id, attempt.workerId, attempt.leaseGeneration⟩

/-- A claim committed and granted a job. -/
def Claims (platform : Platform) (store : Store) (job : RunExecutionJobRow)
    (attempt : RunExecutionAttemptRow) (after : Store) : Prop :=
  ∃ request claimedAt,
    claimNextJobBody platform request claimedAt store = .ok (some (job, attempt), after)

/-- A later claim of the job committed, or the job is completed or rejected. -/
def MovesOn (platform : Platform) (jobId : String) (store after : Store) : Prop :=
  (∃ job attempt, Claims platform store job attempt after ∧ job.id = jobId) ∨
    after = store ∧ ∃ job, store.job? jobId = some job ∧ job.status.terminal = true

theorem fenceOf_requireActiveLease {fence : LeaseFence}
    (active : requireActiveLease store fence now = .ok (job, attempt)) :
    fence = fenceOf job attempt := by
  obtain ⟨jobFound, attemptFound, live⟩ := (requireActiveLease_ok ..).mp active
  obtain ⟨_, _, _, _, _, worker, generation, _⟩ := (leaseActive_iff ..).mp live
  have sameJob : job.id = fence.jobId := Table.find_key jobFound
  have sameAttempt : attempt.id = fence.attemptId := Table.find_key attemptFound
  simp only [fenceOf, sameJob, sameAttempt, worker, generation]

theorem Claims.step (claims : Claims platform store job attempt after) :
    StoreStep platform store after := by
  obtain ⟨request, claimedAt, claim⟩ := claims
  have committed : (claimNextJob platform request claimedAt store).store = after := by
    simp only [claimNextJob, commitThen, claim]
  rw [← committed]
  exact .claimNextJob request claimedAt

/-- What a claim leaves behind: the job, one generation on from what it was. -/
theorem Claims.granted (distinct : store.queue.DistinctJobs)
    (claims : Claims platform store job attempt after) :
    after.job? job.id = some job ∧ job.leaseGeneration = attempt.leaseGeneration ∧
      ∀ before, store.job? job.id = some before →
        before.leaseGeneration < attempt.leaseGeneration := by
  obtain ⟨request, claimedAt, claim⟩ := claims
  obtain ⟨middle, steps, ⟨none, _⟩ | ⟨queuedJob, given, same, found, _, isGranted, _, _, after'⟩⟩ :=
    claimNextJob_cases (fun _ => True) distinct claim
  · cases none
  · simp only [Option.some.injEq, Prod.mk.injEq] at same
    obtain ⟨rfl, rfl⟩ := same
    refine ⟨?_, rfl, ?_⟩
    · change after.queue.job? queuedJob.id = _
      rw [after', Queue.job?, Table.find_modify_self _ _ _ (grantTo_id attempt)]
      exact congrArg (Option.map (grantTo attempt)) found
    · intro before beforeFound
      obtain ⟨later, laterFound, run⟩ := steps.advances _ before beforeFound
      rw [grantTo_id, found] at laterFound
      obtain rfl := Option.some.inj laterFound
      have monotone := Run.generation_le run
      simp only [RunExecutionJobRow.lease_generation] at monotone
      rw [isGranted.generation]
      exact Nat.lt_succ_of_le monotone

/-- A fence that is retired for its job is refused at every clock reading. -/
theorem not_satisfies_of_retired (fence : LeaseFence) (found : store.job? fence.jobId = some job)
    (retired : Retired job.lease fence.token) (now : Time) : ¬Satisfies store fence now := by
  rintro ⟨⟨active, attempt⟩, accepted⟩
  have jobFound := ((requireActiveLease_ok ..).mp accepted).1
  rw [found] at jobFound
  obtain rfl := Option.some.inj jobFound
  exact retired.not_accepts (accepts_of_requireActiveLease accepted)

theorem lease_fencing_of_reachable (platform : Platform) (store : Store)
    (reachable : Reachable platform store) :
    (∀ fence now job attempt, requireActiveLease store fence now = .ok (job, attempt) →
      store.job? fence.jobId = some job ∧ job.status = .leased ∧
        job.activeAttemptId = some attempt.id ∧ attempt.status = .leased ∧
        fence = fenceOf job attempt) ∧
    (∀ fence other now later, Satisfies store fence now → Satisfies store other later →
      fence.jobId = other.jobId → fence = other) ∧
    (∀ job attempt granted, Claims platform store job attempt granted →
      ∀ middle, Continues platform granted middle →
      ∀ moved, MovesOn platform job.id middle moved →
      ∀ final, Continues platform moved final →
      ∀ now, ¬Satisfies final (fenceOf job attempt) now) := by
  refine ⟨?_, ?_, ?_⟩
  · intro fence now job attempt accepted
    obtain ⟨found, _, live⟩ := (requireActiveLease_ok ..).mp accepted
    obtain ⟨leased, _, _, _, attemptLeased, _⟩ := (leaseActive_iff ..).mp live
    have held := (leased_of_requireActiveLease accepted).1
    exact ⟨found, leased, held.active, attemptLeased, fenceOf_requireActiveLease accepted⟩
  · rintro fence other now later ⟨⟨job, attempt⟩, accepted⟩ ⟨⟨otherJob, otherAttempt⟩, accepts⟩ same
    obtain ⟨jobFound, attemptFound, _⟩ := (requireActiveLease_ok ..).mp accepted
    obtain ⟨otherFound, otherAttemptFound, _⟩ := (requireActiveLease_ok ..).mp accepts
    rw [← same, jobFound] at otherFound
    obtain rfl := Option.some.inj otherFound
    have tokens := accepts_unique (accepts_of_requireActiveLease accepted)
      (accepts_of_requireActiveLease accepts)
    have sameAttempt : fence.attemptId = other.attemptId :=
      Option.some.inj (congrArg Token.holder tokens)
    rw [← sameAttempt, attemptFound] at otherAttemptFound
    obtain rfl := Option.some.inj otherAttemptFound
    rw [fenceOf_requireActiveLease accepted, fenceOf_requireActiveLease accepts]
  · intro job attempt granted claims middle between moved movesOn final after now
    have grantedReachable : Reachable platform granted := .next reachable claims.step
    have middleReachable := Continues.reachable between grantedReachable
    obtain ⟨found, sameGeneration, _⟩ := claims.granted reachable.distinctJobs
    obtain ⟨later, laterFound, run⟩ :=
      Continues.advances between grantedReachable job.id job found
    -- Once the job moved on, its lease has retired the fence.
    have retired : Reachable platform moved ∧ ∃ row, moved.job? job.id = some row ∧
        Retired row.lease (fenceOf job attempt).token := by
      rcases movesOn with ⟨newJob, newAttempt, again, sameId⟩ | ⟨rfl, row, rowFound, terminal⟩
      · obtain ⟨newFound, newGeneration, grown⟩ := again.granted middleReachable.distinctJobs
        rw [sameId] at newFound grown
        refine ⟨.next middleReachable again.step, newJob, newFound, Or.inl ?_⟩
        have monotone := Run.generation_le run
        have grows := grown later laterFound
        simp only [RunExecutionJobRow.lease_generation] at monotone ⊢
        simp only [LeaseFence.token, fenceOf]
        omega
      · exact ⟨middleReachable, row, rowFound, Or.inr (by rw [row.lease_closed, terminal])⟩
    obtain ⟨movedReachable, row, rowFound, isRetired⟩ := retired
    obtain ⟨last, lastFound, rest⟩ := Continues.advances after movedReachable job.id row rowFound
    exact not_satisfies_of_retired (fenceOf job attempt) lastFound
      (Run.retires rest isRetired) now

/-- A claim whose rows are known committed them. -/
theorem claims_of_rows {request : ClaimRequest} {claimedAt : Time}
    (rows : ((claimNextJobBody platform request claimedAt store).toOption.bind fun pair => pair.1) =
      some (job, attempt)) :
    Claims platform store job attempt (claimNextJob platform request claimedAt store).store := by
  refine ⟨request, claimedAt, ?_⟩
  cases claim : claimNextJobBody platform request claimedAt store with
  | error exception => simp [claim, Except.toOption] at rows
  | ok pair =>
      simp only [claim, Except.toOption, Option.bind_some] at rows
      simp only [claimNextJob, commitThen, claim, ← rows]

end

theorem sample_fence_retired_by_completion :
    Satisfies Sample.claimed Sample.fence 0 ∧
      ∀ now, ¬Satisfies Sample.failed Sample.fence now := by
  have evaluated :
      ((claimNextJobBody Sample.platform ⟨"worker", 30, none⟩ 0 Sample.enqueued).toOption.bind
        fun pair => pair.1).map (fun rows => fenceOf rows.1 rows.2) = some Sample.fence ∧
      (requireActiveLease Sample.claimed Sample.fence 0).toOption.isSome = true ∧
      (Sample.failed.job? "job_2").map (fun job => job.status) = some .completed := by
    decide +kernel
  obtain ⟨granted, accepted, completed⟩ := evaluated
  obtain ⟨⟨job, attempt⟩, rows, isFence⟩ := Option.map_eq_some_iff.mp granted
  obtain ⟨last, lastFound, isCompleted⟩ := Option.map_eq_some_iff.mp completed
  have enqueued : Reachable Sample.platform Sample.enqueued :=
    .next (.start ⟨rfl, rfl, rfl, rfl⟩) (.enqueueRun Sample.enqueueRequest 0)
  have sameJob : job.id = "job_2" := congrArg LeaseFence.jobId isFence
  refine ⟨?_, fun now => ?_⟩
  · cases active : requireActiveLease Sample.claimed Sample.fence 0 with
    | error exception => simp [active, Except.toOption] at accepted
    | ok found => exact ⟨found, active⟩
  · have retired := (lease_fencing_of_reachable Sample.platform Sample.enqueued enqueued).2.2 job
      attempt Sample.claimed (claims_of_rows rows) Sample.failed
      (.single (.appendEvent Sample.failure fun _ => 1)) Sample.failed
      (Or.inr ⟨rfl, last, by rw [sameJob]; exact lastFound, by rw [isCompleted]; rfl⟩)
      Sample.failed .refl now
    rw [isFence] at retired
    exact retired

/-! ## The order of the queue -/

theorem takenBefore_iff (left right : RunExecutionJobRow) : takenBefore left right ↔
    toLex (left.availableAt, toLex (left.createdAt, left.id)) ≤
      toLex (right.availableAt, toLex (right.createdAt, right.id)) := by
  simp only [takenBefore, Prod.Lex.toLex_le_toLex]

/-- A job that is queued, due and asked for is next, unless another comes before it. -/
theorem nextJob_first {store : Store} {jobId : Option String} {now : Time}
    {other : RunExecutionJobRow} (stored : other ∈ store.jobs) (queued : other.status = .queued)
    (due : other.availableAt ≤ now) (asked : jobId.all (other.id = ·) = true) :
    ∃ job, nextJob? store jobId now = some job ∧ takenBefore job other := by
  have total : Std.Total takenBefore := ⟨fun left right => by
    simp only [takenBefore_iff, le_total]⟩
  have trans : IsTrans RunExecutionJobRow takenBefore := ⟨fun first second third => by
    simp only [takenBefore_iff]
    exact le_trans⟩
  unfold nextJob?
  generalize given : store.jobs.filter _ = jobs
  have listed : other ∈ jobs.insertionSort takenBefore := by
    rw [List.mem_insertionSort, ← given, List.mem_filter]
    simp [stored, queued, due, asked]
  have sorted := List.pairwise_insertionSort takenBefore jobs
  cases order : jobs.insertionSort takenBefore with
  | nil => simp [order] at listed
  | cons job rest =>
      rw [order] at listed sorted
      refine ⟨job, rfl, ?_⟩
      rcases List.mem_cons.mp listed with rfl | later
      · exact (takenBefore_iff ..).mpr le_rfl
      · exact List.rel_of_pairwise_cons sorted later

/-- A job that a claim leaves queued, although it was due and asked for, comes after the job that
was claimed. So a claim without a result left none. -/
theorem claim_takes_first (platform : Platform) (request : ClaimRequest) (now : Time)
    (store after : Store) (claimed : Option (RunExecutionJobRow × RunExecutionAttemptRow))
    (claim : claimNextJobBody platform request now store = .ok (claimed, after))
    (other : RunExecutionJobRow) (member : other ∈ after.jobs) (queued : other.status = .queued)
    (due : other.availableAt ≤ now) (asked : request.jobId.all (other.id = ·) = true) :
    ∃ job attempt, claimed = some (job, attempt) ∧ takenBefore job other := by
  simp only [claimNextJobBody, bind_ok] at claim
  obtain ⟨_, _, _, _, middle, _, claim⟩ := claim
  split at claim
  next absent =>
    cases claim
    obtain ⟨job, next, _⟩ := nextJob_first member queued due asked
    rw [absent] at next
    cases next
  next job next =>
    simp only [newId, bind_ok, ok_pair] at claim
    obtain ⟨inserted, insertion, isClaimed, rfl⟩ := claim
    obtain ⟨_, rfl⟩ := Store.insertAttempt_ok insertion
    obtain ⟨base, stored, rfl⟩ := Table.mem_modify.mp member
    split_ifs at queued due asked ⊢
    · cases queued
    · obtain ⟨first, isNext, before⟩ := nextJob_first stored queued due asked
      obtain rfl := Option.some.inj (next.symm.trans isNext)
      exact ⟨_, _, isClaimed.symm, before⟩

/-- A claim with two jobs in the queue leaves the second one. -/
theorem claim_takes_first_of_two :
    let claim := claimNextJobBody Sample.platform ⟨"worker", 30, none⟩ 0
      { Sample.enqueued with jobs := Sample.enqueued.jobs ++
        Sample.enqueued.jobs.map fun job => { job with id := "job_3" } }
    ∃ claimed after other, claim = .ok (claimed, after) ∧ other ∈ after.jobs ∧
      ∃ job attempt, claimed = some (job, attempt) ∧ takenBefore job other := by
  intro claim
  have evaluated : (claim.toOption.bind fun rows => rows.2.jobs.find? fun job =>
      job.status = .queued ∧ job.availableAt ≤ 0).isSome = true := by decide +kernel
  cases run : claim with
  | error exception => simp [run, Except.toOption] at evaluated
  | ok rows =>
      rw [run] at evaluated
      obtain ⟨other, found⟩ := Option.isSome_iff_exists.mp evaluated
      have member := List.mem_of_find?_eq_some found
      have waiting : other.status = .queued ∧ other.availableAt ≤ 0 := by
        simpa using List.find?_some found
      exact ⟨rows.1, rows.2, other, rfl, member,
        claim_takes_first _ _ _ _ _ _ run other member waiting.1 waiting.2 rfl⟩

end Evidrun.Database
