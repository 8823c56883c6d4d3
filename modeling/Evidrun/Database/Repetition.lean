import Evidrun.Database.Leases
import Evidrun.Database.Writes

/-!
# Repeating a committed call

A caller that did not see the answer of `enqueue_run`, `append_event`,
`prepare_run_execution` or `save_subject_response` calls again. What the first call
wrote is still there in every later store, so the call finds its own rows and answers
as before. `save_subject_response` alone assigns a column on the way, `run.output`,
whatever the Run's output has become since.
-/

namespace Evidrun.Database

open JsonText DocumentSchema Evidrun.Contracts

set_option autoImplicit false

/-! ## What later calls leave alone -/

structure Carries (before after : Store) : Prop where
  events : before.events <+: after.events
  specs : after.runSpecs = before.runSpecs
  admissions : after.admissions = before.admissions
  snapshots : before.snapshots <+: after.snapshots
  envelopes : before.envelopes <+: after.envelopes
  /-- A Run keeps its contracts, and the hash of its snapshot once it has it. -/
  runs : ∀ id run, before.run? id = some run → ∃ later, after.run? id = some later ∧
    later.runSpecId = run.runSpecId ∧ later.admissionId = run.admissionId ∧
    ∀ row, before.snapshotOf? id = some row → run.contextHash = some row.contentHash →
      later.contextHash = some row.contentHash

namespace Carries

variable {before after : Store}

theorem refl (store : Store) : Carries store store :=
  ⟨List.prefix_rfl, rfl, rfl, List.prefix_rfl, List.prefix_rfl,
    fun _ run found => ⟨run, found, rfl, rfl, fun _ _ held => held⟩⟩

theorem snapshotOf? (carries : Carries before after) {id : String} {row : ContextSnapshotRow}
    (found : before.snapshotOf? id = some row) : after.snapshotOf? id = some row :=
  carries.snapshots.find?_eq_some found

theorem envelope? (carries : Carries before after) {id : String} {row : SubjectEnvelopeRow}
    (found : before.envelope? id = some row) : after.envelope? id = some row :=
  carries.envelopes.find?_eq_some found

theorem eventByKey? (carries : Carries before after) {runId key : String} {row : RunEventRow}
    (found : before.eventByKey? runId key = some row) : after.eventByKey? runId key = some row :=
  carries.events.find?_eq_some found

theorem trans {first second third : Store} (left : Carries first second)
    (right : Carries second third) : Carries first third where
  events := left.events.trans right.events
  specs := right.specs.trans left.specs
  admissions := right.admissions.trans left.admissions
  snapshots := left.snapshots.trans right.snapshots
  envelopes := left.envelopes.trans right.envelopes
  runs id run found := by
    obtain ⟨middle, foundMiddle, spec, admission, context⟩ := left.runs id run found
    obtain ⟨later, foundLater, spec', admission', context'⟩ := right.runs id middle foundMiddle
    exact ⟨later, foundLater, spec'.trans spec, admission'.trans admission,
      fun row taken held => context' row (left.snapshotOf? taken) (context row taken held)⟩

/-- Tables that a repeated call does not read. -/
theorem of_frame (frame : after = { before with
    jobs := after.jobs
    attempts := after.attempts
    grades := after.grades
    checkpoints := after.checkpoints
    evaluations := after.evaluations
    issued := after.issued }) : Carries before after := by
  rw [frame]
  exact ⟨List.prefix_rfl, rfl, rfl, List.prefix_rfl, List.prefix_rfl,
    fun _ run found => ⟨run, found, rfl, rfl, fun _ _ held => held⟩⟩

theorem updateRun (store : Store) (runId : String) (change : RunRow → RunRow)
    (keyed : ∀ run, (change run).id = run.id)
    (contracts : ∀ run, (change run).runSpecId = run.runSpecId ∧
      (change run).admissionId = run.admissionId)
    (context : ∀ run row, store.snapshotOf? runId = some row →
      run.contextHash = some row.contentHash → (change run).contextHash = some row.contentHash) :
    Carries store (store.updateRun runId change) where
  events := List.prefix_rfl
  specs := rfl
  admissions := rfl
  snapshots := List.prefix_rfl
  envelopes := List.prefix_rfl
  runs id run found := by
    simp only [Store.run?, Store.updateRun] at found ⊢
    by_cases same : id = runId
    · subst same
      rw [Table.find_modify_self _ _ _ keyed, found]
      exact ⟨change run, rfl, (contracts run).1, (contracts run).2, context run⟩
    · rw [Table.find_modify_other _ _ _ _ keyed same]
      exact ⟨run, found, rfl, rfl, fun _ _ held => held⟩

theorem of_write (write : Write before after) : Carries before after := by
  have kept := fun id (run : RunRow) (found : before.run? id = some run) =>
    (⟨run, found, rfl, rfl, fun _ _ held => held⟩ : ∃ later, before.run? id = some later ∧
      later.runSpecId = run.runSpecId ∧ later.admissionId = run.admissionId ∧
      ∀ row, before.snapshotOf? id = some row → run.contextHash = some row.contentHash →
        later.contextHash = some row.contentHash)
  cases write with
  | event row inserted =>
      obtain ⟨_, _, _, rfl⟩ := Store.insertEvent_ok inserted
      exact ⟨List.prefix_append _ _, rfl, rfl, List.prefix_rfl, List.prefix_rfl, kept⟩
  | run row inserted =>
      obtain ⟨_, rfl⟩ := Store.insertRun_ok inserted
      refine ⟨List.prefix_rfl, rfl, rfl, List.prefix_rfl, List.prefix_rfl, fun id run found => ?_⟩
      refine ⟨run, ?_, rfl, rfl, fun _ _ held => held⟩
      rw [Store.run?] at found ⊢
      rw [Table.find_append, found, Option.some_or]
  | snapshot row inserted =>
      obtain rfl := Store.insertSnapshot_ok inserted
      exact ⟨List.prefix_rfl, rfl, rfl, List.prefix_append _ _, List.prefix_rfl, kept⟩
  | envelope row inserted =>
      obtain rfl := Store.insertEnvelope_ok inserted
      exact ⟨List.prefix_rfl, rfl, rfl, List.prefix_rfl, List.prefix_append _ _, kept⟩
  | advance | output =>
      exact updateRun _ _ _ (fun _ => rfl) (fun _ => ⟨rfl, rfl⟩) fun _ _ _ held => held
  | context runId row found =>
      refine updateRun _ _ _ (fun _ => rfl) (fun _ => ⟨rfl, rfl⟩) fun run other taken held => ?_
      rw [found] at taken
      rw [Option.some.inj taken]
  | elsewhere frame => exact of_frame (by rw [frame])

theorem of_writes (writes : Writes before after) : Carries before after := by
  induction writes with
  | refl => exact refl before
  | tail _ write ih => exact ih.trans (of_write write)

theorem transact {Result : Type} {body : Store → Except Exc (Result × Store)}
    (accepted : ∀ result after, body before = .ok (result, after) → Carries before after) :
    Carries before (transact body before).store := by
  rcases transact_store body before with same | ⟨result, committed⟩
  · rw [same]
    exact refl before
  · exact accepted result _ committed

end Carries

section

variable {platform : Platform} {store after : Store} {queue : Queue} {Lasting : Int → Prop}
  {now : Time} {job : RunExecutionJobRow}

theorem saveDeterministicEvaluation_carries {record : EvaluationRecord platform} {grade : Grade}
    {lease : LeaseFence} {clock : Nat → Time} {row : EvaluationRecordRow}
    (saved : saveDeterministicEvaluationBody platform record grade lease clock store =
      .ok (row, after)) : Carries store after := by
  simp only [saveDeterministicEvaluationBody, bind_ok, Prod.exists, ok_pair] at saved
  obtain ⟨_, _, _, _, _, _, _, _, _, _, _, _, _, _, _, recorded, upserted, _, graded, grading,
    _, final, completed, _, rfl⟩ := saved
  have rows : Carries store graded := .of_frame (by
    rw [upsertGrade_frame grading, upsertDeterministicRecord_frame upserted])
  exact rows.trans (.of_writes (.appendEventOnce completed))

theorem StoreStep.carries (step : StoreStep platform store after) : Carries store after := by
  cases step with
  | enqueueRun request requestedAt =>
      rw [Database.enqueueRun, commitThen_store]
      exact .transact fun _ _ committed => .of_writes (.enqueueRun committed)
  | prepareRunExecution request clock =>
      rw [Database.prepareRunExecution, commitThen_store]
      exact .transact fun _ _ committed => .of_writes (.prepareRunExecution committed)
  | appendEvent request clock =>
      exact .transact fun _ _ committed => .of_writes (.appendEvent committed)
  | saveSubjectResponse request clock =>
      exact .transact fun _ _ committed => .of_writes (.saveSubjectResponse committed)
  | saveDeterministicEvaluation record grade lease clock =>
      exact .transact fun _ _ committed => saveDeterministicEvaluation_carries committed
  | saveEvaluationRecord verifier record lease clock =>
      exact .transact fun _ _ committed => .of_frame (by rw [saveEvaluationRecord_frame committed])
  | saveGrade runId graderId grade lease clock =>
      refine .transact fun _ _ saved => ?_
      simp only [bind_ok] at saved
      obtain ⟨_, _, graded⟩ := saved
      exact .of_frame (by rw [upsertGrade_frame graded])
  | claimNextJob request claimedAt =>
      rw [Database.claimNextJob, commitThen_store]
      exact .transact fun _ _ committed => .of_frame (by rw [claimNextJob_frame committed])
  | heartbeatLease fence leaseSeconds heartbeatAt =>
      rw [Database.heartbeatLease, commitThen_store]
      exact .transact fun _ _ committed => .of_frame (by rw [heartbeatLease_frame committed])
  | releaseLease fence reasonCode availableAt releasedAt =>
      rw [Database.releaseLease, commitThen_store]
      exact .transact fun _ _ committed => .of_frame (by rw [releaseLease_frame committed])
  | rejectLease fence reasonCode rejectedAt =>
      rw [Database.rejectLease, commitThen_store]
      exact .transact fun _ _ committed => .of_frame (by rw [rejectLease_frame committed])
  | completeLease fence completedAt =>
      rw [Database.completeLease, commitThen_store]
      exact .transact fun _ _ committed => .of_frame (by rw [completeLease_frame committed])

theorem Continues.carries (continues : Continues platform store after) : Carries store after := by
  induction continues with
  | refl => exact .refl store
  | tail _ step ih => exact ih.trans step.carries

/-! ## Jobs under their idempotency key -/

def Queue.jobOf? (queue : Queue) (idempotencyKey : String) : Option RunExecutionJobRow :=
  Table.find RunExecutionJobRow.idempotencyKey queue.jobs idempotencyKey

/-- A job keeps its identity under every change of its lease. -/
def Queue.Retains (queue after : Queue) : Prop :=
  ∀ key job, queue.jobOf? key = some job → ∃ later, after.jobOf? key = some later ∧
    later.id = job.id ∧ later.runId = job.runId ∧ later.requestDigest = job.requestDigest

theorem Queue.Retains.refl (queue : Queue) : queue.Retains queue :=
  fun _ job found => ⟨job, found, rfl, rfl, rfl⟩

theorem Queue.Retains.trans {first second third : Queue} (left : first.Retains second)
    (right : second.Retains third) : first.Retains third := by
  intro key job found
  obtain ⟨middle, foundMiddle, id, runId, digest⟩ := left key job found
  obtain ⟨later, foundLater, id', runId', digest'⟩ := right key middle foundMiddle
  exact ⟨later, foundLater, id'.trans id, runId'.trans runId, digest'.trans digest⟩

/-- A change of the job with an id, that keeps what identifies a job. -/
theorem retains_of_modify {id : String} {attempts : List RunExecutionAttemptRow}
    {change : RunExecutionJobRow → RunExecutionJobRow}
    (kept : ∀ job, (change job).idempotencyKey = job.idempotencyKey ∧ (change job).id = job.id ∧
      (change job).runId = job.runId ∧ (change job).requestDigest = job.requestDigest) :
    queue.Retains ⟨Table.modify RunExecutionJobRow.id queue.jobs id change, attempts⟩ := by
  intro key job found
  have keyed : ∀ row : RunExecutionJobRow,
      (if row.id = id then change row else row).idempotencyKey = row.idempotencyKey := by
    intro row
    split_ifs
    · exact (kept row).1
    · rfl
  have later := Table.find_map queue.jobs key (fun row => if row.id = id then change row else row)
    keyed
  refine ⟨if job.id = id then change job else job, ?_, ?_⟩
  · rw [Queue.jobOf?] at found ⊢
    rw [Table.modify, later, found, Option.map_some]
  · split_ifs
    · exact (kept job).2
    · exact ⟨rfl, rfl, rfl⟩

theorem QueueStep.retains {after : Queue} (step : QueueStep platform Lasting now queue after) :
    queue.Retains after := by
  cases step with
  | opened job isOpened fresh single =>
      intro key other found
      refine ⟨other, ?_, rfl, rfl, rfl⟩
      rw [Queue.jobOf?] at found ⊢
      rw [Table.find_append, found, Option.some_or]
  | granted => exact retains_of_modify fun _ => ⟨rfl, rfl, rfl, rfl⟩
  | extended => exact .refl queue
  | ended job attempt ending held allowed =>
      refine retains_of_modify fun row => ?_
      cases ending <;> exact ⟨rfl, rfl, rfl, rfl⟩

theorem QueueSteps.retains {after : Queue} (steps : QueueSteps platform Lasting now queue after) :
    queue.Retains after := by
  induction steps with
  | refl => exact .refl queue
  | tail _ step ih => exact ih.trans step.retains

theorem Continues.retains (continues : Continues platform store after)
    (reachable : Reachable platform store) : store.queue.Retains after.queue := by
  induction continues with
  | refl => exact .refl _
  | tail earlier step ih =>
      obtain ⟨_, steps⟩ := step.queueSteps (Continues.reachable earlier reachable).distinctJobs
      exact ih.trans steps.retains

/-- The rules of a job's contract that its lease columns obey. -/
structure RunExecutionJobRow.Coherent (job : RunExecutionJobRow) : Prop where
  leased : job.status = .leased ↔ job.activeAttemptId.isSome = true
  finished : job.status.terminal = true ↔ job.finishedAt.isSome = true
  rejected : job.status = .rejected ↔ job.rejectionCode.isSome = true
  named : ∀ id, job.activeAttemptId = some id → strip id ≠ ""
  coded : ∀ code, job.rejectionCode = some code → strip code ≠ ""

theorem RunExecutionJobRow.Opened.coherent (opened : job.Opened platform now) : job.Coherent := by
  refine ⟨?_, ?_, ?_, ?_, ?_⟩ <;>
    simp [opened.queued, opened.inactive, opened.unfinished, opened.unrejected, JobStatus.terminal]

theorem RunExecutionJobRow.Coherent.granted {attempt : RunExecutionAttemptRow}
    (coherent : job.Coherent) (queued : job.status = .queued) (named : strip attempt.id ≠ "") :
    (grantTo attempt job).Coherent := by
  have unfinished : job.finishedAt.isSome = false := by
    simpa [queued, JobStatus.terminal] using coherent.finished
  have unrejected : job.rejectionCode.isSome = false := by
    simpa [queued] using coherent.rejected
  refine ⟨by simp [grantTo], by simp [grantTo, unfinished, JobStatus.terminal],
    by simp [grantTo, unrejected], ?_, coherent.coded⟩
  rintro _ ⟨⟩
  exact named

theorem RunExecutionJobRow.Coherent.ended {attempt : RunExecutionAttemptRow} {ending : Ending}
    (coherent : job.Coherent) (leased : job.status = .leased) (allowed : ending.Allowed now attempt) :
    (ending.settleJob now job).Coherent := by
  have unfinished : job.finishedAt = none := by
    simpa [leased, JobStatus.terminal] using coherent.finished
  have unrejected : job.rejectionCode = none := by
    simpa [leased] using coherent.rejected
  cases ending with
  | expired | released =>
      refine ⟨?_, ?_, ?_, ?_, ?_⟩ <;>
        simp [Ending.settleJob, unfinished, unrejected, JobStatus.terminal]
  | completed =>
      refine ⟨?_, ?_, ?_, ?_, ?_⟩ <;> simp [Ending.settleJob, unrejected, JobStatus.terminal]
  | rejected reasonCode =>
      refine ⟨?_, ?_, ?_, ?_, ?_⟩
      case refine_5 =>
        rintro _ ⟨⟩
        exact strip_of_isReasonCode allowed.2
      all_goals simp [Ending.settleJob, JobStatus.terminal]

/-- A change of one job keeps the jobs coherent when it keeps that job so. -/
theorem coherent_of_modify {change : RunExecutionJobRow → RunExecutionJobRow}
    (distinct : queue.DistinctJobs) (coherent : ∀ row ∈ queue.jobs, row.Coherent)
    (found : queue.job? job.id = some job) (changed : (change job).Coherent) :
    ∀ row ∈ Table.modify RunExecutionJobRow.id queue.jobs job.id change, row.Coherent := by
  intro row member
  obtain ⟨earlier, isEarlier, rfl⟩ := Table.mem_modify.mp member
  split_ifs with same
  · have isJob := Table.find_of_mem distinct isEarlier
    rw [same] at isJob
    rw [Option.some.inj (isJob.symm.trans found)]
    exact changed
  · exact coherent earlier isEarlier

theorem QueueStep.coherent {after : Queue} (step : QueueStep platform Lasting now queue after)
    (distinct : queue.DistinctJobs) (coherent : ∀ row ∈ queue.jobs, row.Coherent) :
    ∀ row ∈ after.jobs, row.Coherent := by
  cases step with
  | opened job isOpened fresh single =>
      intro row member
      rcases List.mem_append.mp member with earlier | new
      · exact coherent row earlier
      · rw [List.mem_singleton.mp new]
        exact isOpened.coherent
  | granted job attempt duration lasting found queued isGranted fresh =>
      obtain ⟨count, identified⟩ := isGranted.identified
      have named : strip attempt.id ≠ "" := identified ▸ strip_issued _ _
      exact coherent_of_modify distinct coherent found
        ((coherent job (Table.find_mem found)).granted queued named)
  | extended => exact coherent
  | ended job attempt ending held allowed =>
      exact coherent_of_modify distinct coherent held.job_found
        ((coherent job (Table.find_mem held.job_found)).ended held.leased allowed)

theorem QueueSteps.coherent {after : Queue} (steps : QueueSteps platform Lasting now queue after)
    (distinct : queue.DistinctJobs) (coherent : ∀ row ∈ queue.jobs, row.Coherent) :
    ∀ row ∈ after.jobs, row.Coherent := by
  induction steps with
  | refl => exact coherent
  | tail earlier step ih => exact step.coherent (QueueSteps.distinctJobs earlier distinct) ih

theorem Reachable.coherent (reachable : Reachable platform store) :
    ∀ job ∈ store.jobs, job.Coherent := by
  induction reachable with
  | start initial =>
      obtain ⟨_, _, jobs, _⟩ := initial
      simp [jobs]
  | next earlier step ih =>
      obtain ⟨_, steps⟩ := step.queueSteps earlier.distinctJobs
      exact steps.coherent earlier.distinctJobs ih

end

/-- The identity columns of a job that has a contract. -/
structure Identified (row : RunExecutionJobRow) (job : RunExecutionJob) : Prop where
  jobId : NonEmptyStr.parse row.id = .ok job.jobId
  runId : NonEmptyStr.parse row.runId = .ok job.runId
  key : NonEmptyStr.parse row.idempotencyKey = .ok job.idempotencyKey
  digest : Digest.parse row.requestDigest = .ok job.requestDigest

theorem identified_of_model {row : RunExecutionJobRow} {job : RunExecutionJob}
    (read : executionJobModel row = .ok job) : Identified row job := by
  simp only [executionJobModel, validated_ok, readJob, bind_ok] at read
  obtain ⟨jobId, jobRead, runId, runRead, key, keyRead, digest, digestRead, _, _, _, _, read⟩ := read
  split_ifs at read
  obtain rfl := Except.ok.inj read
  exact ⟨jobRead, runRead, keyRead, digestRead⟩

/-! ## Events under their operation key -/

section Events

variable {platform : Platform} {store after : Store} {runId : String} {row : RunEventRow}

/-- The event of an operation key is the one that the request asks for. -/
structure OnceRecorded (platform : Platform) (store : Store) (runId : String)
    (request : OnceRequest) (row : RunEventRow) : Prop where
  normal : ∃ payload, normalizeEventPayload platform request.eventType request.payload =
    .ok payload ∧ sameEvent row request.eventType payload = true
  found : store.eventByKey? runId request.operationKey = some row

section

variable {request : OnceRequest}

theorem OnceRecorded.carried (recorded : OnceRecorded platform store runId request row)
    (carries : Carries store after) : OnceRecorded platform after runId request row :=
  ⟨recorded.normal, carries.eventByKey? recorded.found⟩

/-- An insert under a new key is found under that key. -/
theorem eventByKey_of_insert {inserted : Store} {key : String}
    (absent : store.eventByKey? runId key = none)
    (insertion : after.insertEvent row = .ok inserted) (events : after.events = store.events)
    (owned : row.runId = runId) (keyed : row.operationKey = some key) : inserted.eventByKey? runId key = some row := by
  obtain ⟨_, _, _, rfl⟩ := Store.insertEvent_ok insertion
  rw [Store.eventByKey?] at absent ⊢
  rw [List.find?_append, events, absent]
  simp [owned, keyed]

theorem sameEvent_sealEvent (head : EventHead) (payload : Json) (key : Option String) :
    sameEvent (sealEvent platform head payload key) head.eventType payload = true := by
  simp [sameEvent, sealEvent]

theorem appendEventOnce_recorded {occurredAt : Time}
    (appended : appendEventOnce platform runId request occurredAt store = .ok (row, after)) :
    OnceRecorded platform after runId request row := by
  simp only [appendEventOnce, bind_ok, validated_ok] at appended
  obtain ⟨payload, normal, appended⟩ := appended
  cases existing : store.eventByKey? runId request.operationKey with
  | some found =>
      simp only [existing, bind_ok, require_ok, ok_pair] at appended
      obtain ⟨_, same, rfl, rfl⟩ := appended
      exact ⟨⟨payload, normal, same⟩, existing⟩
  | none =>
      simp only [existing, bind_ok, newId, ok_pair] at appended
      obtain ⟨_, _, _, _, _, _, inserted, insertion, rfl, rfl⟩ := appended
      have found := eventByKey_of_insert existing insertion rfl rfl rfl
      refine ⟨⟨payload, normal, sameEvent_sealEvent _ _ _⟩, ?_⟩
      cases request.nextStatus <;> exact found

/-- A recorded event is returned again, and nothing is written. -/
theorem OnceRecorded.again (recorded : OnceRecorded platform store runId request row)
    (occurredAt : Time) :
    appendEventOnce platform runId request occurredAt store = .ok (row, store) := by
  obtain ⟨payload, normal, same⟩ := recorded.normal
  simp only [appendEventOnce, bind_ok, validated_ok]
  refine ⟨payload, normal, ?_⟩
  simp only [recorded.found, bind_ok, require_ok]
  exact ⟨(), same, trivial⟩

end

theorem appendAll_recorded {clock : Nat → Time} (requests : List (Except Exc OnceRequest))
    (index : Nat) (appended : appendAll platform runId clock requests index store = .ok after) :
    ∀ request ∈ requests, ∃ once row, request = .ok once ∧
      OnceRecorded platform after runId once row := by
  induction requests generalizing index store with
  | nil => simp
  | cons request rest ih =>
      simp only [appendAll, bind_ok, Prod.exists] at appended
      obtain ⟨once, isOnce, row, middle, first, others⟩ := appended
      intro other member
      rcases List.mem_cons.mp member with rfl | later
      · exact ⟨once, row, isOnce, (appendEventOnce_recorded first).carried
          (.of_writes (.appendAll _ _ others))⟩
      · exact ih (index + 1) others other later

theorem appendAll_again {clock : Nat → Time} (requests : List (Except Exc OnceRequest))
    (index : Nat) (recorded : ∀ request ∈ requests, ∃ once row, request = .ok once ∧
      OnceRecorded platform store runId once row) :
    appendAll platform runId clock requests index store = .ok store := by
  induction requests generalizing index with
  | nil => rfl
  | cons request rest ih =>
      obtain ⟨once, row, rfl, first⟩ := recorded request List.mem_cons_self
      simp only [appendAll, bind_ok, Prod.exists]
      exact ⟨once, rfl, row, store, first.again (clock index),
        ih (index + 1) fun other member => recorded other (List.mem_cons_of_mem _ member)⟩

end Events

/-! ## The calls -/

/-- What a caller learns from a call: the ids, or the rows that never change. -/
inductive Receipt (platform : Platform)
  | queued (runId jobId : String)
  | event (row : RunEventRow)
  | prepared (snapshot : ContextSnapshotRow) (envelope : SubjectEnvelopeRecord platform)

inductive KeyedCall (platform : Platform)
  | enqueueRun (request : EnqueueRequest)
  | appendEvent (request : AppendRequest) (keyed : request.operationKey.isSome = true)
  | prepareRunExecution (request : PrepareRequest platform)
  | saveSubjectResponse (request : ResponseRequest platform)

def Outcome.map {First Second : Type} (view : First → Second) (outcome : Outcome First) :
    Outcome Second :=
  ⟨outcome.store, outcome.result.map view⟩

namespace KeyedCall

variable {platform : Platform}

def perform (call : KeyedCall platform) (clock : Nat → Time) (store : Store) :
    Outcome (Receipt platform) :=
  match call with
  | .enqueueRun request => (Database.enqueueRun platform request (clock 0) store).map
      fun answer => .queued answer.1.id answer.2.jobId.1
  | .appendEvent request _ => (Database.appendEvent platform request clock store).map .event
  | .prepareRunExecution request => (Database.prepareRunExecution platform request clock store).map
      fun answer => .prepared answer.1 answer.2
  | .saveSubjectResponse request =>
      (Database.saveSubjectResponse platform request clock store).map .event

/-- The same call under the fence that is active now; a repeated append settles no lease. -/
def again (call : KeyedCall platform) (fence : LeaseFence) : KeyedCall platform :=
  match call with
  | .enqueueRun request => .enqueueRun request
  | .appendEvent request keyed => .appendEvent
      { request with
        lease := request.lease.map fun _ => fence
        completeExecution := false
        rejectExecutionCode := none } keyed
  | .prepareRunExecution request => .prepareRunExecution { request with lease := fence }
  | .saveSubjectResponse request => .saveSubjectResponse { request with lease := fence }

/-- The fence of the call, if it has one, is active when the call reads it. -/
def FenceActive (call : KeyedCall platform) (clock : Nat → Time) (store : Store) : Prop :=
  match call with
  | .enqueueRun _ => True
  | .appendEvent request _ =>
      validateOptionalLease store request.lease request.runId (clock 0) = .ok ()
  | .prepareRunExecution request =>
      validateOptionalLease store (some request.lease) request.runId (clock 1) = .ok ()
  | .saveSubjectResponse request =>
      validateOptionalLease store (some request.lease) request.runId (clock 0) = .ok ()

/-- The output of the Run is the one that the call captured. -/
def OutputStands (call : KeyedCall platform) (store : Store) : Prop :=
  match call with
  | .saveSubjectResponse request => ∀ run, store.run? request.runId = some run →
      run.output = request.capturedOutput
  | _ => True

theorem step (call : KeyedCall platform) (clock : Nat → Time) (store : Store) :
    StoreStep platform store (call.perform clock store).store := by
  cases call with
  | enqueueRun request =>
      simp only [perform, Outcome.map]
      exact .enqueueRun request (clock 0)
  | appendEvent request =>
      simp only [perform, Outcome.map]
      exact .appendEvent request clock
  | prepareRunExecution request =>
      simp only [perform, Outcome.map]
      exact .prepareRunExecution request clock
  | saveSubjectResponse request =>
      simp only [perform, Outcome.map]
      exact .saveSubjectResponse request clock

end KeyedCall

theorem Outcome.map_result {First Second : Type} {view : First → Second}
    {outcome : Outcome First} {answer : Second} :
    (outcome.map view).result = .ok answer ↔
      ∃ value, outcome.result = .ok value ∧ view value = answer := by
  unfold Outcome.map
  cases outcome.result <;> simp [Except.map]

section

variable {Result : Type} {store : Store} {result : Result}

theorem transact_result {body : Store → Except Exc (Result × Store)} :
    (transact body store).result = .ok result ↔
      body store = .ok (result, (transact body store).store) := by
  unfold transact
  cases body store with
  | error exception => simp
  | ok pair => simp [Prod.ext_iff]

theorem saveSubjectResponse_result {platform : Platform} {request : ResponseRequest platform}
    {clock : Nat → Time} {row : RunEventRow} :
    (saveSubjectResponse platform request clock store).result = .ok row ↔
      saveSubjectResponseBody platform request clock store =
        .ok (row, (saveSubjectResponse platform request clock store).store) :=
  transact_result

theorem commitThen_result {Rows : Type} {body : Store → Except Exc (Rows × Store)}
    {convert : Rows → Except Exc Result} :
    (commitThen body convert store).result = .ok result ↔
      ∃ rows, body store = .ok (rows, (commitThen body convert store).store) ∧
        convert rows = .ok result := by
  unfold commitThen
  cases body store with
  | error exception => simp
  | ok pair => simp [Prod.ext_iff]

/-- A body that answers and leaves the store alone. -/
theorem transact_of_ok {body : Store → Except Exc (Result × Store)} {after : Store}
    (done : body store = .ok (result, after)) : transact body store = ⟨after, .ok result⟩ := by
  simp only [transact, done]

theorem commitThen_of_ok {Rows : Type} {body : Store → Except Exc (Rows × Store)}
    {convert : Rows → Except Exc Result} {after : Store} {rows : Rows}
    (done : body store = .ok (rows, after)) (converted : convert rows = .ok result) :
    commitThen body convert store = ⟨after, .ok result⟩ := by
  simp only [commitThen, done, converted]

end

/-! ## `append_event` -/

section Append

variable {platform : Platform} {store after : Store} {request : AppendRequest} {row : RunEventRow}

structure AppendRecorded (platform : Platform) (store : Store) (request : AppendRequest)
    (row : RunEventRow) : Prop where
  accepted : ∃ kind payload, validateRequest platform request = .ok (kind, payload) ∧
    sameEvent row kind payload = true
  run : ∃ run, store.run? request.runId = some run
  found : ∃ key, request.operationKey = some key ∧ store.eventByKey? request.runId key = some row

theorem AppendRecorded.carried (recorded : AppendRecorded platform store request row)
    (carries : Carries store after) : AppendRecorded platform after request row := by
  obtain ⟨run, isRun⟩ := recorded.run
  obtain ⟨later, isLater, _⟩ := carries.runs _ run isRun
  obtain ⟨key, keyed, found⟩ := recorded.found
  exact ⟨recorded.accepted, ⟨later, isLater⟩, key, keyed, carries.eventByKey? found⟩

theorem appendEvent_recorded {clock : Nat → Time} (keyed : request.operationKey.isSome = true)
    (appended : appendEventBody platform request clock store = .ok (row, after)) :
    AppendRecorded platform after request row := by
  obtain ⟨key, isKey⟩ := Option.isSome_iff_exists.mp keyed
  have carries : Carries store after := .of_writes (.appendEvent appended)
  simp only [appendEventBody, bind_ok, Prod.exists, orRaise_ok] at appended
  obtain ⟨kind, payload, accepted, _, _, run, isRun, appended⟩ := appended
  obtain ⟨later, isLater, _⟩ := carries.runs _ run isRun
  simp only [isKey, Option.bind_some] at appended
  cases existing : store.eventByKey? request.runId key with
  | some earlier =>
      simp only [existing, bind_ok, require_ok, ok_pair] at appended
      obtain ⟨_, same, _, _, rfl, _⟩ := appended
      exact ⟨⟨kind, payload, accepted, same⟩, ⟨later, isLater⟩, key, isKey,
        carries.eventByKey? existing⟩
  | none =>
      simp only [existing, bind_ok, persistEvent, newId, ok_pair] at appended
      obtain ⟨_, _, _, _, _, _, inserted, insertion, settled, settling, rfl, rfl⟩ := appended
      have found := eventByKey_of_insert existing insertion rfl rfl isKey
      refine ⟨⟨kind, payload, accepted, sameEvent_sealEvent _ _ _⟩, ⟨later, isLater⟩, key, isKey, ?_⟩
      refine Carries.eventByKey? (.of_writes (Writes.settleLease settling)) ?_
      split <;> exact found

/-- What was accepted is accepted under another fence, and without settling it. -/
theorem validateRequest_again {kind : EventType} {payload : Json} (fence : LeaseFence)
    (accepted : validateRequest platform request = .ok (kind, payload)) :
    validateRequest platform { request with
      lease := request.lease.map fun _ => fence
      completeExecution := false
      rejectExecutionCode := none } = .ok (kind, payload) := by
  simp only [validateRequest, bind_ok, require_ok, orRaise_ok, Option.isSome_map] at accepted ⊢
  obtain ⟨_, actor, _, named, found, isKind, _, supported, _, fenced, document, normal, _, _,
    accepted⟩ := accepted
  have same : (found, document) = (kind, payload) := by
    cases code : request.rejectExecutionCode with
    | none => simpa [code] using accepted
    | some reason =>
        simp only [code, bind_ok] at accepted
        obtain ⟨_, _, _, _, accepted⟩ := accepted
        exact Except.ok.inj accepted
  exact ⟨(), actor, (), named, found, isKind, (), supported, (), fenced, document, normal, (),
    by simp, by rw [same]⟩

theorem AppendRecorded.again {clock : Nat → Time} {fence : LeaseFence}
    (recorded : AppendRecorded platform store request row)
    (active : validateOptionalLease store (request.lease.map fun _ => fence) request.runId
      (clock 0) = .ok ()) :
    appendEventBody platform { request with
      lease := request.lease.map fun _ => fence
      completeExecution := false
      rejectExecutionCode := none } clock store = .ok (row, store) := by
  obtain ⟨kind, payload, accepted, same⟩ := recorded.accepted
  obtain ⟨run, isRun⟩ := recorded.run
  obtain ⟨key, keyed, found⟩ := recorded.found
  simp only [appendEventBody, bind_ok, Prod.exists, orRaise_ok]
  refine ⟨kind, payload, validateRequest_again fence accepted, (), active, run, isRun, ?_⟩
  simp only [keyed, Option.bind_some, found, bind_ok, require_ok]
  refine ⟨(), same, store, ?_, rfl⟩
  cases request.lease <;> simp [settleLease]

end Append

/-! ## `enqueue_run` -/

section Enqueue

variable {platform : Platform} {store after : Store} {request : EnqueueRequest}

structure EnqueueRecorded (platform : Platform) (store : Store) (request : EnqueueRequest)
    (runId jobId : String) : Prop where
  named : pyStrip request.idempotencyKey ≠ ""
  job : ∃ row job, store.queue.jobOf? request.idempotencyKey = some row ∧ Identified row job ∧
    job.jobId.1 = jobId ∧ row.runId = runId ∧
    row.requestDigest = requestDigest platform request
  run : ∃ run, store.run? runId = some run

theorem EnqueueRecorded.carried {runId jobId : String}
    (recorded : EnqueueRecorded platform store request runId jobId) (carries : Carries store after)
    (retains : store.queue.Retains after.queue) :
    EnqueueRecorded platform after request runId jobId := by
  obtain ⟨row, job, found, identified, isJob, isRun, digest⟩ := recorded.job
  obtain ⟨later, isLater, id, sameRun, sameDigest⟩ := retains _ row found
  obtain ⟨run, held⟩ := recorded.run
  obtain ⟨laterRun, isLaterRun, _⟩ := carries.runs _ run held
  have key : later.idempotencyKey = row.idempotencyKey :=
    (Table.find_key isLater).trans (Table.find_key found).symm
  refine ⟨recorded.named, ⟨later, job, isLater, ?_, isJob, sameRun.trans isRun,
    sameDigest.trans digest⟩, laterRun, isLaterRun⟩
  exact ⟨id ▸ identified.jobId, sameRun ▸ identified.runId, key ▸ identified.key,
    sameDigest ▸ identified.digest⟩

theorem run_of_update {runId : String} {run : RunRow} (change : RunRow → RunRow)
    (keyed : ∀ row, (change row).id = row.id) (found : store.run? runId = some run) :
    (store.updateRun runId change).run? runId = some (change run) := by
  rw [Store.run?] at found
  rw [Store.run?, Store.updateRun, Table.find_modify_self _ _ _ keyed, found, Option.map_some]

theorem run_of_insert {row : RunRow} (inserted : store.insertRun row = .ok after) :
    after.run? row.id = some row := by
  obtain ⟨fresh, rfl⟩ := Store.insertRun_ok inserted
  have absent : Table.find RunRow.id store.runs row.id = none := Table.find_eq_none.mpr fresh
  rw [Store.run?, Table.find_append, absent]
  simp [Table.find]

theorem enqueueRun_recorded {requestedAt : Time} {run : RunRow} {row : RunExecutionJobRow}
    {job : RunExecutionJob} (model : executionJobModel row = .ok job)
    (enqueued : enqueueRunBody platform request requestedAt store = .ok ((run, row), after)) :
    EnqueueRecorded platform after request run.id job.jobId.1 := by
  simp only [enqueueRunBody, bind_ok, require_ok, bne_iff_ne] at enqueued
  obtain ⟨_, named, enqueued⟩ := enqueued
  split at enqueued
  · rename_i existing found
    simp only [bind_ok, require_ok, orRaise_ok, beq_iff_eq, ok_pair, Prod.mk.injEq] at enqueued
    obtain ⟨_, digest, held, isHeld, ⟨rfl, rfl⟩, rfl⟩ := enqueued
    have isRun : held.id = existing.runId := Table.find_key isHeld
    exact ⟨named, ⟨existing, job, found, identified_of_model model, rfl, isRun.symm, digest⟩,
      held, isRun ▸ isHeld⟩
  · rename_i absent
    simp only [bind_ok, Prod.exists, newId, appendQueuedEvent, ok_pair] at enqueued
    obtain ⟨_, _, _, _, _, _, opened, insertedRun, queued, ⟨_, _, insertedEvent⟩, _, insertedJob,
      ⟨rfl, rfl⟩, rfl⟩ := enqueued
    have found := run_of_insert insertedRun
    have jobs : queued.jobs = store.jobs := by
      rw [(Store.insertEvent_ok insertedEvent).2.2.2, (Store.insertRun_ok insertedRun).2]
    have carries : Carries opened _ := .of_writes
      (((Writes.issued opened).tail (.event _ insertedEvent)).trans (Writes.issued queued))
    obtain ⟨later, isLater, _⟩ := carries.runs _ _ found
    obtain ⟨_, _, rfl⟩ := Store.insertJob_ok insertedJob
    refine ⟨named, ⟨_, job, ?_, identified_of_model model, rfl, rfl, rfl⟩, later, isLater⟩
    have absentJob : store.queue.jobOf? request.idempotencyKey = none := absent
    rw [Queue.jobOf?] at absentJob ⊢
    change Table.find _ (queued.jobs ++ _) _ = _
    rw [jobs, Table.find_append, show Table.find _ store.jobs _ = none from absentJob]
    simp [Table.find, queuedJob]

theorem EnqueueRecorded.again {runId jobId : String}
    (recorded : EnqueueRecorded platform store request runId jobId)
    (coherent : ∀ job ∈ store.jobs, job.Coherent) (requestedAt : Time) :
    ∃ run job, enqueueRun platform request requestedAt store = ⟨store, .ok (run, job)⟩ ∧
      run.id = runId ∧ job.jobId.1 = jobId := by
  obtain ⟨row, job, found, identified, isJob, isRun, digest⟩ := recorded.job
  obtain ⟨run, held⟩ := recorded.run
  have sound := coherent row (Table.find_mem found)
  obtain ⟨active, activeRead, _, activeSome⟩ := parseOptional_of_strip sound.named
  obtain ⟨code, codeRead, _, codeSome⟩ := parseOptional_of_strip sound.coded
  have read := readJob_of_parsed identified.jobId identified.runId identified.key identified.digest
    activeRead codeRead (by rw [activeSome]; exact sound.leased) sound.finished
    (by rw [codeSome]; exact sound.rejected)
  obtain ⟨stored, model, sameId⟩ : ∃ stored, executionJobModel row = .ok stored ∧
      stored.jobId = job.jobId := ⟨_, (validated_ok ..).mpr read, rfl⟩
  have body : enqueueRunBody platform request requestedAt store = .ok ((run, row), store) := by
    simp only [enqueueRunBody, bind_ok, require_ok, bne_iff_ne]
    refine ⟨(), recorded.named, ?_⟩
    have same : store.jobs.find? (fun job => job.idempotencyKey = request.idempotencyKey) =
      some row := found
    simp only [same, bind_ok, require_ok, orRaise_ok, beq_iff_eq]
    exact ⟨(), digest, run, isRun ▸ held, rfl⟩
  refine ⟨run, stored, commitThen_of_ok body ?_, Table.find_key held, sameId ▸ isJob⟩
  simp only [model, bind, Except.bind]

end Enqueue

/-! ## `prepare_run_execution` -/

section Prepare

variable {platform : Platform} {store after : Store} {request : PrepareRequest platform}
  {snapshotRow : ContextSnapshotRow} {envelopeRow : SubjectEnvelopeRow}

structure PrepareRecorded (platform : Platform) (store : Store) (request : PrepareRequest platform)
    (snapshotRow : ContextSnapshotRow) (envelopeRow : SubjectEnvelopeRow) : Prop where
  loaded : ∃ run, loadPreparedRun platform store request = .ok run ∧
    store.run? request.runId = some run ∧ run.contextHash = some snapshotRow.contentHash
  snapshot : store.snapshotOf? request.runId = some snapshotRow
  expected : request.snapshot.stored snapshotRow = true
  envelope : store.envelope? request.runId = some envelopeRow
  given : envelopeRow.envelopeJson.text = canonicalJson request.envelope.semanticDocument ∧
    envelopeRow.digest = digestOf platform request.envelope
  events : ∀ asked ∈ preparationRequests platform request snapshotRow.id, ∃ once row,
    asked = .ok once ∧ OnceRecorded platform store request.runId once row

/-- The contracts of a prepared Run are read the same later. -/
theorem loadPreparedRun_carried {run : RunRow} (carries : Carries store after)
    (loaded : loadPreparedRun platform store request = .ok run)
    (found : store.run? request.runId = some run) : ∃ later,
    loadPreparedRun platform after request = .ok later ∧
      after.run? request.runId = some later ∧
      ∀ row, store.snapshotOf? request.runId = some row →
        run.contextHash = some row.contentHash → later.contextHash = some row.contentHash := by
  obtain ⟨later, isLater, spec, admission, context⟩ := carries.runs _ run found
  refine ⟨later, ?_, isLater, context⟩
  simp only [loadPreparedRun, bind_ok, orRaise_ok, Store.runSpec?, Store.admission?, carries.specs,
    carries.admissions] at loaded ⊢
  obtain ⟨held, isHeld, specId, isSpec, admissionId, isAdmission, rest⟩ := loaded
  obtain rfl := Option.some.inj (isHeld.symm.trans found)
  refine ⟨later, isLater, specId, spec.trans isSpec, admissionId, admission.trans isAdmission, ?_⟩
  obtain ⟨specRow, isSpecRow, admissionRow, isAdmissionRow, done, exact_, _⟩ := rest
  exact ⟨specRow, isSpecRow, admissionRow, isAdmissionRow, done, exact_, rfl⟩

theorem PrepareRecorded.carried
    (recorded : PrepareRecorded platform store request snapshotRow envelopeRow)
    (carries : Carries store after) :
    PrepareRecorded platform after request snapshotRow envelopeRow := by
  obtain ⟨run, loaded, found, context⟩ := recorded.loaded
  obtain ⟨later, loadedLater, foundLater, kept⟩ := loadPreparedRun_carried carries loaded found
  refine ⟨⟨later, loadedLater, foundLater, kept _ recorded.snapshot context⟩,
    carries.snapshotOf? recorded.snapshot, recorded.expected, carries.envelope? recorded.envelope,
    recorded.given, fun asked member => ?_⟩
  obtain ⟨once, row, isOnce, event⟩ := recorded.events asked member
  exact ⟨once, row, isOnce, event.carried carries⟩

theorem prepareRunExecution_recorded {clock : Nat → Time}
    (prepared : prepareRunExecutionBody platform request clock store =
      .ok ((snapshotRow, envelopeRow), after)) :
    PrepareRecorded platform after request snapshotRow envelopeRow := by
  simp only [prepareRunExecutionBody, bind_ok, Prod.exists, ok_pair, Prod.mk.injEq] at prepared
  obtain ⟨_, _, run, loaded, row, first, snapshotted, _, second, enveloped, third, appended,
    ⟨rfl, rfl⟩, rfl⟩ := prepared
  obtain ⟨taken, found, expected⟩ := Writes.upsertContextSnapshot snapshotted
  obtain ⟨stored, envelope, given⟩ := Writes.upsertSubjectEnvelope enveloped
  have isRun : store.run? request.runId = some run := by
    simp only [loadPreparedRun, bind_ok, orRaise_ok, Except.ok.injEq] at loaded
    obtain ⟨_, isRun, _, _, _, _, _, _, _, _, _, _, rfl⟩ := loaded
    exact isRun
  have toSecond : Carries store second := .of_writes (taken.trans stored)
  have toThird : Carries second third := .of_writes (.appendAll _ _ appended)
  have fromFirst : Carries first third := (Carries.of_writes stored).trans toThird
  obtain ⟨later, loadedLater, isLater, _⟩ :=
    loadPreparedRun_carried (toSecond.trans toThird) loaded isRun
  have contextual : Carries third (third.updateRun request.runId fun run =>
      { run with contextHash := some request.snapshot.contentHash }) := by
    rw [← Snapshot.contentHash_of_stored expected]
    exact .of_write (.context request.runId _ (fromFirst.snapshotOf? found))
  obtain ⟨final, loadedFinal, isFinal, _⟩ := loadPreparedRun_carried contextual loadedLater isLater
  have context : final.contextHash = some row.contentHash := by
    rw [run_of_update (fun run => { run with contextHash := some request.snapshot.contentHash })
      (fun _ => rfl) isLater] at isFinal
    rw [← Option.some.inj isFinal, Snapshot.contentHash_of_stored expected]
  refine ⟨⟨final, loadedFinal, isFinal, context⟩,
    contextual.snapshotOf? (fromFirst.snapshotOf? found), expected,
    contextual.envelope? (toThird.envelope? envelope), given, fun asked member => ?_⟩
  obtain ⟨once, offered, isOnce, event⟩ := appendAll_recorded _ _ appended asked member
  exact ⟨once, offered, isOnce, event.carried contextual⟩

theorem PrepareRecorded.again {clock : Nat → Time} {fence : LeaseFence}
    (recorded : PrepareRecorded platform store request snapshotRow envelopeRow)
    (distinct : (store.runs.map RunRow.id).Nodup)
    (active : validateOptionalLease store (some fence) request.runId (clock 1) = .ok ()) :
    prepareRunExecutionBody platform { request with lease := fence } clock store =
      .ok ((snapshotRow, envelopeRow), store) := by
  obtain ⟨run, loaded, found, context⟩ := recorded.loaded
  have unchanged : (store.updateRun request.runId fun run =>
      { run with contextHash := some request.snapshot.contentHash }) = store := by
    rw [Store.updateRun, (Table.modify_eq_self_iff _ distinct found).mpr]
    rw [← Snapshot.contentHash_of_stored recorded.expected, ← context]
  have snapshotted : ∀ preparedAt, upsertContextSnapshot platform request.runId request.snapshot
      preparedAt store = .ok (snapshotRow, store) := by
    intro preparedAt
    have same : store.snapshots.find? (fun row => row.runId = request.runId) = some snapshotRow :=
      recorded.snapshot
    simp only [upsertContextSnapshot, same, bind_ok, require_ok]
    exact ⟨(), recorded.expected, trivial⟩
  have enveloped : ∀ preparedAt, upsertSubjectEnvelope platform request.runId request.envelope
      preparedAt store = .ok (envelopeRow, store) := by
    intro preparedAt
    simp only [upsertSubjectEnvelope, recorded.envelope, bind_ok, require_ok, Bool.and_eq_true,
      beq_iff_eq]
    exact ⟨(), recorded.given, trivial⟩
  simp only [prepareRunExecutionBody, bind_ok, Prod.exists]
  exact ⟨(), active, run, loaded, snapshotRow, store, snapshotted _, envelopeRow, store,
    enveloped _, store, appendAll_again _ _ recorded.events, by rw [unchanged]⟩

end Prepare

/-! ## `save_subject_response` -/

section Respond

variable {platform : Platform} {store after : Store} {request : ResponseRequest platform}
  {row : RunEventRow}

/-- The event that captures a response. -/
def respondedRequest (response : Json) : OnceRequest where
  eventType := .subjectResponded
  payload := response
  operationKey := "subject:responded"
  allowedStatuses := [.running]

structure RespondRecorded (platform : Platform) (store : Store)
    (request : ResponseRequest platform) (row : RunEventRow) : Prop where
  spec : ∃ run specId specRow, store.run? request.runId = some run ∧
    run.runSpecId = some specId ∧ store.runSpec? specId = some specRow ∧
    specRow.digest = digestOf platform request.spec
  responded : ∃ response,
    normalizeEventPayload platform .subjectResponded request.responsePayload = .ok response ∧
    response.field "capture_mode" =
      (request.spec.dump.field "capture_policy").field "default_mode" ∧
    OnceRecorded platform store request.runId (respondedRequest response) row
  evaluating : ∃ started, OnceRecorded platform store request.runId evaluatingRequest started

theorem RespondRecorded.carried (recorded : RespondRecorded platform store request row)
    (carries : Carries store after) : RespondRecorded platform after request row := by
  obtain ⟨run, specId, specRow, isRun, isSpec, found, digest⟩ := recorded.spec
  obtain ⟨later, isLater, sameSpec, _⟩ := carries.runs _ run isRun
  obtain ⟨response, normal, captured, responded⟩ := recorded.responded
  obtain ⟨started, evaluating⟩ := recorded.evaluating
  refine ⟨⟨later, specId, specRow, isLater, sameSpec.trans isSpec, ?_, digest⟩,
    ⟨response, normal, captured, responded.carried carries⟩, started, evaluating.carried carries⟩
  rw [Store.runSpec?, carries.specs]
  exact found

theorem saveSubjectResponse_recorded {clock : Nat → Time}
    (saved : saveSubjectResponseBody platform request clock store = .ok (row, after)) :
    RespondRecorded platform after request row := by
  have carries : Carries store after := .of_writes (.saveSubjectResponse saved)
  simp only [saveSubjectResponseBody, bind_ok, Prod.exists, orRaise_ok, validated_ok, require_ok,
    beq_iff_eq, ok_pair] at saved
  obtain ⟨_, _, run, isRun, specId, isSpec, specRow, found, _, digest, response, normal, _,
    captured, _, _, _, middle, responded, started, final, evaluating, rfl, rfl⟩ := saved
  obtain ⟨later, isLater, sameSpec, _⟩ := carries.runs _ run isRun
  have fromMiddle : Carries middle final :=
    (Carries.of_write (.output request.runId request.capturedOutput)).trans
      (.of_writes (.appendEventOnce evaluating))
  refine ⟨⟨later, specId, specRow, isLater, sameSpec.trans isSpec, ?_, digest⟩,
    ⟨response, normal, captured, (appendEventOnce_recorded responded).carried fromMiddle⟩, started,
    appendEventOnce_recorded evaluating⟩
  rw [Store.runSpec?, carries.specs]
  exact found

/-- A repeated response is the recorded one, and the output is assigned again. -/
theorem RespondRecorded.again {clock : Nat → Time} {fence : LeaseFence}
    (recorded : RespondRecorded platform store request row)
    (active : validateOptionalLease store (some fence) request.runId (clock 0) = .ok ()) :
    saveSubjectResponseBody platform { request with lease := fence } clock store =
      .ok (row, store.updateRun request.runId fun run =>
        { run with output := request.capturedOutput }) := by
  obtain ⟨run, specId, specRow, isRun, isSpec, found, digest⟩ := recorded.spec
  obtain ⟨response, normal, captured, responded⟩ := recorded.responded
  obtain ⟨started, evaluating⟩ := recorded.evaluating
  have assigned := evaluating.carried
    (.of_write (.output request.runId request.capturedOutput))
  have answered : (store.eventByKey? request.runId "subject:responded").isSome = true := by
    rw [show store.eventByKey? request.runId "subject:responded" = some row from responded.found]
    rfl
  simp only [saveSubjectResponseBody, bind_ok, Prod.exists, orRaise_ok, validated_ok, require_ok,
    beq_iff_eq, answered, Bool.true_or]
  exact ⟨(), active, run, isRun, specId, isSpec, specRow, found, (), digest, response, normal, (),
    captured, (), trivial, row, store, responded.again (clock 1), started, _,
    assigned.again (clock 2), rfl⟩

end Respond

/-! ## Repetition -/

theorem updateRun_output_iff {store : Store} {runId : String} {run : RunRow}
    (captured : Option String) (distinct : (store.runs.map RunRow.id).Nodup)
    (found : store.run? runId = some run) :
    (store.updateRun runId fun run => { run with output := captured }) = store ↔
      run.output = captured := by
  have rows := Table.modify_eq_self_iff (fun run : RunRow => { run with output := captured })
    distinct found
  rw [show run.output = captured ↔ ({ run with output := captured } : RunRow) = run from
    ⟨fun same => by rw [← same], fun same => (congrArg RunRow.output same).symm⟩, ← rows]
  exact ⟨fun same => congrArg Store.runs same, fun same => by rw [Store.updateRun, same]⟩

/-- A recorded response that is saved again changes the store exactly when the output of
the Run is another one. -/
theorem repeated_response_iff {platform : Platform} {store : Store}
    (reachable : Reachable platform store) {request : ResponseRequest platform}
    {row : RunEventRow} (recorded : RespondRecorded platform store request row)
    (fence : LeaseFence) (clock : Nat → Time)
    (active : validateOptionalLease store (some fence) request.runId (clock 0) = .ok ()) :
    ((KeyedCall.saveSubjectResponse request).again fence).perform clock store =
        ⟨store, .ok (.event row)⟩ ↔
      (KeyedCall.saveSubjectResponse request).OutputStands store := by
  obtain ⟨run, _, _, found, _⟩ := recorded.spec
  have repeated := transact_of_ok (recorded.again active)
  simp only [KeyedCall.again, KeyedCall.perform, saveSubjectResponse, repeated, Outcome.map,
    Except.map, Outcome.mk.injEq, and_true]
  rw [updateRun_output_iff request.capturedOutput reachable.invariant.distinct found]
  constructor
  · intro same other isOther
    rw [← Option.some.inj (found.symm.trans isOther)]
    exact same
  · intro stands
    exact stands run found

/-- In every reachable store: a committed call that is made again later, under a
fence that is active, answers the same and changes nothing, unless it is
`save_subject_response` and the Run's output is no longer the one it captured. -/
theorem repeated_call_neutral_iff (platform : Platform) (before : Store)
    (reachable : Reachable platform before) (call : KeyedCall platform) (clock : Nat → Time)
    (receipt : Receipt platform) (committed : (call.perform clock before).result = .ok receipt)
    (later : Store) (continues : Continues platform (call.perform clock before).store later)
    (fence : LeaseFence) (clockLater : Nat → Time)
    (active : (call.again fence).FenceActive clockLater later) :
    (call.again fence).perform clockLater later = ⟨later, .ok receipt⟩ ↔
      call.OutputStands later := by
  have performed : Reachable platform (call.perform clock before).store :=
    .next reachable (call.step clock before)
  generalize isMiddle : (call.perform clock before).store = middle at continues performed
  have reached := Continues.reachable continues performed
  have carries := Continues.carries continues
  cases call with
  | enqueueRun request =>
      simp only [KeyedCall.perform, Outcome.map, enqueueRun] at isMiddle
      obtain ⟨⟨run, job⟩, result, rfl⟩ := Outcome.map_result.mp committed
      obtain ⟨⟨held, row⟩, body, converted⟩ := commitThen_result.mp result
      rw [isMiddle] at body
      simp only [bind_ok, ok_pair] at converted
      obtain ⟨_, model, rfl, rfl⟩ := converted
      have recorded := (enqueueRun_recorded model body).carried carries
        (Continues.retains continues performed)
      obtain ⟨sameRun, sameJob, repeated, isRun, isJob⟩ :=
        recorded.again reached.coherent (clockLater 0)
      simp only [KeyedCall.OutputStands, KeyedCall.again, KeyedCall.perform, repeated, Outcome.map,
        Except.map, isRun, isJob]
  | appendEvent request keyed =>
      simp only [KeyedCall.perform, Outcome.map, appendEvent] at isMiddle
      obtain ⟨row, result, rfl⟩ := Outcome.map_result.mp committed
      have body := transact_result.mp result
      rw [isMiddle] at body
      have repeated := transact_of_ok (((appendEvent_recorded keyed body).carried carries).again active)
      simp only [KeyedCall.OutputStands, KeyedCall.again, KeyedCall.perform, appendEvent, repeated,
        Outcome.map, Except.map]
  | prepareRunExecution request =>
      simp only [KeyedCall.perform, Outcome.map, prepareRunExecution] at isMiddle
      obtain ⟨⟨snapshot, envelope⟩, result, rfl⟩ := Outcome.map_result.mp committed
      obtain ⟨⟨row, envelopeRow⟩, body, converted⟩ := commitThen_result.mp result
      rw [isMiddle] at body
      have recorded := (prepareRunExecution_recorded body).carried carries
      have repeated : prepareRunExecution platform { request with lease := fence } clockLater later =
          ⟨later, .ok (snapshot, envelope)⟩ :=
        commitThen_of_ok (recorded.again reached.invariant.distinct active) converted
      simp only [KeyedCall.OutputStands, KeyedCall.again, KeyedCall.perform, repeated, Outcome.map,
        Except.map]
  | saveSubjectResponse request =>
      simp only [KeyedCall.perform, Outcome.map, saveSubjectResponse] at isMiddle
      obtain ⟨row, result, rfl⟩ := Outcome.map_result.mp committed
      have body := transact_result.mp result
      rw [isMiddle] at body
      have recorded := (saveSubjectResponse_recorded body).carried carries
      exact repeated_response_iff reached recorded fence clockLater active

/-! ## A Run whose response is captured twice -/

theorem ok_of_isOk {checked : Except Exc Unit} (passed : checked.isOk = true) : checked = .ok () := by
  cases checked with
  | error exception => simp [Except.isOk, Except.toBool] at passed
  | ok done => rfl

namespace Sample

def spec : RunSpec platform :=
  (RunSpec.modelValidate platform runSpecDocument).toOption.get (by decide +kernel)

def admission : AdmissionRecord platform :=
  (AdmissionRecord.modelValidate platform admissionDocument).toOption.get (by decide +kernel)

def envelope : SubjectEnvelope platform :=
  (SubjectEnvelope.modelValidate platform (.obj
    [("budgets", .obj [("max_wall_seconds", .int 60)]),
      ("goal", goal),
      ("inputs", .arr []),
      ("interaction_protocol", .obj [("mode", .str "single_turn")]),
      ("run_spec_digest", .str digestText),
      ("stop_conditions", .arr []),
      ("workspace", .obj [("external_effect_mode", .str "denied"),
        ("network_mode", .str "disabled"), ("runtime_kind", .str "local")])])).toOption.get (by decide +kernel)

def preparation : PrepareRequest platform where
  runId := "run_0"
  spec := spec
  admission := admission
  snapshot := ⟨"policy", "full", 10, 0, 0, "", .arr [], digestText⟩
  envelope := envelope
  lease := fence

def queued : Outcome (RunRow × RunExecutionJob) := enqueueRun platform enqueueRequest 0 admitted

def leased : Outcome (Option (RunExecutionJob × RunExecutionAttempt)) :=
  claimNextJob platform ⟨"worker", 30, none⟩ 0 queued.store

def prepared : Outcome (ContextSnapshotRow × SubjectEnvelopeRecord platform) :=
  prepareRunExecution platform preparation (fun _ => 1) leased.store

def invocation : AppendRequest where
  runId := "run_0"
  eventType := "subject.invoked"
  payload := .obj [("network", .str "disabled"), ("runner", .str "runner"),
    ("subject_envelope_digest", .str digestText)]
  operationKey := some "subject:invoked"
  lease := some fence

def invoked : Outcome RunEventRow := appendEvent platform invocation (fun _ => 2) prepared.store

/-- One response, with the text that was captured for it. -/
def response (captured : String) : ResponseRequest platform where
  runId := "run_0"
  spec := spec
  responsePayload := .obj [("capture_mode", .str "metadata"), ("output_digest", .str digestText)]
  capturedOutput := some captured
  lease := fence

def responded : Outcome RunEventRow :=
  saveSubjectResponse platform (response "first") (fun _ => 3) invoked.store

def overwritten : Outcome RunEventRow :=
  saveSubjectResponse platform (response "second") (fun _ => 4) responded.store

/-- The first call committed, the second one replaced the output, and the fence of both is
still active. -/
theorem responded_twice : responded.result.isOk = true ∧
    (responded.store.run? "run_0").map (fun run => run.output) = some (some "first") ∧
    (validateOptionalLease responded.store (some fence) "run_0" 5).isOk = true ∧
    (overwritten.store.run? "run_0").map (fun run => run.output) = some (some "second") ∧
    (validateOptionalLease overwritten.store (some fence) "run_0" 5).isOk = true := by
  decide +kernel

theorem reachable_invoked : Reachable platform invoked.store :=
  .next (.next (.next (.next (.start ⟨rfl, rfl, rfl, rfl⟩) (.enqueueRun enqueueRequest 0))
    (.claimNextJob ⟨"worker", 30, none⟩ 0)) (.prepareRunExecution preparation fun _ => 1))
    (.appendEvent invocation fun _ => 2)

theorem reachable_responded : Reachable platform responded.store :=
  .next reachable_invoked (.saveSubjectResponse (response "first") fun _ => 3)

theorem overwriting : StoreStep platform responded.store overwritten.store :=
  .saveSubjectResponse (response "second") fun _ => 4

/-- What the first call wrote and answered. -/
theorem responded_recorded (saved : responded.result.isOk = true) : ∃ row,
    ((KeyedCall.saveSubjectResponse (response "first")).perform (fun _ => 3)
        invoked.store).result = .ok (.event row) ∧
      ((KeyedCall.saveSubjectResponse (response "first")).perform (fun _ => 3)
        invoked.store).store = responded.store ∧
      RespondRecorded platform responded.store (response "first") row := by
  have isResponded : saveSubjectResponse platform (response "first") (fun _ => 3) invoked.store =
    responded := rfl
  obtain ⟨row, answered⟩ : ∃ row, responded.result = .ok row := by
    cases result : responded.result with
    | error exception => simp [result, Except.isOk, Except.toBool] at saved
    | ok row => exact ⟨row, rfl⟩
  have performed : (KeyedCall.saveSubjectResponse (response "first")).perform (fun _ => 3)
      invoked.store = responded.map .event := by
    rw [KeyedCall.perform, isResponded]
  refine ⟨row, ?_, ?_, ?_⟩
  · rw [performed]
    exact Outcome.map_result.mpr ⟨row, answered, rfl⟩
  · rw [performed, Outcome.map]
  · rw [← isResponded] at answered ⊢
    exact saveSubjectResponse_recorded (saveSubjectResponse_result.mp answered)

end Sample

open Sample

/-- A first response is saved, a second one with the same payload replaces the output, and
the first one saved again puts its own output back. -/
theorem repeated_response_overwrites : ∃ receipt,
    Reachable Sample.platform invoked.store ∧
      ((KeyedCall.saveSubjectResponse (response "first")).perform (fun _ => 3)
        invoked.store).result = .ok receipt ∧
      Continues Sample.platform ((KeyedCall.saveSubjectResponse (response "first")).perform
        (fun _ => 3) invoked.store).store overwritten.store ∧
      ((KeyedCall.saveSubjectResponse (response "first")).again fence).FenceActive
        (fun _ => 5) overwritten.store ∧
      ((KeyedCall.saveSubjectResponse (response "first")).again fence).perform
        (fun _ => 5) overwritten.store ≠ ⟨overwritten.store, .ok receipt⟩ := by
  obtain ⟨saved, _, _, replaced, active⟩ := responded_twice
  obtain ⟨row, performed, kept, recorded⟩ := responded_recorded saved
  have reached : Reachable Sample.platform overwritten.store :=
    .next reachable_responded overwriting
  have fenced := ok_of_isOk active
  refine ⟨.event row, reachable_invoked, performed, ?_, fenced, fun same => ?_⟩
  · rewrite [kept]
    exact .single overwriting
  · have later := recorded.carried overwriting.carries
    have stands := (repeated_response_iff reached later fence (fun _ => 5) fenced).mp same
    obtain ⟨run, found, output⟩ := Option.map_eq_some_iff.mp replaced
    have first : some "second" = some "first" := output.symm.trans (stands run found)
    exact absurd first (by decide)

/-- A response that is saved again right away changes nothing. -/
theorem repeated_response_neutral : ∃ receipt,
    ((KeyedCall.saveSubjectResponse (response "first")).perform (fun _ => 3)
      invoked.store).result = .ok receipt ∧
      ((KeyedCall.saveSubjectResponse (response "first")).again fence).perform
        (fun _ => 5) responded.store = ⟨responded.store, .ok receipt⟩ := by
  obtain ⟨saved, captured, active, _⟩ := responded_twice
  obtain ⟨row, performed, kept, recorded⟩ := responded_recorded saved
  refine ⟨.event row, performed, ?_⟩
  refine (repeated_call_neutral_iff Sample.platform invoked.store reachable_invoked
    _ _ _ performed responded.store ?_ fence (fun _ => 5) (ok_of_isOk active)).mpr ?_
  · rewrite [kept]
    exact .refl
  · intro run found
    obtain ⟨held, isHeld, output⟩ := Option.map_eq_some_iff.mp captured
    rw [← Option.some.inj (isHeld.symm.trans found)]
    exact output

end Evidrun.Database
