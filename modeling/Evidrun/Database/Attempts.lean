import Evidrun.Database.Leases

/-!
# The attempts of a job

Under a clock that never goes back, and with leases that last, the attempts of a
job form a chain: one attempt for each generation, every attempt but the last
given back, and the last one in step with the job.
-/

namespace Evidrun.Database

open JsonText DocumentSchema Evidrun.Contracts

set_option autoImplicit false

/-! ## The chain of one job -/

/-- The attempt gave its job back. -/
def RunExecutionAttemptRow.Yielded (attempt : RunExecutionAttemptRow) : Prop :=
  attempt.status = .released ∨ attempt.status = .expired

structure RunExecutionAttemptRow.Sane (platform : Platform) (attempt : RunExecutionAttemptRow)
    (now : Time) : Prop where
  identified : ∃ count, attempt.id = "attempt" ++ "_" ++ platform.uuid7 count
  worker : pyStrip attempt.workerId ≠ ""
  explained : ∀ code, attempt.reasonCode = some code → isReasonCode code = true
  heartbeat : attempt.leasedAt ≤ attempt.lastHeartbeatAt
  unexpired : attempt.lastHeartbeatAt < attempt.leaseExpiresAt
  seen : attempt.lastHeartbeatAt ≤ now
  active : attempt.status = .leased ↔ attempt.finishedAt = none
  finished : ∀ finishedAt, attempt.finishedAt = some finishedAt →
    attempt.lastHeartbeatAt ≤ finishedAt ∧
      (attempt.status = .expired → attempt.leaseExpiresAt ≤ finishedAt)

/-- The last attempt of a closed job closed it. -/
def ClosedBy (job : RunExecutionJobRow) (attempt : RunExecutionAttemptRow) : Prop :=
  job.status = .completed ∧ attempt.status = .completed ∧ job.rejectionCode = none ∨
    job.status = .rejected ∧ attempt.status = .rejected ∧
      ∃ code, job.rejectionCode = some code ∧ isReasonCode code = true

inductive JobPhase (job : RunExecutionJobRow) (attempts : List RunExecutionAttemptRow) : Prop
  | waiting (queued : job.status = .queued) (inactive : job.activeAttemptId = none)
      (unfinished : job.finishedAt = none) (unrejected : job.rejectionCode = none)
      (yielded : ∀ attempt ∈ attempts, attempt.Yielded)
  | running (earlier : List RunExecutionAttemptRow) (current : RunExecutionAttemptRow)
      (split : attempts = earlier ++ [current]) (yielded : ∀ attempt ∈ earlier, attempt.Yielded)
      (leased : job.status = .leased) (active : job.activeAttemptId = some current.id)
      (unfinished : job.finishedAt = none) (unrejected : job.rejectionCode = none)
      (held : current.status = .leased)
  | closed (earlier : List RunExecutionAttemptRow) (current : RunExecutionAttemptRow)
      (split : attempts = earlier ++ [current]) (yielded : ∀ attempt ∈ earlier, attempt.Yielded)
      (inactive : job.activeAttemptId = none) (finishedAt : Time)
      (finished : job.finishedAt = some finishedAt) (ended : current.finishedAt = some finishedAt)
      (outcome : ClosedBy job current)

/-- What the job's own columns say in each phase. -/
theorem JobPhase.states {job : RunExecutionJobRow} {attempts : List RunExecutionAttemptRow}
    (phase : JobPhase job attempts) :
    (job.status = .leased ↔ job.activeAttemptId.isSome = true) ∧
      (job.status.terminal = true ↔ job.finishedAt.isSome = true) ∧
      (job.status = .rejected ↔ job.rejectionCode.isSome = true) := by
  cases phase with
  | waiting queued inactive unfinished unrejected =>
      simp [queued, inactive, unfinished, unrejected, JobStatus.terminal]
  | running _ _ _ _ leased active unfinished unrejected =>
      simp [leased, active, unfinished, unrejected, JobStatus.terminal]
  | closed _ _ _ _ inactive _ finished _ outcome =>
      rcases outcome with ⟨completed, _, unrejected⟩ | ⟨rejected, _, code, isCode, _⟩
      · simp [completed, inactive, finished, unrejected, JobStatus.terminal]
      · simp [rejected, inactive, finished, isCode, JobStatus.terminal]

structure JobChain (platform : Platform) (now : Time) (job : RunExecutionJobRow)
    (attempts : List RunExecutionAttemptRow) : Prop where
  identified : ∃ count, job.id = "job" ++ "_" ++ platform.uuid7 count
  ofRun : ∃ count, job.runId = "run" ++ "_" ++ platform.uuid7 count
  requested : ∃ request, job.requestDigest = requestDigest platform request
  keyed : pyStrip job.idempotencyKey ≠ ""
  created : job.createdAt ≤ now
  owned : ∀ attempt ∈ attempts, attempt.jobId = job.id
  ordinals : attempts.map (fun attempt => attempt.ordinal) = List.range' 1 job.leaseGeneration
  generations : attempts.map (fun attempt => attempt.leaseGeneration) =
    List.range' 1 job.leaseGeneration
  since : ∀ attempt ∈ attempts, job.createdAt ≤ attempt.leasedAt
  ordered : attempts.Pairwise fun earlier later => earlier.leasedAt ≤ later.leasedAt
  sane : ∀ attempt ∈ attempts, attempt.Sane platform now
  phase : JobPhase job attempts

theorem RunExecutionAttemptRow.Sane.later {platform : Platform} {attempt : RunExecutionAttemptRow}
    {now later : Time} (sane : attempt.Sane platform now) (passed : now ≤ later) :
    attempt.Sane platform later :=
  { sane with seen := le_trans sane.seen passed }

theorem JobChain.later {platform : Platform} {now later : Time} {job : RunExecutionJobRow}
    {attempts : List RunExecutionAttemptRow} (chain : JobChain platform now job attempts)
    (passed : now ≤ later) : JobChain platform later job attempts :=
  { chain with
    created := le_trans chain.created passed
    sane := fun attempt member => (chain.sane attempt member).later passed }

theorem foldl_max_range' (count : Nat) : (List.range' 1 count).foldl max 0 = count := by
  induction count with
  | zero => rfl
  | succ count ih =>
      rw [List.range'_concat, List.foldl_append, ih]
      simp only [List.foldl_cons, List.foldl_nil]
      omega

section ChainSteps

variable {platform : Platform} {now : Time} {job : RunExecutionJobRow}
  {attempts : List RunExecutionAttemptRow}

/-- A new job has no attempt. -/
theorem JobChain.opened (isOpened : job.Opened platform now) : JobChain platform now job [] where
  identified := isOpened.identified
  ofRun := isOpened.ofRun
  requested := isOpened.requested
  keyed := isOpened.keyed
  created := le_of_eq isOpened.created
  owned := by simp
  ordinals := by rw [isOpened.ungranted]; rfl
  generations := by rw [isOpened.ungranted]; rfl
  since := by simp
  ordered := List.Pairwise.nil
  sane := by simp
  phase := .waiting isOpened.queued isOpened.inactive isOpened.unfinished isOpened.unrejected
    (by simp)

variable {attempt : RunExecutionAttemptRow} {duration : Int}

theorem Granted.sane {queue : Queue} (lasting : 0 < duration)
    (isGranted : attempt.Granted platform queue job now duration) :
    attempt.Sane platform now where
  identified := isGranted.identified
  worker := isGranted.worker
  explained := by simp [isGranted.unexplained]
  heartbeat := by rw [isGranted.leasedAt, isGranted.heartbeat]
  unexpired := by
    rw [isGranted.heartbeat, isGranted.expires]
    exact lt_add_of_pos_right now lasting
  seen := le_of_eq isGranted.heartbeat
  active := by simp [isGranted.leased, isGranted.unfinished]
  finished := by simp [isGranted.unfinished]

/-- A grant adds the attempt of the next generation. -/
theorem JobChain.granted {queue : Queue} (chain : JobChain platform now job attempts)
    (queued : job.status = .queued) (lasting : 0 < duration)
    (isGranted : attempt.Granted platform queue job now duration)
    (numbered : attempt.ordinal = (attempts.map fun other => other.ordinal).foldl max 0 + 1) :
    JobChain platform now (grantTo attempt job) (attempts ++ [attempt]) := by
  have ordinal : attempt.ordinal = job.leaseGeneration + 1 := by
    rw [numbered, chain.ordinals, foldl_max_range']
  have before : ∀ other ∈ attempts, other.leasedAt ≤ attempt.leasedAt := by
    intro other member
    have sane := chain.sane other member
    rw [isGranted.leasedAt]
    exact le_trans sane.heartbeat sane.seen
  refine
    { chain with
      owned := ?_
      ordinals := ?_
      generations := ?_
      since := ?_
      ordered := ?_
      sane := ?_
      phase := ?_ }
  · intro other member
    rcases List.mem_append.mp member with earlier | last
    · exact chain.owned other earlier
    · rw [List.mem_singleton.mp last]
      exact isGranted.owner
  · simp only [List.map_append, chain.ordinals, List.map_cons, List.map_nil, ordinal, grantTo,
      isGranted.generation, List.range'_concat, Nat.one_mul, Nat.add_comm 1]
  · simp only [List.map_append, chain.generations, List.map_cons, List.map_nil, grantTo,
      isGranted.generation, List.range'_concat, Nat.one_mul, Nat.add_comm 1]
  · intro other member
    rcases List.mem_append.mp member with earlier | last
    · exact chain.since other earlier
    · rw [List.mem_singleton.mp last, isGranted.leasedAt]
      exact chain.created
  · refine List.pairwise_append.mpr ⟨chain.ordered, List.pairwise_singleton .., ?_⟩
    intro other member last isLast
    rw [List.mem_singleton.mp isLast]
    exact before other member
  · intro other member
    rcases List.mem_append.mp member with earlier | last
    · exact chain.sane other earlier
    · rw [List.mem_singleton.mp last]
      exact Granted.sane lasting isGranted
  · cases chain.phase with
    | waiting _ _ unfinished unrejected yielded =>
        exact .running attempts attempt rfl yielded rfl rfl unfinished unrejected isGranted.leased
    | running _ _ _ _ leased =>
        rw [queued] at leased
        cases leased
    | closed _ _ _ _ _ _ _ _ outcome =>
        rcases outcome with ⟨completed, _⟩ | ⟨rejected, _⟩
        · rw [queued] at completed
          cases completed
        · rw [queued] at rejected
          cases rejected

/-- The current attempt of a leased job changed in place. -/
theorem JobChain.changed {earlier : List RunExecutionAttemptRow}
    {current changed : RunExecutionAttemptRow} {jobAfter : RunExecutionJobRow}
    (chain : JobChain platform now job (earlier ++ [current]))
    (sameJob : jobAfter.id = job.id ∧ jobAfter.runId = job.runId ∧
      jobAfter.requestDigest = job.requestDigest ∧ jobAfter.idempotencyKey = job.idempotencyKey ∧
      jobAfter.createdAt = job.createdAt ∧ jobAfter.leaseGeneration = job.leaseGeneration)
    (sameAttempt : changed.jobId = current.jobId ∧ changed.ordinal = current.ordinal ∧
      changed.leaseGeneration = current.leaseGeneration ∧ changed.leasedAt = current.leasedAt)
    (sane : changed.Sane platform now) (phase : JobPhase jobAfter (earlier ++ [changed])) :
    JobChain platform now jobAfter (earlier ++ [changed]) := by
  obtain ⟨id, runId, digest, key, createdAt, generation⟩ := sameJob
  obtain ⟨owner, ordinal, attemptGeneration, leasedAt⟩ := sameAttempt
  -- Every field of a chain speaks of the attempts one by one, or of a column the change keeps.
  have each : ∀ {Holds : RunExecutionAttemptRow → Prop},
      (∀ attempt ∈ earlier ++ [current], Holds attempt) → Holds changed →
      ∀ attempt ∈ earlier ++ [changed], Holds attempt := by
    intro Holds before here attempt member
    rcases List.mem_append.mp member with inside | last
    · exact before attempt (List.mem_append_left _ inside)
    · rw [List.mem_singleton.mp last]
      exact here
  have last : current ∈ earlier ++ [current] := by simp
  refine
    { identified := by rw [id]; exact chain.identified
      ofRun := by rw [runId]; exact chain.ofRun
      requested := by rw [digest]; exact chain.requested
      keyed := by rw [key]; exact chain.keyed
      created := by rw [createdAt]; exact chain.created
      owned := ?_
      ordinals := ?_
      generations := ?_
      since := ?_
      ordered := ?_
      sane := each chain.sane sane
      phase := phase }
  · rw [id]
    exact each chain.owned (owner.trans (chain.owned current last))
  · rw [generation, ← chain.ordinals]
    simp [ordinal]
  · rw [generation, ← chain.generations]
    simp [attemptGeneration]
  · rw [createdAt]
    exact each chain.since (by rw [leasedAt]; exact chain.since current last)
  · have ordered := List.pairwise_append.mp chain.ordered
    refine List.pairwise_append.mpr ⟨ordered.1, List.pairwise_singleton .., ?_⟩
    intro other member final isFinal
    rw [List.mem_singleton.mp isFinal, leasedAt]
    exact ordered.2.2 other member current List.mem_cons_self

theorem Sane.beat (lasting : 0 < duration) (sane : attempt.Sane platform now)
    (held : attempt.status = .leased) : (beatAt now duration attempt).Sane platform now :=
  { sane with
    heartbeat := le_trans sane.heartbeat sane.seen
    unexpired := lt_add_of_pos_right now lasting
    seen := le_refl now
    finished := by
      intro finishedAt finished
      have unfinished := sane.active.mp held
      simp only [beatAt] at finished
      rw [unfinished] at finished
      cases finished }

/-- An attempt that ended now, for a reason it may give. -/
theorem Sane.over {status : AttemptStatus} {reasonCode : Option String}
    (sane : attempt.Sane platform now) (isOver : status ≠ .leased)
    (ranOut : status = .expired → attempt.leaseExpiresAt ≤ now)
    (explained : ∀ code, reasonCode = some code → isReasonCode code = true) :
    RunExecutionAttemptRow.Sane platform
      { attempt with status := status, finishedAt := some now, reasonCode := reasonCode } now :=
  { sane with
    explained := explained
    active := by simp [isOver]
    finished := by
      intro finishedAt finished
      obtain rfl := Option.some.inj finished
      exact ⟨sane.seen, ranOut⟩ }

theorem Sane.settled {ending : Ending} (sane : attempt.Sane platform now)
    (allowed : ending.Allowed now attempt) :
    (ending.settleAttempt now attempt).Sane platform now := by
  cases ending with
  | expired =>
      refine Sane.over sane (by simp) (fun _ => allowed) ?_
      rintro code ⟨⟩
      decide
  | completed => exact Sane.over sane (by simp) (by simp) sane.explained
  | released reasonCode availableAt =>
      refine Sane.over sane (by simp) (by simp) ?_
      rintro code ⟨⟩
      exact allowed.2
  | rejected reasonCode =>
      refine Sane.over sane (by simp) (by simp) ?_
      rintro code ⟨⟩
      exact allowed.2

/-- The phase of a job whose lease has ended. -/
theorem JobPhase.ended {earlier : List RunExecutionAttemptRow} {current : RunExecutionAttemptRow}
    {ending : Ending} (yielded : ∀ attempt ∈ earlier, attempt.Yielded)
    (unfinished : job.finishedAt = none) (unrejected : job.rejectionCode = none)
    (allowed : ending.Allowed now current) :
    JobPhase (ending.settleJob now job) (earlier ++ [ending.settleAttempt now current]) := by
  have given : (ending.settleAttempt now current).Yielded →
      ∀ attempt ∈ earlier ++ [ending.settleAttempt now current], attempt.Yielded := by
    intro last attempt member
    rcases List.mem_append.mp member with inside | isLast
    · exact yielded attempt inside
    · rw [List.mem_singleton.mp isLast]
      exact last
  cases ending with
  | expired => exact .waiting rfl rfl unfinished unrejected (given (Or.inr rfl))
  | released reasonCode availableAt =>
      exact .waiting rfl rfl unfinished unrejected (given (Or.inl rfl))
  | completed => exact .closed earlier _ rfl yielded rfl now rfl rfl (Or.inl ⟨rfl, rfl, unrejected⟩)
  | rejected reasonCode =>
      exact .closed earlier _ rfl yielded rfl now rfl rfl
        (Or.inr ⟨rfl, rfl, reasonCode, rfl, allowed.2⟩)

end ChainSteps

/-! ## The queue -/

def Queue.attemptsFor (queue : Queue) (jobId : String) : List RunExecutionAttemptRow :=
  queue.attempts.filter fun attempt => attempt.jobId = jobId

structure QueueInvariant (platform : Platform) (now : Time) (queue : Queue) : Prop where
  distinctJobs : queue.DistinctJobs
  distinctRuns : (queue.jobs.map RunExecutionJobRow.runId).Nodup
  distinctAttempts : (queue.attempts.map RunExecutionAttemptRow.id).Nodup
  owned : ∀ attempt ∈ queue.attempts, ∃ job ∈ queue.jobs, job.id = attempt.jobId
  chains : ∀ job ∈ queue.jobs, JobChain platform now job (queue.attemptsFor job.id)

theorem QueueInvariant.later {platform : Platform} {now later : Time} {queue : Queue}
    (invariant : QueueInvariant platform now queue) (passed : now ≤ later) :
    QueueInvariant platform later queue :=
  { invariant with chains := fun job member => (invariant.chains job member).later passed }

section QueueSteps

variable {platform : Platform} {now : Time} {queue : Queue}

variable {job : RunExecutionJobRow} {attempt : RunExecutionAttemptRow}

theorem QueueInvariant.opened (invariant : QueueInvariant platform now queue)
    (isOpened : job.Opened platform now) (fresh : ∀ other ∈ queue.jobs, other.id ≠ job.id)
    (single : ∀ other ∈ queue.jobs, other.runId ≠ job.runId) :
    QueueInvariant platform now { queue with jobs := queue.jobs ++ [job] } where
  distinctJobs := by
    simp only [Queue.DistinctJobs, List.map_append, List.map_cons, List.map_nil]
    refine invariant.distinctJobs.append (List.nodup_singleton _) ?_
    simpa [List.disjoint_singleton] using fresh
  distinctRuns := by
    simp only [List.map_append, List.map_cons, List.map_nil]
    refine invariant.distinctRuns.append (List.nodup_singleton _) ?_
    simpa [List.disjoint_singleton] using single
  distinctAttempts := invariant.distinctAttempts
  owned := by
    intro attempt member
    obtain ⟨owner, inside, same⟩ := invariant.owned attempt member
    exact ⟨owner, List.mem_append_left _ inside, same⟩
  chains := by
    intro other member
    rcases List.mem_append.mp member with inside | last
    · exact invariant.chains other inside
    · rw [List.mem_singleton.mp last]
      -- No attempt can belong to a job that was not there.
      have none : queue.attemptsFor job.id = [] := by
        refine List.filter_eq_nil_iff.mpr fun attempt member => ?_
        obtain ⟨owner, inside, same⟩ := invariant.owned attempt member
        simpa [← same] using fresh owner inside
      change JobChain platform now job (queue.attemptsFor job.id)
      rw [none]
      exact .opened isOpened

/-- A change of one job and of its attempts, seen job by job. -/
theorem QueueInvariant.updated {change : RunExecutionJobRow → RunExecutionJobRow}
    {attempts : List RunExecutionAttemptRow} (invariant : QueueInvariant platform now queue)
    (found : queue.job? job.id = some job) (sameId : ∀ row, (change row).id = row.id)
    (sameRun : ∀ row, (change row).runId = row.runId)
    (distinct : (attempts.map RunExecutionAttemptRow.id).Nodup)
    (owners : ∀ attempt ∈ attempts, attempt.jobId = job.id ∨
      ∃ other ∈ queue.attempts, other.jobId = attempt.jobId)
    (others : ∀ jobId, jobId ≠ job.id →
      attempts.filter (fun attempt => attempt.jobId = jobId) = queue.attemptsFor jobId)
    (own : JobChain platform now (change job)
      (attempts.filter fun attempt => attempt.jobId = job.id)) :
    QueueInvariant platform now
      ⟨Table.modify RunExecutionJobRow.id queue.jobs job.id change, attempts⟩ := by
  have keys : (Table.modify RunExecutionJobRow.id queue.jobs job.id change).map
      RunExecutionJobRow.id = queue.jobs.map RunExecutionJobRow.id :=
    Table.map_key_modify queue.jobs job.id change sameId
  refine ⟨?_, ?_, distinct, ?_, ?_⟩
  · rw [Queue.DistinctJobs, keys]
    exact invariant.distinctJobs
  · have runs : (Table.modify RunExecutionJobRow.id queue.jobs job.id change).map
        RunExecutionJobRow.runId = queue.jobs.map RunExecutionJobRow.runId := by
      simp only [Table.modify, List.map_map]
      refine List.map_congr_left fun row _ => ?_
      simp only [Function.comp_apply]
      split_ifs
      · exact sameRun row
      · rfl
    rw [runs]
    exact invariant.distinctRuns
  · intro attempt member
    have ids : ∃ id ∈ queue.jobs.map RunExecutionJobRow.id, id = attempt.jobId := by
      rcases owners attempt member with here | ⟨other, inside, same⟩
      · exact ⟨job.id, List.mem_map_of_mem (Table.find_mem found), here.symm⟩
      · obtain ⟨owner, ownerInside, ownerIs⟩ := invariant.owned other inside
        exact ⟨owner.id, List.mem_map_of_mem ownerInside, ownerIs.trans same⟩
    rw [← keys] at ids
    simpa using ids
  · intro row member
    obtain ⟨before, inside, rfl⟩ := Table.mem_modify.mp member
    by_cases same : before.id = job.id
    · have isJob : before = job := by
        have located := Table.find_of_mem invariant.distinctJobs inside
        rw [same] at located
        exact Option.some.inj (located.symm.trans found)
      subst isJob
      simp only [if_true, sameId]
      exact own
    · simp only [if_neg same]
      change JobChain platform now before
        (attempts.filter fun attempt => attempt.jobId = before.id)
      rw [others before.id same]
      exact invariant.chains before inside

theorem QueueInvariant.granted {duration : Int} (invariant : QueueInvariant platform now queue)
    (lasting : 0 < duration) (found : queue.job? job.id = some job) (queued : job.status = .queued)
    (isGranted : attempt.Granted platform queue job now duration)
    (fresh : ∀ other ∈ queue.attempts, other.id ≠ attempt.id) :
    QueueInvariant platform now
      ⟨Table.modify RunExecutionJobRow.id queue.jobs job.id (grantTo attempt),
        queue.attempts ++ [attempt]⟩ := by
  refine invariant.updated found (fun _ => rfl) (fun _ => rfl) ?_ ?_ ?_ ?_
  · simp only [List.map_append, List.map_cons, List.map_nil]
    refine invariant.distinctAttempts.append (List.nodup_singleton _) ?_
    simpa [List.disjoint_singleton] using fresh
  · intro other member
    rcases List.mem_append.mp member with inside | last
    · exact Or.inr ⟨other, inside, rfl⟩
    · rw [List.mem_singleton.mp last]
      exact Or.inl isGranted.owner
  · intro jobId differ
    have notHere : ¬attempt.jobId = jobId := fun same => differ (same.symm.trans isGranted.owner)
    simp [List.filter_append, notHere, Queue.attemptsFor]
  · have chain := invariant.chains job (Table.find_mem found)
    simp only [List.filter_append, List.filter_cons, isGranted.owner, decide_true, if_true,
      List.filter_nil]
    exact chain.granted queued lasting isGranted isGranted.ordinal

/-- The attempt a leased job points to is the last of its chain. -/
theorem QueueInvariant.current (invariant : QueueInvariant platform now queue)
    (held : queue.Leased job attempt) :
    ∃ earlier, queue.attemptsFor job.id = earlier ++ [attempt] ∧
      (∀ other ∈ earlier, other.Yielded) ∧ attempt.status = .leased ∧ job.finishedAt = none ∧
      job.rejectionCode = none := by
  have leased := held.leased
  cases (invariant.chains job (Table.find_mem held.job_found)).phase with
  | waiting queued =>
      rw [leased] at queued
      cases queued
  | running earlier current split yielded _ pointed unfinished unrejected isHeld =>
      have sameId : current.id = attempt.id := Option.some.inj (pointed.symm.trans held.active)
      have inside : current ∈ queue.attemptsFor job.id := by rw [split]; simp
      have located := Table.find_of_mem invariant.distinctAttempts (List.mem_filter.mp inside).1
      rw [sameId] at located
      obtain rfl := Option.some.inj (located.symm.trans held.attempt_found)
      exact ⟨earlier, split, yielded, isHeld, unfinished, unrejected⟩
  | closed _ _ _ _ _ _ _ _ outcome =>
      rcases outcome with ⟨completed, _⟩ | ⟨rejected, _⟩
      · rw [leased] at completed
        cases completed
      · rw [leased] at rejected
        cases rejected

/-- A change of a leased job and of the attempt it points to. -/
theorem QueueInvariant.changed {change : RunExecutionJobRow → RunExecutionJobRow}
    {changeAttempt : RunExecutionAttemptRow → RunExecutionAttemptRow}
    (invariant : QueueInvariant platform now queue) (held : queue.Leased job attempt)
    (sameId : ∀ row, (change row).id = row.id) (sameRun : ∀ row, (change row).runId = row.runId)
    (sameAttempt : ∀ row, (changeAttempt row).id = row.id)
    (sameOwner : ∀ row, (changeAttempt row).jobId = row.jobId)
    (own : ∀ earlier, queue.attemptsFor job.id = earlier ++ [attempt] →
      (∀ other ∈ earlier, other.Yielded) → attempt.status = .leased → job.finishedAt = none →
      job.rejectionCode = none →
      JobChain platform now (change job) (earlier ++ [changeAttempt attempt])) :
    QueueInvariant platform now
      ⟨Table.modify RunExecutionJobRow.id queue.jobs job.id change,
        Table.modify RunExecutionAttemptRow.id queue.attempts attempt.id changeAttempt⟩ := by
  obtain ⟨earlier, split, yielded, isHeld, unfinished, unrejected⟩ := invariant.current held
  have inside : attempt ∈ queue.attemptsFor job.id := by rw [split]; simp
  have owner : attempt.jobId = job.id := by simpa using (List.mem_filter.mp inside).2
  have filtered : ∀ jobId, (Table.modify RunExecutionAttemptRow.id queue.attempts attempt.id
      changeAttempt).filter (fun row => row.jobId = jobId) =
      Table.modify RunExecutionAttemptRow.id (queue.attemptsFor jobId) attempt.id changeAttempt :=
    fun jobId => Table.filter_modify _ _ _ _ fun row => by rw [sameOwner row]
  refine invariant.updated held.job_found sameId sameRun ?_ ?_ ?_ ?_
  · rw [Table.map_key_modify _ _ _ sameAttempt]
    exact invariant.distinctAttempts
  · intro row member
    obtain ⟨before, stored, rfl⟩ := Table.mem_modify.mp member
    refine Or.inr ⟨before, stored, ?_⟩
    split_ifs
    · exact (sameOwner before).symm
    · rfl
  · intro jobId differ
    rw [filtered]
    refine Table.modify_absent changeAttempt fun row member sameRow => ?_
    obtain ⟨stored, ofJob⟩ := List.mem_filter.mp member
    have located := Table.find_of_mem invariant.distinctAttempts stored
    rw [sameRow] at located
    obtain rfl := Option.some.inj (located.symm.trans held.attempt_found)
    exact differ ((of_decide_eq_true ofJob).symm.trans owner)
  · rw [filtered, split, Table.modify_last]
    · exact own earlier split yielded isHeld unfinished unrejected
    · rw [← split]
      exact invariant.distinctAttempts.sublist (List.filter_sublist.map _)

theorem QueueStep.keeps {after : Queue}
    (step : QueueStep platform (fun duration => 0 < duration) now queue after)
    (invariant : QueueInvariant platform now queue) : QueueInvariant platform now after := by
  cases step with
  | opened job isOpened fresh single => exact invariant.opened isOpened fresh single
  | granted job attempt duration lasting found queued isGranted fresh =>
      exact invariant.granted lasting found queued isGranted fresh
  | extended job attempt duration lasting held live =>
      have beaten := @QueueInvariant.changed platform now queue job attempt id
        (beatAt now duration) invariant held (fun _ => rfl) (fun _ => rfl)
        (beatAt_id now duration) (fun _ => rfl) ?_
      · rw [Table.modify_id] at beaten
        exact beaten
      · intro earlier split yielded isHeld unfinished unrejected
        have chain := invariant.chains job (Table.find_mem held.job_found)
        rw [split] at chain
        have sane := chain.sane attempt (by simp)
        exact chain.changed ⟨rfl, rfl, rfl, rfl, rfl, rfl⟩ ⟨rfl, rfl, rfl, rfl⟩
          (Sane.beat lasting sane isHeld)
          (.running earlier _ rfl yielded held.leased held.active unfinished unrejected isHeld)
  | ended job attempt ending held allowed =>
      refine invariant.changed held (ending.settleJob_id now) ?_ (ending.settleAttempt_id now) ?_ ?_
      · intro row
        cases ending <;> rfl
      · intro row
        cases ending <;> rfl
      · intro earlier split yielded isHeld unfinished unrejected
        have chain := invariant.chains job (Table.find_mem held.job_found)
        rw [split] at chain
        have sane := chain.sane attempt (by simp)
        refine chain.changed ?_ ?_ (Sane.settled sane allowed)
          (.ended yielded unfinished unrejected allowed)
        · cases ending <;> exact ⟨rfl, rfl, rfl, rfl, rfl, rfl⟩
        · cases ending <;> exact ⟨rfl, rfl, rfl, rfl⟩

theorem QueueSteps.keeps {after : Queue}
    (steps : QueueSteps platform (fun duration => 0 < duration) now queue after)
    (invariant : QueueInvariant platform now queue) : QueueInvariant platform now after := by
  induction steps with
  | refl => exact invariant
  | tail _ step ih => exact step.keeps ih

end QueueSteps

/-! ## Runs of the queue under one clock -/

/-- One call on the queue, from a clock reading to a later one. -/
inductive QueueCall (platform : Platform) (Seconds : Rat → Prop) (now : Time) (store : Store) :
    Time → Store → Prop
  | enqueueRun (request : EnqueueRequest) (requestedAt : Time) (onward : now ≤ requestedAt) :
      QueueCall platform Seconds now store requestedAt
        (enqueueRun platform request requestedAt store).store
  | claimNextJob (request : ClaimRequest) (claimedAt : Time) (onward : now ≤ claimedAt)
      (lasting : Seconds request.leaseSeconds) :
      QueueCall platform Seconds now store claimedAt
        (claimNextJob platform request claimedAt store).store
  | heartbeatLease (fence : LeaseFence) (leaseSeconds : Rat) (heartbeatAt : Time)
      (onward : now ≤ heartbeatAt) (lasting : Seconds leaseSeconds) :
      QueueCall platform Seconds now store heartbeatAt
        (heartbeatLease fence leaseSeconds heartbeatAt store).store
  | releaseLease (fence : LeaseFence) (reasonCode : String) (availableAt : Option Time)
      (releasedAt : Time) (onward : now ≤ releasedAt) :
      QueueCall platform Seconds now store releasedAt
        (releaseLease fence reasonCode availableAt releasedAt store).store
  | rejectLease (fence : LeaseFence) (reasonCode : String) (rejectedAt : Time)
      (onward : now ≤ rejectedAt) :
      QueueCall platform Seconds now store rejectedAt
        (rejectLease fence reasonCode rejectedAt store).store
  | completeLease (fence : LeaseFence) (completedAt : Time) (onward : now ≤ completedAt) :
      QueueCall platform Seconds now store completedAt
        (completeLease fence completedAt store).store
  | appendEvent (request : AppendRequest) (clock : Nat → Time) (onward : now ≤ clock 0)
      (ticking : clock 0 ≤ clock 1) :
      QueueCall platform Seconds now store (clock 1) (appendEvent platform request clock store).store

/-- The stores reached at a clock reading by calls under a clock that never goes
back, with lease durations of a kind. -/
inductive QueueRun (platform : Platform) (Seconds : Rat → Prop) : Time → Store → Prop
  | start {store : Store} (now : Time) (initial : store.Initial) :
      QueueRun platform Seconds now store
  | next {now later : Time} {store after : Store} (run : QueueRun platform Seconds now store)
      (call : QueueCall platform Seconds now store later after) :
      QueueRun platform Seconds later after

/-- A lease duration of at least one microsecond. -/
def Lasts (leaseSeconds : Rat) : Prop := 0 < timedeltaSeconds leaseSeconds

theorem QueueCall.keeps {platform : Platform} {now later : Time} {store after : Store}
    (call : QueueCall platform Lasts now store later after)
    (invariant : QueueInvariant platform now store.queue) :
    QueueInvariant platform later after.queue := by
  cases call with
  | enqueueRun request requestedAt onward =>
      rw [Database.enqueueRun, commitThen_store]
      exact (transact_queue fun _ _ => enqueueRun_queue).keeps (invariant.later onward)
  | claimNextJob request claimedAt onward lasting =>
      rw [Database.claimNextJob, commitThen_store]
      exact (transact_queue fun _ _ => claimNextJob_queue invariant.distinctJobs lasting).keeps
        (invariant.later onward)
  | heartbeatLease fence leaseSeconds heartbeatAt onward lasting =>
      rw [Database.heartbeatLease, commitThen_store]
      exact (transact_queue fun _ _ => heartbeatLease_queue lasting).keeps (invariant.later onward)
  | releaseLease fence reasonCode availableAt releasedAt onward =>
      rw [Database.releaseLease, commitThen_store]
      exact (transact_queue fun _ _ => releaseLease_queue).keeps (invariant.later onward)
  | rejectLease fence reasonCode rejectedAt onward =>
      rw [Database.rejectLease, commitThen_store]
      exact (transact_queue fun _ _ => rejectLease_queue).keeps (invariant.later onward)
  | completeLease fence completedAt onward =>
      rw [Database.completeLease, commitThen_store]
      exact (transact_queue fun _ _ => completeLease_queue).keeps (invariant.later onward)
  | appendEvent request clock onward ticking =>
      exact (transact_queue fun _ _ => appendEvent_queue).keeps
        (invariant.later (le_trans onward ticking))

theorem QueueRun.invariant {platform : Platform} {now : Time} {store : Store}
    (run : QueueRun platform Lasts now store) : QueueInvariant platform now store.queue := by
  induction run with
  | start now initial =>
      obtain ⟨_, _, jobs, attempts⟩ := initial
      refine ⟨?_, ?_, ?_, ?_, ?_⟩ <;> simp [Queue.DistinctJobs, Store.queue, jobs, attempts]
  | next _ call ih => exact call.keeps ih

end Evidrun.Database
