import Evidrun.Database.History

/-!
# The writes of the store operations

Every operation of the ledger and of the queue is a sequence of writes of a few kinds:
an event, a Run, a snapshot or an envelope is inserted, columns of one Run are assigned,
or the tables of the queue and of the Grades change. What all these writes keep, every
operation keeps.
-/

namespace Evidrun.Database

open JsonText DocumentSchema Evidrun.Contracts

set_option autoImplicit false

/-- The snapshot of a Run. -/
def Store.snapshotOf? (store : Store) (runId : String) : Option ContextSnapshotRow :=
  store.snapshots.find? fun row => row.runId = runId

theorem Snapshot.contentHash_of_stored {snapshot : Snapshot} {row : ContextSnapshotRow}
    (stored : snapshot.stored row = true) : row.contentHash = snapshot.contentHash := by
  simp only [Snapshot.stored, Bool.and_eq_true, beq_iff_eq] at stored
  exact stored.2

inductive Write (store : Store) : Store → Prop
  | event {after : Store} (row : RunEventRow) (inserted : store.insertEvent row = .ok after) :
      Write store after
  | run {after : Store} (row : RunRow) (inserted : store.insertRun row = .ok after) :
      Write store after
  | snapshot {after : Store} (row : ContextSnapshotRow)
      (inserted : store.insertSnapshot row = .ok after) : Write store after
  | envelope {after : Store} (row : SubjectEnvelopeRow)
      (inserted : store.insertEnvelope row = .ok after) : Write store after
  | advance (runId : String) (next : RunStatus) (completedAt : RunRow → Option Time) :
      Write store (store.updateRun runId fun run =>
        { run with status := next, completedAt := completedAt run })
  | output (runId : String) (captured : Option String) :
      Write store (store.updateRun runId fun run => { run with output := captured })
  /-- The context hash that is assigned is the one of the Run's snapshot. -/
  | context (runId : String) (row : ContextSnapshotRow)
      (found : store.snapshotOf? runId = some row) :
      Write store (store.updateRun runId fun run =>
        { run with contextHash := some row.contentHash })
  | elsewhere {after : Store} (frame : after = { store with
      jobs := after.jobs
      attempts := after.attempts
      grades := after.grades
      issued := after.issued }) : Write store after

abbrev Writes : Store → Store → Prop := Relation.ReflTransGen Write

namespace Writes

variable {platform : Platform} {store after : Store}

theorem issued (store : Store) : Writes store { store with issued := store.issued + 1 } :=
  .single (.elsewhere rfl)

variable {request : AppendRequest} {runId : String} {row : RunEventRow} {clock : Nat → Time}

theorem settleLease {finishedAt : Time} (settled : settleLease store request finishedAt = .ok after) :
    Writes store after :=
  .single (.elsewhere (by rw [settleLease_frame settled]))

theorem appendEventOnce {request : OnceRequest} {occurredAt : Time}
    (appended : appendEventOnce platform runId request occurredAt store = .ok (row, after)) :
    Writes store after := by
  simp only [Database.appendEventOnce, bind_ok] at appended
  obtain ⟨_, _, appended⟩ := appended
  cases existing : store.eventByKey? runId request.operationKey with
  | some found =>
      simp only [existing, bind_ok, ok_pair] at appended
      obtain ⟨_, _, _, rfl⟩ := appended
      exact .refl
  | none =>
      simp only [existing, bind_ok, newId, ok_pair] at appended
      obtain ⟨_, _, _, _, _, _, inserted, insertion, _, rfl⟩ := appended
      have written : Writes store inserted := (issued store).tail (.event _ insertion)
      cases request.nextStatus with
      | none => exact written
      | some next => exact written.tail (.advance runId next fun run => run.completedAt)

theorem appendAll (requests : List (Except Exc OnceRequest)) (index : Nat)
    (appended : appendAll platform runId clock requests index store = .ok after) :
    Writes store after := by
  induction requests generalizing index store with
  | nil =>
      simp only [Database.appendAll, Except.ok.injEq] at appended
      rw [appended]
  | cons request rest ih =>
      simp only [Database.appendAll, bind_ok, Prod.exists] at appended
      obtain ⟨_, _, _, _, first, others⟩ := appended
      exact (appendEventOnce first).trans (ih (index + 1) others)

theorem persistEvent {kind : EventType} {payload : Json} {last : Option RunEventRow}
    {next : Option RunStatus} {occurredAt : Time}
    (persisted : persistEvent platform store request kind payload last next occurredAt =
      .ok (row, after)) : Writes store after := by
  simp only [Database.persistEvent, newId, bind_ok, ok_pair] at persisted
  obtain ⟨inserted, insertion, settled, settling, _, rfl⟩ := persisted
  have written : Writes store inserted := (issued store).tail (.event _ insertion)
  cases next with
  | none => exact written.trans (settleLease settling)
  | some next => exact (written.tail (.advance request.runId next _)).trans (settleLease settling)

theorem appendEvent (appended : appendEventBody platform request clock store = .ok (row, after)) :
    Writes store after := by
  simp only [appendEventBody, bind_ok, Prod.exists] at appended
  obtain ⟨_, _, _, _, _, _, _, appended⟩ := appended
  cases existing : request.operationKey.bind (store.eventByKey? request.runId) with
  | some earlier =>
      simp only [existing, bind_ok, ok_pair] at appended
      obtain ⟨_, _, _, settling, _, rfl⟩ := appended
      exact settleLease settling
  | none =>
      simp only [existing, bind_ok] at appended
      obtain ⟨_, _, _, _, _, _, persisted⟩ := appended
      exact persistEvent persisted

theorem saveSubjectResponse {request : ResponseRequest platform}
    (saved : saveSubjectResponseBody platform request clock store = .ok (row, after)) :
    Writes store after := by
  simp only [saveSubjectResponseBody, bind_ok, Prod.exists, ok_pair] at saved
  obtain ⟨_, _, _, _, _, _, _, _, _, _, _, _, _, _, _, _, _, middle, responded, _, final,
    evaluating, _, rfl⟩ := saved
  exact ((appendEventOnce responded).tail (.output request.runId request.capturedOutput)).trans
    (appendEventOnce evaluating)

theorem enqueueRun {request : EnqueueRequest} {requestedAt : Time}
    {rows : RunRow × RunExecutionJobRow}
    (enqueued : enqueueRunBody platform request requestedAt store = .ok (rows, after)) :
    Writes store after := by
  simp only [enqueueRunBody, bind_ok] at enqueued
  obtain ⟨_, _, enqueued⟩ := enqueued
  split at enqueued
  · simp only [bind_ok, ok_pair] at enqueued
    obtain ⟨_, _, _, _, _, rfl⟩ := enqueued
    exact .refl
  · simp only [bind_ok, Prod.exists, newId, appendQueuedEvent, ok_pair] at enqueued
    obtain ⟨_, _, _, _, _, _, _, insertedRun, _, ⟨_, _, insertedEvent⟩, _, insertedJob, _, rfl⟩ :=
      enqueued
    obtain ⟨_, _, rfl⟩ := Store.insertJob_ok insertedJob
    have opened := (((issued store).tail (.run _ insertedRun)).trans (issued _)).tail
      (.event _ insertedEvent)
    exact opened.tail (.elsewhere rfl)

/-! ### Preparation -/

/-- The snapshot that preparation returns is the Run's, and it is the expected one. -/
theorem upsertContextSnapshot {snapshot : Snapshot} {preparedAt : Time} {row : ContextSnapshotRow}
    (upserted : upsertContextSnapshot platform runId snapshot preparedAt store = .ok (row, after)) :
    Writes store after ∧ after.snapshotOf? runId = some row ∧ snapshot.stored row = true := by
  unfold Database.upsertContextSnapshot at upserted
  cases existing : store.snapshots.find? fun row => row.runId = runId with
  | some found =>
      simp only [existing, bind_ok, require_ok, ok_pair] at upserted
      obtain ⟨_, stored, rfl, rfl⟩ := upserted
      exact ⟨.refl, existing, stored⟩
  | none =>
      simp only [existing, newId, bind_ok, ok_pair] at upserted
      obtain ⟨_, inserted, rfl, rfl⟩ := upserted
      refine ⟨(issued store).tail (.snapshot _ inserted), ?_, ?_⟩
      · obtain rfl := Store.insertSnapshot_ok inserted
        simp [Store.snapshotOf?, List.find?_append, existing, Snapshot.row]
      · simp [Snapshot.stored, Snapshot.row]

/-- The envelope that preparation returns is the Run's, and it is the given one. -/
theorem upsertSubjectEnvelope {envelope : SubjectEnvelope platform} {preparedAt : Time}
    {row : SubjectEnvelopeRow}
    (upserted : upsertSubjectEnvelope platform runId envelope preparedAt store = .ok (row, after)) :
    Writes store after ∧ after.envelope? runId = some row ∧
      row.envelopeJson.text = canonicalJson envelope.semanticDocument ∧
      row.digest = digestOf platform envelope := by
  unfold Database.upsertSubjectEnvelope at upserted
  cases existing : store.envelope? runId with
  | some found =>
      simp only [existing, bind_ok, require_ok, Bool.and_eq_true, beq_iff_eq, ok_pair] at upserted
      obtain ⟨_, same, rfl, rfl⟩ := upserted
      exact ⟨.refl, existing, same⟩
  | none =>
      simp only [existing, bind_ok, ok_pair] at upserted
      obtain ⟨_, inserted, rfl, rfl⟩ := upserted
      refine ⟨.single (.envelope _ inserted), ?_, CanonicalText.text_write _, rfl⟩
      obtain rfl := Store.insertEnvelope_ok inserted
      rw [Store.envelope?] at existing ⊢
      rw [Table.find_append, existing]
      simp [Table.find]

theorem prepareRunExecution {request : PrepareRequest platform}
    {rows : ContextSnapshotRow × SubjectEnvelopeRow}
    (prepared : prepareRunExecutionBody platform request clock store = .ok (rows, after)) :
    Writes store after := by
  simp only [prepareRunExecutionBody, bind_ok, Prod.exists, ok_pair] at prepared
  obtain ⟨_, _, _, _, row, first, snapshotted, _, second, enveloped, third, appended, _, rfl⟩ :=
    prepared
  obtain ⟨taken, found, stored⟩ := upsertContextSnapshot snapshotted
  have kept : third.snapshotOf? request.runId = some row := by
    rw [Store.snapshotOf?, appendAll_frame _ _ appended, upsertSubjectEnvelope_frame enveloped]
    exact found
  have written := (taken.trans (upsertSubjectEnvelope enveloped).1).trans (appendAll _ _ appended)
  rw [← Snapshot.contentHash_of_stored stored]
  exact written.tail (.context request.runId row kept)

end Writes

end Evidrun.Database
