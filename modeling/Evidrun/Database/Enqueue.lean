import Evidrun.Database.Queue

/-!
# Admitting and preparing a Run

`enqueue_run` writes a Run, its `run.queued` event and its execution job in one
transaction (`queue/enqueue.py`). `prepare_run_execution` publishes the context
snapshot, the Subject envelope and the preparation events in another
(`queue/preparation.py`).
-/

namespace Evidrun.Database

open JsonText DocumentSchema Evidrun.Contracts

set_option autoImplicit false

/-! ## Named refusals -/

def enqueueRunSpecNotFound : Exc := .triageRejected
  { code := "enqueue.run_spec_not_found"
    message := "O RunSpec informado não existe."
    fieldPath := ["run_spec_id"]
    remediation := "Compile a Study para obter um RunSpec válido." }

def enqueueAdmissionNotFound : Exc := .triageRejected
  { code := "enqueue.admission_not_found"
    message := "O AdmissionRecord informado não existe."
    fieldPath := ["admission_id"]
    remediation := "Solicite a admissão do RunSpec antes de enfileirar." }

def enqueueAdmissionNotAdmitted : Exc := .triageRejected
  { code := "enqueue.admission_not_admitted"
    message := "O AdmissionRecord informado não admitiu a execução."
    fieldPath := ["admission_id"]
    remediation := "Corrija os achados e solicite uma nova admissão." }

def enqueueAdmissionRunSpecMismatch : Exc := .triageRejected
  { code := "enqueue.admission_run_spec_mismatch"
    message := "O AdmissionRecord informado pertence a outro RunSpec."
    fieldPath := ["admission_id"]
    remediation := "Use a admissão emitida para este RunSpec exato." }

def enqueueDigestMismatch : Exc := .triageRejected
  { code := "enqueue.digest_mismatch"
    message := "Os contratos persistidos não reproduzem seus digests declarados."
    fieldPath := []
    remediation := "Recompile o RunSpec; não reutilize registros divergentes." }

def enqueueIdempotencyKeyEmpty : Exc := .triageRejected
  { code := "enqueue.idempotency_key_empty"
    message := "A chave de idempotência não pode ser vazia."
    fieldPath := ["idempotency_key"]
    remediation := "Informe uma chave estável para este pedido." }

def enqueueIdempotencyConflict : Exc := .triageRejected
  { code := "enqueue.idempotency_conflict"
    message := "A chave de idempotência já foi usada para outro pedido."
    fieldPath := ["idempotency_key"]
    remediation := "Use uma chave nova para um pedido diferente." }

def enqueueRetrySourceSucceeded : Exc := .triageRejected
  { code := "enqueue.retry_source_succeeded"
    message := "Somente uma Run terminal sem sucesso pode ser repetida."
    fieldPath := ["retry_of"]
    remediation := "Repita apenas Runs failed, cancelled, budget_exhausted ou guardrail_stopped." }

def enqueueRetryAdmissionReused : Exc := .triageRejected
  { code := "enqueue.retry_admission_reused"
    message := "Um retry exige um AdmissionRecord novo, não o da Run de origem."
    fieldPath := ["admission_id"]
    remediation := "Solicite uma nova admissão antes de repetir a Run." }

def enqueueRetryAdmissionNotNewer : Exc := .triageRejected
  { code := "enqueue.retry_admission_not_newer"
    message := "O AdmissionRecord do retry precisa ser criado após o terminal da Run de origem."
    fieldPath := ["admission_id"]
    remediation := "Solicite a admissão depois que a Run de origem terminar." }

/-! ## `enqueue_run` -/

structure EnqueueRequest where
  runSpecId : String
  admissionId : String
  idempotencyKey : String
  retryOf : Option String := none
  experimentRevisionId : Option String := none

def requestDigest (platform : Platform) (request : EnqueueRequest) : String :=
  sha256Json platform <| .obj
    [("run_spec_id", .str request.runSpecId),
      ("admission_id", .str request.admissionId),
      ("retry_of", optionalStr request.retryOf),
      ("experiment_revision_id", optionalStr request.experimentRevisionId)]

/-- No Run exists before an admitted record for the exact RunSpec. -/
def loadAdmittedContracts (platform : Platform) (store : Store) (request : EnqueueRequest) :
    Except Exc (RunSpec platform × AdmissionRecord platform × AdmissionRecordRow) := do
  let specRow ← orRaise (store.runSpec? request.runSpecId) enqueueRunSpecNotFound
  let admissionRow ← orRaise (store.admission? request.admissionId) enqueueAdmissionNotFound
  let spec ← validated (RunSpec.modelValidate platform specRow.specJson.document)
  let admission ← validated (AdmissionRecord.modelValidate platform admissionRow.recordJson.document)
  require (digestOf platform spec == specRow.digest &&
      digestOf platform admission == admissionRow.digest)
    enqueueDigestMismatch
  require (admissionRow.decision == "admitted" &&
      admission.dump.field "decision" == .str "admitted")
    enqueueAdmissionNotAdmitted
  require (admissionRow.runSpecId == specRow.id &&
      admission.dump.field "run_spec_digest" == .str (digestOf platform spec))
    enqueueAdmissionRunSpecMismatch
  let trust := admission.dump.field "execution_trust"
  require (trust != .null && optionalStr admissionRow.executionTrustId == trust.field "trust_id" &&
      optionalStr admissionRow.executionTrustDigest == trust.field "digest")
    (.valueError "Run requires the AdmissionRecord execution trust")
  .ok (spec, admission, admissionRow)

/-- A retry needs an unsuccessful terminal source and a fresh admission after it. -/
def validateRetry (store : Store) (request : EnqueueRequest) (retryOf : String)
    (admissionCreatedAt : Time) : Except Exc (Option String) := do
  let source ← orRaise (store.run? retryOf)
    (.valueError "retry_of must reference an existing Run")
  require (source.status ∈ [RunStatus.failed, .cancelled, .budgetExhausted, .guardrailStopped])
    enqueueRetrySourceSucceeded
  require (source.runSpecId == some request.runSpecId) enqueueAdmissionRunSpecMismatch
  require (source.admissionId != some request.admissionId) enqueueRetryAdmissionReused
  require (source.completedAt.any (· < admissionCreatedAt)) enqueueRetryAdmissionNotNewer
  .ok (request.experimentRevisionId.or source.experimentRevisionId)

def queuedPayload (platform : Platform) (runId : String) (spec : RunSpec platform)
    (admission : AdmissionRecord platform) : Json :=
  .obj [("run_id", .str runId),
    ("variant_id", spec.dump.field "variant_id"),
    ("run_spec_digest", .str (digestOf platform spec)),
    ("admission_digest", .str (digestOf platform admission))]

/-- `run.queued` opens the chain: sequence 1, no predecessor hash. -/
def appendQueuedEvent (platform : Platform) (runId : String) (spec : RunSpec platform)
    (admission : AdmissionRecord platform) (requestedAt : Time) (store : Store) :
    Except Exc Store := do
  let payload ← validated
    (normalizeEventPayload platform .runQueued (queuedPayload platform runId spec admission))
  let (eventId, store) := newId platform "evt" store
  let head : EventHead :=
    { id := eventId
      runId := runId
      sequence := 1
      eventType := .runQueued
      occurredAt := requestedAt
      actorType := "system"
      actorId := "evidrun"
      classification := "internal"
      correlationId := runId
      causationId := none
      prevEventHash := none }
  store.insertEvent (sealEvent platform head payload (some "run:queued"))

def intOf : Json → Int
  | .int value => value
  | _ => 0

/-- The experiment revision a new Run belongs to; a retry may inherit its source's. -/
def resolveRevision (store : Store) (request : EnqueueRequest) (admissionCreatedAt : Time) :
    Except Exc (Option String) :=
  match request.retryOf with
  | none => .ok request.experimentRevisionId
  | some source => validateRetry store request source admissionCreatedAt

def queuedRun (platform : Platform) (request : EnqueueRequest) (spec : RunSpec platform)
    (admission : AdmissionRecord platform) (experimentRevisionId : Option String) (runId : String)
    (requestedAt : Time) : RunRow :=
  let trust := admission.dump.field "execution_trust"
  { id := runId
    experimentRevisionId := experimentRevisionId
    variantId := (spec.dump.field "variant_id").asString
    repetition := intOf (spec.dump.field "repetition_index")
    status := .queued
    runner := (((spec.dump.field "agent_inventory").field "runner_ref").field "name").asString
    objective := ((spec.dump.field "goal").field "instruction").asString
    output := none
    contextHash := none
    retryOf := request.retryOf
    runSpecId := some request.runSpecId
    admissionId := some request.admissionId
    executionTrustId := some (trust.field "trust_id").asString
    executionTrustDigest := some (trust.field "digest").asString
    createdAt := requestedAt
    completedAt := none }

def queuedJob (platform : Platform) (request : EnqueueRequest) (jobId runId : String)
    (requestedAt : Time) : RunExecutionJobRow where
  id := jobId
  runId := runId
  status := .queued
  idempotencyKey := request.idempotencyKey
  requestDigest := requestDigest platform request
  availableAt := requestedAt
  activeAttemptId := none
  leaseGeneration := 0
  createdAt := requestedAt
  finishedAt := none
  rejectionCode := none

def enqueueRunBody (platform : Platform) (request : EnqueueRequest) (requestedAt : Time)
    (store : Store) : Except Exc ((RunRow × RunExecutionJobRow) × Store) := do
  require (pyStrip request.idempotencyKey != "") enqueueIdempotencyKeyEmpty
  match store.jobs.find? fun job => job.idempotencyKey = request.idempotencyKey with
  | some existing => do
      require (existing.requestDigest == requestDigest platform request) enqueueIdempotencyConflict
      let run ← orRaise (store.run? existing.runId)
        (.valueError "idempotent execution job references a missing Run")
      .ok ((run, existing), store)
  | none => do
      let (spec, admission, admissionRow) ← loadAdmittedContracts platform store request
      let revision ← resolveRevision store request admissionRow.createdAt
      let (runId, store) := newId platform "run" store
      let run := queuedRun platform request spec admission revision runId requestedAt
      let store ← store.insertRun run
      let store ← appendQueuedEvent platform runId spec admission requestedAt store
      let (jobId, store) := newId platform "job" store
      let job := queuedJob platform request jobId runId requestedAt
      let store ← store.insertJob job
      .ok ((run, job), store)

def enqueueRun (platform : Platform) (request : EnqueueRequest) (requestedAt : Time)
    (store : Store) : Outcome (RunRow × RunExecutionJob) :=
  commitThen (enqueueRunBody platform request requestedAt)
    (fun rows => do
      let job ← executionJobModel rows.2
      .ok (rows.1, job))
    store

/-! ## `prepare_run_execution` -/

/-- The composed context that a Run is prepared with. -/
structure Snapshot where
  policyId : String
  strategy : String
  maxChars : Int
  sourceChars : Int
  selectedChars : Int
  selectedContent : String
  omitted : Json
  contentHash : String

structure PrepareRequest (platform : Platform) where
  runId : String
  spec : RunSpec platform
  admission : AdmissionRecord platform
  snapshot : Snapshot
  envelope : SubjectEnvelope platform
  lease : LeaseFence

/-- Every contract the prepared boundary rests on must match exactly. -/
def loadPreparedRun (platform : Platform) (store : Store) (request : PrepareRequest platform) :
    Except Exc RunRow := do
  let noContracts := Exc.valueError "prepared Run requires canonical contracts"
  let inexact := Exc.valueError "prepared Run contracts are not exact"
  let run ← orRaise (store.run? request.runId) noContracts
  let specId ← orRaise run.runSpecId noContracts
  let admissionId ← orRaise run.admissionId noContracts
  let specRow ← orRaise (store.runSpec? specId) inexact
  let admissionRow ← orRaise (store.admission? admissionId) inexact
  let specDigest := digestOf platform request.spec
  require (specRow.digest == specDigest &&
      admissionRow.digest == digestOf platform request.admission &&
      request.admission.dump.field "run_spec_digest" == .str specDigest &&
      request.admission.dump.field "decision" == .str "admitted" &&
      request.envelope.dump.field "run_spec_digest" == .str specDigest)
    inexact
  .ok run

def Snapshot.row (snapshot : Snapshot) (id runId : String) (createdAt : Time) :
    ContextSnapshotRow where
  id := id
  runId := runId
  policyId := snapshot.policyId
  strategy := snapshot.strategy
  maxChars := snapshot.maxChars
  sourceChars := snapshot.sourceChars
  selectedChars := snapshot.selectedChars
  selectedContent := snapshot.selectedContent
  omittedJson := .write snapshot.omitted
  contentHash := snapshot.contentHash
  createdAt := createdAt

/-- Whether a stored snapshot is the expected one. -/
def Snapshot.stored (snapshot : Snapshot) (row : ContextSnapshotRow) : Bool :=
  row.policyId == snapshot.policyId && row.strategy == snapshot.strategy &&
    row.maxChars == snapshot.maxChars && row.sourceChars == snapshot.sourceChars &&
    row.selectedChars == snapshot.selectedChars &&
    row.selectedContent == snapshot.selectedContent &&
    row.omittedJson.text == canonicalJson snapshot.omitted &&
    row.contentHash == snapshot.contentHash

/-- A replay must find the identical snapshot, never overwrite one. -/
def upsertContextSnapshot (platform : Platform) (runId : String) (snapshot : Snapshot)
    (preparedAt : Time) (store : Store) : Except Exc (ContextSnapshotRow × Store) :=
  match store.snapshots.find? fun row => row.runId = runId with
  | some row => do
      require (snapshot.stored row)
        (.valueError "a different ContextSnapshot already exists for the Run")
      .ok (row, store)
  | none => do
      let (id, store) := newId platform "ctx" store
      let row := snapshot.row id runId preparedAt
      let store ← store.insertSnapshot row
      .ok (row, store)

/-- The Subject sees one envelope per Run. -/
def upsertSubjectEnvelope (platform : Platform) (runId : String)
    (envelope : SubjectEnvelope platform) (preparedAt : Time) (store : Store) :
    Except Exc (SubjectEnvelopeRow × Store) :=
  match store.envelope? runId with
  | some row => do
      require (row.envelopeJson.text == canonicalJson envelope.semanticDocument &&
          row.digest == digestOf platform envelope)
        (.valueError "a different SubjectEnvelope already exists for the Run")
      .ok (row, store)
  | none => do
      let row : SubjectEnvelopeRow :=
        { runId := runId
          envelopeJson := .write envelope.semanticDocument
          digest := digestOf platform envelope
          createdAt := preparedAt }
      let store ← store.insertEnvelope row
      .ok (row, store)

def preparingRequest (spec : Json) : OnceRequest where
  eventType := .runPreparing
  payload := .obj [("scenario_ref", spec.field "scenario_ref")]
  operationKey := "run:preparing"
  allowedStatuses := [.queued]
  nextStatus := some .preparing

def composedRequest (snapshot : Snapshot) (snapshotId : String) : OnceRequest where
  eventType := .contextComposed
  payload := .obj [("snapshot_id", .str snapshotId),
    ("policy_id", .str snapshot.policyId),
    ("strategy", .str snapshot.strategy),
    ("source_chars", .int snapshot.sourceChars),
    ("selected_chars", .int snapshot.selectedChars),
    ("omitted", .bool (truthy snapshot.omitted)),
    ("content_hash", .str snapshot.contentHash)]
  operationKey := "context:composed"
  allowedStatuses := [.preparing]

def offeredRequest (capability : Json) : OnceRequest :=
  let ref := capability.field "resolved_ref"
  { eventType := .capabilityOffered
    payload := .obj [("capability_ref", ref),
      ("required", capability.field "required"),
      ("exposure", capability.field "exposure"),
      ("effective_permissions", .arr (capability.items "effective_permissions"))]
    operationKey := "capability:" ++ (ref.field "namespace").asString ++ ":" ++
      (ref.field "name").asString ++ ":" ++ (ref.field "version").asString ++ ":offered"
    allowedStatuses := [.preparing] }

def runningRequest : OnceRequest where
  eventType := .runRunning
  payload := .obj [("from_status", .str "preparing"),
    ("reason", .str "SubjectEnvelope materialized and runner adapter ready")]
  operationKey := "run:running"
  allowedStatuses := [.preparing]
  nextStatus := some .running

/-- Append events one after the other, each under its own clock reading. -/
def appendAll (platform : Platform) (runId : String) (clock : Nat → Time) :
    List (Except Exc OnceRequest) → Nat → Store → Except Exc Store
  | [], _, store => .ok store
  | request :: rest, index, store => do
      let request ← request
      let (_, store) ← appendEventOnce platform runId request (clock index) store
      appendAll platform runId clock rest (index + 1) store

/-- The facts that make a Run runnable, in ledger order. -/
def preparationRequests (platform : Platform) (request : PrepareRequest platform)
    (snapshotId : String) : List (Except Exc OnceRequest) :=
  [.ok (preparingRequest request.spec.dump), .ok (composedRequest request.snapshot snapshotId)] ++
    (request.envelope.dump.items "effective_capabilities").map (fun capability =>
      if capability.field "resolved_ref" = .null then
        .error (.valueError "SubjectEnvelope contains an unresolved effective capability")
      else .ok (offeredRequest capability)) ++
    [.ok runningRequest]

def prepareRunExecutionBody (platform : Platform) (request : PrepareRequest platform)
    (clock : Nat → Time) (store : Store) :
    Except Exc ((ContextSnapshotRow × SubjectEnvelopeRow) × Store) := do
  validateOptionalLease store (some request.lease) request.runId (clock 1)
  let _ ← loadPreparedRun platform store request
  let (snapshotRow, store) ← upsertContextSnapshot platform request.runId request.snapshot (clock 0)
    store
  let (envelopeRow, store) ← upsertSubjectEnvelope platform request.runId request.envelope
    (clock 0) store
  let store ← appendAll platform request.runId clock
    (preparationRequests platform request snapshotRow.id) 2 store
  .ok ((snapshotRow, envelopeRow), store.updateRun request.runId fun run =>
    { run with contextHash := some request.snapshot.contentHash })

/-- The exact SubjectEnvelope used for one Run. -/
structure SubjectEnvelopeRecord (platform : Platform) where
  runId : NonEmptyStr
  envelope : SubjectEnvelope platform
  createdAt : Time

def prepareRunExecution (platform : Platform) (request : PrepareRequest platform)
    (clock : Nat → Time) (store : Store) :
    Outcome (ContextSnapshotRow × SubjectEnvelopeRecord platform) :=
  commitThen (prepareRunExecutionBody platform request clock)
    (fun rows => do
      let runId ← validated (NonEmptyStr.parse request.runId)
      .ok (rows.1, ⟨runId, request.envelope, rows.2.createdAt⟩))
    store

end Evidrun.Database
