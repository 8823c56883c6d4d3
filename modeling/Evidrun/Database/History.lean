import Evidrun.Database.EvaluationStore
import Evidrun.Database.Enqueue
import Evidrun.Lib.HashChain

/-!
# The ledger over whole histories

What any store operation can do to the Runs and their events, as one relation,
and the invariant that follows from it: every Run's events form a sealed hash
chain that opens with `run.queued` and replays to the Run's status.

The three writers of events (`append_event`, the in-session appender and the
enqueue writer) are each shown to make such steps; nothing about the invariant
is proved from their bodies.
-/

namespace Evidrun.Database

open JsonText DocumentSchema Evidrun.Contracts

set_option autoImplicit false

/-! ## Replaying a ledger -/

/-- The status after an event, when the event may follow. -/
def replayStep (status : RunStatus) (kind : EventType) : Option RunStatus :=
  if terminalStatus status then none
  else match lifecycleRule kind with
    | none => some status
    | some (allowedFrom, target) => if status ∈ allowedFrom then some target else none

def replay (status : RunStatus) (kinds : List EventType) : Option RunStatus :=
  kinds.foldlM replayStep status

theorem replay_append (status : RunStatus) (kinds more : List EventType) :
    replay status (kinds ++ more) = (replay status kinds).bind fun next => replay next more := by
  simp [replay, List.foldlM_append, bind]

theorem replay_cons (status : RunStatus) (kind : EventType) (rest : List EventType) :
    replay status (kind :: rest) = (replayStep status kind).bind fun next => replay next rest := by
  simp [replay, bind]

section

variable {platform : Platform} {status : RunStatus} {kind : EventType} {store before after : Store} {run : RunRow}
  {row : RunEventRow} {runId : String} {request : AppendRequest} {occurredAt claimedAt : Time}
  {payload : Json} {clock : Nat → Time} {grade : Grade}

/-- A terminal event leads to a terminal status. -/
theorem terminalStatus_of_terminalEvent {next : RunStatus}
    (stepped : replayStep status kind = some next) (terminal : terminalEvent kind = true) :
    terminalStatus next = true := by
  unfold replayStep at stepped
  split_ifs at stepped
  cases kind <;> first
    | exact absurd terminal (by decide)
    | simp only [lifecycleRule] at stepped
      split_ifs at stepped
      rw [← Option.some.inj stepped]
      rfl

/-- Nothing follows a terminal event in a ledger that replays. -/
theorem replay_open_before_last {final : RunStatus} (kinds : List EventType)
    (replayed : replay status kinds = some final) :
    ∀ kind ∈ kinds.dropLast, terminalEvent kind = false := by
  induction kinds generalizing status with
  | nil => simp
  | cons kind rest ih =>
      rw [replay_cons] at replayed
      obtain ⟨next, stepped, later⟩ := Option.bind_eq_some_iff.mp replayed
      cases rest with
      | nil => simp
      | cons following others =>
          intro earlier member
          rw [List.dropLast_cons_cons, List.mem_cons] at member
          rcases member with rfl | member
          · by_contra terminal
            have ended := terminalStatus_of_terminalEvent stepped (by simpa using terminal)
            rw [replay_cons] at later
            simp [replayStep, ended] at later
          · exact ih later earlier member

/-! ## Sealed events -/

/-- An event's hash is the digest of its document without the hash. -/
def RunEventRow.Sealed (platform : Platform) (row : RunEventRow) : Prop :=
  row.eventHash = sha256Json platform ((eventDocument row).erase "event_hash")

theorem erase_eventHash (head : EventHead) (payload hash : Json) :
    Json.erase (.obj (envelopeFields head payload ++ [("event_hash", hash)])) "event_hash" =
      .obj (envelopeFields head payload) := by
  simp [Json.erase, envelopeFields]

theorem sealEvent_sealed (platform : Platform) (head : EventHead) (payload : Json)
    (operationKey : Option String) (ordered : payload.ordered = true) :
    (sealEvent platform head payload operationKey).Sealed platform := by
  have document : (CanonicalText.write payload).document = payload :=
    sortKeys_of_ordered payload ordered
  simp only [RunEventRow.Sealed, eventDocument, sealEvent, document, erase_eventHash]

/-! ## The invariant -/

/-- The events of a Run in the order they were written. -/
def written (store : Store) (runId : String) : List RunEventRow :=
  store.events.filter fun row => row.runId = runId

abbrev ChainedEvents : List RunEventRow → Prop :=
  HashChain.Chained (fun row => row.sequence) (fun row => row.prevEventHash)
    (fun row => row.eventHash)

/-- The ledger of one Run. -/
structure RunLedger (platform : Platform) (run : RunRow) (entries : List RunEventRow) : Prop where
  chained : ChainedEvents entries
  queuedFirst : ∃ first rest, entries = first :: rest ∧ first.eventType = .runQueued ∧
    ∀ later ∈ rest, later.eventType ≠ .runQueued
  seals : ∀ row ∈ entries, row.Sealed platform
  keyed : (entries.filterMap fun row => row.operationKey).Nodup
  replayed : replay .queued (entries.map fun row => row.eventType) = some run.status
  completion : run.completedAt.isSome = terminalStatus run.status

structure LedgerInvariant (platform : Platform) (store : Store) : Prop where
  distinct : (store.runs.map RunRow.id).Nodup
  owned : ∀ row ∈ store.events, row.runId ∈ store.runs.map RunRow.id
  ledgers : ∀ run ∈ store.runs, RunLedger platform run (written store run.id)

/-- Under the invariant the events read in order of sequence are those written. -/
theorem LedgerInvariant.eventsOf_eq
    (invariant : LedgerInvariant platform store) (member : run ∈ store.runs) :
    store.eventsOf run.id = written store run.id :=
  (invariant.ledgers run member).chained.sorted

/-! ## Ledger steps -/

/-- What the ledger says about a Run's row. -/
structure RunHead where
  id : String
  runSpecId : Option String
  admissionId : Option String
  status : RunStatus
  completedAt : Option Time

def RunRow.head (run : RunRow) : RunHead :=
  ⟨run.id, run.runSpecId, run.admissionId, run.status, run.completedAt⟩

/-- The row of a Run after it moved to a status. -/
def RunRow.advance (run : RunRow) (next : RunStatus) (completedAt : Option Time) : RunRow :=
  { run with status := next, completedAt := completedAt }

/-- An event that extends the ledger of a Run. -/
structure Extends (platform : Platform) (store : Store) (run : RunRow) (row : RunEventRow)
    (next : RunStatus) (completedAt : Option Time) : Prop where
  found : store.run? run.id = some run
  owned : row.runId = run.id
  seals : row.Sealed platform
  notQueued : row.eventType ≠ .runQueued
  placed : ∃ last, (store.eventsOf run.id).getLast? = some last ∧
    row.sequence = last.sequence + 1 ∧ row.prevEventHash = some last.eventHash
  fresh : ∀ other ∈ store.events, other.runId = run.id → row.operationKey ≠ none →
    other.operationKey ≠ row.operationKey
  advanced : replayStep run.status row.eventType = some next
  completion : completedAt.isSome = terminalStatus next

/-- A Run and the event that opens its ledger. -/
structure Opens (platform : Platform) (store : Store) (run : RunRow) (row : RunEventRow) :
    Prop where
  fresh : ∀ other ∈ store.runs, other.id ≠ run.id
  owned : row.runId = run.id
  seals : row.Sealed platform
  queued : row.eventType = .runQueued ∧ run.status = .queued ∧ run.completedAt = none
  placed : row.sequence = 1 ∧ row.prevEventHash = none

inductive LedgerStep (platform : Platform) (before after : Store) : Prop
  | quiet (events : after.events = before.events)
      (runs : after.runs.map RunRow.head = before.runs.map RunRow.head)
  | extend (run : RunRow) (row : RunEventRow) (next : RunStatus) (completedAt : Option Time)
      (extends_ : Extends platform before run row next completedAt)
      (events : after.events = before.events ++ [row])
      (runs : after.runs.map RunRow.head =
        (Table.modify RunRow.id before.runs run.id fun row =>
          row.advance next completedAt).map RunRow.head)
  | opened (run : RunRow) (row : RunEventRow) (opens : Opens platform before run row)
      (events : after.events = before.events ++ [row]) (runs : after.runs = before.runs ++ [run])

/-! ## One step keeps the invariant -/

theorem RunLedger.congr {other : RunRow} {entries : List RunEventRow}
    (ledger : RunLedger platform run entries) (same : other.head = run.head) :
    RunLedger platform other entries := by
  simp only [RunRow.head, RunHead.mk.injEq] at same
  obtain ⟨_, _, _, status, completedAt⟩ := same
  exact { ledger with
    replayed := by rw [status]; exact ledger.replayed
    completion := by rw [status, completedAt]; exact ledger.completion }

theorem written_append (store after : Store) (row : RunEventRow) (runId : String)
    (events : after.events = store.events ++ [row]) :
    written after runId = written store runId ++ (if row.runId = runId then [row] else []) := by
  simp only [written, events, List.filter_append, List.filter_cons, List.filter_nil,
    decide_eq_true_eq]

/-- The heads of a table after a step come from rows of the table before it. -/
theorem head_of_mem {rows before : List RunRow}
    (same : rows.map RunRow.head = before.map RunRow.head) (member : run ∈ rows) :
    ∃ base ∈ before, run.head = base.head := by
  have mapped : run.head ∈ before.map RunRow.head := same ▸ List.mem_map_of_mem member
  obtain ⟨base, found, equal⟩ := List.mem_map.mp mapped
  exact ⟨base, found, equal.symm⟩

theorem ids_of_heads {rows before : List RunRow}
    (same : rows.map RunRow.head = before.map RunRow.head) :
    rows.map RunRow.id = before.map RunRow.id := by
  have ids := congrArg (List.map RunHead.id) same
  simpa [RunRow.head, Function.comp_def] using ids

theorem head_id {other : RunRow} (same : run.head = other.head) : run.id = other.id :=
  congrArg RunHead.id same

theorem RunLedger.extended {next : RunStatus} {completedAt : Option Time}
    (ledger : RunLedger platform run (written store run.id))
    (ordered : store.eventsOf run.id = written store run.id)
    (extends_ : Extends platform store run row next completedAt) :
    RunLedger platform (run.advance next completedAt) (written store run.id ++ [row]) := by
  obtain ⟨last, isLast, sequence, previous⟩ := extends_.placed
  rw [ordered] at isLast
  obtain ⟨first, rest, split, queued, others⟩ := ledger.queuedFirst
  refine
    { chained := .snoc ledger.chained ?_ ?_
      queuedFirst := ⟨first, rest ++ [row], by rw [split]; rfl, queued, ?_⟩
      seals := ?_
      keyed := ?_
      replayed := ?_
      completion := extends_.completion }
  · rw [sequence, ledger.chained.last_position last isLast]
  · rw [previous, isLast]
    rfl
  · intro later member
    rcases List.mem_append.mp member with earlier | new
    · exact others later earlier
    · rw [List.mem_singleton.mp new]
      exact extends_.notQueued
  · intro entry member
    rcases List.mem_append.mp member with earlier | new
    · exact ledger.seals entry earlier
    · rw [List.mem_singleton.mp new]
      exact extends_.seals
  · rw [List.filterMap_append, List.nodup_append]
    refine ⟨ledger.keyed, ?_, ?_⟩
    · cases key : row.operationKey <;> simp [key]
    · intro earlier isEarlier new isNew same
      obtain ⟨entry, member, entryKey⟩ := List.mem_filterMap.mp isEarlier
      obtain ⟨_, isRow, rowKey⟩ := List.mem_filterMap.mp isNew
      rw [List.mem_singleton.mp isRow] at rowKey
      have inStore := List.mem_filter.mp member
      refine extends_.fresh entry inStore.1 (by simpa using inStore.2) (by simp [rowKey]) ?_
      rw [entryKey, rowKey, same]
  · rw [List.map_append, replay_append, ledger.replayed]
    simp [replay, extends_.advanced, RunRow.advance]

theorem RunLedger.opening (opens : Opens platform store run row) :
    RunLedger platform run [row] where
  chained := by
    have start : ChainedEvents ([] ++ [row]) :=
      .snoc .nil (by simpa using opens.placed.1) (by simpa using opens.placed.2)
    exact start
  queuedFirst := ⟨row, [], rfl, opens.queued.1, by simp⟩
  seals := by
    intro entry member
    rw [List.mem_singleton.mp member]
    exact opens.seals
  keyed := by cases key : row.operationKey <;> simp [key]
  replayed := by simp [replay, replayStep, opens.queued, lifecycleRule, terminalStatus]
  completion := by simp [opens.queued, terminalStatus]

private theorem quiet_keeps {before after : Store}
    (invariant : LedgerInvariant platform before) (events : after.events = before.events)
    (runs : after.runs.map RunRow.head = before.runs.map RunRow.head) :
    LedgerInvariant platform after := by
  have ids := ids_of_heads runs
  refine ⟨by rw [ids]; exact invariant.distinct, by rw [ids, events]; exact invariant.owned, ?_⟩
  intro run member
  obtain ⟨base, found, same⟩ := head_of_mem runs member
  have entries : written after run.id = written before base.id := by
    simp only [written, events, head_id same]
  rw [entries]
  exact (invariant.ledgers base found).congr same

private theorem extend_keeps {before after : Store} {run : RunRow}
    {row : RunEventRow} {next : RunStatus} {completedAt : Option Time}
    (invariant : LedgerInvariant platform before)
    (extends_ : Extends platform before run row next completedAt)
    (events : after.events = before.events ++ [row])
    (runs : after.runs.map RunRow.head =
      (Table.modify RunRow.id before.runs run.id fun row =>
        row.advance next completedAt).map RunRow.head) :
    LedgerInvariant platform after := by
  have member : run ∈ before.runs := Table.find_mem extends_.found
  have ids : after.runs.map RunRow.id = before.runs.map RunRow.id := by
    rw [ids_of_heads runs]
    exact Table.map_key_modify _ _ _ fun _ => rfl
  refine ⟨by rw [ids]; exact invariant.distinct, ?_, ?_⟩
  · intro entry found
    rw [ids]
    rw [events, List.mem_append, List.mem_singleton] at found
    rcases found with earlier | rfl
    · exact invariant.owned entry earlier
    · rw [extends_.owned]
      exact List.mem_map_of_mem member
  · intro current found
    obtain ⟨changed, changedMember, same⟩ := head_of_mem runs found
    obtain ⟨base, baseMember, rfl⟩ := Table.mem_modify.mp changedMember
    have entries := written_append before after row current.id events
    rw [extends_.owned] at entries
    by_cases this : base.id = run.id
    · have equal : base = run := by
        have located := Table.find_of_mem invariant.distinct baseMember
        rw [this] at located
        exact Option.some.inj (located.symm.trans extends_.found)
      subst equal
      rw [if_pos rfl] at same
      have sameId : current.id = base.id := congrArg RunHead.id same
      rw [entries, if_pos sameId.symm, sameId]
      exact ((invariant.ledgers base baseMember).extended (invariant.eventsOf_eq baseMember)
        extends_).congr same
    · rw [if_neg this] at same
      have sameId : current.id = base.id := head_id same
      rw [entries, if_neg (fun equal => this (sameId ▸ equal.symm)), List.append_nil, sameId]
      exact (invariant.ledgers base baseMember).congr same

private theorem opened_keeps {before after : Store} {run : RunRow}
    {row : RunEventRow} (invariant : LedgerInvariant platform before)
    (opens : Opens platform before run row) (events : after.events = before.events ++ [row])
    (runs : after.runs = before.runs ++ [run]) : LedgerInvariant platform after := by
  refine ⟨?_, ?_, ?_⟩
  · rw [runs, List.map_append, List.nodup_append]
    refine ⟨invariant.distinct, by simp, ?_⟩
    intro earlier isEarlier new isNew same
    obtain ⟨other, member, rfl⟩ := List.mem_map.mp isEarlier
    simp only [List.map_cons, List.map_nil, List.mem_singleton] at isNew
    exact opens.fresh other member (same.trans isNew)
  · intro entry found
    rw [events, List.mem_append, List.mem_singleton] at found
    rw [runs, List.map_append, List.mem_append]
    rcases found with earlier | rfl
    · exact Or.inl (invariant.owned entry earlier)
    · exact Or.inr (by simp [opens.owned])
  · intro current found
    rw [runs, List.mem_append, List.mem_singleton] at found
    have entries := written_append before after row current.id events
    rw [opens.owned] at entries
    rcases found with earlier | rfl
    · rw [entries, if_neg (opens.fresh current earlier).symm, List.append_nil]
      exact invariant.ledgers current earlier
    · have none_before : written before current.id = [] := by
        simp only [written, List.filter_eq_nil_iff, decide_eq_true_eq]
        intro entry inStore same
        obtain ⟨other, member, equal⟩ := List.mem_map.mp (invariant.owned entry inStore)
        exact opens.fresh other member (equal.trans same)
      rw [entries, none_before, if_pos rfl, List.nil_append]
      exact RunLedger.opening opens

theorem LedgerStep.keeps (step : LedgerStep platform before after)
    (invariant : LedgerInvariant platform before) : LedgerInvariant platform after := by
  cases step with
  | quiet events runs => exact quiet_keeps invariant events runs
  | extend _ _ _ _ extends_ events runs => exact extend_keeps invariant extends_ events runs
  | opened _ _ opens events runs => exact opened_keeps invariant opens events runs

/-! ## The in-session appender -/

/-- A change of status that a caller of the appender asks for is one the lifecycle allows. -/
def OnceRequest.Lawful (request : OnceRequest) : Prop :=
  request.eventType ≠ .runQueued ∧ ∀ status ∈ request.allowedStatuses,
    replayStep status request.eventType = some (request.nextStatus.getD status) ∧
      terminalStatus status = false ∧ terminalStatus (request.nextStatus.getD status) = false

theorem appendEventOnce_step {request : OnceRequest}
    (invariant : LedgerInvariant platform store) (lawful : request.Lawful)
    (appended : appendEventOnce platform runId request occurredAt store = .ok (row, after)) :
    LedgerStep platform store after := by
  simp only [appendEventOnce, bind_ok, validated_ok] at appended
  obtain ⟨payload, normalized, appended⟩ := appended
  have ordered := normalizeEventPayload_ordered platform _ _ _ normalized
  cases existing : store.eventByKey? runId request.operationKey with
  | some found =>
      simp only [existing, bind_ok, require_ok, ok_pair] at appended
      obtain ⟨_, _, _, rfl⟩ := appended
      exact .quiet rfl rfl
  | none =>
      simp only [existing, bind_ok, orRaise_ok, require_ok, decide_eq_true_eq, newId,
        ok_pair] at appended
      obtain ⟨run, found, _, allowed, last, isLast, inserted, insertion, rowIs, rfl⟩ := appended
      rw [rowIs] at insertion
      obtain ⟨_, _, fresh, rfl⟩ := Store.insertEvent_ok insertion
      have sameId : run.id = runId := Table.find_key found
      subst sameId
      obtain ⟨advanced, openBefore, openAfter⟩ := lawful.2 run.status allowed
      have unfinished : run.completedAt.isSome = false := by
        rw [(invariant.ledgers run (Table.find_mem found)).completion, openBefore]
      have owned : row.runId = run.id := by rw [← rowIs]; rfl
      refine .extend run row (request.nextStatus.getD run.status) run.completedAt
        { found := found
          owned := owned
          seals := by rw [← rowIs]; exact sealEvent_sealed platform _ payload _ ordered
          notQueued := by rw [← rowIs]; exact lawful.1
          placed := ⟨last, isLast, by rw [← rowIs]; rfl, by rw [← rowIs]; rfl⟩
          fresh := by rw [← owned]; exact fresh
          advanced := by rw [← rowIs]; exact advanced
          completion := by rw [unfinished, openAfter] } ?_ ?_
      · cases request.nextStatus <;> rfl
      · cases request.nextStatus with
        | none =>
            have same := Table.map_modify_congr RunRow.head invariant.distinct found id
              (fun row => row.advance run.status run.completedAt) rfl
            rw [Table.modify_id] at same
            exact same
        | some next =>
            exact Table.map_modify_congr RunRow.head invariant.distinct found _ _ rfl

/-- The in-session appender writes events and Runs only. -/
theorem appendEventOnce_frame {request : OnceRequest}
    (appended : appendEventOnce platform runId request occurredAt store = .ok (row, after)) :
    after = { store with events := after.events, runs := after.runs, issued := after.issued } := by
  simp only [appendEventOnce, bind_ok] at appended
  obtain ⟨_, _, appended⟩ := appended
  cases existing : store.eventByKey? runId request.operationKey with
  | some found =>
      simp only [existing, bind_ok, ok_pair] at appended
      obtain ⟨_, _, _, rfl⟩ := appended
      rfl
  | none =>
      simp only [existing, bind_ok, newId, ok_pair] at appended
      obtain ⟨_, _, _, _, _, _, inserted, insertion, _, rfl⟩ := appended
      obtain ⟨_, _, _, rfl⟩ := Store.insertEvent_ok insertion
      cases request.nextStatus <;> rfl

/-! ## `append_event` -/

/-- The lifecycle machine, after a first event, moves the status as a replay does. -/
theorem statusTransition_replay {next : Option RunStatus}
    (moved : statusTransition status kind payload true = .ok next) :
    kind ≠ .runQueued ∧ replayStep status kind = some (next.getD status) ∧
      terminalStatus status = false ∧ (next = none → terminalStatus (next.getD status) = false) := by
  simp only [statusTransition, bind_ok, require_ok, Bool.not_eq_true'] at moved
  obtain ⟨_, opened, _, _, moved⟩ := moved
  by_cases queued : kind = .runQueued
  · simp [queued, require, bind, Except.bind] at moved
  · rw [if_neg queued] at moved
    cases rule : lifecycleRule kind with
    | none =>
        simp only [rule, Except.ok.injEq] at moved
        subst moved
        exact ⟨queued, by simp [replayStep, opened, rule], opened, fun _ => opened⟩
    | some pair =>
        simp only [rule, bind_ok, require_ok, decide_eq_true_eq, Except.ok.injEq] at moved
        obtain ⟨_, allowed, _, _, _, _, rfl⟩ := moved
        exact ⟨queued, by simp [replayStep, opened, rule, allowed], opened, by simp⟩

/-- A request leaves its lease alone, completes it or rejects it. -/
theorem settleLease_cases {finishedAt : Time}
    (settled : settleLease store request finishedAt = .ok after) :
    after = store ∨
      ∃ fence job attempt, request.lease = some fence ∧
        requireOwnedLease store fence request.runId finishedAt = .ok (job, attempt) ∧
        (request.completeExecution = true ∧ after = settleCompleted store fence finishedAt ∨
          ∃ code, request.rejectExecutionCode = some code ∧
            after = settleRejected store fence finishedAt code) := by
  unfold settleLease at settled
  cases fence : request.lease with
  | none =>
      simp only [fence, Except.ok.injEq] at settled
      exact Or.inl settled.symm
  | some fence' =>
      simp only [fence] at settled
      split_ifs at settled with completes
      · simp only [completeActiveLease, bind_ok, Prod.exists, Except.ok.injEq] at settled
        obtain ⟨job, attempt, owned, rfl⟩ := settled
        exact Or.inr ⟨fence', job, attempt, rfl, owned, Or.inl ⟨completes, rfl⟩⟩
      · cases code : request.rejectExecutionCode with
        | none =>
            simp only [code, Except.ok.injEq] at settled
            exact Or.inl settled.symm
        | some reason =>
            simp only [code, rejectActiveLease, bind_ok, Prod.exists, Except.ok.injEq] at settled
            obtain ⟨job, attempt, owned, rfl⟩ := settled
            exact Or.inr ⟨fence', job, attempt, rfl, owned, Or.inr ⟨reason, rfl, rfl⟩⟩

/-- Settling a lease writes no event and no Run. -/
theorem settleLease_frame {finishedAt : Time}
    (settled : settleLease store request finishedAt = .ok after) :
    after = { store with jobs := after.jobs, attempts := after.attempts } := by
  rcases settleLease_cases settled with rfl | ⟨_, _, _, _, _, ⟨_, rfl⟩ | ⟨_, _, rfl⟩⟩ <;> rfl

/-- A request that was accepted has an ordered payload. -/
theorem validateRequest_ordered
    (accepted : validateRequest platform request = .ok (kind, payload)) :
    payload.ordered = true := by
  simp only [validateRequest, bind_ok, validated_ok] at accepted
  obtain ⟨_, _, _, _, found, _, _, _, _, _, document, normalized, _, _, accepted⟩ := accepted
  have ordered := normalizeEventPayload_ordered platform _ _ _ normalized
  cases code : request.rejectExecutionCode with
  | none =>
      simp only [code, ok_pair] at accepted
      rw [← accepted.2]
      exact ordered
  | some reason =>
      simp only [code, bind_ok, ok_pair] at accepted
      obtain ⟨_, _, _, _, _, rfl⟩ := accepted
      exact ordered

theorem persistEvent_step {last : RunEventRow} {next : Option RunStatus}
    (invariant : LedgerInvariant platform store) (found : store.run? request.runId = some run)
    (ordered : payload.ordered = true)
    (isLast : (store.eventsOf request.runId).getLast? = some last)
    (moved : statusTransition run.status kind payload true = .ok next)
    (persisted : persistEvent platform store request kind payload (some last) next occurredAt =
      .ok (row, after)) : LedgerStep platform store after := by
  simp only [persistEvent, newId, bind_ok, ok_pair] at persisted
  obtain ⟨inserted, insertion, settled, settling, rowIs, rfl⟩ := persisted
  rw [rowIs] at insertion
  obtain ⟨_, _, fresh, rfl⟩ := Store.insertEvent_ok insertion
  have frame := settleLease_frame settling
  have sameId : run.id = request.runId := Table.find_key found
  rw [← sameId] at found isLast
  obtain ⟨notQueued, advanced, openBefore, openAfter⟩ := statusTransition_replay moved
  have unfinished : run.completedAt.isSome = false := by
    rw [(invariant.ledgers run (Table.find_mem found)).completion, openBefore]
  have owned : row.runId = run.id := by rw [← rowIs, sameId]; rfl
  let completedAt := next.elim run.completedAt fun status =>
    if terminalStatus status then some occurredAt else run.completedAt
  refine .extend run row (next.getD run.status) completedAt
    { found := found
      owned := owned
      seals := by rw [← rowIs]; exact sealEvent_sealed platform _ payload _ ordered
      notQueued := by rw [← rowIs]; exact notQueued
      placed := ⟨last, isLast, by rw [← rowIs]; rfl, by rw [← rowIs]; rfl⟩
      fresh := by rw [← owned]; exact fresh
      advanced := by rw [← rowIs]; exact advanced
      completion := ?_ } ?_ ?_
  · cases next with
    | none => simpa [completedAt, unfinished] using (openAfter rfl).symm
    | some status => by_cases ended : terminalStatus status = true <;>
        simp [completedAt, ended, unfinished]
  · rw [frame]
    cases next <;> rfl
  · rw [frame]
    cases next with
    | none =>
        have same := Table.map_modify_congr RunRow.head invariant.distinct found id
          (fun row => row.advance run.status run.completedAt) rfl
        rw [Table.modify_id] at same
        exact same
    | some status =>
        rw [← sameId]
        exact Table.map_modify_congr RunRow.head invariant.distinct found _ _ rfl

theorem appendEvent_step (invariant : LedgerInvariant platform store)
    (appended : appendEventBody platform request clock store = .ok (row, after)) :
    LedgerStep platform store after := by
  simp only [appendEventBody, bind_ok, Prod.exists, orRaise_ok] at appended
  obtain ⟨kind, payload, accepted, _, _, run, found, appended⟩ := appended
  have ordered := validateRequest_ordered accepted
  cases existing : request.operationKey.bind (store.eventByKey? request.runId) with
  | some earlier =>
      simp only [existing, bind_ok, ok_pair] at appended
      obtain ⟨_, _, settled, settling, _, rfl⟩ := appended
      rw [settleLease_frame settling]
      exact .quiet rfl rfl
  | none =>
      simp only [existing, bind_ok] at appended
      obtain ⟨_, _, _, _, next, moved, persisted⟩ := appended
      simp only [eventTransition, bind_ok, Except.ok.injEq] at moved
      obtain ⟨_, moved, _, _, rfl⟩ := moved
      -- The invariant gives every Run a first event, so `run.queued` is refused here.
      have member := Table.find_mem found
      have sameId : run.id = request.runId := Table.find_key found
      obtain ⟨first, rest, split, _⟩ := (invariant.ledgers run member).queuedFirst
      have events : store.eventsOf request.runId = first :: rest := by
        rw [← sameId, invariant.eventsOf_eq member, split]
      obtain ⟨last, isLast⟩ : ∃ last, (store.eventsOf request.runId).getLast? = some last :=
        ⟨_, by rw [events]; exact List.getLast?_cons⟩
      rw [isLast] at persisted
      refine persistEvent_step invariant found ordered isLast ?_ persisted
      simpa [events] using moved

/-! ## Operations of several steps -/

/-- A sequence of ledger steps. -/
abbrev LedgerHistory (platform : Platform) : Store → Store → Prop :=
  Relation.ReflTransGen (LedgerStep platform)

theorem LedgerHistory.keeps (history : LedgerHistory platform before after)
    (invariant : LedgerInvariant platform before) : LedgerInvariant platform after := by
  induction history with
  | refl => exact invariant
  | tail _ step ih => exact step.keeps ih

/-- A write to other tables, or to other columns of the Runs. -/
theorem LedgerHistory.quiet (events : after.events = before.events)
    (runs : after.runs.map RunRow.head = before.runs.map RunRow.head) :
    LedgerHistory platform before after :=
  .single (.quiet events runs)

theorem updateRun_quiet (platform : Platform) (store : Store) (runId : String)
    (change : RunRow → RunRow) (same : ∀ run, (change run).head = run.head) :
    LedgerHistory platform store (store.updateRun runId change) := by
  refine .quiet rfl ?_
  simp only [Store.updateRun, Table.modify, List.map_map]
  refine List.map_congr_left fun run _ => ?_
  simp only [Function.comp_apply]
  split_ifs
  · exact same run
  · rfl

theorem evaluatingRequest_lawful : evaluatingRequest.Lawful := by
  simp [OnceRequest.Lawful, evaluatingRequest, replayStep, lifecycleRule, terminalStatus]

theorem respondedRequest_lawful (payload : Json) :
    OnceRequest.Lawful
      { eventType := .subjectResponded
        payload := payload
        operationKey := "subject:responded"
        allowedStatuses := [.running] } := by
  simp [OnceRequest.Lawful, replayStep, lifecycleRule, terminalStatus]

theorem saveSubjectResponse_history {request : ResponseRequest platform}
    (invariant : LedgerInvariant platform store)
    (saved : saveSubjectResponseBody platform request clock store = .ok (row, after)) :
    LedgerHistory platform store after := by
  simp only [saveSubjectResponseBody, bind_ok, Prod.exists, ok_pair] at saved
  obtain ⟨_, _, _, _, _, _, _, _, _, _, response, _, _, _, _, _, answered, middle, responded,
    _, final, evaluating, _, rfl⟩ := saved
  have first := appendEventOnce_step invariant (respondedRequest_lawful response) responded
  have output := updateRun_quiet platform middle request.runId
    (fun run => { run with output := request.capturedOutput }) fun _ => rfl
  have second := appendEventOnce_step (output.keeps (first.keeps invariant))
    evaluatingRequest_lawful evaluating
  exact ((Relation.ReflTransGen.single first).trans output).tail second

/-! ### Evaluations -/

theorem upsertGrade_frame {graderId : String} {createdAt : Time}
    {row : GradeRow}
    (upserted : upsertGrade platform runId graderId grade createdAt store = .ok (row, after)) :
    after = { store with grades := after.grades, issued := after.issued } := by
  unfold upsertGrade at upserted
  cases existing : store.grades.find? fun row => row.runId = runId && row.graderId = graderId with
  | some found =>
      simp only [existing, bind_ok, ok_pair] at upserted
      obtain ⟨_, _, _, rfl⟩ := upserted
      rfl
  | none =>
      simp only [existing, newId, bind_ok, ok_pair] at upserted
      obtain ⟨_, inserted, _, rfl⟩ := upserted
      obtain rfl := Store.insertGrade_ok inserted
      rfl

theorem upsertDeterministicRecord_frame {row stored : EvaluationRecordRow}
    (upserted : upsertDeterministicRecord row store = .ok (stored, after)) :
    after = { store with evaluations := after.evaluations } := by
  unfold upsertDeterministicRecord at upserted
  cases existing : stageRecord? store row with
  | some found =>
      simp only [existing, bind_ok, ok_pair] at upserted
      obtain ⟨_, _, _, rfl⟩ := upserted
      rfl
  | none =>
      simp only [existing, bind_ok, ok_pair] at upserted
      obtain ⟨_, inserted, _, rfl⟩ := upserted
      obtain rfl := (Store.insertEvaluation_ok inserted).2.2
      rfl

theorem evaluationCompletedRequest_lawful (platform : Platform)
    (record : EvaluationRecord platform) : (evaluationCompletedRequest platform record).Lawful := by
  simp [OnceRequest.Lawful, evaluationCompletedRequest, replayStep, lifecycleRule, terminalStatus]

theorem saveDeterministicEvaluation_history
    {record : EvaluationRecord platform} {lease : LeaseFence} {row : EvaluationRecordRow}
    (invariant : LedgerInvariant platform store)
    (saved : saveDeterministicEvaluationBody platform record grade lease clock store =
      .ok (row, after)) : LedgerHistory platform store after := by
  simp only [saveDeterministicEvaluationBody, bind_ok, Prod.exists, ok_pair] at saved
  obtain ⟨_, _, _, _, _, _, _, _, _, _, _, _, _, _, _, recorded, upserted, _, graded, grading,
    _, final, completed, _, rfl⟩ := saved
  have quiet : LedgerHistory platform store graded := by
    rw [upsertGrade_frame grading, upsertDeterministicRecord_frame upserted]
    exact .quiet rfl rfl
  exact quiet.tail (appendEventOnce_step (quiet.keeps invariant)
    (evaluationCompletedRequest_lawful platform record) completed)

theorem saveEvaluationRecord_frame {verifier : AttestationVerifier}
    {record : EvaluationRecord platform} {lease : Option LeaseFence} {row : EvaluationRecordRow}
    (saved : saveEvaluationRecordBody platform verifier record lease clock store =
      .ok (row, after)) : after = { store with evaluations := after.evaluations } := by
  simp only [saveEvaluationRecordBody, bind_ok] at saved
  obtain ⟨_, _, saved⟩ := saved
  cases existing : stageRecord? store (evaluationRow platform record) with
  | some found =>
      simp only [existing, bind_ok, ok_pair] at saved
      obtain ⟨_, _, _, rfl⟩ := saved
      rfl
  | none =>
      simp only [existing, bind_ok] at saved
      obtain ⟨_, _, _, _, _, _, _, _, _, _, _, _, _, _, _, _, saved⟩ := saved
      split at saved
      · simp only [ok_pair] at saved
        rw [← saved.2]
      · simp only [bind_ok, ok_pair] at saved
        obtain ⟨_, _, _, _, _, _, _, inserted, _, rfl⟩ := saved
        obtain rfl := (Store.insertEvaluation_ok inserted).2.2
        rfl

/-! ### Preparation -/

theorem appendAll_history (requests : List (Except Exc OnceRequest))
    (index : Nat) (invariant : LedgerInvariant platform store)
    (lawful : ∀ request, .ok request ∈ requests → request.Lawful)
    (appended : appendAll platform runId clock requests index store = .ok after) :
    LedgerHistory platform store after := by
  induction requests generalizing index store with
  | nil =>
      simp only [appendAll, Except.ok.injEq] at appended
      rw [appended]
  | cons request rest ih =>
      simp only [appendAll, bind_ok, Prod.exists] at appended
      obtain ⟨request', isRequest, _, middle, first, others⟩ := appended
      have step := appendEventOnce_step invariant
        (lawful request' (by rw [isRequest]; exact List.mem_cons_self)) first
      have later := ih (index + 1) (step.keeps invariant)
        (fun request' member => lawful request' (List.mem_cons_of_mem _ member)) others
      exact Relation.ReflTransGen.head step later

theorem appendAll_frame (requests : List (Except Exc OnceRequest))
    (index : Nat) (appended : appendAll platform runId clock requests index store = .ok after) :
    after = { store with events := after.events, runs := after.runs, issued := after.issued } := by
  induction requests generalizing index store with
  | nil =>
      simp only [appendAll, Except.ok.injEq] at appended
      rw [appended]
  | cons request rest ih =>
      simp only [appendAll, bind_ok, Prod.exists] at appended
      obtain ⟨_, _, _, middle, first, others⟩ := appended
      rw [ih (index + 1) others, appendEventOnce_frame first]

theorem preparationRequests_lawful (platform : Platform) (request : PrepareRequest platform)
    (snapshotId : String) (once : OnceRequest)
    (member : .ok once ∈ preparationRequests platform request snapshotId) : once.Lawful := by
  simp only [preparationRequests, List.mem_append, List.mem_cons, List.not_mem_nil, or_false,
    Except.ok.injEq, List.mem_map] at member
  rcases member with ((rfl | rfl) | ⟨capability, _, offered⟩) | rfl
  · simp [OnceRequest.Lawful, preparingRequest, replayStep, lifecycleRule, terminalStatus]
  · simp [OnceRequest.Lawful, composedRequest, replayStep, lifecycleRule, terminalStatus]
  · split_ifs at offered
    rw [← Except.ok.inj offered]
    simp [OnceRequest.Lawful, offeredRequest, replayStep, lifecycleRule, terminalStatus]
  · simp [OnceRequest.Lawful, runningRequest, replayStep, lifecycleRule, terminalStatus]

theorem upsertContextSnapshot_frame {snapshot : Snapshot} {preparedAt : Time}
    {row : ContextSnapshotRow}
    (upserted : upsertContextSnapshot platform runId snapshot preparedAt store = .ok (row, after)) :
    after = { store with snapshots := after.snapshots, issued := after.issued } := by
  unfold upsertContextSnapshot at upserted
  cases existing : store.snapshots.find? fun row => row.runId = runId with
  | some found =>
      simp only [existing, bind_ok, ok_pair] at upserted
      obtain ⟨_, _, _, rfl⟩ := upserted
      rfl
  | none =>
      simp only [existing, newId, bind_ok, ok_pair] at upserted
      obtain ⟨_, inserted, _, rfl⟩ := upserted
      obtain rfl := Store.insertSnapshot_ok inserted
      rfl

theorem upsertSubjectEnvelope_frame {envelope : SubjectEnvelope platform}
    {preparedAt : Time} {row : SubjectEnvelopeRow}
    (upserted : upsertSubjectEnvelope platform runId envelope preparedAt store = .ok (row, after)) :
    after = { store with envelopes := after.envelopes } := by
  unfold upsertSubjectEnvelope at upserted
  cases existing : store.envelope? runId with
  | some found =>
      simp only [existing, bind_ok, ok_pair] at upserted
      obtain ⟨_, _, _, rfl⟩ := upserted
      rfl
  | none =>
      simp only [existing, bind_ok, ok_pair] at upserted
      obtain ⟨_, inserted, _, rfl⟩ := upserted
      obtain rfl := Store.insertEnvelope_ok inserted
      rfl

theorem prepareRunExecution_history {request : PrepareRequest platform}
    {rows : ContextSnapshotRow × SubjectEnvelopeRow} (invariant : LedgerInvariant platform store)
    (prepared : prepareRunExecutionBody platform request clock store = .ok (rows, after)) :
    LedgerHistory platform store after := by
  simp only [prepareRunExecutionBody, bind_ok, Prod.exists, ok_pair] at prepared
  obtain ⟨_, _, _, _, snapshot, first, snapshotted, _, second, enveloped, third, appended, _,
    rfl⟩ := prepared
  have quiet : LedgerHistory platform store second := by
    rw [upsertSubjectEnvelope_frame enveloped, upsertContextSnapshot_frame snapshotted]
    exact .quiet rfl rfl
  have events := appendAll_history _ _ (quiet.keeps invariant)
    (preparationRequests_lawful platform request snapshot.id) appended
  exact (quiet.trans events).trans (updateRun_quiet platform third request.runId _ fun _ => rfl)

/-! ### Enqueue -/

theorem enqueueRun_history {request : EnqueueRequest} {requestedAt : Time}
    {rows : RunRow × RunExecutionJobRow}
    (enqueued : enqueueRunBody platform request requestedAt store = .ok (rows, after)) :
    LedgerHistory platform store after := by
  simp only [enqueueRunBody, bind_ok] at enqueued
  obtain ⟨_, _, enqueued⟩ := enqueued
  split at enqueued
  · simp only [bind_ok, ok_pair] at enqueued
    obtain ⟨_, _, _, _, _, rfl⟩ := enqueued
    exact .refl
  · simp only [bind_ok, Prod.exists, newId, appendQueuedEvent, validated_ok, ok_pair] at enqueued
    obtain ⟨spec, admission, row, _, revision, _, _, insertedRun, _, ⟨payload, normalized,
      insertedEvent⟩, _, insertedJob, _, rfl⟩ := enqueued
    obtain ⟨fresh, rfl⟩ := Store.insertRun_ok insertedRun
    obtain ⟨_, _, _, rfl⟩ := Store.insertEvent_ok insertedEvent
    obtain ⟨_, _, rfl⟩ := Store.insertJob_ok insertedJob
    have ordered := normalizeEventPayload_ordered platform _ _ _ normalized
    exact .single (.opened _ _
      { fresh := fresh
        owned := rfl
        seals := sealEvent_sealed platform _ payload _ ordered
        queued := ⟨rfl, rfl, rfl⟩
        placed := ⟨rfl, rfl⟩ } rfl rfl)

/-! ### The queue -/

theorem expireLease_frame {job : RunExecutionJobRow}
    (expired : expireLease claimedAt store job = .ok after) :
    after = { store with jobs := after.jobs, attempts := after.attempts } := by
  simp only [expireLease, bind_ok] at expired
  obtain ⟨_, _, _, _, expired⟩ := expired
  split_ifs at expired
  · rw [← Except.ok.inj expired]
    rfl
  · rw [← Except.ok.inj expired]

theorem expireAll_frame (jobs : List RunExecutionJobRow)
    (expired : jobs.foldlM (expireLease claimedAt) store = .ok after) :
    after = { store with jobs := after.jobs, attempts := after.attempts } := by
  induction jobs generalizing store with
  | nil =>
      simp only [List.foldlM_nil] at expired
      rw [← Except.ok.inj expired]
  | cons job rest ih =>
      simp only [List.foldlM_cons, bind_ok] at expired
      obtain ⟨middle, first, others⟩ := expired
      rw [ih others, expireLease_frame first]

theorem claimNextJob_frame {request : ClaimRequest}
    {claimed : Option (RunExecutionJobRow × RunExecutionAttemptRow)}
    (claim : claimNextJobBody platform request claimedAt store = .ok (claimed, after)) :
    after = { store with jobs := after.jobs, attempts := after.attempts, issued := after.issued } := by
  simp only [claimNextJobBody, bind_ok] at claim
  obtain ⟨_, _, _, _, middle, expired, claim⟩ := claim
  have frame := expireAll_frame _ expired
  split at claim
  · rw [← (Prod.mk.inj (Except.ok.inj claim)).2, frame]
  · simp only [newId, bind_ok, ok_pair] at claim
    obtain ⟨_, inserted, _, rfl⟩ := claim
    rw [(Store.insertAttempt_ok inserted).2, frame]
    rfl

theorem heartbeatLease_frame {fence : LeaseFence} {leaseSeconds : Rat} {heartbeatAt : Time}
    {row : RunExecutionAttemptRow}
    (beat : heartbeatLeaseBody fence leaseSeconds heartbeatAt store = .ok (row, after)) :
    after = { store with attempts := after.attempts } := by
  simp only [heartbeatLeaseBody, bind_ok, Prod.exists, ok_pair] at beat
  obtain ⟨_, _, _, _, rfl⟩ := beat
  rfl

theorem releaseLease_frame {fence : LeaseFence} {reasonCode : String} {availableAt : Option Time}
    {releasedAt : Time} {row : RunExecutionJobRow}
    (released : releaseLeaseBody fence reasonCode availableAt releasedAt store =
      .ok (row, after)) :
    after = { store with jobs := after.jobs, attempts := after.attempts } := by
  simp only [releaseLeaseBody, bind_ok, Prod.exists, ok_pair] at released
  obtain ⟨_, _, _, _, _, _, _, _, rfl⟩ := released
  rfl

theorem rejectLease_frame {fence : LeaseFence} {reasonCode : String} {rejectedAt : Time}
    {row : RunExecutionJobRow}
    (rejected : rejectLeaseBody fence reasonCode rejectedAt store = .ok (row, after)) :
    after = { store with jobs := after.jobs, attempts := after.attempts } := by
  simp only [rejectLeaseBody, bind_ok, ok_pair] at rejected
  obtain ⟨_, _, _, _, _, _, _, rfl⟩ := rejected
  rfl

theorem completeLease_frame {fence : LeaseFence} {completedAt : Time} {row : RunExecutionJobRow}
    (completed : completeLeaseBody fence completedAt store = .ok (row, after)) :
    after = { store with jobs := after.jobs, attempts := after.attempts } := by
  simp only [completeLeaseBody, bind_ok, ok_pair] at completed
  obtain ⟨_, _, _, _, _, rfl⟩ := completed
  rfl

/-! ## Reachable stores -/

/-- One call of a store operation, with any arguments and clock readings. A call
that raises leaves the store as it was, unless it raised after its commit. -/
inductive StoreStep (platform : Platform) (store : Store) : Store → Prop
  | enqueueRun (request : EnqueueRequest) (requestedAt : Time) :
      StoreStep platform store (enqueueRun platform request requestedAt store).store
  | prepareRunExecution (request : PrepareRequest platform) (clock : Nat → Time) :
      StoreStep platform store (prepareRunExecution platform request clock store).store
  | appendEvent (request : AppendRequest) (clock : Nat → Time) :
      StoreStep platform store (appendEvent platform request clock store).store
  | saveSubjectResponse (request : ResponseRequest platform) (clock : Nat → Time) :
      StoreStep platform store (saveSubjectResponse platform request clock store).store
  | saveDeterministicEvaluation (record : EvaluationRecord platform) (grade : Grade)
      (lease : LeaseFence) (clock : Nat → Time) :
      StoreStep platform store
        (saveDeterministicEvaluation platform record grade lease clock store).store
  | saveEvaluationRecord (verifier : AttestationVerifier) (record : EvaluationRecord platform)
      (lease : Option LeaseFence) (clock : Nat → Time) :
      StoreStep platform store
        (saveEvaluationRecord platform verifier record lease clock store).store
  | saveGrade (runId graderId : String) (grade : Grade) (lease : Option LeaseFence)
      (clock : Nat → Time) :
      StoreStep platform store (saveGrade platform runId graderId grade lease clock store).store
  | claimNextJob (request : ClaimRequest) (claimedAt : Time) :
      StoreStep platform store (claimNextJob platform request claimedAt store).store
  | heartbeatLease (fence : LeaseFence) (leaseSeconds : Rat) (heartbeatAt : Time) :
      StoreStep platform store (heartbeatLease fence leaseSeconds heartbeatAt store).store
  | releaseLease (fence : LeaseFence) (reasonCode : String) (availableAt : Option Time)
      (releasedAt : Time) :
      StoreStep platform store (releaseLease fence reasonCode availableAt releasedAt store).store
  | rejectLease (fence : LeaseFence) (reasonCode : String) (rejectedAt : Time) :
      StoreStep platform store (rejectLease fence reasonCode rejectedAt store).store
  | completeLease (fence : LeaseFence) (completedAt : Time) :
      StoreStep platform store (completeLease fence completedAt store).store

/-- A store before its first Run, with any contracts in it. -/
def Store.Initial (store : Store) : Prop :=
  store.runs = [] ∧ store.events = [] ∧ store.jobs = [] ∧ store.attempts = []

inductive Reachable (platform : Platform) : Store → Prop
  | start {store : Store} (initial : store.Initial) : Reachable platform store
  | next {store after : Store} (reachable : Reachable platform store)
      (step : StoreStep platform store after) : Reachable platform after

/-- What a transaction leaves behind is what its body computed, or what was there. -/
theorem transact_history {Result : Type}
    {body : Store → Except Exc (Result × Store)}
    (accepted : ∀ result after, body store = .ok (result, after) →
      LedgerHistory platform store after) :
    LedgerHistory platform store (transact body store).store := by
  rcases transact_store body store with same | ⟨result, committed⟩
  · rw [same]
  · exact accepted result _ committed

private theorem transact_quiet {Result : Type}
    {body : Store → Except Exc (Result × Store)} {store : Store}
    (accepted : ∀ result after, body store = .ok (result, after) →
      after = { after with events := store.events, runs := store.runs }) :
    LedgerHistory platform store (transact body store).store :=
  transact_history fun result after committed => by
    rw [accepted result after committed]
    exact .quiet rfl rfl

theorem saveGrade_quiet {graderId : String} {lease : Option LeaseFence} :
    LedgerHistory platform store
      (saveGrade platform runId graderId grade lease clock store).store :=
  transact_quiet fun _ _ saved => by
    simp only [bind_ok] at saved
    obtain ⟨_, _, graded⟩ := saved
    rw [upsertGrade_frame graded]

theorem StoreStep.history (step : StoreStep platform store after)
    (invariant : LedgerInvariant platform store) : LedgerHistory platform store after := by
  cases step with
  | enqueueRun request requestedAt =>
      rw [Database.enqueueRun, commitThen_store]
      exact transact_history fun _ _ => enqueueRun_history
  | prepareRunExecution request clock =>
      rw [Database.prepareRunExecution, commitThen_store]
      exact transact_history fun _ _ => prepareRunExecution_history invariant
  | appendEvent request clock =>
      exact transact_history fun _ _ appended => .single (appendEvent_step invariant appended)
  | saveSubjectResponse request clock =>
      exact transact_history fun _ _ => saveSubjectResponse_history invariant
  | saveDeterministicEvaluation record grade lease clock =>
      exact transact_history fun _ _ => saveDeterministicEvaluation_history invariant
  | saveEvaluationRecord verifier record lease clock =>
      exact transact_quiet fun _ _ committed => by rw [saveEvaluationRecord_frame committed]
  | saveGrade runId graderId grade lease clock => exact saveGrade_quiet
  | claimNextJob request claimedAt =>
      rw [Database.claimNextJob, commitThen_store]
      exact transact_quiet fun _ _ committed => by rw [claimNextJob_frame committed]
  | heartbeatLease fence leaseSeconds heartbeatAt =>
      rw [Database.heartbeatLease, commitThen_store]
      exact transact_quiet fun _ _ committed => by rw [heartbeatLease_frame committed]
  | releaseLease fence reasonCode availableAt releasedAt =>
      rw [Database.releaseLease, commitThen_store]
      exact transact_quiet fun _ _ committed => by rw [releaseLease_frame committed]
  | rejectLease fence reasonCode rejectedAt =>
      rw [Database.rejectLease, commitThen_store]
      exact transact_quiet fun _ _ committed => by rw [rejectLease_frame committed]
  | completeLease fence completedAt =>
      rw [Database.completeLease, commitThen_store]
      exact transact_quiet fun _ _ committed => by rw [completeLease_frame committed]

theorem Reachable.invariant (reachable : Reachable platform store) :
    LedgerInvariant platform store := by
  induction reachable with
  | start initial =>
      obtain ⟨runs, events, _⟩ := initial
      exact ⟨by simp [runs], by simp [events], by simp [runs]⟩
  | next _ step ih => exact (step.history ih).keeps ih

end

/-- In every reachable store, every Run's events are numbered from 1, open with
the only `run.queued`, form a sealed hash chain under distinct operation keys,
replay to the stored status, and end with the terminal event if there is one. -/
theorem run_ledger_of_reachable (platform : Platform) (store : Store)
    (reachable : Reachable platform store) (run : RunRow) (member : run ∈ store.runs) :
    let events := store.eventsOf run.id
    events.map (fun row => row.sequence) = List.range' 1 events.length ∧
      (∃ first rest, events = first :: rest ∧ first.eventType = .runQueued ∧
        first.prevEventHash = none ∧ ∀ later ∈ rest, later.eventType ≠ .runQueued) ∧
      events.IsChain (fun before after => after.prevEventHash = some before.eventHash) ∧
      (∀ row ∈ events,
        row.eventHash = sha256Json platform ((eventDocument row).erase "event_hash")) ∧
      (events.filterMap fun row => row.operationKey).Nodup ∧
      replay .queued (events.map fun row => row.eventType) = some run.status ∧
      (∀ row ∈ events.dropLast, terminalEvent row.eventType = false) ∧
      (run.completedAt.isSome = true ↔ terminalStatus run.status = true) := by
  intro events
  have ledger := reachable.invariant.ledgers run member
  have same : events = written store run.id := reachable.invariant.eventsOf_eq member
  rw [← same] at ledger
  obtain ⟨first, rest, split, queued, others⟩ := ledger.queuedFirst
  refine ⟨ledger.chained.positions, ⟨first, rest, split, queued, ?_, others⟩, ledger.chained.linked,
    ledger.seals, ledger.keyed, ledger.replayed, ?_, by rw [ledger.completion]⟩
  · exact ledger.chained.first_unlinked first (by rw [split]; rfl)
  · intro row before
    refine replay_open_before_last _ ledger.replayed _ ?_
    rw [← List.map_dropLast]
    exact List.mem_map_of_mem before

/-! ## A small Run

The least contracts that are admitted: a single-turn Goal, one boolean dimension
and one deterministic stage on the Subject's response.
-/

namespace Sample

def digestText : String := "aaaaaaaaaaaaaaaaaaaaaaaaaaaaaaaaaaaaaaaaaaaaaaaaaaaaaaaaaaaaaaaa"

def platform : Platform where
  sha256 _ := digestText
  uuid7 count := String.ofList (Nat.toDigits 10 count)
  coercion := .strict

def contract (kind : String) : Json :=
  .obj [("contract_type", .str kind), ("digest", .str digestText), ("logical_id", .str "one"),
    ("revision", .int 1)]

def capability : Json :=
  .obj [("digest", .str digestText), ("name", .str "runner"), ("namespace", .str "evidrun"),
    ("version", .str "1")]

def artifact : Json :=
  .obj [("artifact_id", .str "input"), ("classification", .str "internal"),
    ("digest", .str digestText), ("media_type", .str "text/plain")]

def stage : Json :=
  .obj [("evaluator_ref", capability), ("id", .str "grade"), ("kind", .str "deterministic_grader"),
    ("output_dimensions", .arr [.str "passed"]),
    ("trigger", .obj [("kind", .str "event"), ("reference", .str "subject.responded")])]

def plan : Json :=
  .obj [("dimensions", .arr [.obj [("description", .str "passed"), ("id", .str "passed"),
      ("value_type", .str "boolean")]]),
    ("stages", .arr [stage])]

def goal : Json :=
  .obj [("instruction", .str "answer"), ("mode", .str "goal_state"),
    ("outcomes", .arr [.obj [("description", .str "answered"), ("id", .str "answered")]])]

def scenario : Json :=
  .obj [("description", .str "question"), ("input_bindings", .arr [.obj [("id", .str "input"),
    ("role", .str "question"), ("source", artifact), ("visibility", .str "subject")]])]

def workspace : Json :=
  .obj [("external_effect_policy", .obj [("mode", .str "denied")]),
    ("network_policy", .obj [("mode", .str "disabled")]), ("runtime_kind", .str "local")]

def runSpecDocument : Json :=
  .obj [("agent_inventory", .obj [("runner_ref", capability), ("subject_id", .str "subject")]),
    ("agent_inventory_ref", contract "agent_inventory"),
    ("budgets", .obj [("max_wall_seconds", .int 60)]),
    ("capture_policy", .obj [("default_mode", .str "metadata")]),
    ("evaluation_plan", plan),
    ("evaluation_plan_ref", contract "evaluation_plan"),
    ("goal", goal),
    ("goal_ref", contract "goal"),
    ("interaction_protocol", .obj [("mode", .str "single_turn")]),
    ("interaction_protocol_ref", contract "interaction_protocol"),
    ("repetition_index", .int 1),
    ("scenario", scenario),
    ("scenario_ref", contract "scenario"),
    ("stop_conditions", .arr [.obj [("kind", .str "goal_complete")]]),
    ("study_ref", contract "study"),
    ("variant_id", .str "baseline"),
    ("workspace", workspace),
    ("workspace_template_ref", contract "workspace_template")]

def admissionDocument : Json :=
  .obj [("created_at_utc", .str "2026-01-01T00:00:00Z"), ("decision", .str "admitted"),
    ("execution_trust", .obj [("digest", .str digestText), ("trust_id", .str "trust")]),
    ("interaction_status", .str "resolved"),
    ("resolved_inventory", .obj [("requirement_ref", contract "agent_inventory"),
      ("runner_ref", capability)]),
    ("run_spec_digest", .str digestText),
    ("run_spec_ref", .str ("run-spec:" ++ digestText)),
    ("workspace_status", .str "resolved")]

/-- A store with one admitted RunSpec and no Run. -/
def admitted : Store where
  runSpecs := [⟨"spec", .write runSpecDocument, digestText⟩]
  admissions := [⟨"admission", "spec", "admitted", .write admissionDocument, digestText,
    some "trust", some digestText, 0⟩]
  runs := []
  events := []
  jobs := []
  attempts := []
  envelopes := []
  snapshots := []
  grades := []
  checkpoints := []
  evaluations := []
  issued := 0

def enqueueRequest : EnqueueRequest where
  runSpecId := "spec"
  admissionId := "admission"
  idempotencyKey := "once"

def enqueued : Store := (enqueueRun platform enqueueRequest 0 admitted).store

def claimed : Store := (claimNextJob platform ⟨"worker", 30, none⟩ 0 enqueued).store

/-- The fence of the first claim. -/
def fence : LeaseFence := ⟨"job_2", "attempt_3", "worker", 1⟩

def failure : AppendRequest where
  runId := "run_0"
  eventType := "run.failed"
  payload := .obj [("goal_result", .obj [("goal_mode", .str "goal_state"),
      ("state", .str "not_assessable")]),
    ("status", .str "failed"), ("terminal_cause", .str "stopped")]
  lease := some fence
  completeExecution := true

def failed : Store := (appendEvent platform failure (fun _ => 1) claimed).store

theorem reachable_failed : Reachable platform failed :=
  .next (.next (.next (.start ⟨rfl, rfl, rfl, rfl⟩) (.enqueueRun enqueueRequest 0))
    (.claimNextJob ⟨"worker", 30, none⟩ 0)) (.appendEvent failure fun _ => 1)

end Sample

theorem run_ledger_of_failed_sample :
    ∃ run ∈ Sample.failed.runs, run.status = .failed ∧
      (Sample.failed.eventsOf run.id).map (fun row => row.eventType) = [.runQueued, .runFailed] ∧
      replay .queued ((Sample.failed.eventsOf run.id).map fun row => row.eventType) =
        some run.status ∧
      run.completedAt.isSome = true := by
  have evaluated : Sample.failed.runs.head?.map (fun run =>
      (run.status, (Sample.failed.eventsOf run.id).map fun row => row.eventType)) =
        some (.failed, [.runQueued, .runFailed]) := by
    decide +kernel
  obtain ⟨run, found, facts⟩ := Option.map_eq_some_iff.mp evaluated
  obtain ⟨failed, kinds⟩ := Prod.mk.inj facts
  have member : run ∈ Sample.failed.runs := List.mem_of_head? found
  obtain ⟨_, _, _, _, _, replayed, _, completion⟩ :=
    run_ledger_of_reachable Sample.platform Sample.failed Sample.reachable_failed run member
  exact ⟨run, member, failed, kinds, replayed,
    completion.mpr (by rw [failed]; rfl)⟩

end Evidrun.Database
