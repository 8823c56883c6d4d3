import Evidrun.Database.Repetition
import Evidrun.Database.RegistryHistory

/-!
# What later operations cannot change

The invariants of the ledger and of the registry are about one store. Here two stores of
one run are compared: what a Run had recorded is a beginning of what it has recorded later,
nothing is recorded for a Run that ended, and a registered revision changes only its status.
-/

namespace Evidrun.Database

open Evidrun.Contracts RegistryTables

set_option autoImplicit false

/-- The lifecycle has no step out of a terminal status. -/
theorem nil_of_replay_terminal {status final : RunStatus} {kinds : List EventType}
    (terminal : terminalStatus status = true) (replayed : replay status kinds = some final) :
    kinds = [] := by
  cases kinds with
  | nil => rfl
  | cons kind rest =>
      rw [replay_cons, replayStep, if_pos terminal] at replayed
      cases replayed

/-- Whatever operations follow, a Run stays stored under its contracts, the events that were
read of it stay the first ones, and a Run that ended keeps its status and its last event. -/
theorem ledger_append_only (platform : Platform) (before after : Store)
    (reachable : Reachable platform before) (continues : Continues platform before after)
    (run : RunRow) (member : run ∈ before.runs) :
    ∃ later ∈ after.runs, later.id = run.id ∧ later.runSpecId = run.runSpecId ∧
      later.admissionId = run.admissionId ∧
      before.eventsOf run.id <+: after.eventsOf run.id ∧
      (terminalStatus run.status = true → later.status = run.status ∧
        after.eventsOf run.id = before.eventsOf run.id) := by
  have carries := Continues.carries continues
  have invariant := (Continues.reachable continues reachable).invariant
  have stored := Table.find_of_mem reachable.invariant.distinct member
  obtain ⟨later, found, spec, admission, _⟩ := carries.runs run.id run stored
  have kept : later ∈ after.runs := Table.find_mem found
  have id : later.id = run.id := Table.find_key found
  have read := invariant.eventsOf_eq kept
  have ledger := invariant.ledgers later kept
  obtain ⟨more, grown⟩ : written before run.id <+: written after run.id := carries.events.filter _
  rw [id] at read ledger
  rw [read, reachable.invariant.eventsOf_eq member]
  refine ⟨later, kept, id, spec, admission, ⟨more, grown⟩, fun terminal => ?_⟩
  -- The later ledger replays through the status in which the earlier one ended.
  have replayed := ledger.replayed
  rw [← grown, List.map_append, replay_append,
    (reachable.invariant.ledgers run member).replayed, Option.bind_some] at replayed
  have ended : more = [] := List.map_eq_nil_iff.mp (nil_of_replay_terminal terminal replayed)
  subst ended
  exact ⟨(Option.some.inj replayed).symm, by rw [← grown, List.append_nil]⟩

theorem ledger_append_only_of_failed_sample :
    ∃ run ∈ Sample.failed.runs, run.status = .failed ∧
      ∀ after, Continues Sample.platform Sample.failed after →
        after.eventsOf run.id = Sample.failed.eventsOf run.id := by
  have evaluated : Sample.failed.runs.head?.map RunRow.status = some .failed := by decide +kernel
  obtain ⟨run, first, failed⟩ := Option.map_eq_some_iff.mp evaluated
  have member : run ∈ Sample.failed.runs := List.mem_of_head? first
  refine ⟨run, member, failed, fun after continues => ?_⟩
  obtain ⟨_, _, _, _, _, _, ended⟩ := ledger_append_only Sample.platform Sample.failed after
    Sample.reachable_failed continues run member
  exact (ended (by rw [failed]; rfl)).2

/-! ## The registry -/

section

variable {platform : Platform} {environment : RegistryEnvironment} {before after : RegistryTables}

/-- A call of the registry store, whatever it returns. -/
inductive RegistryCall (platform : Platform) (environment : RegistryEnvironment)
    (tables : RegistryTables) : RegistryTables → Prop
  | save (revision : Revision platform) (status : String) (now : Time) :
      RegistryCall platform environment tables
        (tables.saveContractRevision revision status now).tables
  | decide (scan : ScanOrder) (decision : RevisionDecisionRecord platform) :
      RegistryCall platform environment tables
        (tables.decideContractRevision environment scan decision).tables
  | importPackage (scan : ScanOrder) (package : LegacyStudyPackage platform) (now : Time) :
      RegistryCall platform environment tables
        (importLegacyContractPackage environment scan package now tables).tables

theorem RegistryCall.run (call : RegistryCall platform environment before after) :
    Relation.ReflTransGen (RegistryStep platform environment) before after := by
  cases call with
  | save revision status now => exact .single (.save before revision status now)
  | decide scan decision => exact .single (.decide before scan decision)
  | importPackage scan package now => exact importLegacyContractPackage_run scan package now

structure RegistryTables.Grows (before after : RegistryTables) : Prop where
  decisions : before.decisions <+: after.decisions
  revisions : ∀ row ∈ before.revisions, ∃ status, { row with status := status } ∈ after.revisions

theorem RegistryChange.grows {count : Nat}
    (change : RegistryChange platform environment before count after) : before.Grows after := by
  cases change with
  | none => exact ⟨List.prefix_rfl, fun row member => ⟨row.status, member⟩⟩
  | saved revision id status now fresh absent next initial =>
      exact ⟨List.prefix_rfl, fun row member => ⟨row.status, List.mem_append_left _ member⟩⟩
  | proposed row member draft =>
      exact ⟨List.prefix_rfl, fun other inside => exists_restatus inside row.id "proposed"⟩
  | decided scan decision revision id found digest authorized fresh unused =>
      exact ⟨List.prefix_append .., fun row member =>
        exists_restatus member revision.id decision.decision⟩

theorem grows_of_run
    (run : Relation.ReflTransGen (RegistryStep platform environment) before after) :
    before.Grows after := by
  induction run with
  | refl => exact ⟨List.prefix_rfl, fun row member => ⟨row.status, member⟩⟩
  | tail _ step ih =>
      obtain ⟨count, change⟩ := step.change
      refine ⟨ih.decisions.trans change.grows.decisions, fun row member => ?_⟩
      obtain ⟨middle, kept⟩ := ih.revisions row member
      obtain ⟨status, again⟩ := change.grows.revisions { row with status := middle } kept
      exact ⟨status, again⟩

/-- A rejection is the only decision on its revision, whatever is decided afterwards. -/
theorem RegistryTables.Grows.rejected (grows : before.Grows after)
    (earlier : RegistryInvariant platform environment before)
    (later : RegistryInvariant platform environment after) {row : ContractRevisionRow}
    (member : row ∈ before.revisions) (rejected : row.status = "rejected") {status : String}
    (kept : { row with status := status } ∈ after.revisions) : status = "rejected" := by
  cases last : (before.decisionsOf row.id).getLast? with
  | none =>
      have undecided := earlier.undecided row member (List.getLast?_eq_none_iff.mp last)
      rw [rejected] at undecided
      exact absurd undecided (by decide)
  | some decision =>
      have isRejected : decision.decision = "rejected" :=
        (earlier.status row member decision last).symm.trans rejected
      have inside : decision ∈ after.decisionsOf row.id :=
        (grows.decisions.filter _).subset (List.mem_of_getLast? last)
      have only := (later.histories row.id).rejected decision inside isRejected
      exact (later.status _ kept decision (by rw [only]; rfl)).trans isRejected

end

/-- Whatever calls follow, a registered revision keeps every column but its status, decisions
are only added, and a rejected revision stays rejected. -/
theorem registry_append_only (platform : Platform) (environment : RegistryEnvironment)
    (before after : RegistryTables) (reachable : RegistryReachable platform environment before)
    (calls : Relation.ReflTransGen (RegistryCall platform environment) before after) :
    before.decisions <+: after.decisions ∧
      ∀ row ∈ before.revisions, ∃ status, { row with status := status } ∈ after.revisions ∧
        (row.status = "rejected" → status = "rejected") := by
  have run : Relation.ReflTransGen (RegistryStep platform environment) before after := by
    induction calls with
    | refl => exact .refl
    | tail _ call ih => exact ih.trans call.run
  have grows := grows_of_run run
  obtain ⟨start, initial, earlier⟩ := reachable
  have later : RegistryReachable platform environment after := ⟨start, initial, earlier.trans run⟩
  refine ⟨grows.decisions, fun row member => ?_⟩
  obtain ⟨status, kept⟩ := grows.revisions row member
  exact ⟨status, kept, fun rejected => grows.rejected
    (invariant_of_reachable ⟨start, initial, earlier⟩) (invariant_of_reachable later) member
    rejected kept⟩

theorem registry_append_only_of_shared_line :
    Sample.sharedLine.revisions.length = 2 ∧
      ∀ after, Relation.ReflTransGen
        (RegistryCall Contracts.Sample.platform Sample.verifying) Sample.sharedLine after →
        ∀ row ∈ Sample.sharedLine.revisions,
          ∃ status, { row with status := status } ∈ after.revisions := by
  refine ⟨by decide +kernel, fun after calls row member => ?_⟩
  obtain ⟨status, kept, _⟩ := (registry_append_only Contracts.Sample.platform Sample.verifying
    Sample.sharedLine after (reachable_of_saved Sample.saved_sharedLine Sample.verifying)
    calls).2 row member
  exact ⟨status, kept⟩

end Evidrun.Database
