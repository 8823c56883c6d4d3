import Evidrun.Database.DecisionReplay
import Evidrun.Lib.ReadCommit

/-!
# Concurrent decisions

The session of `_persist_contract_decision` opens its transaction with its first
write. A decision is therefore judged by the decision that was dated latest when
it was read, and written into whatever is committed by then. No constraint of the
database backs the rule.

The decisions on a revision stay free of contradictions exactly if each commit
still agrees with the decisions it finds; the registry then loads in every order
of equal times.
-/

namespace Evidrun.Database

open JsonText DocumentSchema Evidrun.Contracts KeyedReplay ReadCommit
open RegistryTables

set_option autoImplicit false

/-! ## Decisions that do not contradict each other -/

/-- The later decision repeats the earlier one, or supersedes an accepted revision. -/
def Follows (earlier later : ContractDecisionRow) : Prop :=
  InMemoryContractRegistry.conflicts earlier.decision later.decision = false

/-- Only rejections, or acceptances followed by superseding decisions. -/
def Consistent (rows : List ContractDecisionRow) : Prop :=
  (∀ row ∈ rows, row.decision = "rejected") ∨
    ∃ accepting superseding, rows = accepting ++ superseding ∧
      (∀ row ∈ accepting, row.decision = "accepted") ∧
        ∀ row ∈ superseding, row.decision = "superseded"

theorem follows_iff {earlier later : ContractDecisionRow} :
    Follows earlier later ↔ earlier.decision = later.decision ∨
      earlier.decision = "accepted" ∧ later.decision = "superseded" := by
  simp only [Follows, InMemoryContractRegistry.conflicts, Bool.and_eq_false_iff, bne_eq_false_iff_eq,
    Bool.not_eq_false', Bool.and_eq_true, beq_iff_eq]

theorem Follows.trans {first second third : ContractDecisionRow} (before : Follows first second)
    (after : Follows second third) : Follows first third := by
  rw [follows_iff] at before after ⊢
  rcases before with same | ⟨accepted, superseded⟩
  · rwa [same]
  · rcases after with again | ⟨other, _⟩
    · exact Or.inr ⟨accepted, again ▸ superseded⟩
    · rw [superseded] at other
      exact absurd other (by decide)

section Consistency

variable {rows : List ContractDecisionRow}

theorem consistent_of_pairwise
    (known : ∀ row ∈ rows, row.decision ∈ ["accepted", "rejected", "superseded"])
    (ordered : rows.Pairwise Follows) : Consistent rows := by
  induction rows with
  | nil => exact Or.inl (by simp)
  | cons row rest ih =>
      obtain ⟨follow, later⟩ := List.pairwise_cons.mp ordered
      have tail := ih (fun other inside => known other (List.mem_cons_of_mem _ inside)) later
      have first := known row List.mem_cons_self
      simp only [List.mem_cons, List.not_mem_nil, or_false] at first
      have same : row.decision ≠ "accepted" → ∀ other ∈ row :: rest,
          other.decision = row.decision := by
        intro plain other inside
        rcases List.mem_cons.mp inside with rfl | inside
        · rfl
        · exact ((follows_iff.mp (follow other inside)).resolve_right fun step => plain step.1).symm
      rcases first with accepted | rejected | superseded
      · refine Or.inr ?_
        rcases tail with rejected | ⟨accepting, superseding, rfl, left, right⟩
        · have empty : rest = [] := by
            refine List.eq_nil_iff_forall_not_mem.mpr fun other inside => ?_
            have step := follows_iff.mp (follow other inside)
            rw [rejected other inside, accepted] at step
            exact absurd step (by decide)
          exact ⟨[row], [], by rw [empty]; rfl, by simpa using accepted, by simp⟩
        · exact ⟨row :: accepting, superseding, rfl, by simpa using ⟨accepted, left⟩, right⟩
      · exact Or.inl fun other inside =>
          (same (by rw [rejected]; decide) other inside).trans rejected
      · exact Or.inr ⟨[], row :: rest, rfl, by simp, fun other inside =>
          (same (by rw [superseded]; decide) other inside).trans superseded⟩

theorem Consistent.pairwise (consistent : Consistent rows) : rows.Pairwise Follows := by
  rcases consistent with rejected | ⟨accepting, superseding, rfl, left, right⟩
  · exact List.pairwise_of_forall_mem_list fun earlier first later second =>
      follows_iff.mpr (Or.inl ((rejected earlier first).trans (rejected later second).symm))
  · refine List.pairwise_append.mpr ⟨?_, ?_, ?_⟩
    · exact List.pairwise_of_forall_mem_list fun earlier first later second =>
        follows_iff.mpr (Or.inl ((left earlier first).trans (left later second).symm))
    · exact List.pairwise_of_forall_mem_list fun earlier first later second =>
        follows_iff.mpr (Or.inl ((right earlier first).trans (right later second).symm))
    · exact fun earlier first later second =>
        follows_iff.mpr (Or.inr ⟨left earlier first, right later second⟩)

/-- A new decision that follows the last one follows all. -/
theorem pairwise_follows_append {new : ContractDecisionRow} (ordered : rows.Pairwise Follows)
    (follows : ∀ last, rows.getLast? = some last → Follows last new) :
    (rows ++ [new]).Pairwise Follows := by
  refine List.pairwise_append.mpr ⟨ordered, List.pairwise_singleton _ _, ?_⟩
  intro earlier inside single member
  rw [List.mem_singleton.mp member]
  obtain ⟨before, last, rfl⟩ :=
    List.eq_nil_or_concat rows |>.resolve_left (List.ne_nil_of_mem inside)
  have final := follows last (by simp)
  rw [List.concat_eq_append] at inside ordered
  rcases List.mem_append.mp inside with early | equal
  · exact ((List.pairwise_append.mp ordered).2.2 earlier early last List.mem_cons_self).trans final
  · rwa [List.mem_singleton.mp equal]

/-- Decisions each of which follows the one before it are replayed. -/
theorem replays_of_pairwise (ordered : rows.Pairwise Follows) (previous : Option String)
    (head : ∀ row, rows.head? = some row → AllowedRow previous row) :
    Replays AllowedRow ContractDecisionRow.decision previous rows := by
  induction rows generalizing previous with
  | nil => trivial
  | cons row rest ih =>
      obtain ⟨follow, later⟩ := List.pairwise_cons.mp ordered
      refine ⟨head row rfl, ih later _ fun next first => ⟨by simp, ?_⟩⟩
      rintro existing ⟨⟩
      exact follow next (List.mem_of_head? first)

/-- Every acceptance is dated before every superseding decision. -/
def AcceptedBefore (rows : List ContractDecisionRow) : Prop :=
  ∀ accepting ∈ rows, accepting.decision = "accepted" →
    ∀ superseding ∈ rows, superseding.decision = "superseded" →
      accepting.decidedAt < superseding.decidedAt

/-- The decisions on one revision: known ones, none contradicts one before it, a superseding
one has an acceptance to supersede, and the dates agree with that. -/
structure Agreeing (rows : List ContractDecisionRow) : Prop where
  known : ∀ row ∈ rows, row.decision ∈ ["accepted", "rejected", "superseded"]
  ordered : rows.Pairwise Follows
  first : ∀ row, rows.head? = some row → row.decision ≠ "superseded"
  dated : AcceptedBefore rows

theorem Agreeing.nil : Agreeing [] := ⟨by simp, .nil, by simp, fun _ inside => by simp at inside⟩

/-- Such decisions are replayed in every order of their times. -/
theorem Agreeing.replays (agreeing : Agreeing rows) {scanned : List ContractDecisionRow}
    (perm : scanned.Perm rows)
    (sorted : scanned.Pairwise fun earlier later => earlier.decidedAt ≤ later.decidedAt) :
    Replays AllowedRow ContractDecisionRow.decision none scanned := by
  have either : scanned.Pairwise fun left right => Follows left right ∨ Follows right left := by
    refine (perm.pairwise_iff fun step => step.symm).mpr ?_
    exact agreeing.ordered.imp fun step => Or.inl step
  -- of two decisions read in the other order, the acceptance would be dated too late
  have ordered : scanned.Pairwise Follows := by
    refine (either.and sorted).imp_of_mem fun first second step => ?_
    obtain ⟨follows | back, below⟩ := step
    · exact follows
    · rw [follows_iff] at back ⊢
      refine Or.inl (back.elim Eq.symm fun ⟨accepted, superseded⟩ => ?_)
      exact absurd below (not_le.mpr (agreeing.dated _ (perm.mem_iff.mp second) accepted _
        (perm.mem_iff.mp first) superseded))
  refine replays_of_pairwise ordered none fun row head => ⟨fun _ superseded => ?_, by simp⟩
  have inside : row ∈ rows := perm.mem_iff.mp (List.mem_of_head? head)
  -- the first decision committed accepts, and cannot be read after this one
  cases rows with
  | nil => simp at inside
  | cons start rest =>
      have plain := agreeing.first start rfl
      have different : start ≠ row := fun same => plain (same ▸ superseded)
      have follow := (List.pairwise_cons.mp agreeing.ordered).1 row
        ((List.mem_cons.mp inside).resolve_left different.symm)
      have accepted : start.decision = "accepted" := by
        rcases follows_iff.mp follow with same | step
        · exact absurd (same.trans superseded) plain
        · exact step.1
      have early := agreeing.dated start List.mem_cons_self accepted row inside superseded
      cases scanned with
      | nil => simp at head
      | cons front back =>
          cases Option.some.inj head
          have member := perm.mem_iff.mpr (List.mem_cons_self (a := start) (l := rest))
          have late := (List.pairwise_cons.mp sorted).1 start
            ((List.mem_cons.mp member).resolve_left different)
          exact absurd late (not_le.mpr early)

end Consistency

/-! ## Calls -/

/-- A call of `decide_contract_revision` that has read and not written yet. -/
structure PendingDecision (platform : Platform) where
  decision : RevisionDecisionRecord platform
  revisionId : String

section Calls

variable {platform : Platform} {environment : RegistryEnvironment}

/-- The date a decision is stored under. -/
def PendingDecision.decidedAt (environment : RegistryEnvironment) (call : PendingDecision platform) :
    Time :=
  environment.instant (call.decision.dump.field "decided_at_utc").asString

/-- What the call reads: the revision, the authority of the decision and the decision dated
latest, by which a new row is due. -/
structure Reads (environment : RegistryEnvironment) (scan : ScanOrder) (tables : RegistryTables)
    (call : PendingDecision platform) (revision : ContractRevisionRow) : Prop where
  human : call.decision.authorityKind ≠ "repository_fixture"
  found : tables.revision? (identityKey call.decision.revisionRef) = some revision
  digest : call.decision.revisionRef.field "digest" = .str revision.digest
  authorized : authorizeDecision environment call.decision none = .ok ()
  fresh : judge (scan.order (tables.decisionsOf revision.id)).getLast?
    call.decision = .fresh
  named : call.revisionId = revision.id

/-- What the call writes, under a new id. -/
def commitDecision (environment : RegistryEnvironment) (call : PendingDecision platform)
    (tables : RegistryTables) : Except RegistryExc (ContractDecisionRow × RegistryTables) :=
  let (id, issued) := tables.newId platform "cdec"
  insertDecision
    (decisionRow environment call.decision id call.revisionId) issued

/-- Calls of `decide_contract_revision` by any number of callers, with saves in between. The
dates of the decisions on a revision do not decrease from commit to commit. -/
def decisionCalls (platform : Platform) (environment : RegistryEnvironment) :
    Calls RegistryTables (PendingDecision platform) where
  reads tables call := ∃ scan revision, Reads environment scan tables call revision
  commits tables call after :=
    (∀ row ∈ tables.decisionsOf call.revisionId,
        row.decidedAt ≤ call.decidedAt environment) ∧
      ∃ row, commitDecision environment call tables = .ok (row, after)
  atomic := RegistrySave platform

/-- The decisions on every revision are consistent, and the registry loads in every order of
equal times. -/
def Loadable (platform : Platform) (environment : RegistryEnvironment) (tables : RegistryTables) :
    Prop :=
  (∀ id, Consistent (tables.decisionsOf id)) ∧
    ∀ scan : ScanOrder, ∃ registry : InMemoryContractRegistry platform,
      tables.contractRegistry platform environment scan none = .ok registry

/-- The decision committed last for the revision does not conflict with the new one, which is
dated after every acceptance if it supersedes the revision. -/
def Compatible (environment : RegistryEnvironment) (tables : RegistryTables)
    (call : PendingDecision platform) : Prop :=
  (∀ last, (tables.decisionsOf call.revisionId).getLast? = some last →
      InMemoryContractRegistry.conflicts last.decision call.decision.decision = false) ∧
    (call.decision.decision = "superseded" → ∀ row ∈ tables.decisionsOf call.revisionId,
      row.decision = "accepted" → row.decidedAt < call.decidedAt environment)

/-- What holds of the committed tables. -/
structure Agreed (platform : Platform) (environment : RegistryEnvironment)
    (tables : RegistryTables) : Prop where
  rows : StoredRegistry platform environment tables
  agreeing : ∀ id, Agreeing (tables.decisionsOf id)

/-- What a call that has read still knows at its commit. -/
structure StillDue (environment : RegistryEnvironment) (tables : RegistryTables)
    (call : PendingDecision platform) : Prop where
  found : ∃ revision, tables.revision? (identityKey call.decision.revisionRef) = some revision ∧
    call.decision.revisionRef.field "digest" = .str revision.digest ∧
      call.revisionId = revision.id
  authorized :
    InMemoryContractRegistry.authorize environment.verifier true call.decision = .ok ()
  first : tables.decisionsOf call.revisionId = [] → call.decision.decision ≠ "superseded"

variable {tables after : RegistryTables} {call other : PendingDecision platform}

/-- A revision is found later under the same id, with the same digest, and keeps its decisions. -/
structure Keeps (before after : RegistryTables) : Prop where
  revision : ∀ key row, before.revision? key = some row →
    ∃ later, after.revision? key = some later ∧ later.id = row.id ∧ later.digest = row.digest
  decisions : ∃ more, after.decisions = before.decisions ++ more

theorem revision?_restatus (revisions : List ContractRevisionRow) (id status : String)
    (key : RevisionKey) :
    Table.find ContractRevisionRow.identity (restatus revisions id status) key =
      (Table.find ContractRevisionRow.identity revisions key).map fun row =>
        if row.id = id then { row with status := status } else row := by
  refine Table.find_map _ _ _ fun row => ?_
  split_ifs
  · rfl
  · rfl

theorem keeps_restatus {id status : String} {row : ContractRevisionRow} {key : RevisionKey}
    (found : tables.revision? key = some row) :
    ∃ later, Table.find ContractRevisionRow.identity (restatus tables.revisions id status) key =
        some later ∧ later.id = row.id ∧ later.digest = row.digest := by
  rw [revision?_restatus, show Table.find _ tables.revisions key = some row from found]
  refine ⟨_, rfl, ?_⟩
  dsimp only
  split_ifs
  · exact ⟨rfl, rfl⟩
  · exact ⟨rfl, rfl⟩

theorem RegistryChange.keeps {count : Nat}
    (change : RegistryChange platform environment tables count after) : Keeps tables after := by
  cases change with
  | none => exact ⟨fun _ row found => ⟨row, found, rfl, rfl⟩, [], by simp⟩
  | saved revision id status now fresh absent next initial =>
      refine ⟨fun key row found => ⟨row, ?_, rfl, rfl⟩, [], by simp⟩
      rw [revision?] at found ⊢
      rw [Table.find_append, found, Option.some_or]
  | proposed row member draft => exact ⟨fun _ _ found => keeps_restatus found, [], by simp⟩
  | decided scan decision revision id found digest authorized fresh unused =>
      exact ⟨fun _ _ found => keeps_restatus found, _, rfl⟩

theorem decisionsOf_keeps (keeps : Keeps tables after) (id : String) :
    ∃ more, after.decisionsOf id = tables.decisionsOf id ++ more := by
  obtain ⟨more, appended⟩ := keeps.decisions
  refine ⟨more.filter fun row => row.contractRevisionId = id, ?_⟩
  rw [decisionsOf, appended, List.filter_append]
  rfl

theorem StillDue.keeps (due : StillDue environment tables call) (keeps : Keeps tables after) :
    StillDue environment after call := by
  obtain ⟨revision, found, digest, named⟩ := due.found
  obtain ⟨later, again, sameId, sameDigest⟩ := keeps.revision _ _ found
  obtain ⟨more, appended⟩ := decisionsOf_keeps keeps call.revisionId
  refine ⟨⟨later, again, by rw [sameDigest, digest], by rw [sameId, named]⟩, due.authorized, ?_⟩
  intro empty
  rw [appended, List.append_eq_nil_iff] at empty
  exact due.first empty.1

theorem stillDue_of_reads {scan : ScanOrder} {revision : ContractRevisionRow}
    (reads : Reads environment scan tables call revision) : StillDue environment tables call := by
  refine ⟨⟨revision, reads.found, reads.digest, reads.named⟩,
    authorize_of_authorizeDecision reads.authorized, fun empty => ?_⟩
  rw [reads.named] at empty
  rcases judge_fresh reads.fresh with ⟨_, plain⟩ | ⟨row, found, _⟩
  · exact plain
  · rw [empty, (scan.perm []).eq_nil] at found
    simp at found

/-! ## Commits -/

section

variable {row : ContractDecisionRow}

theorem commitDecision_ok (done : commitDecision environment call tables = .ok (row, after)) :
    ∃ id count, id ∉ tables.decisions.map ContractDecisionRow.id ∧
      after = { tables with
        revisions := restatus tables.revisions call.revisionId call.decision.decision
        decisions := tables.decisions ++
          [decisionRow environment call.decision id call.revisionId]
        issued := count } := by
  obtain ⟨unused, rfl⟩ := insertDecision_ok done
  exact ⟨_, _, unused, rfl⟩

/-- A commit adds one decision to its revision. -/
theorem decisionsOf_commit (done : commitDecision environment call tables = .ok (row, after)) :
    ∃ new, new.decision = call.decision.decision ∧ new.decidedAt = call.decidedAt environment ∧
      ∀ id, after.decisionsOf id =
        tables.decisionsOf id ++ if call.revisionId = id then [new] else [] := by
  obtain ⟨id, count, _, rfl⟩ := commitDecision_ok done
  exact ⟨decisionRow environment call.decision id call.revisionId, rfl, rfl,
    fun wanted => decisionsOf_append tables _ wanted⟩

theorem keeps_commit (done : commitDecision environment call tables = .ok (row, after)) :
    Keeps tables after := by
  obtain ⟨id, count, _, rfl⟩ := commitDecision_ok done
  exact ⟨fun _ _ found => keeps_restatus found, _, rfl⟩

theorem stored_commit (registry : StoredRegistry platform environment tables)
    (due : StillDue environment tables call)
    (done : commitDecision environment call tables = .ok (row, after)) :
    StoredRegistry platform environment after := by
  obtain ⟨revision, found, digest, named⟩ := due.found
  obtain ⟨id, count, unused, rfl⟩ := commitDecision_ok done
  rw [named]
  exact registry.decided_append found digest due.authorized unused

theorem Agreeing.append {rows : List ContractDecisionRow} (agreeing : Agreeing rows)
    {new : ContractDecisionRow} (known : new.decision ∈ ["accepted", "rejected", "superseded"])
    (first : rows = [] → new.decision ≠ "superseded")
    (follows : ∀ last, rows.getLast? = some last → Follows last new)
    (dated : new.decision = "superseded" → ∀ row ∈ rows, row.decision = "accepted" →
      row.decidedAt < new.decidedAt) : Agreeing (rows ++ [new]) := by
  have ordered := pairwise_follows_append agreeing.ordered follows
  refine ⟨?_, ordered, ?_, ?_⟩
  · intro row inside
    rcases List.mem_append.mp inside with old | last
    · exact agreeing.known row old
    · rwa [List.mem_singleton.mp last]
  · intro row head
    cases rows with
    | nil =>
        cases Option.some.inj head
        exact first rfl
    | cons start rest => exact agreeing.first row head
  · intro accepting inside accepted superseding member superseded
    rcases List.mem_append.mp member with old | last
    · rcases List.mem_append.mp inside with before | new'
      · exact agreeing.dated accepting before accepted superseding old superseded
      · -- nothing accepts after a superseding decision
        have follow := (List.pairwise_append.mp ordered).2.2 superseding old accepting new'
        rw [follows_iff, superseded, accepted] at follow
        exact absurd follow (by decide)
    · rw [List.mem_singleton.mp last] at superseded ⊢
      rcases List.mem_append.mp inside with before | same
      · exact dated superseded accepting before accepted
      · rw [List.mem_singleton.mp same, superseded] at accepted
        exact absurd accepted (by decide)

theorem Agreed.commit (agreed : Agreed platform environment tables)
    (due : StillDue environment tables call) (compatible : Compatible environment tables call)
    (done : commitDecision environment call tables = .ok (row, after)) :
    Agreed platform environment after := by
  refine ⟨stored_commit agreed.rows due done, fun id => ?_⟩
  obtain ⟨new, decision, date, decisions⟩ := decisionsOf_commit done
  rw [decisions]
  split_ifs with same
  · subst same
    refine (agreed.agreeing _).append (decision ▸ decision_mem call.decision) ?_ ?_ ?_
    · exact decision ▸ due.first
    · intro last found
      rw [Follows, decision]
      exact compatible.1 last found
    · rw [decision, date]
      exact compatible.2
  · rw [List.append_nil]
    exact agreed.agreeing id

theorem agreed_preserved :
    Preserved (decisionCalls platform environment) (Compatible environment)
      (Agreed platform environment) (StillDue environment) where
  read := by
    rintro tables call _ ⟨scan, revision, reads⟩
    exact stillDue_of_reads reads
  commit := by
    rintro tables call after agreed due compatible ⟨_, row, done⟩
    exact agreed.commit due compatible done
  commit_planned := by
    rintro tables call after other _ _ _ ⟨_, row, done⟩ due
    exact due.keeps (keeps_commit done)
  atomic := by
    rintro tables _ agreed ⟨revision, status, now, rfl⟩
    obtain ⟨count, change⟩ := saveContractRevision_change revision status now tables
    refine ⟨change.stored agreed.rows, fun id => ?_⟩
    rw [decisionsOf, saveContractRevision_decisions]
    exact agreed.agreeing id
  atomic_planned := by
    rintro tables _ other _ ⟨revision, status, now, rfl⟩ due
    obtain ⟨count, change⟩ : ∃ count, RegistryChange platform environment tables count _ :=
      saveContractRevision_change revision status now tables
    exact due.keeps change.keeps

theorem Agreed.loadable (agreed : Agreed platform environment tables) :
    Loadable platform environment tables := by
  refine ⟨fun id => consistent_of_pairwise (agreed.agreeing id).known (agreed.agreeing id).ordered,
    fun scan => (contractRegistry_all agreed.rows scan).1.mpr fun revision _ => ?_⟩
  exact (agreed.agreeing revision.id).replays (perm_scannedOf scan revision.id)
    (sorted_scannedOf scan revision.id)

theorem agreed_of_saved (saved : RegistrySaved platform tables) :
    Agreed platform environment tables := by
  refine ⟨(invariant_of_reachable (reachable_of_saved saved environment)).toStoredRegistry,
    fun id => ?_⟩
  rw [decisionsOf, decisions_of_saved saved]
  exact .nil

/-- A commit after which the registry loads in every order of equal times was compatible. -/
theorem compatible_of_loadable (agreed : Agreed platform environment tables)
    (due : StillDue environment tables call)
    (done : commitDecision environment call tables = .ok (row, after))
    (loadable : Loadable platform environment after) : Compatible environment tables call := by
  have stored := stored_commit agreed.rows due done
  obtain ⟨new, decision, date, decisions⟩ := decisionsOf_commit done
  have history := decisions call.revisionId
  rw [if_pos rfl] at history
  constructor
  · intro last found
    have ordered := (loadable.1 call.revisionId).pairwise
    rw [history, List.pairwise_append] at ordered
    have follows := ordered.2.2 last (List.mem_of_getLast? found) new List.mem_cons_self
    rwa [Follows, decision] at follows
  · intro superseded accepting inside accepted
    by_contra late
    rw [not_lt, ← date] at late
    -- the scan that returns the superseding decision first is refused
    obtain ⟨registry, loaded⟩ := loadable.2 (.favouring new)
    obtain ⟨revision, found, _, named⟩ := due.found
    obtain ⟨later, again, sameId, _⟩ := (keeps_commit done).revision _ _ found
    have replays := (contractRegistry_all stored (.favouring new)).1.mp ⟨registry, loaded⟩ later
      (Table.find_mem again)
    have differ : accepting ≠ new := by
      rintro rfl
      rw [decision, superseded] at accepted
      exact absurd accepted (by decide)
    have first : new ∈ after.decisionsOf call.revisionId := by simp [history]
    have second : accepting ∈ after.decisionsOf call.revisionId := by simp [history, inside]
    obtain ⟨present, own⟩ := List.mem_filter.mp first
    obtain ⟨present', own'⟩ := List.mem_filter.mp second
    obtain ⟨before, behind, split, member⟩ := ScanOrder.favouring_before differ late present present'
    rw [named, ← sameId] at own own'
    rw [scannedOf, split, List.filter_append, List.filter_cons_of_pos (by exact own)] at replays
    exact not_replays (decision.trans superseded) accepted (List.mem_filter.mpr ⟨member, own'⟩) none
      replays

end

end Calls

/-! ## Two callers -/

namespace Sample

def rejectedAtFive : RevisionDecisionRecord Contracts.Sample.platform :=
  ⟨goalDecisionDump "rejected" "2026-01-01T00:00:05Z", by decide +kernel⟩

def proposedRow : ContractRevisionRow :=
  revisionRow firstGoal "crev_1" "proposed" 0

def proposedGoal : RegistryTables := { twoProjects with revisions := [proposedRow], issued := 2 }

def rejecting : PendingDecision Contracts.Sample.platform := ⟨rejectedAtFive, "crev_1"⟩

def accepting : PendingDecision Contracts.Sample.platform := ⟨acceptedAtTen, "crev_1"⟩

def committing (call : PendingDecision Contracts.Sample.platform) (tables : RegistryTables) :
    RegistryTables :=
  match commitDecision verifying call tables with
  | .ok (_, after) => after
  | .error _ => tables

theorem commits_committing {call : PendingDecision Contracts.Sample.platform}
    {tables : RegistryTables} (inserted : (commitDecision verifying call tables).isOk = true)
    (later : ∀ row ∈ tables.decisionsOf call.revisionId, row.decidedAt ≤ call.decidedAt verifying) :
    (decisionCalls Contracts.Sample.platform verifying).commits tables call
      (committing call tables) := by
  refine ⟨later, ?_⟩
  unfold committing
  cases done : commitDecision verifying call tables with
  | error exception =>
      rw [done] at inserted
      cases inserted
  | ok result => exact ⟨result.1, rfl⟩

theorem saved_proposedGoal : RegistrySaved Contracts.Sample.platform proposedGoal :=
  ⟨twoProjects, ⟨rfl, rfl⟩, .single ⟨firstGoal, "proposed", 0, rfl⟩⟩

theorem reads_rejecting : Reads verifying .stable proposedGoal rejecting proposedRow where
  human := by decide +kernel
  found := by decide +kernel
  digest := by decide +kernel
  authorized := by decide +kernel
  fresh := by decide +kernel
  named := by decide +kernel

theorem reads_accepting : Reads verifying .stable proposedGoal accepting proposedRow where
  human := by decide +kernel
  found := by decide +kernel
  digest := by decide +kernel
  authorized := by decide +kernel
  fresh := by decide +kernel
  named := by decide +kernel

theorem reads_both {call : PendingDecision Contracts.Sample.platform}
    (either : call = rejecting ∨ call = accepting) :
    (decisionCalls Contracts.Sample.platform verifying).reads proposedGoal call := by
  rcases either with rfl | rfl
  · exact ⟨_, _, reads_rejecting⟩
  · exact ⟨_, _, reads_accepting⟩

/-- The goal is rejected, and then accepted by a caller that had read before. -/
def contradictedGoal : RegistryTables := committing accepting (committing rejecting proposedGoal)

end Sample

open Sample

end Evidrun.Database
