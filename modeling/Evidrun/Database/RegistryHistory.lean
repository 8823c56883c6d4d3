import Evidrun.Database.Registry
import Evidrun.Lib.KeyedReplay
import Evidrun.Lib.Aligned
import Evidrun.Contracts.StudyDigest
import Mathlib.Logic.Relation

/-!
# Histories of the registry store

What holds of the registry tables after any sequence of saves, decisions and legacy
imports, and what the registry rebuilt from them then is.

The numbers of a kind and logical id are complete over all Projects, so that the
registry of a single Project can be rebuilt only if the Project owns a whole
beginning of each of its lines. The decisions are replayed in the order of their
times, and a revision that was superseded by an earlier dated decision cannot be
replayed.
-/

namespace Evidrun.Database

open JsonText DocumentSchema Evidrun.Contracts
open RegistryTables InMemoryContractRegistry

set_option autoImplicit false

variable {platform : Platform} {environment : RegistryEnvironment}

/-! ## Steps -/

/-- One committed transaction, or a refused one. A legacy import is a sequence of saves
and of acceptances of its revisions. -/
inductive RegistryStep (platform : Platform) (environment : RegistryEnvironment) :
    RegistryTables → RegistryTables → Prop
  | save (tables : RegistryTables) (revision : Revision platform) (status : String) (now : Time) :
      RegistryStep platform environment tables
        (tables.saveContractRevision revision status now).tables
  | decide (tables : RegistryTables) (scan : ScanOrder)
      (decision : RevisionDecisionRecord platform) :
      RegistryStep platform environment tables
        (tables.decideContractRevision environment scan decision).tables
  | accept (tables : RegistryTables) (scan : ScanOrder)
      (package : RegistryTables.LegacyStudyPackage platform) (now : Time)
      {decisions : List (RevisionDecisionRecord platform)}
      (built : package.acceptanceDecisions environment now = .ok decisions)
      {decision : RevisionDecisionRecord platform} (member : decision ∈ decisions)
      {row : ContractDecisionRow} {after : RegistryTables}
      (persisted : tables.persistContractDecision environment scan decision
        (some package.fixtureDigest) = .ok (row, after)) :
      RegistryStep platform environment tables after

/-- Tables without a revision. -/
def RegistryTables.Initial (tables : RegistryTables) : Prop :=
  tables.revisions = [] ∧ tables.decisions = []

def RegistryReachable (platform : Platform) (environment : RegistryEnvironment)
    (tables : RegistryTables) : Prop :=
  ∃ start : RegistryTables, start.Initial ∧
    Relation.ReflTransGen (RegistryStep platform environment) start tables

section Import

variable {tables : RegistryTables}

theorem saveAll_run (now : Time) (revisions : List (Revision platform)) :
    Relation.ReflTransGen (RegistryStep platform environment) tables
      (saveAll now revisions tables).tables := by
  induction revisions generalizing tables with
  | nil => exact .refl
  | cons revision rest ih =>
      have first : RegistryStep platform environment tables _ := .save tables revision "draft" now
      simp only [saveAll]
      split
      · exact .head first ih
      · exact .single first

theorem persistAll_run (scan : ScanOrder) (package : RegistryTables.LegacyStudyPackage platform)
    (now : Time) {all : List (RevisionDecisionRecord platform)}
    (built : package.acceptanceDecisions environment now = .ok all)
    {decisions : List (RevisionDecisionRecord platform)}
    (inside : ∀ decision ∈ decisions, decision ∈ all) :
    Relation.ReflTransGen (RegistryStep platform environment) tables
      (persistAll environment scan package.fixtureDigest decisions tables).tables := by
  induction decisions generalizing tables with
  | nil => exact .refl
  | cons decision rest ih =>
      simp only [persistAll]
      split
      next row after persisted =>
        exact .head (.accept tables scan package now built (inside decision List.mem_cons_self)
            persisted)
          (ih fun other member => inside other (List.mem_cons_of_mem _ member))
      · exact .refl

/-- An import is a run of saves and acceptances, also when it stops halfway. -/
theorem importLegacyContractPackage_run (scan : ScanOrder)
    (package : RegistryTables.LegacyStudyPackage platform) (now : Time) :
    Relation.ReflTransGen (RegistryStep platform environment) tables
      (importLegacyContractPackage environment scan package now tables).tables := by
  unfold importLegacyContractPackage
  split
  · exact .refl
  next decisions built =>
    split_ifs
    · dsimp only
      split
      · exact (saveAll_run now package.revisions).trans
          (persistAll_run scan package now built fun _ member => member)
      · exact saveAll_run now package.revisions
    · exact .refl

end Import

/-! ## What a step changes -/

inductive RegistryChange (platform : Platform) (environment : RegistryEnvironment)
    (tables : RegistryTables) (count : Nat) : RegistryTables → Prop
  | none : RegistryChange platform environment tables count { tables with issued := count }
  | saved (revision : Revision platform) (id status : String) (now : Time)
      (fresh : id ∉ tables.revisions.map ContractRevisionRow.id)
      (absent : tables.revision? revision.identity = none)
      (next : revision.number = latestNumber
        (tables.numbers revision.kind revision.logicalId) + 1)
      (initial : status ∈ ["draft", "proposed"]) :
      RegistryChange platform environment tables count
        { tables with
          revisions := tables.revisions ++ [revisionRow revision id status now]
          issued := count }
  | proposed (row : ContractRevisionRow) (member : row ∈ tables.revisions)
      (draft : row.status = "draft") :
      RegistryChange platform environment tables count
        { tables with
          revisions := Table.modify ContractRevisionRow.id tables.revisions row.id
            fun stored => { stored with status := "proposed" }
          issued := count }
  | decided (scan : ScanOrder) (decision : RevisionDecisionRecord platform)
      (revision : ContractRevisionRow) (id : String)
      (found : tables.revision? (identityKey decision.revisionRef) = some revision)
      (digest : decision.revisionRef.field "digest" = .str revision.digest)
      (authorized : authorize environment.verifier true decision = .ok ())
      (fresh : judge (scan.order (tables.decisionsOf revision.id)).getLast? decision =
        .fresh)
      (unused : id ∉ tables.decisions.map ContractDecisionRow.id) :
      RegistryChange platform environment tables count
        { tables with
          revisions := Table.modify ContractRevisionRow.id tables.revisions revision.id
            fun stored => { stored with status := decision.decision }
          decisions := tables.decisions ++
            [decisionRow environment decision id revision.id]
          issued := count }

theorem RegistryChange.of_issued {tables after : RegistryTables} {before count : Nat}
    (change : RegistryChange platform environment { tables with issued := before } count after) :
    RegistryChange platform environment tables count after := by
  cases change with
  | none => exact .none
  | saved revision id status now fresh absent next initial =>
      exact .saved revision id status now fresh absent next initial
  | proposed row member draft => exact .proposed row member draft
  | decided scan decision revision id found digest authorized fresh unused =>
      exact .decided scan decision revision id found digest authorized fresh unused

namespace RegistryTables

section

variable {result : ContractRevisionRow} {tables after : RegistryTables}

theorem insertRevision_ok {row : ContractRevisionRow}
    (done : insertRevision row tables = .ok (result, after)) :
    row.id ∉ tables.revisions.map ContractRevisionRow.id ∧
      after = { tables with revisions := tables.revisions ++ [row] } := by
  unfold insertRevision at done
  split_ifs at done with missing taken
  cases done
  exact ⟨taken, rfl⟩

theorem resolveExistingRevision_change {existing : ContractRevisionRow}
    {revision : Revision platform} {status : String} (member : existing ∈ tables.revisions)
    (done : resolveExistingRevision existing revision status tables = .ok (result, after)) :
    ∃ count, RegistryChange platform environment tables count after := by
  unfold resolveExistingRevision at done
  split_ifs at done with differs draft
  · cases done
    exact ⟨tables.issued, .proposed existing member draft.1⟩
  · cases done
    exact ⟨tables.issued, .none⟩

theorem saveBody_change {revision : Revision platform} {status : String} {now : Time}
    (initial : status ∈ ["draft", "proposed"])
    (done : saveBody revision status now tables = .ok (result, after)) :
    ∃ count, RegistryChange platform environment tables count after := by
  unfold saveBody at done
  split at done
  next existing found => exact resolveExistingRevision_change (Table.find_mem found) done
  next absent =>
    simp only [newId, ne_eq, ite_not] at done
    split_ifs at done with next
    obtain ⟨fresh, rfl⟩ := insertRevision_ok done
    exact ⟨_, .saved revision _ status now fresh absent next initial⟩

theorem saveContractRevision_change (revision : Revision platform) (status : String) (now : Time)
    (tables : RegistryTables) :
    ∃ count, RegistryChange platform environment tables count
      (tables.saveContractRevision revision status now).tables := by
  simp only [saveContractRevision, newId, ite_not]
  split_ifs with initial
  · split
    next row after done =>
      have change : ∃ count, RegistryChange platform environment _ count after :=
        saveBody_change initial done
      exact change.imp fun count => .of_issued
    · exact ⟨_, .none⟩
  · exact ⟨_, .none⟩

/-- What the store accepts, the registry accepts from it. -/
theorem authorize_of_authorizeDecision {decision : RevisionDecisionRecord platform}
    {fixtureDigest : Option String}
    (authorized : authorizeDecision environment decision fixtureDigest = .ok ()) :
    authorize environment.verifier true decision = .ok () := by
  unfold authorizeDecision at authorized
  unfold authorize
  split_ifs at authorized ⊢ with human
  · split at authorized
    next verified => simp [verified]
    · cases authorized
    · cases authorized
  · rfl

theorem insertDecision_ok {row result : ContractDecisionRow}
    (done : insertDecision row tables = .ok (result, after)) :
    row.id ∉ tables.decisions.map ContractDecisionRow.id ∧
      after = { tables with
        revisions := Table.modify ContractRevisionRow.id tables.revisions row.contractRevisionId
          fun revision => { revision with status := row.decision }
        decisions := tables.decisions ++ [row] } := by
  unfold insertDecision at done
  split_ifs at done with taken
  cases done
  exact ⟨taken, rfl⟩

theorem persistContractDecision_change {scan : ScanOrder}
    {decision : RevisionDecisionRecord platform} {fixtureDigest : Option String}
    {result : ContractDecisionRow}
    (done : tables.persistContractDecision environment scan decision fixtureDigest =
      .ok (result, after)) : ∃ count, RegistryChange platform environment tables count after := by
  unfold persistContractDecision at done
  split at done
  · cases done
  next revision found =>
    split_ifs at done with digest
    cases authorized : authorizeDecision environment decision fixtureDigest with
    | error exception =>
        rw [authorized] at done
        cases done
    | ok _ =>
        rw [authorized] at done
        simp only [bind, Except.bind] at done
        cases verdict : judge (scan.order (tables.decisionsOf revision.id)).getLast? decision with
        | conflict =>
            rw [verdict] at done
            cases done
        | known =>
            cases previous : (scan.order (tables.decisionsOf revision.id)).getLast? with
            | none =>
                rw [previous, judge] at verdict
                split_ifs at verdict
            | some row =>
                rw [verdict, previous] at done
                cases done
                exact ⟨tables.issued, .none⟩
        | fresh =>
            rw [verdict] at done
            obtain ⟨unused, rfl⟩ := insertDecision_ok done
            exact ⟨_, .decided scan decision revision _ found (not_not.mp digest).symm
              (authorize_of_authorizeDecision authorized) verdict unused⟩

end

end RegistryTables

theorem RegistryStep.change {tables after : RegistryTables}
    (step : RegistryStep platform environment tables after) :
    ∃ count, RegistryChange platform environment tables count after := by
  cases step with
  | save revision status now =>
      exact saveContractRevision_change revision status now tables
  | decide scan decision =>
      unfold decideContractRevision
      split_ifs
      · exact ⟨tables.issued, .none⟩
      · split
        next done => exact persistContractDecision_change done
        · exact ⟨tables.issued, .none⟩
  | accept scan package now built member persisted =>
      exact persistContractDecision_change persisted

/-! ## Stored rows -/

/-- A row that holds a revision. -/
def StoredRevision (platform : Platform) (row : ContractRevisionRow) : Prop :=
  ∃ revision : Revision platform,
    row = revisionRow revision row.id row.status row.createdAt

/-- A row that holds a decision on a stored revision, which its authority covers. -/
def StoredDecision (platform : Platform) (environment : RegistryEnvironment)
    (revisions : List ContractRevisionRow) (row : ContractDecisionRow) : Prop :=
  ∃ (revision : ContractRevisionRow) (decision : RevisionDecisionRecord platform),
    revision ∈ revisions ∧
      row = decisionRow environment decision row.id revision.id ∧
      identityKey decision.revisionRef = revision.identity ∧
      decision.revisionRef.field "digest" = .str revision.digest ∧
      authorize environment.verifier true decision = .ok ()

/-- The decisions on one revision, in the order they were persisted. -/
structure DecisionHistory (rows : List ContractDecisionRow) : Prop where
  known : ∀ row ∈ rows, row.decision ∈ ["accepted", "rejected", "superseded"]
  first : ∀ row, rows.head? = some row → row.decision ≠ "superseded"
  /-- A rejection is the only decision. -/
  rejected : ∀ row ∈ rows, row.decision = "rejected" → rows = [row]
  /-- Nothing is persisted after a decision that is dated later than all before it and
  supersedes the revision. -/
  settled : ∀ earlier row later, rows = earlier ++ row :: later → row.decision = "superseded" →
    (∀ other ∈ earlier, other.decidedAt < row.decidedAt) → later = []

/-- The stored rows hold what they were written from, under the keys the registry looks for. -/
structure StoredRegistry (platform : Platform) (environment : RegistryEnvironment)
    (tables : RegistryTables) : Prop where
  stored : ∀ row ∈ tables.revisions, StoredRevision platform row
  ids : (tables.revisions.map ContractRevisionRow.id).Nodup
  identities : (tables.revisions.map ContractRevisionRow.identity).Nodup
  /-- The numbers of a kind and logical id start at 1 and have no gap. -/
  lines : ∀ row ∈ tables.revisions, 1 ≤ row.revision ∧
    ∀ number, 1 ≤ number → number < row.revision → ∃ other ∈ tables.revisions,
      other.contractType = row.contractType ∧ other.logicalId = row.logicalId ∧
        other.revision = number
  decided : ∀ row ∈ tables.decisions, StoredDecision platform environment tables.revisions row
  decisionIds : (tables.decisions.map ContractDecisionRow.id).Nodup

structure RegistryInvariant (platform : Platform) (environment : RegistryEnvironment)
    (tables : RegistryTables) : Prop extends StoredRegistry platform environment tables where
  histories : ∀ id, DecisionHistory (tables.decisionsOf id)
  status : ∀ row ∈ tables.revisions, ∀ last, (tables.decisionsOf row.id).getLast? = some last →
    row.status = last.decision
  undecided : ∀ row ∈ tables.revisions, tables.decisionsOf row.id = [] →
    row.status ∈ ["draft", "proposed"]

theorem DecisionHistory.nil : DecisionHistory [] where
  known := by simp
  first := by simp
  rejected := by simp
  settled := by simp

theorem invariant_of_initial {tables : RegistryTables} (initial : tables.Initial) :
    RegistryInvariant platform environment tables where
  stored := by simp [initial.1]
  ids := by simp [initial.1]
  identities := by simp [initial.1]
  lines := by simp [initial.1]
  decided := by simp [initial.2]
  decisionIds := by simp [initial.2]
  histories := fun id => by
    simp only [decisionsOf, initial.2, List.filter_nil]
    exact .nil
  status := by simp [initial.1]
  undecided := by simp [initial.1]

/-! ## Saving keeps the invariant -/

section Saving

variable {tables : RegistryTables}

section

variable {revision : Revision platform}

/-- The numbers before the next one are stored. -/
theorem line_of_next (registry : StoredRegistry platform environment tables)
    (next : revision.number = latestNumber
      (tables.numbers revision.kind revision.logicalId) + 1) {number : Int} (positive : 1 ≤ number)
    (below : number < revision.number) :
    ∃ other ∈ tables.revisions, other.contractType = revision.kind ∧
      other.logicalId = revision.logicalId ∧ other.revision = number := by
  obtain ⟨_, _, attained⟩ := latestNumber_spec
    (tables.numbers revision.kind revision.logicalId)
  rcases attained with none | inside
  · omega
  · obtain ⟨latest, stored, same⟩ := List.mem_map.mp inside
    obtain ⟨member, line⟩ := List.mem_filter.mp stored
    simp only [Bool.and_eq_true, decide_eq_true_eq] at line
    rcases eq_or_lt_of_le (show number ≤ latest.revision by omega) with exact | lower
    · exact ⟨latest, member, line.1, line.2, exact.symm⟩
    · obtain ⟨other, found, kind, logicalId, revision⟩ :=
        (registry.lines latest member).2 number positive lower
      exact ⟨other, found, kind.trans line.1, logicalId.trans line.2, revision⟩

theorem StoredRegistry.saved (registry : StoredRegistry platform environment tables) {count : Nat}
    {id status : String} {now : Time} (fresh : id ∉ tables.revisions.map ContractRevisionRow.id)
    (absent : tables.revision? revision.identity = none)
    (next : revision.number = latestNumber
      (tables.numbers revision.kind revision.logicalId) + 1) :
    StoredRegistry platform environment
      { tables with
        revisions := tables.revisions ++ [revisionRow revision id status now]
        issued := count } where
  stored := by
    intro row member
    rcases List.mem_append.mp member with old | new
    · exact registry.stored row old
    · rw [List.mem_singleton.mp new]
      exact ⟨revision, rfl⟩
  ids := by
    rw [List.map_append, List.nodup_append]
    refine ⟨registry.ids, by simp, ?_⟩
    intro other member second single
    rw [List.map_singleton, List.mem_singleton] at single
    rintro rfl
    rw [single] at member
    exact fresh member
  identities := by
    rw [List.map_append, List.nodup_append]
    refine ⟨registry.identities, by simp, ?_⟩
    intro other member second single
    rw [List.map_singleton, List.mem_singleton] at single
    rintro rfl
    obtain ⟨row, inside, rfl⟩ := List.mem_map.mp member
    exact Table.find_eq_none.mp absent row inside single
  lines := by
    intro row member
    rcases List.mem_append.mp member with old | new
    · refine ⟨(registry.lines row old).1, fun number positive below => ?_⟩
      obtain ⟨other, inside, rest⟩ := (registry.lines row old).2 number positive below
      exact ⟨other, List.mem_append_left _ inside, rest⟩
    · rw [List.mem_singleton.mp new]
      refine ⟨revision.number_pos, fun number positive below => ?_⟩
      obtain ⟨other, inside, rest⟩ := line_of_next registry next positive below
      exact ⟨other, List.mem_append_left _ inside, rest⟩
  decided := fun row member => by
    obtain ⟨stored, decision, inside, rest⟩ := registry.decided row member
    exact ⟨stored, decision, List.mem_append_left _ inside, rest⟩
  decisionIds := registry.decisionIds

theorem invariant_saved (invariant : RegistryInvariant platform environment tables) {count : Nat}
    {id status : String} {now : Time} (fresh : id ∉ tables.revisions.map ContractRevisionRow.id)
    (absent : tables.revision? revision.identity = none)
    (next : revision.number = latestNumber
      (tables.numbers revision.kind revision.logicalId) + 1)
    (initial : status ∈ ["draft", "proposed"]) :
    RegistryInvariant platform environment
      { tables with
        revisions := tables.revisions ++ [revisionRow revision id status now]
        issued := count } where
  toStoredRegistry := invariant.toStoredRegistry.saved fresh absent next
  histories := invariant.histories
  status := by
    intro row member last found
    rcases List.mem_append.mp member with old | new
    · exact invariant.status row old last found
    · -- no decision names a row that did not exist
      rw [List.mem_singleton.mp new] at found
      obtain ⟨decided, named⟩ := List.mem_filter.mp (List.mem_of_getLast? found)
      obtain ⟨stored, decision, inside, shape, _⟩ := invariant.decided last decided
      refine absurd (List.mem_map.mpr ⟨stored, inside, ?_⟩) fresh
      rw [shape] at named
      exact of_decide_eq_true named
  undecided := by
    intro row member none
    rcases List.mem_append.mp member with old | new
    · exact invariant.undecided row old none
    · rw [List.mem_singleton.mp new]
      exact initial

end

end Saving

/-! ## Changing the status of a revision -/

def restatus (revisions : List ContractRevisionRow) (id status : String) :
    List ContractRevisionRow :=
  Table.modify ContractRevisionRow.id revisions id fun row => { row with status := status }

section Restatus

variable {revisions : List ContractRevisionRow} {id status : String}

theorem mem_restatus {row : ContractRevisionRow} (member : row ∈ restatus revisions id status) :
    ∃ old ∈ revisions, row = { old with status := row.status } ∧
      row.status = if old.id = id then status else old.status := by
  obtain ⟨old, inside, same⟩ := List.mem_map.mp member
  refine ⟨old, inside, ?_⟩
  split_ifs at same ⊢ <;> subst same <;> exact ⟨rfl, rfl⟩

theorem exists_restatus {row : ContractRevisionRow} (member : row ∈ revisions) (id status : String) :
    ∃ again, { row with status := again } ∈ restatus revisions id status := by
  by_cases same : row.id = id
  · exact ⟨status, List.mem_map.mpr ⟨row, member, by simp [same]⟩⟩
  · exact ⟨row.status, List.mem_map.mpr ⟨row, member, by simp [same]⟩⟩

theorem map_restatus {View : Type} (view : ContractRevisionRow → View)
    (blind : ∀ row status, view { row with status := status } = view row) :
    (restatus revisions id status).map view = revisions.map view := by
  simp only [restatus, Table.modify, List.map_map]
  refine List.map_congr_left fun row _ => ?_
  simp only [Function.comp_apply]
  split_ifs
  · exact blind row status
  · rfl

end Restatus

section

variable {row : ContractRevisionRow} {tables : RegistryTables} {id : String} {count : Nat}
  {decision : RevisionDecisionRecord platform}

theorem storedRevision_restatus (stored : StoredRevision platform row) (status : String) :
    StoredRevision platform { row with status := status } := by
  obtain ⟨revision, shape⟩ := stored
  refine ⟨revision, ?_⟩
  rw [shape]
  rfl

theorem storedDecision_restatus {revisions : List ContractRevisionRow} {row : ContractDecisionRow}
    (stored : StoredDecision platform environment revisions row) (id status : String) :
    StoredDecision platform environment (restatus revisions id status) row := by
  obtain ⟨revision, decision, inside, shape, rest⟩ := stored
  obtain ⟨again, member⟩ := exists_restatus inside id status
  exact ⟨_, decision, member, shape, rest⟩

/-- What the invariant says of the revisions does not depend on their status. -/
theorem lines_restatus (registry : StoredRegistry platform environment tables) {status : String} :
    ∀ row ∈ restatus tables.revisions id status, 1 ≤ row.revision ∧
      ∀ number, 1 ≤ number → number < row.revision →
        ∃ other ∈ restatus tables.revisions id status,
          other.contractType = row.contractType ∧ other.logicalId = row.logicalId ∧
            other.revision = number := by
  intro row member
  obtain ⟨old, inside, shape, _⟩ := mem_restatus member
  obtain ⟨positive, complete⟩ := registry.lines old inside
  rw [shape]
  refine ⟨positive, fun number first below => ?_⟩
  obtain ⟨other, found, rest⟩ := complete number first below
  obtain ⟨again, kept⟩ := exists_restatus found id status
  exact ⟨_, kept, rest⟩

theorem StoredRegistry.restatus (registry : StoredRegistry platform environment tables)
    (id status : String) (count : Nat) :
    StoredRegistry platform environment
      { tables with revisions := restatus tables.revisions id status, issued := count } where
  stored := by
    intro other inside
    obtain ⟨old, found, shape, _⟩ := mem_restatus inside
    rw [shape]
    exact storedRevision_restatus (registry.stored old found) _
  ids := by
    rw [map_restatus _ fun _ _ => rfl]
    exact registry.ids
  identities := by
    rw [map_restatus _ fun _ _ => rfl]
    exact registry.identities
  lines := lines_restatus registry
  decided := fun decided inside => storedDecision_restatus (registry.decided decided inside) _ _
  decisionIds := registry.decisionIds

theorem invariant_proposed (invariant : RegistryInvariant platform environment tables)
    (member : row ∈ tables.revisions) (draft : row.status = "draft") :
    RegistryInvariant platform environment
      { tables with
        revisions := restatus tables.revisions row.id "proposed"
        issued := count } where
  toStoredRegistry := invariant.toStoredRegistry.restatus row.id "proposed" count
  histories := invariant.histories
  status := by
    intro other inside last found
    obtain ⟨old, stored, shape, status⟩ := mem_restatus inside
    have before : old.status = last.decision := by
      refine invariant.status old stored last ?_
      rw [shape] at found
      exact found
    by_cases same : old.id = row.id
    · -- a draft has no decision
      have equal : old = row := List.inj_on_of_nodup_map invariant.ids stored member same
      rw [equal, draft] at before
      have known := (invariant.histories other.id).known last (List.mem_of_getLast? found)
      rw [← before] at known
      simp at known
    · rw [status, if_neg same, before]
  undecided := by
    intro other inside none
    obtain ⟨old, stored, shape, status⟩ := mem_restatus inside
    rw [status]
    split_ifs
    · simp
    · rw [shape] at none
      exact invariant.undecided old stored none

/-! ## Deciding keeps the invariant -/

theorem decision_mem (record : RevisionDecisionRecord platform) :
    record.decision ∈ ["accepted", "rejected", "superseded"] := by
  have held := field_source (wellFormed_revisionDecisionRecord platform.coercion platform)
    record.valid (show required "decision" (literal ["accepted", "rejected", "superseded"]) ∈
      revisionDecisionRecordFields by simp [revisionDecisionRecordFields])
  have stable := (held.resolve_left (by simp)).2.2
  rw [RevisionDecisionRecord.decision]
  generalize record.dump.field "decision" = value at stable
  cases value with
  | str text =>
      simp only [literal, validate, Scalar.parse] at stable
      split_ifs at stable with inside
      exact inside
  | _ => simp [literal, validate, Scalar.parse] at stable

/-- A decision is written when it is the first one, or when the latest one accepted. -/
theorem judge_fresh {previous : Option ContractDecisionRow}
    (fresh : judge previous decision = .fresh) :
    (previous = none ∧ decision.decision ≠ "superseded") ∨
      ∃ row, previous = some row ∧ row.decision = "accepted" ∧ decision.decision ≠ "rejected" := by
  cases previous with
  | none =>
      rw [judge] at fresh
      split_ifs at fresh with superseded
      exact Or.inl ⟨rfl, superseded⟩
  | some row =>
      refine Or.inr ⟨row, rfl, ?_⟩
      rw [judge] at fresh
      split_ifs at fresh with differs change again
      · exact ⟨change.1, by rw [change.2]; decide⟩
      · have same := not_not.mp differs
        rw [same, again.2.2]
        exact ⟨rfl, by decide⟩

/-- The last row of a scan has the latest time. -/
theorem ScanOrder.latest (scan : ScanOrder) {rows : List ContractDecisionRow}
    {last : ContractDecisionRow} (found : (scan.order rows).getLast? = some last) :
    last ∈ rows ∧ ∀ row ∈ rows, row.decidedAt ≤ last.decidedAt := by
  have member := List.mem_of_getLast? found
  refine ⟨(scan.perm rows).mem_iff.mp member, fun row inside => ?_⟩
  obtain ⟨earlier, shape⟩ := List.getLast?_eq_some_iff.mp found
  have sorted := scan.sorted rows
  have scanned := (scan.perm rows).mem_iff.mpr inside
  rw [shape] at sorted scanned
  rcases List.mem_append.mp scanned with before | final
  · exact (List.pairwise_append.mp sorted).2.2 row before last List.mem_cons_self
  · rw [List.mem_singleton.mp final]

theorem DecisionHistory.append {rows : List ContractDecisionRow} (history : DecisionHistory rows)
    {scan : ScanOrder} {new : ContractDecisionRow}
    (fresh : judge (scan.order rows).getLast? decision = .fresh)
    (same : new.decision = decision.decision) : DecisionHistory (rows ++ [new]) := by
  have known : ∀ row ∈ rows ++ [new], row.decision ∈ ["accepted", "rejected", "superseded"] := by
    intro row member
    rcases List.mem_append.mp member with old | last
    · exact history.known row old
    · rw [List.mem_singleton.mp last, same]
      exact decision_mem decision
  rcases judge_fresh fresh with ⟨none, first⟩ | ⟨latest, found, accepted, kept⟩
  · have empty : rows = [] := by
      have := (scan.perm rows).length_eq
      rw [List.getLast?_eq_none_iff.mp none] at this
      exact List.length_eq_zero_iff.mp this.symm
    subst empty
    refine ⟨known, ?_, ?_, ?_⟩
    · rintro row ⟨⟩
      rw [same]
      exact first
    · intro row member _
      rw [List.mem_singleton.mp member]
      rfl
    · intro earlier row later split _ _
      rcases List.append_eq_cons_iff.mp split.symm with ⟨_, tail⟩ | ⟨rest, _, tail⟩
      · exact (List.cons.inj tail).2
      · simp at tail
  · obtain ⟨inside, maximal⟩ := scan.latest found
    refine ⟨known, ?_, ?_, ?_⟩
    · intro row head
      cases rows with
      | nil => simp at inside
      | cons start rest => exact history.first row head
    · intro row member rejected
      rcases List.mem_append.mp member with old | last
      · have alone := history.rejected row old rejected
        rw [alone] at inside
        rw [List.mem_singleton.mp inside, rejected] at accepted
        exact absurd accepted (by decide)
      · rw [List.mem_singleton.mp last, same] at rejected
        exact absurd rejected kept
    · intro earlier row later split superseded strict
      rcases List.eq_nil_or_concat later with rfl | ⟨later, final, rfl⟩
      · rfl
      · -- the superseding row is dated last, so it is the one the new decision was judged by
        have before : rows = earlier ++ row :: later := by
          rw [List.concat_eq_append, ← List.cons_append, ← List.append_assoc] at split
          exact (List.append_inj' split rfl).1
        have last := history.settled earlier row later before superseded strict
        rw [before, last] at inside maximal
        rcases List.mem_append.mp inside with less | equal
        · exact absurd (maximal row (by simp)) (not_le.mpr (strict latest less))
        · rw [List.mem_singleton.mp equal, superseded] at accepted
          exact absurd accepted (by decide)

theorem decisionsOf_append (tables : RegistryTables) (row : ContractDecisionRow) (id : String) :
    decisionsOf { tables with decisions := tables.decisions ++ [row] } id =
      tables.decisionsOf id ++ if row.contractRevisionId = id then [row] else [] := by
  simp only [decisionsOf, List.filter_append, List.filter_singleton]
  split_ifs with same <;> simp_all

theorem StoredRegistry.decided_append (registry : StoredRegistry platform environment tables)
    {revision : ContractRevisionRow}
    (found : tables.revision? (identityKey decision.revisionRef) = some revision)
    (digest : decision.revisionRef.field "digest" = .str revision.digest)
    (authorized : authorize environment.verifier true decision = .ok ())
    (unused : id ∉ tables.decisions.map ContractDecisionRow.id) :
    StoredRegistry platform environment
      { tables with
        revisions := Evidrun.Database.restatus tables.revisions revision.id decision.decision
        decisions := tables.decisions ++
          [decisionRow environment decision id revision.id]
        issued := count } where
  stored := (registry.restatus revision.id decision.decision count).stored
  ids := (registry.restatus revision.id decision.decision count).ids
  identities := (registry.restatus revision.id decision.decision count).identities
  lines := lines_restatus registry
  decided := by
    intro row member
    refine storedDecision_restatus ?_ _ _
    rcases List.mem_append.mp member with old | new
    · exact registry.decided row old
    · rw [List.mem_singleton.mp new]
      exact ⟨revision, decision, Table.find_mem found, rfl, (Table.find_key found).symm, digest,
        authorized⟩
  decisionIds := by
    rw [List.map_append, List.nodup_append]
    refine ⟨registry.decisionIds, by simp, ?_⟩
    intro other member second single
    rw [List.map_singleton, List.mem_singleton] at single
    rintro rfl
    rw [single] at member
    exact unused member

theorem invariant_decided (invariant : RegistryInvariant platform environment tables)
    {scan : ScanOrder} {revision : ContractRevisionRow}
    (found : tables.revision? (identityKey decision.revisionRef) = some revision)
    (digest : decision.revisionRef.field "digest" = .str revision.digest)
    (authorized : authorize environment.verifier true decision = .ok ())
    (fresh : judge (scan.order (tables.decisionsOf revision.id)).getLast? decision =
      .fresh) (unused : id ∉ tables.decisions.map ContractDecisionRow.id) :
    RegistryInvariant platform environment
      { tables with
        revisions := restatus tables.revisions revision.id decision.decision
        decisions := tables.decisions ++
          [decisionRow environment decision id revision.id]
        issued := count } where
  toStoredRegistry := invariant.toStoredRegistry.decided_append found digest authorized unused
  histories := by
    intro wanted
    have split := decisionsOf_append tables
      (decisionRow environment decision id revision.id) wanted
    change DecisionHistory (decisionsOf { tables with decisions := _ } wanted)
    rw [split]
    split_ifs with same
    · cases same
      exact (invariant.histories revision.id).append fresh rfl
    · rw [List.append_nil]
      exact invariant.histories wanted
  status := by
    intro other inside last found
    obtain ⟨old, stored, shape, status⟩ := mem_restatus inside
    have split := decisionsOf_append tables
      (decisionRow environment decision id revision.id) other.id
    change (decisionsOf { tables with decisions := _ } other.id).getLast? =
      some last at found
    rw [split] at found
    have sameId : other.id = old.id := by rw [shape]
    rw [status]
    split_ifs with same
    · rw [sameId, if_pos (show (decisionRow environment decision id
        revision.id).contractRevisionId = old.id from same.symm), List.getLast?_append] at found
      simp only [List.getLast?_singleton, Option.some_or, Option.some.injEq] at found
      rw [← found]
      rfl
    · rw [sameId, if_neg (show ¬(decisionRow environment decision id
        revision.id).contractRevisionId = old.id from fun equal => same equal.symm),
        List.append_nil] at found
      exact invariant.status old stored last found
  undecided := by
    intro other inside none
    obtain ⟨old, stored, shape, status⟩ := mem_restatus inside
    have split := decisionsOf_append tables
      (decisionRow environment decision id revision.id) other.id
    change decisionsOf { tables with decisions := _ } other.id = [] at none
    have sameId : other.id = old.id := by rw [shape]
    rw [split, List.append_eq_nil_iff, sameId] at none
    have differ : old.id ≠ revision.id := fun same => by
      rw [if_pos (show (decisionRow environment decision id
        revision.id).contractRevisionId = old.id from same.symm)] at none
      exact absurd none.2 (by simp)
    rw [status, if_neg differ]
    exact invariant.undecided old stored none.1

theorem RegistryChange.stored {after : RegistryTables}
    (change : RegistryChange platform environment tables count after)
    (registry : StoredRegistry platform environment tables) :
    StoredRegistry platform environment after := by
  cases change with
  | none => exact ⟨registry.stored, registry.ids, registry.identities, registry.lines,
      registry.decided, registry.decisionIds⟩
  | saved revision id status now fresh absent next initial =>
      exact registry.saved fresh absent next
  | proposed row member draft => exact registry.restatus row.id "proposed" count
  | decided scan decision revision id found digest authorized fresh unused =>
      exact registry.decided_append found digest authorized unused

theorem RegistryChange.invariant {after : RegistryTables}
    (change : RegistryChange platform environment tables count after)
    (invariant : RegistryInvariant platform environment tables) :
    RegistryInvariant platform environment after := by
  cases change with
  | none =>
      exact ⟨RegistryChange.none.stored invariant.toStoredRegistry, invariant.histories,
        invariant.status, invariant.undecided⟩
  | saved revision id status now fresh absent next initial =>
      exact invariant_saved invariant fresh absent next initial
  | proposed row member draft => exact invariant_proposed invariant member draft
  | decided scan decision revision id found digest authorized fresh unused =>
      exact invariant_decided invariant found digest authorized fresh unused

theorem invariant_of_reachable (reachable : RegistryReachable platform environment tables) :
    RegistryInvariant platform environment tables := by
  obtain ⟨start, initial, run⟩ := reachable
  induction run with
  | refl => exact invariant_of_initial initial
  | tail _ step ih =>
      obtain ⟨_, change⟩ := step.change
      exact change.invariant ih

/-! ## Reading the revisions back -/

/-- The revision that a row is read as. -/
structure Held (row : ContractRevisionRow) (revision : Revision platform) : Prop where
  read : readRevision platform row = .ok revision
  kind : revision.kind = row.contractType
  logicalId : revision.logicalId = row.logicalId
  number : revision.number = row.revision
  projectId : revision.projectId = row.projectId
  digest : revision.digest = row.digest
  document : .write revision.semanticDocument = row.documentJson

theorem Held.identity {revision : Revision platform} (held : Held row revision) :
    revision.identity = row.identity := by
  rw [identity_eq, ContractRevisionRow.identity, held.kind,
    held.logicalId, held.number]

theorem exists_held (stored : StoredRevision platform row) :
    ∃ revision : Revision platform, Held row revision := by
  obtain ⟨revision, shape⟩ := stored
  obtain ⟨again, parsed, reread⟩ := revision.parseRevision_semanticDocument
  have ordered : revision.semanticDocument.ordered = true :=
    dropEmpty_ordered _ (validate_ordered (wellFormed_revisionEnvelope platform.coercion revision.kind) revision.contract.valid)
  have text : row.documentJson = .write revision.semanticDocument := by rw [shape]; rfl
  have digest : row.digest = revision.digest := by rw [shape]; rfl
  refine ⟨again, ?_, ?_, ?_, ?_, ?_, ?_, ?_⟩
  · simp [readRevision, text, CanonicalText.write_document _ ordered, parsed, digest,
      show again.digest = revision.digest from reread.digest, raiseWhen, bind, Except.bind]
  · rw [shape, reread.kind]
    rfl
  · rw [shape, Revision.logicalId, reread.field "logical_id" (by simp)]
    rfl
  · rw [shape, Revision.number, reread.field "revision" (by simp)]
    rfl
  · rw [shape, reread.projectId]
    rfl
  · rw [digest, reread.digest]
  · rw [text, reread.content]

end

theorem foldlM_addRow {rows : List ContractRevisionRow} {revisions : List (Revision platform)}
    (held : List.Forall₂ Held rows revisions) (registry : InMemoryContractRegistry platform)
    (known : List String) :
    rows.foldlM (addRow platform) (registry, known) =
      (revisions.foldlM InMemoryContractRegistry.add registry).map fun after =>
        (after, known ++ rows.map ContractRevisionRow.id) := by
  induction held generalizing registry known with
  | nil => simp [pure, Except.pure, Except.map]
  | @cons row revision rows revisions head _ ih =>
      simp only [List.foldlM_cons]
      cases added : registry.add revision with
      | error raised =>
          simp [addRow, head.read, added, bind, Except.bind, Except.map]
      | ok after =>
          have first : addRow platform (registry, known) row =
              .ok (after, known ++ [row.id]) := by
            simp [addRow, head.read, added, bind, Except.bind]
          rw [first]
          refine (ih after (known ++ [row.id])).trans ?_
          simp only [List.map_cons, List.append_assoc, List.singleton_append]
          rfl

section Rebuilding

variable {tables : RegistryTables}

theorem perm_orderedRevisions (tables : RegistryTables) (projectId : Option String) :
    (tables.orderedRevisions projectId).Perm
      (tables.revisions.filter fun row => projectId.all (· = row.projectId)) :=
  List.perm_insertionSort _ _

theorem mem_orderedRevisions {projectId : Option String} {row : ContractRevisionRow} :
    row ∈ tables.orderedRevisions projectId ↔
      row ∈ tables.revisions ∧ ∀ project, projectId = some project → row.projectId = project := by
  rw [(perm_orderedRevisions tables projectId).mem_iff, List.mem_filter]
  cases projectId <;> simp [eq_comm]

theorem sorted_orderedRevisions (tables : RegistryTables) (projectId : Option String) :
    (tables.orderedRevisions projectId).Pairwise fun earlier later =>
      rowKey earlier ≤ rowKey later :=
  Aligned.pairwise_sorted_key rowKey _

/-- In the order of the registry the numbers of a line increase. -/
theorem number_lt_of_rowKey {earlier later : ContractRevisionRow}
    (ordered : rowKey earlier ≤ rowKey later)
    (differ : earlier.identity ≠ later.identity) (kind : earlier.contractType = later.contractType)
    (logicalId : earlier.logicalId = later.logicalId) : earlier.revision < later.revision := by
  simp only [rowKey, kind, logicalId, Prod.Lex.toLex_le_toLex, lt_self_iff_false,
    false_or, true_and] at ordered
  refine lt_of_le_of_ne ordered fun same => differ ?_
  simp only [ContractRevisionRow.identity, kind, logicalId, same]

/-- The revisions of a registry that was rebuilt, in the order of the rows. -/
theorem ordered_revisions (invariant : StoredRegistry platform environment tables)
    (projectId : Option String) {revisions : List (Revision platform)}
    (held : List.Forall₂ Held (tables.orderedRevisions projectId) revisions) :
    (revisions.map Revision.identity).Nodup ∧
      revisions.Pairwise fun earlier later =>
        sameLine later earlier = true → earlier.number < later.number := by
  have distinct : ((tables.orderedRevisions projectId).map ContractRevisionRow.identity).Nodup := by
    refine ((perm_orderedRevisions tables projectId).map _).nodup_iff.mpr ?_
    exact invariant.identities.sublist (List.filter_sublist.map _)
  have both := (sorted_orderedRevisions tables projectId).and
    ((List.pairwise_map).mp distinct)
  constructor
  · rw [List.Nodup, List.pairwise_map]
    refine Aligned.pairwise_right held both fun first second step => ?_
    rw [first.identity, second.identity]
    exact step.2
  · refine Aligned.pairwise_right held both fun first second step line => ?_
    simp only [sameLine, Bool.and_eq_true, decide_eq_true_eq, first.kind,
      second.kind, first.logicalId, second.logicalId] at line
    rw [first.number, second.number]
    exact number_lt_of_rowKey step.1 step.2 line.1 line.2

/-- Every stored number of the Project has its predecessor in the Project. -/
def Rebuildable (tables : RegistryTables) (projectId : Option String) : Prop :=
  ∀ row ∈ tables.orderedRevisions projectId, row.revision = 1 ∨
    ∃ other ∈ tables.orderedRevisions projectId, other.contractType = row.contractType ∧
      other.logicalId = row.logicalId ∧ other.revision = row.revision - 1

theorem predecessors_iff {projectId : Option String} {revisions : List (Revision platform)}
    (held : List.Forall₂ Held (tables.orderedRevisions projectId) revisions) :
    (∀ revision ∈ revisions, revision.number = 1 ∨
        ∃ other ∈ revisions, sameLine revision other = true ∧
          other.number = revision.number - 1) ↔ Rebuildable tables projectId := by
  constructor
  · intro each row member
    obtain ⟨revision, inside, first⟩ := Aligned.exists_right held member
    rw [← first.number]
    refine (each revision inside).imp_right ?_
    rintro ⟨other, found, line, number⟩
    obtain ⟨source, stored, second⟩ := Aligned.exists_left held found
    simp only [sameLine, Bool.and_eq_true, decide_eq_true_eq, first.kind,
      second.kind, first.logicalId, second.logicalId] at line
    exact ⟨source, stored, line.1, line.2, by rw [← number, second.number]⟩
  · intro each revision member
    obtain ⟨row, inside, first⟩ := Aligned.exists_left held member
    rw [first.number]
    refine (each row inside).imp_right ?_
    rintro ⟨source, stored, kind, logicalId, number⟩
    obtain ⟨other, found, second⟩ := Aligned.exists_right held stored
    refine ⟨other, found, ?_, by rw [second.number, number]⟩
    simp only [sameLine, Bool.and_eq_true, decide_eq_true_eq, first.kind,
      second.kind, first.logicalId, second.logicalId]
    exact ⟨kind, logicalId⟩

theorem foldlM_addRow_ok (invariant : StoredRegistry platform environment tables)
    (projectId : Option String) :
    ∃ revisions : List (Revision platform),
      List.Forall₂ Held (tables.orderedRevisions projectId) revisions ∧
        ∀ result, (tables.orderedRevisions projectId).foldlM (addRow platform)
            (.empty, []) = .ok result ↔
          result = (⟨revisions, []⟩,
              (tables.orderedRevisions projectId).map ContractRevisionRow.id) ∧
            Rebuildable tables projectId := by
  have stored : ∀ row ∈ tables.orderedRevisions projectId, ∃ revision : Revision platform,
      Held row revision := fun row member =>
    exists_held (invariant.stored row (mem_orderedRevisions.mp member).1)
  obtain ⟨revisions, held⟩ := Aligned.exists_aligned stored
  obtain ⟨distinct, ordered⟩ := ordered_revisions invariant projectId held
  refine ⟨revisions, held, fun result => ?_⟩
  have added : ∀ after, revisions.foldlM InMemoryContractRegistry.add .empty = .ok after ↔
      after = ⟨revisions, []⟩ ∧ InMemoryContractRegistry.Increments [] revisions := fun after =>
    foldlM_add_ok distinct
  rw [increments_iff_predecessor ordered, predecessors_iff held] at added
  rw [foldlM_addRow held, List.nil_append]
  cases run : revisions.foldlM InMemoryContractRegistry.add .empty with
  | ok after =>
      obtain ⟨rfl, complete⟩ := (added after).mp run
      simp only [Except.map, Except.ok.injEq, complete, and_true]
      exact eq_comm
  | error raised =>
      simp only [Except.map, reduceCtorEq, false_iff, not_and]
      intro _ complete
      rw [(added _).mpr ⟨rfl, complete⟩] at run
      cases run

/-- The registry of all Projects can always be rebuilt. -/
theorem rebuildable_all (invariant : StoredRegistry platform environment tables) :
    Rebuildable tables none := by
  intro row member
  have stored := (mem_orderedRevisions.mp member).1
  obtain ⟨positive, complete⟩ := invariant.lines row stored
  rcases eq_or_lt_of_le positive with first | later
  · exact Or.inl first.symm
  · obtain ⟨other, found, rest⟩ := complete (row.revision - 1) (by omega) (by omega)
    exact Or.inr ⟨other, mem_orderedRevisions.mpr ⟨found, by simp⟩, rest⟩

/-- A Project that owns a revision owns the lower numbers of its kind and logical id. -/
def OwnsLines (tables : RegistryTables) (projectId : String) : Prop :=
  ∀ row ∈ tables.revisions, row.projectId = projectId →
    ∀ other ∈ tables.revisions, other.contractType = row.contractType →
      other.logicalId = row.logicalId → other.revision < row.revision →
        other.projectId = projectId

theorem rebuildable_iff_ownsLines (invariant : StoredRegistry platform environment tables)
    (projectId : String) : Rebuildable tables (some projectId) ↔ OwnsLines tables projectId := by
  have owned : ∀ row, row ∈ tables.orderedRevisions (some projectId) ↔
      row ∈ tables.revisions ∧ row.projectId = projectId := by
    intro row
    simp [mem_orderedRevisions]
  constructor
  · intro each row member project other inside kind logicalId below
    -- go down from the row, one number at a time, until the other row is met
    obtain ⟨gap, distance⟩ := Int.eq_ofNat_of_zero_le (show 0 ≤ row.revision - other.revision - 1 by
      omega)
    induction gap generalizing row with
    | zero =>
        rcases each row ((owned row).mpr ⟨member, project⟩) with first | found
        · have := (invariant.lines other inside).1
          omega
        · obtain ⟨source, stored, sameKind, sameId, number⟩ := found
          obtain ⟨present, owner⟩ := (owned source).mp stored
          have same : other = source := by
            refine List.inj_on_of_nodup_map invariant.identities inside present ?_
            simp only [ContractRevisionRow.identity, kind, logicalId, sameKind, sameId, number]
            simp only [Prod.mk.injEq, Json.int.injEq, true_and]
            omega
          rw [same, owner]
    | succ gap ih =>
        rcases each row ((owned row).mpr ⟨member, project⟩) with first | found
        · have := (invariant.lines other inside).1
          omega
        · obtain ⟨source, stored, sameKind, sameId, number⟩ := found
          obtain ⟨present, owner⟩ := (owned source).mp stored
          exact ih source present owner (kind.trans sameKind.symm) (logicalId.trans sameId.symm)
            (by omega) (by omega)
  · intro owns row member
    obtain ⟨stored, project⟩ := (owned row).mp member
    obtain ⟨positive, complete⟩ := invariant.lines row stored
    rcases eq_or_lt_of_le positive with first | later
    · exact Or.inl first.symm
    · obtain ⟨other, found, kind, logicalId, number⟩ :=
        complete (row.revision - 1) (by omega) (by omega)
      exact Or.inr ⟨other, (owned other).mpr ⟨found, owns row stored project other found kind
        logicalId (by omega)⟩, kind, logicalId, number⟩

end Rebuilding

/-! ## The registry of a Project -/

/-- A call of `save_contract_revision`. -/
def RegistrySave (platform : Platform) (tables after : RegistryTables) : Prop :=
  ∃ (revision : Revision platform) (status : String) (now : Time),
    after = (tables.saveContractRevision revision status now).tables

/-- Tables that were only written by saves. -/
def RegistrySaved (platform : Platform) (tables : RegistryTables) : Prop :=
  ∃ start : RegistryTables, start.Initial ∧
    Relation.ReflTransGen (RegistrySave platform) start tables

theorem reachable_of_saved {tables : RegistryTables} (saved : RegistrySaved platform tables)
    (environment : RegistryEnvironment) : RegistryReachable platform environment tables := by
  obtain ⟨start, initial, run⟩ := saved
  refine ⟨start, initial, Relation.ReflTransGen.mono ?_ _ _ run⟩
  rintro before after ⟨revision, status, now, rfl⟩
  exact .save before revision status now

theorem saveBody_decisions {revision : Revision platform} {status : String} {now : Time}
    {tables after : RegistryTables} {result : ContractRevisionRow}
    (done : saveBody revision status now tables = .ok (result, after)) :
    after.decisions = tables.decisions := by
  unfold saveBody at done
  split at done
  · unfold resolveExistingRevision at done
    split_ifs at done <;> cases done <;> rfl
  · simp only [RegistryTables.newId, ne_eq, ite_not] at done
    split_ifs at done
    rw [(insertRevision_ok done).2]

theorem saveContractRevision_decisions (revision : Revision platform) (status : String)
    (now : Time) (tables : RegistryTables) :
    (tables.saveContractRevision revision status now).tables.decisions = tables.decisions := by
  simp only [saveContractRevision, RegistryTables.newId]
  split_ifs
  · split
    next done =>
      have kept := saveBody_decisions done
      exact kept
    · rfl
  · rfl

theorem decisions_of_saved {tables : RegistryTables} (saved : RegistrySaved platform tables) :
    tables.decisions = [] := by
  obtain ⟨start, initial, run⟩ := saved
  induction run with
  | refl => exact initial.2
  | tail _ step ih =>
      obtain ⟨revision, status, now, rfl⟩ := step
      rw [saveContractRevision_decisions, ih]

/-- After any saves the registry of a Project can be rebuilt, with exactly the revisions
stored for it, if and only if the Project owns the beginning of each of its lines. -/
theorem contractRegistry_of_project_iff {tables : RegistryTables}
    (saved : RegistrySaved platform tables) (environment : RegistryEnvironment) (scan : ScanOrder)
    (projectId : String) :
    (∃ registry : InMemoryContractRegistry platform,
        tables.contractRegistry platform environment scan (some projectId) = .ok registry ∧
          ∃ rows, rows.Perm (tables.revisions.filter fun row => row.projectId = projectId) ∧
            List.Forall₂ Held rows registry.revisions) ↔
      OwnsLines tables projectId := by
  have invariant := (invariant_of_reachable
    (reachable_of_saved saved environment)).toStoredRegistry
  rw [← rebuildable_iff_ownsLines invariant]
  obtain ⟨revisions, held, run⟩ := foldlM_addRow_ok invariant (some projectId)
  have silent : scan.order tables.decisions = [] := by
    rw [decisions_of_saved saved]
    exact (scan.perm []).eq_nil
  constructor
  · rintro ⟨registry, built, _⟩
    simp only [contractRegistry, bind_ok] at built
    obtain ⟨result, added, _⟩ := built
    exact ((run result).mp added).2
  · intro complete
    refine ⟨⟨revisions, []⟩, ?_, tables.orderedRevisions (some projectId), ?_, held⟩
    · simp only [contractRegistry, (run _).mpr ⟨rfl, complete⟩, silent]
      rfl
    · refine (perm_orderedRevisions tables (some projectId)).trans (.of_eq ?_)
      simp [eq_comm]

/-! ## A line shared by two Projects -/

/-- The scan that returns rows with equal times as they were persisted. -/
def ScanOrder.stable : ScanOrder where
  order rows := rows.insertionSort fun left right => left.decidedAt ≤ right.decidedAt
  perm rows := List.perm_insertionSort _ rows
  sorted rows := Aligned.pairwise_sorted_key ContractDecisionRow.decidedAt rows

namespace Sample

/-- Every attestation is verified; the timestamps are two texts. -/
def verifying : RegistryEnvironment where
  verifier _ _ := .ok ()
  instant text := if text = "2026-01-01T00:00:05Z" then 5 else 10
  stamp now := if now = 5 then "2026-01-01T00:00:05Z" else "2026-01-01T00:00:10Z"

def goalDump (projectId : String) (number : Int) : Json :=
  .obj [("contract_type", .str "goal"), ("logical_id", .str "one"),
    ("payload", Contracts.Sample.goal.payload), ("project_id", .str projectId),
    ("revision", .int number), ("schema_version", .str "1"), ("title", .str "title")]

def firstGoal : Revision Contracts.Sample.platform :=
  ⟨.goal, goalDump "first" 1, by decide +kernel⟩

def secondGoal : Revision Contracts.Sample.platform :=
  ⟨.goal, goalDump "second" 2, by decide +kernel⟩

def twoProjects : RegistryTables where
  projects := ["first", "second"]
  revisions := []
  decisions := []
  issued := 0

/-- Revision 1 is saved for one Project and revision 2 for the other. -/
def sharedLine : RegistryTables :=
  ((twoProjects.saveContractRevision firstGoal "draft" 0).tables.saveContractRevision secondGoal
    "draft" 1).tables

theorem saved_sharedLine : RegistrySaved Contracts.Sample.platform sharedLine :=
  ⟨twoProjects, ⟨rfl, rfl⟩, .tail (.tail .refl ⟨firstGoal, "draft", 0, rfl⟩)
    ⟨secondGoal, "draft", 1, rfl⟩⟩

end Sample

/-- The registry of the second Project is refused: its only revision has number 2. -/
theorem contractRegistry_refuses_sharedLine :
    RegistrySaved Contracts.Sample.platform Sample.sharedLine ∧
      (∃ row ∈ Sample.sharedLine.revisions, row.projectId = "second") ∧
      ∀ environment scan,
        Sample.sharedLine.contractRegistry Contracts.Sample.platform environment scan
            (some "second") =
          .error (.valueError "contract revision must be monotonic; expected 1, received 2") := by
  refine ⟨Sample.saved_sharedLine, by decide +kernel, fun environment scan => ?_⟩
  have refused : (Sample.sharedLine.orderedRevisions (some "second")).foldlM
      (addRow Contracts.Sample.platform) (.empty, []) =
      .error (.valueError "contract revision must be monotonic; expected 1, received 2") := by
    decide +kernel
  simp only [contractRegistry, refused]
  rfl

theorem contractRegistry_of_first_project :
    ∃ registry, Sample.sharedLine.contractRegistry Contracts.Sample.platform Sample.verifying
      .stable (some "first") = .ok registry := by
  have owned : OwnsLines Sample.sharedLine "first" := by
    unfold OwnsLines
    decide +kernel
  obtain ⟨registry, rebuilt, _⟩ :=
    (contractRegistry_of_project_iff Sample.saved_sharedLine Sample.verifying .stable
      "first").mpr owned
  exact ⟨registry, rebuilt⟩

end Evidrun.Database
