import Evidrun.Database.RegistryHistory

/-!
# Replaying decisions

The registry replays the stored decisions in the order of their times. The store
judged each of them by the decision dated latest when it was persisted. The two
agree as long as a decision that supersedes a revision is dated later than every
decision persisted for that revision before it; otherwise the replay is refused.
-/

namespace Evidrun.Database

open JsonText DocumentSchema Evidrun.Contracts KeyedReplay
open RegistryTables InMemoryContractRegistry

set_option autoImplicit false

/-! ## One revision -/

/-- A stored decision that the registry takes after a previous one. -/
def AllowedRow (previous : Option String) (row : ContractDecisionRow) : Prop :=
  InMemoryContractRegistry.Allowed previous row.decision

theorem allowed_same {decision : String} (plain : decision ≠ "superseded")
    {previous : Option String} (before : ∀ existing, previous = some existing → existing = decision) :
    InMemoryContractRegistry.Allowed previous decision := by
  refine ⟨fun _ => plain, fun existing same => ?_⟩
  rw [before existing same]
  simp [conflicts]

/-- The same decision over and over is replayed. -/
theorem replays_same {decision : String} (plain : decision ≠ "superseded")
    (rows : List ContractDecisionRow) (all : ∀ row ∈ rows, row.decision = decision)
    (previous : Option String) (before : ∀ existing, previous = some existing → existing = decision) :
    Replays AllowedRow ContractDecisionRow.decision previous rows ∧
      final ContractDecisionRow.decision previous rows =
        if rows = [] then previous else some decision := by
  induction rows generalizing previous with
  | nil => exact ⟨trivial, rfl⟩
  | cons row rest ih =>
      have same := all row List.mem_cons_self
      have later := ih (fun other member => all other (List.mem_cons_of_mem _ member))
        (some row.decision) (by simp [same])
      refine ⟨⟨?_, later.1⟩, ?_⟩
      · rw [AllowedRow, same]
        exact allowed_same plain before
      · rw [final, later.2, same]
        simp

/-- After a superseding decision only the same one is replayed. -/
theorem superseded_of_replays {rows : List ContractDecisionRow}
    (replays : Replays AllowedRow ContractDecisionRow.decision (some "superseded") rows) :
    ∀ row ∈ rows, row.decision = "superseded" := by
  induction rows with
  | nil => simp
  | cons row rest ih =>
      obtain ⟨allowed, later⟩ := replays
      have conflict := allowed.2 "superseded" rfl
      have same : row.decision = "superseded" :=
        (show "superseded" = row.decision by
          simpa [conflicts] using conflict).symm
      rw [same] at later
      intro other member
      rcases List.mem_cons.mp member with rfl | inside
      · exact same
      · exact ih later other inside

/-- The decisions of a revision, dated so that a superseding one is the latest so far. -/
def Dated (rows : List ContractDecisionRow) : Prop :=
  rows.Pairwise fun earlier later =>
    later.decision = "superseded" → earlier.decidedAt < later.decidedAt

section History

variable {rows scanned : List ContractDecisionRow}

/-- With such dates the history ends with the superseding decision. -/
theorem DecisionHistory.superseded_last (history : DecisionHistory rows) (dated : Dated rows)
    {row : ContractDecisionRow} (member : row ∈ rows) (superseded : row.decision = "superseded") :
    ∃ earlier, rows = earlier ++ [row] ∧ earlier ≠ [] ∧
      ∀ other ∈ earlier, other.decision = "accepted" ∧ other.decidedAt < row.decidedAt := by
  have last : ∀ earlier second later, rows = earlier ++ second :: later →
      second.decision = "superseded" → later = [] := by
    intro earlier second later split decision
    refine history.settled earlier second later split decision fun other before => ?_
    rw [Dated, split, List.pairwise_append] at dated
    exact dated.2.2 other before second List.mem_cons_self decision
  obtain ⟨earlier, later, split⟩ := List.append_of_mem member
  have empty := last earlier row later split superseded
  subst empty
  refine ⟨earlier, split, ?_, fun other before => ⟨?_, ?_⟩⟩
  · rintro rfl
    exact history.first row (by rw [split]; rfl) superseded
  · have inside : other ∈ rows := by rw [split]; exact List.mem_append_left _ before
    have known := history.known other inside
    simp only [List.mem_cons, List.not_mem_nil, or_false] at known
    rcases known with accepted | rejected | again
    · exact accepted
    · have alone := history.rejected other inside rejected
      rw [alone, List.mem_singleton] at member
      rw [member, rejected] at superseded
      exact absurd superseded (by decide)
    · obtain ⟨first, rest, inner⟩ := List.append_of_mem before
      have none := last first other (rest ++ [row]) (by rw [split, inner]; simp) again
      simp at none
  · rw [Dated, split, List.pairwise_append] at dated
    exact dated.2.2 other before row List.mem_cons_self superseded

/-- Without a superseding decision all decisions are the same. -/
theorem DecisionHistory.same_decision (history : DecisionHistory rows)
    (plain : ∀ row ∈ rows, row.decision ≠ "superseded") :
    ∃ decision, decision ≠ "superseded" ∧ ∀ row ∈ rows, row.decision = decision := by
  by_cases rejection : ∃ row ∈ rows, row.decision = "rejected"
  · obtain ⟨row, member, rejected⟩ := rejection
    refine ⟨"rejected", by decide, fun other inside => ?_⟩
    rw [history.rejected row member rejected, List.mem_singleton] at inside
    rw [inside, rejected]
  · refine ⟨"accepted", by decide, fun row member => ?_⟩
    have known := history.known row member
    simp only [List.mem_cons, List.not_mem_nil, or_false] at known
    rcases known with accepted | rejected | superseded
    · exact accepted
    · exact absurd ⟨row, member, rejected⟩ rejection
    · exact absurd superseded (plain row member)

/-- A history dated in this way is replayed to the decision that was persisted last. -/
theorem DecisionHistory.replays (history : DecisionHistory rows) (dated : Dated rows)
    (perm : scanned.Perm rows)
    (sorted : scanned.Pairwise fun earlier later => earlier.decidedAt ≤ later.decidedAt) :
    Replays AllowedRow ContractDecisionRow.decision none scanned ∧
      final ContractDecisionRow.decision none scanned =
        rows.getLast?.map ContractDecisionRow.decision := by
  by_cases superseding : ∃ row ∈ rows, row.decision = "superseded"
  · obtain ⟨row, member, superseded⟩ := superseding
    obtain ⟨earlier, split, given, accepted⟩ := history.superseded_last dated member superseded
    -- the superseding decision is dated last, so every scan returns it last
    obtain ⟨before, after, shape⟩ := List.append_of_mem (perm.mem_iff.mpr member)
    have rest : (before ++ after).Perm earlier := by
      have moved : (row :: (before ++ after)).Perm (row :: earlier) := by
        refine (List.perm_middle.symm.trans (shape ▸ perm)).trans ?_
        rw [split]
        exact List.perm_append_comm
      exact moved.cons_inv
    have empty : after = [] := by
      refine List.eq_nil_iff_forall_not_mem.mpr fun other inside => ?_
      rw [shape, List.pairwise_append, List.pairwise_cons] at sorted
      have late := sorted.2.1.1 other inside
      exact absurd late (not_le.mpr
        (accepted other (rest.mem_iff.mp (List.mem_append_right _ inside))).2)
    subst empty
    rw [List.append_nil] at rest
    have first := replays_same (by decide : "accepted" ≠ "superseded") before
      (fun other inside => (accepted other (rest.mem_iff.mp inside)).1) none (by simp)
    have given' : before ≠ [] := fun none => given (by rw [none] at rest; exact rest.symm.eq_nil)
    rw [if_neg given'] at first
    rw [shape, split, replays_append, final_append, first.2]
    refine ⟨⟨first.1, ?_, trivial⟩, by simp [final, superseded]⟩
    rw [AllowedRow, superseded]
    exact ⟨by simp, fun existing same => by rw [← Option.some.inj same]; rfl⟩
  · obtain ⟨decision, plain, all⟩ := history.same_decision
      fun row member superseded => superseding ⟨row, member, superseded⟩
    obtain ⟨replays, ends⟩ := replays_same plain scanned
      (fun row inside => all row (perm.mem_iff.mp inside)) none (by simp)
    refine ⟨replays, ends.trans ?_⟩
    cases last : rows.getLast? with
    | none =>
        rw [List.getLast?_eq_none_iff.mp last] at perm
        simp [perm.eq_nil]
    | some row =>
        have member := List.mem_of_getLast? last
        rw [if_neg fun none => by rw [none] at perm; rw [perm.symm.eq_nil] at member; simp at member]
        simp [all row member]

/-- Otherwise some accepting decision is not dated before a superseding one that was
persisted after it. -/
theorem DecisionHistory.undated (history : DecisionHistory rows) (undated : ¬Dated rows) :
    ∃ superseding ∈ rows, ∃ accepting ∈ rows, superseding.decision = "superseded" ∧
      accepting.decision = "accepted" ∧ superseding.decidedAt ≤ accepting.decidedAt := by
  cases found : rows.find? fun row => row.decision = "superseded" with
  | none =>
      refine absurd (List.pairwise_of_forall_mem_list fun earlier _ later member superseded => ?_)
        undated
      exact absurd superseded (by simpa using List.find?_eq_none.mp found later member)
  | some row =>
      -- the first superseding decision: all before it accept the revision
      obtain ⟨superseded, earlier, later, split, plain⟩ := List.find?_eq_some_iff_append.mp found
      have superseded : row.decision = "superseded" := by simpa using superseded
      have plain : ∀ other ∈ earlier, other.decision ≠ "superseded" := by simpa using plain
      have inside : ∀ other ∈ earlier, other ∈ rows := fun other before => by
        rw [split]
        exact List.mem_append_left _ before
      have member : row ∈ rows := by simp [split]
      by_cases strict : ∀ other ∈ earlier, other.decidedAt < row.decidedAt
      · refine absurd ?_ undated
        have empty := history.settled earlier row later split superseded strict
        rw [Dated, split, empty, List.pairwise_append]
        refine ⟨List.pairwise_of_forall_mem_list fun _ _ other before again =>
          absurd again (plain other before), List.pairwise_singleton _ _, ?_⟩
        intro other before last single _
        rw [List.mem_singleton.mp single]
        exact strict other before
      · push Not at strict
        obtain ⟨other, before, late⟩ := strict
        refine ⟨row, member, other, inside other before, superseded, ?_, late⟩
        have known := history.known other (inside other before)
        simp only [List.mem_cons, List.not_mem_nil, or_false] at known
        rcases known with accepted | rejected | again
        · exact accepted
        · have alone := history.rejected other (inside other before) rejected
          rw [alone, List.mem_singleton] at member
          rw [member, rejected] at superseded
          exact absurd superseded (by decide)
        · exact absurd again (plain other before)

/-- A replay that meets a superseding decision before an accepting one is refused. -/
theorem not_replays {accepting superseding : ContractDecisionRow}
    (superseded : superseding.decision = "superseded") (accepted : accepting.decision = "accepted")
    {before after : List ContractDecisionRow} (later : accepting ∈ after)
    (previous : Option String) :
    ¬Replays AllowedRow ContractDecisionRow.decision previous (before ++ superseding :: after) := by
  intro replays
  obtain ⟨_, _, rest⟩ := replays_append.mp replays
  rw [superseded] at rest
  have same := superseded_of_replays rest accepting later
  rw [accepted] at same
  exact absurd same (by decide)

end History

/-! ## Scans -/

/-- The scan that returns rows with equal times as they were persisted, except that one
row comes before all others of its time. -/
def ScanOrder.favouring (first : ContractDecisionRow) : ScanOrder where
  order rows := rows.insertionSort fun left right =>
    toLex (left.decidedAt, if left = first then 0 else 1) ≤
      (toLex (right.decidedAt, if right = first then 0 else 1) : Time ×ₗ Nat)
  perm rows := List.perm_insertionSort _ rows
  sorted rows := by
    refine (Aligned.pairwise_sorted_key (fun row : ContractDecisionRow =>
      (toLex (row.decidedAt, if row = first then 0 else 1) : Time ×ₗ Nat)) rows).imp ?_
    intro earlier later ordered
    rcases Prod.Lex.toLex_le_toLex.mp ordered with less | ⟨same, _⟩
    · exact le_of_lt less
    · exact le_of_eq same

/-- The favoured row is returned before every other row that is not dated before it. -/
theorem ScanOrder.favouring_before {first second : ContractDecisionRow}
    {rows : List ContractDecisionRow} (differ : second ≠ first)
    (dated : first.decidedAt ≤ second.decidedAt) (member : first ∈ rows) (inside : second ∈ rows) :
    ∃ before after, (favouring first).order rows = before ++ first :: after ∧ second ∈ after := by
  have perm := (favouring first).perm rows
  obtain ⟨before, after, split⟩ := List.append_of_mem (perm.mem_iff.mpr member)
  refine ⟨before, after, split, ?_⟩
  have scanned := perm.mem_iff.mpr inside
  rw [split] at scanned
  rcases List.mem_append.mp scanned with early | late
  · have ordered : ((favouring first).order rows).Pairwise fun left right =>
        toLex (left.decidedAt, if left = first then 0 else 1) ≤
          (toLex (right.decidedAt, if right = first then 0 else 1) : Time ×ₗ Nat) :=
      Aligned.pairwise_sorted_key (fun row : ContractDecisionRow =>
        (toLex (row.decidedAt, if row = first then 0 else 1) : Time ×ₗ Nat)) rows
    rw [split, List.pairwise_append] at ordered
    have below := ordered.2.2 second early first List.mem_cons_self
    rw [if_neg differ, if_pos rfl] at below
    rcases Prod.Lex.toLex_le_toLex.mp below with less | ⟨_, impossible⟩
    · exact absurd dated (not_le.mpr less)
    · exact absurd impossible (by simp)
  · exact (List.mem_cons.mp late).resolve_left differ

/-- Rows of different times are returned in the order of their times. -/
theorem ScanOrder.order_eq (scan : ScanOrder) {rows ordered : List ContractDecisionRow}
    (perm : ordered.Perm rows)
    (ascending : ordered.Pairwise fun earlier later => earlier.decidedAt < later.decidedAt) :
    scan.order rows = ordered := by
  refine List.Perm.eq_of_pairwise ?_ (scan.sorted rows)
    (ascending.imp fun less => le_of_lt less) ((scan.perm rows).trans perm.symm)
  intro first second member inside below above
  have distinct : (ordered.map ContractDecisionRow.decidedAt).Nodup :=
    List.pairwise_map.mpr (ascending.imp fun less => ne_of_lt less)
  exact List.inj_on_of_nodup_map distinct
    (perm.mem_iff.mpr ((scan.perm rows).mem_iff.mp member)) inside (le_antisymm below above)

/-! ## The whole registry -/

section Registry

variable {platform : Platform} {environment : RegistryEnvironment} {tables : RegistryTables}

/-- The identity of the revision a decision is about. -/
def subjectOf (tables : RegistryTables) (row : ContractDecisionRow) : Option RevisionKey :=
  (Table.find ContractRevisionRow.id tables.revisions row.contractRevisionId).map
    ContractRevisionRow.identity

/-- The stored revisions, found by their identity. -/
def Loaded (tables : RegistryTables) (revisions : List (Revision platform)) : Prop :=
  ∀ row ∈ tables.revisions, ∃ revision : Revision platform,
    Table.find Revision.identity revisions row.identity = some revision ∧
      revision.digest = row.digest

/-- The decision that stands for an identity, if it is one. -/
def standingOf (registry : InMemoryContractRegistry platform) (key : Option RevisionKey) :
    Option String :=
  key.bind registry.standing

theorem readDecision_row (decision : RevisionDecisionRecord platform) (id revisionId : String) :
    readDecision platform
      (decisionRow environment decision id revisionId) = .ok decision := by
  have formed := wellFormed_revisionDecisionRecord platform.coercion platform
  have ordered : decision.semanticDocument.ordered = true :=
    dropEmpty_ordered _ (validate_ordered formed decision.valid)
  have read : RevisionDecisionRecord.modelValidate platform decision.semanticDocument =
      .ok decision :=
    (Instance.modelValidate_ok formed _ decision).mpr (validate_dropEmpty formed decision.valid ((durable_revisionDecisionRecord platform).1 _ _ decision.valid))
  simp [readDecision, decisionRow,
    CanonicalText.write_document _ ordered, read, built, raiseWhen, bind, Except.bind]

/-- A stored decision is replayed exactly if it is allowed after the one that stands. -/
theorem decideRow_steps (invariant : StoredRegistry platform environment tables)
    {known : List String} (all : ∀ row ∈ tables.revisions, row.id ∈ known)
    {registry : InMemoryContractRegistry platform} (loaded : Loaded tables registry.revisions)
    {row : ContractDecisionRow} (member : row ∈ tables.decisions) :
    Steps (subjectOf tables) AllowedRow ContractDecisionRow.decision standingOf
        (decideRow environment known) registry row ∧
      ∀ after, decideRow environment known registry row = .ok after →
        after.revisions = registry.revisions := by
  obtain ⟨revision, decision, inside, shape, identity, digest, authorized⟩ :=
    invariant.decided row member
  obtain ⟨found, located, same⟩ := loaded revision inside
  have subject : subjectOf tables row = some (identityKey decision.revisionRef) := by
    have named : row.contractRevisionId = revision.id := by rw [shape]; rfl
    rw [subjectOf, named, Table.find_of_mem invariant.ids inside, identity]
    rfl
  have present : row.contractRevisionId ∈ known := by
    rw [shape]
    exact all revision inside
  have read : readDecision platform row = .ok decision := by
    rw [shape]
    exact readDecision_row decision row.id revision.id
  have text : row.decision = decision.decision := by rw [shape]; rfl
  have step : ∀ after, decideRow environment known registry row = .ok after ↔
      InMemoryContractRegistry.Allowed
          (registry.standing (identityKey decision.revisionRef)) decision.decision ∧
        after = { registry with
          decisions := setDecision registry.decisions
            (identityKey decision.revisionRef) decision } := by
    intro after
    rw [decideRow, if_pos present, read]
    exact decide_ok authorized (by rw [identity]; exact located)
      (by rw [digest, same])
  refine ⟨⟨?_, ?_⟩, fun after done => ?_⟩
  · rw [AllowedRow, subject, text]
    exact ⟨fun ⟨after, done⟩ => ((step after).mp done).1, fun allowed => ⟨_, (step _).mpr ⟨allowed, rfl⟩⟩⟩
  · intro after done
    rw [((step after).mp done).2, subject, text]
    funext key
    cases key with
    | none => rw [Function.update_of_ne (by simp)]; rfl
    | some key =>
        simp only [standingOf, Option.bind_some, standing,
          decision?_setDecision, Function.update_apply, Option.some.injEq]
        split_ifs <;> rfl
  · rw [((step after).mp done).2]

theorem subjectOf_eq (invariant : StoredRegistry platform environment tables)
    {revision : ContractRevisionRow} (stored : revision ∈ tables.revisions)
    {row : ContractDecisionRow} (member : row ∈ tables.decisions) :
    subjectOf tables row = some revision.identity ↔ row.contractRevisionId = revision.id := by
  obtain ⟨other, _, inside, shape, _⟩ := invariant.decided row member
  have named : row.contractRevisionId = other.id := by rw [shape]; rfl
  rw [subjectOf, named, Table.find_of_mem invariant.ids inside, Option.map_some, Option.some.injEq]
  constructor
  · intro same
    rw [List.inj_on_of_nodup_map invariant.identities inside stored same]
  · intro same
    rw [List.inj_on_of_nodup_map invariant.ids inside stored same]

/-- The scanned decisions on a revision. -/
def scannedOf (scan : ScanOrder) (tables : RegistryTables) (id : String) :
    List ContractDecisionRow :=
  (scan.order tables.decisions).filter fun row => row.contractRevisionId = id

theorem perm_scannedOf (scan : ScanOrder) (id : String) :
    (scannedOf scan tables id).Perm (tables.decisionsOf id) :=
  (scan.perm tables.decisions).filter _

theorem sorted_scannedOf (scan : ScanOrder) (id : String) :
    (scannedOf scan tables id).Pairwise fun earlier later => earlier.decidedAt ≤ later.decidedAt :=
  (scan.sorted tables.decisions).filter _

theorem filter_subjectOf (invariant : StoredRegistry platform environment tables)
    (scan : ScanOrder) {revision : ContractRevisionRow} (stored : revision ∈ tables.revisions) :
    ((scan.order tables.decisions).filter fun row =>
        subjectOf tables row = some revision.identity) = scannedOf scan tables revision.id := by
  refine List.filter_congr fun row member => ?_
  rw [decide_eq_decide]
  exact subjectOf_eq invariant stored ((scan.perm _).mem_iff.mp member)

/-- All stored decisions replay exactly if those on each revision do. -/
theorem keyedReplays_scan (invariant : StoredRegistry platform environment tables)
    (scan : ScanOrder) :
    KeyedReplays (subjectOf tables) AllowedRow ContractDecisionRow.decision (fun _ => none)
        (scan.order tables.decisions) ↔
      ∀ revision ∈ tables.revisions,
        Replays AllowedRow ContractDecisionRow.decision none (scannedOf scan tables revision.id) := by
  rw [keyedReplays_iff]
  constructor
  · intro each revision stored
    rw [← filter_subjectOf invariant scan stored]
    exact each _
  · intro each wanted
    by_cases known : ∃ revision ∈ tables.revisions, wanted = some revision.identity
    · obtain ⟨revision, stored, rfl⟩ := known
      rw [filter_subjectOf invariant scan stored]
      exact each revision stored
    · have empty : ((scan.order tables.decisions).filter fun row =>
          subjectOf tables row = wanted) = [] := by
        refine List.filter_eq_nil_iff.mpr fun row member same => known ?_
        obtain ⟨revision, _, inside, shape, _⟩ :=
          invariant.decided row ((scan.perm _).mem_iff.mp member)
        refine ⟨revision, inside, ?_⟩
        rw [← of_decide_eq_true same]
        refine (subjectOf_eq invariant inside ((scan.perm _).mem_iff.mp member)).mpr ?_
        rw [shape]
        rfl
      rw [empty]
      trivial

/-- The registry of all Projects is rebuilt exactly if the decisions on each revision
replay, and then those that stand are the last ones of the replay. -/
theorem contractRegistry_all (invariant : StoredRegistry platform environment tables)
    (scan : ScanOrder) :
    ((∃ registry, tables.contractRegistry platform environment scan none = .ok registry) ↔
        ∀ revision ∈ tables.revisions,
          Replays AllowedRow ContractDecisionRow.decision none
            (scannedOf scan tables revision.id)) ∧
      ∀ registry, tables.contractRegistry platform environment scan none = .ok registry →
        Loaded tables registry.revisions ∧
          ∀ revision ∈ tables.revisions, registry.standing revision.identity =
            final ContractDecisionRow.decision none (scannedOf scan tables revision.id) := by
  obtain ⟨revisions, held, run⟩ := foldlM_addRow_ok invariant none
  have added := (run _).mpr ⟨rfl, rebuildable_all invariant⟩
  have shape : tables.contractRegistry platform environment scan none =
      (scan.order tables.decisions).foldlM (decideRow environment
        ((tables.orderedRevisions none).map ContractRevisionRow.id)) ⟨revisions, []⟩ := by
    rw [contractRegistry, added]
    rfl
  have all : ∀ row ∈ tables.revisions,
      row.id ∈ (tables.orderedRevisions none).map ContractRevisionRow.id := fun row member =>
    List.mem_map_of_mem (mem_orderedRevisions.mpr ⟨member, by simp⟩)
  have loaded : Loaded tables revisions := by
    intro row member
    obtain ⟨revision, inside, same⟩ :=
      Aligned.exists_right held (mem_orderedRevisions.mpr ⟨member, by simp⟩)
    refine ⟨revision, ?_, same.digest⟩
    rw [← same.identity]
    exact Table.find_of_mem (ordered_revisions invariant none held).1 inside
  have stored : ∀ row ∈ scan.order tables.decisions, row ∈ tables.decisions := fun row member =>
    (scan.perm _).mem_iff.mp member
  obtain ⟨taken, ends⟩ := foldlM_replays
    (fun (registry : InMemoryContractRegistry platform) fine row member =>
      (decideRow_steps invariant all (fine ▸ loaded) (stored row member)).1)
    (fun registry fine row member after done =>
      ((decideRow_steps invariant all (fine ▸ loaded) (stored row member)).2 after done).trans fine)
    (show (⟨revisions, []⟩ : InMemoryContractRegistry platform).revisions = revisions from rfl)
  have silent : standingOf (⟨revisions, []⟩ : InMemoryContractRegistry platform) = fun _ => none := by
    funext key
    cases key <;> rfl
  rw [silent] at taken ends
  rw [shape]
  refine ⟨taken.trans (keyedReplays_scan invariant scan), fun registry done => ?_⟩
  obtain ⟨same, standing⟩ := ends registry done
  refine ⟨same ▸ loaded, fun revision member => ?_⟩
  rw [← filter_subjectOf invariant scan member]
  exact standing (some revision.identity)

/-- A stored revision is resolved exactly if the decision that stands accepts it. -/
theorem resolve_ref_iff {registry : InMemoryContractRegistry platform}
    (loaded : Loaded tables registry.revisions) {row : ContractRevisionRow}
    (member : row ∈ tables.revisions) :
    (∃ revision, registry.resolve row.ref = .ok revision) ↔
      registry.standing row.identity = some "accepted" := by
  obtain ⟨revision, located, digest⟩ := loaded row member
  have found : registry.revision? row.identity = some revision := located
  have covered : row.ref.field "digest" = .str revision.digest := by rw [digest]; rfl
  simp only [InMemoryContractRegistry.resolve, show identityKey row.ref = row.identity from rfl,
    found, covered, bind_ok, raiseWhen_ok, standing]
  cases registry.decision? row.identity <;> simp

/-! ## Superseded later -/

/-- Every superseding decision is dated later than all decisions persisted before it for
the same revision. -/
def SupersededLater (tables : RegistryTables) : Prop :=
  tables.decisions.Pairwise fun earlier later =>
    earlier.contractRevisionId = later.contractRevisionId → later.decision = "superseded" →
      earlier.decidedAt < later.decidedAt

theorem supersededLater_iff (invariant : StoredRegistry platform environment tables) :
    SupersededLater tables ↔ ∀ row ∈ tables.revisions, Dated (tables.decisionsOf row.id) := by
  constructor
  · intro later row _
    rw [Dated, decisionsOf, List.pairwise_filter]
    refine later.imp fun step first second => step ?_
    rw [of_decide_eq_true first, of_decide_eq_true second]
  · intro dated
    refine List.pairwise_iff_forall_sublist.mpr fun {earlier later} pair same => ?_
    -- the pair belongs to the history of the revision that both decisions name
    have inside : earlier ∈ tables.decisions := pair.subset List.mem_cons_self
    obtain ⟨revision, _, stored, shape, _⟩ := invariant.decided earlier inside
    have named : earlier.contractRevisionId = revision.id := by rw [shape]; rfl
    have kept := pair.filter fun row => decide (row.contractRevisionId = revision.id)
    rw [List.filter_cons_of_pos (by simpa using named),
      List.filter_cons_of_pos (by simpa using same ▸ named), List.filter_nil] at kept
    exact List.pairwise_iff_forall_sublist.mp (dated revision stored) kept

/-- The decision persisted last for a revision. -/
def lastDecision (tables : RegistryTables) (row : ContractRevisionRow) : Option String :=
  (tables.decisionsOf row.id).getLast?.map ContractDecisionRow.decision

theorem status_accepted_iff (invariant : RegistryInvariant platform environment tables)
    {row : ContractRevisionRow} (member : row ∈ tables.revisions) :
    row.status = "accepted" ↔ lastDecision tables row = some "accepted" := by
  unfold lastDecision
  cases last : (tables.decisionsOf row.id).getLast? with
  | none =>
      have initial := invariant.undecided row member (List.getLast?_eq_none_iff.mp last)
      simp only [Option.map_none, reduceCtorEq, iff_false]
      intro accepted
      rw [accepted] at initial
      exact absurd initial (by decide)
  | some decision => simp [invariant.status row member decision last]

/-- The status of a revision always tells the decision persisted last. The registry of all
Projects can be rebuilt in every order of equal times, and resolves exactly the revisions
whose last decision accepts them, if and only if every superseding decision is dated later
than those persisted before it. -/
theorem contractRegistry_decisions_iff (reachable : RegistryReachable platform environment tables) :
    (∀ row ∈ tables.revisions,
        (row.status = "accepted" ↔ lastDecision tables row = some "accepted")) ∧
      ((∀ scan : ScanOrder, ∃ registry : InMemoryContractRegistry platform,
          tables.contractRegistry platform environment scan none = .ok registry ∧
            ∀ row ∈ tables.revisions,
              (∃ revision, registry.resolve row.ref = .ok revision) ↔
                lastDecision tables row = some "accepted") ↔
        SupersededLater tables) := by
  have invariant := invariant_of_reachable reachable
  refine ⟨fun row member => status_accepted_iff invariant member, ?_⟩
  rw [supersededLater_iff invariant.toStoredRegistry]
  constructor
  · intro every row member
    by_contra undated
    obtain ⟨superseding, first, accepting, second, superseded, accepted, late⟩ :=
      (invariant.histories row.id).undated undated
    obtain ⟨registry, rebuilt, _⟩ := every (.favouring superseding)
    have replays := (contractRegistry_all invariant.toStoredRegistry (.favouring superseding)).1.mp
      ⟨registry, rebuilt⟩ row member
    have differ : accepting ≠ superseding := by
      rintro rfl
      rw [accepted] at superseded
      exact absurd superseded (by decide)
    obtain ⟨stored, named⟩ := List.mem_filter.mp first
    obtain ⟨stored', named'⟩ := List.mem_filter.mp second
    obtain ⟨before, after, split, later⟩ :=
      ScanOrder.favouring_before differ late stored stored'
    rw [scannedOf, split, List.filter_append,
      List.filter_cons_of_pos (by exact named)] at replays
    exact not_replays superseded accepted (List.mem_filter.mpr ⟨later, named'⟩) none replays
  · intro dated scan
    have replay : ∀ row ∈ tables.revisions, _ := fun row member =>
      (invariant.histories row.id).replays (dated row member)
        (perm_scannedOf scan row.id) (sorted_scannedOf scan row.id)
    obtain ⟨rebuilds, stands⟩ := contractRegistry_all invariant.toStoredRegistry scan
    obtain ⟨registry, rebuilt⟩ := rebuilds.mpr fun row member => (replay row member).1
    refine ⟨registry, rebuilt, fun row member => ?_⟩
    obtain ⟨loaded, standing⟩ := stands registry rebuilt
    rw [resolve_ref_iff loaded member, standing row member, (replay row member).2]
    rfl

end Registry

/-! ## A superseding decision dated before the acceptance -/

namespace Sample

def goalRef : Json := Contracts.Sample.contract .goal "one"

/-- A human decision on the goal and the attestation that covers it. -/
def goalDecisionDump (decision time : String) : Json :=
  .obj [("authority", .obj [("attestation", .obj [("action", .str ("revision." ++ decision)),
        ("assertion_ref", .obj [("artifact_id", .str "assertion"), ("classification", .str "internal"),
          ("digest", .str Contracts.Sample.digestText), ("media_type", .str "application/json")]),
        ("attestation_id", .str "attestation"),
        ("challenge_digest", .str Contracts.Sample.digestText), ("credential_id", .str "credential"),
        ("origin", .str "origin"), ("principal_id", .str "human"), ("relying_party_id", .str "party"),
        ("schema_version", .str "1"), ("subject_digest", .str Contracts.Sample.digestText),
        ("target_digest", .str Contracts.Sample.digestText),
        ("user_verification", .str "required_verified"), ("verification_method", .str "webauthn"),
        ("verified_at_utc", .str time), ("verifier_ref", Contracts.Sample.capability)]),
      ("kind", .str "verified_human"), ("principal_id", .str "human")]),
    ("decided_at_utc", .str time), ("decision", .str decision), ("rationale", .str "reviewed"),
    ("revision_ref", goalRef), ("schema_version", .str "1")]

def acceptedAtTen : RevisionDecisionRecord Contracts.Sample.platform :=
  ⟨goalDecisionDump "accepted" "2026-01-01T00:00:10Z", by decide +kernel⟩

def supersededAtFive : RevisionDecisionRecord Contracts.Sample.platform :=
  ⟨goalDecisionDump "superseded" "2026-01-01T00:00:05Z", by decide +kernel⟩

/-- The goal, accepted at ten. -/
def acceptedGoal : RegistryTables :=
  ((twoProjects.saveContractRevision firstGoal "proposed" 0).tables.decideContractRevision
    verifying .stable acceptedAtTen).tables

/-- The acceptance is then superseded by a decision that was signed at five. -/
def backdated : RegistryTables :=
  (acceptedGoal.decideContractRevision verifying .stable supersededAtFive).tables

theorem reachable_acceptedGoal :
    RegistryReachable Contracts.Sample.platform verifying acceptedGoal :=
  ⟨twoProjects, ⟨rfl, rfl⟩, .tail (.tail .refl (.save twoProjects firstGoal "proposed" 0))
    (.decide _ .stable acceptedAtTen)⟩

theorem reachable_backdated : RegistryReachable Contracts.Sample.platform verifying backdated := by
  obtain ⟨start, initial, run⟩ := reachable_acceptedGoal
  exact ⟨start, initial, run.tail (.decide _ .stable supersededAtFive)⟩

end Sample

/-- Both decisions are persisted, and the registry can no longer be rebuilt. -/
theorem contractRegistry_refuses_backdated :
    RegistryReachable Contracts.Sample.platform Sample.verifying Sample.backdated ∧
      Sample.backdated.decisions.map ContractDecisionRow.decision = ["accepted", "superseded"] ∧
      ∀ scan, Sample.backdated.contractRegistry Contracts.Sample.platform Sample.verifying scan none =
        .error (.valueError "only an accepted revision can be superseded") := by
  refine ⟨Sample.reachable_backdated, by decide +kernel, fun scan => ?_⟩
  have scanned : scan.order Sample.backdated.decisions = Sample.backdated.decisions.reverse :=
    scan.order_eq (List.reverse_perm _) (by decide +kernel)
  rw [contractRegistry, scanned]
  decide +kernel

/-- The accepted goal is resolved. -/
theorem contractRegistry_resolves_acceptedGoal :
    RegistryReachable Contracts.Sample.platform Sample.verifying Sample.acceptedGoal ∧
      ∃ registry : InMemoryContractRegistry Contracts.Sample.platform,
        Sample.acceptedGoal.contractRegistry Contracts.Sample.platform Sample.verifying .stable none =
            .ok registry ∧
          ∃ revision, registry.resolve Sample.goalRef = .ok revision := by
  have later : SupersededLater Sample.acceptedGoal := by
    unfold SupersededLater
    decide +kernel
  obtain ⟨registry, rebuilt, resolved⟩ :=
    (contractRegistry_decisions_iff Sample.reachable_acceptedGoal).2.mpr later .stable
  have stored : ∃ row ∈ Sample.acceptedGoal.revisions, row.ref = Sample.goalRef ∧
      lastDecision Sample.acceptedGoal row = some "accepted" := by decide +kernel
  obtain ⟨row, member, same, accepted⟩ := stored
  exact ⟨Sample.reachable_acceptedGoal, registry, rebuilt,
    same ▸ (resolved row member).mpr accepted⟩

end Evidrun.Database
