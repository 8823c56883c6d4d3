import Evidrun.Lab.FocusedReads
import Mathlib.Algebra.Order.BigOperators.Group.List
import Mathlib.Algebra.BigOperators.Group.List.Lemmas
import Mathlib.Tactic.FieldSimp

/-!
# Aggregated metrics

`aggregate_metrics` selects the Runs by the Project of their experiment, joins each with its
grades and groups the joined rows. The sizes count distinct Runs; the completion rate averages
over the joined rows, so that a Run counts once for each of its grades.
-/

namespace Evidrun.Lab.Reads

set_option autoImplicit false

namespace LabTables

variable {tables : LabTables} {scope : SessionScope} {projectId : String}

/-! ## The joined rows -/

/-- How many joined rows a Run has. -/
def weight (tables : LabTables) (run : RunRow) : Nat :=
  max 1 (tables.grades.filter fun grade => grade.runId = run.id).length

theorem length_outerjoin (run : RunRow) : (tables.outerjoin run).length = tables.weight run := by
  unfold outerjoin weight
  split
  · next ungraded => simp [ungraded]
  · next graded =>
      have some := List.length_pos_of_ne_nil graded
      rw [List.length_map]
      omega

theorem run_of_mem_outerjoin {run : RunRow} {row : Joined} (member : row ∈ tables.outerjoin run) :
    row.run = run := by
  unfold outerjoin at member
  split at member
  · rw [List.mem_singleton.mp member]
  · obtain ⟨_, _, rfl⟩ := List.mem_map.mp member
    rfl

theorem filter_outerjoin (column : RunRow → String) (key : String) (runs : List RunRow) :
    (runs.flatMap tables.outerjoin).filter (fun row => column row.run = key) =
      (runs.filter fun run => column run = key).flatMap tables.outerjoin := by
  induction runs with
  | nil => rfl
  | cons run rest ih =>
      have own : (tables.outerjoin run).filter (fun row => column row.run = key) =
          if column run = key then tables.outerjoin run else [] := by
        split_ifs with same
        · exact List.filter_eq_self.mpr fun row member => by simp [run_of_mem_outerjoin member, same]
        · exact List.filter_eq_nil_iff.mpr fun row member => by
            simp [run_of_mem_outerjoin member, same]
      rw [List.flatMap_cons, List.filter_append, ih, own, List.filter_cons]
      split_ifs <;> simp_all

section

variable {runs : List RunRow} {column : RunRow → String} {runIds : List String}

/-- Every Run is in the join, and nothing else is. -/
theorem mem_joined (column : RunRow → String) {value : String} :
    value ∈ (runs.flatMap tables.outerjoin).map (fun row => column row.run) ↔
      value ∈ runs.map column := by
  constructor
  · intro member
    obtain ⟨row, joined, rfl⟩ := List.mem_map.mp member
    obtain ⟨run, inside, own⟩ := List.mem_flatMap.mp joined
    rw [run_of_mem_outerjoin own]
    exact List.mem_map_of_mem inside
  · intro member
    obtain ⟨run, inside, rfl⟩ := List.mem_map.mp member
    have filled : tables.outerjoin run ≠ [] := by
      rw [← List.length_pos_iff, length_outerjoin]
      exact Nat.lt_of_lt_of_le one_pos (le_max_left _ _)
    obtain ⟨row, own⟩ := List.exists_mem_of_ne_nil _ filled
    exact List.mem_map.mpr ⟨row, List.mem_flatMap.mpr ⟨run, inside, own⟩,
      by rw [run_of_mem_outerjoin own]⟩

theorem distinctRuns_joined (keyed : (runs.map RunRow.id).Nodup) :
    distinctRuns (runs.flatMap tables.outerjoin) = runs.length := by
  have same : ((runs.flatMap tables.outerjoin).map (·.run.id)).dedup.Perm (runs.map RunRow.id) :=
    (List.perm_ext_iff_of_nodup (List.nodup_dedup _) keyed).mpr fun id => by
      rw [List.mem_dedup, mem_joined RunRow.id]
  rw [distinctRuns, same.length_eq, List.length_map]

/-! ## The groups -/

/-- The requested Runs with a value of the grouping column. -/
def grouped (column : RunRow → String) (runs : List RunRow) (key : String) : List RunRow :=
  runs.filter fun run => column run = key

theorem grouped_keyed (key : String) (keyed : (runs.map RunRow.id).Nodup) :
    ((grouped column runs key).map RunRow.id).Nodup :=
  keyed.sublist (List.filter_sublist.map _)

/-- The group keys, in their order. -/
def keysOf (tables : LabTables) (column : RunRow → String) (runs : List RunRow) : List String :=
  ((runs.flatMap tables.outerjoin).map fun row => column row.run).dedup.mergeSort (· ≤ ·)

theorem keysOf_perm (column : RunRow → String) (runs : List RunRow) :
    (tables.keysOf column runs).Perm (runs.map column).dedup :=
  (List.mergeSort_perm _ _).trans <|
    (List.perm_ext_iff_of_nodup (List.nodup_dedup _) (List.nodup_dedup _)).mpr fun key => by
      rw [List.mem_dedup, List.mem_dedup, mem_joined]

theorem mem_keysOf {key : String} :
    key ∈ tables.keysOf column runs ↔ grouped column runs key ≠ [] := by
  rw [(keysOf_perm column runs).mem_iff, List.mem_dedup, List.mem_map, ne_eq, grouped,
    List.filter_eq_nil_iff]
  simp

theorem groupsOf_joined (metric : Metric) (column : RunRow → String)
    (keyed : (runs.map RunRow.id).Nodup) :
    (groupsOf metric column (runs.flatMap tables.outerjoin)).filter (0 < ·.sampleSize) =
      (tables.keysOf column runs).map fun key =>
        ⟨key, metric.value ((grouped column runs key).flatMap tables.outerjoin),
          (grouped column runs key).length⟩ := by
  have each (key : String) : distinctRuns ((grouped column runs key).flatMap tables.outerjoin) =
      (grouped column runs key).length := distinctRuns_joined (grouped_keyed key keyed)
  have groups : groupsOf metric column (runs.flatMap tables.outerjoin) =
      (tables.keysOf column runs).map fun key =>
        ⟨key, metric.value ((grouped column runs key).flatMap tables.outerjoin),
          (grouped column runs key).length⟩ := by
    simp only [groupsOf, filter_outerjoin, ← grouped.eq_1, each]
    rfl
  rw [groups]
  refine List.filter_eq_self.mpr fun group member => ?_
  obtain ⟨key, present, rfl⟩ := List.mem_map.mp member
  simpa [List.length_pos_iff] using mem_keysOf.mp present

/-- The Runs that an aggregation may read: those whose experiment is of the Project. -/
def Aggregable (tables : LabTables) (scope : SessionScope) (projectId : String)
    (runIds : List String) : Prop :=
  ∀ id ∈ runIds, ∃ run ∈ tables.runs, run.id = id ∧ tables.inFocus scope run = true ∧
    (run.experimentRevisionId.bind tables.experiment?).map ExperimentRevisionRow.projectId =
      some projectId

def requested (tables : LabTables) (runIds : List String) : List RunRow :=
  tables.runs.filter fun run => run.id ∈ runIds

theorem requested_keyed (runIds : List String) :
    ((tables.requested runIds).map RunRow.id).Nodup :=
  tables.runKeys.sublist (List.filter_sublist.map _)

/-- An aggregation is refused, or it groups the requested Runs. -/
theorem aggregateMetrics_answer (tables : LabTables) (within : scope.projectId = some projectId)
    {metric groupBy : String} {kind : Metric} (measured : Metric.ofName? metric = some kind)
    (grouping : groupColumn? groupBy = some column) (runIds : List String) :
    (¬ tables.Aggregable scope projectId runIds ∧
      tables.aggregateMetrics scope metric groupBy runIds =
        .error (.rejected (.targetNotVisible "run_ids"))) ∨
    (tables.Aggregable scope projectId runIds ∧
      tables.aggregateMetrics scope metric groupBy runIds =
        .ok ((tables.keysOf column (tables.requested runIds)).map fun key =>
          ⟨key, kind.value ((grouped column (tables.requested runIds) key).flatMap tables.outerjoin),
            (grouped column (tables.requested runIds) key).length⟩)) := by
  have missing : (runIds.any (· ∉ (tables.runs.filter fun row =>
      row.id ∈ runIds && tables.inFocus scope row &&
        (row.experimentRevisionId.bind tables.experiment?).any (·.projectId = projectId)).map
          RunRow.id)) = true ↔ ¬ tables.Aggregable scope projectId runIds := by
    simp only [Aggregable, List.any_eq_true, decide_eq_true_eq, List.mem_map, List.mem_filter,
      Bool.and_eq_true, Option.any_eq_true, Option.map_eq_some_iff, not_forall, exists_prop]
    refine exists_congr fun id => and_congr_right fun asked => not_congr ⟨?_, ?_⟩
    · rintro ⟨run, ⟨stored, ⟨_, focused⟩, owned⟩, rfl⟩
      exact ⟨run, stored, rfl, focused, owned⟩
    · rintro ⟨run, stored, rfl, focused, owned⟩
      exact ⟨run, ⟨stored, ⟨asked, focused⟩, owned⟩, rfl⟩
  by_cases allowed : tables.Aggregable scope projectId runIds
  · refine Or.inr ⟨allowed, ?_⟩
    have every : (tables.runs.filter fun row => row.id ∈ runIds && tables.inFocus scope row &&
        (row.experimentRevisionId.bind tables.experiment?).any (·.projectId = projectId)) =
        tables.requested runIds := List.filter_congr fun run stored => by
      by_cases asked : run.id ∈ runIds
      · obtain ⟨other, inside, same, focused, owned⟩ := allowed run.id asked
        cases Option.some.inj ((run?_of_mem inside).symm.trans (same ▸ run?_of_mem stored))
        obtain ⟨experiment, found, rfl⟩ := Option.map_eq_some_iff.mp owned
        simp [asked, focused, found]
      · simp [asked]
    rw [every] at missing
    simp only [aggregateMetrics, projectRequired, within, measured, grouping, bind, Except.bind,
      every, if_neg (mt missing.mp (not_not_intro allowed)),
      groupsOf_joined kind column (requested_keyed runIds)]
  · refine Or.inl ⟨allowed, ?_⟩
    simp only [aggregateMetrics, projectRequired, within, measured, grouping, bind, Except.bind,
      if_pos (missing.mpr allowed)]

/-! ## Which Runs are visible -/

/-- Every requested Run is stored and in focus. -/
def InReach (tables : LabTables) (scope : SessionScope) (runIds : List String) : Prop :=
  ∀ id ∈ runIds, ∃ run ∈ tables.runs, run.id = id ∧ tables.inFocus scope run = true

/-- The experiments of the requested Runs are of the Project exactly where the Runs are. -/
def AttributedAlike (tables : LabTables) (projectId : String) (runIds : List String) : Prop :=
  (∀ run ∈ tables.requested runIds, (run.experimentRevisionId.bind tables.experiment?).map
      ExperimentRevisionRow.projectId = some projectId) ↔
    ∀ run ∈ tables.requested runIds, tables.projectIdForRun run = .ok projectId

theorem forall_requested {Good : RunRow → Prop} :
    (∀ id ∈ runIds, ∃ run ∈ tables.runs, run.id = id ∧ tables.inFocus scope run = true ∧ Good run) ↔
      tables.InReach scope runIds ∧ ∀ run ∈ tables.requested runIds, Good run := by
  constructor
  · intro every
    refine ⟨fun id asked => ?_, fun run member => ?_⟩
    · obtain ⟨run, stored, named, focused, _⟩ := every id asked
      exact ⟨run, stored, named, focused⟩
    · obtain ⟨stored, asked⟩ := List.mem_filter.mp member
      obtain ⟨other, inside, same, _, good⟩ := every run.id (by simpa using asked)
      cases Option.some.inj ((run?_of_mem inside).symm.trans (same ▸ run?_of_mem stored))
      exact good
  · rintro ⟨reach, good⟩ id asked
    obtain ⟨run, stored, rfl, focused⟩ := reach id asked
    exact ⟨run, stored, rfl, focused, good run (List.mem_filter.mpr ⟨stored, by simpa using asked⟩)⟩

/-- The requested Runs are as many as the distinct ids. -/
theorem length_requested (reach : tables.InReach scope runIds) :
    (tables.requested runIds).length = runIds.dedup.length := by
  have same : ((tables.requested runIds).map RunRow.id).Perm runIds.dedup :=
    (List.perm_ext_iff_of_nodup (requested_keyed runIds) (List.nodup_dedup _)).mpr fun id => by
      rw [List.mem_dedup]
      constructor
      · intro member
        obtain ⟨run, inside, rfl⟩ := List.mem_map.mp member
        simpa using (List.mem_filter.mp inside).2
      · intro asked
        obtain ⟨run, stored, rfl, _⟩ := reach id asked
        exact List.mem_map_of_mem (List.mem_filter.mpr ⟨stored, by simpa using asked⟩)
  rw [← same.length_eq, List.length_map]

theorem sum_grouped (column : RunRow → String) (runs : List RunRow) :
    ((tables.keysOf column runs).map fun key => (grouped column runs key).length).sum =
      runs.length := by
  have sizes : ∀ key, (grouped column runs key).length = (runs.map column).count key := fun key => by
    rw [grouped, List.count, List.countP_map, List.countP_eq_length_filter]
    exact congrArg List.length (List.filter_congr fun _ _ => by simp [beq_eq_decide])
  simp only [sizes]
  rw [((keysOf_perm column runs).map _).sum_eq, List.sum_map_count_dedup_eq_length, List.length_map]

/-- Aggregation and reading agree on visibility where the two ways to find a Run's Project do. -/
theorem aggregation_agrees_iff (tables : LabTables) {scope : SessionScope} {projectId : String}
    (within : scope.projectId = some projectId)
    (resolves : ∀ run ∈ tables.runs, ∃ owner, tables.projectIdForRun run = .ok owner)
    {metric groupBy : String} {kind : Metric} {column : RunRow → String}
    (measured : Metric.ofName? metric = some kind) (grouping : groupColumn? groupBy = some column)
    (runIds : List String) :
    ((RefusedAsNotVisible (tables.aggregateMetrics scope metric groupBy runIds) ↔
        ∃ id ∈ runIds, RefusedAsNotVisible (tables.readRun scope id)) ∧
      ∀ groups, tables.aggregateMetrics scope metric groupBy runIds = .ok groups →
        (groups.map MetricGroup.sampleSize).sum = runIds.dedup.length) ↔
      (tables.InReach scope runIds → tables.AttributedAlike projectId runIds) := by
  have readable : (∃ id ∈ runIds, RefusedAsNotVisible (tables.readRun scope id)) ↔
      ¬ (tables.InReach scope runIds ∧
        ∀ run ∈ tables.requested runIds, tables.projectIdForRun run = .ok projectId) := by
    rw [← forall_requested]
    simp only [refused_readRun within resolves, not_forall, exists_prop, and_comm, and_left_comm]
  have answer := aggregateMetrics_answer tables within measured grouping runIds
  have sums : ∀ groups, tables.aggregateMetrics scope metric groupBy runIds = .ok groups →
      (groups.map MetricGroup.sampleSize).sum = runIds.dedup.length := by
    intro groups returned
    rcases answer with ⟨_, refused⟩ | ⟨allowed, grouped⟩
    · exact nomatch refused.symm.trans returned
    · cases grouped.symm.trans returned
      rw [List.map_map]
      exact (sum_grouped column _).trans (length_requested (forall_requested.mp allowed).1)
  have refusal : RefusedAsNotVisible (tables.aggregateMetrics scope metric groupBy runIds) ↔
      ¬ tables.Aggregable scope projectId runIds := by
    rcases answer with ⟨missing, refused⟩ | ⟨allowed, grouped⟩
    · exact iff_of_true ⟨_, refused⟩ missing
    · refine iff_of_false ?_ (not_not_intro allowed)
      rintro ⟨field, refused⟩
      exact nomatch grouped.symm.trans refused
  rw [and_iff_left sums, readable, refusal, Aggregable, forall_requested, not_iff_not]
  exact and_congr_right_iff

/-! ## What the metrics count -/

/-- Among the requested Runs of a group, those with a completion time. -/
def completed (runs : List RunRow) : List RunRow := runs.filter fun run => run.completedAt.isSome

def rows (tables : LabTables) (runs : List RunRow) : Nat := (runs.map tables.weight).sum

/-- The completed Runs of a group have as many joined rows each, on average, as all of them. -/
def Balanced (tables : LabTables) (runs : List RunRow) : Prop :=
  (completed runs).length * tables.rows runs = runs.length * tables.rows (completed runs)

/-- What the groups say about the requested Runs. -/
structure CountsRuns (tables : LabTables) (scope : SessionScope) (groupBy : String)
    (column : RunRow → String) (runIds : List String) : Prop where
  sizes : ∀ metric groups, tables.aggregateMetrics scope metric groupBy runIds = .ok groups →
    ∀ group ∈ groups, group.sampleSize =
      (grouped column (tables.requested runIds) group.group).length
  counts : ∀ groups, tables.aggregateMetrics scope "run_count" groupBy runIds = .ok groups →
    ∀ group ∈ groups, group.value =
      some ((grouped column (tables.requested runIds) group.group).length : Rat)
  rates : ∀ groups, tables.aggregateMetrics scope "completion_rate" groupBy runIds = .ok groups →
    ∀ group ∈ groups, group.value =
      some ((completed (grouped column (tables.requested runIds) group.group)).length /
        (grouped column (tables.requested runIds) group.group).length : Rat)

theorem length_joined (runs : List RunRow) :
    (runs.flatMap tables.outerjoin).length = tables.rows runs := by
  simp [rows, List.length_flatMap, length_outerjoin]

theorem sum_completed (runs : List RunRow) :
    ((runs.flatMap tables.outerjoin).map fun row =>
      if row.run.completedAt.isSome then (1 : Rat) else 0).sum = tables.rows (completed runs) := by
  induction runs with
  | nil => simp [rows, completed]
  | cons run rest ih =>
      have own : (tables.outerjoin run).map (fun row =>
          if row.run.completedAt.isSome then (1 : Rat) else 0) =
          List.replicate (tables.weight run) (if run.completedAt.isSome then 1 else 0) := by
        rw [← length_outerjoin, List.eq_replicate_iff]
        refine ⟨List.length_map _, fun value member => ?_⟩
        obtain ⟨row, joined, rfl⟩ := List.mem_map.mp member
        rw [run_of_mem_outerjoin joined]
      rw [List.flatMap_cons, List.map_append, List.sum_append, ih, own, List.sum_replicate]
      by_cases done : run.completedAt.isSome <;> simp [completed, rows, done]

/-- The average over the joined rows is the rate where the group is balanced. -/
theorem completionRate_iff (filled : runs ≠ []) :
    Metric.value (runs.flatMap tables.outerjoin) .completionRate =
      some ((completed runs).length / runs.length : Rat) ↔ tables.Balanced runs := by
  have joined : 0 < tables.rows runs := by
    obtain ⟨run, member⟩ := List.exists_mem_of_ne_nil _ filled
    exact (Nat.lt_of_lt_of_le one_pos (le_max_left 1 _)).trans_le
      (List.single_le_sum (by simp) _ (List.mem_map_of_mem member))
  have size : 0 < runs.length := List.length_pos_of_ne_nil filled
  have average : Metric.value (runs.flatMap tables.outerjoin) .completionRate =
      some (tables.rows (completed runs) / tables.rows runs : Rat) := by
    rw [Metric.value, LabTables.average, if_neg, List.length_map, length_joined, sum_completed]
    rw [List.isEmpty_iff, ← List.length_eq_zero_iff, List.length_map, length_joined]
    exact joined.ne'
  rw [average, Option.some.injEq, div_eq_div_iff (Nat.cast_ne_zero.mpr joined.ne')
    (Nat.cast_ne_zero.mpr size.ne'), Balanced]
  norm_cast
  rw [eq_comm, Nat.mul_comm (tables.rows (completed runs))]

/-- The groups of an aggregation that is not refused. -/
theorem groups_of_ok {metric groupBy : String} (grouping : groupColumn? groupBy = some column)
    {groups : List MetricGroup}
    (returned : tables.aggregateMetrics scope metric groupBy runIds = .ok groups) :
    ∃ kind projectId, Metric.ofName? metric = some kind ∧
      tables.Aggregable scope projectId runIds ∧ scope.projectId = some projectId ∧
      groups = (tables.keysOf column (tables.requested runIds)).map fun key =>
        ⟨key, kind.value ((grouped column (tables.requested runIds) key).flatMap tables.outerjoin),
          (grouped column (tables.requested runIds) key).length⟩ := by
  cases within : scope.projectId with
  | none => simp [aggregateMetrics, projectRequired, within, bind, Except.bind] at returned
  | some projectId =>
      cases measured : Metric.ofName? metric with
      | none =>
          simp [aggregateMetrics, projectRequired, within, measured, bind, Except.bind] at returned
      | some kind =>
          rcases aggregateMetrics_answer tables within measured grouping runIds with
            ⟨_, refused⟩ | ⟨allowed, answered⟩
          · cases refused.symm.trans returned
          · cases answered.symm.trans returned
            exact ⟨kind, projectId, rfl, allowed, rfl, rfl⟩

end

/-- The groups count Runs where the completed Runs of each group have as many grades, on average,
as all of its Runs. -/
theorem aggregation_counts_runs_iff (tables : LabTables) {scope : SessionScope} {groupBy : String}
    {column : RunRow → String} (grouping : groupColumn? groupBy = some column)
    {runIds : List String} {groups : List MetricGroup}
    (accepted : tables.aggregateMetrics scope "completion_rate" groupBy runIds = .ok groups) :
    tables.CountsRuns scope groupBy column runIds ↔
      ∀ key, tables.Balanced (grouped column (tables.requested runIds) key) := by
  constructor
  · intro counts key
    by_cases present : grouped column (tables.requested runIds) key = []
    · simp [present, Balanced, completed]
    · obtain ⟨kind, _, measured, _, _, rfl⟩ := groups_of_ok grouping accepted
      cases measured
      exact (completionRate_iff present).mp
        (counts.rates _ accepted _ (List.mem_map_of_mem (mem_keysOf.mpr present)))
  · intro balanced
    refine ⟨fun metric groups returned group member => ?_, fun groups returned group member => ?_,
      fun groups returned group member => ?_⟩ <;>
      obtain ⟨kind, _, measured, _, _, rfl⟩ := groups_of_ok grouping returned <;>
      obtain ⟨key, present, rfl⟩ := List.mem_map.mp member
    · rfl
    · cases measured
      rw [Metric.value, distinctRuns_joined (grouped_keyed key (requested_keyed runIds))]
    · cases measured
      exact (completionRate_iff (mem_keysOf.mp present)).mpr (balanced key)

end LabTables

namespace Sample

/-- Two Runs of one experiment, and a Run whose only contract is its RunSpec. -/
def graded : LabTables := { tables with
  specs := [⟨"rspec_1", "latency", ⟨"latency", 1, "d1"⟩, [], rfl⟩]
  runs := [⟨"run_1", some "expr_1", none, none, "stopped", "base", "runner", 0, some 1⟩,
    ⟨"run_2", some "expr_1", none, none, "stopped", "base", "runner", 0, none⟩,
    ⟨"run_3", none, some "rspec_1", none, "queued", "base", "runner", 0, none⟩]
  grades := [⟨"run_1", "exact", 1⟩, ⟨"run_1", "model", 1⟩]
  specKeys := by decide
  runKeys := by decide }

def scope : SessionScope := ⟨"ws_1", some "prj_1", none⟩

end Sample

open Sample LabTables

theorem graded_resolves : ∀ run ∈ graded.runs, ∃ owner, graded.projectIdForRun run = .ok owner := by
  intro run member
  simp only [graded, List.mem_cons, List.not_mem_nil, or_false] at member
  rcases member with rfl | rfl | rfl <;> exact ⟨"prj_1", rfl⟩

/-- A Run without an experiment is read in its Project and refused in the aggregation. -/
theorem run_without_experiment_not_aggregated :
    (∀ run ∈ graded.runs, ∃ owner, graded.projectIdForRun run = .ok owner) ∧
      RefusedAsNotVisible (graded.aggregateMetrics scope "run_count" "status" ["run_3"]) ∧
      ¬ RefusedAsNotVisible (graded.readRun scope "run_3") :=
  ⟨graded_resolves, ⟨"run_ids", rfl⟩, fun ⟨_, refused⟩ => nomatch refused⟩

/-- The Runs of the experiment are aggregated as they are read. -/
theorem experiment_runs_aggregated :
    (RefusedAsNotVisible (graded.aggregateMetrics scope "run_count" "status" ["run_1", "run_2"]) ↔
      ∃ id ∈ ["run_1", "run_2"], RefusedAsNotVisible (graded.readRun scope id)) ∧
    ∀ groups, graded.aggregateMetrics scope "run_count" "status" ["run_1", "run_2"] = .ok groups →
      (groups.map MetricGroup.sampleSize).sum = 2 :=
  (aggregation_agrees_iff graded rfl graded_resolves rfl rfl ["run_1", "run_2"]).mpr fun _ => by
    unfold AttributedAlike
    decide

/-- The rates of Runs of the experiment. -/
theorem rates_of_experiment {runIds : List String}
    (allowed : graded.Aggregable scope "prj_1" runIds) :
    graded.aggregateMetrics scope "completion_rate" "status" runIds =
      .ok ((graded.keysOf RunRow.status (graded.requested runIds)).map fun key =>
        ⟨key, Metric.completionRate.value
          ((grouped RunRow.status (graded.requested runIds) key).flatMap graded.outerjoin),
          (grouped RunRow.status (graded.requested runIds) key).length⟩) :=
  (aggregateMetrics_answer graded rfl rfl rfl runIds).elim (fun refused => absurd allowed refused.1)
    And.right

/-- One completed Run with two grades and one open Run: the rate is said to be two thirds. -/
theorem graded_run_counted_twice :
    graded.aggregateMetrics scope "completion_rate" "status" ["run_1", "run_2"] =
      .ok [⟨"stopped", some (2 / 3), 2⟩] ∧
    ¬ graded.CountsRuns scope "status" RunRow.status ["run_1", "run_2"] := by
  have answer := rates_of_experiment
    (show graded.Aggregable scope "prj_1" ["run_1", "run_2"] by unfold Aggregable; decide)
  have keys : graded.keysOf RunRow.status (graded.requested ["run_1", "run_2"]) = ["stopped"] := by
    have rows : ((graded.requested ["run_1", "run_2"]).flatMap graded.outerjoin).map
        (fun row => row.run.status) = ["stopped", "stopped", "stopped"] := rfl
    simp [keysOf, rows]
  have value : Metric.completionRate.value ((grouped RunRow.status
      (graded.requested ["run_1", "run_2"]) "stopped").flatMap graded.outerjoin) = some (2 / 3) := by
    decide +kernel
  rw [keys, List.map_singleton, value] at answer
  refine ⟨answer, fun counts => ?_⟩
  have rate := counts.rates _ answer _ (List.mem_singleton_self _)
  revert rate
  decide +kernel

/-- Alone in its group the Run is counted once, whatever its grades. -/
theorem single_run_counted_once : graded.CountsRuns scope "status" RunRow.status ["run_1"] := by
  refine (aggregation_counts_runs_iff graded rfl
    (rates_of_experiment (by unfold Aggregable; decide))).mpr fun key => ?_
  have single : graded.requested ["run_1"] =
    [⟨"run_1", some "expr_1", none, none, "stopped", "base", "runner", 0, some 1⟩] := rfl
  rw [single]
  by_cases same : "stopped" = key <;> simp [grouped, same, LabTables.Balanced, completed,
    LabTables.rows]

end Evidrun.Lab.Reads
