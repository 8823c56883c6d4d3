import Evidrun.Lab.ReadRepository

/-!
# What a focused session sees

A session stores the id of its focus, and each read looks the focus up again. For a Run
and a comparison both sides use the row id. A Study is focused by the row id of one of its
revisions, while the reads compare that id with logical ids.
-/

namespace Evidrun.Lab.Reads

set_option autoImplicit false

namespace LabTables

variable {tables : LabTables} {scope : SessionScope}

/-- Neither refused as not visible nor failed: read, or withheld as classified. -/
def Visible {Result : Type} (answer : Except ReadFault Result) : Prop :=
  ∀ fault, answer = .error fault → ∃ field, fault = .rejected (.classificationGrantRequired field)

def RefusedAsNotVisible {Result : Type} (answer : Except ReadFault Result) : Prop :=
  ∃ field, answer = .error (.rejected (.targetNotVisible field))

/-- A Run that a focus is about. -/
def OfFocus (tables : LabTables) (run : RunRow) : FocusKind × String → Prop
  | (.run, id) => run.id = id
  | (.comparison, id) => ∃ row ∈ tables.comparisons, row.id = id ∧
      (row.baselineRunId = run.id ∨ row.candidateRunId = run.id)
  | (.study, id) => ∃ study ∈ tables.revisions, study.id = id ∧ ∃ spec ∈ tables.specs,
      run.runSpecId = some spec.id ∧ spec.studyRef.logicalId = study.logicalId

/-- The Runs of the Project that the focus is about. -/
def Belongs (tables : LabTables) (projectId : String) (focus : FocusKind × String)
    (runId : String) : Prop :=
  ∃ run ∈ tables.runs, run.id = runId ∧ tables.projectIdForRun run = .ok projectId ∧
    tables.OfFocus run focus

/-- The focused object itself. -/
def FocusRefused (tables : LabTables) (scope : SessionScope) : FocusKind × String → Prop
  | (.run, id) => RefusedAsNotVisible (tables.readRun scope id)
  | (.comparison, id) => RefusedAsNotVisible (tables.readComparison scope id)
  | (.study, id) => RefusedAsNotVisible (tables.readContractRevision scope id)

structure SeesFocus (tables : LabTables) (scope : SessionScope) (projectId : String)
    (focus : FocusKind × String) : Prop where
  focused : ¬ tables.FocusRefused scope focus
  reads : ∀ runId, Visible (tables.readRun scope runId) ↔ tables.Belongs projectId focus runId
  lists : ∀ runId, (∃ limit status rows, tables.listRuns scope limit status = .ok rows ∧
    runId ∈ rows.map RunRow.id) ↔ tables.Belongs projectId focus runId

/-- The focused Study's logical id is its row id, the contracts of a focused Run are stored, and
no Run of the focus hides another one of its status because its own Project cannot be read. -/
structure FocusAligned (tables : LabTables) (projectId : String) (focus : FocusKind × String) :
    Prop where
  study : focus.1 = .study → ∀ row ∈ tables.revisions, row.id = focus.2 → row.logicalId = focus.2
  run : focus.1 = .run → ∀ row ∈ tables.runs, row.id = focus.2 →
    tables.projectIdForRun row ≠ .error .keyError
  listed : ∀ run ∈ tables.runs, tables.OfFocus run focus →
    tables.projectIdForRun run = .ok projectId → ∀ other ∈ tables.runs,
      tables.OfFocus other focus → other.status = run.status →
        ∃ owner, tables.projectIdForRun other = .ok owner

/-! ## The reads -/

theorem run?_of_mem {run : RunRow} (member : run ∈ tables.runs) :
    tables.run? run.id = some run :=
  Table.find_of_mem tables.runKeys member

theorem resolveRun_ok {run : RunRow} {owner : String} :
    tables.resolveRun run = .ok owner ↔ tables.projectIdForRun run = .ok owner := by
  unfold resolveRun
  split <;> simp_all

theorem projectIdForRun_error {run : RunRow} {fault : ReadFault}
    (failed : tables.projectIdForRun run = .error fault) :
    fault = .keyError ∨ ∃ reason, fault = .valueError reason := by
  unfold projectIdForRun at failed
  split at failed <;> split at failed <;> (try split at failed) <;> (try split_ifs at failed) <;>
    cases failed <;> simp

theorem ofProject_of_resolves {projectId : String} {candidates : List RunRow}
    (every : ∀ row ∈ candidates, ∃ owner, tables.projectIdForRun row = .ok owner) :
    tables.ofProject projectId candidates =
      .ok (candidates.filter fun row => tables.projectIdForRun row = .ok projectId) := by
  induction candidates with
  | nil => rfl
  | cons row rest ih =>
      obtain ⟨⟨owner, found⟩, every⟩ := List.forall_mem_cons.mp every
      by_cases same : owner = projectId <;>
        simp [ofProject, resolveRun_ok.mpr found, ih every, found, same, bind, Except.bind]

theorem resolves_of_ofProject {projectId : String} {candidates rows : List RunRow}
    (read : tables.ofProject projectId candidates = .ok rows) :
    ∀ row ∈ candidates, ∃ owner, tables.projectIdForRun row = .ok owner := by
  induction candidates generalizing rows with
  | nil => simp
  | cons row rest ih =>
      simp only [ofProject, bind, Except.bind] at read
      split at read
      · cases read
      · next owner owned =>
          split at read
          · cases read
          · next others later =>
              exact List.forall_mem_cons.mpr ⟨⟨owner, resolveRun_ok.mp owned⟩, ih later⟩

section Scope

variable {projectId : String} (within : scope.projectId = some projectId)
include within

theorem requireProject_eq (target field : String) :
    requireProject scope target field = if target = projectId then .ok ()
      else .error (.rejected (.targetNotVisible field)) := by
  simp [requireProject, projectRequired, within]
  rfl

/-- What `read_run` answers: the Run of the Project in focus, a refusal, or why the Project of the
Run cannot be read. -/
theorem readRun_answer (runId : String) :
    (∃ run ∈ tables.runs, run.id = runId ∧ tables.projectIdForRun run = .ok projectId ∧
      tables.inFocus scope run = true) ∧ Visible (tables.readRun scope runId) ∨
    (¬ ∃ run ∈ tables.runs, run.id = runId ∧ tables.projectIdForRun run = .ok projectId ∧
      tables.inFocus scope run = true) ∧ (RefusedAsNotVisible (tables.readRun scope runId) ∨
        ∃ run ∈ tables.runs, ∃ reason, tables.projectIdForRun run = .error (.valueError reason) ∧
          tables.readRun scope runId = .error (.valueError reason)) := by
  cases found : tables.run? runId with
  | none =>
      refine Or.inr ⟨?_, Or.inl ⟨"run_id", by simp [readRun, found]⟩⟩
      rintro ⟨run, member, rfl, _⟩
      exact nomatch found.symm.trans (run?_of_mem member)
  | some run =>
      have member := Table.find_mem found
      have key : run.id = runId := Table.find_key found
      have only : ∀ other ∈ tables.runs, other.id = runId → other = run := fun other stored same =>
        Option.some.inj ((run?_of_mem stored).symm.trans (same ▸ found))
      by_cases seen : tables.projectIdForRun run = .ok projectId ∧ tables.inFocus scope run = true
      · refine Or.inl ⟨⟨run, member, key, seen⟩, fun fault failed => ?_⟩
        simp only [readRun, found, resolveRun_ok.mpr seen.1, requireProject_eq within, seen.2,
          if_true, bind, Except.bind, Bool.not_true, Bool.false_eq_true, if_false] at failed
        split_ifs at failed
        exact ⟨_, (Except.error.inj failed).symm⟩
      · refine Or.inr ⟨fun ⟨other, stored, same, rest⟩ => seen (only other stored same ▸ rest), ?_⟩
        cases owned : tables.projectIdForRun run with
        | error fault =>
            obtain rfl | ⟨reason, rfl⟩ := projectIdForRun_error owned
            · exact Or.inl ⟨"run_id", by simp [readRun, found, resolveRun, owned, bind, Except.bind]⟩
            · exact Or.inr ⟨run, member, reason, owned,
                by simp [readRun, found, resolveRun, owned, bind, Except.bind]⟩
        | ok owner =>
            refine Or.inl ⟨"run_id", ?_⟩
            by_cases same : owner = projectId
            · have out : tables.inFocus scope run = false := by simpa [owned, same] using seen
              simp [readRun, found, resolveRun, owned, requireProject_eq within, same, out, bind,
                Except.bind]
            · simp [readRun, found, resolveRun, owned, requireProject_eq within, same, bind,
                Except.bind]

/-- A Run is visible where its Project and the focus allow it. -/
theorem visible_readRun (runId : String) :
    Visible (tables.readRun scope runId) ↔ ∃ run ∈ tables.runs, run.id = runId ∧
      tables.projectIdForRun run = .ok projectId ∧ tables.inFocus scope run = true := by
  rcases readRun_answer within runId with ⟨seen, visible⟩ | ⟨hidden, answer⟩
  · exact iff_of_true visible seen
  · refine iff_of_false (fun visible => ?_) hidden
    obtain ⟨field, refused⟩ | ⟨_, _, reason, _, failed⟩ := answer
    · obtain ⟨_, other⟩ := visible _ refused
      cases other
    · obtain ⟨_, other⟩ := visible _ failed
      cases other

/-- Where every Run has a Project, what is not visible is refused as such. -/
theorem refused_readRun (resolves : ∀ run ∈ tables.runs, ∃ owner,
    tables.projectIdForRun run = .ok owner) (runId : String) :
    RefusedAsNotVisible (tables.readRun scope runId) ↔ ¬ ∃ run ∈ tables.runs, run.id = runId ∧
      tables.projectIdForRun run = .ok projectId ∧ tables.inFocus scope run = true := by
  rcases readRun_answer within runId with ⟨seen, visible⟩ | ⟨hidden, answer⟩
  · refine iff_of_false (fun ⟨field, refused⟩ => ?_) (not_not_intro seen)
    obtain ⟨_, other⟩ := visible _ refused
    cases other
  · refine iff_of_true (answer.resolve_right ?_) hidden
    rintro ⟨run, member, reason, failed, _⟩
    obtain ⟨owner, owned⟩ := resolves run member
    exact nomatch failed.symm.trans owned

/-- A Run can be listed where every Run that shares its status in the focus has a Project. -/
theorem listable_iff (runId : String) :
    (∃ limit status rows, tables.listRuns scope limit status = .ok rows ∧
      runId ∈ rows.map RunRow.id) ↔
      ∃ run ∈ tables.runs, run.id = runId ∧ tables.projectIdForRun run = .ok projectId ∧
        tables.inFocus scope run = true ∧ ∀ other ∈ tables.runs, tables.inFocus scope other = true →
          other.status = run.status → ∃ owner, tables.projectIdForRun other = .ok owner := by
  have listing (limit : Nat) (status : Option String) :
      tables.listRuns scope limit status = (tables.ofProject projectId
        ((tables.runs.filter fun row => tables.inFocus scope row &&
          status.all (row.status = ·)).mergeSort newestFirst)).map (·.take limit) := by
    simp only [listRuns, projectRequired, within, bind, Except.bind]
    cases tables.ofProject projectId _ <;> rfl
  constructor
  · rintro ⟨limit, status, rows, listed, member⟩
    simp only [listing, Except.map] at listed
    split at listed
    · cases listed
    · next found read =>
        have resolves := resolves_of_ofProject read
        rw [ofProject_of_resolves resolves] at read
        cases read
        cases listed
        obtain ⟨run, shown, rfl⟩ := List.mem_map.mp member
        have kept := List.mem_filter.mp (List.mem_of_mem_take shown)
        simp only [List.mem_mergeSort, List.mem_filter, Bool.and_eq_true, decide_eq_true_eq]
          at kept resolves
        obtain ⟨⟨inside, focused, chosen⟩, owned⟩ := kept
        exact ⟨run, inside, rfl, owned, focused, fun other stored seen same =>
          resolves other ⟨stored, seen, same ▸ chosen⟩⟩
  · rintro ⟨run, inside, rfl, owned, focused, resolves⟩
    refine ⟨tables.runs.length, some run.status, _, (listing _ _).trans (congrArg (Except.map _)
      (ofProject_of_resolves fun row member => ?_)), ?_⟩
    · simp only [List.mem_mergeSort, List.mem_filter, Bool.and_eq_true, Option.all_some,
        decide_eq_true_eq] at member
      exact resolves row member.1 member.2.1 member.2.2
    · refine List.mem_map_of_mem ?_
      beta_reduce
      rw [List.take_of_length_le]
      · simp [inside, focused, owned]
      · exact (List.length_filter_le _ _).trans
          ((List.length_mergeSort _).trans_le (List.length_filter_le _ _))

end Scope

/-! ## The focus -/

/-- The Project of a Run is one that a focus on the Run is attributed to. -/
theorem mem_runProjects {run : RunRow} {owner : String}
    (owned : tables.projectIdForRun run = .ok owner) : owner ∈ tables.runProjects run := by
  unfold projectIdForRun at owned
  unfold runProjects
  split at owned <;> split at owned
  · cases owned
  · split at owned
    · cases owned
    · cases owned
      simp_all
  · cases owned
  · split at owned
    · cases owned
    · split_ifs at owned
      cases owned
      simp_all

section

variable {projectId : String} {focus : FocusKind × String}

/-- A session that is focused on a Study was given the row id of one of its revisions. -/
theorem study_of_accepted {id : String}
    (accepted : tables.projectForFocus (.study, id) = some projectId) :
    ∃ row, tables.revision? id = some row ∧ row.projectId = projectId := by
  simp only [projectForFocus, Option.bind_eq_bind, Option.bind_eq_some_iff] at accepted
  obtain ⟨row, found, typed⟩ := accepted
  split_ifs at typed
  exact ⟨row, found, Option.some.inj typed⟩

theorem inFocus_iff (focused : scope.focus = some focus)
    (accepted : tables.projectForFocus focus = some projectId)
    (study : focus.1 = .study → ∀ row ∈ tables.revisions, row.id = focus.2 → row.logicalId = focus.2)
    (run : RunRow) : tables.inFocus scope run = true ↔ tables.OfFocus run focus := by
  obtain ⟨kind, id⟩ := focus
  cases kind with
  | run => simp [inFocus, focused, OfFocus]
  | comparison => simp [inFocus, focused, OfFocus]
  | study =>
      obtain ⟨row, found, _⟩ := study_of_accepted accepted
      have named := study rfl row (Table.find_mem found) (Table.find_key found)
      simp only [inFocus, focused, OfFocus, List.any_eq_true, Bool.and_eq_true, decide_eq_true_eq]
      constructor
      · rintro ⟨spec, stored, used, same⟩
        exact ⟨row, Table.find_mem found, Table.find_key found, spec, stored, used,
          (spec.compiledFrom.symm.trans same).trans named.symm⟩
      · rintro ⟨other, stored, sameId, spec, inside, used, same⟩
        have logical : other.logicalId = id := study rfl other stored sameId
        exact ⟨spec, inside, used, (spec.compiledFrom.trans same).trans logical⟩

/-- The focused object is read where the ids that both sides use agree. -/
theorem focusRefused_iff (within : scope.projectId = some projectId)
    (focused : scope.focus = some focus) (accepted : tables.projectForFocus focus = some projectId) :
    tables.FocusRefused scope focus ↔
      ¬ ((focus.1 = .study → ∀ row ∈ tables.revisions, row.id = focus.2 → row.logicalId = focus.2) ∧
        (focus.1 = .run → ∀ row ∈ tables.runs, row.id = focus.2 →
          tables.projectIdForRun row ≠ .error .keyError)) := by
  obtain ⟨kind, id⟩ := focus
  cases kind with
  | study =>
      obtain ⟨row, found, owned⟩ := study_of_accepted accepted
      have only : ∀ other ∈ tables.revisions, other.id = id → other = row := fun other stored same =>
        Option.some.inj ((Table.find_of_mem tables.revisionKeys stored).symm.trans (same ▸ found))
      have member := Table.find_mem found
      have key : row.id = id := Table.find_key found
      have answer : tables.readContractRevision scope id =
          if row.logicalId = id then
            if containsClassified row.document then
              .error (.rejected (.classificationGrantRequired "revision_ref"))
            else .ok ⟨row.document, row.status, row.digest⟩
          else .error (.rejected (.targetNotVisible "revision_ref")) := by
        simp only [readContractRevision, found, requireProject_eq within, owned, if_true,
          focusAllowsRevision, focused, bind, Except.bind]
        by_cases same : row.logicalId = id <;> simp [same]
      have aligned : (∀ other ∈ tables.revisions, other.id = id → other.logicalId = id) ↔
          row.logicalId = id :=
        ⟨fun every => every row member key, fun same other stored named =>
          only other stored named ▸ same⟩
      simp only [FocusRefused, RefusedAsNotVisible, answer, forall_const, aligned, reduceCtorEq,
        false_implies, and_true]
      by_cases same : row.logicalId = id
      · split_ifs <;> simp [same]
      · simp [same]
  | comparison =>
      simp only [projectForFocus, Option.bind_eq_bind, Option.bind_eq_some_iff,
        Option.some.injEq] at accepted
      obtain ⟨row, found, experiment, stored, owned⟩ := accepted
      simp [FocusRefused, RefusedAsNotVisible, readComparison, found, stored,
        requireProject_eq within, owned, focused, bind, Except.bind]
  | run =>
      simp only [projectForFocus, Option.bind_eq_bind, Option.bind_eq_some_iff] at accepted
      obtain ⟨row, found, attributed⟩ := accepted
      have member := Table.find_mem found
      have key : row.id = id := Table.find_key found
      have aligned : (∀ other ∈ tables.runs, other.id = id →
          tables.projectIdForRun other ≠ .error .keyError) ↔
          tables.projectIdForRun row ≠ .error .keyError :=
        ⟨fun every => every row member key, fun known other stored named => by
          rwa [Option.some.inj ((run?_of_mem stored).symm.trans (named ▸ found))]⟩
      simp only [FocusRefused, RefusedAsNotVisible, forall_const, aligned, reduceCtorEq,
        false_implies, true_and, not_not]
      cases owned : tables.projectIdForRun row with
      | error fault =>
          obtain rfl | ⟨reason, rfl⟩ := projectIdForRun_error owned <;>
            simp [readRun, found, resolveRun, owned, bind, Except.bind]
      | ok owner =>
          have same : owner = projectId := by
            have inside := List.mem_dedup.mpr (mem_runProjects owned)
            split at attributed
            · next only => simpa [only, Option.some.inj attributed] using inside
            · cases attributed
          have visible : Visible (tables.readRun scope id) :=
            (visible_readRun within id).mpr
              ⟨row, member, key, same ▸ owned, by simp [inFocus, focused, key]⟩
          simp only [reduceCtorEq, iff_false]
          rintro ⟨field, refused⟩
          obtain ⟨_, other⟩ := visible _ refused
          cases other

/-- The ids that a session and its reads use for the focus agree, and no Run of the focus without
a readable Project keeps the others from being listed. -/
theorem sees_focus_iff (within : scope.projectId = some projectId)
    (focused : scope.focus = some focus) (accepted : tables.projectForFocus focus = some projectId) :
    tables.SeesFocus scope projectId focus ↔ tables.FocusAligned projectId focus := by
  constructor
  · intro sees
    obtain ⟨study, run⟩ : _ ∧ _ := by
      by_contra misaligned
      exact sees.focused ((focusRefused_iff within focused accepted).mpr misaligned)
    refine ⟨study, run, fun run inside about owned other stored seen same => ?_⟩
    obtain ⟨listed, member, sameId, _, _, resolves⟩ := (listable_iff within run.id).mp
      ((sees.lists run.id).mpr ⟨run, inside, rfl, owned, about⟩)
    have only : listed = run :=
      Option.some.inj ((run?_of_mem member).symm.trans (sameId ▸ run?_of_mem inside))
    exact resolves other stored ((inFocus_iff focused accepted study other).mpr seen) (only ▸ same)
  · intro aligned
    have about := inFocus_iff focused accepted aligned.study
    refine ⟨fun refused => (focusRefused_iff within focused accepted).mp refused
      ⟨aligned.study, aligned.run⟩, fun runId => ?_, fun runId => ?_⟩
    · simp only [visible_readRun within, Belongs, about]
    · simp only [listable_iff within, Belongs, about]
      constructor
      · rintro ⟨run, inside, named, owned, seen, _⟩
        exact ⟨run, inside, named, owned, seen⟩
      · rintro ⟨run, inside, named, owned, seen⟩
        exact ⟨run, inside, named, owned, seen, aligned.listed run inside seen owned⟩

end

/-- For every session that is created with a focus. -/
theorem session_sees_focus_iff (tables : LabTables) {workspaceId projectId : String}
    {focus : FocusKind × String}
    (created : tables.validateScope ⟨workspaceId, some projectId, some focus⟩ = true) :
    tables.SeesFocus ⟨workspaceId, some projectId, some focus⟩ projectId focus ↔
      tables.FocusAligned projectId focus := by
  simp only [validateScope, Option.all_some, Bool.and_eq_true, decide_eq_true_eq] at created
  exact sees_focus_iff rfl rfl created.2.2

end LabTables

namespace Sample

/-- A Project with a stored Study revision and one Run of an experiment. -/
def tables : LabTables where
  workspaces := ["ws_1"]
  projects := [⟨"prj_1", "ws_1"⟩]
  revisions := [⟨⟨"latency", 1, "d1"⟩, "crev_1", "study", "prj_1", "draft", .obj []⟩]
  experiments := [⟨"expr_1", "prj_1"⟩]
  specs := []
  runs := [⟨"run_1", some "expr_1", none, none, "completed", "base", "runner", 0, some 1⟩]
  events := []
  grades := []
  comparisons := []
  revisionKeys := by decide
  specKeys := by decide
  runKeys := by decide
  comparisonKeys := by decide

end Sample

/-- A session focused on a Study revision by its row id does not see that revision. -/
theorem focused_study_not_visible :
    Sample.tables.validateScope ⟨"ws_1", some "prj_1", some (.study, "crev_1")⟩ = true ∧
      Sample.tables.readContractRevision ⟨"ws_1", some "prj_1", some (.study, "crev_1")⟩ "crev_1" =
        .error (.rejected (.targetNotVisible "revision_ref")) ∧
      ¬ Sample.tables.SeesFocus ⟨"ws_1", some "prj_1", some (.study, "crev_1")⟩ "prj_1"
        (.study, "crev_1") :=
  ⟨by decide, rfl, fun sees => sees.focused ⟨"revision_ref", rfl⟩⟩

/-- A session focused on the Run sees it. -/
theorem focused_run_visible :
    Sample.tables.SeesFocus ⟨"ws_1", some "prj_1", some (.run, "run_1")⟩ "prj_1" (.run, "run_1") :=
  (LabTables.session_sees_focus_iff Sample.tables (by decide)).mpr
    ⟨by simp, by decide, fun _ _ _ _ other stored _ _ =>
      ⟨"prj_1", by rw [List.mem_singleton.mp stored]; decide⟩⟩

end Evidrun.Lab.Reads
