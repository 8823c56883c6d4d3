import Evidrun.Contracts.RoundTrip
import Evidrun.Evidence.Execution

/-!
# Persisted documents

Which persisted contracts are read back from their stored text. RunSpecs,
admissions, Run records and the records of the queue always are. A
SubjectEnvelope, an EvaluationRecord and a CheckpointRecord are read back exactly
when their required lists are not empty.
-/

namespace Evidrun.Evidence

open JsonText DocumentSchema Evidrun.Contracts Evidrun.Database

set_option autoImplicit false

theorem wellFormed_runExecutionJob (coercion : Coercion) : WellFormed coercion runExecutionJob :=
  wellFormed_model (by decide)
    (by simp [nonEmptyStr, timestamp, integerFrom, digest, literal, validate, Scalar.parse])

theorem wellFormed_runExecutionAttempt (coercion : Coercion) :
    WellFormed coercion runExecutionAttempt :=
  wellFormed_model (by decide)
    (by simp [nonEmptyStr, timestamp, integerFrom, literal, validate, Scalar.parse])

section Queue

variable {coercion : Coercion} (format : TimeFormat coercion)

/-- The stored text of a job is read as the same job. -/
theorem loads_jobDocument (job : RunExecutionJob) :
    loads (canonicalJson (jobDocument format job)) = some (jobDocument format job) :=
  loads_canonicalJson _ (validate_ordered (wellFormed_runExecutionJob coercion) (validate_jobDocument format job))

theorem loads_attemptDocument (attempt : RunExecutionAttempt) :
    loads (canonicalJson (attemptDocument format attempt)) =
      some (attemptDocument format attempt) :=
  loads_canonicalJson _ (validate_ordered (wellFormed_runExecutionAttempt coercion) (validate_attemptDocument format attempt))

end Queue

/-- Every persisted contract is read back from its stored text, except the records
with an empty required list. -/
theorem stored_contracts_decode_iff (platform : Platform) (format : TimeFormat platform.coercion) :
    (∀ spec : RunSpec platform, Decodes platform (wellFormed_runSpec platform.coercion) spec) ∧
    (∀ record : AdmissionRecord platform,
      Decodes platform (wellFormed_admissionRecord platform.coercion) record) ∧
    (∀ record : RunRecord platform,
      Decodes platform (wellFormed_runRecord platform.coercion) record) ∧
    (∀ job : RunExecutionJob, ∃ document,
      loads (canonicalJson (jobDocument format job)) = some document ∧
        validateJob format document = .ok job ∧
        sha256Json platform document = jobDigest platform format job) ∧
    (∀ attempt : RunExecutionAttempt, ∃ document,
      loads (canonicalJson (attemptDocument format attempt)) = some document ∧
        validateAttempt format document = .ok attempt ∧
        sha256Json platform document = attemptDigest platform format attempt) ∧
    (∀ envelope : SubjectEnvelope platform,
      Decodes platform (wellFormed_subjectEnvelope platform.coercion) envelope ↔
        hasItems envelope.dump "inputs" = true ∧
          hasItems envelope.dump "stop_conditions" = true) ∧
    (∀ record : EvaluationRecord platform,
      Decodes platform (wellFormed_evaluationRecord platform.coercion platform) record ↔
        hasItems record.dump "dimension_values" = true) ∧
    (∀ record : CheckpointRecord platform,
      Decodes platform (wellFormed_checkpointRecord platform.coercion) record ↔
        hasItems record.dump "validations" = true) := by
  refine ⟨?_, ?_, ?_, ?_, ?_, ?_, ?_, ?_⟩
  · exact fun spec => decodes_of_restores platform _ restores_runSpec spec
  · exact fun record => decodes_of_restores platform _ restores_admissionRecord record
  · exact fun record => decodes_of_restores platform _ restores_runRecord record
  · exact fun job => ⟨_, loads_jobDocument format job, validateJob_jobDocument format job, rfl⟩
  · exact fun attempt =>
      ⟨_, loads_attemptDocument format attempt, validateAttempt_attemptDocument format attempt, rfl⟩
  · exact fun envelope => subjectEnvelope_decodes_iff platform envelope
  · exact fun record => evaluationRecord_decodes_iff platform record
  · exact fun record => checkpointRecord_decodes_iff platform record

namespace Sample

/-- The record of a stage without output dimensions. -/
def valuelessRecord : EvaluationRecord Database.Sample.platform where
  dump :=
    .obj [("boundary", .obj [("checkpoint_id", .str "checkpoint")]),
      ("created_at_utc", .str "2026-01-01T00:00:00Z"),
      ("dimension_values", .arr []),
      ("evaluator_ref", Database.Sample.capability),
      ("gate_status", .str "passed"),
      ("plan_ref", Database.Sample.contract "evaluation_plan"),
      ("record_id", .str "record"),
      ("run_id", .str "run"),
      ("schema_version", .str "1"),
      ("source_type", .str "deterministic_grader"),
      ("stage_id", .str "grade"),
      ("status", .str "final")]
  valid := by decide +kernel

end Sample

/-- Its document has lost the empty list, and is refused. -/
theorem valuelessRecord_is_refused :
    ¬Decodes Database.Sample.platform
      (wellFormed_evaluationRecord Database.Sample.platform.coercion Database.Sample.platform)
      Sample.valuelessRecord := by
  rw [evaluationRecord_decodes_iff]
  decide

end Evidrun.Evidence
