import Evidrun.Contracts.Envelope
import Evidrun.Runs.ReadAnswer

/-!
# What a passed read answer rests on

The grader collects exactly the lines that the completed calls of the read tool returned, and
its record is always valid. So an answer passes when it cites lines that were read, and one of
them states the expected cause.
-/

namespace Evidrun.Runs

open JsonText DocumentSchema Evidrun.Contracts Evidrun.Database

set_option autoImplicit false

/-! ## Persisted results -/

section Persisted

variable (platform : Platform) (artifacts : VerifiedArtifacts)

/-- The event names an artifact with the output of a completed call. -/
def Persists (event : Json) (result : ReadToolResult) : Prop :=
  ∃ given reference, resultRef? event = some given ∧
    validate platform.coercion artifactRef given = .ok reference ∧
    artifacts reference = .ok result.output

/-- The events with a result are those of these calls of the read tool, in their order. -/
def PersistedCalls (envelope : Json) (materialized : MaterializedInputs) (toolEvents : List Json)
    (calls : List (List (String × Json))) : Prop :=
  List.Forall₂ (fun event arguments => ∃ result,
      execute envelope materialized arguments = .ok result ∧ Persists platform artifacts event result)
    (toolEvents.filter fun event => (resultRef? event).isSome) calls

end Persisted

/-- A line that a call returned. -/
def ReturnedLine (envelope : Json) (materialized : MaterializedInputs)
    (arguments : List (String × Json)) (line : PersistedLine) : Prop :=
  ∃ text start count binding,
    Allowed envelope materialized arguments line.1 text start count binding ∧
      start ≤ line.2.1 ∧ line.2.1 < start + count ∧
      (splitlines text)[(line.2.1 - 1).toNat]? = some line.2.2

theorem ordered_resultFields (inputId : String) (start : Int) (lines selected : List String) :
    (Json.obj (resultFields inputId start lines selected)).ordered = true := by
  have keys : ("line" : String) ≤ "text" := by decide
  have items (numbered : List (Int × String)) :
      orderedItems (numbered.map lineDocument) = true := by
    induction numbered with
    | nil => rfl
    | cons line rest ih =>
        simp only [List.map_cons, orderedItems, ih, Bool.and_true, lineDocument, Json.ordered,
          orderedFields, keysOrdered, decide_eq_true keys]
  have fieldKeys : keysOrdered (resultFields inputId start lines selected) = true := by
    rw [keysOrdered_iff]
    exact (by decide : ["input_id", "lines", "returned_lines", "start_line", "total_lines",
      "truncated"].Pairwise (· ≤ ·))
  rw [Json.ordered, fieldKeys]
  simp only [resultFields, orderedFields, Json.ordered, items, Bool.and_self]

theorem documentLines_resultFields (inputId : String) (start : Int) (lines selected : List String) :
    documentLines (resultFields inputId start lines selected) =
      .ok ((numberedFrom start selected).map fun line => (inputId, line.1, line.2)) := by
  have each : (persistedLine inputId) ∘ lineDocument =
      fun line : Int × String => some (inputId, line.1, line.2) := by
    funext line
    rfl
  change Except.ok (((numberedFrom start selected).map lineDocument).filterMap
    (persistedLine inputId)) = _
  rw [List.filterMap_map, each, ← List.filterMap_eq_map]
  rfl

section Grounding

variable {platform : Platform} {codec : AnswerCodec} {artifacts : VerifiedArtifacts}
  {envelope : Json} {materialized : MaterializedInputs}

variable (codec) in
/-- The persisted result of a call gives the lines that the call returned. -/
theorem resultLines_of_persists {event : Json} {arguments : List (String × Json)}
    {result : ReadToolResult} (executed : execute envelope materialized arguments = .ok result)
    (persists : Persists platform artifacts event result) :
    ∃ given lines, resultRef? event = some given ∧
      resultLines platform codec artifacts given = .ok lines ∧
      ∀ line, line ∈ lines ↔ ReturnedLine envelope materialized arguments line := by
  obtain ⟨inputId, text, start, count, binding, allowed, rfl⟩ := execute_ok.mp executed
  obtain ⟨given, reference, named, validated, held⟩ := persists
  refine ⟨given, (numberedFrom start (window start count (splitlines text))).map
    fun line => (inputId, line.1, line.2), named, ?_, ?_⟩
  · simp only [resultLines, validated, orValidationError, held, readResult, bind, Except.bind,
      codec.reads _ (ordered_resultFields ..), documentLines_resultFields]
  · rintro ⟨lineInput, number, lineText⟩
    have mapped : (lineInput, number, lineText) ∈
        (numberedFrom start (window start count (splitlines text))).map
          (fun line => (inputId, line.1, line.2)) ↔
        inputId = lineInput ∧
          (number, lineText) ∈ numberedFrom start (window start count (splitlines text)) := by
      simp
      tauto
    rw [mapped, mem_window allowed.positive]
    constructor
    · rintro ⟨rfl, inside⟩
      exact ⟨text, start, count, binding, allowed, inside⟩
    · rintro ⟨otherText, otherStart, otherCount, otherBinding, other, inside⟩
      have input := other.input.symm.trans allowed.input
      have first := other.start_line.symm.trans allowed.start_line
      have most := other.max_lines.symm.trans allowed.max_lines
      simp only [Option.some.injEq, Json.str.injEq, Json.int.injEq] at input first most
      subst input first most
      have same := other.materialized.symm.trans allowed.materialized
      simp only [Option.some.injEq] at same
      subst same
      exact ⟨rfl, inside⟩

variable (codec) in
/-- The loop collects the lines of every completed call and refers to events only. -/
theorem collect_ok {toolEvents : List Json} {calls : List (List (String × Json))}
    (persisted : PersistedCalls platform artifacts envelope materialized toolEvents calls)
    (before : PersistedEvidence) :
    ∃ lines refs,
      toolEvents.foldlM (collectEvent platform codec artifacts) before =
        .ok ⟨before.lines ++ lines, before.evidenceRefs ++ refs⟩ ∧
      (∀ line, line ∈ lines ↔
        ∃ arguments ∈ calls, ReturnedLine envelope materialized arguments line) ∧
      ∀ ref ∈ refs, ∃ eventId, ref = eventRef eventId := by
  induction toolEvents generalizing before calls with
  | nil =>
      obtain rfl : calls = [] := by simpa [PersistedCalls] using persisted
      exact ⟨[], [], by simp [pure, Except.pure], by simp, by simp⟩
  | cons event rest ih =>
      rw [PersistedCalls, List.filter_cons] at persisted
      cases named : resultRef? event with
      | none =>
          rw [named] at persisted
          obtain ⟨lines, refs, folded, members, events⟩ := ih persisted before
          refine ⟨lines, refs, ?_, members, events⟩
          simpa only [List.foldlM_cons, collectEvent, named, bind, Except.bind] using folded
      | some given =>
          rw [named] at persisted
          obtain ⟨arguments, others, ⟨result, executed, persists⟩, later, rfl⟩ :=
            List.forall₂_cons_left_iff.mp persisted
          obtain ⟨found, lines, same, read, returned⟩ :=
            resultLines_of_persists codec executed persists
          obtain rfl : given = found := Option.some.inj (named.symm.trans same)
          obtain ⟨otherLines, refs, folded, members, events⟩ := ih later
            ⟨before.lines ++ lines, before.evidenceRefs ++ eventIdRefs event⟩
          refine ⟨lines ++ otherLines, eventIdRefs event ++ refs, ?_, fun line => ?_, ?_⟩
          · simpa only [List.foldlM_cons, collectEvent, named, read, bind, Except.bind,
              List.append_assoc] using folded
          · simp only [List.mem_append, List.mem_cons, exists_eq_or_imp, returned, members]
          · intro ref inside
            rcases List.mem_append.mp inside with own | other
            · unfold eventIdRefs at own
              split at own
              · exact ⟨_, List.mem_singleton.mp own⟩
              · cases own
            · exact events ref other

/-! ## Answers -/

/-- The output is an object with the expected answer and these citations, and nothing else. -/
def AnswersCiting (codec : AnswerCodec) (output expected : String) (cited : List (String × Int)) :
    Prop :=
  ∃ document citations, codec.validateJson output = some document ∧
    hasExactly ["answer", "evidence"] document = true ∧
    (Json.obj document).field "answer" = .str expected ∧
    (Json.obj document).get? "evidence" = some (.arr citations) ∧ citations ≠ [] ∧
    List.Forall₂ (fun citation pair => citationOf citation = some pair) citations cited

theorem mapM_some {Item Output : Type} {read : Item → Option Output} {items : List Item}
    {outputs : List Output} :
    items.mapM read = some outputs ↔
      List.Forall₂ (fun item output => read item = some output) items outputs := by
  induction items generalizing outputs with
  | nil => cases outputs <;> simp
  | cons item rest ih =>
      rw [List.mapM_cons]
      cases outputs with
      | nil => cases read item <;> cases rest.mapM read <;> simp
      | cons output others =>
          rw [List.forall₂_cons, ← ih]
          cases read item <;> cases rest.mapM read <;> simp

theorem parseAnswer_valid {output : String}
    (valid : (parseAnswer codec output).validShape = true) :
    ∃ expected, (parseAnswer codec output).answer = expected ∧
      ∃ document citations, codec.validateJson output = some document ∧
        hasExactly ["answer", "evidence"] document = true ∧
        (Json.obj document).field "answer" = expected ∧
        (Json.obj document).get? "evidence" = some (.arr citations) ∧ citations ≠ [] ∧
        citations.mapM citationOf = some (parseAnswer codec output).cited := by
  unfold parseAnswer at valid ⊢
  split at valid
  · cases valid
  · next document validated =>
      split_ifs at valid ⊢ with keys
      dsimp only at valid ⊢
      split at valid
      · next citations evidence =>
          split_ifs at valid ⊢ with none
          split at valid
          · next cited mapped => exact ⟨_, rfl, document, citations, validated, keys, rfl, evidence, none, mapped⟩
          · cases valid
      · cases valid

theorem parseAnswer_iff {output expected : String} {cited : List (String × Int)} :
    (parseAnswer codec output).validShape = true ∧
        (parseAnswer codec output).answer = .str expected ∧
        (parseAnswer codec output).cited = cited ↔
      AnswersCiting codec output expected cited := by
  constructor
  · rintro ⟨valid, answered, rfl⟩
    obtain ⟨_, rfl, document, citations, validated, keys, answer, evidence, given, mapped⟩ :=
      parseAnswer_valid valid
    exact ⟨document, citations, validated, keys, answer.trans answered, evidence, given,
      mapM_some.mp mapped⟩
  · rintro ⟨document, citations, validated, keys, answer, evidence, given, cites⟩
    simp only [parseAnswer, validated, keys, if_true, evidence, if_neg given, mapM_some.mpr cites,
      answer, and_self]

/-- Every citation was read, and one of them states the cause. -/
theorem isGrounded_iff {output expected : String} {lines : List PersistedLine} :
    isGrounded (parseAnswer codec output) lines expected = true ↔
      ∃ cited, AnswersCiting codec output expected cited ∧
        (∀ citation ∈ cited, ∃ text, (citation.1, citation.2, text) ∈ lines) ∧
        ∃ citation ∈ cited, ∃ text, (citation.1, citation.2, text) ∈ lines ∧
          pyStrip text = causeLine expected := by
  have read (inputId : String) (number : Int) :
      (lines.any fun line => line.1 == inputId && line.2.1 == number) = true ↔
        ∃ text, (inputId, number, text) ∈ lines := by
    simp only [List.any_eq_true, Bool.and_eq_true, beq_iff_eq, Prod.exists]
    constructor
    · rintro ⟨_, _, text, inside, rfl, rfl⟩
      exact ⟨text, inside⟩
    · rintro ⟨text, inside⟩
      exact ⟨_, _, text, inside, rfl, rfl⟩
  have states (inputId : String) (number : Int) :
      (lines.any fun line => line.1 == inputId && line.2.1 == number &&
          pyStrip line.2.2 == causeLine expected) = true ↔
        ∃ text, (inputId, number, text) ∈ lines ∧ pyStrip text = causeLine expected := by
    simp only [List.any_eq_true, Bool.and_eq_true, beq_iff_eq, Prod.exists]
    constructor
    · rintro ⟨_, _, text, inside, ⟨rfl, rfl⟩, cause⟩
      exact ⟨text, inside, cause⟩
    · rintro ⟨text, inside, cause⟩
      exact ⟨_, _, text, inside, ⟨rfl, rfl⟩, cause⟩
  have grounded : isGrounded (parseAnswer codec output) lines expected = true ↔
      (parseAnswer codec output).answer = .str expected ∧
      ((parseAnswer codec output).validShape = true ∧
        ∀ citation ∈ (parseAnswer codec output).cited,
          ∃ text, (citation.1, citation.2, text) ∈ lines) ∧
      ∃ citation ∈ (parseAnswer codec output).cited, ∃ text,
        (citation.1, citation.2, text) ∈ lines ∧ pyStrip text = causeLine expected := by
    unfold isGrounded
    rw [Bool.and_eq_true, Bool.and_eq_true, Bool.and_eq_true, beq_iff_eq, List.all_eq_true,
      List.any_eq_true, and_assoc]
    simp only [read, states]
  rw [grounded]
  constructor
  · rintro ⟨answered, ⟨valid, cites⟩, cause⟩
    exact ⟨_, parseAnswer_iff.mp ⟨valid, answered, rfl⟩, cites, cause⟩
  · rintro ⟨cited, answers, cites, cause⟩
    obtain ⟨valid, answered, rfl⟩ := parseAnswer_iff.mpr answers
    exact ⟨answered, ⟨valid, cites⟩, cause⟩

/-! ## The record -/

/-- Trimming a reference to an event keeps its scheme. -/
theorem eventRef_chars (eventId : String) :
    ∃ rest, (eventRef eventId).toList = "event:".toList ++ rest := by
  have dropped : ("event:".toList ++ eventId.toList).dropWhile isWhitespace =
      "event:".toList ++ eventId.toList := rfl
  have scheme : "event:".toList.reverse.dropWhile isWhitespace = "event:".toList.reverse := rfl
  rw [eventRef, strip, String.toList_ofList, String.toList_append, stripChars, dropped,
    List.rdropWhile, List.reverse_append, List.dropWhile_append, scheme]
  split_ifs
  · exact ⟨[], by rw [List.reverse_reverse, List.append_nil]⟩
  · exact ⟨_, by rw [List.reverse_append, List.reverse_reverse]⟩

theorem eventRef_evidence (eventId : String) :
    validate platform.coercion evidenceRef (.obj [("ref", .str (eventRef eventId))]) =
      .ok (.obj [("ref", .str (eventRef eventId))]) := by
  obtain ⟨rest, chars⟩ := eventRef_chars eventId
  have given : eventRef eventId ≠ "" := fun blank => by simp [blank] at chars
  have scheme : isEvidenceRef (eventRef eventId) = true := by
    simp [isEvidenceRef, startsWith, chars]
  have trimmed : strip (eventRef eventId) = eventRef eventId := strip_strip _
  have read : validate platform.coercion (.scalar (.trimmed isEvidenceRef))
      (.str (eventRef eventId)) = .ok (.str (eventRef eventId)) := by
    simp [validate, Scalar.parse, trimmed, given, scheme]
  exact validate_present [("ref", some (.str (eventRef eventId)))] (by decide)
    (.cons ⟨rfl, by simp, read⟩ .nil) rfl

section Record

variable (point : ResponsePoint platform) (spec : RunSpec platform) {stage dimension : Json}
  (passed : Bool)

theorem stage_stable (member : stage ∈ planStages spec.dump) :
    validate platform.coercion evaluationStage stage = .ok stage :=
  items_source (wellFormed_evaluationPlanSpec platform.coercion) (RunSpec.plan_stable spec)
    (show required "stages" (.list 0 evaluationStage) ∈ _ by simp) stage member

theorem validate_boundary :
    validate platform.coercion evaluationBoundary
        (.obj [("event_hash", .str point.eventHash), ("up_to_event_sequence", .int point.sequence)]) =
      .ok (.obj [("event_hash", .str point.eventHash),
        ("up_to_event_sequence", .int point.sequence)]) := by
  have hashed : validate platform.coercion digest (.str point.eventHash) =
      .ok (.str point.eventHash) := by
    simp [digest, validate, Scalar.parse, point.hashed]
  have placed : validate platform.coercion (integerFrom 1) (.int point.sequence) =
      .ok (.int point.sequence) := by
    simp [integerFrom, validate, Scalar.parse, point.positive]
  exact validate_present [("checkpoint_id", none), ("event_hash", some (.str point.eventHash)),
      ("up_to_event_sequence", some (.int point.sequence))] (by decide)
    (.cons ⟨rfl, rfl⟩ <| .cons ⟨rfl, by simp, hashed⟩ <| .cons ⟨rfl, by simp, placed⟩ .nil) rfl

theorem validate_dimensionValue (member : stage ∈ planStages spec.dump)
    (named : dimension ∈ stage.items "output_dimensions") {refs : List String} (given : refs ≠ [])
    (events : ∀ ref ∈ refs, ∃ eventId, ref = eventRef eventId) :
    validate platform.coercion dimensionValue
        (.obj [("confidence", .float fullConfidence), ("dimension_id", dimension),
          ("evidence_refs", .arr (refs.map fun ref => .obj [("ref", .str ref)])),
          ("rationale", .str (readRationale passed)), ("value", .bool passed)]) =
      .ok (.obj [("confidence", .float fullConfidence), ("dimension_id", dimension),
        ("evidence_refs", .arr (refs.map fun ref => .obj [("ref", .str ref)])),
        ("rationale", .str (readRationale passed)), ("value", .bool passed)]) := by
  have confident : validate platform.coercion fraction (.float fullConfidence) =
      .ok (.float fullConfidence) := by
    have bounds : (0 ≤ floatValue fullConfidence && floatValue fullConfidence ≤ 1) = true := by
      decide +kernel
    simp [fraction, validate, Scalar.parse, bounds]
  have identified : validate platform.coercion nonEmptyStr dimension = .ok dimension :=
    items_source (wellFormed_evaluationStage platform.coercion) (stage_stable spec member)
      (show tuple "output_dimensions" nonEmptyStr ∈ _ by simp) dimension named
  have present : dimension ≠ .null := fun unset => by
    simp [unset, nonEmptyStr, validate, Scalar.parse] at identified
  have cites : validate platform.coercion (.list 1 evidenceRef)
      (.arr (refs.map fun ref => .obj [("ref", .str ref)])) =
      .ok (.arr (refs.map fun ref => .obj [("ref", .str ref)])) := by
    refine validate_items ?_ (List.forall₂_same.mpr fun value inside => ?_)
    · rw [List.length_map]
      exact List.length_pos_iff.mpr given
    · obtain ⟨ref, listed, rfl⟩ := List.mem_map.mp inside
      obtain ⟨eventId, rfl⟩ := events ref listed
      exact eventRef_evidence eventId
  have rationale : Trimmed (readRationale passed) := by
    cases passed <;> exact trimmed_ofList rfl rfl
  have valued : validate platform.coercion (.scalar .primitive) (.bool passed) =
      .ok (.bool passed) := by
    simp [validate, Scalar.parse]
  exact validate_present
    [("confidence", some (.float fullConfidence)), ("dimension_id", some dimension),
      ("evidence_refs", some (.arr (refs.map fun ref => .obj [("ref", .str ref)]))),
      ("rationale", some (.str (readRationale passed))), ("value", some (.bool passed))]
    (by decide)
    (.cons ⟨rfl, by simp, confident⟩ <| .cons ⟨rfl, present, identified⟩ <|
      .cons ⟨rfl, by simp, cites⟩ <| .cons ⟨rfl, by simp, validate_text_iff.mpr rationale⟩ <|
      .cons ⟨rfl, by simp, valued⟩ .nil) rfl

/-- A record of a deterministic grader claims no human or model authority. -/
theorem validateAdjudication_grader {record : Json}
    (planned : refOfType (record.field "plan_ref") "evaluation_plan" = true)
    (source : record.field "source_type" = .str "deterministic_grader")
    (unsigned : record.field "human_attestation" = .null)
    (unrelated : isSet record "relation" = false)
    (profile : isSet record "provider_profile_id" = false)
    (model : isSet record "provider_model" = false)
    (distinct : allDistinct (column record "dimension_values" "dimension_id") = true) :
    validateAdjudication platform record = .ok () := by
  simp only [validateAdjudication, planned, source, unsigned, unrelated, profile, model, distinct]
  rfl

/-- The record of an evaluation is valid. -/
theorem record_ok (member : stage ∈ planStages spec.dump)
    (named : dimension ∈ stage.items "output_dimensions") {refs : List String} (given : refs ≠ [])
    (events : ∀ ref ∈ refs, ∃ eventId, ref = eventRef eventId) :
    ∃ record, EvaluationRecord.modelValidate platform
      (recordDocument point spec.dump stage dimension refs passed) = .ok record := by
  have formed := wellFormed_evaluationRecord platform.coercion platform
  have stageFormed := wellFormed_evaluationStage platform.coercion
  have stable := stage_stable spec member
  have values := validate_dimensionValue spec passed member named given events
  have timed : validate platform.coercion utcDateTime (.str point.now) = .ok (.str point.now) := by
    simp [utcDateTime, validate, Scalar.parse, platform.coercion.timestamp_kept _ point.timed]
  have gate : validate platform.coercion (literal ["passed", "failed", "not_applicable"])
      (.str (if passed then "passed" else "failed")) =
      .ok (.str (if passed then "passed" else "failed")) := by
    cases passed <;> simp [literal, validate, Scalar.parse]
  have source : validate platform.coercion (literal ["deterministic_grader", "model_judge",
      "human_reviewer", "human_adjudicator"]) (.str "deterministic_grader") =
      .ok (.str "deterministic_grader") := by
    simp [literal, validate, Scalar.parse]
  have final : validate platform.coercion (literal ["provisional", "final"]) (.str "final") =
      .ok (.str "final") := by
    simp [literal, validate, Scalar.parse]
  have read : ∃ dump, validate platform.coercion (evaluationRecord platform)
      (recordDocument point spec.dump stage dimension refs passed) = .ok dump := by
    refine ⟨_, validate_reads
      [("boundary", some _, some _), ("created_at_utc", some _, some _),
        ("dimension_values", some (.arr [_]), some (.arr [_])),
        ("evaluator_ref", some _, some _), ("gate_status", some _, some _),
        ("human_attestation", none, none), ("plan_ref", some _, some _),
        ("provider_model", none, none), ("provider_profile_id", none, none),
        ("record_id", some _, some _), ("relation", none, none), ("run_id", some _, some _),
        ("schema_version", none, some (.str "1")), ("source_type", some _, some _),
        ("stage_id", some _, some _), ("status", some _, some _)]
      (by decide)
      (.cons ⟨rfl, reads_value (by simp) (validate_boundary point) _⟩ <|
        .cons ⟨rfl, reads_value (by simp) timed _⟩ <|
        .cons ⟨rfl, reads_items (List.forall_mem_singleton.mpr values) _⟩ <|
        .cons ⟨rfl, kept_field stageFormed stable
          (show required "evaluator_ref" capabilityDescriptorRef ∈ _ by simp) (by simp)⟩ <|
        .cons ⟨rfl, reads_value (by simp) gate _⟩ <| .cons ⟨rfl, rfl⟩ <|
        .cons ⟨rfl, kept_field (wellFormed_runSpec platform.coercion) spec.valid
          (show required "evaluation_plan_ref" contractRef ∈ _ by simp) (by simp)⟩ <|
        .cons ⟨rfl, rfl⟩ <| .cons ⟨rfl, rfl⟩ <|
        .cons ⟨rfl, reads_value (by simp) (validate_text_iff.mpr point.recorded) _⟩ <|
        .cons ⟨rfl, rfl⟩ <|
        .cons ⟨rfl, reads_value (by simp) (validate_text_iff.mpr point.named) _⟩ <|
        .cons ⟨rfl, rfl⟩ <| .cons ⟨rfl, reads_value (by simp) source _⟩ <|
        .cons ⟨rfl, kept_field stageFormed stable (show required "id" nonEmptyStr ∈ _ by simp)
          (by simp)⟩ <|
        .cons ⟨rfl, reads_value (by simp) final _⟩ .nil) ?_⟩
    exact validateAdjudication_grader (SubjectEnvelopeCompiler.planRef_kind spec) rfl rfl rfl rfl rfl
      rfl
  obtain ⟨dump, read⟩ := read
  exact ⟨⟨dump, validate_stable formed _ _ read⟩, (Instance.modelValidate_ok _ _ _).mpr read⟩

end Record

/-! ## Passing -/

/-- What `evaluate` reads of the plan: the first stage, its dimension and its first parameter. -/
def GradedBy (codec : AnswerCodec) (spec : Json) (expected : String) : Prop :=
  ∃ stage ∈ (planStages spec).head?, stage.items "output_dimensions" ≠ [] ∧
    ∃ parameter ∈ (stage.items "parameters").head?, codec.str (parameter.field "value") = expected

/-- The line of this number lies in a range that one of the calls returned. -/
def InReturnedRange (envelope : Json) (materialized : MaterializedInputs)
    (calls : List (List (String × Json))) (citation : String × Int) : Prop :=
  ∃ arguments ∈ calls, ∃ text start count binding,
    Allowed envelope materialized arguments citation.1 text start count binding ∧
      start ≤ citation.2 ∧ citation.2 < start + count ∧ citation.2 ≤ (splitlines text).length

/-- The line of this number states the cause. -/
def StatesCause (materialized : MaterializedInputs) (expected : String)
    (citation : String × Int) : Prop :=
  ∃ text line, materialized.lookup citation.1 = some text ∧
    (splitlines text)[(citation.2 - 1).toNat]? = some line ∧ pyStrip line = causeLine expected

section

variable {calls : List (List (String × Json))}

theorem inReturnedRange_iff {citation : String × Int} :
    InReturnedRange envelope materialized calls citation ↔
      ∃ line, ∃ arguments ∈ calls,
        ReturnedLine envelope materialized arguments (citation.1, citation.2, line) := by
  constructor
  · rintro ⟨arguments, called, text, start, count, binding, allowed, reached, inside, exists_⟩
    have positive := allowed.positive
    have position : (citation.2 - 1).toNat < (splitlines text).length := by omega
    exact ⟨_, arguments, called, text, start, count, binding, allowed, reached, inside,
      List.getElem?_eq_getElem position⟩
  · rintro ⟨line, arguments, called, text, start, count, binding, allowed, reached, inside, held⟩
    have positive := allowed.positive
    obtain ⟨position, -⟩ := List.getElem?_eq_some_iff.mp held
    exact ⟨arguments, called, text, start, count, binding, allowed, reached, inside, by
      dsimp only at reached position
      omega⟩

/-- The text that a call returned for a line is the line of the input. -/
theorem statesCause_iff {citation : String × Int} {expected : String}
    (read : InReturnedRange envelope materialized calls citation) :
    StatesCause materialized expected citation ↔
      ∃ line, (∃ arguments ∈ calls,
          ReturnedLine envelope materialized arguments (citation.1, citation.2, line)) ∧
        pyStrip line = causeLine expected := by
  constructor
  · rintro ⟨text, line, found, held, cause⟩
    obtain ⟨other, arguments, called, otherText, start, count, binding, allowed, reached, inside,
      -⟩ := inReturnedRange_iff.mp read
    obtain rfl : otherText = text := Option.some.inj (allowed.materialized.symm.trans found)
    exact ⟨line, ⟨arguments, called, otherText, start, count, binding, allowed, reached, inside,
      held⟩, cause⟩
  · rintro ⟨line, ⟨arguments, called, text, start, count, binding, allowed, reached, inside, held⟩,
      cause⟩
    exact ⟨text, line, allowed.materialized, held, cause⟩

/-- The evaluation returns what the collected lines decide. -/
theorem evaluate_ok {toolEvents : List Json}
    (persisted : PersistedCalls platform artifacts envelope materialized toolEvents calls)
    {spec : RunSpec platform} {expected : String} (graded : GradedBy codec spec.dump expected)
    (output : String) (point : ResponsePoint platform) :
    ∃ outcome lines, evaluate codec (some artifacts) spec output point toolEvents = .ok outcome ∧
      outcome.passed = isGrounded (parseAnswer codec output) lines expected ∧
      ∀ line, line ∈ lines ↔
        ∃ arguments ∈ calls, ReturnedLine envelope materialized arguments line := by
  obtain ⟨stage, staged, dimensioned, parameter, parameterized, rfl⟩ := graded
  obtain ⟨dimension, dimensions, outputs⟩ := List.exists_cons_of_ne_nil dimensioned
  obtain ⟨stages, plan⟩ := List.head?_eq_some_iff.mp staged
  obtain ⟨parameters, listed⟩ := List.head?_eq_some_iff.mp parameterized
  obtain ⟨lines, refs, collected, members, events⟩ :=
    collect_ok codec persisted ⟨[], [eventRef point.eventId]⟩
  rw [List.nil_append, ← collectPersistedEvidence] at collected
  have references : ∀ ref ∈ [eventRef point.eventId] ++ refs, ∃ eventId, ref = eventRef eventId :=
    List.forall_mem_cons.mpr ⟨⟨_, rfl⟩, events⟩
  have inPlan : stage ∈ planStages spec.dump := plan ▸ List.mem_cons_self
  have named : dimension ∈ stage.items "output_dimensions" := outputs ▸ List.mem_cons_self
  obtain ⟨record, validated⟩ := record_ok point spec
    (isGrounded (parseAnswer codec output) lines (codec.str (parameter.field "value"))) inPlan named
    (by simp) references
  refine ⟨outcomeOf record ([eventRef point.eventId] ++ refs)
    (isGrounded (parseAnswer codec output) lines (codec.str (parameter.field "value"))), lines, ?_,
    rfl, members⟩
  simp only [evaluate, givenStore, plan, firstOf, listed, collected, outputs, validated,
    orValidationError, bind, Except.bind]

end

/-- The evaluation returns, and passes exactly when the output is the expected answer with
citations of lines that were read, one of which states the cause. -/
theorem passed_iff_grounded (codec : AnswerCodec) (artifacts : VerifiedArtifacts) (envelope : Json)
    (materialized : MaterializedInputs) (calls : List (List (String × Json)))
    (toolEvents : List Json)
    (persisted : PersistedCalls platform artifacts envelope materialized toolEvents calls)
    (spec : RunSpec platform) (expected : String) (graded : GradedBy codec spec.dump expected)
    (output : String) (point : ResponsePoint platform) :
    ∃ outcome, evaluate codec (some artifacts) spec output point toolEvents = .ok outcome ∧
      (outcome.passed = true ↔
        ∃ cited, AnswersCiting codec output expected cited ∧
          (∀ citation ∈ cited, InReturnedRange envelope materialized calls citation) ∧
          ∃ citation ∈ cited, StatesCause materialized expected citation) := by
  obtain ⟨outcome, lines, evaluated, passed, members⟩ := evaluate_ok persisted graded output point
  refine ⟨outcome, evaluated, ?_⟩
  rw [passed, isGrounded_iff]
  simp only [members, ← inReturnedRange_iff]
  refine exists_congr fun cited => and_congr_right fun _ => and_congr_right fun read => ?_
  exact exists_congr fun citation => and_congr_right fun inside =>
    (statesCause_iff (read citation inside)).symm

end Grounding

namespace Sample

open Contracts.Sample

def codec : AnswerCodec where
  validateJson text := match loads text with
    | some (.obj fields) => some fields
    | _ => none
  str value := value.asString
  reads fields ordered := by rw [loads_canonicalJson _ ordered]
  str_str _ := rfl

def envelope : Json :=
  .obj [("inputs", .arr [.obj [("id", .str "input"),
    ("source", .obj [("classification", .str "internal")])]])]

def inputText : String := "start\nROOT_CAUSE_CODE=42 \nend\n"

def materialized : MaterializedInputs := [("input", inputText)]

def arguments : List (String × Json) :=
  [("input_id", .str "input"), ("start_line", .int 2), ("max_lines", .int 80)]

def reference : Json :=
  .obj [("artifact_id", .str "result"), ("classification", .str "internal"),
    ("digest", .str digestText), ("media_type", .str "application/json")]

def toolEvents : List Json :=
  [.obj [("event_id", .str "event_1"), ("type", .str "tool.called")],
    .obj [("event_id", .str "event_2"), ("payload", .obj [("result_ref", reference)]),
      ("type", .str "tool.completed")]]

def readOutput : String :=
  (readResult .null "input" inputText 2 80).output

def artifacts : VerifiedArtifacts := fun _ => .ok readOutput

def point : ResponsePoint platform where
  runId := "run_0"
  eventId := "event_3"
  sequence := 3
  eventHash := digestText
  recordId := "eval_4"
  now := "2026-01-01T00:00:00Z"
  named := trimmed_ofList rfl rfl
  positive := by decide
  hashed := by decide +kernel
  recorded := trimmed_ofList rfl rfl
  timed := rfl

theorem readResult_output (binding other : Json) (inputId text : String) (start count : Int) :
    (readResult binding inputId text start count).output =
      (readResult other inputId text start count).output := rfl

theorem allowed_arguments : ∃ binding,
    Allowed envelope materialized arguments "input" inputText 2 80 binding :=
  ⟨_, ⟨by decide, rfl, rfl, rfl, rfl, by decide, by decide, by decide, rfl⟩⟩

theorem persistedCalls :
    PersistedCalls platform artifacts envelope materialized toolEvents [arguments] := by
  obtain ⟨binding, allowed⟩ := allowed_arguments
  have executed : execute envelope materialized arguments =
      .ok (readResult binding "input" inputText 2 80) :=
    execute_ok.mpr ⟨_, _, _, _, _, allowed, rfl⟩
  have valid : validate platform.coercion artifactRef reference = .ok reference := by
    decide +kernel
  have held : artifacts reference = .ok (readResult binding "input" inputText 2 80).output :=
    congrArg Except.ok (readResult_output .null binding "input" inputText 2 80)
  exact .cons ⟨_, executed, reference, reference, rfl, valid, held⟩ .nil

def answerFields : List (String × Json) :=
  [("answer", .str "42"), ("evidence", .arr [.obj [("input_id", .str "input"), ("line", .int 2)]])]

def answer : String := canonicalJson (.obj answerFields)

theorem answersCiting : AnswersCiting codec answer "42" [("input", 2)] := by
  have ordered : (Json.obj answerFields).ordered = true := by decide +kernel
  have parsed : codec.validateJson answer = some answerFields := by
    rw [answer]
    exact codec.reads answerFields ordered
  have keys : hasExactly ["answer", "evidence"] answerFields = true := by decide +kernel
  exact ⟨answerFields, [.obj [("input_id", .str "input"), ("line", .int 2)]], parsed, keys, rfl,
    rfl, by simp, .cons rfl .nil⟩

theorem statesCause : StatesCause materialized "42" ("input", 2) :=
  ⟨inputText, "ROOT_CAUSE_CODE=42 ", rfl, by decide +kernel, by decide +kernel⟩

theorem inReturnedRange : InReturnedRange envelope materialized [arguments] ("input", 2) := by
  obtain ⟨binding, allowed⟩ := allowed_arguments
  have lines : (splitlines inputText).length = 3 := by decide +kernel
  exact ⟨arguments, List.mem_singleton.mpr rfl, inputText, 2, 80, binding, allowed, le_refl 2,
    by decide, by rw [lines]; decide⟩

theorem gradedBy : GradedBy codec plainSpec.dump "42" :=
  ⟨_, rfl, by decide +kernel, _, rfl, rfl⟩

theorem read_answer_passes :
    ∃ outcome, evaluate codec (some artifacts) plainSpec answer point toolEvents = .ok outcome ∧
      outcome.passed = true := by
  obtain ⟨outcome, evaluated, passes⟩ := passed_iff_grounded codec artifacts envelope materialized
    [arguments] toolEvents persistedCalls plainSpec "42" gradedBy answer point
  exact ⟨outcome, evaluated, passes.mpr ⟨[("input", 2)], answersCiting,
    List.forall_mem_singleton.mpr inReturnedRange, ("input", 2), List.mem_singleton.mpr rfl,
    statesCause⟩⟩

end Sample

end Evidrun.Runs
