import Evidrun.Database.Ledger
import Evidrun.Runs.ReadText

/-!
# The grader of read answers

`ExactReadAnswerGraderAdapter` of `runs/adapters/grader_read_answer.py`. It collects the lines
that the persisted results of the read tool returned, and an answer passes only if every line
it cites is among them and one of them states the expected cause.

The reader of `TypeAdapter(dict[str, object])` and the artifact store are parameters.
-/

namespace Evidrun.Runs

open JsonText DocumentSchema Evidrun.Contracts Evidrun.Database

set_option autoImplicit false

/-- `validate_json` and `str`. A document that was written is read back. -/
structure AnswerCodec where
  validateJson : String → Option (List (String × Json))
  str : Json → String
  reads : ∀ fields : List (String × Json), (Json.obj fields).ordered = true →
    validateJson (canonicalJson (.obj fields)) = some fields
  str_str : ∀ text, str (.str text) = text

inductive EvaluationError
  | valueError (text : String)
  | validationError (text : String)
  | indexError
  | artifactError (text : String)
deriving DecidableEq

def orValidationError {Result : Type} : Except String Result → Except EvaluationError Result
  | .ok result => .ok result
  | .error reason => .error (.validationError reason)

/-- `get_verified` for the Project of the Run. -/
abbrev VerifiedArtifacts : Type := Json → Except EvaluationError String

/-! ## Persisted evidence -/

/-- An input, a line number and the text of the line. -/
abbrev PersistedLine : Type := String × Int × String

structure PersistedEvidence where
  /-- A set: only membership is read. -/
  lines : List PersistedLine
  evidenceRefs : List String

/-- The `ref` of `EvidenceRef(ref=f"event:{event_id}")`. -/
def eventRef (eventId : String) : String := strip ("event:" ++ eventId)

/-- A line of a result; what is not a line is skipped. -/
def persistedLine (inputId : String) (line : Json) : Option PersistedLine :=
  match line with
  | .obj _ => match line.get? "line", line.get? "text" with
      | some (.int number), some (.str text) => some (inputId, number, text)
      | _, _ => none
  | _ => none

def documentLines (document : List (String × Json)) :
    Except EvaluationError (List PersistedLine) :=
  match (Json.obj document).get? "lines" with
  | some (.arr lines) => match (Json.obj document).get? "input_id" with
      | some (.str inputId) => .ok (lines.filterMap (persistedLine inputId))
      | _ => .error (.valueError "persisted read-tool result is missing input_id")
  | _ => .error (.valueError "persisted read-tool result has an invalid shape")

variable (platform : Platform) (codec : AnswerCodec) (artifacts : VerifiedArtifacts)

/-- The lines of the artifact that an event names. -/
def resultLines (reference : Json) : Except EvaluationError (List PersistedLine) := do
  let reference ← orValidationError (validate platform.coercion artifactRef reference)
  let content ← artifacts reference
  match codec.validateJson content with
  | some document => documentLines document
  | none => .error (.validationError "Invalid JSON")

/-- The reference to a persisted result that an event has. -/
def resultRef? (event : Json) : Option Json :=
  if event.get? "type" = some (.str "tool.completed") then
    match event.get? "payload" with
    | some (.obj payload) => ((Json.obj payload).get? "result_ref").filter (· != .null)
    | _ => none
  else none

def eventIdRefs (event : Json) : List String :=
  match event.get? "event_id" with
  | some (.str eventId) => [eventRef eventId]
  | _ => []

def collectEvent (persisted : PersistedEvidence) (event : Json) :
    Except EvaluationError PersistedEvidence :=
  match resultRef? event with
  | none => .ok persisted
  | some reference => do
      let lines ← resultLines platform codec artifacts reference
      .ok ⟨persisted.lines ++ lines, persisted.evidenceRefs ++ eventIdRefs event⟩

/-- `_collect_persisted_evidence`. -/
def collectPersistedEvidence (responseEventId : String) (toolEvents : List Json) :
    Except EvaluationError PersistedEvidence :=
  toolEvents.foldlM (collectEvent platform codec artifacts) ⟨[], [eventRef responseEventId]⟩

/-! ## The answer -/

structure ParsedAnswer where
  validShape : Bool
  answer : Json
  cited : List (String × Int)

/-- One citation: an input and a line, and nothing else. -/
def citationOf (citation : Json) : Option (String × Int) :=
  match citation with
  | .obj fields =>
      if hasExactly ["input_id", "line"] fields then
        match citation.get? "input_id", citation.get? "line" with
        | some (.str inputId), some (.int line) => some (inputId, line)
        | _, _ => none
      else none
  | _ => none

/-- `_parse_answer`. -/
def parseAnswer (output : String) : ParsedAnswer :=
  match codec.validateJson output with
  | none => ⟨false, .null, []⟩
  | some document =>
      if hasExactly ["answer", "evidence"] document then
        let answer := (Json.obj document).field "answer"
        match (Json.obj document).get? "evidence" with
        | some (.arr citations) =>
            if citations = [] then ⟨false, answer, []⟩
            else match citations.mapM citationOf with
              | some cited => ⟨true, answer, cited⟩
              | none => ⟨false, answer, []⟩
        | _ => ⟨false, answer, []⟩
      else ⟨false, .null, []⟩

def causeLine (expected : String) : String := "ROOT_CAUSE_CODE=" ++ expected

/-- `_is_grounded`. -/
def isGrounded (parsed : ParsedAnswer) (persisted : List PersistedLine) (expected : String) :
    Bool :=
  let citationsGrounded := parsed.validShape && parsed.cited.all fun (inputId, line) =>
    persisted.any fun (storedInput, storedLine, _) => storedInput == inputId && storedLine == line
  let answerGrounded := parsed.cited.any fun (citedInput, citedLine) =>
    persisted.any fun (inputId, line, text) =>
      inputId == citedInput && line == citedLine && pyStrip text == causeLine expected
  parsed.answer == .str expected && citationsGrounded && answerGrounded

/-! ## The evaluation -/

/-- Where the Subject responded and what the new record is stamped with. -/
structure ResponsePoint where
  runId : String
  eventId : String
  sequence : Int
  eventHash : String
  recordId : String
  now : String
  named : Trimmed runId
  positive : 1 ≤ sequence
  hashed : isDigest eventHash = true
  recorded : Trimmed recordId
  timed : platform.coercion.isTimestamp now = true

structure EvaluationOutcome where
  record : EvaluationRecord platform
  score : Rat
  passed : Bool
  rationale : String
  evidence : List String
  /-- The state of the `GoalStateTerminalResult`. -/
  goalState : String

def readRationale (passed : Bool) : String :=
  if passed then
    "Strict answer matched the hidden reference and cited a persisted read-tool line."
  else "Strict answer or its cited persisted read-tool evidence did not match."

def fullConfidence : FloatText := ⟨"1.0".toList, by decide, by decide, by decide⟩

/-- The stages of the plan. -/
def planStages (spec : Json) : List Json := (spec.field "evaluation_plan").items "stages"

variable {platform}

/-- The keyword arguments of the record. -/
def recordDocument (point : ResponsePoint platform) (spec stage dimension : Json)
    (evidenceRefs : List String) (passed : Bool) : Json :=
  .obj [("boundary", .obj [("event_hash", .str point.eventHash),
      ("up_to_event_sequence", .int point.sequence)]),
    ("created_at_utc", .str point.now),
    ("dimension_values", .arr [.obj [("confidence", .float fullConfidence),
      ("dimension_id", dimension),
      ("evidence_refs", .arr (evidenceRefs.map fun ref => .obj [("ref", .str ref)])),
      ("rationale", .str (readRationale passed)), ("value", .bool passed)]]),
    ("evaluator_ref", stage.field "evaluator_ref"),
    ("gate_status", .str (if passed then "passed" else "failed")),
    ("plan_ref", spec.field "evaluation_plan_ref"),
    ("record_id", .str point.recordId),
    ("run_id", .str point.runId),
    ("source_type", .str "deterministic_grader"),
    ("stage_id", stage.field "id"),
    ("status", .str "final")]

/-- The item at index 0. -/
def firstOf {Item : Type} : List Item → Except EvaluationError Item
  | item :: _ => .ok item
  | [] => .error .indexError

def givenStore : Option VerifiedArtifacts → Except EvaluationError VerifiedArtifacts
  | some artifacts => .ok artifacts
  | none => .error (.valueError "strict read evaluation requires the canonical ArtifactStore")

def outcomeOf (record : EvaluationRecord platform) (evidenceRefs : List String) (passed : Bool) :
    EvaluationOutcome platform where
  record := record
  score := if passed then 1 else 0
  passed := passed
  rationale := readRationale passed
  evidence := evidenceRefs
  goalState := if passed then "achieved" else "not_achieved"

def evaluate (artifactStore : Option VerifiedArtifacts) (spec : RunSpec platform) (output : String)
    (point : ResponsePoint platform) (toolEvents : List Json) :
    Except EvaluationError (EvaluationOutcome platform) := do
  let artifacts ← givenStore artifactStore
  let stage ← firstOf (planStages spec.dump)
  let parameter ← firstOf (stage.items "parameters")
  let expected := codec.str (parameter.field "value")
  let persisted ← collectPersistedEvidence platform codec artifacts point.eventId toolEvents
  let passed := isGrounded (parseAnswer codec output) persisted.lines expected
  let dimension ← firstOf (stage.items "output_dimensions")
  let record ← orValidationError <| EvaluationRecord.modelValidate platform
    (recordDocument point spec.dump stage dimension persisted.evidenceRefs passed)
  .ok (outcomeOf record persisted.evidenceRefs passed)

/-- `supports`. -/
def supports (graderRef : Json) (spec : Json) : Bool :=
  match planStages spec with
  | [stage] => match stage.items "output_dimensions", stage.items "parameters" with
      | [dimension], [parameter] =>
          stage.field "evaluator_ref" == graderRef &&
          stage.field "kind" == .str "deterministic_grader" &&
          (stage.field "trigger").field "kind" == .str "event" &&
          (stage.field "trigger").field "reference" == .str "subject.responded" &&
          (((spec.field "evaluation_plan").items "dimensions").reverse.find? fun item =>
            item.field "id" == dimension).any (fun item =>
              item.field "value_type" == .str "boolean") &&
          parameter.field "key" == .str "expected" &&
          (match parameter.field "value" with
            | .str value => pyStrip value != ""
            | _ => false)
      | _, _ => false
  | _ => false

end Evidrun.Runs
