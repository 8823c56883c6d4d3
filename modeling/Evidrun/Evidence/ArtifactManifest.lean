import Evidrun.Contracts.RunSpecFields
import Evidrun.Evidence.ContractMembers
import Evidrun.Evidence.DocumentReads

/-!
# The artifact manifest of a comparison bundle

The v2 exporter collects one entry for every artifact that a RunSpec or a checkpoint names
and keeps, of several with the same Run, role and artifact, the last one. The verifier
collects the entries again and compares them with those of the manifest without keeping
only one of each.
-/

namespace Evidrun.Evidence

open JsonText DocumentSchema Evidrun.Contracts

set_option autoImplicit false

/-! ## Entries -/

def artifactRoles : List String :=
  ["scenario_input", "subject_input_materialized", "agent_instruction", "interaction_prompt",
    "hidden_calibration", "extension_schema", "extension_payload", "evaluation_evidence",
    "tool_arguments", "tool_result", "run_output", "progress_summary", "workspace_snapshot",
    "checkpoint_capture", "report_attachment"]

def validateContentClaim (entry : Json) : Except String Unit := do
  let included := entry.field "content_included" == .bool true
  raiseIf (included && isSet entry "omission_reason")
    "included artifact content cannot declare an omission reason"
  raiseIf (!included && !isSet entry "omission_reason")
    "omitted artifact content requires an explicit reason"

def artifactManifestEntry : Schema :=
  .model
    [required "artifact_ref" artifactRef,
      defaulted "content_included" (.bool false) boolean,
      optional "omission_reason" nonEmptyStr,
      defaulted "required_for_portability" (.bool false) boolean,
      required "role" (literal artifactRoles),
      required "run_id" nonEmptyStr,
      required "source_label" nonEmptyStr]
    validateContentClaim

/-- What a manifest has one entry for. -/
structure EntryKey where
  runId : String
  role : String
  artifactId : String
deriving DecidableEq

def entryKey (entry : Json) : EntryKey where
  runId := (entry.field "run_id").asString
  role := (entry.field "role").asString
  artifactId := ((entry.field "artifact_ref").field "artifact_id").asString

def validateUniqueEntries (manifest : Json) : Except String Unit :=
  raiseIf (!decide ((manifest.items "entries").map entryKey).Nodup)
    "artifact manifest entries must be unique per Run, role, and artifact"

def artifactManifest : Schema :=
  .model
    [tuple "entries" artifactManifestEntry,
      defaulted "portable" (.bool false) (.constant (.bool false)),
      defaulted "profile" (.str "audit") (literal ["audit"]),
      defaulted "replayable" (.bool false) (.constant (.bool false)),
      schemaVersion]
    validateUniqueEntries

section Schemas

variable (coercion : Coercion)

theorem wellFormed_artifactManifestEntry : WellFormed coercion artifactManifestEntry :=
  wellFormed_model (by decide)
    (by simp [wellFormed_artifactRef, nonEmptyStr, boolean, literal, validate, Scalar.parse])

theorem wellFormed_artifactManifest : WellFormed coercion artifactManifest :=
  wellFormed_model (by decide)
    (by simp [wellFormed_artifactManifestEntry, literal, validate, Scalar.parse, WellFormed,
      Json.ordered, dropEmpty])

theorem durable_artifactManifestEntry :
    Restores coercion artifactManifestEntry ∧ Filled coercion artifactManifestEntry :=
  durable_plain (wellFormed_artifactManifestEntry coercion)
    (by simp [nonEmptyStr, boolean, literal]) (by simp [nonEmptyStr, boolean, literal])

theorem restores_artifactManifest : Restores coercion artifactManifest :=
  have never : Filled coercion (.constant (.bool false)) := filled_constant rfl
  restores_model [] (wellFormed_artifactManifest coercion)
    (by simp [tuple, schemaVersion, literal, durable_artifactManifestEntry, never.recovers])
    (by simp)

end Schemas

variable (platform : Platform)

abbrev ArtifactManifestEntry : Type := Instance platform.coercion artifactManifestEntry

abbrev ArtifactManifest : Type := Instance platform.coercion artifactManifest

def omissionReason : String := "audit profile includes identity and digest, not artifact bytes"

/-- What a caller of `_entry` gives, besides the Run. -/
structure EntrySource where
  role : String
  artifactRef : Json
  sourceLabel : String
deriving DecidableEq

/-- The fields that `_entry` gives. -/
def entryDocument (runId : String) (source : EntrySource) : Json :=
  .obj [("artifact_ref", source.artifactRef), ("content_included", .bool false),
    ("omission_reason", .str omissionReason), ("required_for_portability", .bool true),
    ("role", .str source.role), ("run_id", .str runId),
    ("source_label", .str source.sourceLabel)]

/-- `_entry`. -/
def entryOf (runId : String) (source : EntrySource) :
    Except String (ArtifactManifestEntry platform) :=
  Instance.modelValidate (wellFormed_artifactManifestEntry platform.coercion)
    (entryDocument runId source)

/-- `enumerate`, with a label for every reference. -/
def enumerated (role label : String) (references : List Json) : List EntrySource :=
  references.zipIdx.map fun (reference, index) => ⟨role, reference, label ++ toString index⟩

/-- The references that are not `None`. -/
def givenRefs (references : List Json) : List Json := references.filter fun item => item != .null

/-- The entries of `spec_artifact_entries`, in their order. -/
def specArtifactSources (spec : Json) : List EntrySource :=
  ((inputBindings spec).map fun binding =>
    ⟨"scenario_input", binding.field "source",
      "scenario_input:" ++ (binding.field "id").asString⟩) ++
  enumerated "interaction_prompt" "interaction_prompt:"
    (givenRefs ((spec.field "interaction_protocol").field "system_prompt_ref" ::
      (spec.field "interaction_protocol").items "initial_message_refs")) ++
  ((capabilityRequirements spec).flatMap fun requirement =>
    enumerated "agent_instruction"
      ("capability_instruction:" ++
        ((requirement.field "capability_ref").field "name").asString ++ ":")
      (requirement.items "instruction_refs")) ++
  enumerated "hidden_calibration" "hidden_calibration:"
    (((spec.field "evaluation_plan").field "disclosure").items "hidden_input_refs") ++
  (spec.items "extensions").flatMap fun extension =>
    let slot := (extension.field "namespace").asString ++ ":" ++ (extension.field "slot").asString
    [⟨"extension_schema", extension.field "schema_ref", "extension_schema:" ++ slot⟩,
      ⟨"extension_payload", extension.field "payload_ref", "extension_payload:" ++ slot⟩]

/-- The entries of `checkpoint_artifact_entries` for one record. -/
def checkpointArtifactSources (record : Json) : List EntrySource :=
  enumerated "checkpoint_capture"
    ("checkpoint:" ++ (record.field "checkpoint_id").asString ++ ":")
    (givenRefs [record.field "protocol_state_ref", record.field "artifact_manifest_ref",
      record.field "workspace_snapshot_ref"])

/-- What a Run and its checkpoints name. -/
def runArtifactSources (spec : Json) (checkpoints : List Json) : List EntrySource :=
  specArtifactSources spec ++ checkpoints.flatMap checkpointArtifactSources

/-! ## The exporter -/

/-- `sorted` of tuples. -/
def EntryKey.le (left right : EntryKey) : Bool :=
  left.runId < right.runId || (left.runId = right.runId && (left.role < right.role ||
    (left.role = right.role && left.artifactId ≤ right.artifactId)))

/-- The last entry of every key, in the order of the keys. -/
def collapse (entries : List (ArtifactManifestEntry platform)) :
    List (ArtifactManifestEntry platform) :=
  ((dictOf (entries.map fun entry => (entryKey entry.dump, entry))).insertionSort
    fun left right => left.1.le right.1).map Prod.snd

/-- `artifact_manifest`. -/
def artifactManifestOf (entries : List (ArtifactManifestEntry platform)) :
    Except String (ArtifactManifest platform) :=
  Instance.modelValidate (wellFormed_artifactManifest platform.coercion) <| .obj
    [("entries", .arr ((collapse platform entries).map Instance.dump))]

/-- A Run of a comparison. -/
structure ComparedRun where
  runId : String
  spec : RunSpec platform
  checkpoints : List (CheckpointRecord platform)

variable {platform}

def ComparedRun.sources (run : ComparedRun platform) : List EntrySource :=
  runArtifactSources run.spec.dump (run.checkpoints.map Instance.dump)

/-- The entries of a Run. -/
def ComparedRun.entries (run : ComparedRun platform) :
    Except String (List (ArtifactManifestEntry platform)) :=
  run.sources.mapM (entryOf platform run.runId)

/-- The manifest that `export_comparison_v2` writes. -/
def exportedManifest (runs : List (ComparedRun platform)) :
    Except String (ArtifactManifest platform) := do
  let entries ← runs.mapM ComparedRun.entries
  artifactManifestOf platform entries.flatten

/-- `record_dict(record, digest_field="checkpoint_hash")`. -/
def checkpointDocument (record : CheckpointRecord platform) : Json :=
  match record.semanticDocument with
  | .obj fields => .obj (fields ++ [("checkpoint_hash", .str (digestOf platform record))])
  | other => other

def checkpointsName (runId : String) : String := "checkpoints/" ++ runId ++ ".json"

/-- The archive has the members that the exporter writes for these Runs and this manifest. -/
structure HoldsManifest (archive : Archive) (runs : List (ComparedRun platform))
    (manifest : ArtifactManifest platform) : Prop where
  manifest : readJson archive "artifact-manifest.json" =
    .ok (recordDict manifest.semanticDocument (digestOf platform manifest))
  checkpoints : ∀ run ∈ runs, readJson archive (checkpointsName run.runId) =
    .ok (.arr (run.checkpoints.map checkpointDocument))

/-! ## The verifier -/

/-- `read_json`; a member that is not there is a `KeyError`. -/
def readMember (archive : Archive) (name : String) : Except ReadError Json :=
  match readJson archive name with
  | .ok document => .ok document
  | .error _ => .error (.keyError name)

/-- `document.pop("digest")`. -/
def popDigest : Json → Except ReadError (Json × Json)
  | .obj fields => match (Json.obj fields).get? "digest" with
      | some digest => .ok (digest, (Json.obj fields).erase "digest")
      | none => .error (.keyError "digest")
  | .arr _ => .error (.typeError "pop")
  | _ => .error (.attributeError "pop")

/-- The documents of a list; iterating anything else ends in an exception. -/
def documentsOf : Json → Except ReadError (List Json)
  | .arr items => .ok items
  | .obj [] => .ok []
  | .obj _ | .str _ => .error (.attributeError "items")
  | _ => .error (.typeError "not iterable")

/-- A `ValidationError` is a `ValueError`. -/
def orValueError {Result : Type} : Except String Result → Except ReadError Result
  | .ok result => .ok result
  | .error reason => .error (.valueError reason)

/-- `_checkpoint_records`. -/
def checkpointRecords (platform : Platform) (archive : Archive) (runId : String) :
    Except ReadError (List (CheckpointRecord platform)) := do
  (← documentsOf (← readMember archive (checkpointsName runId))).mapM
    (readCheckpointDocument platform)

/-- The expected entries of one Run. -/
def expectedRunEntries (archive : Archive) (run : String × RunSpec platform) :
    Except ReadError (List (ArtifactManifestEntry platform)) := do
  let specEntries ← orValueError ((specArtifactSources run.2.dump).mapM (entryOf platform run.1))
  let records ← checkpointRecords platform archive run.1
  let captures ← orValueError
    (((records.map Instance.dump).flatMap checkpointArtifactSources).mapM (entryOf platform run.1))
  .ok (specEntries ++ captures)

/-- `_documents`. -/
def documentTexts (entries : List Json) : List String :=
  entries.map fun entry => canonicalJson (dropEmpty entry)

def sameSet (left right : List String) : Bool :=
  left.all (· ∈ right) && right.all (· ∈ left)

/-- `_artifact_manifest_valid`, with what it raises. -/
def checkArtifactManifest (archive : Archive) (specs : List (String × RunSpec platform)) :
    Except ReadError Bool := do
  let (stated, document) ← popDigest (← readMember archive "artifact-manifest.json")
  let manifest ← orValueError
    (Instance.modelValidate (wellFormed_artifactManifest platform.coercion) document)
  let expected ← specs.mapM (expectedRunEntries archive)
  .ok (.str (digestOf platform manifest) == stated &&
    manifest.dump.field "profile" == .str "audit" &&
    manifest.dump.field "portable" == .bool false &&
    manifest.dump.field "replayable" == .bool false &&
    sameSet (documentTexts (expected.flatten.map Instance.dump))
      (documentTexts (manifest.dump.items "entries")))

/-- `except KeyError, TypeError, ValueError: return False`. -/
def artifactManifestValid (archive : Archive) (specs : List (String × RunSpec platform)) :
    Except ReadError Bool :=
  match checkArtifactManifest archive specs with
  | .ok valid => .ok valid
  | .error (.attributeError name) => .error (.attributeError name)
  | .error _ => .ok false

end Evidrun.Evidence
