import Evidrun.Contracts.Study

/-!
# Contract revisions

The nine kinds of authoring contracts as immutable revisions: the common envelope
of `evidrun.contracts.base`, the content a digest covers, the reference to a
revision and `parse_revision` of `evidrun.contracts.authoring.parse`.

The digest covers the kind, the logical id, the revision number and the payload.
The Project and the title are not part of it.
-/

namespace Evidrun.Contracts

open JsonText DocumentSchema

set_option autoImplicit false

/-! ## Refusals -/

/-- A named refusal of a triage phase. -/
structure Refusal where
  code : String
  message : String
  fieldPath : List String
  remediation : Option String
deriving DecidableEq

/-- What the contract modules raise. -/
inductive Raised
  | valueError (text : String)
  /-- A pydantic `ValidationError`. -/
  | validationError (text : String)
  | typeError (text : String)
  | keyError (text : String)
  | permissionError (text : String)
  | rejected (refusal : Refusal)
deriving DecidableEq

/-- Raise if a condition holds. -/
def raiseWhen (condition : Bool) (exception : Raised) : Except Raised Unit :=
  if condition then .error exception else .ok ()

@[simp] theorem raiseWhen_ok (condition : Bool) (exception : Raised) (done : Unit) :
    raiseWhen condition exception = .ok done ↔ condition = false := by
  cases condition <;> simp [raiseWhen]

/-- A model built from a document, or the pydantic error. -/
def built {Result : Type} (read : Except String Result) : Except Raised Result :=
  match read with
  | .ok result => .ok result
  | .error reason => .error (.validationError reason)

@[simp] theorem built_ok {Result : Type} (read : Except String Result) (result : Result) :
    built read = .ok result ↔ read = .ok result := by
  cases read <;> simp [built]

/-! ## Kinds of contracts -/

inductive ContractType
  | study | goal | scenario | agentInventory | workspaceTemplate | interactionProtocol
  | evaluationPlan | checkpointPolicy | progressArtifactPolicy
deriving DecidableEq, Repr

namespace ContractType

def all : List ContractType :=
  [.study, .goal, .scenario, .agentInventory, .workspaceTemplate, .interactionProtocol,
    .evaluationPlan, .checkpointPolicy, .progressArtifactPolicy]

def name : ContractType → String
  | .study => "study"
  | .goal => "goal"
  | .scenario => "scenario"
  | .agentInventory => "agent_inventory"
  | .workspaceTemplate => "workspace_template"
  | .interactionProtocol => "interaction_protocol"
  | .evaluationPlan => "evaluation_plan"
  | .checkpointPolicy => "checkpoint_policy"
  | .progressArtifactPolicy => "progress_artifact_policy"

def ofName? (text : String) : Option ContractType := all.find? fun kind => kind.name = text

@[simp] theorem ofName?_name (kind : ContractType) : ofName? kind.name = some kind := by
  cases kind <;> rfl

theorem name_injective {left right : ContractType} (same : left.name = right.name) :
    left = right := by
  simpa using congrArg ofName? same

/-- The payload of a revision. -/
def payloadSpec : ContractType → Schema
  | .study => studySpec
  | .goal => goalSpec
  | .scenario => scenarioSpec
  | .agentInventory => agentInventorySpec
  | .workspaceTemplate => workspaceTemplateSpec
  | .interactionProtocol => interactionProtocolSpec
  | .evaluationPlan => evaluationPlanSpec
  | .checkpointPolicy => checkpointPolicySpec
  | .progressArtifactPolicy => progressArtifactPolicySpec

/-- The name of the class of a revision. -/
def className : ContractType → String
  | .study => "StudyRevision"
  | .goal => "GoalRevision"
  | .scenario => "ScenarioRevision"
  | .agentInventory => "AgentInventoryRevision"
  | .workspaceTemplate => "WorkspaceTemplateRevision"
  | .interactionProtocol => "InteractionProtocolRevision"
  | .evaluationPlan => "EvaluationPlanRevision"
  | .checkpointPolicy => "CheckpointPolicyRevision"
  | .progressArtifactPolicy => "ProgressArtifactPolicyRevision"

variable (coercion : Coercion)

theorem wellFormed_payloadSpec (kind : ContractType) : WellFormed coercion kind.payloadSpec := by
  cases kind with
  | study => exact wellFormed_studySpec coercion
  | goal => exact wellFormed_goalSpec coercion
  | scenario => exact wellFormed_scenarioSpec coercion
  | agentInventory => exact wellFormed_agentInventorySpec coercion
  | workspaceTemplate => exact wellFormed_workspaceTemplateSpec coercion
  | interactionProtocol => exact wellFormed_interactionProtocolSpec coercion
  | evaluationPlan => exact wellFormed_evaluationPlanSpec coercion
  | checkpointPolicy => exact wellFormed_checkpointPolicySpec coercion
  | progressArtifactPolicy => exact wellFormed_progressArtifactPolicySpec coercion

/-- Every payload is read again from its content, and is never empty. -/
theorem rereads_payloadSpec (kind : ContractType) :
    Rereads coercion kind.payloadSpec ∧ Filled coercion kind.payloadSpec := by
  have durable : ∀ {schema : Schema}, WellFormed coercion schema →
      Restores coercion schema ∧ Filled coercion schema →
        Rereads coercion schema ∧ Filled coercion schema :=
    fun formed both => ⟨both.1.rereads formed, both.2⟩
  have formed := wellFormed_payloadSpec coercion kind
  cases kind with
  | study =>
      exact ⟨rereads_studySpec, filled_model (wellFormed_studySpec coercion)
        (by simp [studySpecFields, tuple])⟩
  | goal => exact durable formed durable_goalSpec
  | scenario => exact durable formed durable_scenarioSpec
  | agentInventory => exact durable formed durable_agentInventorySpec
  | workspaceTemplate => exact durable formed durable_workspaceTemplateSpec
  | interactionProtocol => exact durable formed durable_interactionProtocolSpec
  | evaluationPlan => exact durable formed durable_evaluationPlanSpec
  | checkpointPolicy => exact durable formed durable_checkpointPolicySpec
  | progressArtifactPolicy => exact durable formed durable_progressArtifactPolicySpec

end ContractType

/-! ## Revisions -/

def revisionFields (kind : ContractType) : List (String × Presence × Schema) :=
  [defaulted "contract_type" (.str kind.name) (literal [kind.name]),
    required "logical_id" nonEmptyStr,
    required "payload" kind.payloadSpec,
    required "project_id" nonEmptyStr,
    required "revision" (integerFrom 1),
    schemaVersion,
    required "title" nonEmptyStr]

def revisionEnvelope (kind : ContractType) : Schema := .model (revisionFields kind) noCheck

theorem names_revisionFields (kind : ContractType) :
    names (revisionFields kind) =
      ["contract_type", "logical_id", "payload", "project_id", "revision", "schema_version",
        "title"] := rfl

theorem wellFormed_revisionEnvelope (coercion : Coercion) (kind : ContractType) :
    WellFormed coercion (revisionEnvelope kind) :=
  wellFormed_model (by rw [names_revisionFields]; decide)
    (by simp [revisionFields, kind.wellFormed_payloadSpec coercion, literal, nonEmptyStr,
      integerFrom, validate, Scalar.parse])

theorem rereads_revisionEnvelope {coercion : Coercion} (kind : ContractType) :
    Rereads coercion (revisionEnvelope kind) := by
  refine rereads_model [] (wellFormed_revisionEnvelope coercion kind) ?_ (by simp)
    (fun _ _ _ _ _ _ => rfl)
  simp [revisionFields, kind.rereads_payloadSpec coercion, schemaVersion, literal, nonEmptyStr,
    integerFrom]

/-- A revision of some kind of contract. -/
structure Revision (platform : Platform) where
  kind : ContractType
  contract : Instance platform.coercion (revisionEnvelope kind)

def integerOf : Json → Int
  | .int value => value
  | _ => 0

namespace Revision

variable {platform : Platform}

def dump (revision : Revision platform) : Json := revision.contract.dump

theorem ext_dump {left right : Revision platform} (kind : left.kind = right.kind)
    (dump : left.dump = right.dump) : left = right := by
  obtain ⟨leftKind, left⟩ := left
  obtain ⟨rightKind, right⟩ := right
  cases kind
  exact congrArg (Revision.mk leftKind) (Instance.ext left right dump)

instance : DecidableEq (Revision platform) := fun left right =>
  decidable_of_iff (left.kind = right.kind ∧ left.dump = right.dump)
    ⟨fun same => ext_dump same.1 same.2, fun same => by rw [same]; exact ⟨rfl, rfl⟩⟩

def logicalId (revision : Revision platform) : String := (revision.dump.field "logical_id").asString

def number (revision : Revision platform) : Int := integerOf (revision.dump.field "revision")

def projectId (revision : Revision platform) : String := (revision.dump.field "project_id").asString

def title (revision : Revision platform) : String := (revision.dump.field "title").asString

def payload (revision : Revision platform) : Json := revision.dump.field "payload"

def semanticDocument (revision : Revision platform) : Json := revision.contract.semanticDocument

/-- The content that the digest covers. -/
def digestDocument (revision : Revision platform) : Json :=
  .obj <| ["contract_type", "logical_id", "payload", "revision", "schema_version"].map fun key =>
    (key, revision.semanticDocument.field key)

def digest (revision : Revision platform) : String := sha256Json platform revision.digestDocument

/-- The `ContractRef` of a revision. -/
def ref (revision : Revision platform) : Json :=
  .obj [("contract_type", .str revision.kind.name), ("digest", .str revision.digest),
    ("logical_id", .str revision.logicalId), ("revision", .int revision.number)]

end Revision

abbrev RevisionKey : Type := Json × Json × Json

/-- What identifies a revision: a reference without its digest. -/
def identityKey (reference : Json) : RevisionKey :=
  (reference.field "contract_type", reference.field "logical_id", reference.field "revision")

def Revision.identity {platform : Platform} (revision : Revision platform) : RevisionKey :=
  identityKey revision.ref

/-! ## References in normal form -/

theorem str_of_nonEmptyStr {coercion : Coercion} {value : Json}
    (stable : validate coercion nonEmptyStr value = .ok value) : value = .str value.asString := by
  cases value with
  | str text => rfl
  | _ => simp [nonEmptyStr, validate, Scalar.parse] at stable

theorem int_of_integerFrom {coercion : Coercion} {least : Int} {value : Json}
    (stable : validate coercion (integerFrom least) value = .ok value) :
    value = .int (integerOf value) := by
  simp only [integerFrom, validate, Scalar.parse] at stable
  split at stable
  · split_ifs at stable
    cases stable
    rfl
  · cases stable

namespace Revision

variable {platform : Platform}

theorem text_stable (revision : Revision platform) {name : String}
    (member : required name nonEmptyStr ∈ revisionFields revision.kind) :
    validate platform.coercion nonEmptyStr (.str (revision.dump.field name).asString) =
      .ok (.str (revision.dump.field name).asString) := by
  have held := field_source (wellFormed_revisionEnvelope platform.coercion revision.kind)
    revision.contract.valid member
  have stable := (held.resolve_left (by simp)).2.2
  rw [dump, ← str_of_nonEmptyStr stable]
  exact stable

theorem number_stable (revision : Revision platform) :
    validate platform.coercion (integerFrom 1) (.int revision.number) =
      .ok (.int revision.number) := by
  have held := field_source (wellFormed_revisionEnvelope platform.coercion revision.kind)
    revision.contract.valid
    (show required "revision" (integerFrom 1) ∈ revisionFields revision.kind by
      simp [revisionFields])
  have stable := (held.resolve_left (by simp)).2.2
  rw [number, dump, ← int_of_integerFrom stable]
  exact stable

/-- A reference to a revision is in normal form, if it can be read at all. -/
theorem validate_ref {revision : Revision platform} {value : Json}
    (read : validate platform.coercion contractRef revision.ref = .ok value) :
    value = revision.ref := by
  have kind : validate platform.coercion contractType (.str revision.kind.name) =
      .ok (.str revision.kind.name) := by
    cases revision.kind <;> rfl
  have id := revision.text_stable (show required "logical_id" nonEmptyStr ∈ _ by
    simp [revisionFields])
  have number := revision.number_stable
  obtain ⟨result, digested, _⟩ := get?_of_read (wellFormed_contractRef platform.coercion) read
    (show required "digest" Contracts.digest ∈ _ by simp)
    (show revision.ref.get? "digest" = some (.str revision.digest) from rfl) (by simp)
  have same : result = .str revision.digest := by
    simp only [Contracts.digest, validate, Scalar.parse] at digested
    split_ifs at digested
    exact (Except.ok.inj digested).symm
  rw [same] at digested
  have whole : validate platform.coercion contractRef revision.ref = .ok revision.ref := by
    rw [contractRef, ref, validate, if_pos (by simp [names, required])]
    simp [validateFields, required, List.lookup_cons, readPresence, kind, id, number, digested, logicalId,
      consField, Except.map, bind, Except.bind, noCheck]
  rw [whole] at read
  exact (Except.ok.inj read).symm

theorem number_pos (revision : Revision platform) : 1 ≤ revision.number := by
  have stable := revision.number_stable
  simp only [integerFrom, validate, Scalar.parse, Coercion.int_kept] at stable
  split_ifs at stable with bound
  simpa using bound

end Revision

/-! ## Parsing -/

def parseRejected (code message : String) (fieldPath : List String)
    (remediation : Option String) : Raised :=
  .rejected ⟨code, message, fieldPath, remediation⟩

/-- A document that does not fit the model of its kind is refused with one of the
parse codes, which depends on the list of errors that pydantic reports; here the
refusal carries the reason. -/
def parseRevision (platform : Platform) (document : Json) : Except Raised (Revision platform) :=
  match document with
  | .obj fields => match fields.lookup "contract_type" with
      | none | some .null =>
          .error (parseRejected "parse.contract_type_missing"
            "O documento não declara contract_type." ["contract_type"]
            (some "Declare o contract_type do documento."))
      | some raw => match ContractType.ofName? raw.asString with
          | none =>
              .error (parseRejected "parse.contract_type_unknown"
                "O contract_type declarado não existe." ["contract_type"]
                (some "Use um dos tipos de contrato suportados."))
          | some kind => do
              let contract ← built <|
                Instance.modelValidate (wellFormed_revisionEnvelope platform.coercion kind) document
              .ok ⟨kind, contract⟩
  | _ =>
      .error (parseRejected "parse.document_not_object"
        "O documento de contrato precisa ser um objeto." []
        (some "Envie um mapeamento com contract_type declarado."))

namespace Revision

variable {platform : Platform}

/-- A revision that was read from the document of another one. -/
structure Reread (revision again : Revision platform) : Prop where
  kind : again.kind = revision.kind
  content : again.semanticDocument = revision.semanticDocument
  field : ∀ name ∈ ["logical_id", "project_id", "revision", "title"],
    again.dump.field name = revision.dump.field name
  payload : validate platform.coercion revision.kind.payloadSpec (dropEmpty revision.payload) =
    .ok again.payload

theorem get?_contractType (revision : Revision platform) :
    revision.dump.get? "contract_type" = some (.str revision.kind.name) :=
  literal_dump platform.coercion (revisionFields revision.kind) noCheck
    (by rw [names_revisionFields]; decide) "contract_type" revision.kind.name
    (by simp [revisionFields]) _ _ revision.contract.valid

/-- The fields of a revision, as they were read. -/
theorem fields_valid (revision : Revision platform) :
    ∃ given dumped, revision.dump = .obj dumped ∧
      validateFields platform.coercion (revisionFields revision.kind) given = .ok dumped := by
  obtain ⟨given, dumped, _, shape, valid, _⟩ := validate_model revision.contract.valid
  exact ⟨given, dumped, shape, valid⟩

theorem payload_valid (revision : Revision platform) :
    ∃ given, validate platform.coercion revision.kind.payloadSpec given = .ok revision.payload := by
  have formed := wellFormed_revisionEnvelope platform.coercion revision.kind
  rw [revisionEnvelope, WellFormed] at formed
  obtain ⟨_, dumped, shape, valid⟩ := revision.fields_valid
  have member : required "payload" revision.kind.payloadSpec ∈ revisionFields revision.kind := by
    simp [revisionFields]
  obtain ⟨value, held⟩ := validateFields_present_of_mandatory formed.1 valid member (by simp)
  obtain ⟨_, source, sourceValid⟩ := validateFields_source formed.1 formed.2 valid member held
  exact ⟨source, by simpa only [payload, shape, Json.field, Json.get?, held, Option.getD_some] using sourceValid⟩

/-- The payload is never empty, so the semantic document has it. -/
theorem semanticDocument_payload (revision : Revision platform) :
    revision.semanticDocument.field "payload" = dropEmpty revision.payload := by
  obtain ⟨given, valid⟩ := revision.payload_valid
  have formed := revision.kind.wellFormed_payloadSpec platform.coercion
  have filled := (revision.kind.rereads_payloadSpec platform.coercion).2 given _ valid
  have present := validate_ne_null formed valid
  obtain ⟨_, dumped, shape, _⟩ := revision.fields_valid
  have held : dumped.lookup "payload" = some revision.payload := by
    cases found : dumped.lookup "payload" with
    | none => simp [payload, shape, Json.field, Json.get?, found] at present
    | some value => simp [payload, shape, Json.field, Json.get?, found]
  have kept : keep revision.payload = some (dropEmpty revision.payload) := by
    simp [keep, present, filled]
  have found := lookup_dropEmptyFields_kept held kept
  rw [semanticDocument, Instance.semanticDocument, ← dump, shape, dropEmpty]
  exact Json.field_of_get found

theorem parseRevision_of_validate {kind : ContractType} {document : Json}
    (named : document.get? "contract_type" = some (.str kind.name))
    (read : Instance platform.coercion (revisionEnvelope kind))
    (valid : validate platform.coercion (revisionEnvelope kind) document = .ok read.dump) :
    parseRevision platform document = .ok ⟨kind, read⟩ := by
  cases document with
  | obj fields =>
      simp only [Json.get?] at named
      simp only [parseRevision, named, Json.asString, ContractType.ofName?_name]
      rw [(Instance.modelValidate_ok _ _ read).mpr valid]
      rfl
  | _ => simp [Json.get?] at named

theorem parseRevision_semanticDocument (revision : Revision platform) :
    ∃ again, parseRevision platform revision.semanticDocument = .ok again ∧
      Reread revision again := by
  obtain ⟨again, read, content⟩ := rereads_revisionEnvelope revision.kind _ _ revision.contract.valid
  have formed := wellFormed_revisionEnvelope platform.coercion revision.kind
  refine ⟨⟨revision.kind, again, validate_stable formed _ _ read⟩, ?_, rfl, content, ?_, ?_⟩
  · exact parseRevision_of_validate
      (get?_dropEmpty_str revision.dump _ _ revision.get?_contractType) _ read
  all_goals
    obtain ⟨_, dumped, second, shape, rfl, first, next⟩ :=
      validate_model_reread revision.contract.valid read
    rw [revisionEnvelope, WellFormed] at formed
  · intro name kept
    have safe : ∀ name ∈ ["logical_id", "project_id", "revision", "title"], ∃ rule,
        required name (.scalar rule) ∈ revisionFields revision.kind := by
      simp [revisionFields, required, defaulted, schemaVersion, nonEmptyStr, integerFrom]
    obtain ⟨rule, member⟩ := safe name kept
    have same := lookup_reread formed.1 formed.2 first next member (restores_scalar rule)
      (Or.inl (filled_scalar rule))
    simp only [dump, shape, Json.field, Json.get?, same]
  · have member : required "payload" revision.kind.payloadSpec ∈ revisionFields revision.kind := by
      simp [revisionFields]
    have payload := validate_lookup_reread formed.1 formed.2 first next member (by simp) (by simp)
    simpa only [Revision.payload, dump, shape] using payload

variable {revision again : Revision platform}

theorem Reread.digestDocument (reread : Reread revision again) :
    again.digestDocument = revision.digestDocument := by
  simp only [Revision.digestDocument, reread.content]

theorem Reread.digest (reread : Reread revision again) : again.digest = revision.digest := by
  simp only [Revision.digest, reread.digestDocument]

theorem Reread.ref (reread : Reread revision again) : again.ref = revision.ref := by
  simp only [Revision.ref, reread.kind, reread.digest, logicalId, number,
    reread.field "logical_id" (by simp), reread.field "revision" (by simp)]

theorem Reread.projectId (reread : Reread revision again) :
    again.projectId = revision.projectId := by
  simp only [Revision.projectId, reread.field "project_id" (by simp)]

/-- A required scalar is in the semantic document as it is. -/
theorem semanticDocument_scalar (revision : Revision platform) (name : String) (rule : Scalar)
    (member : required name (.scalar rule) ∈ revisionFields revision.kind) :
    revision.semanticDocument.field name = revision.dump.field name := by
  have formed := wellFormed_revisionEnvelope platform.coercion revision.kind
  rw [revisionEnvelope, WellFormed] at formed
  obtain ⟨_, dumped, shape, valid⟩ := revision.fields_valid
  obtain ⟨value, held⟩ := validateFields_present_of_mandatory formed.1 valid member (by simp)
  obtain ⟨_, source, sourceValid⟩ := validateFields_source formed.1 formed.2 valid member held
  rw [validate] at sourceValid
  have scalar := (rule.parse_stable platform.coercion source value sourceValid).2
  have found := lookup_dropEmptyFields_kept held (keep_of_isScalar value scalar)
  rw [semanticDocument, Instance.semanticDocument, ← dump, shape, dropEmpty]
  simp only [Json.field, Json.get?, found, held]

theorem ref_of_digestDocument {other : Revision platform}
    (same : revision.digestDocument = other.digestDocument) (kind : revision.kind = other.kind) :
    revision.ref = other.ref := by
  have fields := same
  simp only [digestDocument, List.map_cons, List.map_nil, Json.obj.injEq, List.cons.injEq,
    Prod.mk.injEq, true_and, and_true] at fields
  obtain ⟨_, id, _, number, _⟩ := fields
  have scalars : ∀ revision : Revision platform,
      revision.semanticDocument.field "logical_id" = revision.dump.field "logical_id" ∧
        revision.semanticDocument.field "revision" = revision.dump.field "revision" :=
    fun revision =>
      ⟨revision.semanticDocument_scalar _ (.trimmed fun _ => true)
          (by simp [revisionFields, nonEmptyStr]),
        revision.semanticDocument_scalar _ (.integer (some 1))
          (by simp [revisionFields, integerFrom])⟩
  rw [(scalars revision).1, (scalars other).1] at id
  rw [(scalars revision).2, (scalars other).2] at number
  simp only [ref, digest, same, kind, logicalId, Revision.number, id, number]

theorem content_of_digestDocument {other : Revision platform}
    (same : revision.digestDocument = other.digestDocument) :
    dropEmpty revision.payload = dropEmpty other.payload := by
  simp only [digestDocument, List.map_cons, List.map_nil, Json.obj.injEq, List.cons.injEq,
    Prod.mk.injEq, true_and, and_true] at same
  rw [← revision.semanticDocument_payload, ← other.semanticDocument_payload]
  exact same.2.2.1

end Revision

end Evidrun.Contracts
