import Evidrun.Contracts.Compiler
import Evidrun.Database.RegistryHistory
import Evidrun.Evidence.DocumentReads
import Evidrun.Lab.Turn
import Mathlib.Data.Finset.Card

/-!
# Drafts of the Lab Agent

`validate_draft` reads a draft with the public parser and compiles a Study against the
accepted revisions; `propose_draft` does it again and saves the revision. The registry
has rules of its own, and what it refuses with is no `LabToolRejected`: serving the call
takes it for a failure of the tool.
-/

namespace Evidrun.Lab

open JsonText DocumentSchema Evidrun.Contracts Evidrun.Database

set_option autoImplicit false

/-- What a draft tool raises. -/
inductive DraftExc
  /-- `LabToolRejected`, which goes back to the model. -/
  | rejected (error : LabAgentError)
  | registry (exception : RegistryExc)
  | fault (fault : Fault)

/-- A receipt: the session, the turn, the Project and the digest of the draft. -/
abbrev DraftValidationKey : Type := String × Nat × String × String

structure DraftStore where
  tables : RegistryTables
  validated : Finset DraftValidationKey

/-- A returned `content`, or the exception. -/
abbrev DraftOutcome : Type := Except DraftExc Json × DraftStore

def draftError (code : LabAgentErrorCode) (message remediation : String) (fieldPath : List String)
    (toolName : String) : DraftExc :=
  let error : Except Fault LabAgentError := do
    .ok ⟨code, ← nonEmptyText message, ← nonEmptyText remediation,
      ← fieldPath.mapM nonEmptyText, some toolName⟩
  match error with
  | .ok error => .rejected error
  | .error fault => .fault fault

def authorityFields : List String :=
  ["acceptance", "attestation", "authority", "decision", "human_review", "status"]

mutual

/-- The path of the first field that declares a decision or an authority. -/
def authorityField : Json → Option (List String)
  | .obj fields => authorityEntry fields
  | .arr items => authorityItem 0 items
  | _ => none

def authorityEntry : List (String × Json) → Option (List String)
  | [] => none
  | (key, item) :: rest =>
      if key ∈ authorityFields then some [key]
      else match authorityField item with
        | some nested => some (key :: nested)
        | none => authorityEntry rest

def authorityItem (index : Nat) : List Json → Option (List String)
  | [] => none
  | item :: rest => match authorityField item with
      | some nested => some (toString index :: nested)
      | none => authorityItem (index + 1) rest

end

/-- The document with the Project of the session. -/
def inherited (projectId : String) : Json → Json
  | .obj fields => .obj (Evidence.setEntry "project_id" (.str projectId) fields)
  | document => document

/-- The document names another Project. -/
def overridesProject (projectId : String) : Json → Bool
  | .obj fields => (fields.lookup "project_id").any (· != .str projectId)
  | _ => false

def translatedRefusal (refusal : Refusal) (toolName : String) : DraftExc :=
  draftError .draftValidationFailed refusal.message
    ((nonEmpty refusal.remediation).getD
      "Corrija o documento para satisfazer o contrato declarado.")
    ("document" :: refusal.fieldPath) toolName

/-- `except TriageRejected`. -/
def translated {Result : Type} (toolName : String) : Except Raised Result → Except DraftExc Result
  | .ok result => .ok result
  | .error (.rejected refusal) => .error (translatedRefusal refusal toolName)
  | .error exception => .error (.registry (.raised exception))

/-- `parse_revision`; which parse code names a document that does not fit depends on the errors
that pydantic lists, here it is the last one. -/
def parseDraft (platform : Platform) (document : Json) : Except Raised (Revision platform) :=
  match parseRevision platform document with
  | .error (.validationError _) => .error (parseRejected "parse.schema_invalid"
      "O documento não satisfaz o schema do contrato." [] none)
  | result => result

section Tools

variable (platform : Platform) (environment : RegistryEnvironment) (scan : ScanOrder)

/-- Compile a Study against the accepted revisions and the draft itself. -/
def compileDraft (tables : RegistryTables) (projectId toolName : String) :
    Revision platform → Except DraftExc Unit
  | ⟨.study, study⟩ =>
      match tables.contractRegistry platform environment scan (some projectId) with
      | .error exception => .error (.registry (.raised exception))
      | .ok accepted =>
          let resolver reference :=
            if reference = (StudyRevision.revision study).ref then .ok (StudyRevision.revision study)
            else accepted.resolve reference
          (translated toolName (StudyCompiler.compile ⟨resolver, .empty⟩ study)).map fun _ => ()
  | _ => .ok ()

def validatedRevision (tables : RegistryTables) (contractType : String) (document : Json)
    (projectId toolName : String) : Except DraftExc (Revision platform) :=
  match authorityField document with
  | some path => .error (draftError .authorityHumanDecisionRequired
      "O draft tenta declarar uma decisão ou autoridade humana."
      "Remova o campo de decisão e registre um pedido de aprovação." ("document" :: path) toolName)
  | none =>
      if overridesProject projectId document then
        .error (draftError .draftScopeOverrideForbidden
          "O draft tenta declarar um Project divergente da sessão."
          "Use o Project desta sessão ou remova project_id do documento."
          ["document", "project_id"] toolName)
      else do
        let revision ← translated toolName
          (parseDraft platform (inherited projectId document))
        if revision.kind.name ≠ contractType then
          .error (draftError .draftValidationFailed
            "O contract_type do argumento diverge do documento."
            "Use o mesmo contract_type no argumento e no documento." ["contract_type"] toolName)
        else do
          compileDraft platform environment scan tables projectId toolName revision
          .ok revision

def draftValidationKey (contractType : String) (document : Json)
    (context : ToolContext) (projectId : String) : DraftValidationKey :=
  (context.sessionId, context.turnSequence, projectId,
    Contracts.sha256Json platform (.obj [("contract_type", .str contractType),
      ("document", document), ("project_id", .str projectId)]))

variable (context : ToolContext) (contractType : String) (document : Json)
  (store : DraftStore)

def validateDraft : DraftOutcome :=
  match context.scope.projectId with
  | none => (.error (draftError .scopeProjectRequired
      "Esta operação exige uma Project chat; a sessão atual é General."
      "Peça ao humano para abrir uma Project chat antes de validar o draft." [] "validate_draft"),
      store)
  | some projectId =>
      match validatedRevision platform environment scan store.tables contractType
          document projectId "validate_draft" with
      | .error exception => (.error exception, store)
      | .ok revision =>
          (.ok (.obj [("valid", .bool true), ("contract_type", .str revision.kind.name),
            ("digest", .str revision.digest), ("normalized", revision.semanticDocument)]),
            { store with
              validated := insert
                (draftValidationKey platform contractType document context projectId)
                store.validated })

/-- Save a draft and read its record back. -/
def saveDraft (revision : Revision platform) (now : Time) :
    Except DraftExc ContractRevisionRow × DraftStore :=
  let saved := store.tables.saveContractRevision revision "draft" now
  (match saved.result with
    | .error exception => .error (.registry exception)
    | .ok row => match (saved.tables.orderedRevisions none).find? (·.id = row.id) with
        | some found => .ok found
        | none => .error (.registry (.raised (.keyError row.id))),
    { store with tables := saved.tables })

def proposeDraft (informedBy : List String) (now : Time) : DraftOutcome :=
  match context.scope.projectId with
  | none => (.error (draftError .scopeProjectRequired
      "Esta operação exige uma Project chat; a sessão atual é General."
      "Peça ao humano para abrir uma Project chat antes de propor o draft." [] "propose_draft"),
      store)
  | some projectId =>
      let key := draftValidationKey platform contractType document context projectId
      if key ∉ store.validated then
        (.error (draftError .draftNotValidated
          "A proposta não passou por validação neste turno antes do registro."
          "Valide este documento e só então registre a proposta sem alterá-lo." ["document"]
          "propose_draft"), store)
      else
        let consumed := { store with validated := store.validated.erase key }
        match validatedRevision platform environment scan store.tables contractType
            document projectId "propose_draft" with
        | .error exception => (.error exception, consumed)
        | .ok revision =>
            let (saved, after) := saveDraft platform consumed revision now
            (saved.map fun row => .obj [("revision_ref", .str row.id),
              ("contract_type", .str revision.kind.name), ("digest", .str row.digest),
              ("status", .str row.status), ("project_id", .str row.projectId),
              ("informed_by", .arr (informedBy.map .str))], after)

end Tools

/-! ## What registering adds to validating -/

/-- The registry has a place for the revision: it is there already, or it is the next one of its
line, in a Project that exists, under an id that is not in use. -/
def Registrable (platform : Platform) (tables : RegistryTables) (revision : Revision platform) :
    Prop :=
  match tables.revision? revision.identity with
  | some existing => existing.digest = revision.digest ∧
      existing.documentJson = .write revision.semanticDocument
  | none => revision.number = InMemoryContractRegistry.latestNumber
        (tables.numbers revision.kind revision.logicalId) + 1 ∧
      revision.projectId ∈ tables.projects ∧
      "crev" ++ "_" ++ platform.uuid7 (tables.issued + 1) ∉
        tables.revisions.map ContractRevisionRow.id

/-- The tool completed, or its refusal goes back to the model. -/
def settles : Except DraftExc Json → Bool
  | .ok _ | .error (.rejected _) => true
  | _ => false

section Registers

variable {platform : Platform} {environment : RegistryEnvironment} {scan : ScanOrder}

/-- A revision that has a place is saved, and its row is stored; any other is refused. -/
theorem saveBody_draft (revision : Revision platform) (now : Time) (tables : RegistryTables) :
    match RegistryTables.saveBody revision "draft" now
      { tables with issued := tables.issued + 1 } with
    | .ok (row, after) => Registrable platform tables revision ∧ row ∈ after.revisions
    | .error _ => ¬Registrable platform tables revision := by
  have found : RegistryTables.revision? { tables with issued := tables.issued + 1 }
    revision.identity = tables.revision? revision.identity := rfl
  rw [RegistryTables.saveBody, Registrable, found]
  cases stored : tables.revision? revision.identity with
  | some existing =>
      have inside : existing ∈ tables.revisions := Table.find_mem stored
      dsimp only [RegistryTables.resolveExistingRevision]
      split_ifs with differs promoted
      · tauto
      · exact absurd promoted.2 (by decide)
      · exact ⟨by tauto, inside⟩
  | none =>
      dsimp only [RegistryTables.insertRevision, RegistryTables.newId, RegistryTables.numbers,
        RegistryTables.revisionRow]
      split_ifs with gap known used
      · exact fun place => gap place.1
      · exact fun place => place.2.2 used
      · exact ⟨⟨not_not.mp gap, known, used⟩, by simp⟩
      · exact fun place => known place.2.1

theorem saveDraft_settles (store : DraftStore) (revision : Revision platform) (now : Time)
    (content : ContractRevisionRow → Json) :
    settles ((saveDraft platform store revision now).1.map content) = true ↔
      Registrable platform store.tables revision := by
  have body := saveBody_draft revision now store.tables
  rw [saveDraft, RegistryTables.saveContractRevision]
  dsimp only [RegistryTables.newId]
  rw [if_neg (by decide)]
  cases done : RegistryTables.saveBody revision "draft" now
    { store.tables with issued := store.tables.issued + 1 } with
  | error exception =>
      rw [done] at body
      constructor
      · intro settled
        cases settled
      · exact fun place => absurd place body
  | ok result =>
      obtain ⟨row, after⟩ := result
      rw [done] at body
      obtain ⟨found, listed⟩ : ∃ found, (after.orderedRevisions none).find? (·.id = row.id) =
          some found := by
        rw [← Option.isSome_iff_exists, List.find?_isSome]
        exact ⟨row, by simpa [RegistryTables.orderedRevisions] using body.2, by simp⟩
      simp only [listed]
      exact ⟨fun _ => body.1, fun _ => rfl⟩

theorem translated_ok {Result : Type} {toolName : String} {given : Except Raised Result}
    {result : Result} : translated toolName given = .ok result ↔ given = .ok result := by
  unfold translated
  grind

/-- Which tool reads a draft does not matter, unless it is refused. -/
theorem validatedRevision_ok {tables : RegistryTables} {contractType projectId toolName : String}
    {document : Json} {revision : Revision platform}
    (read : validatedRevision platform environment scan tables contractType document projectId
      toolName = .ok revision) (other : String) :
    parseRevision platform (inherited projectId document) = .ok revision ∧
      validatedRevision platform environment scan tables contractType document projectId other =
        .ok revision := by
  have compiles {draft : Revision platform}
      (done : compileDraft platform environment scan tables projectId toolName draft = .ok ()) :
      compileDraft platform environment scan tables projectId other draft = .ok () := by
    obtain ⟨kind, contract⟩ := draft
    cases kind with
    | study =>
        dsimp only [compileDraft] at done ⊢
        split at done
        · cases done
        · next accepted _ =>
            cases compiled : translated toolName (StudyCompiler.compile _ contract) with
            | error exception =>
                rw [compiled] at done
                cases done
            | ok specs => rw [translated_ok.mpr (translated_ok.mp compiled)]; rfl
    | _ => rfl
  unfold validatedRevision at read ⊢
  cases plain : authorityField document with
  | some path =>
      rw [plain] at read
      cases read
  | none =>
      simp only [plain] at read ⊢
      split_ifs at read ⊢ with overrides
      simp only [bind_ok, translated_ok] at read ⊢
      obtain ⟨draft, parsed, rest⟩ := read
      split_ifs at rest with mismatch
      obtain ⟨_, compiled, same⟩ := (bind_ok _ _ _).mp rest
      cases same
      refine ⟨?_, revision, parsed, ?_⟩
      · unfold parseDraft at parsed
        grind
      · rw [if_neg mismatch, compiles compiled]
        rfl

end Registers

/-- After a validation the same draft is registered or refused by name exactly if the registry has
a place for it. -/
theorem proposal_settles_iff (platform : Platform) (environment : RegistryEnvironment)
    (scan : ScanOrder) (context : ToolContext) (contractType : String) (document : Json)
    (informedBy : List String) (now : Time) (store after : DraftStore) (content : Json)
    (accepted : validateDraft platform environment scan context contractType document store =
      (.ok content, after)) :
    settles (proposeDraft platform environment scan context contractType document after informedBy
        now).1 = true ↔
      ∀ projectId ∈ context.scope.projectId, ∀ revision,
        parseRevision platform (inherited projectId document) = .ok revision →
          Registrable platform store.tables revision := by
  unfold validateDraft at accepted
  cases project : context.scope.projectId with
  | none =>
      rw [project] at accepted
      cases accepted
  | some projectId =>
      simp only [project] at accepted
      cases read : validatedRevision platform environment scan store.tables contractType document
          projectId "validate_draft" with
      | error exception =>
          rw [read] at accepted
          cases accepted
      | ok revision =>
          rw [read] at accepted
          cases accepted
          obtain ⟨parsed, again⟩ := validatedRevision_ok read "propose_draft"
          have only : (∀ given ∈ some projectId, ∀ draft, parseRevision platform
              (inherited given document) = .ok draft → Registrable platform store.tables draft) ↔
              Registrable platform store.tables revision := by
            simp [parsed]
          rw [only]
          simp only [proposeDraft, project, again, Finset.mem_insert_self, not_true_eq_false,
            if_false]
          exact saveDraft_settles _ revision now _

namespace Sample

open Database.Sample (goalDump twoProjects verifying)

/-- A Project chat, in its first turn. -/
def draftContext : ToolContext := ⟨⟨"w", some "first", none⟩, "s", 1⟩

/-- The validation of a goal by number, in a registry without revisions. -/
def validated (number : Int) : DraftOutcome :=
  validateDraft Contracts.Sample.platform verifying .stable draftContext "goal"
    (goalDump "first" number) ⟨twoProjects, ∅⟩

/-- Revision 2 is validated; registering it before revision 1 ends the turn. -/
theorem skipped_revision_unsettled :
    (validated 2).1.isOk = true ∧
      settles (proposeDraft Contracts.Sample.platform verifying .stable draftContext "goal"
        (goalDump "first" 2) (validated 2).2 [] 0).1 = false := by
  decide +kernel

/-- Revision 1 is registered, so there was a place for it. -/
theorem first_revision_settled :
    settles (proposeDraft Contracts.Sample.platform verifying .stable draftContext "goal"
        (goalDump "first" 1) (validated 1).2 [] 0).1 = true ∧
      ∀ projectId ∈ draftContext.scope.projectId, ∀ revision,
        parseRevision Contracts.Sample.platform (inherited projectId (goalDump "first" 1)) =
          .ok revision → Registrable Contracts.Sample.platform twoProjects revision := by
  have settled : settles (proposeDraft Contracts.Sample.platform verifying .stable draftContext
    "goal" (goalDump "first" 1) (validated 1).2 [] 0).1 = true := by decide +kernel
  have read : (validated 1).1.isOk = true := by decide +kernel
  cases content : (validated 1).1 with
  | error exception => simp [content, Except.isOk, Except.toBool] at read
  | ok result =>
      exact ⟨settled, (proposal_settles_iff _ _ _ draftContext _ _ _ _ ⟨twoProjects, ∅⟩ _ result
        (Prod.ext content rfl)).mp settled⟩

end Sample

/-! ## Any sequence of draft calls -/

inductive DraftCall
  | validate (context : ToolContext) (contractType : String) (document : Json)
  | propose (context : ToolContext) (contractType : String) (document : Json)
      (informedBy : List String) (now : Time)

def DraftCall.validates : DraftCall → Bool
  | .validate .. => true
  | .propose .. => false

section Calls

variable (platform : Platform) (environment : RegistryEnvironment) (scan : ScanOrder)

/-- What a call leaves, whether it returned or raised. -/
def DraftCall.serve (store : DraftStore) : DraftCall → DraftStore
  | .validate context contractType document =>
      (validateDraft platform environment scan context contractType document store).2
  | .propose context contractType document informedBy now =>
      (proposeDraft platform environment scan context contractType document store informedBy now).2

/-- Only drafts were added, and each of them used up a receipt. -/
structure Drafted (receipts : Nat) (before after : DraftStore) : Prop where
  decisions : after.tables.decisions = before.tables.decisions
  drafts : ∃ rows, after.tables.revisions = before.tables.revisions ++ rows ∧
    (∀ row ∈ rows, row.status = "draft") ∧
    rows.length + after.validated.card ≤ before.validated.card + receipts

theorem Drafted.of_tables {receipts : Nat} {before after : DraftStore}
    (tables : after.tables = before.tables)
    (receipt : after.validated.card ≤ before.validated.card + receipts) :
    Drafted receipts before after :=
  ⟨by rw [tables], [], by rw [tables, List.append_nil], by simp, by simpa using receipt⟩

theorem Drafted.trans {first second : Nat} {before middle after : DraftStore}
    (left : Drafted first before middle) (right : Drafted second middle after) :
    Drafted (first + second) before after := by
  obtain ⟨rows, added, drafts, paid⟩ := left.drafts
  obtain ⟨more, addedMore, draftsMore, paidMore⟩ := right.drafts
  refine ⟨right.decisions.trans left.decisions, rows ++ more, ?_, ?_, ?_⟩
  · rw [addedMore, added, List.append_assoc]
  · intro row member
    exact (List.mem_append.mp member).elim (drafts row) (draftsMore row)
  · rw [List.length_append]
    omega

/-- Saving a draft promotes no revision: it is stored already, or it is a new row. -/
theorem saveContractRevision_drafts {platform : Platform} (revision : Revision platform)
    (now : Time) (tables : RegistryTables) :
    ∃ rows, (tables.saveContractRevision revision "draft" now).tables.revisions =
      tables.revisions ++ rows ∧ (∀ row ∈ rows, row.status = "draft") ∧ rows.length ≤ 1 := by
  rw [RegistryTables.saveContractRevision]
  dsimp only [RegistryTables.newId]
  rw [if_neg (by decide)]
  split
  next row after done =>
    unfold RegistryTables.saveBody at done
    split at done
    · unfold RegistryTables.resolveExistingRevision at done
      split_ifs at done with differs promoted
      · exact absurd promoted.2 (by decide)
      · cases done
        exact ⟨[], (List.append_nil _).symm, by simp, by simp⟩
    · simp only [RegistryTables.newId, ne_eq, ite_not] at done
      split_ifs at done
      obtain ⟨_, rfl⟩ := RegistryTables.insertRevision_ok done
      exact ⟨[_], rfl, by simp [RegistryTables.revisionRow], le_rfl⟩
  · exact ⟨[], (List.append_nil _).symm, by simp, by simp⟩

theorem DraftCall.serve_drafted (store : DraftStore) (call : DraftCall) :
    Drafted (if call.validates then 1 else 0) store
      (call.serve platform environment scan store) := by
  cases call with
  | validate context contractType document =>
      simp only [serve, validates, if_true, validateDraft]
      split
      · exact .of_tables rfl (Nat.le_add_right ..)
      · split
        · exact .of_tables rfl (Nat.le_add_right ..)
        · exact .of_tables rfl (Finset.card_insert_le ..)
  | propose context contractType document informedBy now =>
      simp only [serve, validates, Bool.false_eq_true, if_false, proposeDraft]
      split
      · exact .of_tables rfl (Nat.le_add_right ..)
      · split_ifs with validated
        · -- the receipt is spent before the draft is read again
          have spent := Finset.card_erase_add_one validated
          split
          · exact .of_tables rfl (by dsimp only; omega)
          next revision _ =>
            obtain ⟨rows, added, drafts, single⟩ :=
              saveContractRevision_drafts revision now store.tables
            refine ⟨saveContractRevision_decisions revision "draft" now store.tables, rows, added,
              drafts, ?_⟩
            simp only [saveDraft]
            omega
        · exact .of_tables rfl (Nat.le_add_right ..)

/-- Whatever draft calls a model makes, in whatever order, the registry keeps every revision with
its status and every decision; what is added are drafts, no more than there were validations. -/
theorem draft_calls_only_add_drafts (calls : List DraftCall) (store : DraftStore) :
    Drafted (calls.countP DraftCall.validates) store
      (calls.foldl (DraftCall.serve platform environment scan) store) := by
  induction calls generalizing store with
  | nil => exact .of_tables rfl (Nat.le_add_right ..)
  | cons call rest ih =>
      rw [List.countP_cons, Nat.add_comm]
      exact (call.serve_drafted platform environment scan store).trans (ih _)

end Calls

end Evidrun.Lab
