import Evidrun.Contracts.Registry
import Evidrun.Database.Store
import Mathlib.Data.Prod.Lex

/-!
# The contract registry store

The tables of contract revisions and decisions, the transactions that write them
and the registry rebuilt from them, following `infrastructure/database/registry.py`.

A revision is saved once per kind, logical id and number, and the numbers of a
kind and logical id are monotonic over all Projects. The previous decision on a
revision is the one with the latest time, the status of the revision is that of
the decision persisted last, and the registry replays the decisions by time.
-/

namespace Evidrun.Database

open JsonText DocumentSchema Evidrun.Contracts

set_option autoImplicit false

/-! ## Tables -/

structure ContractRevisionRow where
  id : String
  contractType : ContractType
  logicalId : String
  revision : Int
  projectId : String
  title : String
  status : String
  documentJson : CanonicalText
  digest : String
  createdAt : Time
deriving DecidableEq

structure ContractDecisionRow where
  id : String
  contractRevisionId : String
  decision : String
  actorType : String
  actorId : String
  rationale : String
  decisionJson : CanonicalText
  decisionDigest : String
  decidedAt : Time
deriving DecidableEq

def ContractRevisionRow.identity (row : ContractRevisionRow) : RevisionKey :=
  (.str row.contractType.name, .str row.logicalId, .int row.revision)

/-- The `ContractRef` of a stored revision. -/
def ContractRevisionRow.ref (row : ContractRevisionRow) : Json :=
  .obj [("contract_type", .str row.contractType.name), ("digest", .str row.digest),
    ("logical_id", .str row.logicalId), ("revision", .int row.revision)]

/-- The tables of the registry; of the Projects only the ids are read. -/
structure RegistryTables where
  projects : List String
  revisions : List ContractRevisionRow
  decisions : List ContractDecisionRow
  issued : Nat

/-- The rows as `ORDER BY decided_at` returns them: rows with equal times come in any order. -/
structure ScanOrder where
  order : List ContractDecisionRow → List ContractDecisionRow
  perm : ∀ rows, (order rows).Perm rows
  sorted : ∀ rows, (order rows).Pairwise fun earlier later => earlier.decidedAt ≤ later.decidedAt

/-- What the registry store gets from outside: who verifies human attestations, which
instant a timestamp names and which timestamp an instant has. -/
structure RegistryEnvironment where
  verifier : HumanAttestationVerifier
  instant : String → Time
  stamp : Time → String

inductive RegistryExc
  | raised (exception : Raised)
  /-- A constraint of the database was violated and nobody translated it. -/
  | integrityError (constraint : String)
deriving DecidableEq

/-- What a call leaves behind and what its caller sees. -/
structure RegistryOutcome (Result : Type) where
  tables : RegistryTables
  result : Except RegistryExc Result

/-! ## Refusals -/

def rejectedBy (code message : String) (fieldPath : List String) (remediation : String) :
    RegistryExc :=
  .raised (.rejected ⟨code, message, fieldPath, some remediation⟩)

def initialStatusInvalid : RegistryExc :=
  rejectedBy "register.initial_status_invalid" "O status inicial da revision é inválido."
    ["status"] "Use draft ou proposed como status inicial."

def revisionNotMonotonic (expected received : Int) : RegistryExc :=
  rejectedBy "register.revision_not_monotonic"
    ("A revision não segue a sequência monotônica: esperada " ++ toString expected ++
      ", recebida " ++ toString received ++ ".")
    ["revision"]
    ("Registre a revision " ++ toString expected ++ " antes da revision " ++ toString received ++
      ".")

def immutabilityConflict : RegistryExc :=
  rejectedBy "register.immutability_conflict"
    "A identidade da revision já existe com conteúdo diferente." []
    "Use uma nova revision para registrar conteúdo diferente."

def projectNotFound : RegistryExc :=
  rejectedBy "register.project_not_found" "O Project informado não existe." ["project_id"]
    "Crie o Project antes de registrar a revision."

def registerStorageUnavailable : RegistryExc :=
  rejectedBy "register.storage_unavailable"
    "O storage de registro está temporariamente indisponível." []
    "Tente registrar a revision novamente mais tarde."

def decideHumanAuthorityUnavailable : RegistryExc :=
  rejectedBy "decide.human_authority_unavailable"
    "Não existe autenticador humano confiável instalado para concluir esta decisão." []
    "Instale um verificador confiável; nada foi persistido."

def decideRevisionNotFound : RegistryExc :=
  rejectedBy "decide.revision_not_found"
    "A revision informada não existe ou não corresponde ao digest referenciado." ["revision_ref"]
    "Registre a revision exata antes de decidir sobre ela."

def decideDecisionConflict : RegistryExc :=
  rejectedBy "decide.decision_conflict" "A revision já possui uma decisão anterior conflitante."
    ["decision"] "Decisões são append-only; somente accepted pode virar superseded."

def decideRepositoryFixtureForbidden : RegistryExc :=
  rejectedBy "decide.repository_fixture_forbidden"
    "A aceitação por fixture de repositório não é autoridade humana." ["authority"]
    "Use o import dedicado do pacote legado; fixture nunca aceita por API ou CLI."

namespace RegistryTables

variable {platform : Platform}

def newId (platform : Platform) (kind : String) (tables : RegistryTables) :
    String × RegistryTables :=
  (kind ++ "_" ++ platform.uuid7 tables.issued, { tables with issued := tables.issued + 1 })

def revision? (tables : RegistryTables) (key : RevisionKey) : Option ContractRevisionRow :=
  Table.find ContractRevisionRow.identity tables.revisions key

/-- The decisions on a revision, in the order they were persisted. -/
def decisionsOf (tables : RegistryTables) (revisionId : String) : List ContractDecisionRow :=
  tables.decisions.filter fun row => row.contractRevisionId = revisionId

/-! ## Saving a revision -/

/-- The numbers stored for a kind and logical id. -/
def numbers (tables : RegistryTables) (kind : ContractType) (logicalId : String) : List Int :=
  (tables.revisions.filter fun row => row.contractType = kind && row.logicalId = logicalId).map
    ContractRevisionRow.revision

def revisionRow (revision : Revision platform) (id status : String) (now : Time) :
    ContractRevisionRow where
  id := id
  contractType := revision.kind
  logicalId := revision.logicalId
  revision := revision.number
  projectId := revision.projectId
  title := revision.title
  status := status
  documentJson := .write revision.semanticDocument
  digest := revision.digest
  createdAt := now

def resolveExistingRevision (existing : ContractRevisionRow) (revision : Revision platform)
    (status : String) (tables : RegistryTables) :
    Except RegistryExc (ContractRevisionRow × RegistryTables) :=
  if existing.digest ≠ revision.digest ∨
      existing.documentJson ≠ .write revision.semanticDocument then .error immutabilityConflict
  else if existing.status = "draft" ∧ status = "proposed" then
    .ok ({ existing with status := "proposed" },
      { tables with
        revisions := Table.modify ContractRevisionRow.id tables.revisions existing.id fun row =>
          { row with status := "proposed" } })
  else .ok (existing, tables)

/-- A new row. A violated constraint is told apart after the rollback: first a missing
Project, then an identity that someone else stored, which the eager transaction excludes. -/
def insertRevision (row : ContractRevisionRow) (tables : RegistryTables) :
    Except RegistryExc (ContractRevisionRow × RegistryTables) :=
  if row.projectId ∉ tables.projects then .error projectNotFound
  else if row.id ∈ tables.revisions.map ContractRevisionRow.id then .error registerStorageUnavailable
  else .ok (row, { tables with revisions := tables.revisions ++ [row] })

def saveBody (revision : Revision platform) (status : String) (now : Time)
    (tables : RegistryTables) : Except RegistryExc (ContractRevisionRow × RegistryTables) :=
  match tables.revision? revision.identity with
  | some existing => resolveExistingRevision existing revision status tables
  | none =>
      let expected := InMemoryContractRegistry.latestNumber
        (tables.numbers revision.kind revision.logicalId) + 1
      if revision.number ≠ expected then .error (revisionNotMonotonic expected revision.number)
      else
        let (id, issued) := tables.newId platform "crev"
        insertRevision (revisionRow revision id status now) issued

def saveContractRevision (revision : Revision platform) (status : String) (now : Time)
    (tables : RegistryTables) : RegistryOutcome ContractRevisionRow :=
  let (_, started) := tables.newId platform "register"
  if status ∉ ["draft", "proposed"] then ⟨started, .error initialStatusInvalid⟩
  else match saveBody revision status now started with
    | .ok (row, after) => ⟨after, .ok row⟩
    | .error exception => ⟨started, .error exception⟩

/-! ## Deciding on a revision -/

def authorizeDecision (environment : RegistryEnvironment)
    (decision : RevisionDecisionRecord platform) (repositoryFixtureDigest : Option String) :
    Except RegistryExc Unit :=
  if decision.authorityKind = "verified_human" then
    match environment.verifier (decision.authority.field "attestation")
        decision.humanSubjectDigest with
    | .ok _ => .ok ()
    | .error (.unavailable _) => .error decideHumanAuthorityUnavailable
    | .error (.invalid text) => .error (.raised (.valueError text))
  else if repositoryFixtureDigest ≠ some (decision.authority.field "fixture_digest").asString then
    .error decideRepositoryFixtureForbidden
  else .ok ()

def decisionRow (environment : RegistryEnvironment) (decision : RevisionDecisionRecord platform)
    (id revisionId : String) : ContractDecisionRow where
  id := id
  contractRevisionId := revisionId
  decision := decision.decision
  actorType := decision.authorityKind
  actorId :=
    if decision.authorityKind = "verified_human" then
      (decision.authority.field "principal_id").asString
    else (decision.authority.field "fixture_id").asString
  rationale := (decision.dump.field "rationale").asString
  decisionJson := .write decision.semanticDocument
  decisionDigest := digestOf platform decision
  decidedAt := environment.instant (decision.dump.field "decided_at_utc").asString

/-- What a previous decision makes of a new one. -/
inductive Verdict
  | conflict
  /-- The same decision again: the previous one is returned and nothing is written. -/
  | known
  | fresh
deriving DecidableEq

def judge (previous : Option ContractDecisionRow) (decision : RevisionDecisionRecord platform) :
    Verdict :=
  match previous with
  | none => if decision.decision = "superseded" then .conflict else .fresh
  | some row =>
      if row.decision ≠ decision.decision then
        if row.decision = "accepted" ∧ decision.decision = "superseded" then .fresh else .conflict
      else if row.actorType = "repository_fixture" ∧ decision.authorityKind = "verified_human" ∧
          decision.decision = "accepted" then .fresh
      else .known

def insertDecision (row : ContractDecisionRow) (tables : RegistryTables) :
    Except RegistryExc (ContractDecisionRow × RegistryTables) :=
  if row.id ∈ tables.decisions.map ContractDecisionRow.id then
    .error (.integrityError "contract_decisions.id")
  else
    .ok (row,
      { tables with
        revisions := Table.modify ContractRevisionRow.id tables.revisions row.contractRevisionId
          fun revision => { revision with status := row.decision }
        decisions := tables.decisions ++ [row] })

def persistContractDecision (environment : RegistryEnvironment) (scan : ScanOrder)
    (decision : RevisionDecisionRecord platform) (repositoryFixtureDigest : Option String)
    (tables : RegistryTables) : Except RegistryExc (ContractDecisionRow × RegistryTables) :=
  match tables.revision? (identityKey decision.revisionRef) with
  | none => .error decideRevisionNotFound
  | some revision =>
      if .str revision.digest ≠ decision.revisionRef.field "digest" then
        .error decideRevisionNotFound
      else do
        authorizeDecision environment decision repositoryFixtureDigest
        let previous := (scan.order (tables.decisionsOf revision.id)).getLast?
        match judge previous decision, previous with
        | .conflict, _ => .error decideDecisionConflict
        | .known, some row => .ok (row, tables)
        | _, _ =>
            let (id, issued) := tables.newId platform "cdec"
            insertDecision (decisionRow environment decision id revision.id) issued

def decideContractRevision (environment : RegistryEnvironment) (scan : ScanOrder)
    (decision : RevisionDecisionRecord platform) (tables : RegistryTables) :
    RegistryOutcome ContractDecisionRow :=
  if decision.authorityKind = "repository_fixture" then
    ⟨tables, .error decideRepositoryFixtureForbidden⟩
  else match persistContractDecision environment scan decision none tables with
    | .ok (row, after) => ⟨after, .ok row⟩
    | .error exception => ⟨tables, .error exception⟩

/-! ## Importing the legacy package -/

structure LegacyStudyPackage (platform : Platform) where
  revisions : List (Revision platform)
  study : StudyRevision platform

namespace LegacyStudyPackage

def fixtureDigest (package : LegacyStudyPackage platform) : String :=
  sha256Json platform (.arr (package.revisions.map Revision.ref))

/-- The document of the decision that accepts one revision of the package. -/
def acceptance (environment : RegistryEnvironment) (package : LegacyStudyPackage platform)
    (now : Time) (revision : Revision platform) : Json :=
  .obj [("authority", .obj [("fixture_digest", .str package.fixtureDigest),
      ("fixture_id", .str fixtureId), ("kind", .str "repository_fixture")]),
    ("decided_at_utc", .str (environment.stamp now)), ("decision", .str "accepted"),
    ("rationale", .str "Accepted repository benchmark imported from ExperimentManifest v1."),
    ("revision_ref", revision.ref)]

def acceptanceDecisions (environment : RegistryEnvironment) (package : LegacyStudyPackage platform)
    (now : Time) : Except Raised (List (RevisionDecisionRecord platform)) :=
  package.revisions.mapM fun revision =>
    built (RevisionDecisionRecord.modelValidate platform
      (package.acceptance environment now revision))

end LegacyStudyPackage

def legacyPackageIdentities : List RevisionKey :=
  [("goal", "crl-ctx-002-context-policy-goal"), ("scenario", "crl-ctx-002"),
    ("agent_inventory", "crl-ctx-002-context-policy-agent"),
    ("workspace_template", "crl-ctx-002-context-policy-workspace"),
    ("interaction_protocol", "crl-ctx-002-context-policy-interaction"),
    ("evaluation_plan", "crl-ctx-002-context-policy-evaluation"),
    ("study", "crl-ctx-002-context-policy")].map fun (kind, logicalId) =>
      (.str kind, .str logicalId, .int 1)

def legacyPackageStudyId : String := "crl-ctx-002-context-policy"

/-- Equality of two sets given as lists. -/
def sameSet {Item : Type} [DecidableEq Item] (left right : List Item) : Bool :=
  left.all (· ∈ right) && right.all (· ∈ left)

def coversPackage (package : LegacyStudyPackage platform)
    (decisions : List (RevisionDecisionRecord platform)) : Bool :=
  !decisions.isEmpty &&
    sameSet (package.revisions.map Revision.identity) legacyPackageIdentities &&
    sameSet (decisions.map RevisionDecisionRecord.revisionRef)
      (package.revisions.map Revision.ref) &&
    package.study.revision.logicalId == legacyPackageStudyId &&
    decisions.all fun decision =>
      decision.authorityKind == "repository_fixture" &&
        decision.authority.field "fixture_digest" == .str package.fixtureDigest

/-- Save the revisions one transaction after the other, up to the first refusal. -/
def saveAll (now : Time) (revisions : List (Revision platform)) (tables : RegistryTables) :
    RegistryOutcome Unit :=
  match revisions with
  | [] => ⟨tables, .ok ()⟩
  | revision :: rest =>
      let saved := saveContractRevision revision "draft" now tables
      match saved.result with
      | .ok _ => saveAll now rest saved.tables
      | .error exception => ⟨saved.tables, .error exception⟩

def persistAll (environment : RegistryEnvironment) (scan : ScanOrder) (fixtureDigest : String)
    (decisions : List (RevisionDecisionRecord platform)) (tables : RegistryTables) :
    RegistryOutcome (List ContractDecisionRow) :=
  match decisions with
  | [] => ⟨tables, .ok []⟩
  | decision :: rest =>
      match persistContractDecision environment scan decision (some fixtureDigest) tables with
      | .ok (row, after) =>
          let others := persistAll environment scan fixtureDigest rest after
          ⟨others.tables, others.result.map (row :: ·)⟩
      | .error exception => ⟨tables, .error exception⟩

def importLegacyContractPackage (environment : RegistryEnvironment) (scan : ScanOrder)
    (package : LegacyStudyPackage platform) (now : Time) (tables : RegistryTables) :
    RegistryOutcome (List ContractDecisionRow) :=
  match package.acceptanceDecisions environment now with
  | .error exception => ⟨tables, .error (.raised exception)⟩
  | .ok decisions =>
      if coversPackage package decisions then
        let saved := saveAll now package.revisions tables
        match saved.result with
        | .ok _ => persistAll environment scan package.fixtureDigest decisions saved.tables
        | .error exception => ⟨saved.tables, .error exception⟩
      else
        ⟨tables, .error (.raised (.valueError
          "legacy package decisions do not cover the exact package digest"))⟩

/-! ## Rebuilding the registry -/

/-- `ORDER BY contract_type, logical_id, revision`. -/
def rowKey (row : ContractRevisionRow) : String ×ₗ String ×ₗ Int :=
  toLex (row.contractType.name, toLex (row.logicalId, row.revision))

def orderedRevisions (tables : RegistryTables) (projectId : Option String) :
    List ContractRevisionRow :=
  (tables.revisions.filter fun row => projectId.all (· = row.projectId)).insertionSort
    fun left right => rowKey left ≤ rowKey right

def readRevision (platform : Platform) (row : ContractRevisionRow) :
    Except Raised (Revision platform) := do
  let revision ← parseRevision platform row.documentJson.document
  raiseWhen (revision.digest != row.digest)
    (.valueError ("stored contract digest mismatch: " ++ row.id))
  .ok revision

/-- The registry with the stored revisions added, and the ids of their rows. -/
def addRow (platform : Platform)
    (state : InMemoryContractRegistry platform × List String) (row : ContractRevisionRow) :
    Except Raised (InMemoryContractRegistry platform × List String) := do
  let revision ← readRevision platform row
  let registry ← state.1.add revision
  .ok (registry, state.2 ++ [row.id])

def readDecision (platform : Platform) (row : ContractDecisionRow) :
    Except Raised (RevisionDecisionRecord platform) := do
  let decision ← built (RevisionDecisionRecord.modelValidate platform row.decisionJson.document)
  raiseWhen (digestOf platform decision != row.decisionDigest)
    (.valueError ("stored contract decision digest mismatch: " ++ row.id))
  .ok decision

def decideRow (environment : RegistryEnvironment) (known : List String)
    (registry : InMemoryContractRegistry platform) (row : ContractDecisionRow) :
    Except Raised (InMemoryContractRegistry platform) :=
  if row.contractRevisionId ∈ known then do
    let decision ← readDecision platform row
    registry.decide environment.verifier true decision
  else .ok registry

def contractRegistry (platform : Platform) (environment : RegistryEnvironment) (scan : ScanOrder)
    (tables : RegistryTables) (projectId : Option String) :
    Except Raised (InMemoryContractRegistry platform) := do
  let (registry, known) ← (tables.orderedRevisions projectId).foldlM (addRow platform) (.empty, [])
  (scan.order tables.decisions).foldlM (decideRow environment known) registry

end RegistryTables

end Evidrun.Database
