import Evidrun.Database.Registry

/-!
# Human confirmation

The credentials of humans, the challenges issued for them and the two-step
confirmation, following `authority/challenge.py`, `authority/subject.py`,
`authority/repository.py` and `authority/service.py`.

A challenge is the digest of an intent and a nonce. It is issued for one subject
and one credential, derived again when the confirmation completes and consumed
once. What a confirmation returns is an attestation record; the assertion that
was signed is stored as an artifact and is not looked at here.
-/

namespace Evidrun.Authority

open JsonText DocumentSchema Evidrun.Contracts Evidrun.Database

set_option autoImplicit false

/-! ## Challenges -/

/-- The exact human action a challenge is bound to. -/
structure ConfirmationIntent where
  action : String
  targetDigest : String
  subjectDigest : String
  principalId : String
  credentialId : String
  relyingPartyId : String
  origin : String
deriving DecidableEq

def ConfirmationIntent.bindingDocument (intent : ConfirmationIntent) : Json :=
  .obj [("action", .str intent.action), ("credential_id", .str intent.credentialId),
    ("origin", .str intent.origin), ("principal_id", .str intent.principalId),
    ("relying_party_id", .str intent.relyingPartyId),
    ("subject_digest", .str intent.subjectDigest), ("target_digest", .str intent.targetDigest)]

def boundDocument (intent : ConfirmationIntent) (nonce : String) : Json :=
  .obj [("intent", intent.bindingDocument), ("nonce", .str nonce)]

def challengeDigest (platform : Platform) (intent : ConfirmationIntent) (nonce : String) : String :=
  sha256Json platform (boundDocument intent nonce)

theorem boundDocument_ordered (intent : ConfirmationIntent) (nonce : String) :
    (boundDocument intent nonce).ordered = true := by
  simp only [boundDocument, ConfirmationIntent.bindingDocument, Json.ordered, orderedFields,
    keysOrdered, Bool.and_true, Bool.and_eq_true, decide_eq_true_eq]
  decide

theorem boundDocument_inj {intent other : ConfirmationIntent} {nonce fresh : String}
    (same : boundDocument intent nonce = boundDocument other fresh) :
    intent = other ∧ nonce = fresh := by
  obtain ⟨_, _, _, _, _, _, _⟩ := intent
  obtain ⟨_, _, _, _, _, _, _⟩ := other
  simp only [boundDocument, ConfirmationIntent.bindingDocument, Json.obj.injEq, List.cons.injEq,
    Prod.mk.injEq, Json.str.injEq, true_and, and_true] at same
  obtain ⟨⟨rfl, rfl, rfl, rfl, rfl, rfl, rfl⟩, rfl⟩ := same
  exact ⟨rfl, rfl⟩

/-- Without collisions a challenge tells the intent and the nonce it was made from. -/
theorem challengeDigest_inj {platform : Platform} (collisionFree : Function.Injective platform.sha256)
    {intent other : ConfirmationIntent} {nonce fresh : String}
    (same : challengeDigest platform intent nonce = challengeDigest platform other fresh) :
    intent = other ∧ nonce = fresh :=
  boundDocument_inj <| canonicalJson_injective _ _ (boundDocument_ordered _ _)
    (boundDocument_ordered _ _) (collisionFree same)

/-! ## Subjects -/

def revisionDecisionSubject : Schema :=
  .model
    [required "decision" (literal ["accepted", "rejected", "superseded"]),
      kindField "revision_decision",
      required "rationale" nonEmptyStr,
      required "revision_ref" contractRef]
    noCheck

def evaluationDecisionSubject : Schema :=
  .model
    [required "boundary" evaluationBoundary,
      required "dimension_values" (.list 0 dimensionValue),
      required "evaluator_ref" capabilityDescriptorRef,
      required "gate_status" (literal ["passed", "failed", "not_applicable"]),
      kindField "evaluation_decision",
      required "plan_ref" contractRef,
      required "record_id" nonEmptyStr,
      required "relation" humanEvaluationRelation,
      required "run_id" nonEmptyStr,
      required "source_type" (literal ["human_reviewer", "human_adjudicator"]),
      required "stage_id" nonEmptyStr]
    noCheck

abbrev RevisionDecisionSubject (platform : Platform) : Type :=
  Instance platform.coercion revisionDecisionSubject

abbrev EvaluationDecisionSubject (platform : Platform) : Type :=
  Instance platform.coercion evaluationDecisionSubject

/-- The content a human confirms. -/
inductive HumanSubject (platform : Platform)
  | revision (subject : RevisionDecisionSubject platform)
  | evaluation (subject : EvaluationDecisionSubject platform)

namespace HumanSubject

variable {platform : Platform}

def action : HumanSubject platform → String
  | .revision subject => "revision." ++ (subject.dump.field "decision").asString
  | .evaluation subject =>
      if subject.dump.field "source_type" = .str "human_adjudicator" then "evaluation.adjudicated"
      else "evaluation.reviewed"

def targetDigest : HumanSubject platform → String
  | .revision subject => ((subject.dump.field "revision_ref").field "digest").asString
  | .evaluation subject => ((subject.dump.field "plan_ref").field "digest").asString

/-- The document of an evaluation subject that is signed: its status is always final. -/
def evaluationContent (subject : EvaluationDecisionSubject platform) : Json :=
  .obj <| (["boundary", "dimension_values", "evaluator_ref", "gate_status", "plan_ref", "relation",
    "run_id", "source_type", "stage_id"].map fun name => (name, subject.dump.field name)) ++
    [("status", .str "final")]

def subjectDigest : HumanSubject platform → String
  | .revision subject => decisionSubjectDigest platform subject.dump
  | .evaluation subject => sha256Json platform (evaluationContent subject)

def validateRole : HumanSubject platform → Except Raised Unit
  | .revision _ => .ok ()
  | .evaluation subject => do
      let source := subject.dump.field "source_type"
      let relation := (subject.dump.field "relation").field "kind"
      raiseWhen (source == .str "human_adjudicator" && relation != .str "adjudicates")
        (.valueError "adjudication requires an adjudicates relation")
      raiseWhen (source == .str "human_reviewer" && relation != .str "independent_review")
        (.valueError "review requires an independent_review relation")
      raiseWhen (!refOfType (subject.dump.field "plan_ref") "evaluation_plan")
        (.valueError "evaluation subject requires an evaluation_plan ref")

end HumanSubject

/-! ## Policy -/

inductive AuthorityMode
  | sandbox | create | test | execute | privileged
deriving DecidableEq

def AuthorityMode.name : AuthorityMode → String
  | .sandbox => "sandbox"
  | .create => "create"
  | .test => "test"
  | .execute => "execute"
  | .privileged => "privileged"

def criticalActions : List String :=
  ["revision.accepted", "revision.rejected", "revision.superseded", "evaluation.adjudicated",
    "evaluation.reviewed", "external_effect.authorized"]

def requiresVerifiedHuman (mode : AuthorityMode) (action : String) : Bool :=
  decide (action ∈ criticalActions) || decide (mode = .privileged)

def enforce (mode : AuthorityMode) (action : String) (verifiedHuman : Bool) : Except Raised Unit :=
  raiseWhen (requiresVerifiedHuman mode action && !verifiedHuman)
    (.permissionError ("action '" ++ action ++ "' in mode '" ++ mode.name ++
      "' requires verified human authority"))

/-! ## Tables -/

inductive CredentialStatus
  | active | revoked
deriving DecidableEq

structure EnrolledCredential where
  credentialId : String
  principalId : String
  displayName : String
  publicKeyPem : String
  relyingPartyId : String
  origin : String
  status : CredentialStatus
deriving DecidableEq

structure HumanCredentialRow extends EnrolledCredential where
  signCount : Nat
  createdAt : Time
  revokedAt : Option Time
deriving DecidableEq

structure HumanChallengeRow where
  challengeId : String
  challengeDigest : String
  principalId : String
  credentialId : String
  action : String
  intentJson : Json
  issuedAt : Time
  expiresAt : Time
  consumedAt : Option Time
deriving DecidableEq

def HumanCredentialRow.key (row : HumanCredentialRow) : String := row.credentialId

/-- The two tables; `issued` counts the identifiers handed out. -/
structure AuthorityTables where
  credentials : List HumanCredentialRow
  challenges : List HumanChallengeRow
  issued : Nat
deriving DecidableEq

structure IssuedChallenge where
  challengeId : String
  challengeDigest : String
  nonce : String
  expiresAtIso : String
deriving DecidableEq

inductive AuthorityExc
  | credentialUnavailable (text : String)
  | challengeUnavailable (text : String)
  | integrityError (constraint : String)
  | raised (exception : Raised)
deriving DecidableEq

/-- Five minutes. -/
def challengeTtl : Time := 300000000

/-! ## Repository -/

namespace AuthorityTables

def newId (platform : Platform) (kind : String) (tables : AuthorityTables) :
    String × AuthorityTables :=
  (kind ++ "_" ++ platform.uuid7 tables.issued, { tables with issued := tables.issued + 1 })

def credential? (tables : AuthorityTables) (credentialId : String) : Option HumanCredentialRow :=
  Table.find HumanCredentialRow.key tables.credentials credentialId

def insertCredential (row : HumanCredentialRow) (tables : AuthorityTables) :
    Except AuthorityExc (EnrolledCredential × AuthorityTables) :=
  if row.credentialId ∈ tables.credentials.map HumanCredentialRow.key then
    .error (.integrityError "human_credentials.credential_id")
  else .ok (row.toEnrolledCredential, { tables with credentials := tables.credentials ++ [row] })

def getCredential (credentialId : String) (tables : AuthorityTables) :
    Except AuthorityExc EnrolledCredential :=
  match tables.credential? credentialId with
  | none => .error (.credentialUnavailable ("unknown credential: " ++ credentialId))
  | some row => .ok row.toEnrolledCredential

def requireActiveCredential (credentialId : String) (tables : AuthorityTables) :
    Except AuthorityExc EnrolledCredential :=
  match tables.getCredential credentialId with
  | .error exception => .error exception
  | .ok credential =>
      if credential.status ≠ .active then
        .error (.credentialUnavailable ("credential is not active: " ++ credentialId))
      else .ok credential

def revokedRow (now : Time) (row : HumanCredentialRow) : HumanCredentialRow :=
  if row.status = .active then { row with status := .revoked, revokedAt := some now } else row

def revokeCredential (credentialId : String) (now : Time) (tables : AuthorityTables) :
    Except AuthorityExc (EnrolledCredential × AuthorityTables) :=
  match tables.credential? credentialId with
  | none => .error (.credentialUnavailable ("unknown credential: " ++ credentialId))
  | some row =>
      .ok ((revokedRow now row).toEnrolledCredential,
        { tables with credentials :=
            Table.modify HumanCredentialRow.key tables.credentials credentialId (revokedRow now) })

def challengeRow (platform : Platform) (intent : ConfirmationIntent) (nonce challengeId : String)
    (now : Time) : HumanChallengeRow where
  challengeId := challengeId
  challengeDigest := challengeDigest platform intent nonce
  principalId := intent.principalId
  credentialId := intent.credentialId
  action := intent.action
  intentJson := intent.bindingDocument
  issuedAt := now
  expiresAt := now + challengeTtl
  consumedAt := none

def issuedChallenge (row : HumanChallengeRow) (nonce : String) : IssuedChallenge where
  challengeId := row.challengeId
  challengeDigest := row.challengeDigest
  nonce := nonce
  expiresAtIso := isoformat row.expiresAt ++ "+00:00"

/-- The nonce is what `secrets.token_hex` drew. -/
def issueChallenge (platform : Platform) (intent : ConfirmationIntent) (nonce : String) (now : Time)
    (tables : AuthorityTables) : Except AuthorityExc (IssuedChallenge × AuthorityTables) :=
  match tables.requireActiveCredential intent.credentialId with
  | .error exception => .error exception
  | .ok _ =>
      let (id, issued) := tables.newId platform "hchal"
      let row := challengeRow platform intent nonce id now
      if id ∈ tables.challenges.map HumanChallengeRow.challengeId then
        .error (.integrityError "human_challenges.challenge_id")
      else
        .ok (issuedChallenge row nonce, { issued with challenges := tables.challenges ++ [row] })

def challenge? (tables : AuthorityTables) (digest : String) : Option HumanChallengeRow :=
  Table.find HumanChallengeRow.challengeDigest tables.challenges digest

/-- What `consume_challenge` reads and tests: the row, that nobody consumed it, its expiry. -/
def consumableChallenge (digest : String) (now : Time) (tables : AuthorityTables) :
    Except AuthorityExc HumanChallengeRow :=
  match tables.challenge? digest with
  | none => .error (.challengeUnavailable "challenge does not exist")
  | some row =>
      if row.consumedAt ≠ none then
        .error (.challengeUnavailable "challenge was already consumed")
      else if row.expiresAt < now then .error (.challengeUnavailable "challenge has expired")
      else .ok row

/-- What `consume_challenge` writes, by the primary key. -/
def markConsumed (challengeId : String) (now : Time) (tables : AuthorityTables) : AuthorityTables :=
  { tables with challenges :=
      Table.modify HumanChallengeRow.challengeId tables.challenges challengeId fun row =>
        { row with consumedAt := some now } }

end AuthorityTables

/-! ## Artifacts -/

abbrev Bytes : Type := List UInt8

/-- Why an artifact cannot be read. -/
inductive ArtifactFault
  /-- `FileNotFoundError` or `KeyError`. -/
  | missing
  | raised (exception : Raised)
deriving DecidableEq

/-- The artifact store: what it holds, how content is put into it and read back. -/
structure ArtifactStore where
  State : Type
  /-- The id and the digest of the stored content. -/
  put : State → Bytes → String → Except Raised (String × String × State)
  get : State → String → Except ArtifactFault Bytes

/-! ## The confirmation service -/

abbrev HumanAttestationRecord (platform : Platform) : Type :=
  Instance platform.coercion humanAttestationRecord

def intentFor {platform : Platform} (subject : HumanSubject platform)
    (credential : EnrolledCredential) : ConfirmationIntent where
  action := subject.action
  targetDigest := subject.targetDigest
  subjectDigest := subject.subjectDigest
  principalId := credential.principalId
  credentialId := credential.credentialId
  relyingPartyId := credential.relyingPartyId
  origin := credential.origin

/-- Who enrolls and where, with the public key the authenticator made. -/
structure Enrollment where
  principalId : String
  displayName : String
  publicKeyPem : String
  relyingPartyId : String
  origin : String

def Enrollment.row (enrollment : Enrollment) (credentialId : String) (now : Time) :
    HumanCredentialRow where
  credentialId := credentialId
  principalId := enrollment.principalId
  displayName := enrollment.displayName
  publicKeyPem := enrollment.publicKeyPem
  relyingPartyId := enrollment.relyingPartyId
  origin := enrollment.origin
  status := .active
  signCount := 0
  createdAt := now
  revokedAt := none

def enroll (platform : Platform) (enrollment : Enrollment) (now : Time) (tables : AuthorityTables) :
    Except AuthorityExc (EnrolledCredential × AuthorityTables) :=
  let (id, issued) := tables.newId platform "hcred"
  issued.insertCredential (enrollment.row id now)

def beginConfirmation {platform : Platform} (mode : AuthorityMode) (subject : HumanSubject platform)
    (credentialId nonce : String) (now : Time) (tables : AuthorityTables) :
    Except AuthorityExc (IssuedChallenge × AuthorityTables) :=
  match subject.validateRole >>= fun _ => enforce mode subject.action true with
  | .error exception => .error (.raised exception)
  | .ok _ =>
      match tables.requireActiveCredential credentialId with
      | .error exception => .error exception
      | .ok credential => tables.issueChallenge platform (intentFor subject credential) nonce now

/-- What `complete_confirmation` reads before it writes: the credential, that the challenge
derives from the subject, and that it can be consumed. -/
def confirmable {platform : Platform} (subject : HumanSubject platform) (credentialId : String)
    (challenge : IssuedChallenge) (now : Time) (tables : AuthorityTables) :
    Except AuthorityExc (EnrolledCredential × HumanChallengeRow) :=
  match tables.requireActiveCredential credentialId with
  | .error exception => .error exception
  | .ok credential =>
      if challengeDigest platform (intentFor subject credential) challenge.nonce ≠
          challenge.challengeDigest then
        .error (.challengeUnavailable "challenge does not match the confirmed intent")
      else match tables.consumableChallenge challenge.challengeDigest now with
        | .error exception => .error exception
        | .ok row => .ok (credential, row)

def verifierDigest : String :=
  "0000000000000000000000000000000000000000000000000000000000000001"

def verifierRef : Json :=
  .obj [("digest", .str verifierDigest), ("name", .str "local-webauthn-verifier"),
    ("namespace", .str "evidrun.authority"), ("version", .str "1")]

def assertionRef (artifactId digest : String) : Json :=
  .obj [("artifact_id", .str artifactId), ("classification", .str "internal"),
    ("digest", .str digest), ("media_type", .str "application/webauthn+json")]

def attestationDocument {platform : Platform} (subject : HumanSubject platform)
    (credential : EnrolledCredential) (challenge : IssuedChallenge)
    (assertion : Json) (attestationId verifiedAt : String) : Json :=
  .obj [("action", .str subject.action), ("assertion_ref", assertion),
    ("attestation_id", .str attestationId), ("challenge_digest", .str challenge.challengeDigest),
    ("credential_id", .str credential.credentialId), ("origin", .str credential.origin),
    ("principal_id", .str credential.principalId),
    ("relying_party_id", .str credential.relyingPartyId),
    ("subject_digest", .str subject.subjectDigest), ("target_digest", .str subject.targetDigest),
    ("verified_at_utc", .str verifiedAt), ("verifier_ref", verifierRef)]

/-- What a completed confirmation leaves behind: the challenge stays consumed when the
artifact or the record is refused. -/
structure ConfirmationOutcome (platform : Platform) (store : ArtifactStore) where
  tables : AuthorityTables
  artifacts : store.State
  result : Except AuthorityExc (HumanAttestationRecord platform)

/-- The clock readings of one completion: at the expiry test, for `consumed_at` and for
the attestation. -/
structure CompletionTimes where
  tested : Time
  consumed : Time
  verified : String

/-- What `complete_confirmation` does once its checks have passed. -/
def finishConfirmation {platform : Platform} {store : ArtifactStore} (subject : HumanSubject platform)
    (credential : EnrolledCredential) (challenge : IssuedChallenge) (assertion : Bytes)
    (projectId : String) (times : CompletionTimes) (row : HumanChallengeRow)
    (tables : AuthorityTables) (artifacts : store.State) : ConfirmationOutcome platform store :=
  let consumed := tables.markConsumed row.challengeId times.consumed
  match store.put artifacts assertion projectId with
  | .error exception => ⟨consumed, artifacts, .error (.raised exception)⟩
  | .ok (artifactId, digest, stored) =>
      let (attestationId, issued) := consumed.newId platform "hatt"
      match built <| Instance.modelValidate (wellFormed_humanAttestationRecord platform.coercion) <|
          attestationDocument subject credential challenge (assertionRef artifactId digest)
            attestationId times.verified with
      | .error exception => ⟨issued, stored, .error (.raised exception)⟩
      | .ok attestation => ⟨issued, stored, .ok attestation⟩

def completeConfirmation {platform : Platform} {store : ArtifactStore}
    (subject : HumanSubject platform) (credentialId : String) (challenge : IssuedChallenge)
    (assertion : Bytes) (projectId : String) (times : CompletionTimes) (tables : AuthorityTables)
    (artifacts : store.State) : ConfirmationOutcome platform store :=
  match confirmable subject credentialId challenge times.tested tables with
  | .error exception => ⟨tables, artifacts, .error exception⟩
  | .ok (credential, row) =>
      finishConfirmation subject credential challenge assertion projectId times row tables artifacts

/-! ## What the calls do -/

namespace AuthorityTables

variable {tables : AuthorityTables}

theorem requireActiveCredential_ok {credentialId : String} {credential : EnrolledCredential} :
    tables.requireActiveCredential credentialId = .ok credential ↔
      ∃ row, tables.credential? credentialId = some row ∧ row.toEnrolledCredential = credential ∧
        credential.status = .active := by
  unfold requireActiveCredential getCredential
  cases found : tables.credential? credentialId with
  | none => simp
  | some row =>
      simp only [Option.some.injEq, exists_eq_left']
      split_ifs with revoked
      · simp only [false_iff, not_and]
        rintro rfl
        exact revoked
      · simp only [Except.ok.injEq]
        constructor
        · rintro rfl
          exact ⟨rfl, not_not.mp revoked⟩
        · exact And.left

theorem consumableChallenge_ok {digest : String} {now : Time} {row : HumanChallengeRow} :
    tables.consumableChallenge digest now = .ok row ↔
      tables.challenge? digest = some row ∧ row.consumedAt = none ∧ now ≤ row.expiresAt := by
  unfold consumableChallenge
  cases found : tables.challenge? digest with
  | none => simp
  | some stored =>
      simp only [Option.some.injEq, ne_eq, ite_not]
      split_ifs with free late
      · simp only [false_iff, not_and, not_le]
        rintro rfl _
        exact late
      · simp only [Except.ok.injEq]
        constructor
        · rintro rfl
          exact ⟨rfl, free, not_lt.mp late⟩
        · exact And.left
      · simp only [false_iff, not_and]
        rintro rfl consumed
        exact absurd consumed free

theorem insertCredential_ok {row : HumanCredentialRow} {after : AuthorityTables}
    {credential : EnrolledCredential}
    (inserted : tables.insertCredential row = .ok (credential, after)) :
    row.credentialId ∉ tables.credentials.map HumanCredentialRow.key ∧
      after = { tables with credentials := tables.credentials ++ [row] } := by
  unfold insertCredential at inserted
  split_ifs at inserted with taken
  exact ⟨taken, (Prod.mk.inj (Except.ok.inj inserted)).2.symm⟩

theorem issueChallenge_ok {platform : Platform} {intent : ConfirmationIntent} {nonce : String}
    {now : Time} {after : AuthorityTables} {challenge : IssuedChallenge}
    (issued : tables.issueChallenge platform intent nonce now = .ok (challenge, after)) :
    ∃ id, id ∉ tables.challenges.map HumanChallengeRow.challengeId ∧
      after.credentials = tables.credentials ∧
      after.challenges = tables.challenges ++ [challengeRow platform intent nonce id now] := by
  unfold issueChallenge at issued
  cases active : tables.requireActiveCredential intent.credentialId with
  | error exception => simp [active] at issued
  | ok credential =>
      rw [active] at issued
      dsimp only [AuthorityTables.newId] at issued
      split_ifs at issued with taken
      simp only [Except.ok.injEq, Prod.mk.injEq] at issued
      exact ⟨_, taken, by rw [← issued.2], by rw [← issued.2]⟩

end AuthorityTables

theorem confirmable_ok {platform : Platform} {subject : HumanSubject platform}
    {credentialId : String} {challenge : IssuedChallenge} {now : Time} {tables : AuthorityTables}
    {credential : EnrolledCredential} {row : HumanChallengeRow} :
    confirmable subject credentialId challenge now tables = .ok (credential, row) ↔
      tables.requireActiveCredential credentialId = .ok credential ∧
        challengeDigest platform (intentFor subject credential) challenge.nonce =
          challenge.challengeDigest ∧
        tables.consumableChallenge challenge.challengeDigest now = .ok row := by
  unfold confirmable
  cases active : tables.requireActiveCredential credentialId with
  | error exception => simp
  | ok found =>
      simp only [ne_eq, ite_not, Except.ok.injEq]
      split_ifs with derived
      · cases consumable : tables.consumableChallenge challenge.challengeDigest now with
        | error exception => simp
        | ok stored =>
            simp only [Except.ok.injEq, Prod.mk.injEq]
            constructor
            · rintro ⟨rfl, rfl⟩
              exact ⟨rfl, derived, rfl⟩
            · rintro ⟨rfl, _, rfl⟩
              exact ⟨rfl, rfl⟩
      · simp only [false_iff, not_and]
        rintro rfl again
        exact absurd again derived

theorem beginConfirmation_ok {platform : Platform} {mode : AuthorityMode}
    {subject : HumanSubject platform} {credentialId nonce : String} {now : Time}
    {tables after : AuthorityTables} {challenge : IssuedChallenge}
    (begun : beginConfirmation mode subject credentialId nonce now tables =
      .ok (challenge, after)) :
    ∃ credential, tables.requireActiveCredential credentialId = .ok credential ∧
      tables.issueChallenge platform (intentFor subject credential) nonce now =
        .ok (challenge, after) := by
  unfold beginConfirmation at begun
  split at begun
  · simp at begun
  · cases active : tables.requireActiveCredential credentialId with
    | error exception => simp [active] at begun
    | ok credential =>
        simp only [active] at begun
        exact ⟨credential, rfl, begun⟩

section Finish

variable {platform : Platform} {store : ArtifactStore} {subject : HumanSubject platform}
  {credential : EnrolledCredential} {challenge : IssuedChallenge} {assertion : Bytes}
  {projectId : String} {times : CompletionTimes} {row : HumanChallengeRow}
  {tables : AuthorityTables} {artifacts : store.State}

/-- Whatever comes of the artifact and the record, the tables change by the consumption. -/
theorem finishConfirmation_tables :
    let outcome := finishConfirmation subject credential challenge assertion projectId times row
      tables artifacts
    outcome.tables.credentials = tables.credentials ∧
      outcome.tables.challenges = (tables.markConsumed row.challengeId times.consumed).challenges := by
  simp only [finishConfirmation]
  split
  · exact ⟨rfl, rfl⟩
  · split
    · exact ⟨rfl, rfl⟩
    · exact ⟨rfl, rfl⟩

theorem finishConfirmation_ok {attestation : HumanAttestationRecord platform}
    (finished : (finishConfirmation subject credential challenge assertion projectId times row
      tables artifacts).result = .ok attestation) :
    ∃ artifactId digest attestationId,
      validate platform.coercion humanAttestationRecord
        (attestationDocument subject credential challenge (assertionRef artifactId digest)
          attestationId times.verified) = .ok attestation.dump := by
  simp only [finishConfirmation] at finished
  split at finished
  · simp at finished
  · split at finished
    · simp at finished
    · rename_i read
      simp only [Except.ok.injEq] at finished
      rw [built_ok, Instance.modelValidate_ok, finished] at read
      exact ⟨_, _, _, read⟩

/-- A confirmation whose artifact is stored and whose record is valid returns the record. -/
theorem finishConfirmation_of_read {artifactId digest : String} {stored : store.State} {dump : Json}
    (put : store.put artifacts assertion projectId = .ok (artifactId, digest, stored))
    (read : validate platform.coercion humanAttestationRecord
      (attestationDocument subject credential challenge (assertionRef artifactId digest)
        ("hatt" ++ "_" ++ platform.uuid7 tables.issued) times.verified) = .ok dump) :
    ∃ attestation, attestation.dump = dump ∧
      (finishConfirmation subject credential challenge assertion projectId times row tables
        artifacts).result = .ok attestation := by
  let attestation : HumanAttestationRecord platform := ⟨dump, validate_stable (wellFormed_humanAttestationRecord platform.coercion) _ _ read⟩
  have built : built (Instance.modelValidate (wellFormed_humanAttestationRecord platform.coercion)
      (attestationDocument subject credential challenge (assertionRef artifactId digest)
        ("hatt" ++ "_" ++ platform.uuid7 tables.issued) times.verified)) = .ok attestation := by
    rw [built_ok, Instance.modelValidate_ok]
    exact read
  refine ⟨attestation, rfl, ?_⟩
  simp only [finishConfirmation, put, AuthorityTables.newId, AuthorityTables.markConsumed, built]

end Finish

end Evidrun.Authority
