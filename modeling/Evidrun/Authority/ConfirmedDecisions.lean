import Evidrun.Authority.SingleUse
import Evidrun.Database.RegistryHistory

/-!
# What a persisted human decision rests on

Enrollment, revocation, the two steps of a confirmation and decisions on
revisions as one system whose calls run one after another. Decisions carry only
attestations that a confirmation returned; the challenges and assertions that
are presented to it are arbitrary.

Two logs record what happened: the intents for which challenges were issued, and
the confirmations that succeeded, each with the rows it read. Every persisted
decision of a human is traced back through both.
-/

namespace Evidrun.Authority

open JsonText DocumentSchema Evidrun.Contracts Evidrun.Database
open RegistryTables

set_option autoImplicit false

/-! ## The system -/

/-- A challenge that was issued: its intent, its nonce and when it expires. -/
structure Begun where
  intent : ConfirmationIntent
  nonce : String
  expiresAt : Time

/-- A confirmation that succeeded: what it was called with, the credential and the challenge
it read, the clock reading of the expiry test and what it returned. -/
structure Completion (platform : Platform) where
  subject : HumanSubject platform
  challenge : IssuedChallenge
  credential : EnrolledCredential
  row : HumanChallengeRow
  tested : Time
  attestation : HumanAttestationRecord platform

structure AuthorityState (platform : Platform) (store : ArtifactStore) where
  tables : AuthorityTables
  artifacts : store.State
  registry : RegistryTables
  begun : List Begun
  completed : List (Completion platform)

/-- An exception that is not a refusal of the verifier ends the call just the same. -/
def VerificationExc.asAttestationError : VerificationExc → HumanAttestationError
  | .invalid text | .valueError text => .invalid text
  | .binasciiError | .attributeError | .raised _ => .invalid ""

section System

variable {platform : Platform} {store : ArtifactStore}

def localVerifier (crypto : Cryptography) (artifacts : store.State) (tables : AuthorityTables) :
    HumanAttestationVerifier := fun attestation expected =>
  (verify crypto store artifacts tables attestation expected).mapError
    VerificationExc.asAttestationError

/-- The registry store with the local verifier: who reads the clock is left open. -/
def AuthorityState.environment (crypto : Cryptography) (instant : String → Time)
    (stamp : Time → String) (state : AuthorityState platform store) : RegistryEnvironment where
  verifier := localVerifier crypto state.artifacts state.tables
  instant := instant
  stamp := stamp

/-- The arguments of `complete_confirmation` and its clock readings. -/
structure CompletionCall (platform : Platform) where
  subject : HumanSubject platform
  credentialId : String
  challenge : IssuedChallenge
  assertion : Bytes
  projectId : String
  times : CompletionTimes

def CompletionCall.outcome (call : CompletionCall platform) (state : AuthorityState platform store) :
    ConfirmationOutcome platform store :=
  completeConfirmation call.subject call.credentialId call.challenge call.assertion call.projectId
    call.times state.tables state.artifacts

/-- What a call adds to the log of completions. -/
def CompletionCall.logged (call : CompletionCall platform) (state : AuthorityState platform store) :
    List (Completion platform) :=
  match confirmable call.subject call.credentialId call.challenge call.times.tested state.tables,
      (call.outcome state).result with
  | .ok (credential, row), .ok attestation =>
      [⟨call.subject, call.challenge, credential, row, call.times.tested, attestation⟩]
  | _, _ => []

/-- Decisions carry only attestations returned by `complete_confirmation`. -/
def CarriesCompletion (state : AuthorityState platform store)
    (decision : RevisionDecisionRecord platform) : Prop :=
  decision.authorityKind = "verified_human" →
    ∃ completion ∈ state.completed,
      decision.authority.field "attestation" = completion.attestation.dump

/-- The calls that change something. -/
inductive AuthorityStep (crypto : Cryptography) (instant : String → Time) (stamp : Time → String) :
    AuthorityState platform store → AuthorityState platform store → Prop
  | enroll {state : AuthorityState platform store} {enrollment : Enrollment} {now : Time}
      {credential : EnrolledCredential} {tables : AuthorityTables} :
      enroll platform enrollment now state.tables = .ok (credential, tables) →
      AuthorityStep crypto instant stamp state { state with tables := tables }
  | revoke {state : AuthorityState platform store} {credentialId : String} {now : Time}
      {credential : EnrolledCredential} {tables : AuthorityTables} :
      state.tables.revokeCredential credentialId now = .ok (credential, tables) →
      AuthorityStep crypto instant stamp state { state with tables := tables }
  | begin {state : AuthorityState platform store} {mode : AuthorityMode}
      {subject : HumanSubject platform} {credentialId nonce : String} {now : Time}
      {credential : EnrolledCredential} {challenge : IssuedChallenge} {tables : AuthorityTables} :
      beginConfirmation mode subject credentialId nonce now state.tables = .ok (challenge, tables) →
      state.tables.requireActiveCredential credentialId = .ok credential →
      AuthorityStep crypto instant stamp state
        { state with
          tables := tables
          begun := state.begun ++ [⟨intentFor subject credential, nonce, now + challengeTtl⟩] }
  | complete (state : AuthorityState platform store) (call : CompletionCall platform) :
      AuthorityStep crypto instant stamp state
        { state with
          tables := (call.outcome state).tables
          artifacts := (call.outcome state).artifacts
          completed := state.completed ++ call.logged state }
  | save (state : AuthorityState platform store) (revision : Revision platform) (status : String)
      (now : Time) :
      AuthorityStep crypto instant stamp state
        { state with registry := (state.registry.saveContractRevision revision status now).tables }
  | decide {state : AuthorityState platform store} (scan : ScanOrder)
      {decision : RevisionDecisionRecord platform} :
      CarriesCompletion state decision →
      AuthorityStep crypto instant stamp state
        { state with
          registry := (state.registry.decideContractRevision
            (state.environment crypto instant stamp) scan decision).tables }

/-- Nobody is enrolled and nothing is decided. -/
structure AuthorityState.Initial (state : AuthorityState platform store) : Prop where
  credentials : state.tables.credentials = []
  challenges : state.tables.challenges = []
  decisions : state.registry.decisions = []
  begun : state.begun = []
  completed : state.completed = []

def AuthorityReachable (crypto : Cryptography) (instant : String → Time) (stamp : Time → String)
    (state : AuthorityState platform store) : Prop :=
  ∃ start : AuthorityState platform store, start.Initial ∧
    Relation.ReflTransGen (AuthorityStep crypto instant stamp) start state

end System

/-! ## What an attestation and a decision say -/

section Texts

variable {platform : Platform} {document dump : Json} {name text : String} {presence : Presence}

section

variable {fields : List (String × Presence × Schema)} {check : Json → Except String Unit}

/-- What a field that is kept as given says. -/
theorem attested_matching (formed : WellFormed platform.coercion (.model fields check))
    (read : validate platform.coercion (.model fields check) document = .ok dump)
    {accepts : String → Bool} (member : (name, presence, .scalar (.matching accepts)) ∈ fields)
    (given : document.get? name = some (.str text)) : attested dump name = text := by
  obtain ⟨result, valid, held⟩ := get?_of_read formed read member given (by simp)
  simp only [validate, Scalar.parse] at valid
  split_ifs at valid
  rw [attested, Json.field_of_get held, ← Except.ok.inj valid, Json.asString]

theorem attested_literal (formed : WellFormed platform.coercion (.model fields check))
    (read : validate platform.coercion (.model fields check) document = .ok dump)
    {values : List String} (member : (name, presence, literal values) ∈ fields)
    (given : document.get? name = some (.str text)) : attested dump name = text := by
  obtain ⟨result, valid, held⟩ := get?_of_read formed read member given (by simp)
  simp only [literal, validate, Scalar.parse] at valid
  split_ifs at valid
  rw [attested, Json.field_of_get held, ← Except.ok.inj valid, Json.asString]

/-- What a field that is trimmed says. -/
theorem attested_trimmed (formed : WellFormed platform.coercion (.model fields check))
    (read : validate platform.coercion (.model fields check) document = .ok dump)
    (member : (name, presence, nonEmptyStr) ∈ fields)
    (given : document.get? name = some (.str text)) : attested dump name = strip text := by
  obtain ⟨result, valid, held⟩ := get?_of_read formed read member given (by simp)
  simp only [nonEmptyStr, validate, Scalar.parse, if_true] at valid
  split_ifs at valid
  rw [attested, Json.field_of_get held, ← Except.ok.inj valid, Json.asString]

end

end Texts

/-- What an attestation built by a confirmation says: texts of the credential are trimmed. -/
structure ConfirmationRecord (platform : Platform) (subject : HumanSubject platform)
    (credential : EnrolledCredential) (challenge : IssuedChallenge) (attestation : Json) : Prop where
  action : attested attestation "action" = subject.action
  target : attested attestation "target_digest" = subject.targetDigest
  subject : attested attestation "subject_digest" = subject.subjectDigest
  challenge : attested attestation "challenge_digest" = challenge.challengeDigest
  credential : attested attestation "credential_id" = strip credential.credentialId

section

variable {platform : Platform} {attestation : Json}

theorem confirmationRecord_of_read {subject : HumanSubject platform}
    {credential : EnrolledCredential} {challenge : IssuedChallenge} {assertion : Json}
    {attestationId verifiedAt : String}
    (read : validate platform.coercion humanAttestationRecord
      (attestationDocument subject credential challenge assertion attestationId verifiedAt) =
        .ok attestation) :
    ConfirmationRecord platform subject credential challenge attestation := by
  have formed := wellFormed_humanAttestationRecord platform.coercion
  exact
    { action := attested_literal formed read
        (show required "action" (literal ["revision.accepted", "revision.rejected",
          "revision.superseded", "evaluation.adjudicated", "evaluation.reviewed"]) ∈ _ by simp) rfl
      target := attested_matching formed read (show required "target_digest" digest ∈ _ by simp) rfl
      subject := attested_matching formed read (show required "subject_digest" digest ∈ _ by simp) rfl
      challenge := attested_matching formed read
        (show required "challenge_digest" digest ∈ _ by simp) rfl
      credential := attested_trimmed formed read
        (show required "credential_id" nonEmptyStr ∈ _ by simp) rfl }

/-- What the attestation of a human decision has to agree with. -/
structure Attests {platform : Platform} (decision : RevisionDecisionRecord platform) : Prop where
  action : attested (decision.authority.field "attestation") "action" =
    "revision." ++ decision.decision
  target : attested (decision.authority.field "attestation") "target_digest" =
    (decision.revisionRef.field "digest").asString
  subject : attested (decision.authority.field "attestation") "subject_digest" =
    decision.humanSubjectDigest
  principal : attested (decision.authority.field "attestation") "principal_id" =
    (decision.authority.field "principal_id").asString

/-- The check of a human authority has passed for a decision of a human. -/
theorem validatePrincipal_of_human {decision : RevisionDecisionRecord platform}
    (human : decision.authorityKind = "verified_human") :
    decision.authority.field "principal_id" =
      (decision.authority.field "attestation").field "principal_id" := by
  have stable : validate platform.coercion decisionAuthority decision.authority =
      .ok decision.authority :=
    field_stable (wellFormed_revisionDecisionRecord platform.coercion platform) decision.valid
      (show required "authority" decisionAuthority ∈ revisionDecisionRecordFields by
        simp [revisionDecisionRecordFields]) (by simp)
  obtain ⟨value, schema, chosen, member, valid⟩ := validate_tagged stable
  simp only [List.mem_cons, List.not_mem_nil, or_false, Prod.mk.injEq] at member
  rcases member with ⟨rfl, rfl⟩ | ⟨rfl, rfl⟩
  · obtain ⟨_, _, _, shape, _, checked⟩ := validate_model valid
    rw [validatePrincipal, raiseIf] at checked
    split_ifs at checked with differ
    rw [shape]
    simpa using differ
  · exfalso
    have kind := literal_dump platform.coercion _ _ (by decide) "kind" "repository_fixture"
      (by simp [kindField]) _ _ valid
    rw [RevisionDecisionRecord.authorityKind, Json.field_of_get kind] at human
    exact absurd human (by decide)

theorem attests_of_human {decision : RevisionDecisionRecord platform}
    (human : decision.authorityKind = "verified_human") : Attests decision := by
  have checked : validateAuthority platform decision.dump = .ok () := by
    obtain ⟨_, _, _, shape, _, checked⟩ := validate_model decision.valid
    rw [shape]
    exact checked
  have plain : ((decision.dump.field "authority").field "kind" == .str "repository_fixture") =
      false := by
    rw [beq_eq_false_iff_ne]
    intro fixture
    rw [RevisionDecisionRecord.authorityKind, RevisionDecisionRecord.authority, fixture] at human
    exact absurd human (by decide)
  simp only [validateAuthority, raiseIf_bind_ok, plain, Bool.not_false, Bool.true_and,
    Bool.false_and] at checked
  obtain ⟨_, action, target, subject, _⟩ := checked
  constructor
  · rw [attested, RevisionDecisionRecord.authority, bne_eq_false_iff_eq.mp action]
    rfl
  · rw [attested, RevisionDecisionRecord.authority, bne_eq_false_iff_eq.mp target]
    rfl
  · rw [attested, RevisionDecisionRecord.authority, bne_eq_false_iff_eq.mp subject]
    rfl
  · rw [attested, validatePrincipal_of_human human]

/-! ## The decisions a call persists -/

/-- Of the tables the verifier reads the credentials. -/
theorem verify_congr {crypto : Cryptography} {store : ArtifactStore} {artifacts : store.State}
    {tables other : AuthorityTables} {expected : String}
    (same : tables.credentials = other.credentials) :
    verify crypto store artifacts tables attestation expected =
      verify crypto store artifacts other attestation expected := by
  simp only [verify, ownedCredential, AuthorityTables.getCredential, AuthorityTables.credential?,
    same]

theorem verifier_ok {crypto : Cryptography} {store : ArtifactStore} {artifacts : store.State}
    {tables : AuthorityTables} {expected : String}
    (accepted : localVerifier crypto artifacts tables attestation expected = .ok ()) :
    verify crypto store artifacts tables attestation expected = .ok () := by
  rw [localVerifier] at accepted
  cases result : verify crypto store artifacts tables attestation expected with
  | ok _ => rfl
  | error exception =>
      rw [result] at accepted
      cases accepted

/-- A call adds at most one row: that of its own decision, which it authorized. -/
theorem decideContractRevision_decisions (environment : RegistryEnvironment) (scan : ScanOrder)
    (decision : RevisionDecisionRecord platform) (tables : RegistryTables) :
    (tables.decideContractRevision environment scan decision).tables.decisions = tables.decisions ∨
      ∃ id revisionId,
        authorizeDecision environment decision none = .ok () ∧
        (tables.decideContractRevision environment scan decision).tables.decisions =
          tables.decisions ++ [decisionRow environment decision id revisionId] := by
  unfold decideContractRevision
  split_ifs
  · exact Or.inl rfl
  · cases done : tables.persistContractDecision environment scan decision none with
    | error exception => exact Or.inl rfl
    | ok result =>
        obtain ⟨row, after⟩ := result
        unfold persistContractDecision at done
        split at done
        · cases done
        · split_ifs at done
          cases authorized : authorizeDecision environment decision none with
          | error exception =>
              rw [authorized] at done
              cases done
          | ok _ =>
              rw [authorized] at done
              simp only [bind, Except.bind] at done
              split at done
              · cases done
              · cases done
                exact Or.inl rfl
              · obtain ⟨_, rfl⟩ := insertDecision_ok done
                exact Or.inr ⟨_, _, rfl, rfl⟩

end

/-! ## The invariant -/

section Invariant

variable {platform : Platform} {store : ArtifactStore} (crypto : Cryptography)
  (signed : String → Bytes → Prop)

/-- What a revocation leaves alone. -/
structure SameHolder (credential other : EnrolledCredential) : Prop where
  credentialId : credential.credentialId = other.credentialId
  principalId : credential.principalId = other.principalId
  publicKeyPem : credential.publicKeyPem = other.publicKeyPem
  relyingPartyId : credential.relyingPartyId = other.relyingPartyId
  origin : credential.origin = other.origin

theorem SameHolder.refl (credential : EnrolledCredential) : SameHolder credential credential :=
  ⟨rfl, rfl, rfl, rfl, rfl⟩

theorem SameHolder.trans {first second third : EnrolledCredential}
    (one : SameHolder first second) (two : SameHolder second third) : SameHolder first third :=
  ⟨one.credentialId.trans two.credentialId, one.principalId.trans two.principalId,
    one.publicKeyPem.trans two.publicKeyPem, one.relyingPartyId.trans two.relyingPartyId,
    one.origin.trans two.origin⟩

/-- A challenge row was written for a logged intent. -/
def IssuedBy (platform : Platform) (begun : List Begun) (row : HumanChallengeRow) : Prop :=
  ∃ entry ∈ begun, challengeDigest platform entry.intent entry.nonce = row.challengeDigest ∧
    entry.expiresAt = row.expiresAt

/-- What a logged completion had checked, and what it built. -/
structure Completed (state : AuthorityState platform store) (completion : Completion platform) :
    Prop where
  derived : challengeDigest platform (intentFor completion.subject completion.credential)
    completion.challenge.nonce = completion.challenge.challengeDigest
  active : completion.credential.status = .active
  inTime : completion.tested ≤ completion.row.expiresAt
  presented : completion.row.challengeDigest = completion.challenge.challengeDigest
  issued : IssuedBy platform state.begun completion.row
  enrolled : ∃ row ∈ state.tables.credentials,
    SameHolder row.toEnrolledCredential completion.credential
  record : ConfirmationRecord platform completion.subject completion.credential
    completion.challenge completion.attestation.dump

/-- A decision of a human as it was persisted: its attestation is that of a logged completion,
and the key of the credential it names signed its challenge. -/
structure Verified (state : AuthorityState platform store)
    (decision : RevisionDecisionRecord platform) (completion : Completion platform)
    (holder : HumanCredentialRow) : Prop where
  completed : completion ∈ state.completed
  enrolled : holder ∈ state.tables.credentials
  attestation : decision.authority.field "attestation" = completion.attestation.dump
  credentialId : holder.credentialId = attested completion.attestation.dump "credential_id"
  principal : holder.principalId = attested completion.attestation.dump "principal_id"
  relyingParty : holder.relyingPartyId = attested completion.attestation.dump "relying_party_id"
  origin : holder.origin = attested completion.attestation.dump "origin"
  signature : SignedChallenge crypto (signed holder.publicKeyPem)
    (attested completion.attestation.dump "relying_party_id")
    (attested completion.attestation.dump "origin")
    (attested completion.attestation.dump "challenge_digest")

/-- The row that holds a decision. -/
structure Holds (row : ContractDecisionRow) (decision : RevisionDecisionRecord platform) : Prop where
  document : row.decisionJson = .write decision.semanticDocument
  verdict : row.decision = decision.decision
  actor : row.actorType = decision.authorityKind

variable {row : HumanChallengeRow} {decision : RevisionDecisionRecord platform}
  {state before after : AuthorityState platform store} {holder : HumanCredentialRow} {now : Time}
  {credential : EnrolledCredential} {tables : AuthorityTables} {call : CompletionCall platform}
  {instant : String → Time} {stamp : Time → String}

/-- A row holds one decision: its document restores the record. -/
theorem Holds.unique {row : ContractDecisionRow} {other : RevisionDecisionRecord platform}
    (held : Holds row decision) (again : Holds row other) : decision = other := by
  have formed := wellFormed_revisionDecisionRecord platform.coercion platform
  have ordered : ∀ record : RevisionDecisionRecord platform,
      record.semanticDocument.ordered = true := fun record =>
    dropEmpty_ordered _ (validate_ordered formed record.valid)
  have same := congrArg CanonicalText.document (held.document.symm.trans again.document)
  rw [CanonicalText.write_document _ (ordered decision),
    CanonicalText.write_document _ (ordered other)] at same
  exact (durable_revisionDecisionRecord platform).1.instance_ext formed same

/-- The challenges of the successful calls, beside the tables. -/
def AuthorityState.confirmations (state : AuthorityState platform store) : ConfirmationState store :=
  ⟨state.tables, state.artifacts,
    state.completed.map fun completion => completion.challenge.challengeDigest⟩

structure AuthorityInvariant (state : AuthorityState platform store) : Prop where
  keys : (state.tables.credentials.map HumanCredentialRow.key).Nodup
  plain : ∀ row ∈ state.tables.credentials, strip row.credentialId = row.credentialId
  ids : (state.tables.challenges.map HumanChallengeRow.challengeId).Nodup
  issued : ∀ row ∈ state.tables.challenges, IssuedBy platform state.begun row
  completed : ∀ completion ∈ state.completed, Completed state completion
  once : UsedOnce state.confirmations
  decisions : ∀ row ∈ state.registry.decisions, row.actorType = "verified_human" →
    ∃ decision completion holder, Holds row decision ∧
      Verified crypto signed state decision completion holder

theorem invariant_of_initial (initial : state.Initial) :
    AuthorityInvariant crypto signed state where
  keys := by simp [initial.credentials]
  plain := by simp [initial.credentials]
  ids := by simp [initial.challenges]
  issued := by simp [initial.challenges]
  completed := by simp [initial.completed]
  once := ⟨by simp [AuthorityState.confirmations, initial.completed],
    by simp [AuthorityState.confirmations, initial.completed]⟩
  decisions := by simp [initial.decisions]

variable {crypto signed}

/-- What no step takes back: who is enrolled, and the two logs. -/
structure Advances (before after : AuthorityState platform store) : Prop where
  holders : ∀ row ∈ before.tables.credentials,
    ∃ later ∈ after.tables.credentials, SameHolder later.toEnrolledCredential row.toEnrolledCredential
  begun : before.begun ⊆ after.begun
  completed : before.completed ⊆ after.completed

theorem IssuedBy.mono {begun later : List Begun} (issued : IssuedBy platform begun row)
    (grown : begun ⊆ later) : IssuedBy platform later row := by
  obtain ⟨entry, member, rest⟩ := issued
  exact ⟨entry, grown member, rest⟩

theorem Completed.advance {completion : Completion platform}
    (completed : Completed before completion) (advances : Advances before after) :
    Completed after completion := by
  obtain ⟨row, member, same⟩ := completed.enrolled
  obtain ⟨later, inside, again⟩ := advances.holders row member
  exact { completed with
    issued := completed.issued.mono advances.begun
    enrolled := ⟨later, inside, again.trans same⟩ }

theorem Verified.advance {completion : Completion platform}
    (verified : Verified crypto signed before decision completion holder)
    (advances : Advances before after) :
    ∃ later, Verified crypto signed after decision completion later := by
  obtain ⟨later, inside, same⟩ := advances.holders holder verified.enrolled
  exact ⟨later,
    { completed := advances.completed verified.completed
      enrolled := inside
      attestation := verified.attestation
      credentialId := same.credentialId.trans verified.credentialId
      principal := same.principalId.trans verified.principal
      relyingParty := same.relyingPartyId.trans verified.relyingParty
      origin := same.origin.trans verified.origin
      signature := same.publicKeyPem ▸ verified.signature }⟩

/-- The parts of the invariant that only look back. -/
theorem AuthorityInvariant.decisions_advance (invariant : AuthorityInvariant crypto signed before)
    (advances : Advances before after) {row : ContractDecisionRow}
    (member : row ∈ before.registry.decisions) (human : row.actorType = "verified_human") :
    ∃ decision completion holder, Holds row decision ∧
      Verified crypto signed after decision completion holder := by
  obtain ⟨decision, completion, holder, held, verified⟩ := invariant.decisions row member human
  obtain ⟨later, again⟩ := verified.advance advances
  exact ⟨decision, completion, later, held, again⟩

theorem advances_of_credentials (more : List HumanCredentialRow)
    (credentials : after.tables.credentials = before.tables.credentials ++ more)
    (begun : before.begun ⊆ after.begun) (completed : before.completed ⊆ after.completed) :
    Advances before after where
  holders row member := ⟨row, by rw [credentials]; exact List.mem_append_left _ member, .refl _⟩
  begun := begun
  completed := completed

theorem advances_registry (state : AuthorityState platform store) (registry : RegistryTables) :
    Advances state { state with registry := registry } :=
  advances_of_credentials [] (List.append_nil _).symm (List.Subset.refl _) (List.Subset.refl _)

theorem revokedRow_holder (now : Time) (row : HumanCredentialRow) :
    SameHolder (AuthorityTables.revokedRow now row).toEnrolledCredential row.toEnrolledCredential := by
  unfold AuthorityTables.revokedRow
  split_ifs
  · exact ⟨rfl, rfl, rfl, rfl, rfl⟩
  · exact .refl _

/-! ## Every step keeps it -/

theorem invariant_enroll
    (unpadded : ∀ count,
      strip ("hcred" ++ "_" ++ platform.uuid7 count) = "hcred" ++ "_" ++ platform.uuid7 count)
    (invariant : AuthorityInvariant crypto signed state) {enrollment : Enrollment}
    (enrolled : enroll platform enrollment now state.tables = .ok (credential, tables)) :
    AuthorityInvariant crypto signed { state with tables := tables } := by
  obtain ⟨id, formed, free, credentials, challenges⟩ := enroll_ok enrolled
  have advances : Advances state { state with tables := tables } :=
    advances_of_credentials _ credentials (List.Subset.refl _) (List.Subset.refl _)
  exact
    { keys := by
        rw [credentials, List.map_append]
        refine invariant.keys.append (List.nodup_singleton _) ?_
        simpa [HumanCredentialRow.key, Enrollment.row] using free
      plain := by
        intro row member
        rw [credentials, List.mem_append, List.mem_singleton] at member
        rcases member with before | rfl
        · exact invariant.plain row before
        · rw [formed]
          exact unpadded state.tables.issued
      ids := by rw [challenges]; exact invariant.ids
      issued := by rw [challenges]; exact invariant.issued
      completed := fun completion member => (invariant.completed completion member).advance advances
      once := invariant.once.carried (carried_of_challenges_eq challenges) rfl
      decisions := fun row member => invariant.decisions_advance advances member }

theorem invariant_revoke (invariant : AuthorityInvariant crypto signed state)
    {credentialId : String}
    (revoked : state.tables.revokeCredential credentialId now = .ok (credential, tables)) :
    AuthorityInvariant crypto signed { state with tables := tables } := by
  obtain ⟨credentials, challenges⟩ := revokeCredential_ok revoked
  have kept : ∀ row : HumanCredentialRow,
      (AuthorityTables.revokedRow now row).key = row.key :=
    fun row => (revokedRow_holder now row).credentialId
  have advances : Advances state { state with tables := tables } :=
    { holders := by
        intro row member
        refine ⟨_, by rw [credentials]; exact Table.mem_modify.mpr ⟨row, member, rfl⟩, ?_⟩
        split_ifs
        · exact revokedRow_holder now row
        · exact .refl _
      begun := List.Subset.refl _
      completed := List.Subset.refl _ }
  exact
    { keys := by
        rw [credentials, Table.map_key_modify _ _ _ kept]
        exact invariant.keys
      plain := by
        intro row member
        rw [credentials] at member
        obtain ⟨before, inside, rfl⟩ := Table.mem_modify.mp member
        split_ifs
        · rw [(revokedRow_holder now before).credentialId]
          exact invariant.plain before inside
        · exact invariant.plain before inside
      ids := by rw [challenges]; exact invariant.ids
      issued := by rw [challenges]; exact invariant.issued
      completed := fun completion member => (invariant.completed completion member).advance advances
      once := invariant.once.carried (carried_of_challenges_eq challenges) rfl
      decisions := fun row member => invariant.decisions_advance advances member }

theorem invariant_begin (invariant : AuthorityInvariant crypto signed state) {mode : AuthorityMode}
    {subject : HumanSubject platform} {credentialId nonce : String} {challenge : IssuedChallenge}
    (begun : beginConfirmation mode subject credentialId nonce now state.tables =
      .ok (challenge, tables))
    (active : state.tables.requireActiveCredential credentialId = .ok credential) :
    AuthorityInvariant crypto signed
      { state with
        tables := tables
        begun := state.begun ++ [⟨intentFor subject credential, nonce, now + challengeTtl⟩] } := by
  obtain ⟨found, again, issued⟩ := beginConfirmation_ok begun
  rw [active, Except.ok.injEq] at again
  subst again
  obtain ⟨id, free, credentials, challenges⟩ := AuthorityTables.issueChallenge_ok issued
  have advances : Advances state
      { state with
        tables := tables
        begun := state.begun ++ [⟨intentFor subject credential, nonce, now + challengeTtl⟩] } :=
    advances_of_credentials [] (by rw [credentials, List.append_nil])
      (List.subset_append_left _ _) (List.Subset.refl _)
  exact
    { keys := by rw [credentials]; exact invariant.keys
      plain := by rw [credentials]; exact invariant.plain
      ids := by
        rw [challenges, List.map_append]
        refine invariant.ids.append (List.nodup_singleton _) ?_
        simpa [AuthorityTables.challengeRow] using free
      issued := by
        intro row member
        rw [challenges, List.mem_append, List.mem_singleton] at member
        rcases member with before | rfl
        · exact (invariant.issued row before).mono (List.subset_append_left _ _)
        · exact ⟨_, List.mem_append_right _ (List.mem_singleton_self _), rfl, rfl⟩
      completed := fun completion member => (invariant.completed completion member).advance advances
      once := invariant.once.carried (carried_of_append _ challenges) rfl
      decisions := fun row member => invariant.decisions_advance advances member }

/-- A completion that passed its checks, as a call that has read. -/
def CompletionCall.pending (call : CompletionCall platform) (credential : EnrolledCredential)
    (row : HumanChallengeRow) : PendingConfirmation platform :=
  ⟨call.subject, call.challenge, call.assertion, call.projectId, credential, row⟩

/-- A completion is refused and changes nothing, or it commits what it read. -/
theorem complete_cases (call : CompletionCall platform) (state : AuthorityState platform store) :
    ((call.outcome state).tables = state.tables ∧
      (call.outcome state).artifacts = state.artifacts ∧ call.logged state = []) ∨
    ∃ credential row,
      confirmable call.subject call.credentialId call.challenge call.times.tested state.tables =
        .ok (credential, row) ∧
      call.outcome state = finished state.confirmations (call.pending credential row) call.times := by
  cases checked : confirmable call.subject call.credentialId call.challenge call.times.tested
      state.tables with
  | error exception =>
      refine Or.inl ?_
      simp [CompletionCall.outcome, CompletionCall.logged, completeConfirmation, checked]
  | ok read =>
      obtain ⟨credential, row⟩ := read
      refine Or.inr ⟨credential, row, rfl, ?_⟩
      simp only [CompletionCall.outcome, completeConfirmation, checked]
      rfl

theorem logged_of_checked
    (checked : confirmable call.subject call.credentialId call.challenge call.times.tested
      state.tables = .ok (credential, row)) :
    (∃ exception, (call.outcome state).result = .error exception ∧ call.logged state = []) ∨
      ∃ attestation, (call.outcome state).result = .ok attestation ∧
        call.logged state =
          [⟨call.subject, call.challenge, credential, row, call.times.tested, attestation⟩] := by
  unfold CompletionCall.logged
  rw [checked]
  cases result : (call.outcome state).result with
  | error exception => exact Or.inl ⟨exception, rfl, rfl⟩
  | ok attestation => exact Or.inr ⟨attestation, rfl, rfl⟩

/-- With distinct ids, the unconsumed row that was read is the only one under its id. -/
theorem unconsumed_of_read (invariant : AuthorityInvariant crypto signed state)
    {call : PendingConfirmation platform} (member : call.row ∈ state.tables.challenges)
    (free : call.row.consumedAt = none) : Unconsumed state.confirmations call := by
  intro row inside same
  have one := Table.find_of_mem invariant.ids inside
  have two := Table.find_of_mem invariant.ids member
  rw [same, two, Option.some.injEq] at one
  rw [← one]
  exact free

theorem completed_of_checked (invariant : AuthorityInvariant crypto signed state)
    (checked : confirmable call.subject call.credentialId call.challenge call.times.tested
      state.tables = .ok (credential, row)) {attestation : HumanAttestationRecord platform}
    (result : (finished state.confirmations (call.pending credential row) call.times).result =
      .ok attestation) :
    Completed state
      ⟨call.subject, call.challenge, credential, row, call.times.tested, attestation⟩ := by
  obtain ⟨active, derived, consumable⟩ := confirmable_ok.mp checked
  obtain ⟨found, _, inTime⟩ := AuthorityTables.consumableChallenge_ok.mp consumable
  obtain ⟨holder, enrolled, rfl, status⟩ := AuthorityTables.requireActiveCredential_ok.mp active
  obtain ⟨_, _, _, read⟩ := finishConfirmation_ok result
  exact
    { derived := derived
      active := status
      inTime := inTime
      presented := Table.find_key found
      issued := invariant.issued row (Table.find_mem found)
      enrolled := ⟨holder, Table.find_mem enrolled, .refl _⟩
      record := confirmationRecord_of_read read }

theorem map_challengeId_markConsumed (tables : AuthorityTables) (challengeId : String) (now : Time) :
    (tables.markConsumed challengeId now).challenges.map HumanChallengeRow.challengeId =
      tables.challenges.map HumanChallengeRow.challengeId :=
  Table.map_key_modify _ _ _ fun _ => rfl

/-- Beside the tables, a completion is the commit of the call that has read. -/
theorem confirmations_of_checked
    (checked : confirmable call.subject call.credentialId call.challenge call.times.tested
      state.tables = .ok (credential, row))
    (run : call.outcome state =
      finished state.confirmations (call.pending credential row) call.times) :
    AuthorityState.confirmations
        { state with
          tables := (call.outcome state).tables
          artifacts := (call.outcome state).artifacts
          completed := state.completed ++ call.logged state } =
      committed state.confirmations (call.pending credential row) call.times := by
  have shape : committed state.confirmations (call.pending credential row) call.times =
      ⟨(call.outcome state).tables, (call.outcome state).artifacts,
        if (call.outcome state).result.isOk then
          state.confirmations.succeeded ++ [call.challenge.challengeDigest]
        else state.confirmations.succeeded⟩ := by
    rw [run]
    rfl
  rw [shape]
  rcases logged_of_checked checked with ⟨_, result, logged⟩ | ⟨attestation, result, logged⟩
  · simp [AuthorityState.confirmations, result, logged, Except.isOk, Except.toBool]
  · simp [AuthorityState.confirmations, result, logged, Except.isOk, Except.toBool]

theorem invariant_complete (invariant : AuthorityInvariant crypto signed state)
    (call : CompletionCall platform) :
    AuthorityInvariant crypto signed
      { state with
        tables := (call.outcome state).tables
        artifacts := (call.outcome state).artifacts
        completed := state.completed ++ call.logged state } := by
  rcases complete_cases call state with ⟨tables, artifacts, logged⟩ | ⟨credential, row, checked, run⟩
  · rw [tables, artifacts, logged, List.append_nil]
    exact invariant
  obtain ⟨_, _, consumable⟩ := confirmable_ok.mp checked
  obtain ⟨found, free, _⟩ := AuthorityTables.consumableChallenge_ok.mp consumable
  obtain ⟨credentials, challenges⟩ :
      (call.outcome state).tables.credentials = state.tables.credentials ∧
        (call.outcome state).tables.challenges =
          (state.tables.markConsumed row.challengeId call.times.consumed).challenges := by
    rw [run]
    exact finishConfirmation_tables
  have advances : Advances state
      { state with
        tables := (call.outcome state).tables
        artifacts := (call.outcome state).artifacts
        completed := state.completed ++ call.logged state } :=
    advances_of_credentials [] (by rw [credentials, List.append_nil]) (List.Subset.refl _)
      (List.subset_append_left _ _)
  exact
    { keys := by rw [credentials]; exact invariant.keys
      plain := by rw [credentials]; exact invariant.plain
      ids := by
        rw [challenges, map_challengeId_markConsumed]
        exact invariant.ids
      issued := by
        intro later member
        rw [challenges] at member
        obtain ⟨before, inside, rfl⟩ := Table.mem_modify.mp member
        split_ifs
        · exact invariant.issued before inside
        · exact invariant.issued before inside
      completed := by
        intro completion member
        rcases List.mem_append.mp member with before | new
        · exact (invariant.completed completion before).advance advances
        · rcases logged_of_checked checked with ⟨_, _, logged⟩ | ⟨attestation, result, logged⟩
          · simp [logged] at new
          · rw [logged, List.mem_singleton] at new
            subst new
            exact (completed_of_checked invariant checked (run ▸ result)).advance advances
      once := by
        have still : StillRead state.confirmations (call.pending credential row) := ⟨row, found, rfl⟩
        have unconsumed : Unconsumed state.confirmations (call.pending credential row) :=
          unconsumed_of_read invariant (Table.find_mem found) free
        rw [confirmations_of_checked checked run]
        exact invariant.once.committed still unconsumed call.times
      decisions := fun row member => invariant.decisions_advance advances member }

theorem invariant_save (invariant : AuthorityInvariant crypto signed state)
    (revision : Revision platform) (status : String) (now : Time) :
    AuthorityInvariant crypto signed
      { state with
        registry := (state.registry.saveContractRevision revision status now).tables } :=
  { invariant with
    completed := fun completion member =>
      (invariant.completed completion member).advance (advances_registry state _)
    decisions := by
      rw [saveContractRevision_decisions]
      exact fun row member => invariant.decisions_advance (advances_registry state _) member }

/-- What the verifier accepted for a decision that is persisted. -/
theorem verified_of_authorized (unforgeable : Unforgeable crypto signed)
    (human : decision.authorityKind = "verified_human") (carries : CarriesCompletion state decision)
    (authorized : authorizeDecision (state.environment crypto instant stamp) decision
      none = .ok ()) :
    ∃ completion holder, Verified crypto signed state decision completion holder := by
  obtain ⟨completion, member, same⟩ := carries human
  rw [authorizeDecision, if_pos human] at authorized
  split at authorized
  · rename_i accepted
    obtain ⟨_, row, named, signature⟩ := verify_ok unforgeable (verifier_ok accepted)
    rw [same] at named signature
    exact ⟨completion, row,
      { completed := member
        enrolled := Table.find_mem named.enrolled
        attestation := same
        credentialId := named.credentialId
        principal := named.principal
        relyingParty := named.relyingParty
        origin := named.origin
        signature := signature }⟩
  · cases authorized
  · cases authorized

theorem invariant_decide (unforgeable : Unforgeable crypto signed)
    (invariant : AuthorityInvariant crypto signed state) (scan : ScanOrder)
    (carries : CarriesCompletion state decision) :
    AuthorityInvariant crypto signed
      { state with
        registry := (state.registry.decideContractRevision
          (state.environment crypto instant stamp) scan decision).tables } := by
  refine { invariant with
    completed := fun completion member =>
      (invariant.completed completion member).advance (advances_registry state _)
    decisions := ?_ }
  rcases decideContractRevision_decisions (state.environment crypto instant stamp) scan decision
    state.registry with same | ⟨id, revisionId, authorized, appended⟩
  · rw [same]
    exact fun row member => invariant.decisions_advance (advances_registry state _) member
  · rw [appended]
    intro row member human
    rcases List.mem_append.mp member with before | new
    · exact invariant.decisions_advance (advances_registry state _) before human
    · rw [List.mem_singleton] at new
      subst new
      obtain ⟨completion, holder, verified⟩ :=
        verified_of_authorized unforgeable human carries authorized
      obtain ⟨later, again⟩ := verified.advance (advances_registry state _)
      exact ⟨decision, completion, later, ⟨rfl, rfl, rfl⟩, again⟩

theorem AuthorityStep.invariant (unforgeable : Unforgeable crypto signed)
    (unpadded : ∀ count,
      strip ("hcred" ++ "_" ++ platform.uuid7 count) = "hcred" ++ "_" ++ platform.uuid7 count)
    (step : AuthorityStep crypto instant stamp before after)
    (held : AuthorityInvariant crypto signed before) : AuthorityInvariant crypto signed after := by
  cases step with
  | enroll enrolled => exact invariant_enroll unpadded held enrolled
  | revoke revoked => exact invariant_revoke held revoked
  | begin begun active => exact invariant_begin held begun active
  | complete call => exact invariant_complete held call
  | save revision status now => exact invariant_save held revision status now
  | decide scan carries => exact invariant_decide unforgeable held scan carries

theorem invariant_of_reachable (unforgeable : Unforgeable crypto signed)
    (unpadded : ∀ count,
      strip ("hcred" ++ "_" ++ platform.uuid7 count) = "hcred" ++ "_" ++ platform.uuid7 count)
    (reachable : AuthorityReachable crypto instant stamp state) :
    AuthorityInvariant crypto signed state := by
  obtain ⟨start, initial, run⟩ := reachable
  induction run with
  | refl => exact invariant_of_initial crypto signed initial
  | tail _ step ih => exact step.invariant unforgeable unpadded ih

/-! ## What a decision rests on -/

/-- The intent of a human decision, with the credential its attestation names. -/
def decisionIntent (decision : RevisionDecisionRecord platform) : ConfirmationIntent where
  action := "revision." ++ decision.decision
  targetDigest := (decision.revisionRef.field "digest").asString
  subjectDigest := decision.humanSubjectDigest
  principalId := (decision.authority.field "principal_id").asString
  credentialId := attested (decision.authority.field "attestation") "credential_id"
  relyingPartyId := attested (decision.authority.field "attestation") "relying_party_id"
  origin := attested (decision.authority.field "attestation") "origin"

def decisionChallenge (decision : RevisionDecisionRecord platform) : String :=
  attested (decision.authority.field "attestation") "challenge_digest"

/-- The intent a completion derived its challenge from is that of the decision. -/
theorem decisionIntent_eq (invariant : AuthorityInvariant crypto signed state)
    (human : decision.authorityKind = "verified_human") {completion : Completion platform}
    (verified : Verified crypto signed state decision completion holder) :
    intentFor completion.subject completion.credential = decisionIntent decision := by
  have completed := invariant.completed completion verified.completed
  obtain ⟨action, target, subject, principal⟩ := attests_of_human human
  rw [verified.attestation] at action target subject principal
  obtain ⟨row, member, same⟩ := completed.enrolled
  -- The credential id that was recorded is the stored one, so the verifier found this row.
  have keyed : holder.key = row.key := by
    calc holder.key = attested completion.attestation.dump "credential_id" := verified.credentialId
      _ = strip completion.credential.credentialId := completed.record.credential
      _ = strip row.credentialId := by rw [same.credentialId]
      _ = row.key := invariant.plain row member
  have found := Table.find_of_mem invariant.keys verified.enrolled
  rw [keyed, Table.find_of_mem invariant.keys member, Option.some.injEq] at found
  subst found
  simp only [intentFor, decisionIntent, verified.attestation, ConfirmationIntent.mk.injEq]
  exact ⟨completed.record.action.symm.trans action, completed.record.target.symm.trans target,
    completed.record.subject.symm.trans subject,
    same.principalId.symm.trans (verified.principal.trans principal),
    same.credentialId.symm.trans verified.credentialId,
    same.relyingPartyId.symm.trans verified.relyingParty, same.origin.symm.trans verified.origin⟩

/-- A challenge was issued for exactly the content of a decision, its completion found it
unexpired and its credential active, and the key of that credential signed it. -/
structure Confirmed (crypto : Cryptography) (signed : String → Bytes → Prop)
    (state : AuthorityState platform store) (decision : RevisionDecisionRecord platform) : Prop where
  confirmed : ∃ entry ∈ state.begun, ∃ completion ∈ state.completed,
    ∃ holder ∈ state.tables.credentials,
      entry.intent = decisionIntent decision ∧
      challengeDigest platform entry.intent entry.nonce = decisionChallenge decision ∧
      decision.authority.field "attestation" = completion.attestation.dump ∧
      completion.challenge.challengeDigest = decisionChallenge decision ∧
      completion.tested ≤ entry.expiresAt ∧
      completion.credential.credentialId = entry.intent.credentialId ∧
      completion.credential.status = .active ∧
      holder.credentialId = entry.intent.credentialId ∧
      SignedChallenge crypto (signed holder.publicKeyPem) entry.intent.relyingPartyId
        entry.intent.origin (decisionChallenge decision)

theorem confirmed_of_verified (collisionFree : Function.Injective platform.sha256)
    (invariant : AuthorityInvariant crypto signed state)
    (human : decision.authorityKind = "verified_human") {completion : Completion platform}
    (verified : Verified crypto signed state decision completion holder) :
    Confirmed crypto signed state decision := by
  have completed := invariant.completed completion verified.completed
  have intended := decisionIntent_eq invariant human verified
  obtain ⟨entry, begun, digest, expires⟩ := completed.issued
  have challenge : completion.challenge.challengeDigest = decisionChallenge decision := by
    rw [decisionChallenge, verified.attestation, completed.record.challenge]
  have derived := (digest.trans completed.presented).trans completed.derived.symm
  have same : entry.intent = decisionIntent decision :=
    (challengeDigest_inj collisionFree derived).1.trans intended
  refine ⟨entry, begun, completion, verified.completed, holder, verified.enrolled, same,
    (digest.trans completed.presented).trans challenge, verified.attestation, challenge,
    expires ▸ completed.inTime, ?_, completed.active, ?_, ?_⟩
  · rw [same, ← intended]
    rfl
  · rw [same, decisionIntent, verified.attestation]
    exact verified.credentialId
  · rw [same, decisionIntent, decisionChallenge, verified.attestation]
    exact verified.signature

theorem Confirmed.subject_eq (collisionFree : Function.Injective platform.sha256)
    {other : RevisionDecisionRecord platform} (one : Confirmed crypto signed state decision)
    (two : Confirmed crypto signed state other)
    (same : decisionChallenge decision = decisionChallenge other) :
    decision.humanSubjectDigest = other.humanSubjectDigest := by
  obtain ⟨first, _, _, _, _, _, intent, digest, _⟩ := one
  obtain ⟨second, _, _, _, _, _, otherIntent, otherDigest, _⟩ := two
  have equal := (challengeDigest_inj collisionFree
    (digest.trans (same.trans otherDigest.symm))).1
  rw [intent, otherIntent] at equal
  exact congrArg ConfirmationIntent.subjectDigest equal

end Invariant

/-- The authority of persisted human decisions, in every reachable state: each rests on a
challenge issued for exactly its content and signed by the credential it names; a challenge
serves one successful confirmation; and decisions on one challenge have one subject. -/
theorem human_decisions_confirmed {platform : Platform} {store : ArtifactStore}
    {crypto : Cryptography} {signed : String → Bytes → Prop} {instant : String → Time}
    {stamp : Time → String} (collisionFree : Function.Injective platform.sha256)
    (unforgeable : Unforgeable crypto signed)
    (unpadded : ∀ count,
      strip ("hcred" ++ "_" ++ platform.uuid7 count) = "hcred" ++ "_" ++ platform.uuid7 count)
    {state : AuthorityState platform store} (reachable : AuthorityReachable crypto instant stamp state) :
    (∀ row ∈ state.registry.decisions, row.actorType = "verified_human" →
      (∃ decision : RevisionDecisionRecord platform, Holds row decision) ∧
        ∀ decision : RevisionDecisionRecord platform, Holds row decision →
          Confirmed crypto signed state decision) ∧
    (state.completed.map fun completion => completion.challenge.challengeDigest).Nodup ∧
    (∀ row ∈ state.registry.decisions, ∀ other ∈ state.registry.decisions,
      row.actorType = "verified_human" → other.actorType = "verified_human" →
      ∀ decision second : RevisionDecisionRecord platform, Holds row decision → Holds other second →
        decisionChallenge decision = decisionChallenge second →
          decision.humanSubjectDigest = second.humanSubjectDigest) := by
  have invariant := invariant_of_reachable unforgeable unpadded reachable
  have confirmed : ∀ row ∈ state.registry.decisions, row.actorType = "verified_human" →
      (∃ decision : RevisionDecisionRecord platform, Holds row decision) ∧
        ∀ decision : RevisionDecisionRecord platform, Holds row decision →
          Confirmed crypto signed state decision := by
    intro row member human
    obtain ⟨decision, completion, holder, held, verified⟩ := invariant.decisions row member human
    refine ⟨⟨decision, held⟩, fun other again => ?_⟩
    rw [← held.unique again]
    exact confirmed_of_verified collisionFree invariant (held.actor.symm.trans human) verified
  refine ⟨confirmed, invariant.once.distinct, ?_⟩
  intro row member other inside human again decision second held holds same
  exact ((confirmed row member human).2 decision held).subject_eq collisionFree
    ((confirmed other inside again).2 second holds) same

namespace Sample

/-- The content of the decision that is hashed for its subject. -/
def decisionContent : Json :=
  .obj [("decision", .str "accepted"), ("rationale", .str "reviewed"),
    ("revision_ref", Contracts.Sample.contract .goal "one")]

def acceptIntent : ConfirmationIntent :=
  enrolledIntent credential "revision.accepted" Contracts.Sample.digestText otherText

def hashing (hash : String → String) : Platform where
  sha256 := hash
  uuid7 count := String.ofList (List.replicate (count + 1) '0')
  coercion := .strict

/-- The subject and the challenge of the sample have a digest's form. -/
structure Digests (hash : String → String) : Prop where
  subject : hash (canonicalJson decisionContent) = otherText
  challenge : hash (canonicalJson (boundDocument acceptIntent "nonce")) = challengeText

def goalRow : ContractRevisionRow where
  id := "crev_0"
  contractType := .goal
  logicalId := "one"
  revision := 1
  projectId := "first"
  title := "title"
  status := "proposed"
  documentJson := .write (Database.Sample.goalDump "first" 1)
  digest := Contracts.Sample.digestText
  createdAt := 0

def enrollment : Enrollment :=
  ⟨"reviewer", "Reviewer", "pem", "evidrun.local", "https://evidrun.local"⟩

def issuedRow : HumanChallengeRow where
  challengeId := "hchal_00"
  challengeDigest := challengeText
  principalId := "reviewer"
  credentialId := "hcred_0"
  action := "revision.accepted"
  intentJson := acceptIntent.bindingDocument
  issuedAt := 0
  expiresAt := challengeTtl
  consumedAt := none

def acceptAttestation : Json :=
  .obj [("action", .str "revision.accepted"),
    ("assertion_ref", assertionRef "artifact" Contracts.Sample.digestText),
    ("attestation_id", .str "hatt_000"), ("challenge_digest", .str challengeText),
    ("credential_id", .str "hcred_0"), ("origin", .str "https://evidrun.local"),
    ("principal_id", .str "reviewer"), ("relying_party_id", .str "evidrun.local"),
    ("schema_version", .str "1"), ("subject_digest", .str otherText),
    ("target_digest", .str Contracts.Sample.digestText),
    ("user_verification", .str "required_verified"), ("verification_method", .str "webauthn"),
    ("verified_at_utc", .str "2026-01-01T00:00:10Z"), ("verifier_ref", verifierRef)]

def acceptanceDump : Json :=
  .obj [("authority", .obj [("attestation", acceptAttestation),
      ("kind", .str "verified_human"), ("principal_id", .str "reviewer")]),
    ("decided_at_utc", .str "2026-01-01T00:00:10Z"), ("decision", .str "accepted"),
    ("rationale", .str "reviewed"), ("revision_ref", Contracts.Sample.contract .goal "one"),
    ("schema_version", .str "1")]

def subjectDump : Json :=
  .obj [("decision", .str "accepted"), ("kind", .str "revision_decision"),
    ("rationale", .str "reviewed"), ("revision_ref", Contracts.Sample.contract .goal "one")]

section Hashing

variable {hash : String → String}

variable (hash) in
def acceptSubject : HumanSubject (hashing hash) :=
  .revision ⟨subjectDump, show validate .strict revisionDecisionSubject subjectDump = .ok subjectDump
    by decide +kernel⟩

theorem acceptSubject_intent (digests : Digests hash) :
    intentFor (acceptSubject hash) credential.toEnrolledCredential = acceptIntent := by
  have content : Json.obj (["decision", "rationale", "revision_ref"].map fun name =>
      (name, subjectDump.field name)) = decisionContent := by decide +kernel
  have digest : (acceptSubject hash).subjectDigest = otherText :=
    (congrArg (sha256Json (hashing hash)) content).trans digests.subject
  have action : (acceptSubject hash).action = "revision.accepted" :=
    show "revision." ++ (subjectDump.field "decision").asString = "revision.accepted" by decide +kernel
  have target : (acceptSubject hash).targetDigest = Contracts.Sample.digestText :=
    show ((subjectDump.field "revision_ref").field "digest").asString = _ by decide +kernel
  simp only [intentFor, action, target, digest]
  rfl

/-- The row as it is written, with the digest still to be computed. -/
def writtenRow (hash : String → String) : HumanChallengeRow :=
  AuthorityTables.challengeRow (hashing hash)
    (intentFor (acceptSubject hash) credential.toEnrolledCredential) "nonce" "hchal_00" 0

theorem writtenRow_eq (digests : Digests hash) : writtenRow hash = issuedRow := by
  have digest : challengeDigest (hashing hash) acceptIntent "nonce" = challengeText :=
    digests.challenge
  simp only [writtenRow, acceptSubject_intent digests, AuthorityTables.challengeRow, digest]
  rfl

variable (hash) in
def started : AuthorityState (hashing hash) store where
  tables := ⟨[], [], 0⟩
  artifacts := ()
  registry := ⟨["first"], [goalRow], [], 0⟩
  begun := []
  completed := []

variable (hash) in
def enrolled : AuthorityState (hashing hash) store :=
  { started hash with tables := ⟨[credential], [], 1⟩ }

variable (hash) in
def challenged : AuthorityState (hashing hash) store :=
  { enrolled hash with
    tables := ⟨[credential], [writtenRow hash], 2⟩
    begun := [⟨intentFor (acceptSubject hash) credential.toEnrolledCredential, "nonce",
      0 + challengeTtl⟩] }

variable (hash) in
def completion : CompletionCall (hashing hash) where
  subject := acceptSubject hash
  credentialId := "hcred_0"
  challenge := AuthorityTables.issuedChallenge issuedRow "nonce"
  assertion := [3]
  projectId := "first"
  times := ⟨1, 1, "2026-01-01T00:00:10Z"⟩

variable (hash) in
def attestedState : AuthorityState (hashing hash) store :=
  { challenged hash with
    tables := ((completion hash).outcome (challenged hash)).tables
    artifacts := ((completion hash).outcome (challenged hash)).artifacts
    completed := (challenged hash).completed ++ (completion hash).logged (challenged hash) }

theorem acceptance_valid (digests : Digests hash) :
    validate (hashing hash).coercion (revisionDecisionRecord (hashing hash)) acceptanceDump =
      .ok acceptanceDump := by
  have content : Json.obj (["decision", "rationale", "revision_ref"].map fun name =>
      (name, acceptanceDump.field name)) = decisionContent := by decide +kernel
  have digest : decisionSubjectDigest (hashing hash) acceptanceDump = otherText :=
    (congrArg (sha256Json (hashing hash)) content).trans digests.subject
  have checked : validateAuthority (hashing hash) acceptanceDump = .ok () := by
    simp only [validateAuthority, digest]
    decide +kernel
  have fields : validate .strict (.model revisionDecisionRecordFields noCheck) acceptanceDump =
      .ok acceptanceDump := by decide +kernel
  exact validate_checked fields checked

def acceptance (digests : Digests hash) : RevisionDecisionRecord (hashing hash) :=
  ⟨acceptanceDump, acceptance_valid digests⟩

theorem completion_checked (digests : Digests hash) :
    confirmable (acceptSubject hash) "hcred_0" (completion hash).challenge 1 (challenged hash).tables =
      .ok (credential.toEnrolledCredential, issuedRow) := by
  refine confirmable_ok.mpr ⟨rfl, ?_, ?_⟩
  · rw [acceptSubject_intent digests]
    exact digests.challenge
  · rw [challenged, writtenRow_eq digests]
    rfl

theorem completion_succeeds (digests : Digests hash) :
    ∃ attestation, attestation.dump = acceptAttestation ∧
      ((completion hash).outcome (challenged hash)).result = .ok attestation := by
  have action : (acceptSubject hash).action = "revision.accepted" :=
    congrArg ConfirmationIntent.action (acceptSubject_intent digests)
  have target : (acceptSubject hash).targetDigest = Contracts.Sample.digestText :=
    congrArg ConfirmationIntent.targetDigest (acceptSubject_intent digests)
  have subject : (acceptSubject hash).subjectDigest = otherText :=
    congrArg ConfirmationIntent.subjectDigest (acceptSubject_intent digests)
  have outcome : (completion hash).outcome (challenged hash) =
      finishConfirmation (acceptSubject hash) credential.toEnrolledCredential
        (completion hash).challenge [3] "first" (completion hash).times issuedRow
        (challenged hash).tables () := by
    rw [CompletionCall.outcome, completeConfirmation]
    exact (completion_checked digests) ▸ rfl
  rw [outcome]
  refine finishConfirmation_of_read (show store.put () [3] "first" = _ from rfl) ?_
  simp only [attestationDocument, action, target, subject]
  show validate .strict humanAttestationRecord (.obj [("action", .str "revision.accepted"),
    ("assertion_ref", assertionRef "artifact" Contracts.Sample.digestText),
    ("attestation_id", .str ("hatt" ++ "_" ++ String.ofList (List.replicate 3 '0'))),
    ("challenge_digest", .str challengeText), ("credential_id", .str "hcred_0"),
    ("origin", .str "https://evidrun.local"), ("principal_id", .str "reviewer"),
    ("relying_party_id", .str "evidrun.local"), ("subject_digest", .str otherText),
    ("target_digest", .str Contracts.Sample.digestText),
    ("verified_at_utc", .str "2026-01-01T00:00:10Z"), ("verifier_ref", verifierRef)]) = _
  decide +kernel

theorem acceptance_carried (digests : Digests hash) :
    CarriesCompletion (attestedState hash) (acceptance digests) := by
  intro _
  obtain ⟨attestation, shape, succeeded⟩ := completion_succeeds digests
  have checked : confirmable (completion hash).subject (completion hash).credentialId
      (completion hash).challenge (completion hash).times.tested (challenged hash).tables =
        .ok (credential.toEnrolledCredential, issuedRow) := completion_checked digests
  have held : (acceptance digests).authority.field "attestation" = acceptAttestation :=
    show (acceptanceDump.field "authority").field "attestation" = _ by decide +kernel
  rcases logged_of_checked checked with ⟨exception, failed, _⟩ | ⟨found, result, logged⟩
  · rw [succeeded] at failed
    cases failed
  · rw [succeeded, Except.ok.injEq] at result
    subst result
    refine ⟨⟨acceptSubject hash, (completion hash).challenge, credential.toEnrolledCredential,
      issuedRow, 1, attestation⟩, ?_, held.trans shape.symm⟩
    rw [attestedState, logged]
    exact List.mem_append_right _ (List.mem_singleton_self _)

theorem attestedState_credentials :
    (attestedState hash).tables.credentials = [credential] := by
  rcases complete_cases (completion hash) (challenged hash) with ⟨same, _, _⟩ | ⟨_, _, _, run⟩
  · exact congrArg AuthorityTables.credentials same
  · exact (congrArg (fun outcome => outcome.tables.credentials) run).trans
      finishConfirmation_tables.1

variable (hash) in
def environment : RegistryEnvironment :=
  (attestedState hash).environment crypto Database.Sample.verifying.instant
    Database.Sample.verifying.stamp

theorem acceptance_authorized (digests : Digests hash) :
    authorizeDecision (environment hash) (acceptance digests) none = .ok () := by
  have human : (acceptance digests).authorityKind = "verified_human" :=
    show ((acceptanceDump.field "authority").field "kind").asString = _ by decide +kernel
  have digest : (acceptance digests).humanSubjectDigest = otherText := by
    rw [← (attests_of_human human).subject]
    exact (show attested ((acceptanceDump.field "authority").field "attestation") "subject_digest" = _
      by decide +kernel)
  have accepted : verify crypto store () tables ((acceptanceDump.field "authority").field
      "attestation") otherText = .ok () := by decide +kernel
  have verified : (environment hash).verifier ((acceptance digests).authority.field "attestation")
      (acceptance digests).humanSubjectDigest = .ok () := by
    rw [digest]
    exact congrArg (Except.mapError VerificationExc.asAttestationError)
      ((verify_congr attestedState_credentials).trans accepted)
  rw [authorizeDecision, if_pos human, verified]

variable (hash) in
def decided (digests : Digests hash) : AuthorityState (hashing hash) store :=
  { attestedState hash with
    registry := ((attestedState hash).registry.decideContractRevision (environment hash) .stable
      (acceptance digests)).tables }

theorem decided_reachable (digests : Digests hash) :
    AuthorityReachable crypto Database.Sample.verifying.instant Database.Sample.verifying.stamp
      (decided hash digests) := by
  have enrolls : AuthorityStep crypto Database.Sample.verifying.instant
      Database.Sample.verifying.stamp (started hash) (enrolled hash) :=
    .enroll (show enroll (hashing hash) enrollment 0 (started hash).tables =
      .ok (credential.toEnrolledCredential, ⟨[credential], [], 1⟩) from rfl)
  have begins : AuthorityStep crypto Database.Sample.verifying.instant
      Database.Sample.verifying.stamp (enrolled hash) (challenged hash) :=
    .begin (show beginConfirmation .execute (acceptSubject hash) "hcred_0" "nonce" 0
        (enrolled hash).tables =
      .ok (AuthorityTables.issuedChallenge (writtenRow hash) "nonce",
        ⟨[credential], [writtenRow hash], 2⟩) from rfl)
      (show (enrolled hash).tables.requireActiveCredential "hcred_0" =
        .ok credential.toEnrolledCredential from rfl)
  exact ⟨started hash, ⟨rfl, rfl, rfl, rfl, rfl⟩,
    .tail (.tail (.tail (.tail .refl enrolls) begins) (.complete _ (completion hash)))
      (.decide .stable (acceptance_carried digests))⟩

theorem decided_actors (digests : Digests hash) :
    (decided hash digests).registry.decisions.map ContractDecisionRow.actorType =
      ["verified_human"] := by
  have found : (attestedState hash).registry.revision?
      (identityKey (acceptance digests).revisionRef) = some goalRow :=
    show revision? ⟨["first"], [goalRow], [], 0⟩
      (identityKey (acceptanceDump.field "revision_ref")) = some goalRow by decide +kernel
  have digest : Json.str goalRow.digest = (acceptance digests).revisionRef.field "digest" :=
    show _ = (acceptanceDump.field "revision_ref").field "digest" by decide +kernel
  have human : (acceptance digests).authorityKind = "verified_human" :=
    show ((acceptanceDump.field "authority").field "kind").asString = _ by decide +kernel
  have fresh : judge none (acceptance digests) = .fresh := by
    rw [judge]
    exact if_neg (show (acceptanceDump.field "decision").asString ≠ "superseded" by decide +kernel)
  have persisted : (attestedState hash).registry.persistContractDecision (environment hash) .stable
      (acceptance digests) none =
      insertDecision (decisionRow (environment hash)
        (acceptance digests) ("cdec" ++ "_" ++ (hashing hash).uuid7 0) goalRow.id)
        ⟨["first"], [goalRow], [], 1⟩ := by
    have none : (ScanOrder.stable.order ((attestedState hash).registry.decisionsOf
      goalRow.id)).getLast? = none := rfl
    rw [persistContractDecision, found]
    simp only [digest, ne_eq, not_true_eq_false, if_false, acceptance_authorized digests, none, fresh,
      bind, Except.bind]
    rfl
  have decides : ((attestedState hash).registry.decideContractRevision (environment hash) .stable
      (acceptance digests)).tables.decisions =
      [decisionRow (environment hash) (acceptance digests)
        ("cdec" ++ "_" ++ (hashing hash).uuid7 0) goalRow.id] := by
    rw [decideContractRevision, if_neg (by rw [human]; decide), persisted]
    rfl
  rw [decided, decides]
  exact congrArg (fun kind => [kind]) human

end Hashing

/-- A hash without collisions that has these digests. -/
def swapping : Equiv.Perm String :=
  (Equiv.swap (canonicalJson decisionContent) otherText).trans <|
    Equiv.swap (canonicalJson (boundDocument acceptIntent "nonce")) challengeText

theorem canonicalJson_ne {document : Json} {text : String} (ordered : document.ordered = true)
    (start : (write document).head? ≠ text.toList.head?) : text ≠ canonicalJson document := by
  rintro rfl
  rw [canonicalJson, sortKeys_of_ordered document ordered, String.toList_ofList] at start
  exact start rfl

theorem swapping_digests : Digests swapping := by
  have plain : otherText ≠ canonicalJson (boundDocument acceptIntent "nonce") :=
    canonicalJson_ne (boundDocument_ordered _ _) (by decide +kernel)
  have differ : canonicalJson (boundDocument acceptIntent "nonce") ≠ canonicalJson decisionContent := by
    intro same
    have equal := canonicalJson_injective _ _ (boundDocument_ordered _ _) (by decide +kernel) same
    exact absurd equal (by decide +kernel)
  constructor
  · rw [swapping, Equiv.trans_apply, Equiv.swap_apply_left]
    exact Equiv.swap_apply_of_ne_of_ne plain (by decide +kernel)
  · rw [swapping, Equiv.trans_apply, Equiv.swap_apply_of_ne_of_ne differ plain.symm,
      Equiv.swap_apply_left]

theorem swapping_collisionFree : Function.Injective (hashing swapping).sha256 :=
  show Function.Injective swapping from swapping.injective

end Sample

/-- A confirmation from enrollment to a persisted acceptance. -/
theorem accepted_goal_confirmed :
    (Sample.decided Sample.swapping Sample.swapping_digests).registry.decisions.map
        ContractDecisionRow.actorType = ["verified_human"] ∧
      ∀ row ∈ (Sample.decided Sample.swapping Sample.swapping_digests).registry.decisions,
        ∀ decision : RevisionDecisionRecord (Sample.hashing Sample.swapping), Holds row decision →
          Confirmed Sample.crypto Sample.crypto.Accepts
            (Sample.decided Sample.swapping Sample.swapping_digests) decision := by
  have actors := Sample.decided_actors Sample.swapping_digests
  have unpadded : ∀ count, strip ("hcred" ++ "_" ++ (Sample.hashing Sample.swapping).uuid7 count) =
      "hcred" ++ "_" ++ (Sample.hashing Sample.swapping).uuid7 count := by
    refine fun count => strip_of_visible fun char member => ?_
    rw [String.toList_append, List.mem_append, Sample.hashing, String.toList_ofList] at member
    rcases member with start | digit
    · have plain : (("hcred" ++ "_").toList.all fun char => isWhitespace char == false) = true := by
        decide
      exact eq_of_beq (List.all_eq_true.mp plain char start)
    · rw [List.eq_of_mem_replicate digit]
      decide
  refine ⟨actors, fun row member => ?_⟩
  have human : row.actorType = "verified_human" := by
    have inside := List.mem_map_of_mem (f := ContractDecisionRow.actorType) member
    rw [actors] at inside
    exact List.mem_singleton.mp inside
  exact ((human_decisions_confirmed Sample.swapping_collisionFree Sample.crypto.unforgeable_accepts
    unpadded (Sample.decided_reachable Sample.swapping_digests)).1 row member human).2

end Evidrun.Authority
