import Evidrun.Authority.Confirmation
import Evidrun.Contracts.StudyDigest
import Mathlib.Logic.Equiv.Basic

/-!
# The local WebAuthn verifier

The check of a stored assertion, following `authority/crypto.py` and
`authority/verifier.py`, and what it ties to the signature.

The verifier compares the principal, the relying party and the origin of an
attestation with its credential and the challenge with the client data that was
signed. The action, the target and the subject of the attestation are compared
with the expected subject only: they reach the signature through the challenge
digest alone, which the verifier does not derive again.
-/

namespace Evidrun.Authority

open JsonText DocumentSchema Evidrun.Contracts Evidrun.Database

set_option autoImplicit false

/-! ## Bytes as text -/

def hexValue (char : Char) : Option UInt8 :=
  if char.isDigit then some (UInt8.ofNat (char.toNat - '0'.toNat))
  else if 'a' ≤ char ∧ char ≤ 'f' then some (UInt8.ofNat (char.toNat - 'a'.toNat + 10))
  else if 'A' ≤ char ∧ char ≤ 'F' then some (UInt8.ofNat (char.toNat - 'A'.toNat + 10))
  else none

/-- `bytes.fromhex`: pairs of digits, with white space between the pairs. -/
def fromHex : List Char → Option Bytes
  | [] => some []
  | [last] => if last.isWhitespace then some [] else none
  | high :: low :: rest =>
      if high.isWhitespace then fromHex (low :: rest)
      else match hexValue high, hexValue low, fromHex rest with
        | some upper, some lower, some bytes => some ((upper * 16 + lower) :: bytes)
        | _, _, _ => none

def urlsafeAlphabet : List Char :=
  "ABCDEFGHIJKLMNOPQRSTUVWXYZabcdefghijklmnopqrstuvwxyz0123456789-_".toList

def sextet (value : Nat) : Char := urlsafeAlphabet.getD (value % 64) 'A'

/-- `b64url_encode`: the padding is stripped. -/
def b64urlEncode : Bytes → List Char
  | [] => []
  | [first] => [sextet (first.toNat / 4), sextet (first.toNat % 4 * 16)]
  | [first, second] =>
      [sextet (first.toNat / 4), sextet (first.toNat % 4 * 16 + second.toNat / 16),
        sextet (second.toNat % 16 * 4)]
  | first :: second :: third :: rest =>
      sextet (first.toNat / 4) :: sextet (first.toNat % 4 * 16 + second.toNat / 16) ::
        sextet (second.toNat % 16 * 4 + third.toNat / 64) :: sextet third.toNat ::
        b64urlEncode rest

def sextetValue (char : Char) : Option Nat :=
  if char = '+' then some 62
  else if char = '/' then some 63
  else urlsafeAlphabet.findIdx? (· = char)

/-- The decoder of `binascii`, which skips what is not of its alphabet and stops at a
complete padding. `position` counts the characters of the current quad. -/
def decodeQuads : Nat → Nat → Nat → List Char → Option Bytes
  | position, _, _, [] => if position = 0 then some [] else none
  | position, carried, pads, char :: rest =>
      if char = '=' then
        if position < 2 then decodeQuads position carried pads rest
        else if 4 ≤ position + (pads + 1) then some []
        else decodeQuads position carried (pads + 1) rest
      else match sextetValue char with
        | none => decodeQuads position carried pads rest
        | some value => match position with
            | 0 => decodeQuads 1 value 0 rest
            | 1 => (decodeQuads 2 (value % 16) 0 rest).map
                (UInt8.ofNat (carried * 4 + value / 16) :: ·)
            | 2 => (decodeQuads 3 (value % 4) 0 rest).map
                (UInt8.ofNat (carried * 16 + value / 4) :: ·)
            | _ => (decodeQuads 0 0 0 rest).map (UInt8.ofNat (carried * 64 + value) :: ·)

/-! ## Exceptions and primitives -/

/-- What `verify` raises. Only the first is the verifier's own refusal. -/
inductive VerificationExc
  | invalid (text : String)
  | valueError (text : String)
  | binasciiError
  | attributeError
  | raised (exception : Raised)
deriving DecidableEq

/-- Why bytes are not read as JSON. -/
inductive LoadFault
  | jsonDecodeError
  | raised (exception : Raised)
deriving DecidableEq

/-- Why a PEM text gives no key. -/
inductive KeyFault
  | notEllipticCurve
  | raised (exception : Raised)
deriving DecidableEq

/-- What comes from `hashlib`, `json` and `cryptography`: an EC key is what it says of a
signature and the bytes it should be over. -/
structure Cryptography where
  sha256 : Bytes → Bytes
  utf8 : String → Bytes
  loads : Bytes → Except LoadFault Json
  publicKey : String → Except KeyFault (Bytes → Bytes → Bool)

def refuse (condition : Bool) (text : String) : Except VerificationExc Unit :=
  if condition then .error (.invalid text) else .ok ()

def b64urlDecode (value : String) : Except VerificationExc Bytes :=
  if value.toList.any fun char => 128 ≤ char.toNat then
    .error (.valueError "string argument should contain only ASCII characters")
  else
    let padding := List.replicate ((4 - value.toList.length % 4) % 4) '='
    match decodeQuads 0 0 0 (value.toList ++ padding) with
    | some bytes => .ok bytes
    | none => .error .binasciiError

/-! ## Assertions -/

def assertionField (assertion : Json) (name : String) : Except VerificationExc String :=
  match assertion.get? name with
  | some (.str text) => .ok text
  | _ => .error (.invalid ("assertion is missing field: " ++ name))

def upFlag : UInt8 := 1

def uvFlag : UInt8 := 4

namespace Cryptography

variable (crypto : Cryptography)

def rpIdHash (relyingPartyId : String) : Bytes := crypto.sha256 (crypto.utf8 relyingPartyId)

def loadClientData (clientData : Bytes) : Except VerificationExc Json :=
  match crypto.loads clientData with
  | .ok (.obj fields) => .ok (.obj fields)
  | .ok _ => .error .attributeError
  | .error .jsonDecodeError => .error (.invalid "client data is not valid JSON")
  | .error (.raised exception) => .error (.raised exception)

def loadPublicKey (pem : String) : Except VerificationExc (Bytes → Bytes → Bool) :=
  match crypto.publicKey pem with
  | .ok key => .ok key
  | .error .notEllipticCurve =>
      .error (.invalid "enrolled credential key is not an EC public key")
  | .error (.raised exception) => .error (.raised exception)

def challengeBytes (digest : String) : Except VerificationExc Bytes :=
  match fromHex digest.toList with
  | some bytes => .ok bytes
  | none => .error (.valueError "non-hexadecimal number found in fromhex() arg")

def verifyAuthenticatorData (authenticatorData : Bytes) (relyingPartyId : String) :
    Except VerificationExc Unit := do
  refuse (decide (authenticatorData.length < 37)) "authenticator data is malformed"
  refuse (authenticatorData.take 32 != crypto.rpIdHash relyingPartyId)
    "authenticator data does not match the relying party"
  let flags := authenticatorData.getD 32 0
  refuse (flags &&& upFlag == 0) "assertion lacks user presence"
  refuse (flags &&& uvFlag == 0) "assertion lacks verified user presence"

def verifyClientData (client : Json) (origin : String) (digest : String) :
    Except VerificationExc Unit := do
  refuse (client.get? "type" != some (.str "webauthn.get"))
    "client data is not a webauthn.get assertion"
  refuse (client.get? "origin" != some (.str origin))
    "client data origin does not match the credential"
  let challenge ← challengeBytes digest
  refuse (client.get? "challenge" != some (.str (String.ofList (b64urlEncode challenge))))
    "client data challenge does not match the intent"

def verifyAssertion (publicKeyPem : String) (assertion : Json) (relyingPartyId origin digest : String) :
    Except VerificationExc Unit := do
  let authenticatorText ← assertionField assertion "authenticator_data"
  let clientText ← assertionField assertion "client_data_json"
  let signatureText ← assertionField assertion "signature"
  let authenticatorData ← b64urlDecode authenticatorText
  let clientData ← b64urlDecode clientText
  let signature ← b64urlDecode signatureText
  crypto.verifyAuthenticatorData authenticatorData relyingPartyId
  let client ← crypto.loadClientData clientData
  verifyClientData client origin digest
  let key ← crypto.loadPublicKey publicKeyPem
  refuse (!key signature (authenticatorData ++ crypto.sha256 clientData))
    "assertion signature is invalid"

end Cryptography

/-! ## The verifier -/

/-- The text of an attestation's attribute. -/
def attested (attestation : Json) (name : String) : String := (attestation.field name).asString

def loadAssertion (crypto : Cryptography) (store : ArtifactStore) (artifacts : store.State)
    (attestation : Json) : Except VerificationExc Json :=
  match store.get artifacts (attested (attestation.field "assertion_ref") "artifact_id") with
  | .error .missing => .error (.invalid "assertion artifact is unavailable")
  | .error (.raised exception) => .error (.raised exception)
  | .ok bytes => match crypto.loads bytes with
      | .error .jsonDecodeError => .error (.invalid "assertion artifact is not valid JSON")
      | .error (.raised exception) => .error (.raised exception)
      | .ok (.obj fields) => .ok (.obj fields)
      | .ok _ => .error (.invalid "assertion artifact is malformed")

/-- The credential of an attestation and the three things it is compared with. -/
def ownedCredential (tables : AuthorityTables) (attestation : Json) :
    Except VerificationExc EnrolledCredential :=
  match tables.getCredential (attested attestation "credential_id") with
  | .error (.credentialUnavailable text) => .error (.invalid text)
  | .error _ => .error (.valueError "")
  | .ok credential => do
      refuse (credential.principalId != attested attestation "principal_id")
        "attestation principal does not own the credential"
      refuse (credential.relyingPartyId != attested attestation "relying_party_id")
        "attestation relying party does not match credential"
      refuse (credential.origin != attested attestation "origin")
        "attestation origin does not match credential"
      .ok credential

/-- `LocalWebAuthnVerifier.verify`. -/
def verify (crypto : Cryptography) (store : ArtifactStore) (artifacts : store.State)
    (tables : AuthorityTables) (attestation : Json) (expectedSubjectDigest : String) :
    Except VerificationExc Unit := do
  refuse (attested attestation "subject_digest" != expectedSubjectDigest)
    "attestation does not cover the expected decision content"
  let credential ← ownedCredential tables attestation
  let assertion ← loadAssertion crypto store artifacts attestation
  crypto.verifyAssertion credential.publicKeyPem assertion (attested attestation "relying_party_id")
    (attested attestation "origin") (attested attestation "challenge_digest")

/-! ## What an accepted assertion shows -/

/-- A key signed authenticator data with user presence and user verification for a relying
party, and client data that carry a challenge at an origin. `signed` is what the key signed. -/
structure SignedChallenge (crypto : Cryptography) (signed : Bytes → Prop)
    (relyingPartyId origin digest : String) : Prop where
  evidence : ∃ authenticatorData clientData client challenge,
    authenticatorData.take 32 = crypto.rpIdHash relyingPartyId ∧
    authenticatorData.getD 32 0 &&& upFlag ≠ 0 ∧ authenticatorData.getD 32 0 &&& uvFlag ≠ 0 ∧
    crypto.loads clientData = .ok client ∧
    client.get? "type" = some (.str "webauthn.get") ∧
    client.get? "origin" = some (.str origin) ∧
    fromHex digest.toList = some challenge ∧
    client.get? "challenge" = some (.str (String.ofList (b64urlEncode challenge))) ∧
    signed (authenticatorData ++ crypto.sha256 clientData)

/-- Nobody makes a signature that a key accepts over bytes the key did not sign. -/
def Unforgeable (crypto : Cryptography) (signed : String → Bytes → Prop) : Prop :=
  ∀ pem key signature message, crypto.publicKey pem = .ok key → key signature message = true →
    signed pem message

@[simp] theorem refuse_ok (condition : Bool) (text : String) (done : Unit) :
    refuse condition text = .ok done ↔ condition = false := by
  cases condition <;> simp [refuse]

namespace Cryptography

variable {crypto : Cryptography}

theorem loadClientData_ok {clientData : Bytes} {client : Json}
    (loaded : crypto.loadClientData clientData = .ok client) : crypto.loads clientData = .ok client := by
  unfold loadClientData at loaded
  split at loaded
  · rename_i read
    rw [read, Except.ok.inj loaded]
  · simp at loaded
  · simp at loaded
  · simp at loaded

theorem loadPublicKey_ok {pem : String} {key : Bytes → Bytes → Bool}
    (loaded : crypto.loadPublicKey pem = .ok key) : crypto.publicKey pem = .ok key := by
  unfold loadPublicKey at loaded
  split at loaded
  · rename_i read
    rw [read, Except.ok.inj loaded]
  · simp at loaded
  · simp at loaded

theorem challengeBytes_ok {digest : String} {bytes : Bytes}
    (read : challengeBytes digest = .ok bytes) : fromHex digest.toList = some bytes := by
  unfold challengeBytes at read
  split at read
  · rename_i found
    rw [found, Except.ok.inj read]
  · simp at read

theorem verifyAssertion_ok {signed : String → Bytes → Prop} (unforgeable : Unforgeable crypto signed)
    {pem relyingPartyId origin digest : String} {assertion : Json}
    (accepted : crypto.verifyAssertion pem assertion relyingPartyId origin digest = .ok ()) :
    SignedChallenge crypto (signed pem) relyingPartyId origin digest := by
  simp only [verifyAssertion, bind_ok, refuse_ok] at accepted
  obtain ⟨_, _, _, _, _, _, authenticatorData, _, clientData, _, signature, _, _, authenticated,
    client, loaded, _, matched, key, keyed, valid⟩ := accepted
  simp only [verifyAuthenticatorData, bind_ok, refuse_ok] at authenticated
  obtain ⟨_, _, _, party, _, present, verified⟩ := authenticated
  simp only [verifyClientData, bind_ok, refuse_ok] at matched
  obtain ⟨_, kind, _, origins, challenge, bytes, challenged⟩ := matched
  refine ⟨authenticatorData, clientData, client, challenge, by simpa using party,
    by simpa using present, by simpa using verified, loadClientData_ok loaded,
    by simpa using kind, by simpa using origins, challengeBytes_ok bytes,
    by simpa using challenged, ?_⟩
  exact unforgeable pem key signature _ (loadPublicKey_ok keyed) (by simpa using valid)

end Cryptography

/-- The credential that an accepted attestation names: it is enrolled, and its principal,
relying party and origin are those of the attestation. -/
structure NamedCredential (tables : AuthorityTables) (attestation : Json)
    (row : HumanCredentialRow) : Prop where
  enrolled : tables.credential? (attested attestation "credential_id") = some row
  principal : row.principalId = attested attestation "principal_id"
  relyingParty : row.relyingPartyId = attested attestation "relying_party_id"
  origin : row.origin = attested attestation "origin"

section

variable {attestation : Json} {row : HumanCredentialRow}

theorem NamedCredential.credentialId {tables : AuthorityTables}
    (named : NamedCredential tables attestation row) :
    row.credentialId = attested attestation "credential_id" :=
  show row.key = _ from Table.find_key named.enrolled

theorem ownedCredential_ok {tables : AuthorityTables} {credential : EnrolledCredential}
    (owned : ownedCredential tables attestation = .ok credential) :
    ∃ row, row.toEnrolledCredential = credential ∧ NamedCredential tables attestation row := by
  unfold ownedCredential AuthorityTables.getCredential at owned
  cases found : tables.credential? (attested attestation "credential_id") with
  | none => simp [found] at owned
  | some row =>
      simp only [found, bind_ok, refuse_ok, Except.ok.injEq] at owned
      obtain ⟨_, principal, _, party, _, origin, same⟩ := owned
      exact ⟨row, same, found, by simpa using principal, by simpa using party, by simpa using origin⟩

/-- What `verify` establishes. -/
theorem verify_ok {crypto : Cryptography} {store : ArtifactStore} {artifacts : store.State}
    {tables : AuthorityTables} {expected : String} {signed : String → Bytes → Prop}
    (unforgeable : Unforgeable crypto signed)
    (accepted : verify crypto store artifacts tables attestation expected = .ok ()) :
    attested attestation "subject_digest" = expected ∧
      ∃ row, NamedCredential tables attestation row ∧
        SignedChallenge crypto (signed row.publicKeyPem) (attested attestation "relying_party_id")
          (attested attestation "origin") (attested attestation "challenge_digest") := by
  simp only [verify, bind_ok, refuse_ok] at accepted
  obtain ⟨_, covers, credential, owned, assertion, _, valid⟩ := accepted
  obtain ⟨row, rfl, named⟩ := ownedCredential_ok owned
  exact ⟨by simpa using covers, row, named, Cryptography.verifyAssertion_ok unforgeable valid⟩

/-! ## What the signature covers -/

/-- What a key is known to have signed: whatever it accepts a signature over. -/
def Cryptography.Accepts (crypto : Cryptography) (pem : String) (message : Bytes) : Prop :=
  ∃ key signature, crypto.publicKey pem = .ok key ∧ key signature message = true

theorem Cryptography.unforgeable_accepts (crypto : Cryptography) :
    Unforgeable crypto crypto.Accepts :=
  fun _ key signature _ loaded valid => ⟨key, signature, loaded, valid⟩

/-- The intent an attestation claims for the subject it is shown for. -/
def attestedIntent (attestation : Json) (subjectDigest : String) : ConfirmationIntent where
  action := attested attestation "action"
  targetDigest := attested attestation "target_digest"
  subjectDigest := subjectDigest
  principalId := attested attestation "principal_id"
  credentialId := attested attestation "credential_id"
  relyingPartyId := attested attestation "relying_party_id"
  origin := attested attestation "origin"

/-- The challenge of an attestation is one of the intent it claims. -/
def Covered (platform : Platform) (attestation : Json) (subjectDigest : String) : Prop :=
  ∃ nonce, challengeDigest platform (attestedIntent attestation subjectDigest) nonce =
    attested attestation "challenge_digest"

/-- The intent that `begin_confirmation` forms for an action, a target, a subject and an
enrolled credential. -/
def enrolledIntent (row : HumanCredentialRow) (action target subjectDigest : String) :
    ConfirmationIntent where
  action := action
  targetDigest := target
  subjectDigest := subjectDigest
  principalId := row.principalId
  credentialId := row.credentialId
  relyingPartyId := row.relyingPartyId
  origin := row.origin

/-- A challenge made for an action, a target, a subject and an enrolled credential. -/
def MadeFor (platform : Platform) (tables : AuthorityTables)
    (challenge action target subjectDigest credentialId : String) : Prop :=
  ∃ row nonce, tables.credential? credentialId = some row ∧
    challengeDigest platform (enrolledIntent row action target subjectDigest) nonce = challenge

/-- The credential of an accepted attestation makes its intent the one begun with it. -/
theorem NamedCredential.attestedIntent_eq {tables : AuthorityTables}
    (named : NamedCredential tables attestation row) (subjectDigest : String) :
    attestedIntent attestation subjectDigest =
      enrolledIntent row (attested attestation "action") (attested attestation "target_digest")
        subjectDigest := by
  simp [attestedIntent, enrolledIntent, named.principal, named.credentialId, named.relyingParty,
    named.origin]

theorem Covered.madeFor {platform : Platform} {tables : AuthorityTables} {subjectDigest : String}
    (named : NamedCredential tables attestation row)
    (covered : Covered platform attestation subjectDigest) :
    MadeFor platform tables (attested attestation "challenge_digest")
      (attested attestation "action") (attested attestation "target_digest") subjectDigest
      (attested attestation "credential_id") := by
  obtain ⟨nonce, derived⟩ := covered
  exact ⟨row, nonce, named.enrolled, named.attestedIntent_eq subjectDigest ▸ derived⟩

/-- An accepted attestation whose challenge was made for some action, target, subject and
credential covers its own claim only if it claims these four. -/
theorem covered_iff_of_madeFor {platform : Platform}
    (collisionFree : Function.Injective platform.sha256) {tables : AuthorityTables}
    {expected : String} (named : NamedCredential tables attestation row)
    {action target subjectDigest credentialId : String}
    (made : MadeFor platform tables (attested attestation "challenge_digest") action target
      subjectDigest credentialId) :
    Covered platform attestation expected ↔
      action = attested attestation "action" ∧ target = attested attestation "target_digest" ∧
        subjectDigest = expected ∧ credentialId = attested attestation "credential_id" := by
  obtain ⟨origin, nonce, enrolled, derived⟩ := made
  constructor
  · rintro ⟨other, claimed⟩
    have same := (challengeDigest_inj collisionFree (derived.trans claimed.symm)).1
    have keyed : origin.key = credentialId := Table.find_key enrolled
    have credential : origin.credentialId = attested attestation "credential_id" :=
      congrArg ConfirmationIntent.credentialId same
    exact ⟨congrArg ConfirmationIntent.action same, congrArg ConfirmationIntent.targetDigest same,
      congrArg ConfirmationIntent.subjectDigest same, keyed.symm.trans credential⟩
  · rintro ⟨rfl, rfl, rfl, rfl⟩
    rw [named.enrolled, Option.some.injEq] at enrolled
    subst enrolled
    exact ⟨nonce, named.attestedIntent_eq subjectDigest ▸ derived⟩

end

namespace Sample

def challengeText : String := "bbbbbbbbbbbbbbbbbbbbbbbbbbbbbbbbbbbbbbbbbbbbbbbbbbbbbbbbbbbbbbbb"

def otherText : String := "cccccccccccccccccccccccccccccccccccccccccccccccccccccccccccccccc"

def credential : HumanCredentialRow where
  credentialId := "hcred_0"
  principalId := "reviewer"
  displayName := "Reviewer"
  publicKeyPem := "pem"
  relyingPartyId := "evidrun.local"
  origin := "https://evidrun.local"
  status := .active
  signCount := 0
  createdAt := 0
  revokedAt := none

def tables : AuthorityTables := ⟨[credential], [], 1⟩

def intent : ConfirmationIntent :=
  enrolledIntent credential "revision.accepted" Contracts.Sample.digestText
    Contracts.Sample.digestText

/-- A hash without collisions that gives the challenge of the intent a digest's form. -/
def platform : Platform where
  sha256 := Equiv.swap (canonicalJson (boundDocument intent "nonce")) challengeText
  uuid7 count := String.ofList (Nat.toDigits 10 count)
  coercion := .strict

theorem platform_collisionFree : Function.Injective platform.sha256 :=
  (Equiv.swap _ _).injective

theorem challengeDigest_intent : challengeDigest platform intent "nonce" = challengeText :=
  Equiv.swap_apply_left _ _

def authenticatorData : Bytes := List.replicate 32 0 ++ [5, 0, 0, 0, 0]

def clientData : Json :=
  .obj [("challenge", .str (String.ofList (b64urlEncode (List.replicate 32 187)))),
    ("origin", .str "https://evidrun.local"), ("type", .str "webauthn.get")]

def assertion : Json :=
  .obj [("authenticator_data", .str (String.ofList (b64urlEncode authenticatorData))),
    ("client_data_json", .str (String.ofList (b64urlEncode [1]))),
    ("signature", .str (String.ofList (b64urlEncode [2])))]

/-- The byte 1 stands for the client data, every other content for the assertion. -/
def crypto : Cryptography where
  sha256 _ := List.replicate 32 0
  utf8 _ := []
  loads bytes := if bytes = [1] then .ok clientData else .ok assertion
  publicKey _ := .ok fun signature _ => signature == [2]

def store : ArtifactStore where
  State := Unit
  put _ _ _ := .ok ("artifact", Contracts.Sample.digestText, ())
  get _ _ := .ok [3]

def attestationDump (action target subjectDigest : String) : Json :=
  .obj [("action", .str action), ("assertion_ref", assertionRef "artifact" Contracts.Sample.digestText),
    ("attestation_id", .str "hatt_0"), ("challenge_digest", .str challengeText),
    ("credential_id", .str "hcred_0"), ("origin", .str "https://evidrun.local"),
    ("principal_id", .str "reviewer"), ("relying_party_id", .str "evidrun.local"),
    ("schema_version", .str "1"), ("subject_digest", .str subjectDigest),
    ("target_digest", .str target), ("user_verification", .str "required_verified"),
    ("verification_method", .str "webauthn"), ("verified_at_utc", .str "2026-01-01T00:00:00Z"),
    ("verifier_ref", verifierRef)]

/-- The attestation of the confirmation the challenge was signed for. -/
def confirmed : HumanAttestationRecord platform where
  dump := attestationDump "revision.accepted" Contracts.Sample.digestText
    Contracts.Sample.digestText
  valid := by decide +kernel

/-- The same signed assertion inside an attestation for another action, target and subject. -/
def replayed : HumanAttestationRecord platform where
  dump := attestationDump "revision.superseded" otherText otherText
  valid := by decide +kernel

end Sample

end Evidrun.Authority
