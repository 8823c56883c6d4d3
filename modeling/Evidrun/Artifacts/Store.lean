import Evidrun.Contracts.Base
import Evidrun.Lib.Directory

/-!
# The artifact store

`ArtifactStore` of `infrastructure/artifacts/store.py`: blobs under their digest, encrypted
payloads in a vault, and one metadata file per artifact. The hash, the cipher, the key
provider and the canonical text of an authority are parameters; identifiers, nonces and
times that a call draws are arguments of the call.
-/

namespace Evidrun.Artifacts

open Evidrun.Contracts DocumentSchema

set_option autoImplicit false

abbrev Bytes : Type := List UInt8

inductive Classification
  | general | internal | sensitive | restricted
deriving DecidableEq

/-- The values of the enumeration; `general` is `PUBLIC`. -/
def Classification.value : Classification → String
  | .general => "public"
  | .internal => "internal"
  | .sensitive => "sensitive"
  | .restricted => "restricted"

inductive Storage
  | cas | encryptedVault
deriving DecidableEq

/-- What, beside the content, identifies a plain artifact. -/
structure Authority where
  projectId : String
  mediaType : String
  classification : Classification
deriving DecidableEq

structure ArtifactPlatform (Key : Type) where
  sha256 : Bytes → String
  /-- The encoded `canonical_json` of an authority. -/
  canonical : Authority → Bytes
  /-- `key_provider.get_or_create`. -/
  key : String → Key
  encrypt : Key → Bytes → Bytes → String → Bytes
  decrypt : Key → Bytes → Bytes → String → Option Bytes

structure Record where
  artifactId : String
  projectId : String
  mediaType : String
  classification : Classification
  storage : Storage
  digest : String
  createdAt : String
  ttlDays : Option Int
  pinned : Bool
deriving DecidableEq

structure Tombstone where
  artifactId : String
  classification : Classification
  digest : String
  purgedAt : String
  reason : String
deriving DecidableEq

/-- The document of a metadata file. -/
inductive Metadata
  | live (record : Record)
  | purged (tombstone : Tombstone)
deriving DecidableEq

/-- The fields that a second put compares; a tombstone has only some of them. -/
structure ImmutableFields where
  artifactId : String
  projectId : Option String
  mediaType : Option String
  classification : Classification
  storage : Option Storage
  digest : String
deriving DecidableEq

def Metadata.immutableFields : Metadata → ImmutableFields
  | .live record => ⟨record.artifactId, some record.projectId, some record.mediaType,
      record.classification, some record.storage, record.digest⟩
  | .purged tombstone =>
      ⟨tombstone.artifactId, none, none, tombstone.classification, none, tombstone.digest⟩

structure ArtifactStore where
  cas : Directory String Bytes
  vault : Directory String Bytes
  metadata : Directory String Metadata

def ArtifactStore.empty : ArtifactStore := ⟨.empty, .empty, .empty⟩

inductive Fault
  | valueError (message : String)
  | permissionError (message : String)
  | validationError
  | keyError
  | fileNotFound
  | invalidTag
deriving DecidableEq

section Operations

variable {Key : Type} (platform : ArtifactPlatform Key)

/-! ## Put -/

structure PutCall where
  content : Bytes
  projectId : String
  mediaType : String
  classification : Classification
  rawAuthorized : Bool
  ttlDays : Int
  /-- Drawn by `new_id("art")`. -/
  artifactId : String
  /-- Drawn by `secrets.token_bytes(12)`. -/
  nonce : Bytes
  createdAt : String

def PutCall.authority (call : PutCall) : Authority :=
  ⟨call.projectId, call.mediaType, call.classification⟩

def authorityDigest (authority : Authority) : String :=
  String.ofList ((platform.sha256 (platform.canonical authority)).toList.take 16)

def casId (content : Bytes) (authority : Authority) : String :=
  "art_" ++ platform.sha256 content ++ "_" ++ authorityDigest platform authority

def PutCall.encrypted (call : PutCall) : Bytes :=
  platform.encrypt (platform.key call.projectId) call.nonce call.content call.artifactId

/-- The metadata of a call. -/
def PutCall.record (call : PutCall) : Record :=
  let sensitive := call.classification = .sensitive
  { artifactId := if sensitive then call.artifactId
      else casId platform call.content call.authority
    projectId := call.projectId
    mediaType := call.mediaType
    classification := call.classification
    storage := if sensitive then .encryptedVault else .cas
    digest := if sensitive then platform.sha256 (call.encrypted platform)
      else platform.sha256 call.content
    createdAt := call.createdAt
    ttlDays := if sensitive then some call.ttlDays else none
    pinned := false }

/-- The content, before the metadata is published. -/
def writeContent (call : PutCall) (store : ArtifactStore) : ArtifactStore :=
  if call.classification = .sensitive then
    { store with vault := store.vault.write call.artifactId (call.nonce ++ call.encrypted platform) }
  else match store.cas.read (platform.sha256 call.content) with
    | some _ => store
    | none => { store with cas := store.cas.write (platform.sha256 call.content) call.content }

def publish (record : Record) (store : ArtifactStore) : Except Fault Record × ArtifactStore :=
  match store.metadata.read record.artifactId with
  | some existing =>
      if existing.immutableFields = (Metadata.live record).immutableFields then
        match existing with
        | .live existing => (.ok existing, store)
        | .purged _ => (.error .keyError, store)
      else
        (.error (.valueError "artifact identity collides with different immutable metadata"), store)
  | none =>
      (.ok record,
        { store with metadata := store.metadata.write record.artifactId (.live record) })

/-- What is refused before anything is written. -/
def PutCall.refusal (call : PutCall) : Option Fault :=
  if call.classification = .restricted then
    some (.valueError "restricted content cannot be persisted")
  else if call.classification = .sensitive ∧ call.ttlDays < 1 then
    some (.valueError "sensitive artifact ttl_days must be positive")
  else if call.classification = .sensitive ∧ call.rawAuthorized = false then
    some (.permissionError "sensitive raw capture requires explicit authorization")
  else none

def put (call : PutCall) (store : ArtifactStore) : Except Fault Record × ArtifactStore :=
  match call.refusal with
  | some fault => (.error fault, store)
  | none => publish (call.record platform) (writeContent platform call store)

structure ArtifactRef where
  artifactId : String
  digest : String
  mediaType : String
  classification : Classification
deriving DecidableEq

/-- The validated `ArtifactRef`. -/
def ArtifactRef.make (artifactId digest mediaType : String) (classification : Classification) :
    Except Fault ArtifactRef :=
  if strip artifactId = "" ∨ isDigest digest = false ∨ strip mediaType = "" then
    .error .validationError
  else .ok ⟨strip artifactId, digest, strip mediaType, classification⟩

def putRef (call : PutCall) (store : ArtifactStore) : Except Fault ArtifactRef × ArtifactStore :=
  match put platform call store with
  | (.error fault, after) => (.error fault, after)
  | (.ok record, after) =>
      (ArtifactRef.make record.artifactId record.digest record.mediaType call.classification, after)

/-! ## Get -/

def isInvalidId (artifactId : String) : Bool :=
  '/' ∈ artifactId.toList || '\\' ∈ artifactId.toList || artifactId.toList.head? = some '.'

def metadataOf (artifactId : String) (store : ArtifactStore) : Except Fault Metadata :=
  if isInvalidId artifactId then .error (.valueError "invalid artifact id")
  else match store.metadata.read artifactId with
    | some document => .ok document
    | none => .error .fileNotFound

def readBlob (files : Directory String Bytes) (name : String) : Except Fault Bytes :=
  match files.read name with
  | some content => .ok content
  | none => .error .fileNotFound

def get (artifactId : String) (store : ArtifactStore) : Except Fault Bytes := do
  match ← metadataOf artifactId store with
  | .purged _ => .error .keyError
  | .live record =>
      if record.storage = .cas then readBlob store.cas record.digest
      else do
        let payload ← readBlob store.vault artifactId
        match platform.decrypt (platform.key record.projectId) (payload.take 12) (payload.drop 12)
            artifactId with
        | some content => .ok content
        | none => .error .invalidTag

def mismatch : Fault := .valueError "artifact metadata does not match its canonical reference"

def getVerified (reference : ArtifactRef) (projectId : Option String) (store : ArtifactStore) :
    Except Fault Bytes := do
  match ← metadataOf reference.artifactId store with
  | .purged _ => .error mismatch
  | .live record =>
      if record.mediaType ≠ reference.mediaType ∨ record.classification ≠ reference.classification ∨
          record.digest ≠ reference.digest ∨ (∃ project ∈ projectId, record.projectId ≠ project) then
        .error mismatch
      else if record.storage = .cas then do
        let content ← get platform reference.artifactId store
        if platform.sha256 content ≠ reference.digest then
          .error (.valueError "artifact content digest does not match its canonical reference")
        else .ok content
      else do
        let payload ← readBlob store.vault reference.artifactId
        if payload.length < 13 ∨ platform.sha256 (payload.drop 12) ≠ reference.digest then
          .error (.valueError "encrypted artifact digest does not match its canonical reference")
        else get platform reference.artifactId store

/-! ## Purge -/

def Metadata.isLiveCasReference (digest : String) : Metadata → Bool
  | .live record => record.storage = .cas && record.digest = digest
  | .purged _ => false

def hasLiveReference (artifactId digest : String) (store : ArtifactStore) : Bool :=
  store.metadata.entries.any fun entry =>
    entry.1 ≠ artifactId && entry.2.isLiveCasReference digest

/-- The payload of a record, unless another artifact needs it. -/
def unlinkContent (artifactId : String) (record : Record) (store : ArtifactStore) : ArtifactStore :=
  if record.storage = .cas then
    if hasLiveReference artifactId record.digest store then store
    else { store with cas := store.cas.unlink record.digest }
  else { store with vault := store.vault.unlink artifactId }

def Record.tombstone (record : Record) (artifactId purgedAt : String) : Tombstone where
  artifactId := artifactId
  classification := record.classification
  digest := record.digest
  purgedAt := purgedAt
  reason := "retention_expired_or_user_requested"

def purge (artifactId purgedAt : String) (store : ArtifactStore) :
    Except Fault Tombstone × ArtifactStore :=
  match metadataOf artifactId store with
  | .error fault => (.error fault, store)
  | .ok (.purged _) => (.error .keyError, store)
  | .ok (.live record) =>
      let tombstone := record.tombstone artifactId purgedAt
      let store := unlinkContent artifactId record store
      (.ok tombstone,
        { store with metadata := store.metadata.write artifactId (.purged tombstone) })

end Operations

/-! ## The record of a call -/

section Fields

variable {Key : Type} (platform : ArtifactPlatform Key) {call : PutCall}

theorem record_sensitive (sensitive : call.classification = .sensitive) :
    (call.record platform).artifactId = call.artifactId ∧
      (call.record platform).storage = .encryptedVault ∧
      (call.record platform).digest = platform.sha256 (call.encrypted platform) := by
  simp [PutCall.record, sensitive]

theorem record_plain (plain : call.classification ≠ .sensitive) :
    (call.record platform).artifactId = casId platform call.content call.authority ∧
      (call.record platform).storage = .cas ∧
      (call.record platform).digest = platform.sha256 call.content := by
  simp [PutCall.record, plain]

end Fields

namespace Sample

/-- A hash that tells apart the empty content only; the cipher puts a tag in front. -/
def platform : ArtifactPlatform Unit where
  sha256 content := String.ofList (List.replicate 64 (if content = [] then '0' else '1'))
  canonical authority := if authority.projectId = "p" then [] else [1]
  key _ := ()
  encrypt _ _ content _ := 0 :: content
  decrypt _ _ encrypted _ := some encrypted.tail

def authority : Authority := ⟨"p", "text/plain", .internal⟩

def artifactId : String := "art_00000000-0000-7000-8000-000000000000"

/-- Put the empty content for a Project. -/
def callFor (projectId : String) : PutCall where
  content := []
  projectId := projectId
  mediaType := "text/plain"
  classification := .internal
  rawAuthorized := false
  ttlDays := 30
  artifactId := artifactId
  nonce := List.replicate 12 0
  createdAt := "t"

def call : PutCall := callFor "p"

end Sample

end Evidrun.Artifacts
