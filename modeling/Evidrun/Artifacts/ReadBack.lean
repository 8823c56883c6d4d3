import Evidrun.Artifacts.Store

/-!
# What was put is read back

Over any sequence of calls of one process. A put fails on an identifier that was purged,
since the tombstone lacks the fields that a second put compares, and on a media type that
is blank. A media type with white space around it is stored as it is and trimmed in the
reference, so the reference does not match its own metadata.

Hashes are assumed to tell apart what the run stores, not all byte strings.
-/

namespace Evidrun.Artifacts

open Evidrun.Contracts DocumentSchema

set_option autoImplicit false

/-! ## Identifiers -/

/-- The characters of an identifier. -/
def isIdChar (char : Char) : Bool :=
  isLowerHex char || char = '-' || char = '_' || char = 'r' || char = 't'

theorem isIdChar_of_isLowerHex {char : Char} (hex : isLowerHex char = true) :
    isIdChar char = true := by
  simp [isIdChar, hex]

/-- None of them is white space, a separator or a dot. -/
theorem visible_of_isIdChar {char : Char} (plain : isIdChar char = true) :
    isWhitespace char = false ∧ char ≠ '/' ∧ char ≠ '\\' ∧ char ≠ '.' := by
  have code : char.toNat = 45 ∨ char.toNat = 95 ∨ (48 ≤ char.toNat ∧ char.toNat ≤ 57) ∨
      (97 ≤ char.toNat ∧ char.toNat ≤ 116) := by
    simp only [isIdChar, isLowerHex, Char.isDigit, Bool.or_eq_true, Bool.and_eq_true,
      decide_eq_true_eq, Char.le_def, UInt32.le_iff_toNat_le, ge_iff_le] at plain
    rcases plain with ((((digit | letter) | rfl) | rfl) | rfl) | rfl
    · exact .inr (.inr (.inl digit))
    · change 97 ≤ char.val.toNat ∧ char.val.toNat ≤ 102 at letter
      exact .inr (.inr (.inr ⟨letter.1, letter.2.trans (by decide)⟩))
    all_goals decide
  refine ⟨?_, ?_, ?_, ?_⟩
  · simp [isWhitespace]
    omega
  all_goals
    rintro rfl
    revert code
    decide

/-- An identifier that the store can use as a name and a reference keeps as it is. -/
structure PlainId (artifactId : String) : Prop where
  chars : ∀ char ∈ artifactId.toList, isIdChar char = true
  named : artifactId ≠ ""

theorem PlainId.strip {artifactId : String} (plain : PlainId artifactId) :
    strip artifactId = artifactId :=
  strip_of_visible fun char inside => (visible_of_isIdChar (plain.chars char inside)).1

theorem PlainId.valid {artifactId : String} (plain : PlainId artifactId) :
    isInvalidId artifactId = false := by
  have absent {char : Char} (excluded : ∀ other, isIdChar other = true → other ≠ char) :
      char ∉ artifactId.toList := fun inside => excluded char (plain.chars char inside) rfl
  have slash := absent fun other ok => (visible_of_isIdChar ok).2.1
  have backslash := absent fun other ok => (visible_of_isIdChar ok).2.2.1
  have dot := absent fun other ok => (visible_of_isIdChar ok).2.2.2
  have first : artifactId.toList.head? ≠ some '.' := fun head => dot (List.mem_of_mem_head? head)
  simp [isInvalidId, slash, backslash, first]

section ReadBack

variable {Key : Type} (platform : ArtifactPlatform Key)

/-- What is assumed of the hash and the cipher, on the contents and authorities of a run. -/
structure Sound (contents : Set Bytes) (authorities : Set Authority) : Prop where
  digests : ∀ content, isDigest (platform.sha256 content) = true
  contents : Set.InjOn platform.sha256 contents
  authorities : Set.InjOn (authorityDigest platform) authorities
  /-- AES-GCM appends a tag. -/
  tagged : ∀ key nonce content associated, platform.encrypt key nonce content associated ≠ []
  inverse : ∀ key nonce content associated,
    platform.decrypt key nonce (platform.encrypt key nonce content associated) associated =
      some content

variable {platform} {contents : Set Bytes} {authorities : Set Authority}

theorem isDigest_iff {text : String} :
    isDigest text = true ↔ text.toList.length = 64 ∧ ∀ char ∈ text.toList, isLowerHex char := by
  simp [isDigest]

variable (platform) in
theorem casId_toList (content : Bytes) (authority : Authority) :
    (casId platform content authority).toList = "art_".toList ++
      ((platform.sha256 content).toList ++ ('_' ::
        (platform.sha256 (platform.canonical authority)).toList.take 16)) := by
  simp [casId, authorityDigest]

namespace Sound

variable (sound : Sound platform contents authorities)
include sound

theorem casId_plain (content : Bytes) (authority : Authority) :
    PlainId (casId platform content authority) := by
  refine ⟨fun char inside => ?_, fun empty => ?_⟩
  · rw [casId_toList] at inside
    have hex (bytes : Bytes) (char : Char) (inside : char ∈ (platform.sha256 bytes).toList) :
        isIdChar char = true :=
      isIdChar_of_isLowerHex ((isDigest_iff.mp (sound.digests bytes)).2 char inside)
    rcases List.mem_append.mp inside with start | rest
    · exact List.all_eq_true.mp (by decide : "art_".toList.all isIdChar = true) char start
    · rcases List.mem_append.mp rest with digest | rest
      · exact hex _ char digest
      · rcases List.mem_cons.mp rest with rfl | authority
        · decide
        · exact hex _ char (List.mem_of_mem_take authority)
  · have chars := casId_toList platform content authority
    rw [empty] at chars
    exact absurd chars (by simp)

theorem casId_length (content : Bytes) (authority : Authority) :
    (casId platform content authority).toList.length = 85 := by
  have digest := (isDigest_iff.mp (sound.digests content)).1
  have authority := (isDigest_iff.mp (sound.digests (platform.canonical authority))).1
  rw [casId_toList]
  simp only [List.length_append, List.length_cons, List.length_take, digest, authority]
  decide

/-- An identifier of a plain artifact names its content and its authority. -/
theorem casId_inj {content other : Bytes} {authority differing : Authority}
    (inside : content ∈ contents) (inside' : other ∈ contents) (allowed : authority ∈ authorities)
    (allowed' : differing ∈ authorities)
    (same : casId platform content authority = casId platform other differing) :
    content = other ∧ authority = differing := by
  have chars := congrArg String.toList same
  rw [casId_toList, casId_toList] at chars
  have lengths (bytes : Bytes) := (isDigest_iff.mp (sound.digests bytes)).1
  obtain ⟨digests, rest⟩ := List.append_inj (List.append_cancel_left chars)
    ((lengths content).trans (lengths other).symm)
  refine ⟨sound.contents inside inside' (String.toList_inj.mp digests), ?_⟩
  exact sound.authorities allowed allowed'
    (congrArg String.ofList (List.cons.inj rest).2)

end Sound

/-! ## Calls -/

/-- A call over these contents and authorities; `new_id("art")` is a prefix and a UUID. -/
structure PutCall.Formed (contents : Set Bytes) (authorities : Set Authority) (call : PutCall) :
    Prop where
  content : call.content ∈ contents
  authority : call.authority ∈ authorities
  plain : PlainId call.artifactId
  length : call.artifactId.toList.length = 40
  nonce : call.nonce.length = 12
  authorized : call.classification = .sensitive → call.rawAuthorized = true

/-- Its identifier was not drawn before. -/
structure PutCall.Drawn (contents : Set Bytes) (authorities : Set Authority) (call : PutCall)
    (store : ArtifactStore) : Prop extends PutCall.Formed contents authorities call where
  fresh : store.metadata.read call.artifactId = none

def Metadata.isTombstone : Metadata → Bool
  | .live _ => false
  | .purged _ => true

/-- The media type is trimmed, a lifetime is positive, and the artifact was not purged. -/
structure PutCall.Storable (platform : ArtifactPlatform Key) (call : PutCall)
    (store : ArtifactStore) : Prop where
  mediaType : Trimmed call.mediaType
  ttlDays : call.classification = .sensitive → 1 ≤ call.ttlDays
  unpurged : call.classification ≠ .sensitive → ∀ document,
    store.metadata.read (casId platform call.content call.authority) = some document →
      document.isTombstone = false

/-- What a successful call returns. -/
def PutCall.reference (platform : ArtifactPlatform Key) (call : PutCall) : ArtifactRef where
  artifactId := (call.record platform).artifactId
  digest := (call.record platform).digest
  mediaType := call.mediaType
  classification := call.classification

/-- The content of a call is where its record says. -/
def Payload (platform : ArtifactPlatform Key) (call : PutCall) (store : ArtifactStore) : Prop :=
  if call.classification = .sensitive then
    store.vault.read call.artifactId = some (call.nonce ++ call.encrypted platform)
  else store.cas.read (platform.sha256 call.content) = some call.content

/-- The metadata of a call, published by it or by an earlier one for the same artifact. -/
def Published (platform : ArtifactPlatform Key) (call : PutCall) (store : ArtifactStore) : Prop :=
  ∃ createdAt, store.metadata.read (call.record platform).artifactId =
    some (.live { call.record platform with createdAt })

section Reads

variable {store : ArtifactStore} {reference : ArtifactRef} {record : Record}

theorem get_cas {content : Bytes}
    (found : metadataOf reference.artifactId store = .ok (.live record))
    (storage : record.storage = .cas) (blob : store.cas.read record.digest = some content) :
    get platform reference.artifactId store = .ok content := by
  simp only [get, found, bind, Except.bind, storage, if_true, readBlob, blob]

theorem get_vault {payload content : Bytes}
    (found : metadataOf reference.artifactId store = .ok (.live record))
    (storage : record.storage = .encryptedVault)
    (blob : store.vault.read reference.artifactId = some payload)
    (decrypted : platform.decrypt (platform.key record.projectId) (payload.take 12)
      (payload.drop 12) reference.artifactId = some content) :
    get platform reference.artifactId store = .ok content := by
  simp [get, found, bind, Except.bind, storage, readBlob, blob, decrypted]

/-- The metadata says what the reference says. -/
def Matches (record : Record) (reference : ArtifactRef) (projectId : String) : Prop :=
  record.mediaType = reference.mediaType ∧ record.classification = reference.classification ∧
    record.digest = reference.digest ∧ record.projectId = projectId

theorem getVerified_cas {content : Bytes} {projectId : String}
    (found : metadataOf reference.artifactId store = .ok (.live record))
    (agrees : Matches record reference projectId) (storage : record.storage = .cas)
    (blob : store.cas.read record.digest = some content)
    (digest : platform.sha256 content = reference.digest) :
    getVerified platform reference (some projectId) store = .ok content := by
  obtain ⟨mediaType, classification, recorded, project⟩ := agrees
  have read : get platform reference.artifactId store = .ok content := get_cas found storage blob
  simp [getVerified, found, bind, Except.bind, mediaType, classification, recorded, project,
    storage, read, digest]

theorem getVerified_vault {nonce encrypted content : Bytes} {projectId : String}
    (found : metadataOf reference.artifactId store = .ok (.live record))
    (agrees : Matches record reference projectId) (storage : record.storage = .encryptedVault)
    (blob : store.vault.read reference.artifactId = some (nonce ++ encrypted))
    (length : nonce.length = 12) (tagged : encrypted ≠ [])
    (digest : platform.sha256 encrypted = reference.digest)
    (decrypted : platform.decrypt (platform.key record.projectId) nonce encrypted
      reference.artifactId = some content) :
    getVerified platform reference (some projectId) store = .ok content := by
  obtain ⟨mediaType, classification, recorded, project⟩ := agrees
  have first : (nonce ++ encrypted).take 12 = nonce := by rw [← length, List.take_left]
  have rest : (nonce ++ encrypted).drop 12 = encrypted := by rw [← length, List.drop_left]
  have long : 13 ≤ nonce.length + encrypted.length := by
    have some_tag := List.length_pos_iff.mpr tagged
    omega
  have read : get platform reference.artifactId store = .ok content :=
    get_vault found storage blob (by rw [first, rest, decrypted])
  simp [getVerified, found, bind, Except.bind, mediaType, classification, recorded, project,
    storage, readBlob, blob, long, rest, digest, read]

end Reads

/-- A published artifact with its content is read back by the reference of its call. -/
theorem getVerified_reference {call : PutCall} {store : ArtifactStore}
    (sound : Sound platform contents authorities)
    (plainId : PlainId (call.record platform).artifactId) (nonce : call.nonce.length = 12)
    (published : Published platform call store) (payload : Payload platform call store) :
    getVerified platform (call.reference platform) (some call.projectId) store =
      .ok call.content := by
  obtain ⟨createdAt, stored⟩ := published
  have found : metadataOf (call.reference platform).artifactId store =
      .ok (.live { call.record platform with createdAt }) := by
    rw [PutCall.reference, metadataOf, plainId.valid, stored]
    rfl
  have agrees : Matches { call.record platform with createdAt } (call.reference platform)
      call.projectId := ⟨rfl, rfl, rfl, rfl⟩
  by_cases sensitive : call.classification = .sensitive
  · obtain ⟨artifactId, storage, digest⟩ := record_sensitive platform sensitive
    rw [Payload, if_pos sensitive, ← artifactId] at payload
    refine getVerified_vault found agrees storage payload nonce (sound.tagged _ _ _ _) digest.symm ?_
    change platform.decrypt _ _ _ (call.record platform).artifactId = _
    rw [artifactId]
    exact sound.inverse _ _ _ _
  · obtain ⟨artifactId, storage, digest⟩ := record_plain platform sensitive
    rw [Payload, if_neg sensitive, ← digest] at payload
    exact getVerified_cas found agrees storage payload digest.symm

/-! ## Histories -/

/-- A completed call. -/
inductive Touch
  | put (reference : ArtifactRef) (call : PutCall)
  | purge (artifactId : String)

def Touch.artifactId : Touch → String
  | .put reference _ => reference.artifactId
  | .purge artifactId => artifactId

structure History where
  store : ArtifactStore
  touches : List Touch

def History.empty : History := ⟨.empty, []⟩

def History.put (platform : ArtifactPlatform Key) (call : PutCall) (history : History) : History :=
  match putRef platform call history.store with
  | (.ok reference, store) => ⟨store, history.touches ++ [.put reference call]⟩
  | (.error _, store) => ⟨store, history.touches⟩

def History.purge (artifactId purgedAt : String) (history : History) : History :=
  match Artifacts.purge artifactId purgedAt history.store with
  | (.ok _, store) => ⟨store, history.touches ++ [.purge artifactId]⟩
  | (.error _, store) => ⟨store, history.touches⟩

/-- The latest completed call for an identifier. -/
def lastTouch (artifactId : String) (touches : List Touch) : Option Touch :=
  touches.reverse.find? fun touch => touch.artifactId = artifactId

theorem lastTouch_concat (artifactId : String) (touches : List Touch) (touch : Touch) :
    lastTouch artifactId (touches ++ [touch]) =
      if touch.artifactId = artifactId then some touch else lastTouch artifactId touches := by
  by_cases same : touch.artifactId = artifactId <;> simp [lastTouch, same]

/-- The runs whose puts of content that is not restricted meet a guard. -/
inductive Run (platform : ArtifactPlatform Key) (contents : Set Bytes)
    (authorities : Set Authority) (guard : PutCall → ArtifactStore → Prop) : History → Prop
  | start : Run platform contents authorities guard .empty
  | put {history : History} {call : PutCall} : Run platform contents authorities guard history →
      call.Drawn contents authorities history.store →
      (call.classification ≠ .restricted → guard call history.store) →
      Run platform contents authorities guard (history.put platform call)
  | purge {history : History} {artifactId purgedAt : String} :
      Run platform contents authorities guard history →
      Run platform contents authorities guard (history.purge artifactId purgedAt)

/-- The artifact was purged and not put again. -/
def Purged (artifactId : String) (history : History) : Prop :=
  lastTouch artifactId history.touches = some (.purge artifactId) ∧
    ∃ tombstone, history.store.metadata.read artifactId = some (.purged tombstone)

structure Intact (platform : ArtifactPlatform Key) (contents : Set Bytes)
    (authorities : Set Authority) (history : History) : Prop where
  /-- What was put is there until it is purged. -/
  touched : ∀ reference call, .put reference call ∈ history.touches →
    reference = call.reference platform ∧ call.Formed contents authorities ∧
      (Published platform call history.store ∧ Payload platform call history.store ∨
        Purged reference.artifactId history)
  /-- Live metadata was put. -/
  published : ∀ artifactId record, history.store.metadata.read artifactId = some (.live record) →
    ∃ call createdAt, .put (call.reference platform) call ∈ history.touches ∧
      artifactId = (call.record platform).artifactId ∧
      record = { call.record platform with createdAt }
  /-- A blob is stored under its digest. -/
  blobs : ∀ digest content, history.store.cas.read digest = some content →
    content ∈ contents ∧ digest = platform.sha256 content

theorem Intact.empty : Intact platform contents authorities .empty where
  touched := by simp [History.empty]
  published := by simp [History.empty, ArtifactStore.empty]
  blobs := by simp [History.empty, ArtifactStore.empty]

/-! ## A put -/

section Put

variable {call : PutCall} {store : ArtifactStore}

theorem writeContent_metadata :
    (writeContent platform call store).metadata = store.metadata := by
  unfold writeContent
  split_ifs
  · rfl
  · split <;> rfl

theorem writeContent_vault {artifactId : String} (differ : artifactId ≠ call.artifactId) :
    (writeContent platform call store).vault.read artifactId = store.vault.read artifactId := by
  unfold writeContent
  split_ifs
  · exact Directory.read_write_other _ _ differ
  · split <;> rfl

/-- A blob that is there stays. -/
theorem writeContent_cas {digest : String} {content : Bytes}
    (stored : store.cas.read digest = some content) :
    (writeContent platform call store).cas.read digest = some content := by
  unfold writeContent
  split_ifs
  · exact stored
  · split
    · exact stored
    · next absent =>
        have differ : digest ≠ platform.sha256 call.content := fun same => by
          rw [← same, stored] at absent
          cases absent
        exact (Directory.read_write_other _ _ differ).trans stored

/-- The only new blob is that of the call. -/
theorem writeContent_blob {digest : String} {content : Bytes}
    (stored : (writeContent platform call store).cas.read digest = some content) :
    store.cas.read digest = some content ∨
      content = call.content ∧ digest = platform.sha256 call.content := by
  unfold writeContent at stored
  split_ifs at stored
  · exact .inl stored
  · split at stored
    · exact .inl stored
    · by_cases same : digest = platform.sha256 call.content
      · subst same
        rw [Directory.read_write_self] at stored
        exact .inr ⟨(Option.some.inj stored).symm, rfl⟩
      · rw [Directory.read_write_other _ _ same] at stored
        exact .inl stored

theorem writeContent_payload (sound : Sound platform contents authorities)
    (inside : call.content ∈ contents)
    (blobs : ∀ digest content, store.cas.read digest = some content →
      content ∈ contents ∧ digest = platform.sha256 content) :
    Payload platform call (writeContent platform call store) := by
  unfold Payload writeContent
  split_ifs
  · exact Directory.read_write_self _ _ _
  · split
    · next content stored =>
        obtain ⟨stored_inside, digest⟩ := blobs _ content stored
        rw [stored, sound.contents inside stored_inside digest]
    · exact Directory.read_write_self _ _ _

theorem writeContent_keeps {other : PutCall} (kept : Payload platform other store)
    (differ : other.classification = .sensitive → other.artifactId ≠ call.artifactId) :
    Payload platform other (writeContent platform call store) := by
  unfold Payload at kept ⊢
  split_ifs with sensitive
  · rw [if_pos sensitive] at kept
    rwa [writeContent_vault (differ sensitive)]
  · rw [if_neg sensitive] at kept
    exact writeContent_cas kept

/-- A record that is new, or there already, is published. -/
theorem publish_ok {record : Record} (room : store.metadata.read record.artifactId = none ∨
    ∃ createdAt, store.metadata.read record.artifactId =
      some (.live { record with createdAt })) :
    ∃ createdAt, (publish record store).1 = .ok { record with createdAt } ∧
      (publish record store).2.metadata.read record.artifactId =
        some (.live { record with createdAt }) := by
  rcases room with absent | ⟨createdAt, present⟩
  · exact ⟨record.createdAt, by simp [publish, absent], by simp [publish, absent]⟩
  · have same : (Metadata.live { record with createdAt }).immutableFields =
        (Metadata.live record).immutableFields := rfl
    exact ⟨createdAt, by simp [publish, present, same], by simp [publish, present, same]⟩

theorem publish_cas (record : Record) : (publish record store).2.cas = store.cas := by
  unfold publish
  repeat' split
  all_goals rfl

theorem publish_vault (record : Record) : (publish record store).2.vault = store.vault := by
  unfold publish
  repeat' split
  all_goals rfl

/-- Metadata that is there stays. -/
theorem publish_keeps {record : Record} {artifactId : String} {document : Metadata}
    (stored : store.metadata.read artifactId = some document) :
    (publish record store).2.metadata.read artifactId = some document := by
  unfold publish
  split
  · repeat' split
    all_goals exact stored
  · next absent =>
      have differ : artifactId ≠ record.artifactId := fun same => by
        rw [← same, stored] at absent
        cases absent
      exact (Directory.read_write_other _ _ differ).trans stored

/-- The only new metadata is that of the record. -/
theorem publish_other {record : Record} {artifactId : String}
    (differ : artifactId ≠ record.artifactId) :
    (publish record store).2.metadata.read artifactId = store.metadata.read artifactId := by
  unfold publish
  split
  · repeat' split
    all_goals rfl
  · exact Directory.read_write_other _ _ differ

/-- Plain calls for one artifact have the same record, up to its time. -/
theorem record_congr {other : PutCall} (plain : call.classification ≠ .sensitive)
    (content : other.content = call.content) (authority : other.authority = call.authority) :
    other.record platform =
      { call.record platform with createdAt := other.createdAt } := by
  obtain ⟨project, mediaType, classification⟩ :
      other.projectId = call.projectId ∧ other.mediaType = call.mediaType ∧
        other.classification = call.classification := by
    simpa [PutCall.authority] using authority
  simp [PutCall.record, plain, content, authority, project, mediaType, classification]

theorem record_plainId (sound : Sound platform contents authorities)
    (formed : call.Formed contents authorities) :
    PlainId (call.record platform).artifactId := by
  by_cases sensitive : call.classification = .sensitive
  · rw [(record_sensitive platform sensitive).1]
    exact formed.plain
  · rw [(record_plain platform sensitive).1]
    exact sound.casId_plain _ _

/-- Under the identifier of a call there is nothing, or its own record. -/
theorem Intact.room {history : History} (intact : Intact platform contents authorities history)
    (sound : Sound platform contents authorities)
    (drawn : call.Drawn contents authorities history.store)
    (storable : call.Storable platform history.store) :
    history.store.metadata.read (call.record platform).artifactId = none ∨
      ∃ createdAt, history.store.metadata.read (call.record platform).artifactId =
        some (.live { call.record platform with createdAt }) := by
  by_cases sensitive : call.classification = .sensitive
  · rw [(record_sensitive platform sensitive).1]
    exact .inl drawn.fresh
  · cases stored : history.store.metadata.read (call.record platform).artifactId with
    | none => exact .inl rfl
    | some document =>
        have artifactId := (record_plain platform sensitive).1
        cases document with
        | purged tombstone =>
            have live := storable.unpurged sensitive _ (artifactId ▸ stored)
            simp [Metadata.isTombstone] at live
        | live record =>
            obtain ⟨other, createdAt, put, named, rfl⟩ := intact.published _ _ stored
            have formed := (intact.touched _ _ put).2.1
            have plain : other.classification ≠ .sensitive := fun vaulted => by
              have length := congrArg (fun id => id.toList.length) (artifactId.symm.trans named)
              rw [(record_sensitive platform vaulted).1] at length
              exact absurd ((sound.casId_length _ _).symm.trans (length.trans formed.length))
                (by decide)
            rw [(record_plain platform plain).1] at named
            obtain ⟨content, authority⟩ := sound.casId_inj drawn.content formed.content
              drawn.authority formed.authority (artifactId.symm.trans named)
            rw [record_congr sensitive content.symm authority.symm]
            exact .inr ⟨createdAt, rfl⟩

theorem refusal_none (drawn : call.Drawn contents authorities store)
    (storable : call.Storable platform store) (allowed : call.classification ≠ .restricted) :
    call.refusal = none := by
  have positive : ¬ (call.classification = .sensitive ∧ call.ttlDays < 1) := fun refused =>
    absurd (storable.ttlDays refused.1) (not_le.mpr refused.2)
  have authorized : ¬ (call.classification = .sensitive ∧ call.rawAuthorized = false) :=
    fun refused => by simpa [refused.2] using drawn.authorized refused.1
  rw [PutCall.refusal, if_neg allowed, if_neg positive, if_neg authorized]

/-- A storable call succeeds, and its artifact is there. -/
theorem Intact.putRef_ok {history : History} (intact : Intact platform contents authorities history)
    (sound : Sound platform contents authorities)
    (drawn : call.Drawn contents authorities history.store)
    (storable : call.Storable platform history.store)
    (allowed : call.classification ≠ .restricted) :
    putRef platform call history.store = (.ok (call.reference platform),
        (publish (call.record platform) (writeContent platform call history.store)).2) ∧
      Published platform call
        (publish (call.record platform) (writeContent platform call history.store)).2 := by
  have room := intact.room sound drawn storable
  have kept : (writeContent platform call history.store).metadata = history.store.metadata :=
    writeContent_metadata
  rw [← kept] at room
  obtain ⟨createdAt, returned, stored⟩ := publish_ok room
  refine ⟨?_, createdAt, stored⟩
  have plainId := record_plainId sound drawn.toFormed
  have digest : isDigest (call.record platform).digest = true := by
    rw [PutCall.record]
    dsimp only
    split_ifs <;> exact sound.digests _
  have made : ArtifactRef.make (call.record platform).artifactId (call.record platform).digest
      call.mediaType call.classification = .ok (call.reference platform) := by
    rw [ArtifactRef.make, plainId.strip, storable.mediaType.1, if_neg]
    · rfl
    · simp [plainId.named, digest, storable.mediaType.2]
  have returned_eq : put platform call history.store =
      (.ok { call.record platform with createdAt },
        (publish (call.record platform) (writeContent platform call history.store)).2) := by
    rw [put, refusal_none drawn storable allowed, ← returned]
  rw [putRef, returned_eq]
  dsimp only
  rw [← made]
  rfl

theorem putRef_refused {fault : Fault} (refused : call.refusal = some fault) :
    putRef platform call store = (.error fault, store) := by
  rw [putRef, put, refused]

end Put

/-! ## The steps -/

section

variable {history : History} {store : ArtifactStore} {record : Record}

theorem Intact.put {call : PutCall} (intact : Intact platform contents authorities history)
    (sound : Sound platform contents authorities)
    (drawn : call.Drawn contents authorities history.store)
    (storable : call.classification ≠ .restricted → call.Storable platform history.store) :
    Intact platform contents authorities (history.put platform call) := by
  by_cases restricted : call.classification = .restricted
  · have refused : call.refusal = some (.valueError "restricted content cannot be persisted") :=
      if_pos restricted
    rw [History.put, putRef_refused refused]
    exact intact
  have storable := storable restricted
  obtain ⟨returned, published⟩ := intact.putRef_ok sound drawn storable restricted
  rw [History.put, returned]
  have metadata : (writeContent platform call history.store).metadata = history.store.metadata :=
    writeContent_metadata
  have payload : Payload platform call
      (publish (call.record platform) (writeContent platform call history.store)).2 := by
    have written := writeContent_payload sound drawn.content intact.blobs
    rw [Payload] at written ⊢
    rwa [publish_cas, publish_vault]
  refine ⟨fun reference other inside => ?_, fun artifactId record stored => ?_, ?_⟩
  · rcases List.mem_append.mp inside with before | last
    · obtain ⟨referenced, formed, state⟩ := intact.touched reference other before
      refine ⟨referenced, formed, ?_⟩
      rcases state with ⟨⟨createdAt, stored⟩, kept⟩ | ⟨purged, tombstone, stored⟩
      · refine .inl ⟨⟨createdAt, publish_keeps (metadata.symm ▸ stored)⟩, ?_⟩
        have differ (sensitive : other.classification = .sensitive) :
            other.artifactId ≠ call.artifactId := fun same => by
          rw [(record_sensitive platform sensitive).1, same, drawn.fresh] at stored
          cases stored
        have written := writeContent_keeps kept differ
        rw [Payload] at written ⊢
        rwa [publish_cas, publish_vault]
      · have differ : (call.record platform).artifactId ≠ reference.artifactId := fun same => by
          rcases intact.room sound drawn storable with absent | ⟨createdAt, live⟩
          · exact nomatch (same ▸ absent).symm.trans stored
          · exact nomatch (same ▸ live).symm.trans stored
        refine .inr ⟨(lastTouch_concat _ _ _).trans ((if_neg differ).trans purged), tombstone, ?_⟩
        exact publish_keeps (metadata.symm ▸ stored)
    · cases List.mem_singleton.mp last
      exact ⟨rfl, drawn.toFormed, .inl ⟨published, payload⟩⟩
  · by_cases named : artifactId = (call.record platform).artifactId
    · obtain ⟨createdAt, own⟩ := published
      rw [named, own] at stored
      cases stored
      exact ⟨call, createdAt, List.mem_append_right _ List.mem_cons_self, named, rfl⟩
    · rw [publish_other named, metadata] at stored
      obtain ⟨other, createdAt, put, rest⟩ := intact.published _ _ stored
      exact ⟨other, createdAt, List.mem_append_left _ put, rest⟩
  · intro digest content stored
    rw [publish_cas] at stored
    rcases writeContent_blob stored with before | ⟨rfl, rfl⟩
    · exact intact.blobs digest content before
    · exact ⟨drawn.content, rfl⟩

/-- A purge of another artifact leaves the content of a published one. -/
theorem unlinkContent_keeps {call : PutCall} {artifactId : String}
    (published : Published platform call store) (payload : Payload platform call store)
    (differ : (call.record platform).artifactId ≠ artifactId) :
    Payload platform call (unlinkContent artifactId record store) := by
  obtain ⟨createdAt, stored⟩ := published
  by_cases sensitive : call.classification = .sensitive
  · obtain ⟨named, -, -⟩ := record_sensitive platform sensitive
    rw [named] at differ
    rw [Payload, if_pos sensitive] at payload ⊢
    unfold unlinkContent
    split_ifs
    · exact payload
    · exact payload
    · exact (Directory.read_unlink_other _ differ).trans payload
  · obtain ⟨-, storage, digest⟩ := record_plain platform sensitive
    rw [Payload, if_neg sensitive] at payload ⊢
    unfold unlinkContent
    split_ifs with cas alive
    · exact payload
    · -- The record itself is a live reference to its digest.
      have other : platform.sha256 call.content ≠ record.digest := fun same => alive <| by
        refine (Directory.any_iff_read _ fun name document =>
          name ≠ artifactId && document.isLiveCasReference record.digest).mpr
            ⟨_, _, stored, ?_⟩
        simp [differ, Metadata.isLiveCasReference, storage, digest, same]
      exact (Directory.read_unlink_other _ other).trans payload
    · exact payload

theorem unlinkContent_metadata {artifactId : String} :
    (unlinkContent artifactId record store).metadata = store.metadata := by
  unfold unlinkContent
  split_ifs <;> rfl

theorem unlinkContent_blob {artifactId digest : String} {content : Bytes}
    (stored : (unlinkContent artifactId record store).cas.read digest = some content) :
    store.cas.read digest = some content := by
  unfold unlinkContent at stored
  split_ifs at stored
  · exact stored
  · by_cases same : digest = record.digest
    · subst same
      simp at stored
    · rwa [Directory.read_unlink_other _ same] at stored
  · exact stored

/-- A purge fails and changes nothing, or unlinks and leaves a tombstone. -/
theorem purge_cases (artifactId purgedAt : String) (store : ArtifactStore) :
    (∃ fault, purge artifactId purgedAt store = (.error fault, store)) ∨
      ∃ record, purge artifactId purgedAt store = (.ok (record.tombstone artifactId purgedAt),
        { unlinkContent artifactId record store with
          metadata := store.metadata.write artifactId
            (.purged (record.tombstone artifactId purgedAt)) }) := by
  unfold purge
  split
  · next fault _ => exact .inl ⟨fault, rfl⟩
  · exact .inl ⟨.keyError, rfl⟩
  · next record _ =>
      refine .inr ⟨record, ?_⟩
      dsimp only
      rw [unlinkContent_metadata]

theorem Intact.purge {artifactId purgedAt : String}
    (intact : Intact platform contents authorities history) :
    Intact platform contents authorities (history.purge artifactId purgedAt) := by
  rcases purge_cases artifactId purgedAt history.store with ⟨fault, failed⟩ | ⟨record, purged⟩
  · rw [History.purge, failed]
    exact intact
  rw [History.purge, purged]
  refine ⟨fun reference call inside => ?_, fun other live stored => ?_, fun digest content stored =>
    intact.blobs digest content (unlinkContent_blob stored)⟩
  · have put : .put reference call ∈ history.touches := by simpa using inside
    obtain ⟨referenced, formed, state⟩ := intact.touched reference call put
    refine ⟨referenced, formed, ?_⟩
    by_cases named : artifactId = reference.artifactId
    · subst named
      exact .inr ⟨(lastTouch_concat _ _ _).trans (if_pos rfl), _, Directory.read_write_self _ _ _⟩
    · rcases state with ⟨⟨createdAt, published⟩, payload⟩ | ⟨last, tombstone, left⟩
      · have differ : (call.record platform).artifactId ≠ artifactId := by
          rw [referenced] at named
          exact Ne.symm named
        refine .inl ⟨⟨createdAt, (Directory.read_write_other _ _ differ).trans published⟩, ?_⟩
        exact unlinkContent_keeps ⟨createdAt, published⟩ payload differ
      · exact .inr ⟨(lastTouch_concat _ _ _).trans ((if_neg named).trans last), tombstone,
          (Directory.read_write_other _ _ (Ne.symm named)).trans left⟩
  · have differ : other ≠ artifactId := fun same => by
      subst same
      simp at stored
    rw [Directory.read_write_other _ _ differ] at stored
    obtain ⟨call, createdAt, put, rest⟩ := intact.published _ _ stored
    exact ⟨call, createdAt, List.mem_append_left _ put, rest⟩

theorem Run.intact (sound : Sound platform contents authorities)
    (run : Run platform contents authorities (PutCall.Storable platform) history) :
    Intact platform contents authorities history := by
  induction run with
  | start => exact .empty
  | put _ drawn storable ih => exact ih.put sound drawn storable
  | purge _ ih => exact ih.purge

end

end ReadBack

namespace Sample

theorem sound : Sound platform {[]} {authority} where
  digests content := by
    by_cases empty : content = []
    · simp only [platform, empty, if_true]
      decide +kernel
    · simp only [platform, empty, if_false]
      decide +kernel
  contents := Set.injOn_singleton _ _
  authorities := Set.injOn_singleton _ _
  tagged _ _ _ _ := by simp [platform]
  inverse _ _ _ _ := rfl

theorem call_drawn : call.Drawn {[]} {authority} .empty where
  content := rfl
  authority := rfl
  plain := ⟨List.all_eq_true.mp (by decide +kernel), by decide⟩
  length := by decide +kernel
  fresh := rfl
  nonce := rfl
  authorized given := nomatch given

theorem call_storable : call.Storable platform .empty where
  mediaType := ⟨by decide +kernel, by decide⟩
  ttlDays given := nomatch given
  unpurged _ _ stored := nomatch stored

theorem putRef_first : (History.empty.put platform call).touches =
    [.put (call.reference platform) call] := by
  rw [History.put,
    (Intact.empty.putRef_ok sound call_drawn call_storable (show _ ≠ _ by decide)).1]
  rfl

end Sample

end Evidrun.Artifacts
