import Evidrun.Artifacts.Store

/-!
# A put and a purge at the same time

One process puts, another purges, and their file operations interleave in any order: the
existence test and the write of a blob, the test, the read and the write of a metadata
file, the listing of the metadata directory, the read of each candidate, and the unlink.

A blob is safe from an unlink only through metadata that the scan has seen. A put that
found the blob, or wrote it, and has not published its metadata yet is not seen; nor is
metadata that was published after the listing.
-/

namespace Evidrun.Artifacts

set_option autoImplicit false

/-- Where the putting process is. -/
inductive Putting
  | idle
  /-- `target.exists()` was false. -/
  | absent (call : PutCall)
  /-- The content was found or written. -/
  | stored (call : PutCall)
  /-- `meta_path.exists()` was true. -/
  | existing (call : PutCall)
  /-- `meta_path.exists()` was false. -/
  | unpublished (call : PutCall)

/-- Where the purging process is. -/
inductive Purging
  | idle
  /-- The metadata was read. -/
  | found (artifactId : String) (record : Record)
  /-- The directory was listed; these candidates are left. -/
  | scanning (artifactId : String) (record : Record) (candidates : List String)
  /-- No live reference was seen. -/
  | unreferenced (artifactId : String) (record : Record)
  /-- The payload was unlinked, or is kept. -/
  | decided (artifactId : String) (record : Record)

structure System where
  store : ArtifactStore
  putting : Putting
  purging : Purging

def System.initial : System := ⟨.empty, .idle, .idle⟩

section Steps

variable {Key : Type} (platform : ArtifactPlatform Key)

/-- The file operations of a put. -/
inductive PutStep : ArtifactStore → Putting → ArtifactStore → Putting → Prop
  | testPresent {store : ArtifactStore} {call : PutCall} : call.refusal = none →
      call.classification ≠ .sensitive →
      (store.cas.read (platform.sha256 call.content)).isSome = true →
      PutStep store .idle store (.stored call)
  | testAbsent {store : ArtifactStore} {call : PutCall} : call.refusal = none →
      call.classification ≠ .sensitive →
      store.cas.read (platform.sha256 call.content) = none →
      PutStep store .idle store (.absent call)
  | writeBlob {store : ArtifactStore} {call : PutCall} :
      PutStep store (.absent call)
        { store with cas := store.cas.write (platform.sha256 call.content) call.content }
        (.stored call)
  | writeVault {store : ArtifactStore} {call : PutCall} : call.refusal = none →
      call.classification = .sensitive →
      PutStep store .idle
        { store with
          vault := store.vault.write call.artifactId (call.nonce ++ call.encrypted platform) }
        (.stored call)
  | testMetadata {store : ArtifactStore} {call : PutCall} :
      PutStep store (.stored call) store
        (if (store.metadata.read (call.record platform).artifactId).isSome then .existing call
          else .unpublished call)
  /-- The existing document is compared and returned, or refused. -/
  | readMetadata {store : ArtifactStore} {call : PutCall} :
      PutStep store (.existing call) store .idle
  | writeMetadata {store : ArtifactStore} {call : PutCall} :
      PutStep store (.unpublished call)
        { store with
          metadata := store.metadata.write (call.record platform).artifactId
            (.live (call.record platform)) }
        .idle

/-- The file operations of a purge, other than the unlink of a blob. -/
inductive PurgeStep : ArtifactStore → Purging → ArtifactStore → Purging → Prop
  | read {store : ArtifactStore} {artifactId : String} {record : Record} :
      metadataOf artifactId store = .ok (.live record) →
      PurgeStep store .idle store (.found artifactId record)
  | list {store : ArtifactStore} {artifactId : String} {record : Record} {candidates : List String} :
      record.storage = .cas → candidates.Perm store.metadata.names →
      PurgeStep store (.found artifactId record) store (.scanning artifactId record candidates)
  | skip {store : ArtifactStore} {artifactId : String} {record : Record} {rest : List String} :
      PurgeStep store (.scanning artifactId record (artifactId :: rest)) store
        (.scanning artifactId record rest)
  | candidate {store : ArtifactStore} {artifactId candidate : String} {record : Record}
      {rest : List String} : candidate ≠ artifactId →
      PurgeStep store (.scanning artifactId record (candidate :: rest)) store
        (if (store.metadata.read candidate).any (Metadata.isLiveCasReference record.digest) then
          .decided artifactId record else .scanning artifactId record rest)
  | exhausted {store : ArtifactStore} {artifactId : String} {record : Record} :
      PurgeStep store (.scanning artifactId record []) store (.unreferenced artifactId record)
  | unlinkVault {store : ArtifactStore} {artifactId : String} {record : Record} :
      record.storage = .encryptedVault →
      PurgeStep store (.found artifactId record)
        { store with vault := store.vault.unlink artifactId } (.decided artifactId record)
  | writeTombstone {store : ArtifactStore} {artifactId purgedAt : String} {record : Record} :
      PurgeStep store (.decided artifactId record)
        { store with
          metadata := store.metadata.write artifactId
            (.purged (record.tombstone artifactId purgedAt)) } .idle

/-- The states that the two processes reach together; an unlink of a blob meets a guard. -/
inductive Reaches (guard : System → String → Record → Prop) : System → Prop
  | start : Reaches guard .initial
  | put {store after : ArtifactStore} {putting next : Putting} {purging : Purging} :
      Reaches guard ⟨store, putting, purging⟩ →
      PutStep platform store putting after next →
      Reaches guard ⟨after, next, purging⟩
  | purge {store after : ArtifactStore} {putting : Putting} {purging next : Purging} :
      Reaches guard ⟨store, putting, purging⟩ → PurgeStep store purging after next →
      Reaches guard ⟨after, putting, next⟩
  | unlink {store : ArtifactStore} {putting : Putting} {artifactId : String} {record : Record} :
      Reaches guard ⟨store, putting, .unreferenced artifactId record⟩ →
      guard ⟨store, putting, .unreferenced artifactId record⟩ artifactId record →
      Reaches guard ⟨{ store with cas := store.cas.unlink record.digest }, putting,
        .decided artifactId record⟩

/-- A put that relies on a blob and has not published its metadata. -/
def Putting.relies : Putting → PutCall → Prop
  | .stored call, other | .unpublished call, other =>
      call = other ∧ call.classification ≠ .sensitive
  | _, _ => False

/-- Nothing else needs the blob: no other live metadata names its digest, and no put for an
artifact without metadata relies on it. -/
def SafeUnlink (system : System) (artifactId : String) (record : Record) : Prop :=
  (∀ other document, other ≠ artifactId → system.store.metadata.read other = some document →
    document.isLiveCasReference record.digest = false) ∧
  ∀ call, system.putting.relies call → platform.sha256 call.content = record.digest →
    system.store.metadata.read (call.record platform).artifactId ≠ none

/-- There is a blob with this digest. -/
def HasBlob (digest : String) (store : ArtifactStore) : Prop :=
  ∃ content, store.cas.read digest = some content ∧ platform.sha256 content = digest

/-- Every live record of a plain artifact has its blob. -/
def BlobsKept (store : ArtifactStore) : Prop :=
  ∀ artifactId record, store.metadata.read artifactId = some (.live record) →
    record.storage = .cas → HasBlob platform record.digest store

/-- The artifact that a purge works on. -/
def Purging.target : Purging → Option String
  | .idle => none
  | .found artifactId _ | .scanning artifactId _ _ | .unreferenced artifactId _
  | .decided artifactId _ => some artifactId

structure Consistent (system : System) : Prop where
  /-- A live record has its blob, unless a purge is about to replace it by a tombstone. -/
  live : ∀ artifactId record, system.store.metadata.read artifactId = some (.live record) →
    record.storage = .cas →
    HasBlob platform record.digest system.store ∨
      ∃ purged, system.purging = .decided artifactId purged
  relied : ∀ call, system.putting.relies call →
    HasBlob platform (platform.sha256 call.content) system.store ∨
      system.store.metadata.read (call.record platform).artifactId ≠ none
  blobs : ∀ digest content, system.store.cas.read digest = some content →
    platform.sha256 content = digest
  purged : ∀ artifactId ∈ system.purging.target, system.store.metadata.read artifactId ≠ none
  unpublished : ∀ call, system.putting = .unpublished call →
    system.store.metadata.read (call.record platform).artifactId = none

variable {platform}

section

variable {store : ArtifactStore} {putting : Putting} {purging : Purging}

theorem HasBlob.write {digest written : String} {content : Bytes}
    (kept : HasBlob platform digest store) (own : platform.sha256 content = written) :
    HasBlob platform digest { store with cas := store.cas.write written content } := by
  by_cases same : digest = written
  · subst same
    exact ⟨content, Directory.read_write_self _ _ _, own⟩
  · obtain ⟨other, stored, hashed⟩ := kept
    exact ⟨other, (Directory.read_write_other _ _ same).trans stored, hashed⟩

theorem HasBlob.unlink {digest removed : String} (kept : HasBlob platform digest store)
    (differ : digest ≠ removed) :
    HasBlob platform digest { store with cas := store.cas.unlink removed } := by
  obtain ⟨content, stored, hashed⟩ := kept
  exact ⟨content, (Directory.read_unlink_other _ differ).trans stored, hashed⟩

theorem Consistent.initial : Consistent platform .initial where
  live := by simp [System.initial, ArtifactStore.empty]
  relied := by simp [System.initial, Putting.relies]
  blobs := by simp [System.initial, ArtifactStore.empty]
  purged := by simp [System.initial, Purging.target]
  unpublished := by simp [System.initial]

theorem Consistent.put {after : ArtifactStore} {next : Putting}
    (consistent : Consistent platform ⟨store, putting, purging⟩)
    (step : PutStep platform store putting after next) :
    Consistent platform ⟨after, next, purging⟩ := by
  obtain ⟨live, relied, blobs, purged, unpublished⟩ := consistent
  cases step with
  | testPresent allowed plain present =>
      refine ⟨live, ?_, blobs, purged, by simp⟩
      rintro call ⟨rfl, -⟩
      obtain ⟨content, stored⟩ := Option.isSome_iff_exists.mp present
      exact .inl ⟨content, stored, blobs _ _ stored⟩
  | testAbsent allowed plain missing => exact ⟨live, by simp [Putting.relies], blobs, purged, by simp⟩
  | @writeBlob call =>
      refine ⟨fun artifactId record stored cas => ?_, ?_, fun digest content stored => ?_, purged,
        by simp⟩
      · exact (live artifactId record stored cas).imp (·.write rfl) id
      · rintro other ⟨rfl, -⟩
        exact .inl ⟨_, Directory.read_write_self _ _ _, rfl⟩
      · by_cases same : digest = platform.sha256 call.content
        · subst same
          rw [Directory.read_write_self] at stored
          rw [← Option.some.inj stored]
        · rw [Directory.read_write_other _ _ same] at stored
          exact blobs digest content stored
  | writeVault allowed sensitive =>
      refine ⟨live, ?_, blobs, purged, by simp⟩
      rintro call ⟨rfl, plain⟩
      exact absurd sensitive plain
  | @testMetadata call =>
      split_ifs with present
      · exact ⟨live, by simp [Putting.relies], blobs, purged, by simp⟩
      · refine ⟨live, relied, blobs, purged, ?_⟩
        rintro other ⟨⟩
        exact Option.not_isSome_iff_eq_none.mp present
  | readMetadata => exact ⟨live, by simp [Putting.relies], blobs, purged, by simp⟩
  | @writeMetadata call =>
      have unseen := unpublished call rfl
      refine ⟨fun artifactId record stored cas => ?_, by simp [Putting.relies], blobs,
        fun artifactId target => ?_, by simp⟩
      · by_cases named : artifactId = (call.record platform).artifactId
        · subst named
          rw [Directory.read_write_self] at stored
          cases stored
          have plain : call.classification ≠ .sensitive := by
            intro sensitive
            cases (record_sensitive platform sensitive).2.1.symm.trans cas
          rw [(record_plain platform plain).2.2]
          exact .inl ((relied call ⟨rfl, plain⟩).resolve_right fun published => published unseen)
        · rw [Directory.read_write_other _ _ named] at stored
          exact live artifactId record stored cas
      · by_cases named : artifactId = (call.record platform).artifactId
        · subst named
          simp
        · rw [Directory.read_write_other _ _ named]
          exact purged artifactId target

/-- A purge that goes on with its search. -/
theorem Consistent.search {vault : Directory String Bytes} {next : Purging}
    (consistent : Consistent platform ⟨store, putting, purging⟩)
    (undecided : ∀ artifactId record, purging ≠ .decided artifactId record)
    (target : next.target = purging.target) :
    Consistent platform ⟨{ store with vault }, putting, next⟩ where
  live artifactId record stored cas := .inl
    ((consistent.live artifactId record stored cas).resolve_right fun ⟨purged, decided⟩ =>
      undecided artifactId purged decided)
  relied := consistent.relied
  blobs := consistent.blobs
  purged artifactId inside := consistent.purged artifactId (target ▸ inside)
  unpublished := consistent.unpublished

theorem Consistent.tombstone {artifactId : String} {record : Record} (tombstone : Tombstone)
    (consistent : Consistent platform ⟨store, putting, .decided artifactId record⟩) :
    Consistent platform ⟨{ store with
      metadata := store.metadata.write artifactId (.purged tombstone) }, putting, .idle⟩ := by
  obtain ⟨live, relied, blobs, purged, unpublished⟩ := consistent
  have other {name : String} {document : Record}
      (stored : (store.metadata.write artifactId (.purged tombstone)).read name =
        some (.live document)) : name ≠ artifactId := fun same => by
    subst same
    simp at stored
  have known {name : String} (stored : store.metadata.read name ≠ none) :
      (store.metadata.write artifactId (.purged tombstone)).read name ≠ none := by
    by_cases same : name = artifactId
    · subst same
      simp
    · rwa [Directory.read_write_other _ _ same]
  refine ⟨fun name document stored cas => .inl ?_, fun call relies => ?_, blobs,
    by simp [Purging.target], fun call waiting => ?_⟩
  · have differ := other stored
    rw [Directory.read_write_other _ _ differ] at stored
    refine (live name document stored cas).resolve_right ?_
    rintro ⟨purged, decided⟩
    cases decided
    exact differ rfl
  · exact (relied call relies).imp id known
  · have unseen := unpublished call waiting
    have differ : (call.record platform).artifactId ≠ artifactId := fun same =>
      purged artifactId rfl (same ▸ unseen)
    exact (Directory.read_write_other _ _ differ).trans unseen

/-- A purge that does not touch the blobs. -/
theorem Consistent.purge {after : ArtifactStore} {next : Purging}
    (consistent : Consistent platform ⟨store, putting, purging⟩)
    (step : PurgeStep store purging after next) : Consistent platform ⟨after, putting, next⟩ := by
  cases step with
  | @read artifactId record found =>
      refine ⟨fun other document stored cas => .inl
        ((consistent.live other document stored cas).resolve_right (by simp)), consistent.relied,
        consistent.blobs, ?_, consistent.unpublished⟩
      rintro other ⟨⟩ absent
      simp [metadataOf, absent] at found
      split_ifs at found
  | list cas listed => exact consistent.search (by simp) rfl
  | skip => exact consistent.search (by simp) rfl
  | candidate differ =>
      split_ifs
      · exact consistent.search (by simp) rfl
      · exact consistent.search (by simp) rfl
  | exhausted => exact consistent.search (by simp) rfl
  | unlinkVault vaulted => exact consistent.search (by simp) rfl
  | writeTombstone => exact consistent.tombstone _

/-- An unlink of a blob that nothing else needs. -/
theorem Consistent.unlink {artifactId : String} {record : Record}
    (consistent : Consistent platform ⟨store, putting, .unreferenced artifactId record⟩)
    (safe : SafeUnlink platform ⟨store, putting, .unreferenced artifactId record⟩ artifactId
      record) :
    Consistent platform ⟨{ store with cas := store.cas.unlink record.digest }, putting,
      .decided artifactId record⟩ := by
  obtain ⟨live, relied, blobs, purged, unpublished⟩ := consistent
  refine ⟨fun name document stored cas => ?_, fun call relies => ?_, fun digest content stored => ?_,
    purged, unpublished⟩
  · by_cases same : name = artifactId
    · exact .inr ⟨record, by rw [same]⟩
    · have unnamed := safe.1 name _ same stored
      have differ : document.digest ≠ record.digest := by
        simpa [Metadata.isLiveCasReference, cas] using unnamed
      have kept := (live name document stored cas).resolve_right (by simp)
      exact .inl (kept.unlink differ)
  · by_cases same : platform.sha256 call.content = record.digest
    · exact .inr (safe.2 call relies same)
    · exact (relied call relies).imp (·.unlink same) id
  · by_cases same : digest = record.digest
    · subst same
      simp at stored
    · rw [Directory.read_unlink_other _ same] at stored
      exact blobs digest content stored

end

theorem Reaches.consistent {system : System}
    (reached : Reaches platform (SafeUnlink platform) system) : Consistent platform system := by
  induction reached with
  | start => exact .initial
  | put _ step ih => exact ih.put step
  | purge _ step ih => exact ih.purge step
  | unlink _ safe ih => exact ih.unlink safe

/-- When no unlink takes a blob that other live metadata names, or that a put without metadata
relies on, every live plain record has its blob whenever no call is in progress. -/
theorem quiescent_blobs_kept {store : ArtifactStore}
    (reached : Reaches platform (SafeUnlink platform) ⟨store, .idle, .idle⟩) :
    BlobsKept platform store := fun artifactId record stored cas =>
  (reached.consistent.live artifactId record stored cas).resolve_right (by simp)

/-! ## Whole calls -/

section Calls

variable {guard : System → String → Record → Prop} {store : ArtifactStore} {purging : Purging}
  {call : PutCall}

/-- A put that found or wrote the content publishes its metadata, if there is none. -/
theorem Reaches.publish (reached : Reaches platform guard ⟨store, .stored call, purging⟩)
    (absent : store.metadata.read (call.record platform).artifactId = none) :
    Reaches platform guard ⟨{ store with
      metadata := store.metadata.write (call.record platform).artifactId
        (.live (call.record platform)) }, .idle, purging⟩ := by
  have tested : PutStep platform store (.stored call) store (.unpublished call) := by
    have step : PutStep platform store (.stored call) _ _ := .testMetadata
    rwa [absent] at step
  exact (reached.put tested).put .writeMetadata

/-- The first put of a content. -/
theorem Reaches.putNew (reached : Reaches platform guard ⟨store, .idle, purging⟩)
    (allowed : call.refusal = none) (plain : call.classification ≠ .sensitive)
    (missing : store.cas.read (platform.sha256 call.content) = none)
    (absent : store.metadata.read (call.record platform).artifactId = none) :
    Reaches platform guard ⟨{ store with
      cas := store.cas.write (platform.sha256 call.content) call.content
      metadata := store.metadata.write (call.record platform).artifactId
        (.live (call.record platform)) }, .idle, purging⟩ :=
  ((reached.put (.testAbsent allowed plain missing)).put .writeBlob).publish absent

/-- A put of a content whose blob is there. -/
theorem Reaches.putShared (reached : Reaches platform guard ⟨store, .idle, purging⟩)
    (allowed : call.refusal = none) (plain : call.classification ≠ .sensitive)
    (present : (store.cas.read (platform.sha256 call.content)).isSome = true)
    (absent : store.metadata.read (call.record platform).artifactId = none) :
    Reaches platform guard ⟨{ store with
      metadata := store.metadata.write (call.record platform).artifactId
        (.live (call.record platform)) }, .idle, purging⟩ :=
  (reached.put (.testPresent allowed plain present)).publish absent

end Calls

end Steps

namespace Sample

def other : PutCall := callFor "q"

abbrev callRecord : Record := call.record platform

abbrev otherRecord : Record := other.record platform

/-- After the put of `call`. -/
def onePut : ArtifactStore :=
  { ArtifactStore.empty with
    cas := ArtifactStore.empty.cas.write (platform.sha256 call.content) call.content
    metadata := ArtifactStore.empty.metadata.write callRecord.artifactId (.live callRecord) }

/-- After the put of `other`, which shares the blob. -/
def twoPuts : ArtifactStore :=
  { onePut with metadata := onePut.metadata.write otherRecord.artifactId (.live otherRecord) }

theorem onePut_reached (guard : System → String → Record → Prop) :
    Reaches platform guard ⟨onePut, .idle, .idle⟩ := by
  have empty : Reaches platform guard ⟨.empty, .idle, .idle⟩ := .start
  exact empty.putNew (show call.refusal = none by decide) (show _ ≠ _ by decide) rfl rfl

/-- A purge lists the metadata and sees only its own; a put finds the blob and publishes; then
the blob is unlinked. -/
theorem blob_lost : ∃ store, Reaches platform (fun _ _ _ => True) ⟨store, .idle, .idle⟩ ∧
    ¬ BlobsKept platform store := by
  have scanned : Reaches platform (fun _ _ _ => True)
      ⟨onePut, .idle, .unreferenced callRecord.artifactId callRecord⟩ :=
    ((((onePut_reached _).purge (.read (by decide +kernel))).purge
      (.list (by decide +kernel) (.refl _))).purge .skip).purge .exhausted
  have published : Reaches platform (fun _ _ _ => True)
      ⟨twoPuts, .idle, .unreferenced callRecord.artifactId callRecord⟩ :=
    scanned.putShared (show other.refusal = none by decide) (show _ ≠ _ by decide)
      (by decide +kernel) (by decide +kernel)
  have unlinked := published.unlink trivial
  have purged := unlinked.purge (.writeTombstone : PurgeStep _ _
    { twoPuts with
      cas := twoPuts.cas.unlink callRecord.digest
      metadata := twoPuts.metadata.write callRecord.artifactId
        (.purged (callRecord.tombstone callRecord.artifactId "t")) } _)
  refine ⟨_, purged, fun kept => ?_⟩
  obtain ⟨content, stored, -⟩ := kept otherRecord.artifactId otherRecord (by decide +kernel)
    (by decide +kernel)
  have gone : (twoPuts.cas.unlink callRecord.digest).read otherRecord.digest = none := by
    decide +kernel
  exact nomatch gone.symm.trans stored

/-- The purge of one of two artifacts that share a blob sees the other and keeps the blob. -/
theorem quiescent_blobs_kept_sample : BlobsKept platform { twoPuts with
    metadata := twoPuts.metadata.write callRecord.artifactId
      (.purged (callRecord.tombstone callRecord.artifactId "t")) } := by
  have shared : Reaches platform (SafeUnlink platform) ⟨twoPuts, .idle, .idle⟩ :=
    (onePut_reached _).putShared (show other.refusal = none by decide) (show _ ≠ _ by decide)
      (by decide +kernel) (by decide +kernel)
  have found : metadataOf callRecord.artifactId twoPuts = .ok (.live callRecord) := by
    decide +kernel
  have names : twoPuts.metadata.names = [otherRecord.artifactId, callRecord.artifactId] := by
    decide +kernel
  have listed := (shared.purge (.read found)).purge (.list (by decide +kernel) (.refl _))
  have alive : (twoPuts.metadata.read otherRecord.artifactId).any
      (Metadata.isLiveCasReference callRecord.digest) = true := by decide +kernel
  have seen : PurgeStep twoPuts (.scanning callRecord.artifactId callRecord
      twoPuts.metadata.names) twoPuts (.decided callRecord.artifactId callRecord) := by
    rw [names]
    have step : PurgeStep twoPuts (.scanning callRecord.artifactId callRecord
        (otherRecord.artifactId :: [callRecord.artifactId])) twoPuts _ :=
      .candidate (by decide +kernel)
    rwa [if_pos alive] at step
  exact quiescent_blobs_kept ((listed.purge seen).purge .writeTombstone)

end Sample

end Evidrun.Artifacts
