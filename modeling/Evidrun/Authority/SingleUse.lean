import Evidrun.Authority.Verifier
import Evidrun.Lib.ReadCommit

/-!
# Single use of a challenge

`consume_challenge` selects the row of a challenge, tests it and then updates it
by its primary key, without the write lock in between. Calls of
`complete_confirmation` are therefore a read step and a commit step, interleaved
with each other and with enrollments, revocations and new challenges.
-/

namespace Evidrun.Authority

open JsonText DocumentSchema Evidrun.Contracts Evidrun.Database ReadCommit

set_option autoImplicit false

/-! ## Challenges over time -/

/-- The challenges of one moment are there later, under the same ids, and stay consumed. -/
def Carried (before after : AuthorityTables) : Prop :=
  ∀ digest row, before.challenge? digest = some row →
    ∃ later, after.challenge? digest = some later ∧ later.challengeId = row.challengeId ∧
      (row.consumedAt ≠ none → later.consumedAt ≠ none)

section

variable {before after : AuthorityTables}

theorem carried_of_append (more : List HumanChallengeRow)
    (appended : after.challenges = before.challenges ++ more) : Carried before after := by
  intro digest row found
  refine ⟨row, ?_, rfl, id⟩
  rw [AuthorityTables.challenge?] at found ⊢
  rw [appended, Table.find_append, found, Option.some_or]

theorem carried_of_challenges_eq (same : after.challenges = before.challenges) :
    Carried before after :=
  carried_of_append [] (by rw [same, List.append_nil])

theorem challenge?_markConsumed (tables : AuthorityTables) (challengeId : String) (now : Time)
    (digest : String) :
    (tables.markConsumed challengeId now).challenge? digest =
      (tables.challenge? digest).map fun row =>
        if row.challengeId = challengeId then { row with consumedAt := some now } else row := by
  refine Table.find_map _ _ _ fun row => ?_
  split_ifs
  · rfl
  · rfl

theorem carried_markConsumed (tables : AuthorityTables) (challengeId : String) (now : Time) :
    Carried tables (tables.markConsumed challengeId now) := by
  intro digest row found
  rw [challenge?_markConsumed, found]
  refine ⟨_, rfl, ?_⟩
  dsimp only
  split_ifs
  · exact ⟨rfl, fun _ => by simp⟩
  · exact ⟨rfl, id⟩

theorem Carried.of_challenges {middle : AuthorityTables} (carried : Carried before middle)
    (same : after.challenges = middle.challenges) : Carried before after := by
  intro digest row found
  obtain ⟨later, present, rest⟩ := carried digest row found
  exact ⟨later, by rw [AuthorityTables.challenge?, same]; exact present, rest⟩

/-- The calls that do not consume a challenge. -/
inductive PreparationStep (platform : Platform) : AuthorityTables → AuthorityTables → Prop
  | enroll {enrollment : Enrollment} {now : Time} {tables after : AuthorityTables}
      {credential : EnrolledCredential} :
      enroll platform enrollment now tables = .ok (credential, after) →
      PreparationStep platform tables after
  | revoke {credentialId : String} {now : Time} {tables after : AuthorityTables}
      {credential : EnrolledCredential} :
      tables.revokeCredential credentialId now = .ok (credential, after) →
      PreparationStep platform tables after
  | begin {mode : AuthorityMode} {subject : HumanSubject platform} {credentialId nonce : String}
      {now : Time} {tables after : AuthorityTables} {challenge : IssuedChallenge} :
      beginConfirmation mode subject credentialId nonce now tables = .ok (challenge, after) →
      PreparationStep platform tables after

theorem enroll_ok {platform : Platform} {enrollment : Enrollment} {now : Time}
    {tables : AuthorityTables} {credential : EnrolledCredential}
    (enrolled : enroll platform enrollment now tables = .ok (credential, after)) :
    ∃ id, id = "hcred" ++ "_" ++ platform.uuid7 tables.issued ∧
      id ∉ tables.credentials.map HumanCredentialRow.key ∧
      after.credentials = tables.credentials ++ [enrollment.row id now] ∧
      after.challenges = tables.challenges := by
  obtain ⟨free, inserted⟩ := AuthorityTables.insertCredential_ok enrolled
  rw [inserted]
  exact ⟨_, rfl, free, rfl, rfl⟩

theorem revokeCredential_ok {credentialId : String} {now : Time} {tables : AuthorityTables}
    {credential : EnrolledCredential}
    (revoked : tables.revokeCredential credentialId now = .ok (credential, after)) :
    after.credentials = Table.modify HumanCredentialRow.key tables.credentials credentialId
        (AuthorityTables.revokedRow now) ∧
      after.challenges = tables.challenges := by
  unfold AuthorityTables.revokeCredential at revoked
  split at revoked
  · simp at revoked
  · simp only [ok_pair] at revoked
    exact ⟨by rw [← revoked.2], by rw [← revoked.2]⟩

theorem PreparationStep.carried {platform : Platform} (step : PreparationStep platform before after) :
    Carried before after := by
  cases step with
  | enroll enrolled =>
      obtain ⟨_, _, _, _, same⟩ := enroll_ok enrolled
      exact carried_of_challenges_eq same
  | revoke revoked => exact carried_of_challenges_eq (revokeCredential_ok revoked).2
  | begin begun =>
      obtain ⟨_, _, issued⟩ := beginConfirmation_ok begun
      obtain ⟨_, _, _, appended⟩ := AuthorityTables.issueChallenge_ok issued
      exact carried_of_append _ appended

end

/-! ## Interleaved confirmations -/

/-- A call of `complete_confirmation` that has read and not written yet. -/
structure PendingConfirmation (platform : Platform) where
  subject : HumanSubject platform
  challenge : IssuedChallenge
  assertion : Bytes
  projectId : String
  credential : EnrolledCredential
  row : HumanChallengeRow

/-- What is committed, and the challenges presented by the calls that succeeded. -/
structure ConfirmationState (store : ArtifactStore) where
  tables : AuthorityTables
  artifacts : store.State
  succeeded : List String

section Interleaved

variable {platform : Platform} {store : ArtifactStore}

def finished (state : ConfirmationState store) (call : PendingConfirmation platform)
    (times : CompletionTimes) : ConfirmationOutcome platform store :=
  finishConfirmation call.subject call.credential call.challenge call.assertion call.projectId times
    call.row state.tables state.artifacts

def committed (state : ConfirmationState store) (call : PendingConfirmation platform)
    (times : CompletionTimes) : ConfirmationState store :=
  let outcome := finished state call times
  { tables := outcome.tables
    artifacts := outcome.artifacts
    succeeded :=
      if outcome.result.isOk then state.succeeded ++ [call.challenge.challengeDigest]
      else state.succeeded }

variable (platform store) in
def confirmations : Calls (ConfirmationState store) (PendingConfirmation platform) where
  reads state call := ∃ credentialId now,
    confirmable call.subject credentialId call.challenge now state.tables =
      .ok (call.credential, call.row)
  commits state call after := ∃ times, after = committed state call times
  atomic state after := ∃ tables, PreparationStep platform state.tables tables ∧
    after = { state with tables := tables }

/-- Nobody has consumed the challenge that a call read. -/
def Unconsumed (state : ConfirmationState store) (call : PendingConfirmation platform) : Prop :=
  ∀ row ∈ state.tables.challenges, row.challengeId = call.row.challengeId → row.consumedAt = none

/-- Each challenge is presented by one successful call at most, and is consumed then. -/
structure UsedOnce (state : ConfirmationState store) : Prop where
  distinct : state.succeeded.Nodup
  consumed : ∀ digest ∈ state.succeeded,
    ∃ row, state.tables.challenge? digest = some row ∧ row.consumedAt ≠ none

/-- The row a call read is still the row of the challenge it presents. -/
def StillRead (state : ConfirmationState store) (call : PendingConfirmation platform) : Prop :=
  ∃ row, state.tables.challenge? call.challenge.challengeDigest = some row ∧
    row.challengeId = call.row.challengeId

theorem UsedOnce.carried {before after : ConfirmationState store} (used : UsedOnce before)
    (carried : Carried before.tables after.tables) (same : after.succeeded = before.succeeded) :
    UsedOnce after := by
  refine ⟨same ▸ used.distinct, fun digest member => ?_⟩
  obtain ⟨row, found, consumed⟩ := used.consumed digest (same ▸ member)
  obtain ⟨later, present, _, kept⟩ := carried digest row found
  exact ⟨later, present, kept consumed⟩

theorem StillRead.carried {before after : ConfirmationState store}
    {call : PendingConfirmation platform} (still : StillRead before call)
    (carried : Carried before.tables after.tables) : StillRead after call := by
  obtain ⟨row, found, keyed⟩ := still
  obtain ⟨later, present, same, _⟩ := carried _ row found
  exact ⟨later, present, same.trans keyed⟩

theorem committed_carried (state : ConfirmationState store) (call : PendingConfirmation platform)
    (times : CompletionTimes) : Carried state.tables (committed state call times).tables :=
  (carried_markConsumed state.tables call.row.challengeId times.consumed).of_challenges
    finishConfirmation_tables.2

/-- After its commit the challenge a call presented is consumed. -/
theorem committed_consumed {state : ConfirmationState store} {call : PendingConfirmation platform}
    (times : CompletionTimes) (still : StillRead state call) :
    ∃ row, (committed state call times).tables.challenge? call.challenge.challengeDigest = some row ∧
      row.consumedAt ≠ none := by
  obtain ⟨row, found, keyed⟩ := still
  have written : (committed state call times).tables.challenges =
      (state.tables.markConsumed call.row.challengeId times.consumed).challenges :=
    finishConfirmation_tables.2
  have marked := challenge?_markConsumed state.tables call.row.challengeId times.consumed
    call.challenge.challengeDigest
  rw [found, Option.map_some, if_pos keyed] at marked
  refine ⟨{ row with consumedAt := some times.consumed }, ?_, by simp⟩
  rw [AuthorityTables.challenge?, written]
  exact marked

theorem UsedOnce.committed {state : ConfirmationState store} {call : PendingConfirmation platform}
    (used : UsedOnce state) (still : StillRead state call) (free : Unconsumed state call)
    (times : CompletionTimes) : UsedOnce (committed state call times) := by
  have fresh : call.challenge.challengeDigest ∉ state.succeeded := by
    intro member
    obtain ⟨row, found, keyed⟩ := still
    obtain ⟨other, same, consumed⟩ := used.consumed _ member
    rw [found, Option.some.injEq] at same
    subst same
    exact consumed (free row (Table.find_mem found) keyed)
  have carried := committed_carried state call times
  by_cases done : (finished state call times).result.isOk
  · have logged : (Authority.committed state call times).succeeded =
        state.succeeded ++ [call.challenge.challengeDigest] := if_pos done
    constructor
    · rw [logged]
      exact used.distinct.append (List.nodup_singleton _) (by simpa using fresh)
    · intro digest member
      rw [logged, List.mem_append, List.mem_singleton] at member
      rcases member with before | rfl
      · obtain ⟨row, found, consumed⟩ := used.consumed digest before
        obtain ⟨later, present, _, kept⟩ := carried digest row found
        exact ⟨later, present, kept consumed⟩
      · exact committed_consumed times still
  · exact used.carried carried (if_neg done)

theorem usedOnce_preserved :
    Preserved (confirmations platform store) Unconsumed UsedOnce StillRead where
  read := by
    rintro state call _ ⟨credentialId, now, reads⟩
    obtain ⟨_, _, consumable⟩ := confirmable_ok.mp reads
    exact ⟨call.row, (AuthorityTables.consumableChallenge_ok.mp consumable).1, rfl⟩
  commit := by
    rintro state call _ used still free ⟨times, rfl⟩
    exact used.committed still free times
  commit_planned := by
    rintro state call _ other _ _ _ ⟨times, rfl⟩ still
    exact still.carried (committed_carried state call times)
  atomic := by
    rintro state _ used ⟨tables, step, rfl⟩
    exact used.carried step.carried rfl
  atomic_planned := by
    rintro state _ other _ ⟨tables, step, rfl⟩ still
    exact still.carried step.carried

end Interleaved

namespace Sample

def revisionSubject : HumanSubject Contracts.Sample.platform :=
  .revision
    { dump := .obj [("decision", .str "accepted"), ("kind", .str "revision_decision"),
        ("rationale", .str "reviewed"),
        ("revision_ref", Contracts.Sample.contract .goal "one")]
      valid := by decide +kernel }

def challengeRow : HumanChallengeRow :=
  AuthorityTables.challengeRow Contracts.Sample.platform
    (intentFor revisionSubject credential.toEnrolledCredential) "nonce" "hchal_1" 0

def presented : IssuedChallenge := AuthorityTables.issuedChallenge challengeRow "nonce"

def call : PendingConfirmation Contracts.Sample.platform where
  subject := revisionSubject
  challenge := presented
  assertion := [3]
  projectId := "project"
  credential := credential.toEnrolledCredential
  row := challengeRow

def open_ : ConfirmationState store := ⟨⟨[credential], [challengeRow], 2⟩, (), []⟩

def times : CompletionTimes := ⟨1, 1, "2026-01-01T00:00:00Z"⟩

theorem call_reads : (confirmations Contracts.Sample.platform store).reads open_ call :=
  ⟨"hcred_0", 1, confirmable_ok.mpr ⟨by decide +kernel, by decide +kernel, by decide +kernel⟩⟩

theorem call_succeeds : (committed open_ call times).succeeded = [presented.challengeDigest] := by
  decide +kernel

end Sample

open Sample

end Evidrun.Authority
