import Evidrun.Contracts.Compiler
import Evidrun.Lib.Table

/-!
# The contract registry

The decisions on revisions and the registry that holds both in memory, following
`evidrun.contracts.registry`: a revision is immutable and its number is monotonic
per kind and logical id, and `resolve` answers for accepted revisions only.
-/

namespace Evidrun.Contracts

open JsonText DocumentSchema

set_option autoImplicit false

/-! ## Decisions -/

def validatePrincipal (authority : Json) : Except String Unit :=
  raiseIf (authority.field "principal_id" != (authority.field "attestation").field "principal_id")
    "human authority principal must match the attestation principal"

def verifiedHumanDecisionAuthority : Schema :=
  .model
    [required "attestation" humanAttestationRecord,
      kindField "verified_human",
      required "principal_id" nonEmptyStr]
    validatePrincipal

def fixtureId : String := "experiment-manifest-v1:crl-ctx-002"

/-- The digest of a repository fixture is not a placeholder. -/
def isFixtureDigest (text : String) : Bool :=
  isDigest text && text.toList != List.replicate 64 '0'

def repositoryFixtureDecisionAuthority : Schema :=
  .model
    [required "fixture_digest" (.scalar (.matching isFixtureDigest)),
      defaulted "fixture_id" (.str fixtureId) (literal [fixtureId]),
      kindField "repository_fixture"]
    noCheck

def decisionAuthority : Schema :=
  .tagged "kind"
    [("verified_human", verifiedHumanDecisionAuthority),
      ("repository_fixture", repositoryFixtureDecisionAuthority)]

/-- What a human signs when they decide. -/
def decisionSubjectDigest (platform : Platform) (decision : Json) : String :=
  sha256Json platform <| .obj <|
    ["decision", "rationale", "revision_ref"].map fun name => (name, decision.field name)

def validateAuthority (platform : Platform) (decision : Json) : Except String Unit := do
  let authority := decision.field "authority"
  let attestation := authority.field "attestation"
  let fixture := authority.field "kind" == .str "repository_fixture"
  raiseIf (fixture && decision.field "decision" != .str "accepted")
    "repository fixtures can only import accepted revisions"
  raiseIf (!fixture && attestation.field "action" !=
      .str ("revision." ++ (decision.field "decision").asString))
    "human attestation action does not match the revision decision"
  raiseIf (!fixture && attestation.field "target_digest" !=
      (decision.field "revision_ref").field "digest")
    "human attestation target does not match the revision digest"
  raiseIf (!fixture && attestation.field "subject_digest" !=
      .str (decisionSubjectDigest platform decision))
    "human attestation does not cover the revision decision content"
  raiseIf (!fixture && decision.field "decided_at_utc" != attestation.field "verified_at_utc")
    "human decision timestamp must be the verified attestation timestamp"

def revisionDecisionRecordFields : List (String × Presence × Schema) :=
  [required "authority" decisionAuthority,
    required "decided_at_utc" utcDateTime,
    required "decision" (literal ["accepted", "rejected", "superseded"]),
    required "rationale" nonEmptyStr,
    required "revision_ref" contractRef,
    schemaVersion]

def revisionDecisionRecord (platform : Platform) : Schema :=
  .model revisionDecisionRecordFields (validateAuthority platform)

section WellFormed

variable (coercion : Coercion)

@[simp] theorem wellFormed_decisionAuthority : WellFormed coercion decisionAuthority := by
  rw [decisionAuthority, WellFormed]
  exact wellFormedCases_kind (by decide)
      (by simp [nonEmptyStr]) (by simp) <|
    wellFormedCases_kind (by decide)
      (by simp [literal, validate, Scalar.parse]) (by simp) <|
    wellFormedCases_nil coercion _

@[simp] theorem wellFormed_revisionDecisionRecord (platform : Platform) :
    WellFormed coercion (revisionDecisionRecord platform) :=
  wellFormed_model (by decide)
    (by simp [revisionDecisionRecordFields, utcDateTime, literal, nonEmptyStr])

end WellFormed

section Restored

variable {coercion : Coercion}

@[simp] theorem durable_decisionAuthority :
    Restores coercion decisionAuthority ∧ Filled coercion decisionAuthority :=
  durable_kinds (wellFormed_decisionAuthority coercion)
    (by simp [verifiedHumanDecisionAuthority, repositoryFixtureDecisionAuthority, kindField,
      literal, nonEmptyStr])

theorem durable_revisionDecisionRecord (platform : Platform) :
    Restores coercion (revisionDecisionRecord platform) ∧
      Filled coercion (revisionDecisionRecord platform) :=
  durable_plain (wellFormed_revisionDecisionRecord coercion platform)
    (by simp [revisionDecisionRecordFields, schemaVersion, utcDateTime, literal, nonEmptyStr])
    (by simp [revisionDecisionRecordFields, utcDateTime, literal, nonEmptyStr])

end Restored

abbrev RevisionDecisionRecord (platform : Platform) : Type :=
  Instance platform.coercion (revisionDecisionRecord platform)

def RevisionDecisionRecord.modelValidate (platform : Platform) (document : Json) :
    Except String (RevisionDecisionRecord platform) :=
  Instance.modelValidate (wellFormed_revisionDecisionRecord platform.coercion platform) document

namespace RevisionDecisionRecord

variable {platform : Platform} (record : RevisionDecisionRecord platform)

def decision : String := (record.dump.field "decision").asString

def authority : Json := record.dump.field "authority"

def authorityKind : String := (record.authority.field "kind").asString

def revisionRef : Json := record.dump.field "revision_ref"

def humanSubjectDigest : String := decisionSubjectDigest platform record.dump

end RevisionDecisionRecord

/-! ## The registry in memory -/

/-- Why human authority could not be established. -/
inductive HumanAttestationError
  | unavailable (text : String)
  | invalid (text : String)
deriving DecidableEq

/-- What a trusted verifier says of an attestation and the subject it must cover. -/
abbrev HumanAttestationVerifier : Type := Json → String → Except HumanAttestationError Unit

/-- Both errors are value errors for a caller that does not tell them apart. -/
def HumanAttestationError.raised : HumanAttestationError → Raised
  | .unavailable text | .invalid text => .valueError text

def unavailableHumanAttestationVerifier : HumanAttestationVerifier := fun _ _ =>
  .error (.unavailable "verified human authority is unavailable; no trusted verifier is installed")

/-- Revisions by identity, in the order they were added, and the last decision on each. -/
structure InMemoryContractRegistry (platform : Platform) where
  revisions : List (Revision platform)
  decisions : List (RevisionKey × RevisionDecisionRecord platform)
deriving DecidableEq

def identityText (reference : Json) : String :=
  (reference.field "logical_id").asString ++ "@" ++
    toString (integerOf (reference.field "revision"))

def compileReferenceNotFound (reference : Json) : Raised :=
  compileRejected "compile.revision_not_found"
    ("Uma dependência da Study não existe: " ++ identityText reference ++ ".")
    "Registre a revision referenciada antes de compilar."

def compileDependencyNotAccepted (reference : Json) : Raised :=
  compileRejected "compile.dependency_not_accepted"
    ("A dependência " ++ identityText reference ++ " não possui aceitação humana.")
    "Aceite a revision referenciada ou compile pelo caminho não verificado."

def compileDigestMismatch (reference : Json) : Raised :=
  compileRejected "compile.digest_mismatch"
    ("A dependência " ++ identityText reference ++ " tem digest divergente do referenciado.")
    "Referencie o digest exato da revision registrada."

namespace InMemoryContractRegistry

variable {platform : Platform}

def empty : InMemoryContractRegistry platform := ⟨[], []⟩

def revision? (registry : InMemoryContractRegistry platform) (key : RevisionKey) :
    Option (Revision platform) :=
  Table.find Revision.identity registry.revisions key

def decision? (registry : InMemoryContractRegistry platform) (key : RevisionKey) :
    Option (RevisionDecisionRecord platform) :=
  (Table.find Prod.fst registry.decisions key).map Prod.snd

/-- Revisions of one kind and logical id. -/
def sameLine (revision candidate : Revision platform) : Bool :=
  candidate.kind = revision.kind && candidate.logicalId = revision.logicalId

def latestNumber (numbers : List Int) : Int := numbers.foldl max 0

def requireMonotonic (registry : InMemoryContractRegistry platform) (revision : Revision platform) :
    Except Raised Unit :=
  let priorRevisions := (registry.revisions.filter (sameLine revision)).map Revision.number
  let expected := latestNumber priorRevisions + 1
  raiseWhen (revision.number != expected)
    (.valueError ("contract revision must be monotonic; expected " ++ toString expected ++
      ", received " ++ toString revision.number))

def add (registry : InMemoryContractRegistry platform) (revision : Revision platform) :
    Except Raised (InMemoryContractRegistry platform) :=
  match registry.revision? revision.identity with
  | some existing => do
      raiseWhen (existing.digest != revision.digest ||
          existing.semanticDocument != revision.semanticDocument)
        (.valueError "an immutable contract revision already exists with different content")
      .ok registry
  | none => do
      registry.requireMonotonic revision
      .ok { registry with revisions := registry.revisions ++ [revision] }

def authorize (verifier : HumanAttestationVerifier) (allowRepositoryFixture : Bool)
    (decision : RevisionDecisionRecord platform) : Except Raised Unit :=
  if decision.authorityKind = "verified_human" then
    match verifier (decision.authority.field "attestation") decision.humanSubjectDigest with
    | .ok _ => .ok ()
    | .error failure => .error failure.raised
  else
    raiseWhen (!allowRepositoryFixture)
      (.permissionError "repository fixture acceptance is restricted to the legacy import path")

/-- Accepted may become superseded; every other change of decision conflicts. -/
def conflicts (existing decision : String) : Bool :=
  existing != decision && !(existing == "accepted" && decision == "superseded")

/-- `dict[key] = value`. -/
def setDecision (decisions : List (RevisionKey × RevisionDecisionRecord platform))
    (key : RevisionKey) (decision : RevisionDecisionRecord platform) :
    List (RevisionKey × RevisionDecisionRecord platform) :=
  match Table.find Prod.fst decisions key with
  | some _ => Table.modify Prod.fst decisions key fun entry => (entry.1, decision)
  | none => decisions ++ [(key, decision)]

def decide (verifier : HumanAttestationVerifier) (allowRepositoryFixture : Bool)
    (registry : InMemoryContractRegistry platform) (decision : RevisionDecisionRecord platform) :
    Except Raised (InMemoryContractRegistry platform) := do
  authorize verifier allowRepositoryFixture decision
  let key := identityKey decision.revisionRef
  raiseWhen (!(registry.revision? key).any fun revision =>
      .str revision.digest == decision.revisionRef.field "digest")
    (.valueError "decision references an unknown or mismatched revision")
  let existing := registry.decision? key
  raiseWhen (existing.isNone && decision.decision == "superseded")
    (.valueError "only an accepted revision can be superseded")
  raiseWhen (existing.any fun previous => conflicts previous.decision decision.decision)
    (.valueError "contract revision already has a conflicting decision")
  .ok { registry with decisions := setDecision registry.decisions key decision }

def resolve (registry : InMemoryContractRegistry platform) : ContractResolver platform :=
  fun reference =>
    match registry.revision? (identityKey reference) with
    | none => .error (compileReferenceNotFound reference)
    | some revision => do
        raiseWhen (.str revision.digest != reference.field "digest")
          (compileDigestMismatch reference)
        raiseWhen (!(registry.decision? (identityKey reference)).any fun decision =>
            decision.decision == "accepted")
          (compileDependencyNotAccepted reference)
        .ok revision

/-! ## What adding revisions takes -/

theorem le_foldl_max (start : Int) (numbers : List Int) :
    start ≤ numbers.foldl max start ∧ (∀ number ∈ numbers, number ≤ numbers.foldl max start) ∧
      (numbers.foldl max start = start ∨ numbers.foldl max start ∈ numbers) := by
  induction numbers generalizing start with
  | nil => simp
  | cons number rest ih =>
      obtain ⟨above, bound, attained⟩ := ih (max start number)
      simp only [List.foldl_cons]
      refine ⟨le_trans (le_max_left _ _) above, ?_, ?_⟩
      · intro other member
        rcases List.mem_cons.mp member with rfl | later
        · exact le_trans (le_max_right _ _) above
        · exact bound other later
      · rcases attained with same | inside
        · rw [same]
          rcases max_choice start number with left | right
          · exact Or.inl left
          · exact Or.inr (by rw [right]; exact List.mem_cons_self)
        · exact Or.inr (List.mem_cons_of_mem _ inside)

theorem latestNumber_spec (numbers : List Int) :
    0 ≤ latestNumber numbers ∧ (∀ number ∈ numbers, number ≤ latestNumber numbers) ∧
      (latestNumber numbers = 0 ∨ latestNumber numbers ∈ numbers) := le_foldl_max 0 numbers

/-- The next number of a line: the first one, or the successor of a number below it. -/
theorem eq_latestNumber_succ_iff {numbers : List Int} {number : Int}
    (below : ∀ other ∈ numbers, 1 ≤ other ∧ other < number) :
    number = latestNumber numbers + 1 ↔ number = 1 ∨ number - 1 ∈ numbers := by
  obtain ⟨nonneg, bound, attained⟩ := latestNumber_spec numbers
  constructor
  · intro same
    rcases attained with none | inside
    · exact Or.inl (by omega)
    · refine Or.inr ?_
      rwa [show number - 1 = latestNumber numbers by omega]
  · rintro (first | inside)
    · rcases attained with none | inside
      · omega
      · have := below _ inside
        omega
    · have upper := bound _ inside
      rcases attained with none | attained
      · have := below _ inside
        omega
      · have := (below _ attained).2
        omega

@[simp] theorem identity_eq (revision : Revision platform) :
    revision.identity =
      (.str revision.kind.name, .str revision.logicalId, .int revision.number) := rfl

/-- Each revision has the number after the latest of its line that was seen before. -/
def Increments (seen : List (Revision platform)) : List (Revision platform) → Prop
  | [] => True
  | revision :: rest =>
      revision.number =
          latestNumber ((seen.filter (sameLine revision)).map Revision.number) + 1 ∧
        Increments (seen ++ [revision]) rest

variable {revisions : List (Revision platform)}

theorem increments_iff {seen : List (Revision platform)} :
    Increments seen revisions ↔
      ∀ earlier revision later, revisions = earlier ++ revision :: later →
        revision.number = latestNumber
          (((seen ++ earlier).filter (sameLine revision)).map Revision.number) + 1 := by
  induction revisions generalizing seen with
  | nil => simp [Increments]
  | cons first rest ih =>
      rw [Increments, ih]
      constructor
      · rintro ⟨head, tail⟩ earlier revision later split
        cases earlier with
        | nil =>
            cases split
            simpa using head
        | cons other earlier =>
            cases split
            simpa using tail earlier revision later rfl
      · intro each
        refine ⟨by simpa using each [] first rest rfl, ?_⟩
        intro earlier revision later split
        simpa using each (first :: earlier) revision later (by rw [split]; rfl)

/-- Revisions that come in the order of their numbers can be added exactly when none is
missing in between. -/
theorem increments_iff_predecessor
    (ordered : revisions.Pairwise fun earlier later =>
      sameLine later earlier = true → earlier.number < later.number) :
    Increments [] revisions ↔
      ∀ revision ∈ revisions, revision.number = 1 ∨
        ∃ other ∈ revisions, sameLine revision other = true ∧
          other.number = revision.number - 1 := by
  rw [increments_iff]
  have next : ∀ earlier revision later, revisions = earlier ++ revision :: later →
      (revision.number = latestNumber
          ((([] ++ earlier).filter (sameLine revision)).map Revision.number) + 1 ↔
        revision.number = 1 ∨ revision.number - 1 ∈
          (earlier.filter (sameLine revision)).map Revision.number) := by
    intro earlier revision later split
    rw [List.nil_append]
    refine eq_latestNumber_succ_iff fun number member => ?_
    obtain ⟨other, inside, rfl⟩ := List.mem_map.mp member
    obtain ⟨before, line⟩ := List.mem_filter.mp inside
    rw [split] at ordered
    exact ⟨other.number_pos,
      (List.pairwise_append.mp ordered).2.2 other before revision List.mem_cons_self line⟩
  constructor
  · intro each revision member
    obtain ⟨earlier, later, split⟩ := List.append_of_mem member
    refine ((next earlier revision later split).mp (each earlier revision later split)).imp_right ?_
    intro inside
    obtain ⟨other, found, number⟩ := List.mem_map.mp inside
    obtain ⟨before, line⟩ := List.mem_filter.mp found
    exact ⟨other, by rw [split]; exact List.mem_append_left _ before, line, number⟩
  · intro each earlier revision later split
    refine (next earlier revision later split).mpr ?_
    refine (each revision (by rw [split]; simp)).imp_right ?_
    rintro ⟨other, member, line, number⟩
    refine List.mem_map.mpr ⟨other, List.mem_filter.mpr ⟨?_, line⟩, number⟩
    -- a smaller number of the same line cannot come later
    rw [split] at member ordered
    rcases List.mem_append.mp member with before | rest
    · exact before
    · rcases List.mem_cons.mp rest with rfl | after
      · omega
      · have line' : sameLine other revision = true := by
          simp only [sameLine, Bool.and_eq_true, decide_eq_true_eq] at line ⊢
          exact ⟨line.1.symm, line.2.symm⟩
        have less := (List.pairwise_cons.mp (List.pairwise_append.mp ordered).2.1).1 other after line'
        omega

theorem foldlM_add_ok {registry after : InMemoryContractRegistry platform}
    (distinct : ((registry.revisions ++ revisions).map Revision.identity).Nodup) :
    revisions.foldlM add registry = .ok after ↔
      after = { registry with revisions := registry.revisions ++ revisions } ∧
        Increments registry.revisions revisions := by
  induction revisions generalizing registry with
  | nil =>
      rw [List.foldlM_nil, List.append_nil]
      exact ⟨fun same => ⟨(Except.ok.inj same).symm, trivial⟩, fun ⟨same, _⟩ => by rw [same]; rfl⟩
  | cons revision rest ih =>
      have absent : registry.revision? revision.identity = none := by
        refine Table.find_eq_none.mpr fun other member same => ?_
        rw [List.map_append, List.nodup_append] at distinct
        exact distinct.2.2 _ (List.mem_map_of_mem member) _
          (List.mem_map_of_mem List.mem_cons_self) same
      have step : registry.add revision = (do
          registry.requireMonotonic revision
          .ok { registry with revisions := registry.revisions ++ [revision] }) := by
        simp only [add, absent]
      simp only [List.foldlM_cons, step, bind_ok, requireMonotonic, raiseWhen_ok,
        bne_eq_false_iff_eq, Except.ok.injEq, Increments]
      constructor
      · rintro ⟨_, ⟨_, number, rfl⟩, rest⟩
        have later := (ih (by simpa using distinct)).mp rest
        exact ⟨by simpa using later.1, number, later.2⟩
      · rintro ⟨same, number, later⟩
        exact ⟨_, ⟨(), number, rfl⟩, (ih (by simpa using distinct)).mpr ⟨by simpa using same, later⟩⟩

/-! ## What deciding takes -/

/-- A decision that the registry takes after a previous one. -/
def Allowed (previous : Option String) (decision : String) : Prop :=
  (previous = none → decision ≠ "superseded") ∧
    ∀ existing, previous = some existing → conflicts existing decision = false

/-- The decision that counts for a revision. -/
def standing (registry : InMemoryContractRegistry platform) (key : RevisionKey) : Option String :=
  (registry.decision? key).map RevisionDecisionRecord.decision

theorem decision?_setDecision (decisions : List (RevisionKey × RevisionDecisionRecord platform))
    (revisions : List (Revision platform)) (key wanted : RevisionKey)
    (decision : RevisionDecisionRecord platform) :
    decision? ⟨revisions, setDecision decisions key decision⟩ wanted =
      if wanted = key then some decision else decision? ⟨revisions, decisions⟩ wanted := by
  unfold decision? setDecision
  cases found : Table.find Prod.fst decisions key with
  | none =>
      simp only [Table.find_append]
      split_ifs with same
      · subst same
        rw [found]
        simp [Table.find]
      · simp [Table.find, Ne.symm same]
  | some entry =>
      simp only
      split_ifs with same
      · subst same
        rw [Table.find_modify_self _ _ _ (by intro; rfl), found]
        rfl
      · rw [Table.find_modify_other _ _ _ _ (by intro; rfl) same]

theorem decide_ok {verifier : HumanAttestationVerifier} {allowRepositoryFixture : Bool}
    {registry after : InMemoryContractRegistry platform}
    {decision : RevisionDecisionRecord platform} {revision : Revision platform}
    (authorized : authorize verifier allowRepositoryFixture decision = .ok ())
    (found : registry.revision? (identityKey decision.revisionRef) = some revision)
    (digest : decision.revisionRef.field "digest" = .str revision.digest) :
    registry.decide verifier allowRepositoryFixture decision = .ok after ↔
      Allowed (registry.standing (identityKey decision.revisionRef)) decision.decision ∧
        after = { registry with
          decisions := setDecision registry.decisions (identityKey decision.revisionRef) decision } := by
  have known : (!(registry.revision? (identityKey decision.revisionRef)).any fun revision =>
      .str revision.digest == decision.revisionRef.field "digest") = false := by
    simp [found, digest]
  simp only [decide, authorized, known, bind_ok, raiseWhen_ok, Except.ok.injEq, Allowed,
    standing]
  cases registry.decision? (identityKey decision.revisionRef) with
  | none =>
      simp only [Option.isNone_none, Bool.true_and, beq_eq_false_iff_ne, Option.any_none,
        Option.map_none, forall_const, reduceCtorEq, false_implies, and_true, true_and, exists_const]
      exact and_congr_right fun _ => eq_comm
  | some existing =>
      simp only [Option.isNone_some, Bool.false_and, Option.any_some, Option.map_some, reduceCtorEq,
        false_implies, true_and, Option.some.injEq, forall_eq', exists_const]
      exact and_congr_right fun _ => eq_comm

end InMemoryContractRegistry

end Evidrun.Contracts
