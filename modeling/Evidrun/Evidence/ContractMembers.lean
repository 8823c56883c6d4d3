import Evidrun.Contracts.ExecutionTrust
import Evidrun.Evidence.Execution

/-!
# Contract members of a bundle

The v4 exporter writes one archive member for every revision of a trust closure,
and the verifier reads the revision of a reference back from the member that the
reference names. The name keeps the kind and the number of the revision and its
logical id with every `/` replaced, and the archive cuts a name at a null character.

A member is held as the document that its text reads as.
-/

namespace Evidrun.Evidence

open JsonText DocumentSchema Evidrun.Contracts

set_option autoImplicit false

/-! ## Archives -/

/-- The files of a bundle in the order in which they were first assigned. -/
abbrev Files : Type := List (String × Json)

/-- `files[name] = document`. -/
def setFile (name : String) (document : Json) : Files → Files
  | [] => [(name, document)]
  | (key, value) :: rest =>
      if key = name then (key, document) :: rest else (key, value) :: setFile name document rest

/-- The name of a member: `ZipFile.writestr` truncates it at a null character. -/
def memberName (name : String) : String := String.ofList (name.toList.takeWhile (· != '\x00'))

structure Archive where
  members : Files

def writeArchive (files : Files) : Archive :=
  ⟨files.map fun file => (memberName file.1, file.2)⟩

/-- `read_json`; of several members with a name the last one counts. -/
def readJson (archive : Archive) (name : String) : Except Raised Json :=
  match archive.members.reverse.lookup name with
  | some document => .ok document
  | none => .error (.keyError ("There is no item named '" ++ name ++ "' in the archive"))

/-! ## Member names -/

/-- The logical id as a part of a member name. -/
def safeId (reference : Json) : List Char :=
  (reference.field "logical_id").asString.toList.map fun char => if char = '/' then '_' else char

/-- The folder of the contracts. -/
def contractFolder : List Char := "contracts/".toList

/-- The characters around the parts of a member name. -/
def memberChars (kind id number : List Char) : List Char :=
  contractFolder ++ (kind ++ '/' :: (id ++ '@' :: (number ++ ".json".toList)))

def contractMemberName (reference : Json) : String :=
  String.ofList <| memberChars (reference.field "contract_type").asString.toList (safeId reference)
    (writeInt (integerOf (reference.field "revision")))

variable {platform : Platform}

/-- `_add_trust_contract_members`. -/
def addTrustContractMembers (files : Files) (revisions : List (Revision platform)) : Files :=
  revisions.foldl (fun files revision =>
    setFile (contractMemberName revision.ref)
      (recordDict revision.semanticDocument revision.digest) files) files

/-- `_load_revision`. -/
def loadRevision (platform : Platform) (archive : Archive) (reference : Json) :
    Except Raised (Revision platform) := do
  let document ← readJson archive (contractMemberName reference)
  match document.get? "digest" with
  | none => .error (.keyError "digest")
  | some stated => do
      let revision ← parseRevision platform (document.erase "digest")
      raiseWhen (revision.ref != reference || .str revision.digest != stated)
        (.valueError "bundled contract revision digest mismatch")
      .ok revision

/-- What the names of the other members are made of. -/
structure BundleIds where
  runId : String
  runSpecId : String
  admissionId : String
  trustId : String
  jobId : String
  decisionDigests : List String
  hasEnvelope : Bool

/-- The members that are written before the contracts. -/
def BundleIds.recordNames (ids : BundleIds) : List String :=
  ["bundle.json", "run-specs/" ++ ids.runSpecId ++ ".json",
    "admissions/" ++ ids.admissionId ++ ".json", "runs/" ++ ids.runId ++ ".json",
    "execution-trust/" ++ ids.trustId ++ ".json", "summary.html",
    "events/" ++ ids.runId ++ ".jsonl", "evaluations/" ++ ids.runId ++ ".json",
    "checkpoints/" ++ ids.runId ++ ".json", "execution/jobs/" ++ ids.jobId ++ ".json",
    "execution/attempts/" ++ ids.jobId ++ ".json"] ++
  (ids.decisionDigests.map fun digest => "revision-decisions/" ++ digest ++ ".json") ++
  if ids.hasEnvelope then ["subject-envelopes/" ++ ids.runId ++ ".json"] else []

/-- The files of a bundle, with any content of those that are no contracts. -/
def bundleFiles (ids : BundleIds) (content : String → Json) (revisions : List (Revision platform)) :
    Files :=
  let write := fun files name => setFile name (content name) files
  ["artifact-manifest.json", "checksums.json"].foldl write
    (addTrustContractMembers (ids.recordNames.foldl write []) revisions)

/-- `export_run_v4`. -/
def exportRunV4 (ids : BundleIds) (content : String → Json) (revisions : List (Revision platform)) :
    Archive :=
  writeArchive (bundleFiles ids content revisions)

/-! ## Which names agree -/

/-- A list is split in one way at the first occurrence of an element. -/
theorem split_first {Item : Type} {mark : Item} {left right rest other : List Item}
    (leftClean : mark ∉ left) (rightClean : mark ∉ right)
    (same : left ++ mark :: rest = right ++ mark :: other) : left = right ∧ rest = other := by
  induction left generalizing right with
  | nil =>
      cases right with
      | nil => simpa using same
      | cons head tail =>
          simp only [List.nil_append, List.cons_append, List.cons.injEq] at same
          exact absurd (same.1 ▸ List.mem_cons_self) rightClean
  | cons head tail ih =>
      cases right with
      | nil =>
          simp only [List.nil_append, List.cons_append, List.cons.injEq] at same
          exact absurd (same.1 ▸ List.mem_cons_self) leftClean
      | cons second more =>
          simp only [List.cons_append, List.cons.injEq] at same
          have rest_eq := ih (fun inside => leftClean (List.mem_cons_of_mem _ inside))
            (fun inside => rightClean (List.mem_cons_of_mem _ inside)) same.2
          exact ⟨by rw [same.1, rest_eq.1], rest_eq.2⟩

/-- The same at the last occurrence. -/
theorem split_last {Item : Type} {mark : Item} {left right rest other : List Item}
    (restClean : mark ∉ rest) (otherClean : mark ∉ other)
    (same : left ++ mark :: rest = right ++ mark :: other) : left = right ∧ rest = other := by
  have reversed := congrArg List.reverse same
  simp only [List.reverse_append, List.reverse_cons, List.append_assoc, List.singleton_append]
    at reversed
  obtain ⟨rests, lefts⟩ := split_first (by simpa using restClean) (by simpa using otherClean) reversed
  exact ⟨List.reverse_injective lefts, List.reverse_injective rests⟩

theorem writeInt_injective {left right : Int} (same : writeInt left = writeInt right) :
    left = right := by
  have read := (readNumberToken_writeInt left).2.2
  rw [same, (readNumberToken_writeInt right).2.2] at read
  simpa using read.symm

theorem not_mem_number {mark : Char} (unused : isNumberChar mark = false) (value : Int) :
    mark ∉ writeInt value := by
  intro inside
  have numeric := List.all_eq_true.mp (readNumberToken_writeInt value).1 mark inside
  rw [unused] at numeric
  exact Bool.noConfusion numeric

theorem memberChars_injective {kind other id second number third : List Char}
    (kindClean : '/' ∉ kind) (otherClean : '/' ∉ other) (numberClean : '@' ∉ number)
    (thirdClean : '@' ∉ third) (same : memberChars kind id number = memberChars other second third) :
    kind = other ∧ id = second ∧ number = third := by
  have marked : ∀ digits, '@' ∉ digits → '@' ∉ digits ++ ".json".toList := fun digits clean inside =>
    (List.mem_append.mp inside).elim clean (by decide)
  obtain ⟨kinds, rest⟩ := split_first kindClean otherClean (List.append_cancel_left same)
  obtain ⟨ids, numbers⟩ := split_last (marked _ numberClean) (marked _ thirdClean) rest
  exact ⟨kinds, ids, List.append_cancel_right numbers⟩

/-- Two references name one member iff they agree in kind and number, and in the
logical id as far as the name shows it. -/
theorem contractMemberName_eq_iff {left right : Json}
    (leftKind : '/' ∉ (left.field "contract_type").asString.toList)
    (rightKind : '/' ∉ (right.field "contract_type").asString.toList) :
    contractMemberName left = contractMemberName right ↔
      (left.field "contract_type").asString = (right.field "contract_type").asString ∧
        integerOf (left.field "revision") = integerOf (right.field "revision") ∧
        safeId left = safeId right := by
  unfold contractMemberName
  constructor
  · intro same
    obtain ⟨kinds, ids, numbers⟩ := memberChars_injective leftKind rightKind
      (not_mem_number (by decide) _) (not_mem_number (by decide) _) (String.ofList_injective same)
    exact ⟨String.toList_injective kinds, writeInt_injective numbers, ids⟩
  · rintro ⟨kinds, numbers, ids⟩
    rw [kinds, numbers, ids]

theorem slash_not_mem_kind (kind : ContractType) : '/' ∉ kind.name.toList := by
  cases kind <;> decide

/-- Two revisions name one member iff they have the same kind and number and their
logical ids differ at most in `/` and `_`. -/
theorem memberName_ref_iff (left right : Revision platform) :
    contractMemberName left.ref = contractMemberName right.ref ↔
      left.kind = right.kind ∧ left.number = right.number ∧ safeId left.ref = safeId right.ref := by
  have kinds : ∀ revision : Revision platform,
      '/' ∉ (revision.ref.field "contract_type").asString.toList := fun revision =>
    slash_not_mem_kind revision.kind
  refine (contractMemberName_eq_iff (kinds left) (kinds right)).trans ?_
  exact and_congr_left fun _ =>
    ⟨ContractType.name_injective, fun same => congrArg ContractType.name same⟩

/-! ## Reading members back -/

theorem memberName_clean (name : String) : '\x00' ∉ (memberName name).toList := by
  rw [memberName, String.toList_ofList]
  intro inside
  simpa using List.mem_takeWhile_imp inside

section

variable {name : String} {archive : Archive} {document : Json} {files : Files}
  {fields : List (String × Json)}

theorem memberName_of_clean (clean : '\x00' ∉ name.toList) : memberName name = name := by
  rw [memberName, List.takeWhile_eq_self_iff.mpr, String.ofList_toList]
  intro char inside
  simpa using fun null : char = '\x00' => clean (null ▸ inside)

theorem readJson_ok :
    readJson archive name = .ok document ↔ archive.members.reverse.lookup name = some document := by
  unfold readJson
  cases archive.members.reverse.lookup name <;> simp

/-- A name with a null character is the name of no member. -/
theorem readJson_clean (read : readJson (writeArchive files) name = .ok document) :
    '\x00' ∉ name.toList := by
  obtain ⟨_, _, split, _⟩ := List.lookup_eq_some_iff.mp (readJson_ok.mp read)
  have member : (name, document) ∈ (writeArchive files).members := by
    rw [← List.mem_reverse, split]
    simp
  obtain ⟨file, _, same⟩ := List.mem_map.mp member
  have named : memberName file.1 = name := congrArg Prod.fst same
  rw [← named]
  exact memberName_clean file.1

/-- A member is read back if every member of its name has its content. -/
theorem readJson_of_mem (member : (name, document) ∈ archive.members)
    (only : ∀ other, (name, other) ∈ archive.members → other = document) :
    readJson archive name = .ok document := by
  rw [readJson_ok]
  cases found : archive.members.reverse.lookup name with
  | none =>
      have absent := List.lookup_eq_none_iff.mp found (name, document) (List.mem_reverse.mpr member)
      simp at absent
  | some other =>
      obtain ⟨_, _, split, _⟩ := List.lookup_eq_some_iff.mp found
      have inside : (name, other) ∈ archive.members := by
        rw [← List.mem_reverse, split]
        simp
      rw [only other inside]

/-- The content of a revision has no digest in it. -/
theorem semanticDocument_fields (revision : Revision platform) :
    ∃ fields, revision.semanticDocument = .obj fields ∧ "digest" ∉ fields.map Prod.fst := by
  obtain ⟨given, dumped, shape, valid⟩ := revision.fields_valid
  refine ⟨dropEmptyFields dumped, ?_, fun named => ?_⟩
  · rw [Revision.semanticDocument, Instance.semanticDocument, ← Revision.dump, shape, dropEmpty]
  · have listed := (validateFields_keys valid).subset ((dropEmptyFields_keys dumped).subset named)
    rw [names_revisionFields] at listed
    revert listed
    decide

theorem lookup_of_not_mem (absent : name ∉ fields.map Prod.fst) : fields.lookup name = none := by
  rw [List.lookup_eq_none_iff]
  intro field member
  simpa using fun same : name = field.1 => absent (same ▸ List.mem_map_of_mem member)

theorem get_stamped (absent : name ∉ fields.map Prod.fst) (stamp : Json) :
    (Json.obj (fields ++ [(name, stamp)])).get? name = some stamp := by
  simp [Json.get?, List.lookup_append, lookup_of_not_mem absent]

theorem erase_stamped (absent : name ∉ fields.map Prod.fst) (stamp : Json) :
    (Json.obj (fields ++ [(name, stamp)])).erase name = .obj fields := by
  rw [Json.erase, List.filter_append, List.filter_eq_self.mpr]
  · simp
  · intro field member
    simpa using fun same : field.1 = name => absent (same ▸ List.mem_map_of_mem member)

/-- The member of a revision is read as the revision. -/
theorem loadRevision_of_read {revision : Revision platform}
    (read : readJson archive (contractMemberName revision.ref) =
      .ok (recordDict revision.semanticDocument revision.digest)) :
    ∃ again, loadRevision platform archive revision.ref = .ok again ∧
      Revision.Reread revision again := by
  obtain ⟨fields, shape, unnamed⟩ := semanticDocument_fields revision
  obtain ⟨again, parsed, reread⟩ := revision.parseRevision_semanticDocument
  have stamped : recordDict revision.semanticDocument revision.digest =
      .obj (fields ++ [("digest", .str revision.digest)]) := by rw [shape, recordDict]
  rw [stamped] at read
  refine ⟨again, ?_, reread⟩
  simp only [loadRevision, read, get_stamped unnamed, erase_stamped unnamed, ← shape, parsed, bind,
    Except.bind, reread.ref, reread.digest, raiseWhen]
  simp

theorem loadRevision_ok {reference : Json} {revision : Revision platform}
    (loaded : loadRevision platform archive reference = .ok revision) :
    (∃ document, readJson archive (contractMemberName reference) = .ok document) ∧
      revision.ref = reference := by
  unfold loadRevision at loaded
  obtain ⟨document, read, loaded⟩ := (bind_ok _ _ _).mp loaded
  refine ⟨⟨document, read⟩, ?_⟩
  split at loaded
  · simp at loaded
  · simp only [bind_ok, raiseWhen_ok, Bool.or_eq_false_iff, bne_eq_false_iff_eq,
      Except.ok.injEq] at loaded
    obtain ⟨_, _, _, ⟨same, _⟩, rfl⟩ := loaded
    exact same

/-! ## The files of a bundle -/

/-- A new name goes to the end. -/
theorem setFile_fresh (fresh : name ∉ files.map Prod.fst) (document : Json) :
    setFile name document files = files ++ [(name, document)] := by
  induction files with
  | nil => rfl
  | cons head rest ih =>
      simp only [List.map_cons, List.mem_cons, not_or] at fresh
      rw [setFile, if_neg (Ne.symm fresh.1), ih fresh.2, List.cons_append]

/-- The member of a revision. -/
def contractMember (revision : Revision platform) : String × Json :=
  (contractMemberName revision.ref, recordDict revision.semanticDocument revision.digest)

/-- Contracts with distinct and new names go to the end, one by one. -/
theorem addTrustContractMembers_fresh {revisions : List (Revision platform)}
    (distinct : (revisions.map fun revision => contractMemberName revision.ref).Nodup)
    (fresh : ∀ revision ∈ revisions, contractMemberName revision.ref ∉ files.map Prod.fst) :
    addTrustContractMembers files revisions = files ++ revisions.map contractMember := by
  unfold addTrustContractMembers
  induction revisions generalizing files with
  | nil => simp
  | cons revision rest ih =>
      rw [List.map_cons, List.nodup_cons] at distinct
      rw [List.foldl_cons, setFile_fresh (fresh revision List.mem_cons_self), ih distinct.2]
      · simp [contractMember]
      · intro other member
        simp only [List.map_append, List.map_cons, List.map_nil, List.mem_append, List.mem_singleton,
          not_or]
        exact ⟨fresh other (List.mem_cons_of_mem _ member), fun same =>
          distinct.1 (same ▸ List.mem_map_of_mem member)⟩

def isContractName (name : String) : Bool := startsWith contractFolder name

theorem isContractName_contractMemberName (reference : Json) :
    isContractName (contractMemberName reference) = true := by
  rw [isContractName, startsWith, contractMemberName, String.toList_ofList, memberChars,
    List.isPrefixOf_iff_prefix]
  exact List.prefix_append _ _

/-- A name that parts from the folder of the contracts is in another one. -/
def partsFromContracts (start : String) : Bool :=
  !(contractFolder.isPrefixOf start.toList || start.toList.isPrefixOf contractFolder)

theorem isContractName_file {folder : String} (id extension : String)
    (parts : partsFromContracts folder = true) :
    isContractName (folder ++ id ++ extension) = false := by
  simp only [partsFromContracts, Bool.not_eq_true', Bool.or_eq_false_iff] at parts
  rw [isContractName, startsWith, String.toList_append, String.toList_append, List.append_assoc,
    Bool.eq_false_iff, ne_eq, List.isPrefixOf_iff_prefix]
  intro inside
  rcases List.prefix_or_prefix_of_prefix inside (List.prefix_append _ _) with longer | shorter
  · simp [List.isPrefixOf_iff_prefix.mpr longer] at parts
  · simp [List.isPrefixOf_iff_prefix.mpr shorter] at parts

theorem recordNames_no_contract (ids : BundleIds) :
    ∀ name ∈ ids.recordNames, isContractName name = false := by
  intro name member
  simp only [BundleIds.recordNames, List.mem_append, List.mem_cons, List.not_mem_nil, or_false,
    List.mem_map] at member
  rcases member with (member | ⟨digest, -, rfl⟩) | envelope
  · rcases member with rfl | rfl | rfl | rfl | rfl | rfl | rfl | rfl | rfl | rfl | rfl <;>
      first
        | exact isContractName_file _ _ (by decide)
        | decide
  · exact isContractName_file _ _ (by decide)
  · split_ifs at envelope
    · rw [List.mem_singleton.mp envelope]
      exact isContractName_file _ _ (by decide)
    · simp at envelope

/-- The contracts among the files. -/
def contractsOf (files : Files) : Files := files.filter fun file => isContractName file.1

theorem contractsOf_setFile (other : isContractName name = false) (document : Json) (files : Files) :
    contractsOf (setFile name document files) = contractsOf files := by
  induction files with
  | nil => simp [setFile, contractsOf, other]
  | cons head rest ih =>
      rw [setFile]
      split_ifs with same
      · simp [contractsOf, same, other]
      · simp only [contractsOf, List.filter_cons] at ih ⊢
        rw [ih]

end

theorem contractsOf_foldl {names : List String} (content : String → Json)
    (others : ∀ name ∈ names, isContractName name = false) (files : Files) :
    contractsOf (names.foldl (fun files name => setFile name (content name) files) files) =
      contractsOf files := by
  induction names generalizing files with
  | nil => rfl
  | cons name rest ih =>
      rw [List.foldl_cons, ih (fun other member => others other (List.mem_cons_of_mem _ member)),
        contractsOf_setFile (others name List.mem_cons_self)]

/-- The contracts of a bundle are those of the revisions if these have distinct names. -/
theorem contractsOf_bundleFiles (ids : BundleIds) (content : String → Json)
    {revisions : List (Revision platform)}
    (distinct : (revisions.map fun revision => contractMemberName revision.ref).Nodup) :
    contractsOf (bundleFiles ids content revisions) = revisions.map contractMember := by
  have records := contractsOf_foldl content (recordNames_no_contract ids) []
  rw [bundleFiles, contractsOf_foldl content (by decide), addTrustContractMembers_fresh distinct]
  · rw [contractsOf, List.filter_append, ← contractsOf, records, List.filter_eq_self.mpr]
    · rfl
    · intro file member
      obtain ⟨revision, _, rfl⟩ := List.mem_map.mp member
      exact isContractName_contractMemberName revision.ref
  · intro revision _ taken
    obtain ⟨file, member, same⟩ := List.mem_map.mp taken
    have contract : file ∈ contractsOf (ids.recordNames.foldl
        (fun files name => setFile name (content name) files) []) := by
      refine List.mem_filter.mpr ⟨member, ?_⟩
      rw [same]
      exact isContractName_contractMemberName revision.ref
    rw [records] at contract
    simp [contractsOf] at contract

theorem isContractName_memberName (name : String) :
    isContractName (memberName name) = isContractName name := by
  rw [isContractName, isContractName, startsWith, startsWith, memberName, String.toList_ofList,
    Bool.eq_iff_iff, List.isPrefixOf_iff_prefix, List.isPrefixOf_iff_prefix]
  constructor
  · exact fun shown => shown.trans (List.takeWhile_prefix _)
  · rintro ⟨rest, whole⟩
    rw [← whole, List.takeWhile_append_of_pos (List.all_eq_true.mp (by decide))]
    exact List.prefix_append _ _

/-! ## The closure of a trust record -/

/-- The logical ids hold no null character, and ids of one kind and number do not
differ in `/` and `_` only. -/
def SeparateIds (references : List Json) : Prop :=
  (∀ reference ∈ references, '\x00' ∉ (reference.field "logical_id").asString.toList) ∧
    ∀ left ∈ references, ∀ right ∈ references,
      left.field "contract_type" = right.field "contract_type" →
      left.field "revision" = right.field "revision" → safeId left = safeId right →
      left.field "logical_id" = right.field "logical_id"

instance (references : List Json) : Decidable (SeparateIds references) := by
  unfold SeparateIds
  infer_instance

/-- The references of a trust record have distinct identities. -/
theorem trust_identities (trust : ExecutionTrustRecord platform) :
    ((trust.dump.items "revision_refs").map identityKey).Nodup := by
  have source := field_source (wellFormed_executionTrustRecord platform) trust.valid
    (show required "revision_refs" (.list 1 contractRef) ∈ _ by simp)
  obtain ⟨found, present, stable⟩ := source.resolve_left (by simp)
  obtain ⟨_, dumped, _, shape, _, checked⟩ := validate_model trust.valid
  rw [← shape, validateRevisionSetAndBindingCoverage] at checked
  cases built : ExecutionRevisionSet.modelValidate platform (revisionSetDocument
      (trust.dump.field "project_id") (trust.dump.field "study_ref")
      (trust.dump.field "revision_refs")) with
  | error reason =>
      rw [built] at checked
      cases checked
  | ok revisionSet =>
      -- the set is built from references in normal form, so it holds the same ones
      have read := (Instance.modelValidate_ok _ _ _).mp built
      have held := get?_of_given (wellFormed_executionRevisionSet _) read
        (show required "revision_refs" (.list 1 contractRef) ∈ executionRevisionSetFields by
          simp [executionRevisionSetFields]) rfl present stable
      have same : revisionSet.dump.items "revision_refs" = trust.dump.items "revision_refs" := by
        rw [Json.items, Json.items, held, found]
      obtain ⟨_, inner, _, innerShape, _, closed⟩ := validate_model revisionSet.valid
      rw [← innerShape] at closed
      simp only [validateClosedSet, raiseIf_bind_ok] at closed
      rw [← same]
      simpa using closed.2.1

theorem null_mem_safeId (reference : Json) :
    '\x00' ∈ safeId reference ↔ '\x00' ∈ (reference.field "logical_id").asString.toList := by
  rw [safeId, List.mem_map]
  constructor
  · rintro ⟨char, inside, same⟩
    split_ifs at same
    · exact absurd same (by decide)
    · exact same ▸ inside
  · exact fun inside => ⟨'\x00', inside, by decide⟩

theorem null_mem_contractMemberName (revision : Revision platform) :
    '\x00' ∈ (contractMemberName revision.ref).toList ↔ '\x00' ∈ revision.logicalId.toList := by
  have kind : '\x00' ∉ (revision.ref.field "contract_type").asString.toList := by
    change '\x00' ∉ revision.kind.name.toList
    cases revision.kind <;> decide
  have number : '\x00' ∉ writeInt (integerOf (revision.ref.field "revision")) :=
    not_mem_number (by decide) _
  have folder : '\x00' ∉ contractFolder := by decide
  have extension : '\x00' ∉ ".json".toList := by decide
  rw [contractMemberName, String.toList_ofList, memberChars]
  simp only [List.mem_append, List.mem_cons, folder, kind, number, extension, false_or, or_false,
    null_mem_safeId]
  simp only [show ('\x00' = '/') = False by simp, show ('\x00' = '@') = False by simp, false_or,
    or_false]
  rfl

section Distinct

variable {revisions : List (Revision platform)} (ids : BundleIds) (content : String → Json)
  (distinct : (revisions.map fun revision => contractMemberName revision.ref).Nodup)
  (clean : ∀ revision ∈ revisions, '\x00' ∉ revision.logicalId.toList)

include clean in
theorem memberName_contract {revision : Revision platform} (inside : revision ∈ revisions) :
    memberName (contractMemberName revision.ref) = contractMemberName revision.ref :=
  memberName_of_clean fun null =>
    clean revision inside ((null_mem_contractMemberName revision).mp null)

include distinct clean

theorem contract_members :
    ((exportRunV4 ids content revisions).members.map Prod.fst).filter isContractName =
      revisions.map fun revision => contractMemberName revision.ref := by
  have shown : isContractName ∘ memberName = isContractName :=
    funext isContractName_memberName
  calc ((exportRunV4 ids content revisions).members.map Prod.fst).filter isContractName
      = (((bundleFiles ids content revisions).map Prod.fst).map memberName).filter isContractName := by
        rw [exportRunV4, writeArchive, List.map_map, List.map_map]
        rfl
    _ = (contractsOf (bundleFiles ids content revisions)).map fun file => memberName file.1 := by
        rw [List.filter_map, shown, List.filter_map, List.map_map]
        rfl
    _ = revisions.map fun revision => memberName (contractMemberName revision.ref) := by
        rw [contractsOf_bundleFiles ids content distinct, List.map_map]
        rfl
    _ = revisions.map fun revision => contractMemberName revision.ref :=
        List.map_congr_left fun revision inside => memberName_contract clean inside

/-- The member of every revision is read back. -/
theorem readJson_contract {revision : Revision platform} (inside : revision ∈ revisions) :
    readJson (exportRunV4 ids content revisions) (contractMemberName revision.ref) =
      .ok (recordDict revision.semanticDocument revision.digest) := by
  have contracts := contractsOf_bundleFiles ids content distinct
  refine readJson_of_mem ?_ fun other member => ?_
  · have listed : contractMember revision ∈ contractsOf (bundleFiles ids content revisions) := by
      rw [contracts]
      exact List.mem_map_of_mem inside
    refine List.mem_map.mpr ⟨contractMember revision, (List.mem_filter.mp listed).1, ?_⟩
    rw [contractMember, memberName_contract clean inside]
  · obtain ⟨file, written, same⟩ := List.mem_map.mp member
    have named : memberName file.1 = contractMemberName revision.ref := congrArg Prod.fst same
    have listed : file ∈ contractsOf (bundleFiles ids content revisions) := by
      refine List.mem_filter.mpr ⟨written, ?_⟩
      rw [← isContractName_memberName, named]
      exact isContractName_contractMemberName revision.ref
    rw [contracts] at listed
    obtain ⟨source, sourceInside, rfl⟩ := List.mem_map.mp listed
    rw [contractMember, memberName_contract clean sourceInside] at named
    have sameRevision : source = revision :=
      List.inj_on_of_nodup_map distinct sourceInside inside named
    have content : (contractMember source).2 = other := congrArg Prod.snd same
    rw [← content, sameRevision]
    rfl

end Distinct

/-- The exporter writes one member for every revision of the closure, and the verifier
reads every reference back as its revision, iff the logical ids are told apart by the
names of the members. -/
theorem closure_members_iff (trust : ExecutionTrustRecord platform)
    (revisions : List (Revision platform))
    (closure : revisions.map Revision.ref = trust.dump.items "revision_refs")
    (ids : BundleIds) (content : String → Json) :
    (((exportRunV4 ids content revisions).members.map Prod.fst).filter isContractName =
          revisions.map (fun revision => contractMemberName revision.ref) ∧
        (revisions.map fun revision => contractMemberName revision.ref).Nodup ∧
        ∀ revision ∈ revisions, ∃ again,
          loadRevision platform (exportRunV4 ids content revisions) revision.ref = .ok again ∧
            Revision.Reread revision again) ↔
      SeparateIds (trust.dump.items "revision_refs") := by
  rw [← closure]
  have identities : (revisions.map Revision.identity).Nodup := by
    have distinct := trust_identities trust
    rwa [← closure, List.map_map] at distinct
  constructor
  · rintro ⟨_, distinct, loaded⟩
    constructor
    · intro reference member
      obtain ⟨revision, inside, rfl⟩ := List.mem_map.mp member
      obtain ⟨again, read, _⟩ := loaded revision inside
      obtain ⟨⟨document, found⟩, _⟩ := loadRevision_ok read
      exact fun null => readJson_clean found ((null_mem_contractMemberName revision).mpr null)
    · intro left leftMember right rightMember kinds numbers same
      obtain ⟨first, firstInside, rfl⟩ := List.mem_map.mp leftMember
      obtain ⟨second, secondInside, rfl⟩ := List.mem_map.mp rightMember
      have named : contractMemberName first.ref = contractMemberName second.ref := by
        simp only [contractMemberName, kinds, numbers, same]
      rw [List.inj_on_of_nodup_map distinct firstInside secondInside named]
  · rintro ⟨clean, separate⟩
    have inj : ∀ first ∈ revisions, ∀ second ∈ revisions,
        contractMemberName first.ref = contractMemberName second.ref → first = second := by
      intro first firstInside second secondInside named
      obtain ⟨kind, number, id⟩ := (memberName_ref_iff first second).mp named
      have sameKind : first.ref.field "contract_type" = second.ref.field "contract_type" :=
        congrArg (fun kind => Json.str (ContractType.name kind)) kind
      have sameNumber : first.ref.field "revision" = second.ref.field "revision" :=
        congrArg Json.int number
      have sameId := separate _ (List.mem_map_of_mem firstInside) _
        (List.mem_map_of_mem secondInside) sameKind sameNumber id
      refine List.inj_on_of_nodup_map identities firstInside secondInside ?_
      rw [Revision.identity, Revision.identity, identityKey, identityKey, sameKind, sameNumber, sameId]
    have distinct : (revisions.map fun revision => contractMemberName revision.ref).Nodup :=
      (List.Nodup.of_map _ identities).map_on inj
    have clean : ∀ revision ∈ revisions, '\x00' ∉ revision.logicalId.toList :=
      fun revision inside => clean revision.ref (List.mem_map_of_mem inside)
    exact ⟨contract_members ids content distinct clean, distinct, fun revision inside =>
      loadRevision_of_read (readJson_contract ids content distinct clean inside)⟩

namespace Sample

open Contracts.Sample (revisionDump scenarioPayload digestText contract controlledStudy)

def scenarioNamed (logicalId : String) : Json := revisionDump .scenario logicalId scenarioPayload

def slashScenario : Revision Contracts.Sample.platform where
  kind := .scenario
  contract := { dump := scenarioNamed "a/b", valid := by decide +kernel }

def underscoreScenario : Revision Contracts.Sample.platform where
  kind := .scenario
  contract := { dump := scenarioNamed "a_b", valid := by decide +kernel }

/-- A trust record over the given references and the sample Study. -/
def trustDump (references : List Json) : Json :=
  .obj [("created_at_utc", .str "2026-01-01T00:00:00Z"), ("kind", .str "unverified_revision_set"),
    ("project_id", .str "project"), ("revision_refs", .arr references),
    ("revision_set_digest", .str digestText), ("run_spec_digest", .str digestText),
    ("schema_version", .str "1"), ("study_ref", contract .study "one"), ("trust_id", .str "trust"),
    ("verified_decisions", .arr [])]

def collidingRevisions : List (Revision Contracts.Sample.platform) :=
  [slashScenario, underscoreScenario, controlledStudy.revision]

def collidingTrust : ExecutionTrustRecord Contracts.Sample.platform where
  dump := trustDump (collidingRevisions.map Revision.ref)
  valid := by decide +kernel

def separateRevisions : List (Revision Contracts.Sample.platform) :=
  [slashScenario, controlledStudy.revision]

def separateTrust : ExecutionTrustRecord Contracts.Sample.platform where
  dump := trustDump (separateRevisions.map Revision.ref)
  valid := by decide +kernel

def bundleIds : BundleIds where
  runId := "run"
  runSpecId := "rspec"
  admissionId := "adm"
  trustId := "trust"
  jobId := "job"
  decisionDigests := []
  hasEnvelope := true

end Sample

/-- The scenarios `a/b` and `a_b` share a member, which then holds the second of them. -/
theorem collidingTrust_loses_scenario :
    Sample.collidingRevisions.map Revision.ref =
        Sample.collidingTrust.dump.items "revision_refs" ∧
      (((exportRunV4 Sample.bundleIds (fun _ => .null) Sample.collidingRevisions).members.map
          Prod.fst).filter isContractName).length = 2 ∧
      loadRevision Contracts.Sample.platform
          (exportRunV4 Sample.bundleIds (fun _ => .null) Sample.collidingRevisions)
          Sample.slashScenario.ref =
        .error (.valueError "bundled contract revision digest mismatch") := by
  decide +kernel

theorem separateTrust_members :
    ∃ again, loadRevision Contracts.Sample.platform
        (exportRunV4 Sample.bundleIds (fun _ => .null) Sample.separateRevisions)
        Sample.slashScenario.ref = .ok again ∧ Revision.Reread Sample.slashScenario again :=
  ((closure_members_iff Sample.separateTrust Sample.separateRevisions (by decide +kernel)
    Sample.bundleIds fun _ => .null).mpr (by decide +kernel)).2.2 Sample.slashScenario
      List.mem_cons_self

end Evidrun.Evidence
