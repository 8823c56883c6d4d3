import Evidrun.Contracts.Envelope
import Evidrun.Evidence.ArtifactManifest

/-!
# Which artifact manifests the verifier accepts

Every entry of a Run is written, and the manifest holds one entry for every key. It is
accepted when no key has two different entries and every checkpoint record can be read back
from the archive.
-/

namespace Evidrun.Evidence

open JsonText DocumentSchema Evidrun.Contracts

set_option autoImplicit false

section Sources

/-! ## What a RunSpec and a checkpoint name can be written -/

variable {platform : Platform}

/-- What `_entry` accepts. -/
structure EntrySource.Formed (platform : Platform) (source : EntrySource) : Prop where
  role : source.role ∈ artifactRoles
  reference : validate platform.coercion Contracts.artifactRef source.artifactRef =
    .ok source.artifactRef
  label : Trimmed source.sourceLabel

theorem visible_of_isDigit {char : Char} (digit : char.isDigit = true) :
    isWhitespace char = false := by
  have code : 48 ≤ char.toNat ∧ char.toNat ≤ 57 := by
    simp only [Char.isDigit, Bool.and_eq_true, decide_eq_true_eq, UInt32.le_iff_toNat_le,
      ge_iff_le] at digit
    exact digit
  simp [isWhitespace]
  omega

theorem trimmed_toString (index : Nat) : Trimmed (toString index) := by
  have digits : toString index = String.ofList (Nat.toDigits 10 index) := rfl
  have seen : ∀ char ∈ Nat.toDigits 10 index, shown (some char) = true := fun char member => by
    have digit := Nat.isDigit_of_mem_toDigits (by decide) (by decide) member
    simp [shown, visible_of_isDigit digit]
  rw [digits]
  refine trimmed_ofList ?_ ?_
  · rw [List.head?_eq_some_head Nat.toDigits_ne_nil]
    exact seen _ (List.head_mem _)
  · rw [List.getLast?_eq_some_getLast Nat.toDigits_ne_nil]
    exact seen _ (List.getLast_mem _)

theorem shown_append {start : String} (visible : shown start.toList.head? = true)
    (rest : String) : shown (start ++ rest).toList.head? = true := by
  rw [String.toList_append, List.head?_append]
  cases head : start.toList.head? with
  | none => simp [head, shown] at visible
  | some char => simpa [head] using visible

theorem formed_enumerated {role label : String} (known : role ∈ artifactRoles)
    (visible : shown label.toList.head? = true) {references : List Json}
    (stable : ∀ reference ∈ references,
      validate platform.coercion artifactRef reference = .ok reference) :
    ∀ source ∈ enumerated role label references, source.Formed platform := by
  intro source member
  obtain ⟨⟨reference, index⟩, inside, rfl⟩ := List.mem_map.mp member
  exact ⟨known, stable _ (List.fst_mem_of_mem_zipIdx inside),
    (trimmed_toString index).append visible⟩

/-- An optional reference that is there. -/
theorem stable_of_given {fields : List (String × Presence × Schema)}
    {check : Json → Except String Unit}
    (formed : WellFormed platform.coercion (.model fields check)) {dump : Json}
    (read : validate platform.coercion (.model fields check) dump = .ok dump) {name : String}
    (listed : optional name artifactRef ∈ fields) (given : dump.field name ≠ .null) :
    validate platform.coercion artifactRef (dump.field name) = .ok (dump.field name) :=
  ((field_source formed read listed).resolve_left fun unset => given unset.1).2.2

theorem formed_checkpointSources (record : CheckpointRecord platform) :
    ∀ source ∈ checkpointArtifactSources record.dump, source.Formed platform := by
  refine formed_enumerated (by decide) (shown_append (shown_append rfl _) _)
    fun reference member => ?_
  obtain ⟨named, given⟩ := List.mem_filter.mp member
  have present : reference ≠ .null := by simpa using given
  have stable {name : String} (listed : optional name artifactRef ∈ _) :=
    stable_of_given (wellFormed_checkpointRecord platform.coercion) record.valid listed
  rcases List.mem_cons.mp named with rfl | later
  · exact stable (by simp) present
  rcases List.mem_cons.mp later with rfl | last
  · exact stable (by simp) present
  · obtain rfl := List.mem_singleton.mp last
    exact stable (by simp) present

section Spec

variable (spec : RunSpec platform)

theorem formed_inputSources :
    ∀ binding ∈ inputBindings spec.dump,
      EntrySource.Formed platform ⟨"scenario_input", binding.field "source",
        "scenario_input:" ++ (binding.field "id").asString⟩ := by
  intro binding member
  have formed := wellFormed_inputBinding platform.coercion
  have stable := spec.binding_stable member
  exact ⟨by simp [artifactRoles],
    field_stable formed stable (show required "source" artifactRef ∈ _ by simp) (by simp),
    Trimmed.append rfl (trimmed_of_stable
      (field_stable formed stable (show required "id" nonEmptyStr ∈ _ by simp) (by simp)))⟩

theorem formed_promptSources :
    ∀ source ∈ enumerated "interaction_prompt" "interaction_prompt:"
      (givenRefs ((spec.dump.field "interaction_protocol").field "system_prompt_ref" ::
        (spec.dump.field "interaction_protocol").items "initial_message_refs")),
      source.Formed platform := by
  have formed := wellFormed_interactionProtocolSpec platform.coercion
  refine formed_enumerated (by decide) rfl fun reference member => ?_
  obtain ⟨named, given⟩ := List.mem_filter.mp member
  rcases List.mem_cons.mp named with rfl | message
  · exact stable_of_given formed spec.protocol_stable (by simp) (by simpa using given)
  · exact items_source formed spec.protocol_stable
      (show tuple "initial_message_refs" artifactRef ∈ _ by simp) _ message

theorem formed_instructionSources :
    ∀ requirement ∈ capabilityRequirements spec.dump,
      ∀ source ∈ enumerated "agent_instruction"
        ("capability_instruction:" ++
          ((requirement.field "capability_ref").field "name").asString ++ ":")
        (requirement.items "instruction_refs"), source.Formed platform := by
  intro requirement member
  refine formed_enumerated (by decide) (shown_append (shown_append rfl _) _) ?_
  exact items_source (wellFormed_capabilityRequirement platform.coercion)
    (spec.requirement_stable member) (show tuple "instruction_refs" artifactRef ∈ _ by simp)

theorem formed_hiddenSources :
    ∀ source ∈ enumerated "hidden_calibration" "hidden_calibration:"
      (((spec.dump.field "evaluation_plan").field "disclosure").items "hidden_input_refs"),
      source.Formed platform := by
  have disclosure := field_stable (wellFormed_evaluationPlanSpec platform.coercion)
    spec.plan_stable
    (show defaulted "disclosure"
      (.obj [("hidden_input_refs", .arr []), ("subject", noSubjectDisclosure)])
      evaluationDisclosure ∈ _ by simp) (by simp)
  exact formed_enumerated (by decide) rfl
    (items_source (wellFormed_evaluationDisclosure platform.coercion) disclosure
      (show tuple "hidden_input_refs" artifactRef ∈ _ by simp))

theorem formed_extensionSources :
    ∀ extension ∈ spec.dump.items "extensions",
      EntrySource.Formed platform ⟨"extension_schema", extension.field "schema_ref",
        "extension_schema:" ++ ((extension.field "namespace").asString ++ ":" ++
          (extension.field "slot").asString)⟩ ∧
      EntrySource.Formed platform ⟨"extension_payload", extension.field "payload_ref",
        "extension_payload:" ++ ((extension.field "namespace").asString ++ ":" ++
          (extension.field "slot").asString)⟩ := by
  intro extension member
  have formed := wellFormed_extensionRef platform.coercion
  have stable := items_source (wellFormed_runSpec platform.coercion) spec.valid
    (show tuple "extensions" extensionRef ∈ _ by simp) extension member
  have slot : Trimmed (extension.field "slot").asString :=
    trimmed_of_stable (field_stable formed stable (show required "slot" nonEmptyStr ∈ _ by simp)
      (by simp))
  have label (start : String) (visible : shown start.toList.head? = true) :
      Trimmed (start ++ ((extension.field "namespace").asString ++ ":" ++
        (extension.field "slot").asString)) := by
    rw [← String.append_assoc]
    exact slot.append (shown_append visible _)
  exact ⟨⟨by simp [artifactRoles],
      field_stable formed stable (show required "schema_ref" artifactRef ∈ _ by simp) (by simp),
      label _ rfl⟩,
    ⟨by simp [artifactRoles],
      field_stable formed stable (show required "payload_ref" artifactRef ∈ _ by simp) (by simp),
      label _ rfl⟩⟩

theorem formed_specSources :
    ∀ source ∈ specArtifactSources spec.dump, source.Formed platform := by
  intro source member
  simp only [specArtifactSources, List.mem_append, List.mem_map, List.mem_flatMap] at member
  rcases member with (((⟨binding, inside, rfl⟩ | prompt) | ⟨requirement, inside, named⟩) | hidden) |
    ⟨extension, inside, named⟩
  · exact formed_inputSources spec binding inside
  · exact formed_promptSources spec source prompt
  · exact formed_instructionSources spec requirement inside source named
  · exact formed_hiddenSources spec source hidden
  · obtain ⟨schema, payload⟩ := formed_extensionSources spec extension inside
    rcases List.mem_cons.mp named with rfl | last
    · exact schema
    · obtain rfl := List.mem_singleton.mp last
      exact payload

end Spec

theorem ComparedRun.formed_sources (run : ComparedRun platform) :
    ∀ source ∈ run.sources, source.Formed platform := by
  intro source member
  rcases List.mem_append.mp member with named | captured
  · exact formed_specSources run.spec source named
  · obtain ⟨dump, inside, listed⟩ := List.mem_flatMap.mp captured
    obtain ⟨record, -, rfl⟩ := List.mem_map.mp inside
    exact formed_checkpointSources record source listed

end Sources

section Entries

/-! ## Entries and their texts -/

variable {platform : Platform}

variable {runId : String} {entry : ArtifactManifestEntry platform}

theorem validate_entryDocument (trimmed : Trimmed runId) {source : EntrySource}
    (formed : source.Formed platform) :
    validate platform.coercion artifactManifestEntry (entryDocument runId source) =
      .ok (entryDocument runId source) := by
  have reference : source.artifactRef ≠ .null := fun unset => by
    simpa [unset, artifactRef, validate] using formed.reference
  have flag (value : Bool) : validate platform.coercion boolean (.bool value) = .ok (.bool value) := by
    simp [boolean, validate, Scalar.parse]
  have reason : Trimmed omissionReason := trimmed_ofList rfl rfl
  have role : validate platform.coercion (literal artifactRoles) (.str source.role) =
      .ok (.str source.role) := by
    simp [literal, validate, Scalar.parse, formed.role]
  exact validate_present
    [("artifact_ref", some source.artifactRef), ("content_included", some (.bool false)),
      ("omission_reason", some (.str omissionReason)),
      ("required_for_portability", some (.bool true)), ("role", some (.str source.role)),
      ("run_id", some (.str runId)), ("source_label", some (.str source.sourceLabel))]
    (by decide)
    (.cons ⟨rfl, reference, formed.reference⟩ <| .cons ⟨rfl, by simp, flag false⟩ <|
      .cons ⟨rfl, by simp, validate_text_iff.mpr reason⟩ <| .cons ⟨rfl, by simp, flag true⟩ <|
      .cons ⟨rfl, by simp, role⟩ <| .cons ⟨rfl, by simp, validate_text_iff.mpr trimmed⟩ <|
      .cons ⟨rfl, by simp, validate_text_iff.mpr formed.label⟩ .nil)
    rfl

theorem entryOf_ok (trimmed : Trimmed runId) {source : EntrySource}
    (formed : source.Formed platform) (entry : ArtifactManifestEntry platform) :
    entryOf platform runId source = .ok entry ↔ entry.dump = entryDocument runId source := by
  rw [entryOf, Instance.modelValidate_ok, validate_entryDocument trimmed formed, Except.ok.injEq,
    eq_comm]

theorem entries_ok (trimmed : Trimmed runId) {sources : List EntrySource}
    (formed : ∀ source ∈ sources, source.Formed platform)
    (entries : List (ArtifactManifestEntry platform)) :
    sources.mapM (entryOf platform runId) = .ok entries ↔
      entries.map Instance.dump = sources.map (entryDocument runId) := by
  rw [mapM_except_ok]
  induction sources generalizing entries with
  | nil => cases entries <;> simp
  | cons source rest ih =>
      have later := ih fun other member => formed other (List.mem_cons_of_mem _ member)
      cases entries with
      | nil => simp
      | cons entry others =>
          simp [later, entryOf_ok trimmed (formed source List.mem_cons_self)]

theorem exists_entries (trimmed : Trimmed runId) {sources : List EntrySource}
    (formed : ∀ source ∈ sources, source.Formed platform) :
    ∃ entries : List (ArtifactManifestEntry platform),
      entries.map Instance.dump = sources.map (entryDocument runId) := by
  induction sources with
  | nil => exact ⟨[], rfl⟩
  | cons source rest ih =>
      obtain ⟨entries, dumps⟩ := ih fun other member => formed other (List.mem_cons_of_mem _ member)
      have valid := validate_entryDocument trimmed (formed source List.mem_cons_self)
      exact ⟨⟨entryDocument runId source, valid⟩ :: entries, by simp [dumps]⟩

theorem entry_ext {left right : ArtifactManifestEntry platform}
    (same : canonicalJson left.semanticDocument = canonicalJson right.semanticDocument) :
    left = right := by
  have formed := wellFormed_artifactManifestEntry platform.coercion
  have ordered (entry : ArtifactManifestEntry platform) : entry.semanticDocument.ordered = true :=
    dropEmpty_ordered _ (validate_ordered formed entry.valid)
  exact (durable_artifactManifestEntry platform.coercion).1.instance_ext formed
    (canonicalJson_injective _ _ (ordered left) (ordered right) same)

theorem mem_documentTexts {entries : List (ArtifactManifestEntry platform)} :
    canonicalJson entry.semanticDocument ∈ documentTexts (entries.map Instance.dump) ↔
      entry ∈ entries := by
  simp only [documentTexts, List.map_map, List.mem_map, Function.comp]
  constructor
  · rintro ⟨other, inside, same⟩
    have found : other = entry := entry_ext same
    exact found ▸ inside
  · exact fun inside => ⟨entry, inside, rfl⟩

theorem documentTexts_subset {left right : List (ArtifactManifestEntry platform)} :
    (documentTexts (left.map Instance.dump)).all
        (· ∈ documentTexts (right.map Instance.dump)) = true ↔ ∀ entry ∈ left, entry ∈ right := by
  rw [List.all_eq_true]
  constructor
  · intro all entry inside
    exact mem_documentTexts.mp (by simpa using all _ (mem_documentTexts.mpr inside))
  · intro all text member
    obtain ⟨dump, inside, rfl⟩ := List.mem_map.mp member
    obtain ⟨entry, listed, rfl⟩ := List.mem_map.mp inside
    exact decide_eq_true (mem_documentTexts.mpr (all entry listed))

/-- Two lists of entries have the same texts when they have the same entries. -/
theorem sameSet_iff {left right : List (ArtifactManifestEntry platform)} :
    sameSet (documentTexts (left.map Instance.dump)) (documentTexts (right.map Instance.dump)) =
      true ↔ ∀ entry, entry ∈ left ↔ entry ∈ right := by
  rw [sameSet, Bool.and_eq_true, documentTexts_subset, documentTexts_subset]
  exact ⟨fun both entry => ⟨both.1 entry, both.2 entry⟩,
    fun same => ⟨fun entry => (same entry).mp, fun entry => (same entry).mpr⟩⟩

/-! ## One entry of every key -/

variable {entries : List (ArtifactManifestEntry platform)}

/-- The dictionary of the entries, by their keys. -/
abbrev keyed (entries : List (ArtifactManifestEntry platform)) :
    List (EntryKey × ArtifactManifestEntry platform) :=
  dictOf (entries.map fun entry => (entryKey entry.dump, entry))

theorem mem_keyed {key : EntryKey} (inside : (key, entry) ∈ keyed entries) :
    key = entryKey entry.dump ∧ entry ∈ entries := by
  obtain ⟨other, listed, same⟩ := List.mem_map.mp (mem_of_mem_dictOf inside)
  obtain ⟨rfl, rfl⟩ := Prod.mk.inj same
  exact ⟨rfl, listed⟩

theorem mem_collapse : entry ∈ collapse platform entries ↔ ∃ key, (key, entry) ∈ keyed entries := by
  simp [collapse, List.mem_map, List.mem_insertionSort]

theorem mem_of_mem_collapse (inside : entry ∈ collapse platform entries) : entry ∈ entries := by
  obtain ⟨key, held⟩ := mem_collapse.mp inside
  exact (mem_keyed held).2

theorem collapse_keys_nodup :
    ((collapse platform entries).map fun entry => entryKey entry.dump).Nodup := by
  have sorted := List.perm_insertionSort
    (fun left right : EntryKey × ArtifactManifestEntry platform => left.1.le right.1) (keyed entries)
  have keys : (collapse platform entries).map (fun entry => entryKey entry.dump) =
      ((keyed entries).insertionSort fun left right => left.1.le right.1).map Prod.fst := by
    rw [collapse, List.map_map]
    refine List.map_congr_left fun held member => ?_
    exact (mem_keyed (sorted.mem_iff.mp member)).1.symm
  rw [keys, (sorted.map Prod.fst).nodup_iff]
  exact dictOf_keys_nodup _

theorem exists_mem_collapse (inside : entry ∈ entries) :
    ∃ kept ∈ collapse platform entries, entryKey kept.dump = entryKey entry.dump := by
  obtain ⟨⟨key, kept⟩, held, named⟩ := List.mem_map.mp
    (key_mem_dictOf (List.mem_map_of_mem inside) : entryKey entry.dump ∈ (keyed entries).map Prod.fst)
  exact ⟨kept, mem_collapse.mpr ⟨key, held⟩, (mem_keyed held).1.symm.trans named⟩

variable (entries) in
/-- Nothing is lost when no two different entries have one key. -/
theorem collapse_complete_iff :
    (∀ entry, entry ∈ entries ↔ entry ∈ collapse platform entries) ↔
      ∀ left ∈ entries, ∀ right ∈ entries,
        entryKey left.dump = entryKey right.dump → left = right := by
  constructor
  · intro complete left leftInside right rightInside same
    exact List.inj_on_of_nodup_map collapse_keys_nodup ((complete left).mp leftInside)
      ((complete right).mp rightInside) same
  · intro single entry
    refine ⟨fun inside => ?_, mem_of_mem_collapse⟩
    obtain ⟨kept, listed, same⟩ := exists_mem_collapse inside
    exact single kept (mem_of_mem_collapse listed) entry inside same ▸ listed

/-! ## The manifest -/

/-- The dump of a manifest with these entries. -/
def manifestDocument (entries : List Json) : Json :=
  .obj [("entries", .arr entries), ("portable", .bool false), ("profile", .str "audit"),
    ("replayable", .bool false), ("schema_version", .str "1")]

theorem artifactManifestOf_ok (entries : List (ArtifactManifestEntry platform)) :
    ∃ manifest, artifactManifestOf platform entries = .ok manifest ∧
      manifest.dump = manifestDocument ((collapse platform entries).map Instance.dump) := by
  have stable : ∀ dump ∈ (collapse platform entries).map Instance.dump,
      validate platform.coercion artifactManifestEntry dump = .ok dump := by
    intro dump member
    obtain ⟨entry, -, rfl⟩ := List.mem_map.mp member
    exact entry.valid
  have unique : validateUniqueEntries
      (manifestDocument ((collapse platform entries).map Instance.dump)) = .ok () := by
    have keys : (((collapse platform entries).map Instance.dump).map entryKey).Nodup := by
      rw [List.map_map]
      exact collapse_keys_nodup
    change raiseIf (!decide (((collapse platform entries).map Instance.dump).map entryKey).Nodup) _ = _
    rw [decide_eq_true keys]
    rfl
  have read : validate platform.coercion artifactManifest
      (.obj [("entries", .arr ((collapse platform entries).map Instance.dump))]) =
      .ok (manifestDocument ((collapse platform entries).map Instance.dump)) :=
    validate_reads
      [("entries", some (.arr ((collapse platform entries).map Instance.dump)),
          some (.arr ((collapse platform entries).map Instance.dump))),
        ("portable", none, some (.bool false)), ("profile", none, some (.str "audit")),
        ("replayable", none, some (.bool false)), ("schema_version", none, some (.str "1"))]
      (by decide)
      (.cons ⟨rfl, reads_items stable _⟩ <| .cons ⟨rfl, rfl⟩ <| .cons ⟨rfl, rfl⟩ <|
        .cons ⟨rfl, rfl⟩ <| .cons ⟨rfl, rfl⟩ .nil) unique
  exact ⟨⟨_, validate_stable (wellFormed_artifactManifest _) _ _ read⟩,
    (Instance.modelValidate_ok _ _ _).mpr read, rfl⟩

end Entries

section Members

/-! ## Members of the archive -/

variable {platform : Platform} {archive : Archive}

theorem semanticDocument_model {coercion : Coercion} {schema : Schema}
    {fields : List (String × Presence × Schema)} {check : Json → Except String Unit}
    (contract : Instance coercion schema) (model : schema = .model fields check) :
    ∃ kept, contract.semanticDocument = .obj kept ∧ kept.map Prod.fst ⊆ names fields := by
  subst model
  obtain ⟨given, dumped, -, shape, valid, -⟩ := validate_model contract.valid
  refine ⟨dropEmptyFields dumped, ?_, fun name named => ?_⟩
  · rw [Instance.semanticDocument, shape, dropEmpty]
  · exact (validateFields_keys valid).subset ((dropEmptyFields_keys dumped).subset named)

theorem popDigest_recordDict (manifest : ArtifactManifest platform) (digest : String) :
    popDigest (recordDict manifest.semanticDocument digest) =
      .ok (.str digest, manifest.semanticDocument) := by
  obtain ⟨kept, shape, listed⟩ := semanticDocument_model manifest rfl
  have unnamed : "digest" ∉ kept.map Prod.fst := fun named =>
    absurd (listed named) (by decide)
  simp only [shape, recordDict, popDigest, get_stamped unnamed, erase_stamped unnamed]

theorem modelValidate_manifest (manifest : ArtifactManifest platform) :
    Instance.modelValidate (wellFormed_artifactManifest platform.coercion)
      manifest.semanticDocument = .ok manifest := by
  rw [Instance.modelValidate_ok]
  exact validate_dropEmpty (wellFormed_artifactManifest _) manifest.valid
    (restores_artifactManifest _ _ _ manifest.valid)

/-- A record is read back from its document unless it has no validations. -/
theorem readCheckpointDocument_ok (record read : CheckpointRecord platform) :
    readCheckpointDocument platform (checkpointDocument record) = .ok read ↔
      hasItems record.dump "validations" = true ∧ read = record := by
  have formed := wellFormed_checkpointRecord platform.coercion
  obtain ⟨kept, shape, listed⟩ := semanticDocument_model record rfl
  have unnamed : "checkpoint_hash" ∉ kept.map Prod.fst := fun named =>
    absurd (listed named) (by decide)
  have erased : (checkpointDocument record).erase "checkpoint_hash" = record.semanticDocument := by
    rw [checkpointDocument, shape]
    exact erase_stamped unnamed _
  have validated : readCheckpointDocument platform (checkpointDocument record) = .ok read ↔
      validate platform.coercion checkpointRecord (dropEmpty record.dump) = .ok read.dump := by
    rw [← Instance.semanticDocument, ← Instance.modelValidate_ok formed, readCheckpointDocument,
      erased, CheckpointRecord.modelValidate]
    cases Instance.modelValidate formed record.semanticDocument <;> simp
  have decodes := (decodes_iff platform formed record).symm.trans
    (checkpointRecord_decodes_iff platform record)
  rw [validated]
  constructor
  · intro again
    have filled : hasItems record.dump "validations" = true := by
      by_contra unfilled
      have empty : record.dump.items "validations" = [] := by simpa [hasItems] using unfilled
      exact not_validate_dropEmpty formed record.valid
        (show required "validations" (.list 0 checkpointValidation) ∈ _ by simp) empty _ again
    rw [decodes.mpr filled] at again
    exact ⟨filled, Instance.ext _ _ (Except.ok.inj again).symm⟩
  · rintro ⟨filled, rfl⟩
    exact decodes.mpr filled

theorem orValueError_ok {Result : Type} {given : Except String Result} {result : Result} :
    orValueError given = .ok result ↔ given = .ok result := by
  cases given <;> simp [orValueError]

end Members

section Acceptance

/-! ## Acceptance -/

variable {platform : Platform} {archive : Archive}

/-- Every checkpoint record of the Run has validations. -/
def ComparedRun.Readable (run : ComparedRun platform) : Prop :=
  ∀ record ∈ run.checkpoints, hasItems record.dump "validations" = true

def EntrySource.artifactId (source : EntrySource) : String :=
  (source.artifactRef.field "artifact_id").asString

/-- No role of the Run names one artifact under two labels or with two descriptions. -/
def ComparedRun.Unrepeated (run : ComparedRun platform) : Prop :=
  ∀ left ∈ run.sources, ∀ right ∈ run.sources,
    left.role = right.role → left.artifactId = right.artifactId → left = right

section

variable {run : ComparedRun platform} {runs : List (ComparedRun platform)}
  {specs : List (String × RunSpec platform)}

theorem checkpointRecords_ok
    (held : readJson archive (checkpointsName run.runId) =
      .ok (.arr (run.checkpoints.map checkpointDocument)))
    (records : List (CheckpointRecord platform)) :
    checkpointRecords platform archive run.runId = .ok records ↔
      run.Readable ∧ records = run.checkpoints := by
  have members : checkpointRecords platform archive run.runId =
      (run.checkpoints.map checkpointDocument).mapM (readCheckpointDocument platform) := by
    simp only [checkpointRecords, readMember, held, documentsOf, bind, Except.bind]
  rw [members, mapM_except_ok, List.forall₂_map_left_iff, ComparedRun.Readable]
  simp only [readCheckpointDocument_ok]
  generalize run.checkpoints = checkpoints
  induction checkpoints generalizing records with
  | nil => cases records <;> simp
  | cons record rest ih =>
      cases records with
      | nil => simp
      | cons read others =>
          have later := ih others
          simp only [List.forall₂_cons, later, List.forall_mem_cons, List.cons.injEq]
          tauto

/-- The verifier finds the entries of a Run again if it can read the checkpoints. -/
theorem expectedRunEntries_ok (trimmed : Trimmed run.runId)
    (held : readJson archive (checkpointsName run.runId) =
      .ok (.arr (run.checkpoints.map checkpointDocument)))
    (found : List (ArtifactManifestEntry platform)) :
    expectedRunEntries archive (run.runId, run.spec) = .ok found ↔
      run.Readable ∧ found.map Instance.dump = run.sources.map (entryDocument run.runId) := by
  have specFormed := formed_specSources run.spec
  have captureFormed : ∀ source ∈ (run.checkpoints.map Instance.dump).flatMap
      checkpointArtifactSources, source.Formed platform := fun source inside =>
    run.formed_sources source (List.mem_append_right _ inside)
  simp only [expectedRunEntries, bind_ok, orValueError_ok, checkpointRecords_ok held,
    entries_ok trimmed specFormed]
  constructor
  · rintro ⟨named, namedDumps, records, ⟨readable, rfl⟩, captured, capturedDumps, both⟩
    rw [entries_ok trimmed captureFormed] at capturedDumps
    obtain rfl := Except.ok.inj both
    refine ⟨readable, ?_⟩
    rw [List.map_append, namedDumps, capturedDumps, ← List.map_append]
    rfl
  · rintro ⟨readable, dumps⟩
    rw [ComparedRun.sources, runArtifactSources, List.map_append, List.map_eq_append_iff] at dumps
    obtain ⟨named, captured, rfl, namedDumps, capturedDumps⟩ := dumps
    exact ⟨named, namedDumps, _, ⟨readable, rfl⟩, captured,
      (entries_ok trimmed captureFormed captured).mpr capturedDumps, rfl⟩

/-- The entries of the Runs. -/
def Names (runs : List (ComparedRun platform)) (entry : ArtifactManifestEntry platform) : Prop :=
  ∃ run ∈ runs, ∃ source ∈ run.sources, entry.dump = entryDocument run.runId source

theorem mem_of_dumps {found : List (ArtifactManifestEntry platform)}
    (dumps : found.map Instance.dump = run.sources.map (entryDocument run.runId))
    {entry : ArtifactManifestEntry platform} :
    entry ∈ found ↔ ∃ source ∈ run.sources, entry.dump = entryDocument run.runId source := by
  have held : entry ∈ found ↔ entry.dump ∈ found.map Instance.dump := by
    refine ⟨List.mem_map_of_mem, fun inside => ?_⟩
    obtain ⟨other, listed, same⟩ := List.mem_map.mp inside
    exact Instance.ext _ _ same ▸ listed
  rw [held, dumps, List.mem_map]
  simp only [eq_comm]

theorem mapM_succeeds {Error Item Output : Type} {read : Item → Except Error Output}
    {items : List Item} :
    (∃ outputs, items.mapM read = .ok outputs) ↔ ∀ item ∈ items, ∃ output, read item = .ok output := by
  simp only [mapM_except_ok]
  induction items with
  | nil => exact ⟨fun _ item inside => absurd inside List.not_mem_nil, fun _ => ⟨[], .nil⟩⟩
  | cons item rest ih =>
      rw [List.forall_mem_cons, ← ih]
      constructor
      · rintro ⟨_, _ | ⟨first, later⟩⟩
        exact ⟨⟨_, first⟩, _, later⟩
      · rintro ⟨⟨output, first⟩, outputs, later⟩
        exact ⟨output :: outputs, .cons first later⟩

theorem mem_flatten_mapM {Error Item Output : Type} {read : Item → Except Error (List Output)}
    {items : List Item} {outputs : List (List Output)} (mapped : items.mapM read = .ok outputs)
    {output : Output} :
    output ∈ outputs.flatten ↔ ∃ item ∈ items, ∃ found, read item = .ok found ∧ output ∈ found := by
  rw [mapM_except_ok] at mapped
  induction mapped with
  | nil => simp
  | cons first _ ih => simp [ih, first]

/-- The exporter writes a manifest with the entries of the Runs, one of every key. -/
theorem exportedManifest_ok (trimmed : ∀ run ∈ runs, Trimmed run.runId) :
    ∃ manifest entries, exportedManifest runs = .ok manifest ∧
      manifest.dump = manifestDocument ((collapse platform entries).map Instance.dump) ∧
      ∀ entry, entry ∈ entries ↔ Names runs entry := by
  have written : ∀ run ∈ runs, ∀ found, run.entries = .ok found ↔
      found.map Instance.dump = run.sources.map (entryDocument run.runId) := fun run inside found =>
    entries_ok (trimmed run inside) run.formed_sources found
  obtain ⟨lists, mapped⟩ := mapM_succeeds.mpr fun run inside => by
    obtain ⟨found, dumps⟩ := exists_entries (trimmed run inside) run.formed_sources
    exact ⟨found, (written run inside found).mpr dumps⟩
  obtain ⟨manifest, made, dump⟩ := artifactManifestOf_ok lists.flatten
  refine ⟨manifest, lists.flatten, ?_, dump, fun entry => ?_⟩
  · simp only [exportedManifest, mapped, bind, Except.bind, made]
  · rw [mem_flatten_mapM mapped]
    constructor
    · rintro ⟨run, inside, found, read, listed⟩
      exact ⟨run, inside, (mem_of_dumps ((written run inside found).mp read)).mp listed⟩
    · rintro ⟨run, inside, named⟩
      obtain ⟨found, dumps⟩ := exists_entries (trimmed run inside) run.formed_sources
      exact ⟨run, inside, found, (written run inside found).mpr dumps,
        (mem_of_dumps dumps).mpr named⟩

/-- What the verifier collects. -/
theorem expected_ok {manifest : ArtifactManifest platform}
    (trimmed : ∀ run ∈ runs, Trimmed run.runId) (holds : HoldsManifest archive runs manifest)
    (listed : ∀ spec, spec ∈ specs ↔ ∃ run ∈ runs, spec = (run.runId, run.spec)) :
    ((∃ expected, specs.mapM (expectedRunEntries archive) = .ok expected) ↔
      ∀ run ∈ runs, run.Readable) ∧
    ∀ expected, specs.mapM (expectedRunEntries archive) = .ok expected →
      ∀ entry, entry ∈ expected.flatten ↔ Names runs entry := by
  have found_iff : ∀ run ∈ runs, ∀ found, expectedRunEntries archive (run.runId, run.spec) =
      .ok found ↔ run.Readable ∧ found.map Instance.dump =
        run.sources.map (entryDocument run.runId) := fun run inside =>
    expectedRunEntries_ok (trimmed run inside) (holds.checkpoints run inside)
  have succeeds : (∃ expected, specs.mapM (expectedRunEntries archive) = .ok expected) ↔
      ∀ run ∈ runs, run.Readable := by
    rw [mapM_succeeds]
    constructor
    · intro all run inside
      obtain ⟨found, read⟩ := all _ ((listed _).mpr ⟨run, inside, rfl⟩)
      exact ((found_iff run inside found).mp read).1
    · intro readable spec inside
      obtain ⟨run, member, rfl⟩ := (listed spec).mp inside
      obtain ⟨found, dumps⟩ := exists_entries (trimmed run member) run.formed_sources
      exact ⟨found, (found_iff run member found).mpr ⟨readable run member, dumps⟩⟩
  refine ⟨succeeds, fun expected mapped entry => ?_⟩
  have readable := succeeds.mp ⟨expected, mapped⟩
  rw [mem_flatten_mapM mapped]
  constructor
  · rintro ⟨spec, inside, found, read, here⟩
    obtain ⟨run, member, rfl⟩ := (listed spec).mp inside
    exact ⟨run, member, (mem_of_dumps ((found_iff run member found).mp read).2).mp here⟩
  · rintro ⟨run, member, named⟩
    obtain ⟨found, dumps⟩ := exists_entries (trimmed run member) run.formed_sources
    exact ⟨_, (listed _).mpr ⟨run, member, rfl⟩, found,
      (found_iff run member found).mpr ⟨readable run member, dumps⟩,
      (mem_of_dumps dumps).mpr named⟩

/-- Two entries of one key are one entry when no Run repeats an artifact in a role. -/
theorem unrepeated_iff (trimmed : ∀ run ∈ runs, Trimmed run.runId)
    (identified : ∀ left ∈ runs, ∀ right ∈ runs, left.runId = right.runId → left = right) :
    (∀ left, Names runs left → ∀ right, Names runs right →
      entryKey left.dump = entryKey right.dump → left = right) ↔
    ∀ run ∈ runs, run.Unrepeated := by
  constructor
  · intro single run inside left leftInside right rightInside role artifact
    have entry (source : EntrySource) (member : source ∈ run.sources) :
        ∃ entry : ArtifactManifestEntry platform, entry.dump = entryDocument run.runId source :=
      ⟨⟨_, validate_entryDocument (trimmed run inside) (run.formed_sources source member)⟩, rfl⟩
    obtain ⟨first, firstDump⟩ := entry left leftInside
    obtain ⟨second, secondDump⟩ := entry right rightInside
    have same := single first ⟨run, inside, left, leftInside, firstDump⟩ second
      ⟨run, inside, right, rightInside, secondDump⟩ (by
        rw [firstDump, secondDump]
        exact EntryKey.mk.injEq .. ▸ ⟨rfl, role, artifact⟩)
    rw [same, secondDump] at firstDump
    obtain ⟨rightRole, rightRef, rightLabel⟩ := right
    simp only [entryDocument, Json.obj.injEq, List.cons.injEq, Prod.mk.injEq, Json.str.injEq,
      true_and, and_true] at firstDump
    cases left
    simp_all
  · rintro single left ⟨run, inside, source, named, dump⟩ right
      ⟨other, otherInside, otherSource, otherNamed, otherDump⟩ same
    rw [dump, otherDump] at same
    have keys : run.runId = other.runId ∧ source.role = otherSource.role ∧
        source.artifactId = otherSource.artifactId := EntryKey.mk.injEq .. ▸ same
    obtain rfl := identified run inside other otherInside keys.1
    have sources := single run inside source named otherSource otherNamed keys.2.1 keys.2.2
    exact Instance.ext _ _ (by rw [dump, otherDump, sources])

theorem artifactManifestValid_true :
    artifactManifestValid archive specs = .ok true ↔ checkArtifactManifest archive specs = .ok true := by
  unfold artifactManifestValid
  cases checkArtifactManifest archive specs with
  | ok valid => exact Iff.rfl
  | error reason => cases reason <;> simp

/-- With the written manifest only the collected entries can differ. -/
theorem checkArtifactManifest_true {manifest : ArtifactManifest platform}
    (holds : HoldsManifest archive runs manifest) {kept : List Json}
    (dump : manifest.dump = manifestDocument kept) :
    checkArtifactManifest archive specs = .ok true ↔
      ∃ expected, specs.mapM (expectedRunEntries archive) = .ok expected ∧
        sameSet (documentTexts (expected.flatten.map Instance.dump)) (documentTexts kept) = true := by
  simp only [checkArtifactManifest, readMember, holds.manifest, bind, Except.bind,
    popDigest_recordDict, modelValidate_manifest, orValueError, dump]
  cases specs.mapM (expectedRunEntries archive) with
  | error reason => simp
  | ok expected => simp [manifestDocument, Json.field, Json.items, Json.get?, List.lookup_cons]

end

/-- The manifest that the exporter writes for these Runs is accepted exactly when every
checkpoint record has validations and no Run names one artifact twice in one role. -/
theorem exported_manifest_accepted_iff (runs : List (ComparedRun platform))
    (trimmed : ∀ run ∈ runs, Trimmed run.runId)
    (identified : ∀ left ∈ runs, ∀ right ∈ runs, left.runId = right.runId → left = right) :
    ∃ manifest, exportedManifest runs = .ok manifest ∧
      ∀ archive, HoldsManifest archive runs manifest →
      ∀ specs : List (String × RunSpec platform),
        (∀ spec, spec ∈ specs ↔ ∃ run ∈ runs, spec = (run.runId, run.spec)) →
        (artifactManifestValid archive specs = .ok true ↔
          ∀ run ∈ runs, run.Readable ∧ run.Unrepeated) := by
  obtain ⟨manifest, entries, exported, dump, named⟩ := exportedManifest_ok trimmed
  refine ⟨manifest, exported, fun archive holds specs listed => ?_⟩
  obtain ⟨succeeds, collected⟩ := expected_ok trimmed holds listed
  have complete := (collapse_complete_iff entries).trans (by
    simp only [named]
    exact unrepeated_iff trimmed identified)
  simp only [named] at complete
  rw [artifactManifestValid_true, checkArtifactManifest_true holds dump, forall₂_and, ← succeeds,
    ← complete]
  simp only [sameSet_iff]
  constructor
  · rintro ⟨expected, mapped, same⟩
    exact ⟨⟨expected, mapped⟩, fun entry => (collected expected mapped entry).symm.trans (same entry)⟩
  · rintro ⟨⟨expected, mapped⟩, same⟩
    exact ⟨expected, mapped, fun entry => (collected expected mapped entry).trans (same entry)⟩

end Acceptance

namespace Sample

open Contracts.Sample

def calibration : Json :=
  .obj [("artifact_id", .str "calibration"), ("classification", .str "internal"),
    ("digest", .str digestText), ("media_type", .str "text/plain")]

/-- A plan with hidden inputs. -/
def calibratedPlan (hidden : List Json) : Json :=
  .obj [("blinding_policy", .obj [("hidden_fields", .arr [])]),
    ("dimensions", .arr [passedDimension]),
    ("disclosure", .obj [("hidden_input_refs", .arr hidden), ("subject", noSubjectDisclosure)]),
    ("human_adjudication_policy", .obj [("adjudicable_stage_ids", .arr []),
      ("required", .bool false)]),
    ("limitations", .arr []),
    ("stages", .arr [.obj [("evaluator_ref", capability), ("hard_gate", .bool false),
      ("id", .str "grade"), ("kind", .str "deterministic_grader"),
      ("output_dimensions", .arr [.str "passed"]), ("parameters", .arr []),
      ("trigger", .obj [("kind", .str "event"), ("reference", .str "subject.responded")])]])]

def calibratedSpec : RunSpec platform :=
  ⟨disclosingSpec (calibratedPlan [calibration]), by decide +kernel⟩

/-- The plan names one hidden input twice. -/
def repeatingSpec : RunSpec platform :=
  ⟨disclosingSpec (calibratedPlan [calibration, calibration]), by decide +kernel⟩

def repeatingRuns : List (ComparedRun platform) :=
  [⟨"run_0", repeatingSpec, []⟩, ⟨"run_1", calibratedSpec, []⟩]

def comparedRuns : List (ComparedRun platform) :=
  [⟨"run_0", calibratedSpec, []⟩, ⟨"run_1", calibratedSpec, []⟩]

/-- The members that the two Runs without checkpoints and a manifest have. -/
def archiveOf (manifest : ArtifactManifest platform) : Archive where
  members := [("checkpoints/run_0.json", .arr []), ("checkpoints/run_1.json", .arr []),
    ("artifact-manifest.json", recordDict manifest.semanticDocument (digestOf platform manifest))]

def specsOf (runs : List (ComparedRun platform)) : List (String × RunSpec platform) :=
  runs.map fun run => (run.runId, run.spec)

theorem holdsManifest_archiveOf {runs : List (ComparedRun platform)}
    (runIds : ∀ run ∈ runs, (run.runId = "run_0" ∨ run.runId = "run_1") ∧ run.checkpoints = [])
    (manifest : ArtifactManifest platform) : HoldsManifest (archiveOf manifest) runs manifest where
  manifest := rfl
  checkpoints run member := by
    obtain ⟨named, unmarked⟩ := runIds run member
    rw [unmarked]
    rcases named with same | same <;> rw [same] <;> rfl

theorem trimmed_runId {text : String} (named : text = "run_0" ∨ text = "run_1") : Trimmed text := by
  rcases named with rfl | rfl <;> exact trimmed_ofList rfl rfl

theorem mem_specsOf {runs : List (ComparedRun platform)} (spec : String × RunSpec platform) :
    spec ∈ specsOf runs ↔ ∃ run ∈ runs, spec = (run.runId, run.spec) := by
  simp [specsOf, eq_comm]

theorem repeated_calibration_rejected :
    ∃ manifest, exportedManifest repeatingRuns = .ok manifest ∧
      HoldsManifest (archiveOf manifest) repeatingRuns manifest ∧
      artifactManifestValid (archiveOf manifest) (specsOf repeatingRuns) ≠ .ok true := by
  have runIds : ∀ run ∈ repeatingRuns,
      (run.runId = "run_0" ∨ run.runId = "run_1") ∧ run.checkpoints = [] := by
    simp [repeatingRuns]
  have trimmed : ∀ run ∈ repeatingRuns, Trimmed run.runId := fun run member =>
    trimmed_runId (runIds run member).1
  have identified : ∀ left ∈ repeatingRuns, ∀ right ∈ repeatingRuns,
      left.runId = right.runId → left = right := by
    simp [repeatingRuns]
  obtain ⟨manifest, entries, exported, dump, named⟩ := exportedManifest_ok trimmed
  have holds := holdsManifest_archiveOf runIds manifest
  refine ⟨manifest, exported, holds, fun accepted => ?_⟩
  obtain ⟨expected, mapped, same⟩ :=
    (checkArtifactManifest_true holds dump).mp (artifactManifestValid_true.mp accepted)
  have collected := (expected_ok trimmed holds mem_specsOf).2 expected mapped
  have single := (collapse_complete_iff entries).mp fun entry =>
    (named entry).trans ((collected entry).symm.trans (sameSet_iff.mp same entry))
  simp only [named] at single
  -- The labels of the two references to the hidden input differ.
  have once := (unrepeated_iff trimmed identified).mp single ⟨"run_0", repeatingSpec, []⟩
    List.mem_cons_self ⟨"hidden_calibration", calibration, "hidden_calibration:0"⟩ (by decide +kernel)
    ⟨"hidden_calibration", calibration, "hidden_calibration:1"⟩ (by decide +kernel) rfl rfl
  exact absurd (congrArg EntrySource.sourceLabel once) (by decide)

theorem accepted_without_repetition :
    ∃ manifest, exportedManifest comparedRuns = .ok manifest ∧
      artifactManifestValid (archiveOf manifest) (specsOf comparedRuns) = .ok true := by
  have runIds : ∀ run ∈ comparedRuns,
      (run.runId = "run_0" ∨ run.runId = "run_1") ∧ run.checkpoints = [] := by
    simp [comparedRuns]
  obtain ⟨manifest, exported, accepted⟩ := exported_manifest_accepted_iff comparedRuns
    (fun run member => trimmed_runId (runIds run member).1) (by simp [comparedRuns])
  refine ⟨manifest, exported, (accepted _ (holdsManifest_archiveOf runIds manifest) _
    mem_specsOf).mpr fun run member => ⟨?_, ?_⟩⟩
  · simp [ComparedRun.Readable, (runIds run member).2]
  · have compared : run = ⟨"run_0", calibratedSpec, []⟩ ∨ run = ⟨"run_1", calibratedSpec, []⟩ := by
      simpa [comparedRuns] using member
    rcases compared with rfl | rfl <;> unfold ComparedRun.Unrepeated <;> decide +kernel

end Sample

end Evidrun.Evidence
