import Evidrun.Contracts.Compiler
import Evidrun.Lib.Aligned

/-!
# What the digest of a Study determines

Two Studies with the same digest document differ at most in the overrides that
the document does not tell: a variant with an empty tuple of stop conditions or
of extensions, and a variant without that override. The compiler tells them apart:
the first replaces what the blueprint declares, the second inherits it.
-/

namespace Evidrun.Contracts

open JsonText DocumentSchema

set_option autoImplicit false

section Digest

variable {platform : Platform}

/-! ## Studies with the same digest document -/

/-- Variants that agree in all that the document tells. -/
structure SameVariant (variant other : Json) : Prop where
  id : variant.field "id" = other.field "id"
  confounders : variant.items "confounders" = other.items "confounders"
  told : ∀ name ∈ toldOverrides.map Prod.fst,
    (variant.field "overrides").field name = (other.field "overrides").field name

structure SameStudy (payload other : Json) : Prop where
  field : ∀ name ∈ keptStudyFields, payload.get? name = other.get? name
  variants : List.Forall₂ SameVariant (payload.items "variants") (other.items "variants")

theorem forall₂_sameVariant {coercion : Coercion} {variants others again : List Json}
    (first : List.Forall₂ (VariantReread coercion) variants again)
    (second : List.Forall₂ (VariantReread coercion) others again) :
    List.Forall₂ SameVariant variants others := by
  induction first generalizing others with
  | nil =>
      cases second
      exact .nil
  | cons head _ ih =>
      cases second with
      | cons otherHead rest =>
          refine .cons ⟨?_, ?_, fun name told => ?_⟩ (ih rest)
          · rw [← head.id, otherHead.id]
          · rw [← head.confounders, otherHead.confounders]
          · rw [← head.field told, otherHead.field told]

theorem sameStudy_of_content {payload other given otherGiven : Json}
    (valid : validate platform.coercion studySpec given = .ok payload)
    (otherValid : validate platform.coercion studySpec otherGiven = .ok other)
    (content : dropEmpty payload = dropEmpty other) : SameStudy payload other := by
  obtain ⟨again, read, _, first⟩ := reread_studySpec valid
  obtain ⟨second, readSecond, _, reread⟩ := reread_studySpec otherValid
  rw [← content, read] at readSecond
  cases readSecond
  exact ⟨fun name kept => by rw [← first.field name kept, reread.field name kept],
    forall₂_sameVariant first.variants reread.variants⟩

theorem SameStudy.field_eq {payload other : Json} (same : SameStudy payload other) {name : String}
    (kept : name ∈ keptStudyFields) :
    payload.field name = other.field name ∧ payload.items name = other.items name := by
  have found := same.field name kept
  exact ⟨by simp only [Json.field, found], by simp only [Json.items, found]⟩

theorem sameStudy_of_digestDocument {study other : StudyRevision platform}
    (same : study.revision.digestDocument = other.revision.digestDocument) :
    SameStudy study.revision.payload other.revision.payload := by
  obtain ⟨given, valid⟩ := study.revision.payload_valid
  obtain ⟨otherGiven, otherValid⟩ := other.revision.payload_valid
  exact sameStudy_of_content valid otherValid (Revision.content_of_digestDocument same)

/-! ## What the document does not tell -/

/-- The stop conditions and extensions that a variant ends up with. -/
def untold (payload variant : Json) : Json × Json :=
  ((select payload .null variant).stopConditions, (select payload .null variant).extensions)

/-- Variants of one id end up with the same stop conditions and extensions. -/
def AgreeUntold (payload other : Json) : Prop :=
  ∀ variant ∈ payload.items "variants", ∀ second ∈ other.items "variants",
    variant.field "id" = second.field "id" → untold payload variant = untold other second

theorem select_eq {payload other variant second : Json} (same : SameStudy payload other)
    (variants : SameVariant variant second) (agree : untold payload variant = untold other second)
    (scenarioRef : Json) :
    select payload scenarioRef variant = select other scenarioRef second := by
  have blueprint := (same.field_eq (show "run_blueprint" ∈ keptStudyFields by decide)).1
  have goal := (same.field_eq (show "goal_ref" ∈ keptStudyFields by decide)).1
  have told := variants.told
  simp only [toldOverrides, List.map_cons, List.map_nil, List.forall_mem_cons] at told
  simp only [untold, select, Prod.mk.injEq, blueprint] at agree
  simp only [select, blueprint, goal, told, agree]

/-! ## Compiling them -/

/-- Two calls that both fail, or return the same value. -/
def SameOutcome {Value : Type} (first second : Except Raised Value) : Prop :=
  (∃ value, first = .ok value ∧ second = .ok value) ∨
    ∃ left right, first = .error left ∧ second = .error right

theorem SameOutcome.of_eq {Value : Type} {first second : Except Raised Value}
    (same : first = second) : SameOutcome first second := by
  cases first with
  | ok value => exact Or.inl ⟨value, rfl, same.symm⟩
  | error left => exact Or.inr ⟨left, left, rfl, same.symm⟩

namespace StudyCompiler

variable (compiler : StudyCompiler platform)

/-- A cell is compiled from what its variant selects. -/
theorem materialize_congr {study other : StudyRevision platform}
    (ref : study.revision.ref = other.revision.ref)
    (same : SameStudy study.revision.payload other.revision.payload) {variant second : Json}
    (variants : SameVariant variant second)
    (agree : untold study.revision.payload variant = untold other.revision.payload second)
    (scenarioRef : Json) (repetition : Int) :
    compiler.materialize study ⟨scenarioRef, variant, repetition⟩ =
      compiler.materialize other ⟨scenarioRef, second, repetition⟩ := by
  have seed := (same.field_eq (show "seed_strategy" ∈ keptStudyFields by decide)).1
  have limitations := (same.field_eq (show "limitations" ∈ keptStudyFields by decide)).2
  simp only [materialize, select_eq same variants agree scenarioRef, runSpecDocument, seedOf, ref,
    seed, limitations, variants.id]

/-- Looking a variant up by its id finds the same variant in both Studies. -/
theorem find?_variant {variants others : List Json}
    (same : List.Forall₂ SameVariant variants others) (id : Json) :
    (variants.find? (fun variant => variant.field "id" == id) = none ∧
        others.find? (fun variant => variant.field "id" == id) = none) ∨
      ∃ variant ∈ variants, ∃ second ∈ others, SameVariant variant second ∧
        variants.find? (fun variant => variant.field "id" == id) = some variant ∧
        others.find? (fun variant => variant.field "id" == id) = some second := by
  induction same with
  | nil => exact Or.inl ⟨rfl, rfl⟩
  | @cons variant second variants others head _ ih =>
      by_cases found : second.field "id" = id
      · exact Or.inr ⟨variant, List.mem_cons_self, second, List.mem_cons_self, head,
          by simp [head.id, found], by simp [found]⟩
      · have skip : variants.find? (fun variant => variant.field "id" == id) =
            (variant :: variants).find? (fun variant => variant.field "id" == id) := by
          simp [head.id, found]
        have skipOther : others.find? (fun variant => variant.field "id" == id) =
            (second :: others).find? (fun variant => variant.field "id" == id) := by
          simp [found]
        rw [← skip, ← skipOther]
        exact ih.imp_right fun ⟨left, leftMem, right, rightMem, rest⟩ =>
          ⟨left, List.mem_cons_of_mem _ leftMem, right, List.mem_cons_of_mem _ rightMem, rest⟩

theorem validateComparison_congr {study other : StudyRevision platform}
    (ref : study.revision.ref = other.revision.ref)
    (same : SameStudy study.revision.payload other.revision.payload)
    (agree : AgreeUntold study.revision.payload other.revision.payload)
    (scenarioRef comparison : Json) :
    compiler.validateComparison study scenarioRef comparison =
      compiler.validateComparison other scenarioRef comparison := by
  have mode := (same.field_eq (show "evidence_mode" ∈ keptStudyFields by decide)).1
  have lookup : ∀ id,
      (variantById study.revision.payload id = .error (.keyError id.asString) ∧
        variantById other.revision.payload id = .error (.keyError id.asString)) ∨
      ∃ variant second, SameVariant variant second ∧
        variantById study.revision.payload id = .ok variant ∧
        variantById other.revision.payload id = .ok second ∧
        compiler.materialize study ⟨scenarioRef, variant, 1⟩ =
          compiler.materialize other ⟨scenarioRef, second, 1⟩ := by
    intro id
    rcases find?_variant same.variants id with
      ⟨first, next⟩ | ⟨variant, inside, second, insideOther, alike, first, next⟩
    · exact Or.inl ⟨by simp [variantById, first], by simp [variantById, next]⟩
    · exact Or.inr ⟨variant, second, alike, by simp [variantById, first],
        by simp [variantById, next],
        compiler.materialize_congr ref same alike
          (agree variant inside second insideOther alike.id) scenarioRef 1⟩
  simp only [validateComparison, mode]
  rcases lookup (comparison.field "baseline_variant") with
    ⟨first, next⟩ | ⟨_, _, _, first, next, baseline⟩
  · simp only [first, next, bind, Except.bind]
  · rw [first, next]
    rcases lookup (comparison.field "candidate_variant") with
      ⟨first, next⟩ | ⟨_, _, alike, first, next, candidate⟩
    · simp only [first, next, baseline, bind, Except.bind]
    · simp only [first, next, baseline, candidate, hasItems, alike.confounders, bind, Except.bind]

theorem forall₂_cells {payload second : Json} (same : SameStudy payload second)
    {related : Cell → Cell → Prop}
    (each : ∀ variant ∈ payload.items "variants", ∀ other ∈ second.items "variants",
      SameVariant variant other → ∀ scenarioRef repetition,
        related ⟨scenarioRef, variant, repetition⟩ ⟨scenarioRef, other, repetition⟩) :
    List.Forall₂ related (cells payload) (cells second) := by
  have scenarios := (same.field_eq (show "scenario_refs" ∈ keptStudyFields by decide)).2
  have repetitions := (same.field_eq (show "repetitions" ∈ keptStudyFields by decide)).1
  have variants : List.Forall₂ (fun variant other => variant ∈ payload.items "variants" ∧
      other ∈ second.items "variants" ∧ SameVariant variant other)
      (payload.items "variants") (second.items "variants") := by
    rw [List.forall₂_iff_zip]
    exact ⟨same.variants.length_eq, fun pair =>
      ⟨(List.of_mem_zip pair).1, (List.of_mem_zip pair).2, (List.forall₂_iff_zip.mp same.variants).2
        pair⟩⟩
  have same_refl : ∀ {Item : Type} (items : List Item), List.Forall₂ (· = ·) items items :=
    fun items => List.forall₂_same.mpr fun _ _ => rfl
  simp only [cells, scenarios, repetitions]
  refine List.rel_flatMap (same_refl _) fun scenarioRef _ sameScenario => ?_
  subst sameScenario
  refine List.rel_flatMap variants fun variant other both => ?_
  refine List.rel_map (fun index _ sameIndex => ?_) (same_refl _)
  subst sameIndex
  exact each variant both.1 other both.2.1 both.2.2 scenarioRef _

/-- Studies that differ in nothing the compiler reads compile alike. -/
theorem compile_congr {study other : StudyRevision platform}
    (ref : study.revision.ref = other.revision.ref)
    (same : SameStudy study.revision.payload other.revision.payload)
    (agree : AgreeUntold study.revision.payload other.revision.payload) :
    compiler.compile study = compiler.compile other := by
  have scenarios := (same.field_eq (show "scenario_refs" ∈ keptStudyFields by decide)).2
  have comparisons := (same.field_eq (show "comparisons" ∈ keptStudyFields by decide)).2
  have compared : compiler.validateComparisons study = compiler.validateComparisons other := by
    simp only [validateComparisons, scenarios, comparisons,
      funext (compiler.validateComparison_congr ref same agree _)]
  have matrix : (cells study.revision.payload).mapM (compiler.materialize study) =
      (cells other.revision.payload).mapM (compiler.materialize other) :=
    Aligned.mapM_congr (forall₂_cells same fun variant inside second insideOther alike _ _ =>
      compiler.materialize_congr ref same alike
        (agree variant inside second insideOther alike.id) _ _)
  simp only [compile, ref, compared, matrix]

/-! ## What a compiled RunSpec tells -/

/-- A value in normal form. -/
def Settled (coercion : Coercion) (schema : Schema) (value : Json) : Prop :=
  value ≠ .null ∧ validate coercion schema value = .ok value

theorem settled_orInherited {coercion : Coercion} {schema : Schema} {override inherited : Json}
    (given : override = .null ∨ Settled coercion schema override)
    (usual : Settled coercion schema inherited) :
    Settled coercion schema (orInherited override inherited) := by
  unfold orInherited
  split_ifs with unset
  · exact usual
  · exact given.resolve_left unset

/-- The stop conditions and extensions that a variant selects are in normal form. -/
theorem settled_untold (study : StudyRevision platform) {variant : Json}
    (member : variant ∈ study.revision.payload.items "variants") :
    Settled platform.coercion (.list 0 stopCondition) (untold study.revision.payload variant).1 ∧
      Settled platform.coercion (.list 0 extensionRef)
        (untold study.revision.payload variant).2 := by
  have overrides := (field_source (wellFormed_variantSpec platform.coercion)
    (study.variant_stable member)
    (show defaulted "overrides" (.obj []) variantOverrides ∈ _ by simp)).resolve_left (by simp)
  have blueprint := study.blueprint_stable
  have own : ∀ name schema, optional name schema ∈ variantOverridesFields →
      (variant.field "overrides").field name = .null ∨
        Settled platform.coercion schema ((variant.field "overrides").field name) := by
    intro name schema field
    have source := field_source (wellFormed_variantOverrides platform.coercion) overrides.2.2 field
    exact source.imp (fun unset => unset.1) fun held => held.2
  have inherited : ∀ name presence schema, presence ≠ .optional →
      (name, presence, schema) ∈ runBlueprintFields →
        Settled platform.coercion schema
          ((study.revision.payload.field "run_blueprint").field name) := by
    intro name presence schema mandatory field
    have source := field_source (wellFormed_runBlueprint platform.coercion) blueprint field
    exact (source.resolve_left fun unset => mandatory unset.2).2
  exact ⟨settled_orInherited (own _ _ (by simp [variantOverridesFields]))
      (inherited "stop_conditions" .required _ (by simp) (by simp [runBlueprintFields, required])),
    settled_orInherited (own _ _ (by simp [variantOverridesFields]))
      (inherited "extensions" (.default (.arr [])) _ (by simp)
        (by simp [runBlueprintFields, tuple, defaulted]))⟩

theorem compiled_variantId {compiler : StudyCompiler platform} {study : StudyRevision platform}
    {cell : Cell} {spec : RunSpec platform}
    (member : cell.variant ∈ study.revision.payload.items "variants")
    (compiled : compiler.materialize study cell = .ok spec) :
    spec.dump.get? "variant_id" = some (cell.variant.field "id") := by
  obtain ⟨resolved, _, read⟩ := materialize_ok compiled
  have id := (field_source (wellFormed_variantSpec platform.coercion) (study.variant_stable member)
    (show required "id" nonEmptyStr ∈ _ by simp)).resolve_left (by simp)
  exact get?_of_given (wellFormed_runSpec platform.coercion) read
    (show required "variant_id" nonEmptyStr ∈ _ by simp) rfl id.2.1 id.2.2

theorem compiled_untold {compiler : StudyCompiler platform} {study : StudyRevision platform}
    {cell : Cell} {spec : RunSpec platform}
    (member : cell.variant ∈ study.revision.payload.items "variants")
    (compiled : compiler.materialize study cell = .ok spec) :
    (spec.dump.field "stop_conditions", spec.dump.field "extensions") =
      untold study.revision.payload cell.variant := by
  obtain ⟨resolved, _, read⟩ := materialize_ok compiled
  obtain ⟨stops, extensions⟩ := settled_untold study member
  have formed := wellFormed_runSpec platform.coercion
  have stopsKept := get?_of_given formed read
    (show required "stop_conditions" (.list 0 stopCondition) ∈ _ by simp) rfl stops.1 stops.2
  have extensionsKept := get?_of_given formed read
    (show tuple "extensions" extensionRef ∈ _ by simp) rfl extensions.1 extensions.2
  exact Prod.ext (Json.field_of_get stopsKept) (Json.field_of_get extensionsKept)

/-- Every variant has a cell. -/
theorem exists_cell (study : StudyRevision platform) {variant : Json}
    (member : variant ∈ study.revision.payload.items "variants") :
    ∃ scenarioRef, (⟨scenarioRef, variant, 1⟩ : Cell) ∈ cells study.revision.payload := by
  have scenarios := items_of_validateMatrix study.payload_checked "scenario_refs" (by simp)
  obtain ⟨scenarioRef, inside⟩ := List.exists_mem_of_ne_nil _ scenarios
  exact ⟨scenarioRef, mem_cells.mpr ⟨inside, member, le_refl 1, study.repetitions_pos⟩⟩

theorem variant_of_id (study : StudyRevision platform) {variant second : Json}
    (member : variant ∈ study.revision.payload.items "variants")
    (memberOther : second ∈ study.revision.payload.items "variants")
    (same : variant.field "id" = second.field "id") : variant = second := by
  have checked := study.payload_checked
  simp only [validateMatrix, raiseIf_bind_ok] at checked
  obtain ⟨_, _, _, _, distinct, _⟩ := checked
  have distinct : ((study.revision.payload.items "variants").map fun item =>
      item.field "id").Nodup := by
    rw [Bool.not_eq_false'] at distinct
    exact of_decide_eq_true distinct
  exact List.inj_on_of_nodup_map distinct member memberOther same

/-- RunSpecs compiled from two Studies tell what their variants ended up with. -/
theorem agreeUntold_of_compiled {study other : StudyRevision platform}
    {specs : List (RunSpec platform)} (compiled : compiler.compile study = .ok specs)
    (compiledOther : compiler.compile other = .ok specs) :
    AgreeUntold study.revision.payload other.revision.payload := by
  intro variant member second memberOther sameId
  obtain ⟨scenarioRef, cell⟩ := exists_cell study member
  obtain ⟨spec, inside, fromStudy⟩ := Aligned.exists_right (compile_ok compiled).2 cell
  obtain ⟨found, foundCell, fromOther⟩ := Aligned.exists_left (compile_ok compiledOther).2 inside
  obtain ⟨_, foundMember, _⟩ := mem_cells.mp foundCell
  have ids := compiled_variantId member fromStudy
  rw [compiled_variantId foundMember fromOther] at ids
  have same : found.variant = second :=
    variant_of_id other foundMember memberOther ((Option.some.inj ids).trans sameId)
  have untolds := compiled_untold member fromStudy
  rw [compiled_untold foundMember fromOther, same] at untolds
  exact untolds.symm

end StudyCompiler

/-- The revision parsed from the document of a Study has the digest of the Study. -/
theorem exists_reparsed (study : StudyRevision platform) :
    ∃ again : StudyRevision platform,
      parseRevision platform study.revision.semanticDocument = .ok again.revision ∧
        again.revision.digestDocument = study.revision.digestDocument := by
  obtain ⟨⟨kind, again⟩, parsed, reread⟩ := study.revision.parseRevision_semanticDocument
  obtain rfl : kind = .study := reread.kind
  exact ⟨again, parsed, reread.digestDocument⟩

end Digest

namespace Sample

def digestText : String := "aaaaaaaaaaaaaaaaaaaaaaaaaaaaaaaaaaaaaaaaaaaaaaaaaaaaaaaaaaaaaaaa"

def platform : Platform where
  sha256 _ := digestText
  uuid7 count := String.ofList (Nat.toDigits 10 count)
  coercion := .strict

def contract (kind : ContractType) (logicalId : String) : Json :=
  .obj [("contract_type", .str kind.name), ("digest", .str digestText),
    ("logical_id", .str logicalId), ("revision", .int 1)]

def capability : Json :=
  .obj [("digest", .str digestText), ("name", .str "runner"), ("namespace", .str "evidrun"),
    ("version", .str "1")]

def revisionDump (kind : ContractType) (logicalId : String) (payload : Json) : Json :=
  .obj [("contract_type", .str kind.name), ("logical_id", .str logicalId), ("payload", payload),
    ("project_id", .str "project"), ("revision", .int 1), ("schema_version", .str "1"),
    ("title", .str "title")]

def goal : Revision platform where
  kind := .goal
  contract :=
    { dump := revisionDump .goal "one" <|
        .obj [("completion_observations", .arr []), ("constraints", .arr []),
          ("evidence_expectations", .arr []), ("instruction", .str "answer"),
          ("learning_targets", .arr []), ("mode", .str "goal_state"),
          ("outcomes", .arr [.obj [("description", .str "answered"), ("id", .str "answered")]])]
      valid := by decide +kernel }

def scenarioPayload : Json :=
  .obj [("description", .str "question"),
    ("input_bindings", .arr [.obj [("id", .str "input"), ("mount_access", .str "read_only"),
      ("role", .str "question"),
      ("source", .obj [("artifact_id", .str "input"), ("classification", .str "internal"),
        ("digest", .str digestText), ("media_type", .str "text/plain")]),
      ("visibility", .str "subject")]]),
    ("limitations", .arr []), ("observable_conditions", .arr []), ("provenance", .arr [])]

def scenario : Revision platform where
  kind := .scenario
  contract :=
    { dump := revisionDump .scenario "one" scenarioPayload
      valid := by decide +kernel }

def agent : Revision platform where
  kind := .agentInventory
  contract :=
    { dump := revisionDump .agentInventory "one" <|
        .obj [("capability_requirements", .arr []), ("runner_ref", capability),
          ("runtime_requirements", .arr []), ("subject_id", .str "subject")]
      valid := by decide +kernel }

def workspace : Revision platform where
  kind := .workspaceTemplate
  contract :=
    { dump := revisionDump .workspaceTemplate "one" <|
        .obj [("cleanup_policy", .obj [("mode", .str "discard")]),
          ("external_effect_policy", .obj [("allowed_effects", .arr []), ("mode", .str "denied")]),
          ("lifecycle", .str "ephemeral_per_run"), ("mounts", .arr []),
          ("network_policy", .obj [("allowed_endpoint_refs", .arr []), ("mode", .str "disabled")]),
          ("runtime_kind", .str "local"), ("secret_binding_refs", .arr []),
          ("snapshot_policy", .obj [("capture_workspace", .bool false), ("include_zones", .arr [])]),
          ("write_zones", .arr [])]
      valid := by decide +kernel }

def interaction : Revision platform where
  kind := .interactionProtocol
  contract :=
    { dump := revisionDump .interactionProtocol "one" <|
        .obj [("edges", .arr []), ("initial_message_refs", .arr []), ("max_turns", .int 1),
          ("mode", .str "single_turn"), ("nodes", .arr [])]
      valid := by decide +kernel }

def evaluation : Revision platform where
  kind := .evaluationPlan
  contract :=
    { dump := revisionDump .evaluationPlan "one" <|
        .obj [("blinding_policy", .obj [("hidden_fields", .arr [])]),
          ("dimensions", .arr [.obj [("anchors", .arr []), ("description", .str "passed"),
            ("id", .str "passed"), ("value_type", .str "boolean")]]),
          ("disclosure", .obj [("hidden_input_refs", .arr []), ("subject", noSubjectDisclosure)]),
          ("human_adjudication_policy", .obj [("adjudicable_stage_ids", .arr []),
            ("required", .bool false)]),
          ("limitations", .arr []),
          ("stages", .arr [.obj [("evaluator_ref", capability), ("hard_gate", .bool false),
            ("id", .str "grade"), ("kind", .str "deterministic_grader"),
            ("output_dimensions", .arr [.str "passed"]), ("parameters", .arr []),
            ("trigger", .obj [("kind", .str "event"), ("reference", .str "subject.responded")])]])]
      valid := by decide +kernel }

def blueprint : Json :=
  .obj [("agent_inventory_ref", contract .agentInventory "one"),
    ("budgets", .obj [("max_wall_seconds", .int 60)]),
    ("capture_policy", .obj [("default_mode", .str "metadata"), ("raw_sensitive", .str "disabled"),
      ("sensitive_ttl_days", .int 30)]),
    ("evaluation_plan_ref", contract .evaluationPlan "one"),
    ("extensions", .arr []),
    ("interaction_protocol_ref", contract .interactionProtocol "one"),
    ("stop_conditions", .arr [.obj [("action", .str "terminal"), ("kind", .str "goal_complete")]]),
    ("workspace_template_ref", contract .workspaceTemplate "one")]

def variant (id : String) (overrides : Json) : Json :=
  .obj [("confounders", .arr []), ("id", .str id), ("label", .str id), ("overrides", overrides)]

def studyPayload (mode : String) (scenarios variants comparisons : List Json) : Json :=
  .obj [("comparisons", .arr comparisons), ("evidence_mode", .str mode),
    ("goal_ref", contract .goal "one"),
    ("intent", .obj [("assumptions", .arr []), ("purpose", .str "compare"), ("questions", .arr []),
      ("scope", openScope)]),
    ("limitations", .arr []), ("repetitions", .int 1), ("run_blueprint", blueprint),
    ("scenario_refs", .arr scenarios), ("seed_strategy", .obj [("kind", .str "deterministic")]),
    ("tags", .arr []), ("variants", .arr variants)]

/-- A Study whose only variant inherits everything. -/
def study : StudyRevision platform where
  dump := revisionDump .study "one" <|
    studyPayload "exploratory" [contract .scenario "one"] [variant "default" (.obj [])] []
  valid := by decide +kernel

/-- The same Study with an empty tuple of stop conditions in place of no override. -/
def clearedStudy : StudyRevision platform where
  dump := revisionDump .study "one" <|
    studyPayload "exploratory" [contract .scenario "one"]
      [variant "default" (.obj [("stop_conditions", .arr [])])] []
  valid := by decide +kernel

/-- Resolves a reference to the revision of the list with that reference. -/
def resolverOf (revisions : List (Revision platform)) : ContractResolver platform :=
  fun reference => match revisions.find? fun revision => revision.ref == reference with
    | some revision => .ok revision
    | none => .error (.keyError "revision")

def dependencies : List (Revision platform) :=
  [goal, scenario, agent, workspace, interaction, evaluation]

def compiler : StudyCompiler platform where
  resolver := resolverOf (study.revision :: dependencies)
  extensionRegistry := .empty

end Sample

open Sample

end Evidrun.Contracts
