import Evidrun.Contracts.StudyDigest

/-!
# The compiled matrix

The compiler checks a declared comparison on the first scenario and the first
repetition. The other cells are controlled as well: what a variant selects depends
on the scenario in the scenario slot only, a Study with several scenarios lets no
variant override that slot, and the seed depends on the repetition only.
-/

namespace Evidrun.Contracts

open JsonText DocumentSchema

set_option autoImplicit false

section Matrix

variable {platform : Platform}

/-! ## Resolving a selection -/

section

variable {resolver : ContractResolver platform}

theorem resolveTyped_ok {reference : Json} {expected : ContractType} {revision : Revision platform}
    (resolved : resolveTyped resolver reference expected = .ok revision) :
    resolver reference = .ok revision ∧ revision.kind = expected := by
  simp only [resolveTyped, bind_ok, raiseWhen_ok, Except.ok.injEq] at resolved
  obtain ⟨found, resolved, _, kind, rfl⟩ := resolved
  exact ⟨resolved, by simpa using kind⟩

/-- Each part of what a selection resolves to comes from its own reference. -/
structure ResolvedFrom (resolver : ContractResolver platform) (chosen : Selection)
    (resolved : Resolved platform) : Prop where
  goal : resolveTyped resolver chosen.goalRef .goal = .ok resolved.goal
  scenario : resolveTyped resolver chosen.scenarioRef .scenario = .ok resolved.scenario
  agent : resolveTyped resolver chosen.agentRef .agentInventory = .ok resolved.agent
  workspace : resolveTyped resolver chosen.workspaceRef .workspaceTemplate = .ok resolved.workspace
  interaction :
    resolveTyped resolver chosen.interactionRef .interactionProtocol = .ok resolved.interaction
  evaluation : resolveTyped resolver chosen.evaluationRef .evaluationPlan = .ok resolved.evaluation
  checkpoint :
    resolvePolicy resolver chosen.checkpointRef .checkpointPolicy = .ok resolved.checkpoint
  progress :
    resolvePolicy resolver chosen.progressRef .progressArtifactPolicy = .ok resolved.progress

theorem resolvedFrom_of_ok {chosen : Selection} {resolved : Resolved platform}
    (ok : resolveSelection resolver chosen = .ok resolved) :
    ResolvedFrom resolver chosen resolved := by
  simp only [resolveSelection, bind_ok, Except.ok.injEq] at ok
  obtain ⟨_, goal, _, scenario, _, agent, _, workspace, _, interaction, _, evaluation, _,
    checkpoint, _, progress, _, _, rfl⟩ := ok
  exact ⟨goal, scenario, agent, workspace, interaction, evaluation, checkpoint, progress⟩

/-- Selections that differ in the scenario only resolve alike apart from it. -/
theorem ResolvedFrom.scenario_only {chosen : Selection} {scenarioRef : Json}
    {resolved other : Resolved platform} (first : ResolvedFrom resolver chosen resolved)
    (second : ResolvedFrom resolver { chosen with scenarioRef } other) :
    other = { resolved with scenario := other.scenario } := by
  have same : ∀ {Value : Type} {call : Except Raised Value} {left right : Value},
      call = .ok left → call = .ok right → right = left :=
    fun left right => Except.ok.inj (right.symm.trans left)
  have goal := same first.goal second.goal
  have agent := same first.agent second.agent
  have workspace := same first.workspace second.workspace
  have interaction := same first.interaction second.interaction
  have evaluation := same first.evaluation second.evaluation
  have checkpoint := same first.checkpoint second.checkpoint
  have progress := same first.progress second.progress
  cases other
  simp only at goal agent workspace interaction evaluation checkpoint progress
  simp only [goal, agent, workspace, interaction, evaluation, checkpoint, progress]

end

namespace StudyCompiler

variable {compiler : StudyCompiler platform} {study : StudyRevision platform}

theorem select_scenario (payload scenarioRef other variant : Json) :
    select payload other variant =
      { select payload scenarioRef variant with
        scenarioRef := orInherited ((variant.field "overrides").field "scenario_ref") other } :=
  rfl

section

variable {variant scenarioRef : Json} {repetition otherRepetition : Int}
  {spec other : RunSpec platform} {cell : Cell}

/-- A slot other than the scenario has one value in all cells of a variant. -/
theorem slotValue_eq {otherRef : Json}
    (compiled : compiler.materialize study ⟨scenarioRef, variant, repetition⟩ = .ok spec)
    (compiledOther : compiler.materialize study ⟨otherRef, variant, otherRepetition⟩ = .ok other)
    {slot : VariantSlot} (fixed : slot ≠ .scenario) :
    slotValue spec.dump slot = slotValue other.dump slot := by
  obtain ⟨resolved, ok, read⟩ := materialize_ok compiled
  obtain ⟨otherResolved, okOther, readOther⟩ := materialize_ok compiledOther
  simp only at ok read okOther readOther
  rw [select_scenario _ scenarioRef] at okOther readOther
  have alike := (resolvedFrom_of_ok ok).scenario_only (resolvedFrom_of_ok okOther)
  rw [alike] at readOther
  have formed := wellFormed_runSpec platform.coercion
  refine List.map_congr_left fun name member => ?_
  have given : ∀ name ∈ slot.fields, ∀ scenario second,
      (runSpecDocument study.revision.ref study.revision.payload (variant.field "id") repetition
        (select study.revision.payload scenarioRef variant)
        { resolved with scenario := scenario }).get? name =
      (runSpecDocument study.revision.ref study.revision.payload (variant.field "id")
        otherRepetition
        { select study.revision.payload scenarioRef variant with scenarioRef := otherRef }
        { resolved with scenario := second }).get? name := by
    cases slot with
    | scenario => exact absurd rfl fixed
    | _ => simp [VariantSlot.fields, runSpecDocument, Json.get?, List.lookup_cons]
  have same := get?_congr_of_validate formed read readOther
    (given name member resolved.scenario otherResolved.scenario)
  simp only [Json.field, same]

/-- No slot depends on the repetition. -/
theorem slotValue_repetition
    (compiled : compiler.materialize study ⟨scenarioRef, variant, repetition⟩ = .ok spec)
    (compiledOther : compiler.materialize study ⟨scenarioRef, variant, otherRepetition⟩ = .ok other)
    (slot : VariantSlot) : slotValue spec.dump slot = slotValue other.dump slot := by
  obtain ⟨resolved, ok, read⟩ := materialize_ok compiled
  obtain ⟨otherResolved, okOther, readOther⟩ := materialize_ok compiledOther
  simp only at ok read okOther readOther
  rw [ok] at okOther
  cases okOther
  have formed := wellFormed_runSpec platform.coercion
  refine List.map_congr_left fun name member => ?_
  have given : (runSpecDocument study.revision.ref study.revision.payload (variant.field "id")
        repetition (select study.revision.payload scenarioRef variant) resolved).get? name =
      (runSpecDocument study.revision.ref study.revision.payload (variant.field "id")
        otherRepetition (select study.revision.payload scenarioRef variant) resolved).get? name := by
    revert name
    cases slot <;> simp [VariantSlot.fields, runSpecDocument, Json.get?, List.lookup_cons]
  have same := get?_congr_of_validate formed read readOther given
  simp only [Json.field, same]

/-- The scenario slot has one value in all variants of a cell that do not override it. -/
theorem scenarioValue_eq {second : Json}
    (plain : (variant.field "overrides").field "scenario_ref" = .null)
    (plainOther : (second.field "overrides").field "scenario_ref" = .null)
    (compiled : compiler.materialize study ⟨scenarioRef, variant, repetition⟩ = .ok spec)
    (compiledOther : compiler.materialize study ⟨scenarioRef, second, repetition⟩ = .ok other) :
    slotValue spec.dump .scenario = slotValue other.dump .scenario := by
  obtain ⟨resolved, ok, read⟩ := materialize_ok compiled
  obtain ⟨otherResolved, okOther, readOther⟩ := materialize_ok compiledOther
  have first := (resolvedFrom_of_ok ok).scenario
  have next := (resolvedFrom_of_ok okOther).scenario
  simp only [select, plain, plainOther, orInherited, if_true] at first next
  rw [first] at next
  have same := Except.ok.inj next
  have formed := wellFormed_runSpec platform.coercion
  refine List.map_congr_left fun name member => ?_
  have given : (runSpecDocument study.revision.ref study.revision.payload (variant.field "id")
        repetition (select study.revision.payload scenarioRef variant) resolved).get? name =
      (runSpecDocument study.revision.ref study.revision.payload (second.field "id")
        repetition (select study.revision.payload scenarioRef second) otherResolved).get? name := by
    revert name
    simp [VariantSlot.fields, runSpecDocument, Json.get?, List.lookup_cons, same]
  have equal := get?_congr_of_validate formed read readOther given
  simp only [Json.field, equal]

/-- With several scenarios no variant overrides the scenario. -/
theorem plain_of_scenarios (study : StudyRevision platform)
    (several : 1 < (study.revision.payload.items "scenario_refs").length)
    (member : variant ∈ study.revision.payload.items "variants") :
    (variant.field "overrides").field "scenario_ref" = .null := by
  have checked := study.payload_checked
  simp only [validateMatrix, raiseIf_bind_ok] at checked
  obtain ⟨_, _, _, _, _, ambiguous, _⟩ := checked
  simp only [several, decide_true, Bool.true_and, List.any_eq_false] at ambiguous
  simpa [isSet] using ambiguous variant member

theorem scenario_unique (study : StudyRevision platform)
    (single : ¬1 < (study.revision.payload.items "scenario_refs").length) {other : Json}
    (member : scenarioRef ∈ study.revision.payload.items "scenario_refs")
    (memberOther : other ∈ study.revision.payload.items "scenario_refs") : scenarioRef = other := by
  cases scenarios : study.revision.payload.items "scenario_refs" with
  | nil => simp [scenarios] at member
  | cons first rest =>
      cases rest with
      | nil =>
          rw [scenarios] at member memberOther
          rw [List.mem_singleton.mp member, List.mem_singleton.mp memberOther]
      | cons _ _ => simp [scenarios] at single

/-- What two variants differ in is the same in all cells. -/
theorem changedSlots_eq {baseline candidate otherRef : Json}
    {first second third fourth : RunSpec platform}
    (insideBaseline : baseline ∈ study.revision.payload.items "variants")
    (insideCandidate : candidate ∈ study.revision.payload.items "variants")
    (scenario : scenarioRef ∈ study.revision.payload.items "scenario_refs")
    (otherScenario : otherRef ∈ study.revision.payload.items "scenario_refs")
    (baselineCell : compiler.materialize study ⟨scenarioRef, baseline, repetition⟩ = .ok first)
    (candidateCell : compiler.materialize study ⟨scenarioRef, candidate, repetition⟩ = .ok second)
    (baselineOther : compiler.materialize study ⟨otherRef, baseline, otherRepetition⟩ = .ok third)
    (candidateOther :
      compiler.materialize study ⟨otherRef, candidate, otherRepetition⟩ = .ok fourth) :
    changedSlots first.dump second.dump = changedSlots third.dump fourth.dump := by
  refine List.filter_congr fun slot _ => ?_
  by_cases fixed : slot = .scenario
  · subst fixed
    by_cases several : 1 < (study.revision.payload.items "scenario_refs").length
    · have plain := plain_of_scenarios study several insideBaseline
      have plainCandidate := plain_of_scenarios study several insideCandidate
      rw [scenarioValue_eq plain plainCandidate baselineCell candidateCell,
        scenarioValue_eq plain plainCandidate baselineOther candidateOther]
      simp
    · have same := scenario_unique study several scenario otherScenario
      subst same
      rw [slotValue_repetition baselineCell baselineOther,
        slotValue_repetition candidateCell candidateOther]
  · rw [slotValue_eq baselineCell baselineOther fixed,
      slotValue_eq candidateCell candidateOther fixed]

theorem variantById_ok {payload id : Json} (found : variantById payload id = .ok variant) :
    variant ∈ payload.items "variants" ∧ variant.field "id" = id := by
  unfold variantById at found
  split at found
  next second located =>
    cases found
    exact ⟨List.mem_of_find?_eq_some located, by simpa using List.find?_some located⟩
  · cases found

/-- A comparison that a controlled Study declares was found to change its own slot,
in the first cell of its variants. -/
theorem validateComparison_ok {comparison : Json}
    (controlled : study.revision.payload.field "evidence_mode" = .str "prospective_controlled")
    (passed : compiler.validateComparison study scenarioRef comparison = .ok ()) :
    ∃ baselineVariant ∈ study.revision.payload.items "variants",
      ∃ candidateVariant ∈ study.revision.payload.items "variants", ∃ baseline candidate,
        baselineVariant.field "id" = comparison.field "baseline_variant" ∧
        candidateVariant.field "id" = comparison.field "candidate_variant" ∧
        compiler.materialize study ⟨scenarioRef, baselineVariant, 1⟩ = .ok baseline ∧
        compiler.materialize study ⟨scenarioRef, candidateVariant, 1⟩ = .ok candidate ∧
        (changedSlots baseline.dump candidate.dump).map VariantSlot.name =
          [expectedSlot comparison] := by
  simp only [validateComparison, bind_ok, raiseWhen_ok, controlled] at passed
  obtain ⟨baselineVariant, first, baseline, compiled, candidateVariant, second, candidate,
    compiledOther, _, changed, _⟩ := passed
  obtain ⟨inside, id⟩ := variantById_ok first
  obtain ⟨insideOther, idOther⟩ := variantById_ok second
  exact ⟨baselineVariant, inside, candidateVariant, insideOther, baseline, candidate, id, idOther,
    compiled, compiledOther, by simpa using changed⟩

/-! ## Cells and RunSpecs -/

theorem scenarioRef_stable (study : StudyRevision platform)
    (member : scenarioRef ∈ study.revision.payload.items "scenario_refs") :
    validate platform.coercion contractRef scenarioRef = .ok scenarioRef :=
  items_source (wellFormed_studySpec platform.coercion) study.payload_stable
    (show required "scenario_refs" (.list 0 contractRef) ∈ studySpecFields by
      simp [studySpecFields]) scenarioRef member

theorem compiled_repetition (positive : 1 ≤ cell.repetition)
    (compiled : compiler.materialize study cell = .ok spec) :
    spec.dump.get? "repetition_index" = some (.int cell.repetition) := by
  obtain ⟨resolved, _, read⟩ := materialize_ok compiled
  refine get?_of_given (wellFormed_runSpec platform.coercion) read
    (show required "repetition_index" (integerFrom 1) ∈ _ by simp) rfl (by simp) ?_
  simp [integerFrom, validate, Scalar.parse, positive]

/-- A resolver that returns for a reference only a revision with that reference. -/
def Honest (resolver : ContractResolver platform) : Prop :=
  ∀ reference revision, resolver reference = .ok revision → revision.ref = reference

theorem compiled_scenarioRef (honest : Honest compiler.resolver)
    (member : cell.scenarioRef ∈ study.revision.payload.items "scenario_refs")
    (plain : (cell.variant.field "overrides").field "scenario_ref" = .null)
    (compiled : compiler.materialize study cell = .ok spec) :
    spec.dump.get? "scenario_ref" = some cell.scenarioRef := by
  obtain ⟨resolved, ok, read⟩ := materialize_ok compiled
  have scenario := (resolvedFrom_of_ok ok).scenario
  simp only [select, plain, orInherited, if_true] at scenario
  have ref := honest _ _ (resolveTyped_ok scenario).1
  have stable := scenarioRef_stable study member
  have present := validate_ne_null (wellFormed_contractRef platform.coercion) stable
  have given : (runSpecDocument study.revision.ref study.revision.payload
      (cell.variant.field "id") cell.repetition
      (select study.revision.payload cell.scenarioRef cell.variant) resolved).get? "scenario_ref" =
        some cell.scenarioRef := congrArg some ref
  exact get?_of_given (wellFormed_runSpec platform.coercion) read
    (show required "scenario_ref" contractRef ∈ _ by simp) given present stable

/-- A RunSpec is compiled from one cell only. -/
theorem cell_of_spec (honest : Honest compiler.resolver) {other : Cell}
    (member : cell ∈ cells study.revision.payload)
    (memberOther : other ∈ cells study.revision.payload)
    (compiled : compiler.materialize study cell = .ok spec)
    (compiledOther : compiler.materialize study other = .ok spec) : cell = other := by
  obtain ⟨scenario, variant, positive, _⟩ := mem_cells.mp member
  obtain ⟨otherScenario, otherVariant, otherPositive, _⟩ := mem_cells.mp memberOther
  have ids := compiled_variantId variant compiled
  rw [compiled_variantId otherVariant compiledOther] at ids
  have variants := variant_of_id study otherVariant variant (Option.some.inj ids)
  have repetitions := compiled_repetition positive compiled
  rw [compiled_repetition otherPositive compiledOther] at repetitions
  have scenarios : cell.scenarioRef = other.scenarioRef := by
    by_cases several : 1 < (study.revision.payload.items "scenario_refs").length
    · have refs := compiled_scenarioRef honest scenario (plain_of_scenarios study several variant)
        compiled
      rw [compiled_scenarioRef honest otherScenario
        (plain_of_scenarios study several otherVariant) compiledOther] at refs
      exact (Option.some.inj refs).symm
    · exact scenario_unique study several scenario otherScenario
  cases cell
  cases other
  simp only [Option.some.injEq, Json.int.injEq] at repetitions variants scenarios
  rw [scenarios, variants, repetitions]

theorem nodup_cells (study : StudyRevision platform) : (cells study.revision.payload).Nodup := by
  have checked := study.payload_checked
  simp only [validateMatrix, raiseIf_bind_ok, Bool.not_eq_false'] at checked
  obtain ⟨_, scenarios, _, _, variants, _⟩ := checked
  have scenarios : (study.revision.payload.items "scenario_refs").Nodup :=
    of_decide_eq_true scenarios
  have variants : (study.revision.payload.items "variants").Nodup :=
    List.Nodup.of_map _ (of_decide_eq_true variants)
  rw [cells, List.nodup_flatMap]
  refine ⟨fun scenarioRef _ => ?_, ?_⟩
  · rw [List.nodup_flatMap]
    refine ⟨fun variant _ => ?_, ?_⟩
    · refine List.nodup_range.map fun first second same => ?_
      have same := congrArg Cell.repetition same
      simp only at same
      omega
    · refine variants.imp fun differ => ?_
      intro cell first second
      simp only [List.mem_map] at first second
      obtain ⟨_, _, rfl⟩ := first
      obtain ⟨_, _, same⟩ := second
      exact differ (by simpa using (congrArg Cell.variant same).symm)
  · refine scenarios.imp fun differ => ?_
    intro cell first second
    simp only [List.mem_flatMap, List.mem_map] at first second
    obtain ⟨_, _, _, _, rfl⟩ := first
    obtain ⟨_, _, _, _, same⟩ := second
    exact differ (by simpa using (congrArg Cell.scenarioRef same).symm)

/-- A RunSpec is determined by its digest, as far as `sha256` does not collide. -/
theorem digestOf_injective (injective : Function.Injective platform.sha256)
    (same : digestOf platform spec = digestOf platform other) : spec = other := by
  have ordered : ∀ spec : RunSpec platform, spec.semanticDocument.ordered = true := fun spec =>
    dropEmpty_ordered _ (validate_ordered (wellFormed_runSpec platform.coercion) spec.valid)
  exact restores_runSpec.instance_ext (wellFormed_runSpec _)
    (canonicalJson_injective _ _ (ordered spec) (ordered other) (injective same))

/-- The RunSpec of a variant for a scenario and a repetition. -/
def CompiledFor (compiler : StudyCompiler platform) (study : StudyRevision platform)
    (scenarioRef variantId : Json) (repetition : Int) (spec : RunSpec platform) : Prop :=
  ∃ variant ∈ study.revision.payload.items "variants", variant.field "id" = variantId ∧
    compiler.materialize study ⟨scenarioRef, variant, repetition⟩ = .ok spec

theorem compiled_seed {other : Cell} {second : RunSpec platform}
    (compiled : compiler.materialize study cell = .ok spec)
    (compiledOther : compiler.materialize study other = .ok second)
    (same : cell.repetition = other.repetition) :
    spec.dump.field "seed" = second.dump.field "seed" := by
  obtain ⟨resolved, _, read⟩ := materialize_ok compiled
  obtain ⟨otherResolved, _, readOther⟩ := materialize_ok compiledOther
  have equal := @get?_congr_of_validate _ _ _ _ _ "seed" (wellFormed_runSpec platform.coercion)
    _ _ read readOther (by rw [same]; rfl)
  simp only [Json.field, equal]

end

/-- A Study whose cells all compile, and whose comparisons passed, compiles. -/
theorem compile_of_cells {resolved : Revision platform}
    (root : compiler.resolver study.revision.ref = .ok resolved) (kind : resolved.kind = .study)
    (compared : compiler.validateComparisons study = .ok ())
    (each : ∀ cell ∈ cells study.revision.payload, ∃ spec,
      compiler.materialize study cell = .ok spec) :
    ∃ specs, compiler.compile study = .ok specs := by
  obtain ⟨specs, aligned⟩ := Aligned.exists_aligned each
  refine ⟨specs, ?_⟩
  simp only [compile, bind_ok, raiseWhen_ok]
  exact ⟨resolved, root, (), by simp [kind], (), compared, (mapM_except_ok _ _ _).mpr aligned⟩

end StudyCompiler

end Matrix

namespace Sample

def comparison : Json :=
  .obj [("baseline_variant", .str "baseline"), ("candidate_variant", .str "candidate"),
    ("primary_variable", .str "budgets")]

def baseline : Json := variant "baseline" (.obj [])

def candidate : Json :=
  variant "candidate" (.obj [("budgets", .obj [("max_wall_seconds", .int 90)])])

/-- A controlled comparison of two budgets over the given scenarios. -/
def controlledPayload (scenarios : List Json) : Json :=
  studyPayload "prospective_controlled" scenarios [baseline, candidate] [comparison]

def controlledStudy : StudyRevision platform where
  dump := revisionDump .study "one" (controlledPayload [contract .scenario "one"])
  valid := by decide +kernel

def twoScenarioStudy : StudyRevision platform where
  dump := revisionDump .study "one"
    (controlledPayload [contract .scenario "one", contract .scenario "two"])
  valid := by decide +kernel

def controlledCompiler : StudyCompiler platform where
  resolver := resolverOf (controlledStudy.revision :: dependencies)
  extensionRegistry := .empty

/-- Resolves a reference by its kind alone. -/
def sharingCompiler : StudyCompiler platform where
  resolver := fun reference =>
    match (twoScenarioStudy.revision :: dependencies).find? fun revision =>
        .str revision.kind.name == reference.field "contract_type" with
    | some revision => .ok revision
    | none => .error (.keyError "revision")
  extensionRegistry := .empty

theorem honest_resolverOf (revisions : List (Revision platform)) :
    StudyCompiler.Honest (resolverOf revisions) := by
  intro reference revision resolved
  unfold resolverOf at resolved
  split at resolved
  next found located =>
    cases resolved
    simpa using List.find?_some located
  · cases resolved

/-- The two variants of a controlled Study compile in the cell its comparison was checked in. -/
theorem variants_compile {compiler : StudyCompiler platform} {study : StudyRevision platform}
    {scenarios : List Json} (payload : study.revision.payload = controlledPayload scenarios)
    (compared : compiler.validateComparisons study = .ok ()) :
    ∀ variant ∈ study.revision.payload.items "variants", ∃ spec,
      compiler.materialize study ⟨scenarios.headD .null, variant, 1⟩ = .ok spec := by
  have variants : study.revision.payload.items "variants" = [baseline, candidate] := by
    rw [payload]
    rfl
  have declared : comparison ∈ study.revision.payload.items "comparisons" := by
    rw [payload]
    exact List.mem_singleton_self comparison
  have mode : study.revision.payload.field "evidence_mode" = .str "prospective_controlled" := by
    rw [payload]
    rfl
  have head : (study.revision.payload.items "scenario_refs").headD .null =
      scenarios.headD .null := by
    rw [payload]
    rfl
  obtain ⟨first, _, second, _, _, _, id, idOther, compiled, compiledOther, _⟩ :=
    StudyCompiler.validateComparison_ok mode
      ((forM_except_ok _ _).mp compared comparison declared)
  have baselineOf : first = baseline := StudyCompiler.variant_of_id study ‹_›
    (by rw [variants]; simp) id
  have candidateOf : second = candidate := StudyCompiler.variant_of_id study ‹_›
    (by rw [variants]; simp) idOther
  rw [variants]
  rw [head] at compiled compiledOther
  intro variant member
  rcases List.mem_pair.mp member with rfl | rfl
  · exact ⟨_, baselineOf ▸ compiled⟩
  · exact ⟨_, candidateOf ▸ compiledOther⟩

/-- A cell of these Studies is one of a known variant in the first repetition. -/
theorem cell_of_controlled {study : StudyRevision platform} {scenarios : List Json}
    (payload : study.revision.payload = controlledPayload scenarios) {cell : Cell}
    (member : cell ∈ StudyCompiler.cells study.revision.payload) :
    cell.scenarioRef ∈ scenarios ∧ cell.variant ∈ study.revision.payload.items "variants" ∧
      cell = ⟨cell.scenarioRef, cell.variant, 1⟩ := by
  obtain ⟨scenario, variant, positive, bounded⟩ := StudyCompiler.mem_cells.mp member
  have once : integerOf (study.revision.payload.field "repetitions") = 1 := by
    rw [payload]
    rfl
  have first : cell.repetition = 1 := by omega
  refine ⟨?_, variant, by rw [← first]⟩
  rw [payload] at scenario
  exact scenario

theorem controlledStudy_compiles :
    ∃ specs, controlledCompiler.compile controlledStudy = .ok specs := by
  have compared : controlledCompiler.validateComparisons controlledStudy = .ok () := by
    decide +kernel
  have root : controlledCompiler.resolver controlledStudy.revision.ref =
      .ok controlledStudy.revision := by decide +kernel
  refine StudyCompiler.compile_of_cells root rfl compared fun cell member => ?_
  obtain ⟨scenario, variant, shape⟩ := cell_of_controlled rfl member
  have first := variants_compile rfl compared cell.variant variant
  rw [shape, List.mem_singleton.mp scenario]
  exact first

/-- Both scenario references resolve to one revision. -/
theorem materialize_shared {variant : Json} (plain :
    (variant.field "overrides").field "scenario_ref" = .null) :
    sharingCompiler.materialize twoScenarioStudy ⟨contract .scenario "two", variant, 1⟩ =
      sharingCompiler.materialize twoScenarioStudy ⟨contract .scenario "one", variant, 1⟩ := by
  have shared : resolveTyped sharingCompiler.resolver (contract .scenario "two") .scenario =
      resolveTyped sharingCompiler.resolver (contract .scenario "one") .scenario := by
    decide +kernel
  simp only [StudyCompiler.materialize, resolveSelection, select, plain, orInherited, if_true,
    shared, runSpecDocument]

theorem plain_twoScenarioStudy {variant : Json}
    (member : variant ∈ twoScenarioStudy.revision.payload.items "variants") :
    (variant.field "overrides").field "scenario_ref" = .null :=
  StudyCompiler.plain_of_scenarios twoScenarioStudy (by decide) member

theorem twoScenarioStudy_compiles :
    ∃ specs, sharingCompiler.compile twoScenarioStudy = .ok specs := by
  have compared : sharingCompiler.validateComparisons twoScenarioStudy = .ok () := by
    decide +kernel
  have root : sharingCompiler.resolver twoScenarioStudy.revision.ref =
      .ok twoScenarioStudy.revision := by decide +kernel
  refine StudyCompiler.compile_of_cells root rfl compared fun cell member => ?_
  obtain ⟨scenario, variant, shape⟩ := cell_of_controlled rfl member
  have first := variants_compile rfl compared cell.variant variant
  rw [shape]
  rcases List.mem_pair.mp scenario with same | same
  · rw [same]
    exact first
  · rw [same, materialize_shared (plain_twoScenarioStudy variant)]
    exact first

end Sample

end Evidrun.Contracts
