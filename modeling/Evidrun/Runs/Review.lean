import Evidrun.Contracts.Envelope
import Evidrun.Contracts.ExecutionTrust
import Evidrun.Evidence.DocumentReads
import Evidrun.Lib.KeyedDiff

/-!
# The difference between two review packages

`ReviewPackageService._diff` of `runs/review.py`. The closures are compared by contract type and
logical id, the RunSpecs by scenario, variant and repetition; of several revisions or RunSpecs
with one key only the last is compared. Of two RunSpecs of one slot ten fields are compared.
-/

namespace Evidrun.Runs

open JsonText DocumentSchema Evidrun.Contracts Evidrun.Evidence

set_option autoImplicit false

/-! ## Keys -/

/-- `_revision_key`. -/
def revisionKey (reference : Json) : String × String :=
  ((reference.field "contract_type").asString, (reference.field "logical_id").asString)

abbrev RunSpecSlot : Type := String × String × Int

/-- `_run_spec_slot`. -/
def runSpecSlot {platform : Platform} (spec : RunSpec platform) : RunSpecSlot :=
  (((spec.dump.field "scenario_ref").field "logical_id").asString,
    (spec.dump.field "variant_id").asString, integerOf (spec.dump.field "repetition_index"))

/-- `_slot_label`. -/
def slotLabel (slot : RunSpecSlot) : String :=
  slot.1 ++ ":" ++ slot.2.1 ++ ":" ++ toString slot.2.2

def revisionKeyLe (left right : String × String) : Bool :=
  left.1 < right.1 || (left.1 = right.1 && left.2 ≤ right.2)

def slotLe (left right : RunSpecSlot) : Bool :=
  left.1 < right.1 || (left.1 = right.1 && (left.2.1 < right.2.1 ||
    (left.2.1 = right.2.1 && left.2.2 ≤ right.2.2)))

/-! ## Dictionaries that are compared -/

section Compared

variable {Key Value View : Type} [DecidableEq Key] [DecidableEq View]

/-- `sorted(left.keys() - right.keys())`. -/
def keysOnlyIn (le : Key → Key → Bool) (left right : List (Key × Value)) : List Key :=
  ((left.map Prod.fst).filter fun key => key ∉ right.map Prod.fst).insertionSort
    fun first second => le first second

/-- `sorted(left.keys() & right.keys())`. -/
def sharedKeys (le : Key → Key → Bool) (left right : List (Key × Value)) : List Key :=
  ((left.map Prod.fst).filter fun key => key ∈ right.map Prod.fst).insertionSort
    fun first second => le first second

def viewsOnlyIn (le : Key → Key → Bool) (view : Value → View) (left right : List (Key × Value)) :
    List View :=
  (keysOnlyIn le left right).filterMap fun key => (getEntry left key).map view

/-- The shared keys whose values look different, with what they look like. -/
def changedViews (le : Key → Key → Bool) (view : Value → View) (old new : List (Key × Value)) :
    List (Key × View × View) :=
  (sharedKeys le old new).filterMap fun key =>
    match getEntry old key, getEntry new key with
    | some before, some after =>
        if view before ≠ view after then some (key, view before, view after) else none
    | _, _ => none

end Compared

/-! ## The difference -/

structure ReviewMaterial (platform : Platform) where
  reviewTargetDigest : String
  projectId : String
  revisions : List (Revision platform)
  runSpecs : List (RunSpec platform)

structure ReviewRevisionChange where
  contractType : String
  logicalId : String
  before : Json
  after : Json
deriving DecidableEq

structure ReviewRunSpecChange where
  slot : String
  beforeDigest : String
  afterDigest : String
deriving DecidableEq

/-- An entry of `semantic_changes`. -/
inductive SemanticChange
  | closureAdded (key : String × String)
  | closureRemoved (key : String × String)
  | closureChanged (key : String × String)
  | runSpec (slot : RunSpecSlot) (field : String)
deriving DecidableEq

def SemanticChange.text : SemanticChange → String
  | .closureAdded key => "closure.added[" ++ key.1 ++ ":" ++ key.2 ++ "]"
  | .closureRemoved key => "closure.removed[" ++ key.1 ++ ":" ++ key.2 ++ "]"
  | .closureChanged key => "closure.changed[" ++ key.1 ++ ":" ++ key.2 ++ "]"
  | .runSpec slot field => "run_specs[" ++ slotLabel slot ++ "]." ++ field

structure ReviewPackageDiff where
  baseReviewTargetDigest : String
  revisionRefsAdded : List Json
  revisionRefsRemoved : List Json
  revisionRefsChanged : List ReviewRevisionChange
  runSpecsAdded : List String
  runSpecsRemoved : List String
  runSpecsChanged : List ReviewRunSpecChange
  /-- The source keeps the texts. -/
  semanticChanges : List SemanticChange

/-- The fields that `_semantic_changes` compares. -/
def comparedFields : List String :=
  ["agent_inventory", "workspace", "interaction_protocol", "evaluation_plan", "goal", "scenario",
    "budgets", "stop_conditions", "capture_policy", "limitations"]

section Diff

variable {platform : Platform}

namespace ReviewMaterial

def refs (material : ReviewMaterial platform) : List Json := material.revisions.map Revision.ref

/-- The references under their keys, as the dictionary is built from them. -/
def refEntries (material : ReviewMaterial platform) : List ((String × String) × Json) :=
  material.refs.map fun reference => (revisionKey reference, reference)

def specEntries (material : ReviewMaterial platform) : List (RunSpecSlot × RunSpec platform) :=
  material.runSpecs.map fun spec => (runSpecSlot spec, spec)

def refsByKey (material : ReviewMaterial platform) : List ((String × String) × Json) :=
  dictOf material.refEntries

def specsBySlot (material : ReviewMaterial platform) : List (RunSpecSlot × RunSpec platform) :=
  dictOf material.specEntries

end ReviewMaterial

/-- The text of a field of the semantic document. -/
def fieldText (spec : RunSpec platform) (field : String) : String :=
  canonicalJson (spec.semanticDocument.field field)

/-- The compared fields in which the RunSpecs of a slot differ. -/
def slotChanges (old new : List (RunSpecSlot × RunSpec platform)) (slot : RunSpecSlot) :
    List SemanticChange :=
  match getEntry old slot, getEntry new slot with
  | some before, some after =>
      (comparedFields.filter fun field => fieldText before field ≠ fieldText after field).map
        (.runSpec slot)
  | _, _ => []

/-- `_diff`. -/
def diffOf (previous current : ReviewMaterial platform) : ReviewPackageDiff :=
  let changedRefs := changedViews revisionKeyLe id previous.refsByKey current.refsByKey
  { baseReviewTargetDigest := previous.reviewTargetDigest
    revisionRefsAdded := viewsOnlyIn revisionKeyLe id current.refsByKey previous.refsByKey
    revisionRefsRemoved := viewsOnlyIn revisionKeyLe id previous.refsByKey current.refsByKey
    revisionRefsChanged := changedRefs.map fun (_, before, after) =>
      ⟨(revisionKey after).1, (revisionKey after).2, before, after⟩
    runSpecsAdded := viewsOnlyIn slotLe (digestOf platform) current.specsBySlot previous.specsBySlot
    runSpecsRemoved :=
      viewsOnlyIn slotLe (digestOf platform) previous.specsBySlot current.specsBySlot
    runSpecsChanged :=
      (changedViews slotLe (digestOf platform) previous.specsBySlot current.specsBySlot).map
        fun (slot, before, after) => ⟨slotLabel slot, before, after⟩
    semanticChanges :=
      (keysOnlyIn revisionKeyLe current.refsByKey previous.refsByKey).map .closureAdded ++
      (keysOnlyIn revisionKeyLe previous.refsByKey current.refsByKey).map .closureRemoved ++
      changedRefs.map (fun (_, _, after) => .closureChanged (revisionKey after)) ++
      (sharedKeys slotLe previous.specsBySlot current.specsBySlot).flatMap
        (slotChanges previous.specsBySlot current.specsBySlot) }

/-- The comparison in `build`. -/
def compareTo (previous current : ReviewMaterial platform) : Except Raised ReviewPackageDiff :=
  if previous.projectId ≠ current.projectId then
    .error (.valueError "ReviewPackage diff cannot cross a Project boundary")
  else .ok (diffOf previous current)

/-! ## Dictionaries and their differences -/

section Differences

variable {Key Value View : Type} [DecidableEq Key]

variable {entries : List (Key × Value)}

theorem mem_of_getEntry {key : Key} {value : Value} (found : getEntry entries key = some value) :
    (key, value) ∈ entries := by
  obtain ⟨⟨held, _⟩, located, rfl⟩ := Option.map_eq_some_iff.mp found
  obtain rfl : held = key := by simpa using List.find?_some located
  exact List.mem_of_find?_eq_some located

theorem getEntry_eq_none {key : Key} :
    getEntry entries key = none ↔ key ∉ entries.map Prod.fst := by
  simp only [getEntry, Option.map_eq_none_iff, List.find?_eq_none, decide_eq_true_eq, List.mem_map]
  constructor
  · rintro absent ⟨entry, inside, rfl⟩
    exact absent entry inside rfl
  · exact fun absent entry inside same => absent ⟨entry, inside, same⟩

/-- The entries with what their values look like. -/
def viewed (view : Value → View) (entries : List (Key × Value)) : List (Key × View) :=
  entries.map fun entry => (entry.1, view entry.2)

theorem setEntry_viewed (view : Value → View) (key : Key) (value : Value)
    (entries : List (Key × Value)) :
    setEntry key (view value) (viewed view entries) = viewed view (setEntry key value entries) := by
  induction entries with
  | nil => rfl
  | cons entry rest ih =>
      simp only [viewed, List.map_cons, setEntry] at ih ⊢
      split_ifs <;> simp [ih]

theorem dictOf_viewed (view : Value → View) (entries : List (Key × Value)) :
    dictOf (viewed view entries) = viewed view (dictOf entries) := by
  induction entries using List.reverseRecOn with
  | nil => rfl
  | append_singleton earlier last ih =>
      have split : viewed view (earlier ++ [last]) =
          viewed view earlier ++ [(last.1, view last.2)] := by simp [viewed]
      rw [split, dictOf_concat, dictOf_concat, ih]
      exact setEntry_viewed view last.1 last.2 (dictOf earlier)

/-- The dictionary of the views is the dictionary seen through them. -/
theorem getEntry_dictOf_viewed (view : Value → View) (entries : List (Key × Value)) (key : Key) :
    getEntry (dictOf (viewed view entries)) key = (getEntry (dictOf entries) key).map view := by
  rw [dictOf_viewed, viewed, getEntry, getEntry, List.find?_map, Option.map_map, Option.map_map]
  rfl

/-- An entry whose key has another value in the dictionary. -/
def Shadowed (entries : List (Key × Value)) (entry : Key × Value) : Prop :=
  entry ∈ entries ∧ getEntry (dictOf entries) entry.1 ≠ some entry.2

variable (le : Key → Key → Bool) (view : Value → View)

theorem mem_viewsOnlyIn {left right : List (Key × Value)} {seen : View} :
    seen ∈ viewsOnlyIn le view left right ↔
      ∃ key, getEntry right key = none ∧ (getEntry left key).map view = some seen := by
  simp only [viewsOnlyIn, keysOnlyIn, List.mem_filterMap, List.mem_insertionSort, List.mem_filter,
    decide_eq_true_eq, ← getEntry_eq_none]
  refine exists_congr fun key => ⟨fun found => ⟨found.1.2, found.2⟩, fun found =>
    ⟨⟨?_, found.1⟩, found.2⟩⟩
  by_contra absent
  rw [getEntry_eq_none.mpr absent] at found
  exact absurd found.2 (by simp)

theorem mem_changedViews [DecidableEq View] {old new : List (Key × Value)} {before after : View} :
    (before, after) ∈ (changedViews le view old new).map Prod.snd ↔
      ∃ key, (getEntry old key).map view = some before ∧ (getEntry new key).map view = some after ∧
        before ≠ after := by
  simp only [changedViews, sharedKeys, List.mem_map, List.mem_filterMap, List.mem_insertionSort,
    List.mem_filter, decide_eq_true_eq]
  constructor
  · rintro ⟨⟨_, first, second⟩, ⟨key, -, changed⟩, same⟩
    obtain ⟨rfl, rfl⟩ : first = before ∧ second = after := Prod.mk.inj same
    split at changed
    · next earlier later =>
        split_ifs at changed with differs
        simp only [Option.some.injEq, Prod.mk.injEq] at changed
        obtain ⟨-, rfl, rfl⟩ := changed
        exact ⟨key, by rw [earlier]; rfl, by rw [later]; rfl, differs⟩
    · cases changed
  · rintro ⟨key, earlier, later, differs⟩
    obtain ⟨first, held, rfl⟩ := Option.map_eq_some_iff.mp earlier
    obtain ⟨second, given, rfl⟩ := Option.map_eq_some_iff.mp later
    exact ⟨(key, view first, view second), ⟨key, ⟨⟨_, mem_of_getEntry held, rfl⟩,
      ⟨_, mem_of_getEntry given, rfl⟩⟩, by rw [held, given]; simp [differs]⟩, rfl⟩

/-- The reported differences applied to the values of a version. -/
def reapplied (values added removed : List View) (changed : List (View × View)) : Set View :=
  ({value | value ∈ values} \
      ({value | value ∈ removed} ∪ Prod.fst '' {change | change ∈ changed})) ∪
    ({value | value ∈ added} ∪ Prod.snd '' {change | change ∈ changed})

theorem compares_dictOf
    (keyed : ∀ entry ∈ entries, ∀ other ∈ entries, entry.2 = other.2 → entry.1 = other.1) :
    KeyedDiff.Compares {entry | entry ∈ entries} (getEntry (dictOf entries)) where
  held _ _ found := mem_of_mem_dictOf (mem_of_getEntry found)
  keyed := keyed

/-- Applying what was reported leads to the current values exactly when every shadowed entry of
the earlier version is still there, and every shadowed entry of the current one was shadowed
before. -/
theorem reapplied_eq_iff [DecidableEq View] (old new : List (Key × Value))
    (keyed : ∀ entry ∈ viewed view (old ++ new), ∀ other ∈ viewed view (old ++ new),
      entry.2 = other.2 → entry.1 = other.1) :
    reapplied ((viewed view old).map Prod.snd) (viewsOnlyIn le view (dictOf new) (dictOf old))
        (viewsOnlyIn le view (dictOf old) (dictOf new))
        ((changedViews le view (dictOf old) (dictOf new)).map Prod.snd) =
      {value | value ∈ (viewed view new).map Prod.snd} ↔
    (∀ entry, Shadowed (viewed view old) entry → entry ∈ viewed view new) ∧
      ∀ entry, Shadowed (viewed view new) entry → Shadowed (viewed view old) entry := by
  have split : viewed view (old ++ new) = viewed view old ++ viewed view new := List.map_append
  rw [split] at keyed
  have inOld : ∀ entry ∈ viewed view old, entry ∈ viewed view old ++ viewed view new :=
    fun _ => List.mem_append_left _
  have inNew : ∀ entry ∈ viewed view new, entry ∈ viewed view old ++ viewed view new :=
    fun _ => List.mem_append_right _
  have ours := compares_dictOf fun entry inside other listed =>
    keyed entry (inOld entry inside) other (inOld other listed)
  have theirs := compares_dictOf fun entry inside other listed =>
    keyed entry (inNew entry inside) other (inNew other listed)
  have iff := KeyedDiff.applied_eq_iff ours theirs fun entry inside other listed =>
    keyed entry (inOld entry inside) other (inNew other listed)
  have values (entries : List (Key × Value)) :
      {value | value ∈ (viewed view entries).map Prod.snd} =
        Prod.snd '' {entry | entry ∈ viewed view entries} := by
    ext value
    simp
  have same : reapplied ((viewed view old).map Prod.snd)
      (viewsOnlyIn le view (dictOf new) (dictOf old))
      (viewsOnlyIn le view (dictOf old) (dictOf new))
      ((changedViews le view (dictOf old) (dictOf new)).map Prod.snd) =
      KeyedDiff.applied (getEntry (dictOf (viewed view old))) (getEntry (dictOf (viewed view new)))
        (Prod.snd '' {entry | entry ∈ viewed view old}) := by
    have only (left right : List (Key × Value)) :
        {value | value ∈ viewsOnlyIn le view (dictOf left) (dictOf right)} =
          {value | ∃ key, getEntry (dictOf (viewed view right)) key = none ∧
            getEntry (dictOf (viewed view left)) key = some value} := by
      ext value
      simp only [Set.mem_ofPred_eq, mem_viewsOnlyIn, getEntry_dictOf_viewed, Option.map_eq_none_iff]
    have moved : {change | change ∈ (changedViews le view (dictOf old) (dictOf new)).map Prod.snd} =
        KeyedDiff.changed (getEntry (dictOf (viewed view old)))
          (getEntry (dictOf (viewed view new))) := by
      ext ⟨before, after⟩
      simp only [Set.mem_ofPred_eq, mem_changedViews, KeyedDiff.changed, getEntry_dictOf_viewed]
    rw [reapplied, KeyedDiff.applied, only, only, moved, values]
    simp only [KeyedDiff.added, KeyedDiff.removed, and_comm]
  rw [same, values, iff]
  simp only [Shadowed, Set.mem_ofPred_eq, and_imp]

end Differences

/-! ## Completeness -/

/-- The parts of a RunSpec that determine its execution. -/
def executionFields : List String :=
  comparedFields ++ ["context_policy", "extensions", "checkpoint_policy", "progress_artifact_policy",
    "seed"]

def DiffersIn (fields : List String) (before after : RunSpec platform) : Prop :=
  ∃ field ∈ fields, fieldText before field ≠ fieldText after field

/-- What the reviewer is told leads from one material to the other. -/
structure Complete (previous current : ReviewMaterial platform) (diff : ReviewPackageDiff) :
    Prop where
  closure : reapplied previous.refs diff.revisionRefsAdded diff.revisionRefsRemoved
    (diff.revisionRefsChanged.map fun change => (change.before, change.after)) =
      {reference | reference ∈ current.refs}
  runSpecs : reapplied (previous.runSpecs.map (digestOf platform)) diff.runSpecsAdded
    diff.runSpecsRemoved
    (diff.runSpecsChanged.map fun change => (change.beforeDigest, change.afterDigest)) =
      {digest | digest ∈ current.runSpecs.map (digestOf platform)}
  semantic : ∀ before ∈ previous.runSpecs, ∀ after ∈ current.runSpecs,
    runSpecSlot before = runSpecSlot after → DiffersIn executionFields before after →
      ∃ field, .runSpec (runSpecSlot after) field ∈ diff.semanticChanges

/-- The digests under the slots of their RunSpecs. -/
def ReviewMaterial.digestEntries (material : ReviewMaterial platform) :
    List (RunSpecSlot × String) :=
  material.runSpecs.map fun spec => (runSpecSlot spec, digestOf platform spec)

/-- Every revision with another one of its contract after it is in both closures, and is so in
the earlier one if it is so in the current one. -/
def ClosuresComparable (previous current : ReviewMaterial platform) : Prop :=
  (∀ entry, Shadowed previous.refEntries entry → entry ∈ current.refEntries) ∧
    ∀ entry, Shadowed current.refEntries entry → Shadowed previous.refEntries entry

/-- The same of the RunSpecs of a slot. -/
def SlotsComparable (previous current : ReviewMaterial platform) : Prop :=
  (∀ entry, Shadowed previous.digestEntries entry → entry ∈ current.digestEntries) ∧
    ∀ entry, Shadowed current.digestEntries entry → Shadowed previous.digestEntries entry

/-- Where two RunSpecs of a slot differ in their execution, those that are compared differ in a
compared field. -/
def DifferencesCompared (previous current : ReviewMaterial platform) : Prop :=
  ∀ before ∈ previous.runSpecs, ∀ after ∈ current.runSpecs,
    runSpecSlot before = runSpecSlot after → DiffersIn executionFields before after →
      ∃ earlier later, getEntry previous.specsBySlot (runSpecSlot after) = some earlier ∧
        getEntry current.specsBySlot (runSpecSlot after) = some later ∧
        DiffersIn comparedFields earlier later

section Complete

variable {previous current : ReviewMaterial platform}

theorem closure_complete_iff :
    reapplied previous.refs (diffOf previous current).revisionRefsAdded
        (diffOf previous current).revisionRefsRemoved
        ((diffOf previous current).revisionRefsChanged.map fun change =>
          (change.before, change.after)) =
      {reference | reference ∈ current.refs} ↔ ClosuresComparable previous current := by
  have entries (material : ReviewMaterial platform) :
      viewed id material.refEntries = material.refEntries := by simp [viewed]
  have values (material : ReviewMaterial platform) :
      material.refEntries.map Prod.snd = material.refs := by
    simp [ReviewMaterial.refEntries, Function.comp_def]
  have keyed : ∀ entry ∈ viewed id (previous.refEntries ++ current.refEntries),
      entry.1 = revisionKey entry.2 := by
    simp only [viewed, List.map_append, List.mem_append, List.mem_map, ReviewMaterial.refEntries]
    rintro entry (⟨_, ⟨reference, -, rfl⟩, rfl⟩ | ⟨_, ⟨reference, -, rfl⟩, rfl⟩) <;> rfl
  have iff := reapplied_eq_iff revisionKeyLe id previous.refEntries current.refEntries
    fun entry inside other listed same => by
      rw [keyed entry inside, keyed other listed, same]
  rw [entries, entries, values, values] at iff
  rw [ClosuresComparable, ← iff]
  simp only [diffOf, List.map_map]
  rfl

theorem specs_complete_iff (free : CollisionFree (previous.runSpecs ++ current.runSpecs)) :
    reapplied (previous.runSpecs.map (digestOf platform)) (diffOf previous current).runSpecsAdded
        (diffOf previous current).runSpecsRemoved
        ((diffOf previous current).runSpecsChanged.map fun change =>
          (change.beforeDigest, change.afterDigest)) =
      {digest | digest ∈ current.runSpecs.map (digestOf platform)} ↔
    SlotsComparable previous current := by
  have entries (material : ReviewMaterial platform) :
      viewed (digestOf platform) material.specEntries = material.digestEntries := by
    simp [viewed, ReviewMaterial.specEntries, ReviewMaterial.digestEntries]
  have values (material : ReviewMaterial platform) :
      material.digestEntries.map Prod.snd = material.runSpecs.map (digestOf platform) := by
    simp [ReviewMaterial.digestEntries]
  have keyed : ∀ entry ∈ viewed (digestOf platform) (previous.specEntries ++ current.specEntries),
      ∃ spec ∈ previous.runSpecs ++ current.runSpecs,
        entry = (runSpecSlot spec, digestOf platform spec) := by
    simp only [viewed, ReviewMaterial.specEntries, ← List.map_append, List.map_map, List.mem_map]
    rintro entry ⟨spec, inside, rfl⟩
    exact ⟨spec, inside, rfl⟩
  have iff := reapplied_eq_iff slotLe (digestOf platform) previous.specEntries current.specEntries
    fun entry inside other listed same => by
      obtain ⟨spec, given, rfl⟩ := keyed entry inside
      obtain ⟨another, found, rfl⟩ := keyed other listed
      have equal : spec = another :=
        restores_runSpec.instance_ext (wellFormed_runSpec _) (free spec given another found same)
      rw [equal]
  rw [entries, entries, values, values] at iff
  rw [SlotsComparable, ← iff]
  simp only [diffOf, List.map_map]
  rfl

theorem mem_slotChanges {old new : List (RunSpecSlot × RunSpec platform)} {slot other : RunSpecSlot}
    {field : String} :
    .runSpec slot field ∈ slotChanges old new other ↔
      slot = other ∧ field ∈ comparedFields ∧ ∃ earlier later, getEntry old slot = some earlier ∧
        getEntry new slot = some later ∧ fieldText earlier field ≠ fieldText later field := by
  unfold slotChanges
  split
  · next earlier later held given =>
      simp only [List.mem_map, List.mem_filter, decide_eq_true_eq, SemanticChange.runSpec.injEq]
      constructor
      · rintro ⟨_, ⟨compared, differs⟩, rfl, rfl⟩
        exact ⟨rfl, compared, earlier, later, held, given, differs⟩
      · rintro ⟨rfl, compared, first, second, found, listed, differs⟩
        rw [held] at found
        rw [given] at listed
        cases found
        cases listed
        exact ⟨field, ⟨compared, differs⟩, rfl, rfl⟩
  · next absent =>
      simp only [List.not_mem_nil, false_iff]
      rintro ⟨rfl, -, earlier, later, held, given, -⟩
      exact absent _ _ held given

theorem mem_semanticChanges {slot : RunSpecSlot} {field : String} :
    .runSpec slot field ∈ (diffOf previous current).semanticChanges ↔
      field ∈ comparedFields ∧ ∃ earlier later, getEntry previous.specsBySlot slot = some earlier ∧
        getEntry current.specsBySlot slot = some later ∧
        fieldText earlier field ≠ fieldText later field := by
  simp only [diffOf, List.mem_append, List.mem_map, reduceCtorEq, and_false, exists_false, false_or,
    List.mem_flatMap, mem_slotChanges, sharedKeys, List.mem_insertionSort, List.mem_filter,
    decide_eq_true_eq]
  constructor
  · rintro ⟨_, -, rfl, changed⟩
    exact changed
  · rintro ⟨compared, earlier, later, held, given, differs⟩
    exact ⟨slot, ⟨⟨_, mem_of_getEntry held, rfl⟩, ⟨_, mem_of_getEntry given, rfl⟩⟩, rfl, compared,
      earlier, later, held, given, differs⟩

theorem semantic_complete_iff :
    (∀ before ∈ previous.runSpecs, ∀ after ∈ current.runSpecs,
      runSpecSlot before = runSpecSlot after → DiffersIn executionFields before after →
        ∃ field, .runSpec (runSpecSlot after) field ∈ (diffOf previous current).semanticChanges) ↔
      DifferencesCompared previous current := by
  refine forall₂_congr fun before _ => forall₂_congr fun after _ =>
    forall₂_congr fun _ _ => ?_
  simp only [mem_semanticChanges, DiffersIn]
  constructor
  · rintro ⟨field, compared, earlier, later, held, given, differs⟩
    exact ⟨earlier, later, held, given, field, compared, differs⟩
  · rintro ⟨earlier, later, held, given, field, compared, differs⟩
    exact ⟨field, compared, earlier, later, held, given, differs⟩

end Complete

/-- The difference of two materials of one Project is complete exactly when nothing that it does
not compare has changed. -/
theorem diff_complete_iff (previous current : ReviewMaterial platform)
    (project : previous.projectId = current.projectId)
    (free : CollisionFree (previous.runSpecs ++ current.runSpecs)) :
    ∃ diff, compareTo previous current = .ok diff ∧
      (Complete previous current diff ↔
        ClosuresComparable previous current ∧ SlotsComparable previous current ∧
          DifferencesCompared previous current) := by
  refine ⟨diffOf previous current, by simp [compareTo, project], ?_⟩
  rw [← closure_complete_iff, ← specs_complete_iff free, ← semantic_complete_iff]
  exact ⟨fun complete => ⟨complete.closure, complete.runSpecs, complete.semantic⟩,
    fun ⟨closure, runSpecs, semantic⟩ => ⟨closure, runSpecs, semantic⟩⟩

end Diff

namespace Sample

open Contracts.Sample

/-- A later revision of the goal. -/
def laterGoal : Revision platform where
  kind := .goal
  contract :=
    { dump := .obj [("contract_type", .str "goal"), ("logical_id", .str "one"),
        ("payload", goal.payload), ("project_id", .str "project"), ("revision", .int 2),
        ("schema_version", .str "1"), ("title", .str "title")]
      valid := by decide +kernel }

def seededDump : Json :=
  match plainSpec.dump with
  | .obj fields => .obj (fields.flatMap fun field =>
      if field.1 = "stop_conditions" then [("seed", .int 7), field] else [field])
  | other => other

theorem validate_seededDump : validate platform.coercion runSpec seededDump = .ok seededDump := by
  decide +kernel

/-- The RunSpec with a seed. -/
def seededSpec : RunSpec platform := ⟨seededDump, validate_seededDump⟩

def material (revisions : List (Revision platform)) (spec : RunSpec platform) :
    ReviewMaterial platform where
  reviewTargetDigest := digestText
  projectId := "project"
  revisions := revisions
  runSpecs := [spec]

theorem seededSpec_fields : ∀ field ∈ comparedFields,
    plainSpec.semanticDocument.field field = seededSpec.semanticDocument.field field := by
  decide +kernel

theorem seed_not_compared {field : String} : .runSpec (runSpecSlot seededSpec) field ∉
    (diffOf (material [goal] plainSpec) (material [goal] seededSpec)).semanticChanges := by
  intro entry
  obtain ⟨compared, earlier, later, held, given, differs⟩ := mem_semanticChanges.mp entry
  have first := mem_of_mem_dictOf (mem_of_getEntry held)
  have second := mem_of_mem_dictOf (mem_of_getEntry given)
  obtain ⟨-, rfl⟩ := Prod.mk.inj (List.mem_singleton.mp first)
  obtain ⟨-, rfl⟩ := Prod.mk.inj (List.mem_singleton.mp second)
  exact differs (congrArg canonicalJson (seededSpec_fields field compared))

/-- A closure that loses an earlier revision, and a RunSpec that gets a seed. -/
theorem diff_incomplete :
    (∃ diff, compareTo (material [goal, laterGoal] plainSpec) (material [laterGoal] plainSpec) =
        .ok diff ∧ diff.revisionRefsRemoved = [] ∧
      ¬ Complete (material [goal, laterGoal] plainSpec) (material [laterGoal] plainSpec) diff) ∧
    ∃ diff, compareTo (material [goal] plainSpec) (material [goal] seededSpec) = .ok diff ∧
      (∀ field, .runSpec (runSpecSlot seededSpec) field ∉ diff.semanticChanges) ∧
      ¬ Complete (material [goal] plainSpec) (material [goal] seededSpec) diff := by
  constructor
  · refine ⟨diffOf _ _, rfl, by decide +kernel, fun complete => ?_⟩
    obtain ⟨kept, -⟩ := closure_complete_iff.mp complete.closure
    have shadowed : Shadowed (material [goal, laterGoal] plainSpec).refEntries
        (revisionKey goal.ref, goal.ref) := ⟨List.mem_cons_self, by decide +kernel⟩
    have lost : (revisionKey goal.ref, goal.ref) ∉
        (material [laterGoal] plainSpec).refEntries := by
      decide +kernel
    exact lost (kept _ shadowed)
  · refine ⟨diffOf _ _, rfl, fun _ => seed_not_compared, fun complete => ?_⟩
    have differs : DiffersIn executionFields plainSpec seededSpec :=
      ⟨"seed", by simp [executionFields], by decide +kernel⟩
    obtain ⟨field, entry⟩ := complete.semantic plainSpec List.mem_cons_self seededSpec
      List.mem_cons_self rfl differs
    exact seed_not_compared entry

/-- One entry is not shadowed. -/
theorem not_shadowed {Key Value : Type} [DecidableEq Key] {entry other : Key × Value} :
    ¬ Shadowed [entry] other := by
  rintro ⟨inside, shadowed⟩
  obtain rfl := List.mem_singleton.mp inside
  exact shadowed (by simp [dictOf, setEntry, getEntry])

theorem diff_complete_sample :
    ∃ diff, compareTo (material [goal] plainSpec) (material [laterGoal] plainSpec) = .ok diff ∧
      Complete (material [goal] plainSpec) (material [laterGoal] plainSpec) diff := by
  have free : CollisionFree ([plainSpec] ++ [plainSpec]) := by
    simp [CollisionFree]
  obtain ⟨diff, compared, iff⟩ := diff_complete_iff (material [goal] plainSpec)
    (material [laterGoal] plainSpec) rfl free
  refine ⟨diff, compared, iff.mpr ⟨⟨?_, ?_⟩, ⟨?_, ?_⟩, ?_⟩⟩
  · exact fun _ shadowed => absurd shadowed not_shadowed
  · exact fun _ shadowed => absurd shadowed not_shadowed
  · exact fun _ shadowed => absurd shadowed not_shadowed
  · exact fun _ shadowed => absurd shadowed not_shadowed
  · intro before earlier after later _ ⟨field, _, differs⟩
    rw [List.mem_singleton.mp earlier, List.mem_singleton.mp later] at differs
    exact absurd rfl differs

end Sample

end Evidrun.Runs
