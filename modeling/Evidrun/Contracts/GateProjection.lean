import Evidrun.Contracts.Evaluation

/-!
# Gate projection

The projection of gate results from records does not depend on the order of the
records, and the stages that the results show are a prefix of the plan which grows
when a gate is passed. The completion of a Run and the acceptance of a bundle both
read this projection.
-/

namespace Evidrun.Contracts.EvaluationValidator

open JsonText DocumentSchema

set_option autoImplicit false

theorem eq_of_perm_single {records other : List Json} (perm : records.Perm other)
    (single : ¬ 1 < other.length) : records = other := by
  match other with
  | [] => exact List.perm_nil.mp perm
  | [_] => exact List.perm_singleton.mp perm
  | _ :: _ :: _ => exact absurd (by simp) single

/-- A stage reads the records through two filters, of one member each past the checks. -/
theorem gateResults_perm (plan : Json) {records other : List Json} (perm : records.Perm other) :
    gateResults plan records = gateResults plan other := by
  unfold gateResults
  congr 2
  funext stage
  have same := perm.filter fun record => decide (record.field "stage_id" = stage.field "id")
  simp only [List.partition_eq_filter_filter]
  have adjudicated := same.filter fun record =>
    decide (record.field "source_type" = .str "human_adjudicator")
  have primary := same.filter
    (not ∘ fun record => decide (record.field "source_type" = .str "human_adjudicator"))
  rw [adjudicated.length_eq, primary.length_eq]
  generalize List.filter _ (List.filter _ records) = found at adjudicated ⊢
  generalize List.filter _ (List.filter _ records) = planned at primary ⊢
  generalize List.filter _ (List.filter _ other) = found' at adjudicated ⊢
  generalize List.filter _ (List.filter _ other) = planned' at primary ⊢
  by_cases twice : 1 < found'.length
  · simp only [raiseIf, twice, decide_true, if_true]
    rfl
  · by_cases again : 1 < planned'.length
    · simp only [raiseIf, twice, again, decide_true, decide_false, if_true, Bool.false_eq_true,
        if_false]
      rfl
    · rw [eq_of_perm_single adjudicated twice, eq_of_perm_single primary again]

/-- A hard gate without a result that lets the later stages be seen. -/
def Blocked (results : List (Json × Json)) (stage : Json) : Prop :=
  stage.field "hard_gate" = .bool true ∧
    results.lookup (stage.field "id") ≠ some (.str "passed") ∧
    results.lookup (stage.field "id") ≠ some (.str "not_applicable")

variable {results : List (Json × Json)}

theorem visibleAfterGates_blocked {stage : Json} (blocked : Blocked results stage)
    (rest : List Json) : visibleAfterGates results (stage :: rest) = [stage.field "id"] := by
  obtain ⟨hard, notPassed, applicable⟩ := blocked
  simp [visibleAfterGates, hard]

theorem visibleAfterGates_open {stage : Json} (cleared : ¬ Blocked results stage) (rest : List Json) :
    visibleAfterGates results (stage :: rest) =
      stage.field "id" :: visibleAfterGates results rest := by
  simp only [visibleAfterGates]
  rw [if_neg]
  rintro ⟨hard, unpassed⟩
  refine cleared ⟨hard, ?_, ?_⟩ <;> intro found <;> simp [found] at unpassed

theorem visibleAfterGates_cut (results : List (Json × Json)) (stages : List Json) :
    ∃ before after, stages = before ++ after ∧ (∀ stage ∈ before, ¬ Blocked results stage) ∧
      (after = [] ∧ visibleAfterGates results stages = before.map (·.field "id") ∨
        ∃ gate rest, after = gate :: rest ∧ Blocked results gate ∧
          visibleAfterGates results stages = (before ++ [gate]).map (·.field "id")) := by
  induction stages with
  | nil => exact ⟨[], [], rfl, by simp, Or.inl ⟨rfl, rfl⟩⟩
  | cons stage rest ih =>
      by_cases blocked : Blocked results stage
      · exact ⟨[], stage :: rest, rfl, by simp,
          Or.inr ⟨stage, rest, rfl, blocked, visibleAfterGates_blocked blocked rest⟩⟩
      · obtain ⟨before, after, rfl, cleared, shown⟩ := ih
        refine ⟨stage :: before, after, rfl, List.forall_mem_cons.mpr ⟨blocked, cleared⟩, ?_⟩
        rw [visibleAfterGates_open blocked]
        simpa using shown

/-- Where every open gate stays open, the stages shown stay shown. -/
theorem visibleAfterGates_mono {later : List (Json × Json)}
    (opened : ∀ stage, Blocked later stage → Blocked results stage) (stages : List Json) :
    visibleAfterGates results stages <+: visibleAfterGates later stages := by
  induction stages with
  | nil => exact List.prefix_rfl
  | cons stage rest ih =>
      by_cases blocked : Blocked results stage
      · rw [visibleAfterGates_blocked blocked]
        by_cases still : Blocked later stage
        · rewrite [visibleAfterGates_blocked still]
          exact List.prefix_rfl
        · rw [visibleAfterGates_open still]
          exact List.prefix_append [_] _
      · rw [visibleAfterGates_open blocked,
          visibleAfterGates_open fun still => blocked (opened stage still)]
        exact (List.prefix_cons_inj _).mpr ih

/-- A gate that turns to passed opens and blocks nothing else. -/
theorem blocked_of_passed {later : List (Json × Json)} {gate : Json}
    (passed : later.lookup gate = some (.str "passed"))
    (others : ∀ id, id ≠ gate → later.lookup id = results.lookup id) (stage : Json)
    (blocked : Blocked later stage) : Blocked results stage := by
  obtain ⟨hard, notPassed, applicable⟩ := blocked
  have other : stage.field "id" ≠ gate := fun same => notPassed (same ▸ passed)
  rw [others _ other] at notPassed applicable
  exact ⟨hard, notPassed, applicable⟩

/-- Gate results do not depend on the order of the records, the visible stages end at the
first blocked hard gate, and a gate that turns to passed hides none of them. -/
theorem gate_projection_stable (plan : Json) :
    (∀ records other : List Json, records.Perm other →
      gateResults plan records = gateResults plan other) ∧
    (∀ results, ∃ before after, plan.items "stages" = before ++ after ∧
      (∀ stage ∈ before, ¬ Blocked results stage) ∧
      (after = [] ∧ stagesVisibleAfterGates plan results = before.map (·.field "id") ∨
        ∃ gate rest, after = gate :: rest ∧ Blocked results gate ∧
          stagesVisibleAfterGates plan results = (before ++ [gate]).map (·.field "id"))) ∧
    (∀ results later gate, later.lookup gate = some (.str "passed") →
      (∀ id, id ≠ gate → later.lookup id = results.lookup id) →
      stagesVisibleAfterGates plan results <+: stagesVisibleAfterGates plan later) :=
  ⟨fun _ _ perm => gateResults_perm plan perm,
    fun results => visibleAfterGates_cut results (plan.items "stages"),
    fun _ _ _ passed others => visibleAfterGates_mono (blocked_of_passed passed others) _⟩

end Evidrun.Contracts.EvaluationValidator
