import Evidrun.Contracts.RoundTrip
import Evidrun.Contracts.Events

/-!
# Event payloads as stored

The bundle verifier normalizes every stored payload again and compares
(`evidrun.evidence.verify.dispatch`). No payload model has a required part that the
semantic document drops, so a normalized payload is its own normal form.
-/

namespace Evidrun.Contracts

open JsonText DocumentSchema

set_option autoImplicit false

variable {coercion : Coercion}

@[simp] theorem durable_terminalGoalResult :
    Restores coercion terminalGoalResult ∧ Filled coercion terminalGoalResult :=
  durable_kinds (wellFormed_terminalGoalResult coercion)
    (by simp [goalStateTerminalResult, boundedExplorationTerminalResult, tuple, literal,
      nonEmptyStr])

theorem restores_payloadModel (kind : EventType) : Restores coercion kind.payloadModel := by
  have formed := wellFormed_payloadModel coercion kind
  cases kind <;>
    refine restores_model [] formed ?_ (by simp) <;>
    simp [tuple, digest, nonEmptyStr, literal, integerFrom, boolean, text, captureMode, gateStatus]

/-- Normalization is a projection, also through the text of the stored document. -/
theorem normalizeEventPayload_projects (platform : Platform) (kind : EventType)
    (payload : Json) {document : Json}
    (normalized : normalizeEventPayload platform kind payload = .ok document) :
    normalizeEventPayload platform kind document = .ok document ∧
      ∃ reread, loads (canonicalJson document) = some reread ∧
        normalizeEventPayload platform kind reread = .ok document := by
  have ordered := normalizeEventPayload_ordered platform kind payload document normalized
  have again : normalizeEventPayload platform kind document = .ok document := by
    unfold normalizeEventPayload DocumentSchema.normalize at normalized ⊢
    cases read : validate platform.coercion kind.payloadModel payload with
    | error _ => simp [read, Except.map] at normalized
    | ok dump =>
        rw [read] at normalized
        cases normalized
        obtain ⟨reread, restored, same⟩ := (restores_payloadModel kind).rereads
          (wellFormed_payloadModel platform.coercion kind) payload dump read
        rw [restored]
        exact congrArg Except.ok same
  exact ⟨again, document, loads_canonicalJson document ordered, again⟩

/-- A terminal payload with an empty list and a padded cause. -/
theorem completed_payload_projects :
    normalizeEventPayload ⟨id, fun _ => "", .strict⟩ .runCompleted
      (.obj [("goal_result", .obj [("goal_mode", .str "goal_state"), ("state", .str "achieved")]),
        ("status", .str "completed"), ("terminal_cause", .str "done")]) =
      .ok (.obj [("goal_result", .obj [("goal_mode", .str "goal_state"),
        ("state", .str "achieved")]), ("status", .str "completed"), ("terminal_cause", .str "done")]) :=
  (normalizeEventPayload_projects ⟨id, fun _ => "", .strict⟩ .runCompleted
    (.obj [("checkpoint_refs", .arr []), ("goal_result", .obj
      [("goal_mode", .str "goal_state"), ("state", .str "achieved")]), ("status", .str "completed"),
      ("terminal_cause", .str " done ")])
    (by decide +kernel)).1

end Evidrun.Contracts
