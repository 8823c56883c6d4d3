import Mathlib.Data.List.Basic

/-!
# Calls that read first and commit later

A call that opens its transaction with its first write decides on one state and
writes into another. It is a read step, which plans the writes on the committed
state of that moment, and a commit step, which makes them on whatever state is
committed by then; between the two any other call may commit. Operations that
hold the write lock from the start are one step.

A guard is a condition on the committed state and the plan at the commit. The
runs of the program are those without a guard.
-/

namespace ReadCommit

set_option autoImplicit false

structure Calls (State Plan : Type) where
  /-- A call can read this plan off a committed state. -/
  reads : State → Plan → Prop
  /-- A commit of a plan can turn one committed state into another. -/
  commits : State → Plan → State → Prop
  /-- What is done in one step. -/
  atomic : State → State → Prop

variable {State Plan : Type}

def unguarded : State → Plan → Prop := fun _ _ => True

/-- The committed states and the plans not committed yet, over all interleavings. -/
inductive Reaches (calls : Calls State Plan) (guard : State → Plan → Prop) (start : State) :
    State → List Plan → Prop
  | start : Reaches calls guard start start []
  | read {state : State} {pending : List Plan} {plan : Plan} :
      Reaches calls guard start state pending → calls.reads state plan →
      Reaches calls guard start state (pending ++ [plan])
  | commit {state after : State} {earlier later : List Plan} {plan : Plan} :
      Reaches calls guard start state (earlier ++ plan :: later) → guard state plan →
      calls.commits state plan after → Reaches calls guard start after (earlier ++ later)
  | atomic {state after : State} {pending : List Plan} :
      Reaches calls guard start state pending → calls.atomic state after →
      Reaches calls guard start after pending

/-- What a rule about committed states and pending plans has to show of each step. -/
structure Preserved (calls : Calls State Plan) (guard : State → Plan → Prop)
    (holds : State → Prop) (planned : State → Plan → Prop) : Prop where
  read : ∀ {state plan}, holds state → calls.reads state plan → planned state plan
  commit : ∀ {state plan after}, holds state → planned state plan → guard state plan →
    calls.commits state plan after → holds after
  commit_planned : ∀ {state plan after other}, holds state → planned state plan →
    guard state plan → calls.commits state plan after → planned state other → planned after other
  atomic : ∀ {state after}, holds state → calls.atomic state after → holds after
  atomic_planned : ∀ {state after other}, holds state → calls.atomic state after →
    planned state other → planned after other

/-- A condition on the committed state that every step keeps holds in every state reached, and
what a plan assumed when it was read still holds at its commit. -/
theorem Reaches.invariant {calls : Calls State Plan} {guard : State → Plan → Prop}
    {holds : State → Prop} {planned : State → Plan → Prop}
    (preserved : Preserved calls guard holds planned) {start : State} (initial : holds start)
    {state : State} {pending : List Plan} (reached : Reaches calls guard start state pending) :
    holds state ∧ ∀ plan ∈ pending, planned state plan := by
  induction reached with
  | start => exact ⟨initial, by simp⟩
  | read _ reads ih =>
      refine ⟨ih.1, fun plan member => ?_⟩
      rcases List.mem_append.mp member with before | last
      · exact ih.2 plan before
      · rw [List.mem_singleton.mp last]
        exact preserved.read ih.1 reads
  | commit _ guarded commits ih =>
      obtain ⟨held, plans⟩ := ih
      have mine := plans _ (List.mem_append_right _ List.mem_cons_self)
      refine ⟨preserved.commit held mine guarded commits, fun other member => ?_⟩
      refine preserved.commit_planned held mine guarded commits (plans other ?_)
      rcases List.mem_append.mp member with before | after
      · exact List.mem_append_left _ before
      · exact List.mem_append_right _ (List.mem_cons_of_mem _ after)
  | atomic _ stepped ih =>
      exact ⟨preserved.atomic ih.1 stepped,
        fun plan member => preserved.atomic_planned ih.1 stepped (ih.2 plan member)⟩

end ReadCommit
