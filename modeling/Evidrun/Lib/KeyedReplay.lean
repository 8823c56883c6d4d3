import Mathlib.Data.List.Basic
import Mathlib.Logic.Function.Basic

/-!
# Replaying keyed histories

Events of many histories are replayed as one list. Each event belongs to one
history, must be allowed in the state its history is in, and sets that state.
The whole list replays exactly when the events of every single history do.
-/

namespace KeyedReplay

set_option autoImplicit false

variable {Event Key State : Type} [DecidableEq Key] {key : Event → Key}
  {allowed : Option State → Event → Prop} {next : Event → State}

/-- The events of one history, from the state it is in. -/
def Replays (allowed : Option State → Event → Prop) (next : Event → State) :
    Option State → List Event → Prop
  | _, [] => True
  | state, event :: rest => allowed state event ∧ Replays allowed next (some (next event)) rest

/-- The state a history ends in. -/
def final (next : Event → State) : Option State → List Event → Option State
  | state, [] => state
  | _, event :: rest => final next (some (next event)) rest

/-- The events of all histories, from the states they are in. -/
def KeyedReplays (key : Event → Key) (allowed : Option State → Event → Prop)
    (next : Event → State) : (Key → Option State) → List Event → Prop
  | _, [] => True
  | states, event :: rest =>
      allowed (states (key event)) event ∧
        KeyedReplays key allowed next (Function.update states (key event) (some (next event))) rest

theorem replays_append {state : Option State} {events more : List Event} :
    Replays allowed next state (events ++ more) ↔
      Replays allowed next state events ∧ Replays allowed next (final next state events) more := by
  induction events generalizing state with
  | nil => simp [Replays, final]
  | cons event rest ih => simp [Replays, final, ih, and_assoc]

theorem final_append (state : Option State) (events more : List Event) :
    final next state (events ++ more) = final next (final next state events) more := by
  induction events generalizing state with
  | nil => rfl
  | cons event rest ih => exact ih _

theorem keyedReplays_iff {states : Key → Option State} {events : List Event} :
    KeyedReplays key allowed next states events ↔
      ∀ wanted, Replays allowed next (states wanted)
        (events.filter fun event => key event = wanted) := by
  induction events generalizing states with
  | nil => simp [KeyedReplays, Replays]
  | cons event rest ih =>
      rw [KeyedReplays, ih]
      constructor
      · rintro ⟨first, later⟩ wanted
        have tail := later wanted
        by_cases same : key event = wanted
        · subst same
          simp only [List.filter_cons, decide_true, if_true, Replays]
          exact ⟨first, by simpa using tail⟩
        · rw [Function.update_of_ne (Ne.symm same)] at tail
          simpa [List.filter_cons, same] using tail
      · intro each
        have own := each (key event)
        simp only [List.filter_cons, decide_true, if_true, Replays] at own
        refine ⟨own.1, fun wanted => ?_⟩
        by_cases same : key event = wanted
        · subst same
          simpa using own.2
        · have other := each wanted
          rw [Function.update_of_ne (Ne.symm same)]
          simpa [List.filter_cons, same] using other

/-! ## A store that replays -/

section Store

variable {Store Error : Type}

/-- A step of a store that takes exactly the allowed events and sets the state of their
history. -/
structure Steps (key : Event → Key) (allowed : Option State → Event → Prop)
    (next : Event → State) (view : Store → Key → Option State)
    (step : Store → Event → Except Error Store) (store : Store) (event : Event) : Prop where
  takes : (∃ after, step store event = .ok after) ↔ allowed (view store (key event)) event
  sets : ∀ after, step store event = .ok after →
    view after = Function.update (view store) (key event) (some (next event))

variable {view : Store → Key → Option State} {step : Store → Event → Except Error Store}
  {good : Store → Prop}

/-- A store whose every step is of this kind takes the list exactly when it replays, and
then each history is in its final state. -/
theorem foldlM_replays {events : List Event}
    (steps : ∀ store, good store → ∀ event ∈ events, Steps key allowed next view step store event)
    (keeps : ∀ store, good store → ∀ event ∈ events, ∀ after, step store event = .ok after →
      good after) {store : Store} (start : good store) :
    ((∃ after, events.foldlM step store = .ok after) ↔
        KeyedReplays key allowed next (view store) events) ∧
      ∀ after, events.foldlM step store = .ok after → good after ∧
        ∀ wanted, view after wanted =
          final next (view store wanted) (events.filter fun event => key event = wanted) := by
  induction events generalizing store with
  | nil =>
      refine ⟨iff_of_true ⟨store, rfl⟩ trivial, fun after same => ?_⟩
      cases same
      exact ⟨start, fun _ => rfl⟩
  | cons event rest ih =>
      have head := steps store start event List.mem_cons_self
      simp only [List.foldlM_cons]
      cases taken : step store event with
      | error raised =>
          have refused : ¬allowed (view store (key event)) event := fun allowed => by
            obtain ⟨after, same⟩ := head.takes.mpr allowed
            rw [taken] at same
            cases same
          simp [KeyedReplays, refused, bind, Except.bind]
      | ok middle =>
          have set := head.sets middle taken
          have tail := ih (fun store fine other member =>
              steps store fine other (List.mem_cons_of_mem _ member))
            (fun store fine other member => keeps store fine other (List.mem_cons_of_mem _ member))
            (keeps store start event List.mem_cons_self middle taken)
          rw [set] at tail
          refine ⟨tail.1.trans (iff_and_self.mpr fun _ => head.takes.mp ⟨middle, taken⟩), ?_⟩
          intro after done
          obtain ⟨fine, ends⟩ := tail.2 after done
          refine ⟨fine, fun wanted => (ends wanted).trans ?_⟩
          by_cases same : key event = wanted
          · subst same
            simp [final]
          · rw [Function.update_of_ne (Ne.symm same)]
            simp [same]

end Store

end KeyedReplay
