import Mathlib.Logic.Basic

/-!
# Procedures

A procedure talks to a world it does not control, keeps a state of its own and may
raise. What it did before it raised stays done. Assertions are about the state alone;
the world may answer anything.
-/

set_option autoImplicit false

def Procedure (World State Fault Result : Type) : Type :=
  World → State → Except Fault Result × World × State

namespace Procedure

variable {World State Fault Result Next : Type}

instance : Monad (Procedure World State Fault) where
  pure result := fun world state => (.ok result, world, state)
  bind body next := fun world state => match body world state with
    | (.ok result, world, state) => next result world state
    | (.error fault, world, state) => (.error fault, world, state)

def raise (fault : Fault) : Procedure World State Fault Result :=
  fun world state => (.error fault, world, state)

/-- A value that is computed without the world, or an exception. -/
def lift (value : Except Fault Result) : Procedure World State Fault Result :=
  fun world state => (value, world, state)

def read : Procedure World State Fault State := fun world state => (.ok state, world, state)

def change (update : State → State) : Procedure World State Fault Unit :=
  fun world state => (.ok (), world, update state)

/-- Call something outside. -/
def ask (callee : World → Except Fault Result × World) : Procedure World State Fault Result :=
  fun world state => ((callee world).1, (callee world).2, state)

/-- `try … except`: an exception without a handler is raised again. -/
def attempt (body : Procedure World State Fault Result)
    (handler : Fault → Option (Procedure World State Fault Result)) :
    Procedure World State Fault Result :=
  fun world state => match body world state with
    | (.ok result, world, state) => (.ok result, world, state)
    | (.error fault, world, state) => match handler fault with
        | some rest => rest world state
        | none => (.error fault, world, state)

/-- From a state that meets `before`, whatever the world answers, a result leaves `after` and
an exception leaves `raised`. -/
def Holds (before : State → Prop) (body : Procedure World State Fault Result)
    (after : Result → State → Prop) (raised : Fault → State → Prop) : Prop :=
  ∀ world state, before state → match body world state with
    | (.ok result, _, state) => after result state
    | (.error fault, _, state) => raised fault state

namespace Holds

variable {before : State → Prop} {body : Procedure World State Fault Result}
  {after : Result → State → Prop} {raised : Fault → State → Prop}

theorem pure {result : Result} (kept : ∀ state, before state → after result state) :
    Holds before (Pure.pure result : Procedure World State Fault Result) after raised :=
  fun _ state held => kept state held

theorem bind {next : Result → Procedure World State Fault Next} {middle : Result → State → Prop}
    {final : Next → State → Prop} (first : Holds before body middle raised)
    (second : ∀ result, Holds (middle result) (next result) final raised) :
    Holds before (body >>= next) final raised := by
  intro world state held
  have done := first world state held
  change match (match body world state with
    | (.ok result, world, state) => next result world state
    | (.error fault, world, state) => (.error fault, world, state)) with
    | (.ok result, _, state) => final result state
    | (.error fault, _, state) => raised fault state
  rcases run : body world state with ⟨outcome, world, state⟩
  rw [run] at done
  cases outcome with
  | ok result => exact second result world state done
  | error fault => exact done

theorem raise {fault : Fault} (kept : ∀ state, before state → raised fault state) :
    Holds before (Procedure.raise fault : Procedure World State Fault Result) after raised :=
  fun _ state held => kept state held

theorem lift {value : Except Fault Result}
    (done : ∀ result, value = .ok result → ∀ state, before state → after result state)
    (failed : ∀ fault, value = .error fault → ∀ state, before state → raised fault state) :
    Holds before (Procedure.lift value : Procedure World State Fault Result) after raised := by
  intro world state held
  cases given : value with
  | ok result => exact done result given state held
  | error fault => exact failed fault given state held

/-- What is read is the state. -/
theorem read : Holds before (Procedure.read : Procedure World State Fault State)
    (fun seen state => seen = state ∧ before state) raised :=
  fun _ _ held => ⟨rfl, held⟩

theorem change {update : State → State} {after : Unit → State → Prop}
    (kept : ∀ state, before state → after () (update state)) :
    Holds before (Procedure.change update : Procedure World State Fault Unit) after raised :=
  fun _ state held => kept state held

/-- A callee does not touch the state. -/
theorem ask {callee : World → Except Fault Result × World}
    (done : ∀ world result, (callee world).1 = .ok result → ∀ state, before state →
      after result state)
    (failed : ∀ world fault, (callee world).1 = .error fault → ∀ state, before state →
      raised fault state) : Holds before (Procedure.ask callee) after raised := by
  intro world state held
  change match ((callee world).1, (callee world).2, state) with
    | (.ok result, _, state) => after result state
    | (.error fault, _, state) => raised fault state
  cases answer : (callee world).1 with
  | ok result => exact done world result answer state held
  | error fault => exact failed world fault answer state held

theorem attempt {handler : Fault → Option (Procedure World State Fault Result)}
    {caught : Fault → State → Prop} (tried : Holds before body after caught)
    (handled : ∀ fault rest, handler fault = some rest →
      Holds (caught fault) rest after raised)
    (again : ∀ fault, handler fault = none → ∀ state, caught fault state → raised fault state) :
    Holds before (Procedure.attempt body handler) after raised := by
  intro world state held
  have done := tried world state held
  rw [Procedure.attempt]
  rcases run : body world state with ⟨outcome, world, state⟩
  rw [run] at done
  cases outcome with
  | ok result => exact done
  | error fault =>
      cases given : handler fault with
      | some rest =>
          simp only [given]
          exact handled fault rest given world state done
      | none =>
          simp only [given]
          exact again fault given state done

theorem weaken {before' : State → Prop} {after' : Result → State → Prop}
    {raised' : Fault → State → Prop} (holds : Holds before' body after' raised')
    (given : ∀ state, before state → before' state)
    (done : ∀ result state, after' result state → after result state)
    (failed : ∀ fault state, raised' fault state → raised fault state) :
    Holds before body after raised := by
  intro world state held
  have ran := holds world state (given state held)
  rcases run : body world state with ⟨outcome, _, state⟩
  rw [run] at ran
  cases outcome with
  | ok result => exact done result state ran
  | error fault => exact failed fault state ran

/-- A fact that does not mention the state can be used to build the proof. -/
theorem of_fact {fact : Prop} (holds : fact → Holds before body after raised) :
    Holds (fun state => fact ∧ before state) body after raised :=
  fun world state held => holds held.1 world state held.2

/-- A view of the state can be named before the body runs. -/
theorem of_view {View : Type} (view : State → View) {fact : View → Prop}
    (holds : ∀ seen, fact seen → Holds (fun state => view state = seen) body after raised) :
    Holds (fun state => fact (view state)) body after raised :=
  fun world state held => holds (view state) held world state rfl

end Holds

/-! ## What a body leaves alone -/

variable {View : Type}

/-- The body does not change this view of the state, also when it raises. -/
def Keeps (view : State → View) (body : Procedure World State Fault Result) : Prop :=
  ∀ seen, Holds (fun state => view state = seen) body (fun _ state => view state = seen)
    (fun _ state => view state = seen)

/-- The body does not raise. -/
def Returns (body : Procedure World State Fault Result) : Prop :=
  Holds (fun _ => True) body (fun _ _ => True) (fun _ _ => False)

/-- A body that does not raise keeps a fact that does not mention the state. -/
theorem Returns.keeps {body : Procedure World State Fault Result} (returns : Returns body)
    {fact : Prop} {raised : Fault → State → Prop} :
    Holds (fun _ => fact) body (fun _ _ => fact) raised := by
  intro world state held
  have returned := returns world state trivial
  rcases run : body world state with ⟨outcome, _, after⟩
  rw [run] at returned
  cases outcome with
  | ok result => exact held
  | error fault => exact returned.elim

namespace Keeps

variable {view : State → View} {body : Procedure World State Fault Result}

theorem pure (result : Result) :
    Keeps view (Pure.pure result : Procedure World State Fault Result) :=
  fun _ => .pure fun _ held => held

theorem bind {next : Result → Procedure World State Fault Next} (first : Keeps view body)
    (second : ∀ result, Keeps view (next result)) : Keeps view (body >>= next) :=
  fun seen => .bind (first seen) fun result => second result seen

theorem ask (callee : World → Except Fault Result × World) :
    Keeps view (Procedure.ask callee : Procedure World State Fault Result) :=
  fun _ => .ask (fun _ _ _ _ held => held) fun _ _ _ _ held => held

theorem lift (value : Except Fault Result) :
    Keeps view (Procedure.lift value : Procedure World State Fault Result) :=
  fun _ => .lift (fun _ _ _ held => held) fun _ _ _ held => held

theorem read : Keeps view (Procedure.read : Procedure World State Fault State) :=
  fun _ => .weaken .read (fun _ held => held) (fun _ _ held => held.2) fun _ _ held => held

theorem change {update : State → State} (kept : ∀ state, view (update state) = view state) :
    Keeps view (Procedure.change update : Procedure World State Fault Unit) :=
  fun _ => .change fun state held => (kept state).trans held

/-- A fact about the view is kept; if the body raises, what follows from it holds. -/
theorem holds (keeps : Keeps view body) {fact : View → Prop} {raised : Fault → State → Prop}
    (failed : ∀ fault state, fact (view state) → raised fault state) :
    Holds (fun state => fact (view state)) body (fun _ state => fact (view state)) raised :=
  .of_view view fun seen given => (keeps seen).weaken (fun _ held => held)
    (fun _ _ held => held.symm ▸ given)
    fun fault state held => failed fault state (held.symm ▸ given)

/-- A body that does not raise keeps the view. -/
theorem returning (keeps : Keeps view body) (returns : Returns body) {seen : View}
    {raised : Fault → State → Prop} :
    Holds (fun state => view state = seen) body (fun _ state => view state = seen) raised := by
  intro world state held
  have kept := keeps seen world state held
  have returned := returns world state trivial
  rcases run : body world state with ⟨outcome, _, after⟩
  rw [run] at kept returned
  cases outcome with
  | ok result => exact kept
  | error fault => exact returned.elim

end Keeps

end Procedure
