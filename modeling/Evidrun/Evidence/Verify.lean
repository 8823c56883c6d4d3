import Evidrun.Database.History

/-!
# Replaying an event chain

The bundle verifier replays the events of one Run from their documents
(`evidence/verify/dispatch.py`), with a state of its own: counters for the
Subject's turns, the offered capabilities and the tool calls with their
capability as canonical text. The ledger decides the same protocol from the
list of earlier events. The two agree on every sealed chain that ends in a
terminal event.
-/

namespace Evidrun.Evidence

open JsonText DocumentSchema Evidrun.Contracts Evidrun.Database

set_option autoImplicit false

/-! ## The verifier -/

structure ChainState where
  previous : Json
  currentStatus : RunStatus
  subjectInvocations : Nat
  subjectResponses : Nat
  offeredCapabilities : List String
  toolCalls : List (String × String)
  toolTerminals : List String

def ChainState.start : ChainState := ⟨.null, .queued, 0, 0, [], [], []⟩

/-- A Subject invocation is open, still awaiting its response. -/
def ChainState.subjectOpen (state : ChainState) : Bool :=
  state.subjectInvocations == state.subjectResponses + 1

def preTerminalStates : List RunStatus := [.queued, .preparing, .running, .paused, .evaluating]

/-- `TRANSITIONS`. -/
def transitions : EventType → Option (List RunStatus × RunStatus)
  | .runPreparing => some ([.queued], .preparing)
  | .runRunning => some ([.preparing], .running)
  | .runPaused => some ([.running], .paused)
  | .runResumed => some ([.paused], .running)
  | .runEvaluating => some ([.running], .evaluating)
  | .runCompleted => some ([.evaluating], .completed)
  | .runFailed => some (preTerminalStates, .failed)
  | .runCancelled => some (preTerminalStates, .cancelled)
  | .runBudgetExhausted => some (preTerminalStates, .budgetExhausted)
  | .runGuardrailStopped => some (preTerminalStates, .guardrailStopped)
  | _ => none

/-- Whether a number, as JSON reads it, equals a sequence number. -/
def isSequence (sequence : Nat) : Json → Bool
  | .int value => value == sequence
  | .float value => floatValue value == sequence
  | .bool true => sequence == 1
  | .bool false => sequence == 0
  | _ => false

/-- `not str(actor_id).strip()`: the text of anything but a string is never blank. -/
def blankActor : Option Json → Bool
  | none => true
  | some (.str text) => pyStrip text == ""
  | some _ => false

def eventKind? (event : Json) : Option EventType :=
  match event.field "type" with
  | .str text => EventType.ofText? text
  | _ => none

/-- Identity, actor, the link to the event before and the hash, of an event
without its `event_hash`. -/
def envelopeValid (platform : Platform) (runId : String) (sequence : Nat) (event storedHash : Json)
    (state : ChainState) : Bool :=
  event.field "schema_version" == .str "1" && event.field "run_id" == .str runId &&
    isSequence sequence (event.field "sequence") &&
    allowedActorTypes.any (fun actor => event.field "actor_type" == .str actor) &&
    !blankActor (event.get? "actor_id") && !(eventKind? event).any EventType.unsupported &&
    event.field "prev_event_hash" == state.previous &&
    .str (sha256Json platform event) == storedHash

/-- `run.queued` opens the Run and only it; nothing follows a terminal status. -/
def orderingValid (kind : EventType) (sequence : Nat) (state : ChainState) : Bool :=
  if sequence = 1 then kind == .runQueued
  else if kind = .runQueued || terminalStatus state.currentStatus then false
  else kind.allowedRunStatuses.all (state.currentStatus ∈ ·)

/-- Called once, over an offered capability, with its arguments referenced. -/
def toolCallValid (payload : Json) (state : ChainState) : Option ChainState :=
  let callId := (payload.field "call_id").asString
  let capability := canonicalJson (payload.field "capability_ref")
  let arguments := payload.field "arguments_ref"
  if state.subjectOpen && (state.toolCalls.lookup callId).isNone &&
      decide (capability ∈ state.offeredCapabilities) && isDict arguments &&
      arguments.field "media_type" == .str "application/json" &&
      arguments.field "classification" == .str "internal" then
    some { state with toolCalls := (callId, capability) :: state.toolCalls }
  else none

/-- One terminal for each call, coherent with the capability that was called. -/
def toolTerminalValid (kind : EventType) (payload : Json) (state : ChainState) :
    Option ChainState :=
  let callId := (payload.field "call_id").asString
  match state.toolCalls.lookup callId with
  | none => none
  | some called =>
      if state.subjectOpen && decide (callId ∉ state.toolTerminals) &&
          (!(kind == .toolCompleted || kind == .toolFailed) ||
            canonicalJson (payload.field "capability_ref") == called) &&
          (kind != .toolCompleted || isDict (payload.field "result_ref")) then
        some { state with toolTerminals := callId :: state.toolTerminals }
      else none

/-- One interaction at a time: a tool exists only inside an open Subject turn. -/
def subjectAndToolValid (kind : EventType) (payload : Json) (state : ChainState) :
    Option ChainState :=
  match kind with
  | .subjectInvoked =>
      if state.subjectInvocations = state.subjectResponses then
        some { state with subjectInvocations := state.subjectInvocations + 1 }
      else none
  | .subjectResponded =>
      if state.subjectOpen then
        some { state with subjectResponses := state.subjectResponses + 1 }
      else none
  | .capabilityOffered =>
      some { state with
        offeredCapabilities :=
          canonicalJson (payload.field "capability_ref") :: state.offeredCapabilities }
  | .toolCalled => toolCallValid payload state
  | .toolDenied | .toolCompleted | .toolFailed => toolTerminalValid kind payload state
  | .runEvaluating | .runCompleted => if state.subjectResponses = 0 then none else some state
  | _ => some state

/-- A declared lifecycle transition must agree with the current status. -/
def transitionValid (kind : EventType) (payload : Json) (state : ChainState) :
    Option ChainState :=
  match transitions kind with
  | none => some state
  | some (allowedFrom, target) =>
      if decide (state.currentStatus ∈ allowedFrom) &&
          declares payload "from_status" state.currentStatus.text &&
          declares payload "status" target.text then
        some { state with currentStatus := target }
      else none

/-- The rules about one event's type and payload. -/
def protocolValid (sequence : Nat) (fact : Fact) (state : ChainState) : Option ChainState :=
  if orderingValid fact.eventType sequence state then
    (subjectAndToolValid fact.eventType fact.payload state).bind
      (transitionValid fact.eventType fact.payload)
  else none

/-- The payload reads back unchanged, whatever the order of its keys. -/
def payloadNormalized (platform : Platform) (kind : EventType) (payload : Json) : Bool :=
  match normalizeEventPayload platform kind payload with
  | .ok document => document == sortKeys payload
  | .error _ => false

/-- One round of the loop: the next state, or `none` where the chain is invalid.
An event without a hash raises. -/
def chainStep (platform : Platform) (runId : String) (sequence : Nat) (event : Json)
    (state : ChainState) : Except Exc (Option ChainState) := do
  let storedHash ← item event "event_hash"
  let body := event.erase "event_hash"
  if envelopeValid platform runId sequence body storedHash state then
    match eventKind? body with
    | none => .ok none
    | some kind =>
        let payload := body.field "payload"
        if payloadNormalized platform kind payload then
          .ok ((protocolValid sequence ⟨kind, payload⟩ state).map fun next =>
            { next with previous := storedHash })
        else .ok none
  else .ok none

def chainLoop (platform : Platform) (runId : String) :
    Nat → List Json → ChainState → Except Exc Bool
  | _, [], state => .ok (Database.sameSet (state.toolCalls.map Prod.fst) state.toolTerminals)
  | sequence, event :: rest, state => do
      match ← chainStep platform runId sequence event state with
      | none => .ok false
      | some next => chainLoop platform runId (sequence + 1) rest next

/-- `_chain_valid`. -/
def chainValid (platform : Platform) (runId : String) (events : List Json) : Except Exc Bool :=
  chainLoop platform runId 1 events .start

/-! ## The ledger's rules over a list of events -/

/-- `check_tool_events`, for the events it is called for. -/
def toolRules (prior : List Fact) (fact : Fact) : Except Exc Unit :=
  if fact.eventType.isTool then checkToolEvents fact.eventType fact.payload prior else .ok ()

/-- What `check_terminal_event` asks of the earlier events. -/
def closingRules (prior : List Fact) (fact : Fact) : Except Exc Unit :=
  if terminalEvent fact.eventType then do
    require (fact.eventType != .runCompleted || 0 < countOf .subjectResponded prior)
      (.valueError "completed Run requires a Subject response and evaluation records")
    checkNoOpenCalls prior
  else .ok ()

/-- The rules of the ledger that read only the Run's status and its earlier
events, in the order `append_event` applies them. -/
def structuralRules (status : RunStatus) (prior : List Fact) (fact : Fact) :
    Except Exc RunStatus := do
  require (!fact.eventType.unsupported)
    (.valueError "Run event type is reserved until its coordinator/runtime is implemented")
  validatePhase status fact.eventType prior
  toolRules prior fact
  closingRules prior fact
  let next ← statusTransition status fact.eventType fact.payload !prior.isEmpty
  .ok (next.getD status)

def replayLedger (status : RunStatus) (prior : List Fact) : List Fact → Except Exc RunStatus
  | [] => .ok status
  | fact :: rest => do
      let next ← structuralRules status prior fact
      replayLedger next (prior ++ [fact]) rest

theorem transitions_eq (kind : EventType) : transitions kind = lifecycleRule kind := by
  cases kind <;> rfl

/-! ## Payloads that conform -/

/-- The payload is the normalized document of its type. -/
def Conforms (platform : Platform) (fact : Fact) : Prop :=
  normalizeEventPayload platform fact.eventType fact.payload = .ok fact.payload

section Conforms

variable {platform : Platform} {fact : Fact}

theorem Conforms.ordered (conforms : Conforms platform fact) : fact.payload.ordered = true :=
  normalizeEventPayload_ordered platform _ _ _ conforms

/-- The events that name a tool call carry its id as text. -/
theorem Conforms.callId (conforms : Conforms platform fact)
    (named : fact.eventType = .toolCalled ∨ fact.eventType.settlesTool = true) :
    ∃ callId, fact.payload.get? "call_id" = some (.str callId) := by
  obtain ⟨kind, payload⟩ := fact
  change kind = .toolCalled ∨ kind.settlesTool = true at named
  have present : ∃ value found, payload.get? "call_id" = some value ∧
      validate platform.coercion nonEmptyStr value = .ok found := by
    unfold Conforms normalizeEventPayload at conforms
    cases kind <;> first
      | exact absurd named (by decide)
      | exact normalize_required _ _ _ (by decide) _ _ conforms _ _ (by simp [required])
  obtain ⟨value, found, got, read⟩ := present
  cases value with
  | str callId => exact ⟨callId, got⟩
  | _ => simp [nonEmptyStr, validate, Scalar.parse] at read

/-- The events about a capability carry its reference. -/
theorem Conforms.capability (conforms : Conforms platform fact)
    (named : fact.eventType = .capabilityOffered ∨ fact.eventType = .toolCalled ∨
      fact.eventType = .toolCompleted ∨ fact.eventType = .toolFailed) :
    ∃ capability, fact.payload.get? "capability_ref" = some capability ∧
      capability.ordered = true := by
  have ordered := conforms.ordered
  obtain ⟨kind, payload⟩ := fact
  have present : ∃ value found, payload.get? "capability_ref" = some value ∧
      validate platform.coercion capabilityDescriptorRef value = .ok found := by
    unfold Conforms normalizeEventPayload at conforms
    rcases named with same | same | same | same <;> cases same <;>
      exact normalize_required _ _ _ (by decide) _ _ conforms _ _ (by simp [required])
  obtain ⟨value, _, got, _⟩ := present
  exact ⟨value, got, ordered_of_get ordered got⟩

end Conforms

/-! ## The two states -/

/-- The verifier's state says what the ledger reads from the earlier events. -/
structure Tracks (state : ChainState) (prior : List Fact) : Prop where
  fresh : prior = [] → state.currentStatus = .queued
  invoked : state.subjectInvocations = countOf .subjectInvoked prior
  responded : state.subjectResponses = countOf .subjectResponded prior
  tools : ∃ calls, toolState prior = .ok ⟨state.offeredCapabilities, calls, state.toolTerminals⟩ ∧
    state.toolCalls =
      calls.map (fun call => (call.1, canonicalJson (call.2.field "capability_ref"))) ∧
    ∀ call ∈ calls, ∃ capability, call.2.get? "capability_ref" = some capability ∧
      capability.ordered = true
  called : callIds (· == .toolCalled) prior = .ok (state.toolCalls.map Prod.fst).reverse
  settled : callIds EventType.settlesTool prior = .ok state.toolTerminals.reverse
  within : state.toolTerminals ⊆ state.toolCalls.map Prod.fst

theorem tracks_start : Tracks .start [] where
  fresh _ := rfl
  invoked := rfl
  responded := rfl
  tools := ⟨[], rfl, rfl, by simp⟩
  called := rfl
  settled := rfl
  within := by simp [ChainState.start]

@[simp] theorem countOf_append (kind : EventType) (prior : List Fact) (fact : Fact) :
    countOf kind (prior ++ [fact]) = countOf kind prior + if fact.eventType = kind then 1 else 0 := by
  simp [countOf, List.countP_append, List.countP_singleton]

theorem callIds_append (select : EventType → Bool) (prior : List Fact) (fact : Fact)
    (found : List String) (before : callIds select prior = .ok found) :
    callIds select (prior ++ [fact]) =
      if select fact.eventType then
        (item fact.payload "call_id").map fun callId => found ++ [callId.asString]
      else .ok found := by
  unfold callIds at before ⊢
  rw [List.filter_append, List.mapM_append, before]
  by_cases selected : select fact.eventType = true
  · cases got : item fact.payload "call_id" <;>
      simp [selected, got, bind, Except.bind, pure, Except.pure, Except.map]
  · simp [selected, bind, Except.bind, pure, Except.pure]

theorem toolState_append (prior : List Fact) (fact : Fact) (state : ToolState)
    (before : toolState prior = .ok state) :
    toolState (prior ++ [fact]) = state.record fact := by
  unfold toolState at before ⊢
  rw [List.foldlM_append, before]
  simp [bind, Except.bind, pure, Except.pure]
  cases state.record fact <;> rfl

/-! ## One event keeps the states together -/

section Step

variable {platform : Platform} {state : ChainState} {prior : List Fact} {fact : Fact}

section

variable {payload : Json} {next : ChainState} {sequence : Nat}

theorem item_ok {value : Json} {name : String} (found : payload.get? name = some value) :
    item payload name = .ok value := by
  simp [item, found, orRaise]

/-- An event that calls and settles no tool leaves the calls and their terminals alone. -/
theorem Tracks.uncalled (tracks : Tracks state prior)
    (counted : next.subjectInvocations = countOf .subjectInvoked (prior ++ [fact]) ∧
      next.subjectResponses = countOf .subjectResponded (prior ++ [fact]))
    (notCalled : fact.eventType ≠ .toolCalled) (notSettled : fact.eventType.settlesTool = false)
    (same : next.toolCalls = state.toolCalls ∧ next.toolTerminals = state.toolTerminals)
    (offered : ∀ calls, ToolState.record ⟨state.offeredCapabilities, calls, state.toolTerminals⟩
      fact = .ok ⟨next.offeredCapabilities, calls, state.toolTerminals⟩) :
    Tracks next (prior ++ [fact]) := by
  obtain ⟨calls, tools, texts, capabilities⟩ := tracks.tools
  refine ⟨by simp, counted.1, counted.2, ⟨calls, ?_, same.1.trans texts, capabilities⟩, ?_, ?_, ?_⟩
  · rw [toolState_append _ _ _ tools, offered, same.2]
  · simp [callIds_append _ _ _ _ tracks.called, notCalled, same]
  · simp [callIds_append _ _ _ _ tracks.settled, notSettled, same]
  · simpa [same] using tracks.within

theorem Tracks.call (tracks : Tracks state prior) (conforms : Conforms platform fact)
    (kind : fact.eventType = .toolCalled) :
    Tracks
      { state with
        toolCalls := ((fact.payload.field "call_id").asString,
          canonicalJson (fact.payload.field "capability_ref")) :: state.toolCalls }
      (prior ++ [fact]) := by
  obtain ⟨calls, tools, same, capabilities⟩ := tracks.tools
  obtain ⟨callId, named⟩ := conforms.callId (Or.inl kind)
  obtain ⟨capability, got, ordered⟩ := conforms.capability (Or.inr (Or.inl kind))
  refine ⟨by simp, ?_, ?_, ⟨(callId, fact.payload) :: calls, ?_, ?_, ?_⟩, ?_, ?_, ?_⟩
  · simp [kind, tracks.invoked]
  · simp [kind, tracks.responded]
  · rw [toolState_append _ _ _ tools]
    simp [ToolState.record, kind, item_ok named, Json.asString, bind, Except.bind]
  · simp [same, Json.field_of_get named, Json.asString]
  · intro call member
    rcases List.mem_cons.mp member with rfl | earlier
    · exact ⟨capability, got, ordered⟩
    · exact capabilities call earlier
  · rw [callIds_append _ _ _ _ tracks.called]
    simp [kind, item_ok named, Json.field_of_get named, Except.map]
  · rw [callIds_append _ _ _ _ tracks.settled]
    simp [kind, EventType.settlesTool]
  · exact fun settled member => List.mem_cons_of_mem _ (tracks.within member)

theorem Tracks.settle (tracks : Tracks state prior) (conforms : Conforms platform fact)
    (kind : fact.eventType.settlesTool = true)
    (known : (fact.payload.field "call_id").asString ∈ state.toolCalls.map Prod.fst) :
    Tracks
      { state with
        toolTerminals := (fact.payload.field "call_id").asString :: state.toolTerminals }
      (prior ++ [fact]) := by
  obtain ⟨calls, tools, same, capabilities⟩ := tracks.tools
  obtain ⟨callId, named⟩ := conforms.callId (Or.inr kind)
  have notInvoked : fact.eventType ≠ .subjectInvoked := fun equal => by
    simp [equal, EventType.settlesTool] at kind
  have notResponded : fact.eventType ≠ .subjectResponded := fun equal => by
    simp [equal, EventType.settlesTool] at kind
  have notOffered : fact.eventType ≠ .capabilityOffered := fun equal => by
    simp [equal, EventType.settlesTool] at kind
  have notCalled : fact.eventType ≠ .toolCalled := fun equal => by
    simp [equal, EventType.settlesTool] at kind
  refine ⟨by simp, ?_, ?_, ⟨calls, ?_, same, capabilities⟩, ?_, ?_, ?_⟩
  · simp [notInvoked, tracks.invoked]
  · simp [notResponded, tracks.responded]
  · rw [toolState_append _ _ _ tools]
    simp [ToolState.record, notOffered, notCalled, kind, item_ok named, Json.field_of_get named, bind,
      Except.bind]
  · rw [callIds_append _ _ _ _ tracks.called]
    simp [notCalled]
  · rw [callIds_append _ _ _ _ tracks.settled]
    simp [kind, item_ok named, Json.field_of_get named, Except.map]
  · intro settled member
    rcases List.mem_cons.mp member with rfl | earlier
    · exact known
    · exact tracks.within earlier

/-! ### The Subject and tool rules agree -/

theorem lookup_map_value {Value Other : Type} (change : Value → Other)
    (entries : List (String × Value)) (wanted : String) :
    (entries.map fun entry => (entry.1, change entry.2)).lookup wanted =
      (entries.lookup wanted).map change := by
  induction entries with
  | nil => rfl
  | cons entry rest ih =>
      obtain ⟨key, value⟩ := entry
      simp only [List.map_cons, List.lookup_cons]
      cases wanted == key
      · exact ih
      · rfl

theorem mem_of_lookup {Value : Type} {entries : List (String × Value)} {wanted : String}
    {value : Value} (found : entries.lookup wanted = some value) : (wanted, value) ∈ entries := by
  obtain ⟨before, after, split, _⟩ := List.lookup_eq_some_iff.mp found
  rw [split]
  simp

/-- Whether a turn is open, on both sides. -/
theorem Tracks.open_iff (tracks : Tracks state prior) :
    state.subjectOpen = true ↔
      countOf .subjectInvoked prior = countOf .subjectResponded prior + 1 := by
  simp [ChainState.subjectOpen, tracks.invoked, tracks.responded]

theorem Tracks.checkCalled_iff (tracks : Tracks state prior) (conforms : Conforms platform fact)
    (kind : fact.eventType = .toolCalled) :
    checkToolEvents .toolCalled fact.payload prior = .ok () ↔
      (toolCallValid fact.payload state).isSome = true := by
  obtain ⟨calls, tools, same, _⟩ := tracks.tools
  obtain ⟨callId, named⟩ := conforms.callId (Or.inl kind)
  obtain ⟨capability, got, _⟩ := conforms.capability (Or.inr (Or.inl kind))
  have lookup : state.toolCalls.lookup callId =
      (calls.lookup callId).map fun payload => canonicalJson (payload.field "capability_ref") := by
    rw [same]
    exact lookup_map_value (fun payload => canonicalJson (payload.field "capability_ref")) calls callId
  simp only [checkToolEvents, checkToolCall, bind_ok, require_ok, beq_iff_eq, tools,
    Except.ok.injEq, item_ok named, item_ok got, toolCallValid, Json.field_of_get named,
    Json.field_of_get got, Json.asString, lookup, Option.isNone_map, exists_eq_left', exists_const,
    if_true, ← tracks.open_iff]
  by_cases opened : state.subjectOpen = true
  · simp [opened]
  · simp [opened]

theorem Tracks.checkSettled_iff (tracks : Tracks state prior) (conforms : Conforms platform fact)
    (kind : fact.eventType.settlesTool = true) :
    checkToolEvents fact.eventType fact.payload prior = .ok () ↔
      (toolTerminalValid fact.eventType fact.payload state).isSome = true := by
  obtain ⟨calls, tools, same, capabilities⟩ := tracks.tools
  obtain ⟨callId, named⟩ := conforms.callId (Or.inr kind)
  have notCalled : fact.eventType ≠ .toolCalled := fun equal => by
    simp [equal, EventType.settlesTool] at kind
  have lookup : state.toolCalls.lookup callId =
      (calls.lookup callId).map fun payload => canonicalJson (payload.field "capability_ref") := by
    rw [same]
    exact lookup_map_value (fun payload => canonicalJson (payload.field "capability_ref")) calls callId
  simp only [checkToolEvents, checkToolCall, bind_ok, require_ok, beq_iff_eq, tools,
    Except.ok.injEq, item_ok named, toolTerminalValid, Json.field_of_get named, Json.asString, lookup,
    exists_eq_left', notCalled, if_false, ← tracks.open_iff]
  cases found : calls.lookup callId with
  | none => simp [orRaise]
  | some called =>
      obtain ⟨calledCapability, calledGot, calledOrdered⟩ :=
        capabilities _ (mem_of_lookup found)
      by_cases compared : fact.eventType = .toolCompleted ∨ fact.eventType = .toolFailed
      · obtain ⟨capability, got, ordered⟩ := conforms.capability (Or.inr (Or.inr compared))
        have texts : canonicalJson capability = canonicalJson calledCapability ↔
            capability = calledCapability :=
          ⟨canonicalJson_injective _ _ ordered calledOrdered, fun equal => by rw [equal]⟩
        have either : ¬(fact.eventType ≠ .toolCompleted ∧ fact.eventType ≠ .toolFailed) := by tauto
        simp [orRaise, item_ok calledGot, item_ok got, Json.field_of_get calledGot, Json.field_of_get got,
          compared, texts, bind_ok, either, and_assoc]
        exact fun _ => and_congr decide_eq_true_iff (and_congr eq_comm Iff.rfl)
      · rw [not_or] at compared
        simp [orRaise, item_ok calledGot, compared.1, compared.2]
        exact fun _ => decide_eq_true_iff

/-- What the ledger asks of an event about the Subject's turns and the tools. -/
def turnRules (prior : List Fact) (fact : Fact) : Prop :=
  (fact.eventType = .subjectInvoked →
      countOf .subjectInvoked prior = countOf .subjectResponded prior) ∧
    (fact.eventType = .subjectResponded →
      countOf .subjectInvoked prior = countOf .subjectResponded prior + 1) ∧
    (fact.eventType = .runEvaluating → 0 < countOf .subjectResponded prior) ∧
    (fact.eventType.isTool = true →
      checkToolEvents fact.eventType fact.payload prior = .ok ()) ∧
    (fact.eventType = .runCompleted → 0 < countOf .subjectResponded prior)

theorem Tracks.turn_iff (tracks : Tracks state prior) (conforms : Conforms platform fact)
    (supported : fact.eventType.unsupported = false) :
    (subjectAndToolValid fact.eventType fact.payload state).isSome = true ↔
      turnRules prior fact := by
  have called := tracks.checkCalled_iff conforms
  have settled := tracks.checkSettled_iff conforms
  have opened := tracks.open_iff
  have invoked := tracks.invoked
  have responded := tracks.responded
  obtain ⟨kind, payload⟩ := fact
  change kind.unsupported = false at supported
  simp only [turnRules]
  cases kind with
  | toolCalled => simpa [subjectAndToolValid, EventType.isTool] using (called rfl).symm
  | toolDenied => simpa [subjectAndToolValid, EventType.isTool] using (settled rfl).symm
  | toolCompleted => simpa [subjectAndToolValid, EventType.isTool] using (settled rfl).symm
  | toolFailed => simpa [subjectAndToolValid, EventType.isTool] using (settled rfl).symm
  | subjectInvoked =>
      by_cases equal : state.subjectInvocations = state.subjectResponses <;>
        simp_all [subjectAndToolValid, EventType.isTool]
  | subjectResponded =>
      by_cases equal : state.subjectOpen = true <;>
        simp_all [subjectAndToolValid, EventType.isTool]
  | runEvaluating =>
      by_cases silent : state.subjectResponses = 0 <;>
        simp_all [subjectAndToolValid, EventType.isTool, Nat.pos_iff_ne_zero]
  | runCompleted =>
      by_cases silent : state.subjectResponses = 0 <;>
        simp_all [subjectAndToolValid, EventType.isTool, Nat.pos_iff_ne_zero]
  | _ => first
    | exact absurd supported (by decide)
    | simp [subjectAndToolValid, EventType.isTool]

theorem toolCallValid_some (passed : toolCallValid payload state = some next) :
    next = { state with
      toolCalls := ((payload.field "call_id").asString,
        canonicalJson (payload.field "capability_ref")) :: state.toolCalls } := by
  simp only [toolCallValid] at passed
  split_ifs at passed
  exact (Option.some.inj passed).symm

theorem toolTerminalValid_some {kind : EventType}
    (passed : toolTerminalValid kind payload state = some next) :
    (payload.field "call_id").asString ∈ state.toolCalls.map Prod.fst ∧
      next = { state with
        toolTerminals := (payload.field "call_id").asString :: state.toolTerminals } := by
  simp only [toolTerminalValid] at passed
  split at passed
  · cases passed
  next called found =>
    split_ifs at passed
    exact ⟨List.mem_map_of_mem (mem_of_lookup found), (Option.some.inj passed).symm⟩

/-- An event that passes keeps the states together and leaves the status alone. -/
theorem Tracks.turn (tracks : Tracks state prior) (conforms : Conforms platform fact)
    (passed : subjectAndToolValid fact.eventType fact.payload state = some next) :
    Tracks next (prior ++ [fact]) ∧ next.currentStatus = state.currentStatus := by
  have counts := And.intro tracks.invoked tracks.responded
  obtain ⟨kind, payload⟩ := fact
  simp only at passed
  cases kind with
  | subjectInvoked | subjectResponded | runEvaluating | runCompleted =>
      simp only [subjectAndToolValid] at passed
      split_ifs at passed
      rw [← Option.some.inj passed]
      exact ⟨tracks.uncalled (by simp [counts]) (by simp) rfl ⟨rfl, rfl⟩ fun _ => rfl, rfl⟩
  | capabilityOffered =>
      obtain ⟨capability, got, _⟩ := conforms.capability (Or.inl rfl)
      rw [← Option.some.inj passed]
      refine ⟨tracks.uncalled (by simp [counts]) (by simp) rfl ⟨rfl, rfl⟩ fun _ => ?_, rfl⟩
      simp [ToolState.record, item_ok got, Json.field_of_get got, bind, Except.bind]
  | toolCalled =>
      rw [toolCallValid_some passed]
      exact ⟨tracks.call conforms rfl, rfl⟩
  | toolDenied | toolCompleted | toolFailed =>
      obtain ⟨known, same⟩ := toolTerminalValid_some passed
      rw [same]
      exact ⟨tracks.settle conforms rfl known, rfl⟩
  | _ =>
      rw [← Option.some.inj passed]
      exact ⟨tracks.uncalled (by simp [counts]) (by simp) rfl ⟨rfl, rfl⟩ fun _ => rfl, rfl⟩

/-- A lifecycle event changes the status only. -/
theorem transitionValid_some {kind : EventType}
    (passed : transitionValid kind payload state = some next) :
    next = { state with currentStatus := next.currentStatus } := by
  unfold transitionValid at passed
  split at passed
  · rw [← Option.some.inj passed]
  · split_ifs at passed
    rw [← Option.some.inj passed]

theorem Tracks.withStatus (tracks : Tracks state (prior ++ [fact])) (status : RunStatus) :
    Tracks { state with currentStatus := status } (prior ++ [fact]) :=
  { tracks with fresh := by simp }

/-- An event that the verifier accepts keeps the states together. -/
theorem Tracks.step (tracks : Tracks state prior) (conforms : Conforms platform fact)
    (passed : protocolValid sequence fact state = some next) : Tracks next (prior ++ [fact]) := by
  unfold protocolValid at passed
  split_ifs at passed
  obtain ⟨middle, turned, moved⟩ := Option.bind_eq_some_iff.mp passed
  rw [transitionValid_some moved]
  exact (tracks.turn conforms turned).1.withStatus next.currentStatus

/-! ### The status rules agree -/

theorem validatePhase_ok (status : RunStatus) (kind : EventType) (prior : List Fact) :
    validatePhase status kind prior = .ok () ↔
      terminalStatus status = false ∧ kind.allowedRunStatuses.all (status ∈ ·) = true ∧
        (kind = .subjectInvoked →
          countOf .subjectInvoked prior = countOf .subjectResponded prior) ∧
        (kind = .subjectResponded →
          countOf .subjectInvoked prior = countOf .subjectResponded prior + 1) ∧
        (kind = .runEvaluating → 0 < countOf .subjectResponded prior) := by
  simp only [validatePhase, bind_ok, require_ok, exists_const, Bool.not_eq_true', Bool.or_eq_true,
    bne_iff_ne, ne_eq, beq_iff_eq, decide_eq_true_eq, ← imp_iff_not_or]

/-- After a first event, the lifecycle machine and the verifier's transition agree. -/
theorem statusTransition_iff (kind : EventType) (payload : Json) (next : RunStatus)
    (opened : terminalStatus state.currentStatus = false) (notQueued : kind ≠ .runQueued) :
    (∃ moved, statusTransition state.currentStatus kind payload true = .ok moved ∧
        moved.getD state.currentStatus = next) ↔
      transitionValid kind payload state = some { state with currentStatus := next } := by
  have status_inj : ∀ status, ({ state with currentStatus := status } : ChainState) =
      { state with currentStatus := next } ↔ status = next := fun status => by simp
  simp only [statusTransition, transitionValid, transitions_eq, notQueued, if_false, bind_ok,
    require_ok, opened, Bool.not_false, Bool.true_or, exists_const, true_and]
  cases rule : lifecycleRule kind with
  | none =>
      simp only [Except.ok.injEq, exists_eq_left', Option.getD_none, Option.some.injEq]
      exact (status_inj state.currentStatus).symm
  | some pair =>
      simp only [bind_ok, require_ok, exists_const, decide_eq_true_eq, Except.ok.injEq]
      split_ifs with allowed
      · simp only [Bool.and_eq_true, decide_eq_true_eq] at allowed
        simp only [Option.some.injEq, status_inj]
        constructor
        · rintro ⟨_, ⟨_, _, _, rfl⟩, same⟩
          exact same
        · intro same
          exact ⟨_, ⟨allowed.1.1, allowed.1.2, allowed.2, rfl⟩, same⟩
      · simp only [iff_false]
        rintro ⟨_, ⟨from_, declared, target, _⟩, _⟩
        exact allowed (by simp [from_, declared, target])

/-- No tool call is open, as both sides decide it. -/
theorem Tracks.closed_iff (tracks : Tracks state prior) :
    (∃ openCalls, openToolCalls prior = .ok openCalls ∧ openCalls.isEmpty = true) ↔
      Database.sameSet (state.toolCalls.map Prod.fst) state.toolTerminals = true := by
  have within := tracks.within
  simp only [openToolCalls, tracks.called, tracks.settled, bind_ok, Except.ok.injEq,
    exists_eq_left', List.isEmpty_iff, List.filter_eq_nil_iff, List.mem_reverse, decide_eq_true_eq,
    not_not, Database.sameSet, Bool.and_eq_true, List.all_eq_true]
  exact ⟨fun settled => ⟨settled, fun id member => within member⟩, fun same => same.1⟩

theorem structuralRules_ok (status next : RunStatus) :
    structuralRules status prior fact = .ok next ↔
      fact.eventType.unsupported = false ∧ validatePhase status fact.eventType prior = .ok () ∧
        toolRules prior fact = .ok () ∧ closingRules prior fact = .ok () ∧
        ∃ moved, statusTransition status fact.eventType fact.payload (!prior.isEmpty) =
            .ok moved ∧ moved.getD status = next := by
  have only : ∀ claim : Unit → Prop, (∃ done, claim done) ↔ claim () := fun claim =>
    ⟨fun ⟨_, holds⟩ => holds, fun holds => ⟨(), holds⟩⟩
  simp only [structuralRules, bind_ok, require_ok, Bool.not_eq_true', Except.ok.injEq, only]

theorem toolRules_ok :
    toolRules prior fact = .ok () ↔ (fact.eventType.isTool = true →
      checkToolEvents fact.eventType fact.payload prior = .ok ()) := by
  unfold toolRules
  split_ifs with tool <;> simp [tool]

theorem Tracks.closingRules_ok (tracks : Tracks state prior) :
    closingRules prior fact = .ok () ↔
      (fact.eventType = .runCompleted → 0 < countOf .subjectResponded prior) ∧
        (terminalEvent fact.eventType = true →
          Database.sameSet (state.toolCalls.map Prod.fst) state.toolTerminals = true) := by
  unfold closingRules
  by_cases terminal : terminalEvent fact.eventType = true
  · simp only [terminal, if_true, checkNoOpenCalls, bind_ok, require_ok, Bool.or_eq_true,
      bne_iff_ne, ne_eq, decide_eq_true_eq, ← imp_iff_not_or, exists_const, true_imp_iff,
      ← tracks.closed_iff]
  · have other : fact.eventType ≠ .runCompleted := fun equal => terminal (by rw [equal]; rfl)
    simp [terminal, other]

/-- A first event passes the ledger exactly when it is `run.queued`. -/
theorem rules_first (queued : state.currentStatus = .queued) (next : RunStatus) :
    structuralRules state.currentStatus [] fact = .ok next ↔
      fact.eventType = .runQueued ∧ state.currentStatus = next := by
  rw [structuralRules_ok, queued]
  constructor
  · rintro ⟨_, _, _, _, moved, transition, same⟩
    simp only [statusTransition, bind_ok, require_ok, List.isEmpty_nil, Bool.not_true,
      Bool.false_or, beq_iff_eq] at transition
    obtain ⟨_, _, _, first, transition⟩ := transition
    rw [if_pos first] at transition
    simp only [bind_ok, Except.ok.injEq] at transition
    obtain ⟨_, _, rfl⟩ := transition
    exact ⟨first, same⟩
  · rintro ⟨first, same⟩
    obtain ⟨kind, payload⟩ := fact
    subst first
    exact ⟨rfl, rfl, rfl, rfl, none, rfl, same⟩

/-- A first event passes the verifier exactly when it is `run.queued`. -/
theorem protocol_first (next : ChainState) :
    protocolValid 1 fact state = some next ↔ fact.eventType = .runQueued ∧ state = next := by
  obtain ⟨kind, payload⟩ := fact
  by_cases first : kind = .runQueued
  · subst first
    simp [protocolValid, orderingValid, subjectAndToolValid, transitionValid, transitions]
  · simp [protocolValid, orderingValid, first]

theorem orderingValid_later (later : sequence ≠ 1) (kind : EventType) :
    orderingValid kind sequence state = true ↔
      kind ≠ .runQueued ∧ terminalStatus state.currentStatus = false ∧
        kind.allowedRunStatuses.all (state.currentStatus ∈ ·) = true := by
  unfold orderingValid
  rw [if_neg later]
  by_cases queued : kind = .runQueued
  · simp [queued]
  · cases terminalStatus state.currentStatus <;> simp [queued]

/-- A later event passes the ledger exactly when the verifier accepts it and, for a
terminal event, no tool call is open. -/
theorem Tracks.rules_later (tracks : Tracks state prior) (conforms : Conforms platform fact)
    (later : prior ≠ []) (supported : fact.eventType.unsupported = false) (next : RunStatus) :
    structuralRules state.currentStatus prior fact = .ok next ↔
      (∃ state', protocolValid (prior.length + 1) fact state = some state' ∧
        state'.currentStatus = next) ∧
      (terminalEvent fact.eventType = true →
        Database.sameSet (state.toolCalls.map Prod.fst) state.toolTerminals = true) := by
  have length : prior.length + 1 ≠ 1 := by simpa using later
  have hasPrior : (!prior.isEmpty) = true := by simpa using later
  rw [structuralRules_ok, validatePhase_ok, toolRules_ok, tracks.closingRules_ok, hasPrior]
  constructor
  · rintro ⟨_, ⟨opened, allowed, invoked, responded, evaluating⟩, tool, ⟨completed, closed⟩,
      moved, transition, same⟩
    have notQueued : fact.eventType ≠ .runQueued := (statusTransition_replay transition).1
    obtain ⟨middle, turned⟩ := Option.isSome_iff_exists.mp
      ((tracks.turn_iff conforms supported).mpr
        ⟨invoked, responded, evaluating, tool, completed⟩)
    have status := (tracks.turn conforms turned).2
    rw [← status] at opened transition same
    have passed := (statusTransition_iff _ _ next opened notQueued).mp ⟨moved, transition, same⟩
    refine ⟨⟨{ middle with currentStatus := next }, ?_, rfl⟩, closed⟩
    rw [status] at opened
    have ordering := (orderingValid_later length fact.eventType).mpr ⟨notQueued, opened, allowed⟩
    simp [protocolValid, ordering, turned, passed]
  · rintro ⟨⟨state', passed, same⟩, closed⟩
    unfold protocolValid at passed
    split_ifs at passed with ordering
    obtain ⟨notQueued, opened, allowed⟩ := (orderingValid_later length _).mp ordering
    obtain ⟨middle, turned, moved⟩ := Option.bind_eq_some_iff.mp passed
    have status := (tracks.turn conforms turned).2
    obtain ⟨invoked, responded, evaluating, tool, completed⟩ :=
      (tracks.turn_iff conforms supported).mp (by rw [turned]; rfl)
    have transition := (statusTransition_iff _ fact.payload state'.currentStatus
      (by rw [status]; exact opened) notQueued).mpr
        (by rw [moved, ← transitionValid_some moved])
    rw [status, same] at transition
    exact ⟨supported, ⟨opened, allowed, invoked, responded, evaluating⟩, tool,
      ⟨completed, closed⟩, transition⟩

/-- One event: the ledger accepts it exactly when the verifier does and, for a
terminal event, no tool call is open. -/
theorem Tracks.rules_iff (tracks : Tracks state prior) (conforms : Conforms platform fact)
    (supported : fact.eventType.unsupported = false) (next : RunStatus) :
    structuralRules state.currentStatus prior fact = .ok next ↔
      (∃ state', protocolValid (prior.length + 1) fact state = some state' ∧
        state'.currentStatus = next) ∧
      (terminalEvent fact.eventType = true →
        Database.sameSet (state.toolCalls.map Prod.fst) state.toolTerminals = true) := by
  by_cases first : prior = []
  · subst first
    rw [rules_first (tracks.fresh rfl)]
    simp only [List.length_nil, Nat.zero_add, protocol_first]
    constructor
    · rintro ⟨queued, same⟩
      exact ⟨⟨state, ⟨queued, rfl⟩, same⟩, fun terminal => by simp [queued, terminalEvent] at terminal⟩
    · rintro ⟨⟨_, ⟨queued, rfl⟩, same⟩, _⟩
      exact ⟨queued, same⟩
  · exact tracks.rules_later conforms first supported next

/-- A terminal event leaves the tool calls alone and ends in a terminal status. -/
theorem protocolValid_terminal (terminal : terminalEvent fact.eventType = true)
    (passed : protocolValid sequence fact state = some next) :
    next.toolCalls = state.toolCalls ∧ next.toolTerminals = state.toolTerminals ∧
      terminalStatus next.currentStatus = true := by
  obtain ⟨kind, payload⟩ := fact
  change terminalEvent kind = true at terminal
  unfold protocolValid at passed
  split_ifs at passed
  obtain ⟨middle, turned, moved⟩ := Option.bind_eq_some_iff.mp passed
  have tools : middle.toolCalls = state.toolCalls ∧ middle.toolTerminals = state.toolTerminals := by
    cases kind <;> first
      | exact absurd terminal (by decide)
      | simp only [subjectAndToolValid] at turned
        split_ifs at turned
        rw [← Option.some.inj turned]
        exact ⟨rfl, rfl⟩
      | rw [← Option.some.inj turned]
        exact ⟨rfl, rfl⟩
  have status : terminalStatus next.currentStatus = true := by
    unfold transitionValid at moved
    cases kind <;> first
      | exact absurd terminal (by decide)
      | simp only [transitions] at moved
        split_ifs at moved
        rw [← Option.some.inj moved]
        rfl
  rw [transitionValid_some moved]
  exact ⟨tools.1, tools.2, status⟩

end

end Step

/-! ## Sealed chains -/

/-- The event's document has its place, an allowed actor, the link to the event
before it, its own hash, and a normalized payload of a registered type. -/
structure SealedEvent (platform : Platform) (runId : String) (sequence : Nat)
    (previous event : Json) : Prop where
  hash : event.get? "event_hash" =
    some (.str (sha256Json platform (event.erase "event_hash")))
  version : event.field "schema_version" = .str "1"
  run : event.field "run_id" = .str runId
  place : event.field "sequence" = .int sequence
  actor : ∃ actor ∈ allowedActorTypes, event.field "actor_type" = .str actor
  named : blankActor (event.get? "actor_id") = false
  link : event.field "prev_event_hash" = previous
  typed : ∃ kind, eventKind? event = some kind ∧
    Conforms platform ⟨kind, event.field "payload"⟩

def SealedChain (platform : Platform) (runId : String) : Nat → Json → List Json → Prop
  | _, _, [] => True
  | sequence, previous, event :: rest =>
      SealedEvent platform runId sequence previous event ∧
        SealedChain platform runId (sequence + 1) (event.field "event_hash") rest

/-- The event as the ledger's rules read it. -/
def factOf? (event : Json) : Option Fact :=
  (eventKind? event).map fun kind => ⟨kind, event.field "payload"⟩

def factsOf (events : List Json) : List Fact := events.filterMap factOf?

theorem get_erase (document : Json) {name erased : String} (differ : name ≠ erased) :
    (document.erase erased).get? name = document.get? name := by
  cases document with
  | obj fields =>
      simp only [Json.erase, Json.get?]
      induction fields with
      | nil => rfl
      | cons field rest ih =>
          obtain ⟨key, value⟩ := field
          by_cases gone : key = erased
          · subst gone
            simp [List.lookup_cons, beq_eq_false_iff_ne.mpr differ, ih]
          · simp only [List.filter_cons, bne_iff_ne, ne_eq, gone, not_false_eq_true, if_true,
              List.lookup_cons, ih]
  | _ => rfl

theorem field_erase (document : Json) {name erased : String} (differ : name ≠ erased) :
    (document.erase erased).field name = document.field name := by
  simp only [Json.field, get_erase document differ]

section

variable {platform : Platform} {runId : String} {event : Json} {state : ChainState} {sequence : Nat}
  {fact : Fact} {prior : List Fact}

/-- On a sealed event only the protocol rules decide. -/
theorem chainStep_sealed (sealed : SealedEvent platform runId sequence state.previous event)
    (read : factOf? event = some fact) :
    chainStep platform runId sequence event state =
      .ok (if fact.eventType.unsupported then none
        else (protocolValid sequence fact state).map fun next =>
          { next with previous := event.field "event_hash" }) := by
  obtain ⟨kind, typed, conforms⟩ := sealed.typed
  obtain ⟨actor, allowed, acted⟩ := sealed.actor
  have same : fact = ⟨kind, event.field "payload"⟩ := by
    simp only [factOf?, typed, Option.map_some, Option.some.injEq] at read
    exact read.symm
  subst same
  have bodyKind : eventKind? (event.erase "event_hash") = some kind := by
    rw [← typed]
    simp only [eventKind?, field_erase event (show "type" ≠ "event_hash" by decide)]
  have bodyPayload : (event.erase "event_hash").field "payload" = event.field "payload" :=
    field_erase event (by decide)
  have normalized : payloadNormalized platform kind (event.field "payload") = true := by
    have document : normalizeEventPayload platform kind (event.field "payload") =
        .ok (event.field "payload") := conforms
    simp [payloadNormalized, document, sortKeys_of_ordered _ conforms.ordered]
  have envelope : envelopeValid platform runId sequence (event.erase "event_hash")
      (.str (sha256Json platform (event.erase "event_hash"))) state = !kind.unsupported := by
    have actors : allowedActorTypes.any (fun actor =>
        (event.erase "event_hash").field "actor_type" == .str actor) = true := by
      rw [field_erase event (by decide), acted, List.any_eq_true]
      exact ⟨actor, allowed, by simp⟩
    simp [envelopeValid, actors, bodyKind,
      field_erase event (show "schema_version" ≠ "event_hash" by decide),
      field_erase event (show "run_id" ≠ "event_hash" by decide),
      field_erase event (show "sequence" ≠ "event_hash" by decide),
      field_erase event (show "prev_event_hash" ≠ "event_hash" by decide),
      get_erase event (show "actor_id" ≠ "event_hash" by decide),
      sealed.version, sealed.run, sealed.place, sealed.named, sealed.link, isSequence]
  simp only [chainStep, item_ok sealed.hash, bind, Except.bind, envelope, bodyKind, bodyPayload,
    normalized, if_true, Json.field_of_get sealed.hash]
  cases kind.unsupported <;> simp

/-! ## Agreement over whole chains -/

/-- Nothing passes the ledger's rules after a terminal status. -/
theorem structuralRules_terminal {status next : RunStatus} (ended : terminalStatus status = true) :
    structuralRules status prior fact ≠ .ok next := by
  intro passed
  have phase := ((structuralRules_ok status next).mp passed).2.1
  rw [validatePhase_ok, ended] at phase
  exact absurd phase.1 (by decide)

theorem protocolValid_ended (ended : terminalStatus state.currentStatus = true)
    (later : sequence ≠ 1) : protocolValid sequence fact state = none := by
  have refused : orderingValid fact.eventType sequence state = false := by
    rw [← Bool.not_eq_true, orderingValid_later later, ended]
    simp
  simp [protocolValid, refused]

theorem factOf_sealed {previous : Json}
    (sealed : SealedEvent platform runId sequence previous event) :
    ∃ fact, factOf? event = some fact ∧ Conforms platform fact := by
  obtain ⟨kind, typed, conforms⟩ := sealed.typed
  exact ⟨_, by rw [factOf?, typed]; rfl, conforms⟩

/-- After an accepted event: a terminal one must be the last, with no open tool
call, and otherwise the rest decides. -/
theorem chainRest_iff {rest : List Json} {next : ChainState}
    (ih : SealedChain platform runId ((prior ++ [fact]).length + 1) (event.field "event_hash") rest →
      (∃ last, (factsOf rest).getLast? = some last ∧ terminalEvent last.eventType = true) →
      (chainLoop platform runId ((prior ++ [fact]).length + 1) rest
          { next with previous := event.field "event_hash" } = .ok true ↔
        ∃ status, replayLedger next.currentStatus (prior ++ [fact]) (factsOf rest) = .ok status))
    (passed : protocolValid (prior.length + 1) fact state = some next)
    (sealed : SealedChain platform runId (prior.length + 1 + 1) (event.field "event_hash") rest)
    (closed : ∃ last, (fact :: factsOf rest).getLast? = some last ∧
      terminalEvent last.eventType = true) :
    chainLoop platform runId (prior.length + 1 + 1) rest
        { next with previous := event.field "event_hash" } = .ok true ↔
      (terminalEvent fact.eventType = true →
          Database.sameSet (state.toolCalls.map Prod.fst) state.toolTerminals = true) ∧
        ∃ status, replayLedger next.currentStatus (prior ++ [fact]) (factsOf rest) =
          .ok status := by
  cases rest with
  | nil =>
      obtain ⟨last, isLast, terminal⟩ := closed
      simp only [factsOf, List.filterMap_nil, List.getLast?_singleton, Option.some.injEq] at isLast
      subst isLast
      obtain ⟨calls, terminals, _⟩ := protocolValid_terminal terminal passed
      simp [chainLoop, factsOf, replayLedger, calls, terminals, terminal]
  | cons following others =>
      obtain ⟨fact', read, _⟩ := factOf_sealed sealed.1
      have facts : factsOf (following :: others) = fact' :: factsOf others := by
        simp [factsOf, read]
      by_cases terminal : terminalEvent fact.eventType = true
      · -- The chain goes on after a terminal event, which both sides refuse.
        obtain ⟨_, _, ended⟩ := protocolValid_terminal terminal passed
        have refused := @protocolValid_ended
          { next with previous := event.field "event_hash" } (prior.length + 1 + 1) fact' ended
          (by omega)
        have step := @chainStep_sealed platform runId following
          { next with previous := event.field "event_hash" } _ fact' sealed.1 read
        simp only [refused, Option.map_none, ite_self] at step
        simp only [chainLoop, step, facts, replayLedger, bind_ok]
        simp [structuralRules_terminal ended]
      · have later := ih (by simpa using sealed)
          (by simpa [facts, List.getLast?_cons_cons] using closed)
        simpa [terminal] using later

/-- From states that track each other, the rest of a chain that ends in a terminal
event is accepted by both sides or by neither. -/
theorem chainLoop_iff (events : List Json) (tracks : Tracks state prior)
    (sealed : SealedChain platform runId (prior.length + 1) state.previous events)
    (closed : ∃ last, (factsOf events).getLast? = some last ∧
      terminalEvent last.eventType = true) :
    chainLoop platform runId (prior.length + 1) events state = .ok true ↔
      ∃ status, replayLedger state.currentStatus prior (factsOf events) = .ok status := by
  induction events generalizing state prior with
  | nil =>
      obtain ⟨_, isLast, _⟩ := closed
      simp [factsOf] at isLast
  | cons event rest ih =>
      obtain ⟨sealedEvent, sealedRest⟩ := sealed
      obtain ⟨fact, read, conforms⟩ := factOf_sealed sealedEvent
      have facts : factsOf (event :: rest) = fact :: factsOf rest := by
        simp [factsOf, read]
      rw [facts] at closed ⊢
      simp only [chainLoop, chainStep_sealed sealedEvent read, replayLedger, bind_ok]
      by_cases supported : fact.eventType.unsupported = false
      · have rules := tracks.rules_iff conforms supported
        cases passed : protocolValid (prior.length + 1) fact state with
        | none =>
            simp [supported, rules, passed]
        | some next =>
            have following := tracks.step conforms passed
            have linked : Tracks { next with previous := event.field "event_hash" }
                (prior ++ [fact]) := { following with }
            have core := chainRest_iff (ih linked) passed
              (by simpa using sealedRest) closed
            simp only [supported, Bool.false_eq_true, if_false, Option.map_some, rules, passed,
              Option.some.injEq, exists_eq_left']
            constructor
            · rintro ⟨_, same, accepted⟩
              rw [← Except.ok.inj same] at accepted
              obtain ⟨calls, status, replayed⟩ := core.mp accepted
              exact ⟨status, _, ⟨rfl, calls⟩, replayed⟩
            · rintro ⟨status, _, ⟨rfl, calls⟩, replayed⟩
              exact ⟨_, rfl, core.mpr ⟨calls, status, replayed⟩⟩
      · simp only [Bool.not_eq_false] at supported
        have refused : ∀ next, structuralRules state.currentStatus prior fact ≠ .ok next :=
          fun next passed => by
            have := ((structuralRules_ok _ next).mp passed).1
            simp [supported] at this
        simp [supported, refused]

/-- The verifier and the ledger agree on every sealed chain that ends in a terminal event. -/
theorem chainValid_iff_ledger_accepts (platform : Platform) (runId : String) (events : List Json)
    (sealed : SealedChain platform runId 1 .null events)
    (closed : ∃ last, (factsOf events).getLast? = some last ∧
      terminalEvent last.eventType = true) :
    chainValid platform runId events = .ok true ↔
      ∃ status, replayLedger .queued [] (factsOf events) = .ok status :=
  chainLoop_iff events tracks_start sealed closed

/-! ## Chains of stored rows -/

attribute [local simp] eventDocument envelopeFields Json.field Json.get? List.lookup_cons

/-- The document of a stored event, by an allowed actor and with a normalized
payload, is a sealed event. -/
theorem sealedEvent_of_row {row : RunEventRow} (sealed : row.Sealed platform)
    (actor : row.actorType ∈ allowedActorTypes) (named : pyStrip row.actorId ≠ "")
    (conforms : Conforms platform row.fact) :
    SealedEvent platform row.runId row.sequence (optionalStr row.prevEventHash)
      (eventDocument row) where
  hash := by
    rw [← sealed]
    simp
  version := by simp
  run := by simp
  place := by simp
  actor := ⟨row.actorType, actor, by simp⟩
  named := by simpa [blankActor] using named
  link := by simp
  typed := by
    refine ⟨row.eventType, ?_, ?_⟩
    · simp [eventKind?]
    · have payload : (eventDocument row).field "payload" = row.payloadJson.document := by
        simp
      rw [payload]
      exact conforms

/-- The documents of a chain of such rows, from a place in the chain on. -/
theorem sealedChain_of_rows (rows : List RunEventRow) (sequence : Nat) (previous : Option String)
    (seals : ∀ row ∈ rows, row.Sealed platform)
    (actors : ∀ row ∈ rows, row.actorType ∈ allowedActorTypes ∧ pyStrip row.actorId ≠ "")
    (owned : ∀ row ∈ rows, row.runId = runId) (conforms : ∀ row ∈ rows, Conforms platform row.fact)
    (placed : rows.map (fun row => row.sequence) = List.range' sequence rows.length)
    (first : ∀ row ∈ rows.head?, row.prevEventHash = previous)
    (linked : rows.IsChain fun before after => after.prevEventHash = some before.eventHash) :
    SealedChain platform runId sequence (optionalStr previous) (rows.map eventDocument) := by
  induction rows generalizing sequence previous with
  | nil => trivial
  | cons row rest ih =>
      simp only [List.map_cons, List.length_cons, List.range'_succ, List.cons.injEq] at placed
      have here := sealedEvent_of_row (seals row (by simp)) (actors row (by simp)).1
        (actors row (by simp)).2 (conforms row (by simp))
      rw [owned row (by simp), placed.1, first row (by simp)] at here
      refine ⟨here, ?_⟩
      have hash : (eventDocument row).field "event_hash" = optionalStr (some row.eventHash) := by
        simp [optionalStr]
      rw [hash]
      refine ih (sequence + 1) (some row.eventHash)
        (fun other member => seals other (List.mem_cons_of_mem _ member))
        (fun other member => actors other (List.mem_cons_of_mem _ member))
        (fun other member => owned other (List.mem_cons_of_mem _ member))
        (fun other member => conforms other (List.mem_cons_of_mem _ member)) placed.2 ?_ ?_
      · intro following isNext
        exact (List.isChain_cons.mp linked).1 following isNext
      · exact (List.isChain_cons.mp linked).2

end

namespace Sample

open Evidrun.Database.Sample (platform digestText contract capability)

/-- Rows sealed one after the other, from a place in the chain on. -/
def sealRows : Nat → Option String → List Fact → List RunEventRow
  | _, _, [] => []
  | sequence, previous, fact :: rest =>
      let head : EventHead :=
        { id := "evt"
          runId := "run"
          sequence := sequence
          eventType := fact.eventType
          occurredAt := 0
          actorType := "system"
          actorId := "evidrun"
          classification := "internal"
          correlationId := "run"
          causationId := none
          prevEventHash := previous }
      let row := sealEvent platform head fact.payload none
      row :: sealRows (sequence + 1) (some row.eventHash) rest

def jsonArtifact : Json :=
  .obj [("artifact_id", .str "arguments"), ("classification", .str "internal"),
    ("digest", .str digestText), ("media_type", .str "application/json")]

/-- A Run that called one tool inside its Subject's turn and then failed. -/
def toolFacts : List Fact :=
  [⟨.runQueued, .obj [("admission_digest", .str digestText), ("run_id", .str "run"),
      ("run_spec_digest", .str digestText), ("variant_id", .str "baseline")]⟩,
    ⟨.runPreparing, .obj [("scenario_ref", contract "scenario")]⟩,
    ⟨.capabilityOffered, .obj [("capability_ref", capability), ("exposure", .str "schema_only"),
      ("required", .bool true)]⟩,
    ⟨.runRunning, .obj [("from_status", .str "preparing"), ("reason", .str "ready")]⟩,
    ⟨.subjectInvoked, .obj [("network", .str "disabled"), ("runner", .str "runner"),
      ("subject_envelope_digest", .str digestText)]⟩,
    ⟨.toolCalled, .obj [("arguments_ref", jsonArtifact), ("call_id", .str "call"),
      ("capability_ref", capability), ("input_digest", .str digestText)]⟩,
    ⟨.toolCompleted, .obj [("call_id", .str "call"), ("capability_ref", capability),
      ("result_ref", jsonArtifact)]⟩,
    ⟨.runFailed, .obj [("goal_result", .obj [("goal_mode", .str "goal_state"),
        ("state", .str "not_assessable")]),
      ("status", .str "failed"), ("terminal_cause", .str "stopped")]⟩]

def toolRows : List RunEventRow := sealRows 1 none toolFacts

def toolChain : List Json := toolRows.map eventDocument

instance : DecidablePred (Conforms platform) := fun fact => by
  unfold Conforms
  infer_instance

theorem sealRows_sealed (facts : List Fact) (sequence : Nat) (previous : Option String)
    (ordered : ∀ fact ∈ facts, fact.payload.ordered = true) :
    ∀ row ∈ sealRows sequence previous facts, row.Sealed platform := by
  induction facts generalizing sequence previous with
  | nil => simp [sealRows]
  | cons fact rest ih =>
      intro row member
      simp only [sealRows, List.mem_cons] at member
      rcases member with rfl | member
      · exact sealEvent_sealed _ _ _ _ (ordered fact (by simp))
      · exact ih _ _ (fun other inside => ordered other (List.mem_cons_of_mem _ inside)) row member

theorem sealRows_linked (facts : List Fact) (sequence : Nat) (previous : Option String) :
    (sealRows sequence previous facts).IsChain fun before after =>
      after.prevEventHash = some before.eventHash := by
  induction facts generalizing sequence previous with
  | nil => simp [sealRows]
  | cons fact rest ih =>
      have tail := ih (sequence + 1)
      cases rest with
      | nil => simp [sealRows]
      | cons next rest =>
          simp only [sealRows] at tail ⊢
          exact List.isChain_cons_cons.mpr ⟨rfl, tail _⟩

theorem toolChain_sealed : SealedChain platform "run" 1 .null toolChain := by
  have rows : (∀ row ∈ toolRows, row.actorType ∈ allowedActorTypes ∧ pyStrip row.actorId ≠ "") ∧
      (∀ row ∈ toolRows, row.runId = "run") ∧
      (∀ row ∈ toolRows, Conforms platform row.fact) ∧
      toolRows.map (fun row => row.sequence) = List.range' 1 toolRows.length ∧
      (∀ row ∈ toolRows.head?, row.prevEventHash = none) ∧
      (∀ fact ∈ toolFacts, fact.payload.ordered = true) := by
    decide +kernel
  obtain ⟨actors, owned, conforms, placed, first, ordered⟩ := rows
  exact sealedChain_of_rows toolRows 1 none (sealRows_sealed toolFacts 1 none ordered) actors owned
    conforms placed first (sealRows_linked toolFacts 1 none)

end Sample

theorem toolChain_accepted_by_both :
    chainValid Database.Sample.platform "run" Sample.toolChain = .ok true ∧
      ∃ status, replayLedger .queued [] (factsOf Sample.toolChain) = .ok status := by
  have evaluated : chainValid Database.Sample.platform "run" Sample.toolChain = .ok true ∧
      ((factsOf Sample.toolChain).getLast?.any fun last => terminalEvent last.eventType) = true := by
    decide +kernel
  have closed : ∃ last, (factsOf Sample.toolChain).getLast? = some last ∧
      terminalEvent last.eventType = true := by
    simpa only [Option.any_eq_true] using evaluated.2
  exact ⟨evaluated.1, (chainValid_iff_ledger_accepts Database.Sample.platform "run"
    Sample.toolChain Sample.toolChain_sealed closed).mp evaluated.1⟩

end Evidrun.Evidence
