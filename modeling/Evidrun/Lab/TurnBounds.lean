import Evidrun.Lab.Turn

/-!
# The budgets of a turn

Three counters bound a turn: the calls, the refusals and the round trips. Every round
that does not end the turn uses a round trip, every started tool uses a call, and a
refusal that reaches its ceiling ends the turn. None of this depends on the clock.
-/

namespace Evidrun.Lab

open Procedure (Holds Keeps)

set_option autoImplicit false

/-- What the budgets are about. -/
structure TurnCounts where
  started : Nat
  toolCalls : Nat
  refusals : Nat
  sent : Nat
  roundTrips : Nat

def Turn.counts (turn : Turn) : TurnCounts where
  started := turn.started.length
  toolCalls := turn.toolCalls
  refusals := turn.refusals
  sent := turn.sent.length
  roundTrips := turn.providerRoundTrips

namespace TurnCounts

variable (limits : TurnLimits) (trips : Nat) (counts : TurnCounts)

/-- Nothing is over its budget. -/
structure Bounded : Prop where
  started : counts.started ≤ limits.maxToolCalls
  refusals : counts.refusals ≤ limits.maxRefusals
  sent : counts.sent ≤ limits.maxProviderRoundTrips

/-- Between two requests, after so many round trips. -/
structure Between : Prop where
  started : counts.started ≤ limits.maxToolCalls
  refusals : counts.refusals ≤ limits.maxRefusals
  sent : counts.sent = trips
  roundTrips : counts.roundTrips = trips
  trips : trips ≤ limits.maxProviderRoundTrips

/-- The turn goes on: every started tool used a call, and a refusal is left. -/
structure Within : Prop extends Between limits trips counts where
  used : counts.started ≤ counts.toolCalls
  toolCalls : counts.toolCalls ≤ limits.maxToolCalls
  left : counts.refusals < limits.maxRefusals

/-- A call is counted and its tool is not started yet. -/
structure Counted : Prop extends Between limits trips counts where
  unused : counts.started < counts.toolCalls
  left : counts.refusals < limits.maxRefusals

/-- A counted call that the budget allows. -/
structure Allowed : Prop extends Counted limits trips counts where
  toolCalls : counts.toolCalls ≤ limits.maxToolCalls

variable {limits trips counts}

theorem Between.bounded (between : Between limits trips counts) : Bounded limits counts where
  started := between.started
  refusals := between.refusals
  sent := between.sent.trans_le between.trips

theorem Within.bounded (within : Within limits trips counts) : Bounded limits counts :=
  within.toBetween.bounded

theorem Counted.bounded (counted : Counted limits trips counts) : Bounded limits counts :=
  counted.toBetween.bounded

theorem Allowed.bounded (allowed : Allowed limits trips counts) : Bounded limits counts :=
  allowed.toBetween.bounded

/-- An allowed call may still be refused. -/
theorem Allowed.within (allowed : Allowed limits trips counts) : Within limits trips counts :=
  ⟨allowed.toBetween, allowed.unused.le, allowed.toolCalls, allowed.left⟩

theorem Within.count (within : Within limits trips counts) :
    Counted limits trips { counts with toolCalls := counts.toolCalls + 1 } where
  started := within.started
  refusals := within.refusals
  sent := within.sent
  roundTrips := within.roundTrips
  trips := within.trips
  unused := Nat.lt_succ_of_le within.used
  left := within.left

theorem Allowed.start (allowed : Allowed limits trips counts) :
    Within limits trips { counts with started := counts.started + 1 } where
  started := allowed.unused.trans_le allowed.toolCalls
  refusals := allowed.refusals
  sent := allowed.sent
  roundTrips := allowed.roundTrips
  trips := allowed.trips
  used := allowed.unused
  toolCalls := allowed.toolCalls
  left := allowed.left

/-- A refusal uses one of those that are left. -/
theorem Within.refuse (within : Within limits trips counts) :
    Bounded limits { counts with refusals := counts.refusals + 1 } where
  started := within.started
  refusals := within.left
  sent := within.bounded.sent

theorem Within.refuse_within (within : Within limits trips counts)
    (left : counts.refusals + 1 < limits.maxRefusals) :
    Within limits trips { counts with refusals := counts.refusals + 1 } where
  started := within.started
  refusals := left.le
  sent := within.sent
  roundTrips := within.roundTrips
  trips := within.trips
  used := within.used
  toolCalls := within.toolCalls
  left := left

/-- Another request, as long as the round trips allow one. -/
theorem Within.send (within : Within limits trips counts)
    (allowed : trips < limits.maxProviderRoundTrips) :
    Bounded limits { counts with sent := counts.sent + 1 } where
  started := within.started
  refusals := within.refusals
  sent := within.sent.symm ▸ allowed

theorem Within.roundTrip (within : Within limits trips counts)
    (allowed : trips < limits.maxProviderRoundTrips) :
    Within limits (trips + 1)
      { counts with sent := counts.sent + 1, roundTrips := counts.roundTrips + 1 } where
  started := within.started
  refusals := within.refusals
  sent := congrArg (· + 1) within.sent
  roundTrips := congrArg (· + 1) within.roundTrips
  trips := allowed
  used := within.used
  toolCalls := within.toolCalls
  left := within.left

end TurnCounts

/-- A turn without a terminal goes on; a terminal reports at most the allowed refusals. -/
def Answered (limits : TurnLimits) (trips : Nat) (result : Option LabTurnTerminal) (turn : Turn) : Prop :=
  match result with
  | none => turn.counts.Within limits trips
  | some terminal => turn.counts.Bounded limits ∧ terminal.refusals ≤ limits.maxRefusals

section Counts

variable {World Tool : Type} {env : LabEnvironment World Tool} {catalog : List (String × Tool)}
  {envelope : LabAgentEnvelope} {instructions : String} {trips : Nat}

theorem appendItem_counts (item : Item) :
    Keeps Turn.counts (appendItem item : Serves World Unit) :=
  .change fun _ => rfl

theorem appendTrace_counts (row : TraceRow) : Keeps Turn.counts (appendTrace env row) :=
  .bind (.ask _) fun _ => .change fun _ => rfl

/-- A fact about the counters is kept, and what raises leaves them bounded. -/
theorem keeps_bounded {Result : Type} {body : Serves World Result} {limits : TurnLimits}
    {fact : TurnCounts → Prop} (keeps : Keeps Turn.counts body)
    (sound : ∀ counts, fact counts → counts.Bounded limits) :
    Holds (fun turn => fact turn.counts) body (fun _ turn => fact turn.counts)
      (fun _ turn => turn.counts.Bounded limits) :=
  keeps.holds fun _ turn held => sound turn.counts held

/-! ## One call -/

section Call

variable {call : FunctionCall} {arguments : PyDict} {error : LabAgentError}

theorem refuse_counts (counts : TurnCounts) :
    Holds (fun turn => turn.counts = counts) (refuse env envelope call arguments error)
      (fun result turn => turn.counts = { counts with refusals := counts.refusals + 1 } ∧
        ∀ terminal ∈ result, terminal.refusals = counts.refusals + 1)
      (fun _ turn => turn.counts = { counts with refusals := counts.refusals + 1 }) := by
  have counted : Holds (fun turn => turn.counts = counts)
      (Procedure.change fun turn => { turn with refusals := turn.refusals + 1 } :
        Serves World Unit)
      (fun _ turn => turn.counts = { counts with refusals := counts.refusals + 1 })
      (fun _ turn => turn.counts = { counts with refusals := counts.refusals + 1 }) :=
    .change fun turn held => by rw [← held]; rfl
  have kept {Result : Type} {body : Serves World Result}
      (keeps : Keeps Turn.counts body) :=
    keeps { counts with refusals := counts.refusals + 1 }
  refine .bind counted fun _ => .bind (kept (.lift _)) fun digest =>
    .bind (kept .read) fun before => .bind (kept (.change fun _ => by rfl)) fun _ =>
      .bind (kept (appendTrace_counts _)) fun _ => .bind (kept (appendItem_counts _)) fun _ =>
        .bind .read fun turn => ?_
  split_ifs
  · refine .pure fun state held => ⟨held.2, fun terminal same => ?_⟩
    rw [← Option.some.inj same, held.1]
    exact congrArg TurnCounts.refusals held.2
  · exact .pure fun state held => ⟨held.2, by simp⟩

theorem refuseAndMaybeTerminate_answered :
    Holds (fun turn => turn.counts.Within envelope.limits trips)
      (refuseAndMaybeTerminate env envelope call arguments error)
      (Answered envelope.limits trips) (fun _ turn => turn.counts.Bounded envelope.limits) := by
  refine .of_view Turn.counts fun counts within => ?_
  refine .bind ((refuse_counts counts).weaken (fun _ held => held) (fun _ _ held => held)
    fun _ turn held => held.symm ▸ within.refuse) fun result => ?_
  cases result with
  | some terminal =>
      refine .pure fun turn held => ⟨held.1.symm ▸ within.refuse, ?_⟩
      exact (held.2 terminal rfl).trans_le within.left
  | none =>
      refine .bind .read fun turn => ?_
      split_ifs with reached
      · refine .pure fun state held => ⟨held.2.1.symm ▸ within.refuse, ?_⟩
        have counted := congrArg TurnCounts.refusals held.2.1
        exact (held.1 ▸ counted : turn.counts.refusals = counts.refusals + 1).trans_le within.left
      · refine .pure fun state held => ?_
        have counted := congrArg TurnCounts.refusals held.2.1
        have left : counts.refusals + 1 < envelope.limits.maxRefusals :=
          counted.symm.trans_lt (held.1 ▸ Nat.lt_of_not_le reached)
        change state.counts.Within envelope.limits trips
        rw [held.2.1]
        exact within.refuse_within left

section

variable {startedAt : Rat} {tool : Tool}

theorem denyBudget_counts :
    Holds (fun turn => turn.counts.Counted envelope.limits trips)
      (denyBudget env envelope startedAt call arguments)
      (fun result turn => match result with
        | none => turn.counts.Allowed envelope.limits trips
        | some _ => Answered envelope.limits trips result turn)
      (fun _ turn => turn.counts.Bounded envelope.limits) := by
  refine .bind .read fun before => ?_
  let Seen (counts : TurnCounts) : Prop :=
    before.counts = counts ∧ counts.Counted envelope.limits trips
  have sound (counts : TurnCounts) (seen : Seen counts) : counts.Bounded envelope.limits :=
    seen.2.bounded
  refine .bind ((keeps_bounded (wallExhausted_keeps startedAt) sound).weaken
    (fun turn held => ⟨congrArg Turn.counts held.1, held.2⟩) (fun _ _ held => held)
    fun _ _ held => held) fun late => ?_
  have denied (code : LabAgentErrorCode) (budget : TurnBudget) :
      Holds (fun turn => Seen turn.counts)
        (do
          let error ← Procedure.lift (refusalError code call.name [])
          appendRefusalTrace env envelope call.name arguments error
          let turn ← Procedure.read
          return some (turn.terminal .budgetExhausted [] false (some error) (some budget)))
        (fun result turn => match result with
          | none => turn.counts.Allowed envelope.limits trips
          | some _ => Answered envelope.limits trips result turn)
        (fun _ turn => turn.counts.Bounded envelope.limits) := by
    refine .bind (keeps_bounded (.lift _) sound) fun error =>
      .bind (keeps_bounded (appendTrace_counts _) sound) fun _ => .bind .read fun turn =>
        .pure fun state held => ⟨sound _ held.2, ?_⟩
    exact held.1 ▸ (sound _ held.2).refusals
  split_ifs with exceeded
  · exact denied _ _
  · exact denied _ _
  · refine .pure fun turn held => ⟨held.2, ?_⟩
    have seen := congrArg TurnCounts.toolCalls held.1
    exact seen ▸ Nat.le_of_not_lt exceeded

/-- A terminal built from the state reports its refusals. -/
theorem terminal_answered {limits : TurnLimits} {fact : TurnCounts → Prop}
    (sound : ∀ counts, fact counts → counts.Bounded limits) (name : TerminalName)
    (content : PyStr) (complete : Bool) (error : Option LabAgentError)
    (budget : Option TurnBudget) :
    Holds (fun turn => fact turn.counts)
      (do
        let turn ← Procedure.read
        return some (turn.terminal name content complete error budget) :
        Serves World (Option LabTurnTerminal))
      (Answered limits trips) (fun _ turn => turn.counts.Bounded limits) :=
  .bind .read fun _ => .pure fun _ held =>
    ⟨sound _ held.2, held.1 ▸ (sound _ held.2).refusals⟩

theorem startTool_counts :
    Holds (fun turn => turn.counts.Allowed envelope.limits trips)
      (startTool env envelope call tool arguments)
      (fun _ turn => turn.counts.Within envelope.limits trips)
      (fun _ turn => turn.counts.Bounded envelope.limits) := by
  have sound (counts : TurnCounts) (within : counts.Within envelope.limits trips) :
      counts.Bounded envelope.limits := within.bounded
  refine .bind (.change fun turn held => ?_) fun _ => .bind (keeps_bounded (.ask _) sound)
    fun answer => .bind (keeps_bounded (.change fun _ => by rfl) sound) fun _ =>
      keeps_bounded (.pure _) sound
  change TurnCounts.Within _ trips { turn.counts with started := (turn.started ++ [call]).length }
  rw [List.length_append]
  exact held.start

theorem executeTool_answered :
    Holds (fun turn => turn.counts.Allowed envelope.limits trips)
      (executeTool env envelope call arguments tool)
      (Answered envelope.limits trips) (fun _ turn => turn.counts.Bounded envelope.limits) := by
  have sound (counts : TurnCounts) (within : counts.Within envelope.limits trips) :
      counts.Bounded envelope.limits := within.bounded
  refine .bind (keeps_bounded (emitEvent_keeps _) fun _ allowed => allowed.bounded) fun _ =>
    .bind startTool_counts fun answer => ?_
  cases answer with
  | rejected error =>
      exact .bind (keeps_bounded (emitEvent_keeps _) sound) fun _ =>
        refuseAndMaybeTerminate_answered
  | raised =>
      exact .bind (keeps_bounded (appendTrace_counts _) sound) fun _ =>
        .bind (keeps_bounded (emitEvent_keeps _) sound) fun _ => terminal_answered sound _ _ _ _ _
  | returned result =>
      refine .bind (keeps_bounded (appendTrace_counts _) sound) fun _ =>
        .bind (keeps_bounded (.change fun _ => by rfl) sound) fun _ =>
          .bind (keeps_bounded (.lift _) sound) fun output =>
            .bind (keeps_bounded (appendItem_counts _) sound) fun _ =>
              .bind (keeps_bounded (emitEvent_keeps _) sound) fun _ =>
                .bind (keeps_bounded (.ask _) sound) fun cancelled => ?_
      split_ifs
      · exact terminal_answered sound _ _ _ _ _
      · exact .pure fun _ held => held

theorem serveOffered_answered {parseError : Option LabAgentError} :
    Holds (fun turn => turn.counts.Within envelope.limits trips)
      (serveOffered env envelope startedAt call arguments parseError tool)
      (Answered envelope.limits trips) (fun _ turn => turn.counts.Bounded envelope.limits) := by
  have sound (counts : TurnCounts) (allowed : counts.Allowed envelope.limits trips) :
      counts.Bounded envelope.limits := allowed.bounded
  refine .bind (.change fun turn held => held.count) fun _ =>
    .bind denyBudget_counts fun denied => ?_
  cases denied with
  | some terminal => exact fun _ _ held => held
  | none =>
      refine .bind (keeps_bounded (.change fun _ => by rfl) sound) fun _ =>
        .bind (keeps_bounded checkCall_keeps sound) fun refused =>
        .bind (keeps_bounded (.change fun _ => by rfl) sound) fun _ => ?_
      cases refused with
      | some error =>
          exact refuseAndMaybeTerminate_answered.weaken (fun _ held => held.within)
            (fun _ _ held => held) fun _ _ held => held
      | none => exact executeTool_answered

theorem serveCall_answered :
    Holds (fun turn => turn.counts.Within envelope.limits trips)
      (serveCall env catalog envelope startedAt call)
      (Answered envelope.limits trips) (fun _ turn => turn.counts.Bounded envelope.limits) := by
  have sound (counts : TurnCounts) (within : counts.Within envelope.limits trips) :
      counts.Bounded envelope.limits := within.bounded
  refine .bind (keeps_bounded (.lift _) sound) fun parsed =>
    .bind (keeps_bounded (.change fun _ => by rfl) sound) fun _ => ?_
  cases (offeredTools env catalog envelope.scope.form).lookup call.name with
  | some tool => exact serveOffered_answered
  | none =>
      exact .bind (keeps_bounded (.lift _) sound) fun _ => refuseAndMaybeTerminate_answered

end

end Call

section

variable {startedAt : Rat} {limits : TurnLimits}

theorem serve_answered (calls : List FunctionCall) :
    Holds (fun turn => turn.counts.Within envelope.limits trips)
      (serve env catalog envelope startedAt calls)
      (Answered envelope.limits trips) (fun _ turn => turn.counts.Bounded envelope.limits) := by
  induction calls with
  | nil => exact .pure fun _ held => held
  | cons call rest ih =>
      refine .bind serveCall_answered fun served => ?_
      cases served with
      | some terminal => exact .pure fun _ held => held
      | none => exact ih

/-! ## One round -/

/-- The turn ends, with a terminal of this kind. -/
def Ended (limits : TurnLimits) (result : Option LabTurnTerminal) (turn : Turn) : Prop :=
  turn.counts.Bounded limits ∧ ∃ terminal, result = some terminal ∧
    terminal.refusals ≤ limits.maxRefusals

theorem finish_ended {terminal : LabTurnTerminal}
    (reported : terminal.refusals ≤ limits.maxRefusals) :
    Holds (fun turn => turn.counts.Bounded limits) (finish env terminal)
      (Ended limits) (fun _ turn => turn.counts.Bounded limits) := by
  have sound (counts : TurnCounts) (bounded : counts.Bounded limits) : counts.Bounded limits :=
    bounded
  refine .bind (keeps_bounded (emitIf_keeps _) sound) fun _ =>
    .bind (keeps_bounded (emitEvent_keeps _) sound) fun _ =>
      .bind (keeps_bounded (emitEvent_keeps _) sound) fun _ =>
        .pure fun _ held => ⟨held, terminal, rfl, reported⟩

/-- A terminal built from the state ends the turn. -/
theorem finish_terminal (seen : Turn) (name : TerminalName) (content : PyStr) (complete : Bool)
    (error : Option LabAgentError) (budget : Option TurnBudget) :
    Holds (fun turn => seen = turn ∧ turn.counts.Bounded limits)
      (finish env (seen.terminal name content complete error budget))
      (Ended limits) (fun _ turn => turn.counts.Bounded limits) := by
  intro world turn held
  exact finish_ended (held.1 ▸ held.2.refusals) world turn held.2

theorem providerFailed_ended :
    Holds (fun turn => turn.counts.Bounded limits) (providerFailed env)
      (Ended limits) (fun _ turn => turn.counts.Bounded limits) :=
  .bind .read fun turn => finish_terminal turn _ _ _ _ _

theorem acceptAnswer_ended {response : Response} :
    Holds (fun turn => turn.counts.Bounded limits) (acceptAnswer env response)
      (Ended limits) (fun _ turn => turn.counts.Bounded limits) := by
  have sound (counts : TurnCounts) (bounded : counts.Bounded limits) : counts.Bounded limits :=
    bounded
  refine .bind (keeps_bounded (.lift _) sound) fun text => ?_
  dsimp only
  split_ifs
  · exact providerFailed_ended
  · exact .bind (keeps_bounded (emitEvent_keeps _) sound) fun _ =>
      .bind .read fun turn => finish_terminal turn _ _ _ _ _

/-- A response that can be used is one more round trip. -/
theorem askProvider_within (allowed : trips < envelope.limits.maxProviderRoundTrips) :
    Holds (fun turn => turn.counts.Within envelope.limits trips)
      (askProvider env catalog envelope instructions)
      (fun _ turn => turn.counts.Within envelope.limits (trips + 1))
      (fun _ turn => turn.counts.Bounded envelope.limits) := by
  have sound (counts : TurnCounts) (within : counts.Within envelope.limits (trips + 1)) :
      counts.Bounded envelope.limits := within.bounded
  refine .bind (keeps_bounded (.lift _) fun _ within => within.bounded) fun tools =>
    .bind (keeps_bounded .read fun _ within => within.bounded) fun seen => ?_
  refine .of_view Turn.counts fun counts within => ?_
  have sent (request : Request) : Holds (fun turn => turn.counts = counts)
      (Procedure.change fun turn => { turn with sent := turn.sent ++ [request] } :
        Serves World Unit)
      (fun _ turn => turn.counts = { counts with sent := counts.sent + 1 })
      (fun _ turn => turn.counts.Bounded envelope.limits) := by
    refine .change fun turn held => ?_
    rw [← held]
    simp [Turn.counts]
  have returned : Holds
      (fun turn => turn.counts = { counts with sent := counts.sent + 1 })
      (Procedure.change fun turn =>
        { turn with providerRoundTrips := turn.providerRoundTrips + 1 } : Serves World Unit)
      (fun _ turn => turn.counts.Within envelope.limits (trips + 1))
      (fun _ turn => turn.counts.Bounded envelope.limits) := by
    refine .change fun turn held => ?_
    have counted : Turn.counts { turn with providerRoundTrips := turn.providerRoundTrips + 1 } =
        { turn.counts with roundTrips := turn.counts.roundTrips + 1 } := rfl
    rw [counted, held]
    exact within.roundTrip allowed
  exact .bind (sent _) fun _ =>
    .bind ((Keeps.ask _ _).weaken (fun _ held => held) (fun _ _ held => held)
      fun _ _ held => held.symm ▸ within.send allowed) fun response =>
    .bind returned fun _ => .bind (keeps_bounded (.lift _) sound) fun _ =>
    .bind (keeps_bounded (.change fun _ => by rfl) sound) fun _ =>
    .bind (keeps_bounded (.lift _) sound) fun _ => keeps_bounded (.pure _) sound

theorem tryProvider_counts (allowed : trips < envelope.limits.maxProviderRoundTrips) :
    Holds (fun turn => turn.counts.Within envelope.limits trips)
      (tryProvider env catalog envelope instructions)
      (fun result turn => match result with
        | none => turn.counts.Bounded envelope.limits
        | some _ => turn.counts.Within envelope.limits (trips + 1))
      (fun _ turn => turn.counts.Bounded envelope.limits) := by
  refine .attempt (.bind (askProvider_within allowed) fun answer => .pure fun _ held => held)
    (fun fault rest handled => ?_) fun _ _ _ held => held
  split_ifs at handled
  cases handled
  exact .pure fun _ held => held

/-- A round ends the turn or uses a round trip. -/
theorem turnStep_counts :
    Holds (fun turn => turn.counts.Within envelope.limits trips)
      (turnStep env catalog envelope instructions startedAt)
      (fun result turn => Ended envelope.limits result turn ∨
        result = none ∧ turn.counts.Within envelope.limits (trips + 1))
      (fun _ turn => turn.counts.Bounded envelope.limits) := by
  have ended {body : Serves World (Option LabTurnTerminal)} {before : Turn → Prop}
      (holds : Holds (fun turn => turn.counts.Bounded envelope.limits) body
        (Ended envelope.limits) fun _ turn => turn.counts.Bounded envelope.limits)
      (sound : ∀ turn, before turn → turn.counts.Bounded envelope.limits) :
      Holds before body
        (fun result turn => Ended envelope.limits result turn ∨
          result = none ∧ turn.counts.Within envelope.limits (trips + 1))
        (fun _ turn => turn.counts.Bounded envelope.limits) :=
    holds.weaken sound (fun _ _ held => .inl held) fun _ _ held => held
  have within_bounded (counts : TurnCounts) (within : counts.Within envelope.limits trips) :
      counts.Bounded envelope.limits := within.bounded
  refine .bind (keeps_bounded (.ask _) within_bounded) fun cancelled => ?_
  split_ifs
  · exact ended (.bind .read fun turn => finish_terminal turn _ _ _ _ _) fun _ held => held.bounded
  refine .bind (keeps_bounded (wallExhausted_keeps _) within_bounded) fun late => ?_
  split_ifs
  · exact ended (.bind .read fun turn => finish_terminal turn _ _ _ _ _) fun _ held => held.bounded
  refine .bind .read fun seen => ?_
  split_ifs with exhausted
  · exact (finish_terminal seen _ _ _ _ _).weaken (fun _ held => ⟨held.1, held.2.bounded⟩)
      (fun _ _ held => .inl held) fun _ _ held => held
  intro world turn held
  have allowed : trips < envelope.limits.maxProviderRoundTrips :=
    held.2.roundTrips.symm.trans_lt (held.1 ▸ Nat.lt_of_not_le exhausted)
  refine Holds.bind (tryProvider_counts allowed) (fun answer => ?_) world turn held.2
  match answer with
  | none => exact ended providerFailed_ended fun _ held => held
  | some (response, []) => exact ended acceptAnswer_ended fun _ held => held.bounded
  | some (response, call :: calls) =>
      refine .bind (serve_answered (call :: calls)) fun served => ?_
      cases served with
      | none => exact .pure fun _ held => .inr ⟨rfl, held⟩
      | some terminal =>
          intro world turn held
          exact ended (finish_ended held.2) (fun _ held => held) world turn held.1

/-! ## The turn -/

/-- With fuel for the round trips that are left the loop ends. -/
theorem turnLoop_ended (fuel : Nat) :
    ∀ trips, envelope.limits.maxProviderRoundTrips < trips + fuel →
      Holds (fun turn => turn.counts.Within envelope.limits trips)
        (turnLoop env catalog envelope instructions startedAt fuel)
        (Ended envelope.limits) (fun _ turn => turn.counts.Bounded envelope.limits) := by
  induction fuel with
  | zero =>
      intro trips enough
      exact .pure fun turn held => absurd held.trips (Nat.not_le_of_lt enough)
  | succ fuel ih =>
      intro trips enough
      refine .bind turnStep_counts fun result => ?_
      cases result with
      | some terminal => exact .pure fun turn held => held.resolve_right fun other => nomatch other.1
      | none =>
          refine (ih (trips + 1) (by omega)).weaken (fun turn held => ?_) (fun _ _ held => held)
            fun _ _ held => held
          exact (held.resolve_left fun ended => by obtain ⟨_, _, none, _⟩ := ended; cases none).2

end

theorem initial_within (some_refusal : 1 ≤ envelope.limits.maxRefusals) :
    (Turn.initial envelope).counts.Within envelope.limits 0 where
  started := Nat.zero_le _
  refusals := Nat.zero_le _
  sent := rfl
  roundTrips := rfl
  trips := Nat.zero_le _
  used := Nat.zero_le _
  toolCalls := Nat.zero_le _
  left := some_refusal

theorem execute_ended {fuel : Nat} (enough : envelope.limits.maxProviderRoundTrips < fuel) :
    Holds (fun turn => turn.counts.Within envelope.limits 0)
      (execute env catalog envelope instructions fuel)
      (Ended envelope.limits) (fun _ turn => turn.counts.Bounded envelope.limits) := by
  have sound (counts : TurnCounts) (within : counts.Within envelope.limits 0) :
      counts.Bounded envelope.limits := within.bounded
  unfold execute
  dsimp only
  split_ifs
  · exact .bind (keeps_bounded (.ask _) sound) fun startedAt =>
      .bind (keeps_bounded (emitEvent_keeps _) sound) fun _ =>
        turnLoop_ended fuel 0 (by omega)
  · exact .raise fun _ held => held.bounded

variable (env catalog envelope instructions) in
/-- A turn stays within its budgets, whether it returns or raises, and it needs no more rounds
than its round trips and one: with that fuel it returns a terminal or raises. -/
theorem execute_within_budgets (fuel : Nat) (world : World)
    (some_refusal : 1 ≤ envelope.limits.maxRefusals)
    (enough : envelope.limits.maxProviderRoundTrips < fuel) :
    let (result, _, turn) :=
      execute env catalog envelope instructions fuel world (.initial envelope)
    turn.sent.length ≤ envelope.limits.maxProviderRoundTrips ∧
      turn.started.length ≤ envelope.limits.maxToolCalls ∧
      (∀ terminal, result = .ok (some terminal) →
        terminal.refusals ≤ envelope.limits.maxRefusals) ∧
      result ≠ .ok none := by
  have ended : Holds _ (execute env catalog envelope instructions fuel) _ _ :=
    execute_ended enough
  have done := ended world (.initial envelope) (initial_within some_refusal)
  rcases run : execute env catalog envelope instructions fuel world (.initial envelope) with
    ⟨result, after, turn⟩
  rw [run] at done
  cases result with
  | ok result =>
      obtain ⟨bounded, terminal, rfl, reported⟩ := done
      refine ⟨bounded.sent, bounded.started, fun other same => ?_, by simp⟩
      cases same
      exact reported
  | error fault => exact ⟨done.sent, done.started, by simp, by simp⟩

/-- A tool that does not exist uses no call; the only refusal ends the turn. -/
theorem execute_within_budgets_sample :
    let (result, _, turn) := execute (Sample.quietEnvironment (fun _ => .ok none)
      (Sample.callResponse "x" "")) [] Sample.envelope "" 2 () (.initial Sample.envelope)
    turn.sent.length ≤ 1 ∧ turn.started.length ≤ 1 ∧
      (∀ terminal, result = .ok (some terminal) → terminal.refusals ≤ 1) ∧ result ≠ .ok none :=
  execute_within_budgets _ [] Sample.envelope "" 2 () (by decide) (by decide)

end Counts

end Evidrun.Lab
