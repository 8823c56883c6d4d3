import Evidrun.Lab.Turn

/-!
# The transcript and the trace of a turn

A call is put in the transcript before anything is decided about it, and every way
out of serving it writes its trace row and its output in another order. What they
have in common is said of a record: a call is opened on a settled record, and one
row, with or without an output, closes it.

The refusal of a call is hashed before it is traced. A call whose arguments have no
UTF-8 encoding, or whose name is blank, raises there and stays open.
-/

namespace Evidrun.Lab

open DocumentSchema (strip)
open Procedure (Holds Keeps Returns)

set_option autoImplicit false

/-! ## Records -/

/-- Every call is followed by its output, and there is no other output. -/
def Paired : List Item → Prop
  | [] => True
  | .message _ _ :: rest => Paired rest
  | .functionCall callId _ _ :: .functionCallOutput answered _ :: rest =>
      answered = callId ∧ Paired rest
  | .functionCall _ _ _ :: _ => False
  | .functionCallOutput _ _ :: _ => False

theorem Paired.append {first second : List Item} (paired : Paired first)
    (others : Paired second) : Paired (first ++ second) := by
  fun_induction Paired first with
  | case1 => exact others
  | case2 _ _ rest ih => exact ih paired
  | case3 callId _ _ answered _ rest ih => exact ⟨paired.1, ih paired.2⟩
  | case4 => exact paired.elim
  | case5 => exact paired.elim

theorem paired_messages (history : List Message) :
    Paired (history.map fun item => .message item.role.providerRole item.content) := by
  induction history with
  | nil => trivial
  | cons _ _ ih => exact ih

/-- The calls of a transcript. -/
def functionCalls (items : List Item) : List FunctionCall :=
  items.filterMap fun item => match item with
    | .functionCall callId name arguments => some ⟨callId, name, arguments⟩
    | _ => none

def Ending.outcome : Ending → Outcome
  | .returned => .completed
  | .raised => .failed
  | .rejected | .unstarted => .refused

namespace ServedCall

/-- The tool is offered, the budgets allow the call and the checks passed. -/
def permitted (served : ServedCall) : Bool :=
  served.offered && served.affordable && served.checked

def item (served : ServedCall) : Item :=
  .functionCall served.call.callId served.call.name served.call.arguments

end ServedCall

/-- The row is about this call and has its outcome. -/
structure Traced (served : ServedCall) (row : TraceRow) : Prop where
  toolName : row.toolName = served.call.name
  arguments : row.arguments = served.arguments
  outcome : row.outcome = served.ending.outcome

/-- What a turn leaves behind. -/
structure TurnRecord where
  transcript : List Item
  sent : List Request
  started : List FunctionCall
  trace : List TraceRow
  served : List ServedCall

def Turn.record (turn : Turn) : TurnRecord where
  transcript := turn.transcript
  sent := turn.sent
  started := turn.started
  trace := turn.trace
  served := turn.served

section Records

variable {World Tool : Type} (env : LabEnvironment World Tool) (catalog : List (String × Tool))
  (envelope : LabAgentEnvelope)

/-- The calls of the transcript, the rows, the started tools and the requests agree. -/
structure Aligned (record : TurnRecord) : Prop where
  requests : ∀ request ∈ record.sent, Paired request.input
  calls : functionCalls record.transcript = record.served.map ServedCall.call
  traced : List.Forall₂ Traced record.served record.trace
  started : record.started = (record.served.filter ServedCall.permitted).map ServedCall.call
  offered : ∀ served ∈ record.served, served.offered =
    ((offeredTools env catalog envelope.scope.form).lookup served.call.name).isSome

/-- Aligned, and every call has its output. -/
structure Settled (record : TurnRecord) : Prop extends Aligned env catalog envelope record where
  paired : Paired record.transcript

/-- A call in the transcript, with the tools started and the rows written for it. -/
def TurnRecord.opened (prior : TurnRecord) (served : ServedCall) (started : List FunctionCall)
    (rows : List TraceRow) : TurnRecord where
  transcript := prior.transcript ++ [served.item]
  sent := prior.sent
  started := prior.started ++ started
  trace := prior.trace ++ rows
  served := prior.served ++ [served]

/-- The same call with its output. -/
def TurnRecord.answered (prior : TurnRecord) (served : ServedCall) (started : List FunctionCall)
    (rows : List TraceRow) (output : PyStr) : TurnRecord :=
  { prior.opened served started rows with
    transcript := prior.transcript ++
      [served.item, .functionCallOutput served.call.callId output] }

variable {env catalog envelope}

/-- One row closes an opened call. -/
theorem Settled.close {prior : TurnRecord} {served : ServedCall} {started : List FunctionCall}
    {row : TraceRow} (settled : Settled env catalog envelope prior) (traced : Traced served row)
    (offered : served.offered =
      ((offeredTools env catalog envelope.scope.form).lookup served.call.name).isSome)
    (agrees : started = if served.permitted then [served.call] else []) :
    Aligned env catalog envelope (prior.opened served started [row]) where
  requests := settled.requests
  calls := by
    simp [TurnRecord.opened, functionCalls, ServedCall.item, ← settled.calls]
  traced := List.rel_append settled.traced (.cons traced .nil)
  started := by
    change prior.started ++ started = _
    rw [settled.started, agrees]
    cases permitted : served.permitted <;> simp [TurnRecord.opened, permitted]
  offered := by
    intro other inside
    rcases List.mem_append.mp inside with before | last
    · exact settled.offered other before
    · exact List.mem_singleton.mp last ▸ offered

/-- With its output the record is settled again. -/
theorem Settled.settle {prior : TurnRecord} {served : ServedCall} {started : List FunctionCall}
    {rows : List TraceRow} (settled : Settled env catalog envelope prior)
    (aligned : Aligned env catalog envelope (prior.opened served started rows))
    (output : PyStr) :
    Settled env catalog envelope (prior.answered served started rows output) where
  requests := aligned.requests
  calls := by
    have calls := aligned.calls
    simpa [TurnRecord.answered, TurnRecord.opened, functionCalls, ServedCall.item] using calls
  traced := aligned.traced
  started := aligned.started
  offered := aligned.offered
  paired := settled.paired.append ⟨rfl, trivial⟩

end Records

/-! ## A world that does not get in the way -/

theorem PyStr.encodable_ofText (text : String) : PyStr.encodable (PyStr.ofText text) = true := by
  rw [PyStr.encodable, PyStr.ofText, List.all_map, List.all_eq_true]
  intro char _
  have valid := char.valid
  simp only [UInt32.isValidChar, Nat.isValidChar] at valid
  change (!isSurrogate char.val.toNat) = true
  simp only [isSurrogate, Bool.not_eq_true', Bool.and_eq_false_iff, decide_eq_false_iff_not]
  omega

variable {World Tool : Type} {env : LabEnvironment World Tool} {catalog : List (String × Tool)}
  {envelope : LabAgentEnvelope} {instructions : String}

variable (env) in
/-- Neither the sinks nor the clock, the policy or the schemas raise. -/
structure Quiet : Prop where
  trace : ∀ row world, (env.appendToolTrace row world).1 = .ok ()
  emit : ∀ event world, (env.emit event world).1 = .ok ()
  clock : ∀ world, ∃ time, (env.clock world).1 = .ok time
  scope : ∀ tool arguments context world,
    ∃ verdict, (env.checkScope tool arguments context world).1 = .ok verdict
  classification : ∀ tool arguments context world,
    ∃ verdict, (env.checkClassification tool arguments context world).1 = .ok verdict
  schema : ∀ tool, ∃ schema, env.providerSchema tool = .ok schema ∧
    ∀ toolName arguments, strip toolName ≠ "" →
      ∃ verdict, validateSchema toolName schema arguments = .ok verdict

/-- A call that can be refused: it has a name, and its arguments have a UTF-8 encoding. -/
structure Refusable (name : String) (arguments : PyDict) : Prop where
  name : strip name ≠ ""
  arguments : encodableEntries arguments = true

/-- `parse_arguments` reads nothing from the provider that cannot be refused. -/
def ServableCall (env : LabEnvironment World Tool) (call : FunctionCall) : Prop :=
  ∀ arguments parseError, parseArguments env.loads call.arguments call.name =
    .ok (arguments, parseError) → Refusable call.name arguments

section

variable {Result : Type}

theorem asks_returns {callee : World → Except Fault Result × World}
    (answers : ∀ world, ∃ result, (callee world).1 = .ok result) :
    Returns (Procedure.ask callee : Serves World Result) := by
  refine .ask (fun _ _ _ _ _ => trivial) fun world fault failed => ?_
  obtain ⟨result, answered⟩ := answers world
  exact nomatch answered.symm.trans failed

theorem lift_returns {value : Except Fault Result} (returns : ∃ result, value = .ok result) :
    Returns (Procedure.lift value : Serves World Result) := by
  refine .lift (fun _ _ _ _ => trivial) fun fault failed => ?_
  obtain ⟨result, returned⟩ := returns
  exact nomatch returned.symm.trans failed

theorem read_returns : Returns (Procedure.read : Serves World Turn) :=
  fun _ _ _ => trivial

theorem change_returns {update : Turn → Turn} :
    Returns (Procedure.change update : Serves World Unit) :=
  fun _ _ _ => trivial

/-- A step that does not touch the record. -/
theorem kept_record {body : Serves World Result} {record : TurnRecord}
    {raised : Fault → Turn → Prop} (keeps : Keeps Turn.record body)
    (returns : Returns body) :
    Holds (fun turn => turn.record = record) body (fun _ turn => turn.record = record)
      raised :=
  keeps.returning returns

/-- A step that may raise on an aligned record. -/
theorem kept_or_aligned {body : Serves World Result} {record : TurnRecord}
    (keeps : Keeps Turn.record body) (aligned : Aligned env catalog envelope record) :
    Holds (fun turn => turn.record = record) body (fun _ turn => turn.record = record)
      (fun _ turn => Aligned env catalog envelope turn.record) :=
  (keeps record).weaken (fun _ held => held) (fun _ _ held => held)
    fun _ _ held => held.symm ▸ aligned

end

theorem refusalError_returns {code : LabAgentErrorCode} {toolName : String}
    (known : code.messages.isSome) (named : strip toolName ≠ "") :
    ∃ error, refusalError code toolName [] = .ok error := by
  obtain ⟨texts, given⟩ := Option.isSome_iff_exists.mp known
  exact ⟨_, by rw [refusalError, given, nonEmptyText, if_neg named]; rfl⟩

namespace Quiet

variable (quiet : Quiet env)
include quiet

theorem emits (event : UiEvent) : Returns (emitEvent env event) :=
  asks_returns fun world => ⟨(), quiet.emit event world⟩

theorem tells_time (startedAt : Rat) :
    Returns (wallExhausted env envelope startedAt) :=
  .bind (asks_returns quiet.clock) fun _ => .pure fun _ _ => trivial

theorem checks {call : FunctionCall} {arguments : PyDict} {parseError : Option LabAgentError}
    {tool : Tool} (named : strip call.name ≠ "") :
    Returns (checkCall env envelope call arguments parseError tool) := by
  have passes {next : Serves World (Option LabAgentError)} (returns : Returns next)
      (error : Option LabAgentError) : Returns (orCheck next error) := by
    cases error with
    | some error => exact .pure fun _ _ => trivial
    | none => exact returns
  refine .bind ?_ fun error => .bind (passes (asks_returns (quiet.scope tool _ _)) error)
    fun error => passes (asks_returns (quiet.classification tool _ _)) error
  cases parseError with
  | some error => exact .pure fun _ _ => trivial
  | none =>
      obtain ⟨schema, given, validates⟩ := quiet.schema tool
      have found : Holds (fun _ => True)
          (Procedure.lift (env.providerSchema tool) : Serves World PyDict)
          (fun result _ => result = schema) (fun _ _ => False) :=
        .lift (fun _ same _ _ => Except.ok.inj (same.symm.trans given))
          fun _ failed => nomatch given.symm.trans failed
      refine .bind found fun result world turn same => ?_
      subst same
      exact lift_returns (validates call.name arguments named) world turn trivial

/-- The row of an opened call. -/
theorem traces (row : TraceRow) {prior : TurnRecord} {served : ServedCall}
    {started : List FunctionCall} {raised : Fault → Turn → Prop} :
    Holds (fun turn => turn.record = prior.opened served started [])
      (appendTrace env row) (fun _ turn => turn.record = prior.opened served started [row])
      raised := by
  refine .bind (Keeps.returning (.ask _)
    (asks_returns fun world => ⟨(), quiet.trace row world⟩)) fun _ => .change fun turn held => ?_
  have traced : Turn.record { turn with trace := turn.trace ++ [row] } =
      { turn.record with trace := turn.record.trace ++ [row] } := rfl
  rw [traced, held]
  simp [TurnRecord.opened]

end Quiet

/-- The output of an opened call. -/
theorem appendOutput_answered {prior : TurnRecord} {served : ServedCall}
    {started : List FunctionCall} {rows : List TraceRow} (output : PyStr)
    {raised : Fault → Turn → Prop} :
    Holds (fun turn => turn.record = prior.opened served started rows)
      (appendItem (.functionCallOutput served.call.callId output) : Serves World Unit)
      (fun _ turn => turn.record = prior.answered served started rows output) raised := by
  refine .change fun turn held => ?_
  have appended (item : Item) : Turn.record { turn with transcript := turn.transcript ++ [item] } =
      { turn.record with transcript := turn.record.transcript ++ [item] } := rfl
  rw [appended, held]
  simp [TurnRecord.opened, TurnRecord.answered]

theorem sha256Json_returns {call : FunctionCall} {arguments : PyDict} (error : LabAgentError)
    (refusable : Refusable call.name arguments) :
    ∃ digest, sha256Json env (refusalDocument call arguments error) = .ok digest := by
  have encodable : (refusalDocument call arguments error).encodable = true := by
    simp [refusalDocument, PyValue.encodable, encodableEntries, PyStr.encodable_ofText,
      refusable.arguments]
  exact ⟨_, if_pos encodable⟩

theorem noteLast_concat (note : ServedCall → ServedCall) (earlier : List ServedCall)
    (last : ServedCall) : noteLast note (earlier ++ [last]) = earlier ++ [note last] := by
  induction earlier with
  | nil => rfl
  | cons first rest ih =>
      cases rest with
      | nil => rfl
      | cons second rest => exact congrArg (first :: ·) ih

/-- A note about the call that is being served. -/
theorem record_note {turn : Turn} {prior : TurnRecord} {served : ServedCall}
    {started : List FunctionCall} {rows : List TraceRow} {note : ServedCall → ServedCall}
    (opened : turn.record = prior.opened served started rows)
    (same : (note served).call = served.call) :
    (turn.note note).record = prior.opened (note served) started rows := by
  have served_eq : turn.served = prior.served ++ [served] := congrArg TurnRecord.served opened
  have noted : (turn.note note).record =
      { turn.record with served := noteLast note turn.served } := rfl
  rw [noted, served_eq, noteLast_concat, opened]
  simp [TurnRecord.opened, ServedCall.item, same]

/-! ## One call -/

section Call

variable {prior : TurnRecord} {served : ServedCall}

/-- What serving a call leaves behind. -/
def Closed (env : LabEnvironment World Tool) (catalog : List (String × Tool))
    (envelope : LabAgentEnvelope) (result : Option LabTurnTerminal) (turn : Turn) : Prop :=
  match result with
  | none => Settled env catalog envelope turn.record
  | some _ => Aligned env catalog envelope turn.record

theorem Settled.closed {result : Option LabTurnTerminal} {turn : Turn}
    (settled : Settled env catalog envelope turn.record) :
    Closed env catalog envelope result turn := by
  cases result with
  | none => exact settled
  | some _ => exact settled.toAligned

variable (quiet : Quiet env) (settled : Settled env catalog envelope prior)
  (offered : served.offered =
    ((offeredTools env catalog envelope.scope.form).lookup served.call.name).isSome)
include quiet settled offered

section

variable {raised : Fault → Turn → Prop}

/-- A refusal traces the call and answers it. -/
theorem refuse_settled {error : LabAgentError} {started : List FunctionCall}
    (refusable : Refusable served.call.name served.arguments)
    (refused : served.ending.outcome = .refused)
    (agrees : started = if served.permitted then [served.call] else []) :
    Holds (fun turn => turn.record = prior.opened served started [])
      (refuse env envelope served.call served.arguments error)
      (fun _ turn => Settled env catalog envelope turn.record) raised := by
  let row : TraceRow := { traceRow envelope served.call.name served.arguments .refused with
    refusalCode := some error.code.value }
  have aligned : Aligned env catalog envelope (prior.opened served started [row]) :=
    settled.close ⟨rfl, rfl, refused.symm⟩ offered agrees
  refine .bind (kept_record (.change fun _ => by rfl) change_returns) fun _ =>
    .bind (kept_record (.lift _) (lift_returns (sha256Json_returns error refusable))) fun digest =>
    .bind (kept_record .read read_returns) fun before =>
    .bind (kept_record (.change fun _ => by rfl) change_returns) fun _ =>
    .bind (quiet.traces row) fun _ => .bind (appendOutput_answered _) fun _ =>
    .bind (kept_record .read read_returns) fun seen => ?_
  split_ifs
  · exact .pure fun turn held => held ▸ settled.settle aligned _
  · exact .pure fun turn held => held ▸ settled.settle aligned _

theorem refuseAndMaybeTerminate_closed {error : LabAgentError} {started : List FunctionCall}
    (refusable : Refusable served.call.name served.arguments)
    (refused : served.ending.outcome = .refused)
    (agrees : started = if served.permitted then [served.call] else []) :
    Holds (fun turn => turn.record = prior.opened served started [])
      (refuseAndMaybeTerminate env envelope served.call served.arguments error)
      (Closed env catalog envelope) (fun _ turn => Aligned env catalog envelope turn.record) := by
  refine .bind (refuse_settled quiet settled offered refusable refused agrees) fun result => ?_
  cases result with
  | some terminal => exact .pure fun _ held => held.closed
  | none =>
      refine .bind .read fun seen => ?_
      split_ifs
      · exact .pure fun _ held => held.2.closed
      · exact .pure fun _ held => held.2.closed

omit settled offered in
/-- A denial traces the call and leaves it without an output. -/
theorem denyBudget_opened {startedAt : Rat} (named : strip served.call.name ≠ "")
    (refused : served.ending.outcome = .refused) :
    Holds (fun turn => turn.record = prior.opened served [] [])
      (denyBudget env envelope startedAt served.call served.arguments)
      (fun result turn => match result with
        | none => turn.record = prior.opened served [] []
        | some _ => ∃ row, Traced served row ∧ turn.record = prior.opened served [] [row])
      raised := by
  refine .bind (kept_record .read read_returns) fun seen =>
    .bind (kept_record (wallExhausted_keeps startedAt) (quiet.tells_time startedAt)) fun late => ?_
  have denied (code : LabAgentErrorCode) (budget : TurnBudget) (known : code.messages.isSome) :
      Holds (fun turn => turn.record = prior.opened served [] [])
        (do
          let error ← Procedure.lift (refusalError code served.call.name [])
          appendRefusalTrace env envelope served.call.name served.arguments error
          let turn ← Procedure.read
          return some (turn.terminal .budgetExhausted [] false (some error) (some budget)))
        (fun result turn => match result with
          | none => turn.record = prior.opened served [] []
          | some _ => ∃ row, Traced served row ∧ turn.record = prior.opened served [] [row])
        raised :=
    .bind (kept_record (.lift _) (lift_returns (refusalError_returns known named))) fun error =>
      .bind (quiet.traces _) fun _ => .bind (kept_record .read read_returns) fun turn =>
        .pure fun _ held => ⟨_, ⟨rfl, rfl, refused.symm⟩, held⟩
  split_ifs
  · exact denied _ _ rfl
  · exact denied _ _ rfl
  · exact .pure fun _ held => held

omit quiet settled offered in
theorem startTool_opened {tool : Tool} :
    Holds (fun turn => turn.record = prior.opened served [] [])
      (startTool env envelope served.call tool served.arguments)
      (fun answer turn => turn.record =
        prior.opened { served with ending := answer.ending } [served.call] []) raised := by
  have noted : Holds (fun turn => turn.record = prior.opened served [] [])
      (Procedure.change fun turn => { turn with started := turn.started ++ [served.call] } :
        Serves World Unit)
      (fun _ turn => turn.record = prior.opened served [served.call] []) raised := by
    refine .change fun turn held => ?_
    have started : Turn.record { turn with started := turn.started ++ [served.call] } =
        { turn.record with started := turn.record.started ++ [served.call] } := rfl
    rw [started, held]
    simp [TurnRecord.opened]
  refine .bind noted fun _ => .bind (kept_record (.ask _) (asks_returns fun _ => ⟨_, rfl⟩))
    fun answer => .bind (.change fun turn held => record_note held rfl) fun _ =>
      .pure fun _ held => held

end

/-- A permitted call: its tool is started and how it ends is traced. -/
theorem executeTool_closed {tool : Tool}
    (refusable : Refusable served.call.name served.arguments) (permitted : served.permitted) :
    Holds (fun turn => turn.record = prior.opened served [] [])
      (executeTool env envelope served.call served.arguments tool)
      (Closed env catalog envelope) (fun _ turn => Aligned env catalog envelope turn.record) := by
  refine .bind (kept_record (emitEvent_keeps _) (quiet.emits _)) fun _ =>
    .bind startTool_opened fun answer => ?_
  generalize called : ({ served with ending := answer.ending } : ServedCall) = ended
  have agrees : [served.call] = if ended.permitted then [ended.call] else [] := by
    subst called
    exact (if_pos permitted).symm
  have offered : ended.offered =
      ((offeredTools env catalog envelope.scope.form).lookup ended.call.name).isSome := by
    subst called
    exact offered
  have close (row : TraceRow) (traced : Traced ended row) :
      Aligned env catalog envelope (prior.opened ended [served.call] [row]) :=
    settled.close traced offered agrees
  cases answer with
  | rejected error =>
      subst called
      refine .bind (kept_record (emitEvent_keeps _) (quiet.emits _)) fun _ => ?_
      exact refuseAndMaybeTerminate_closed quiet settled offered refusable rfl agrees
  | raised =>
      subst called
      refine .bind (quiet.traces _) fun _ => .bind (kept_record (emitEvent_keeps _) (quiet.emits _))
        fun _ => .bind (kept_record .read read_returns) fun seen => .pure fun turn held => ?_
      exact (held ▸ close _ ⟨rfl, rfl, rfl⟩ : Aligned env catalog envelope turn.record)
  | returned result =>
      subst called
      have aligned := close { traceRow envelope served.call.name served.arguments .completed with
        requestedRefs := result.requestedRefs
        returnedRefs := result.returnedRefs } ⟨rfl, rfl, rfl⟩
      refine .bind (quiet.traces _) fun _ =>
        .bind (kept_record (.change fun _ => by rfl) change_returns) fun _ =>
        .bind (kept_or_aligned (.lift _) aligned) fun output =>
        .bind (appendOutput_answered output) fun _ =>
        .bind (kept_record (emitEvent_keeps _) (quiet.emits _)) fun _ =>
        .bind (kept_or_aligned (.ask _) (settled.settle aligned output).toAligned)
          fun cancelled => ?_
      split_ifs
      · refine .bind (kept_record .read read_returns) fun seen => .pure fun turn held => ?_
        exact (held ▸ (settled.settle aligned output).toAligned :
          Aligned env catalog envelope turn.record)
      · refine .pure fun turn held => ?_
        exact (held ▸ settled.settle aligned output : Settled env catalog envelope turn.record)

end Call

section Serve

variable {startedAt : Rat} {call : FunctionCall} {arguments : PyDict} (quiet : Quiet env)
include quiet

/-- A call of the effective catalog. -/
theorem serveOffered_closed {prior : TurnRecord} {parseError : Option LabAgentError} {tool : Tool}
    (settled : Settled env catalog envelope prior) (refusable : Refusable call.name arguments)
    (offered : true = ((offeredTools env catalog envelope.scope.form).lookup call.name).isSome) :
    Holds (fun turn => turn.record =
        prior.opened ⟨call, arguments, true, false, false, .unstarted⟩ [] [])
      (serveOffered env envelope startedAt call arguments parseError tool)
      (Closed env catalog envelope) (fun _ turn => Aligned env catalog envelope turn.record) := by
  let seen (affordable checked : Bool) : ServedCall :=
    ⟨call, arguments, true, affordable, checked, .unstarted⟩
  have denied : Holds (fun turn => turn.record = prior.opened (seen false false) [] [])
      (denyBudget env envelope startedAt call arguments) _
      (fun _ turn => Aligned env catalog envelope turn.record) :=
    denyBudget_opened quiet refusable.name rfl
  refine .bind (kept_record (.change fun _ => by rfl) change_returns) fun _ =>
    .bind denied fun denied => ?_
  cases denied with
  | some terminal =>
      have noted : Holds (fun turn => ∃ row, Traced (seen false false) row ∧
            turn.record = prior.opened (seen false false) [] [row])
          (Procedure.change fun turn =>
            turn.note fun served => { served with affordable := false } : Serves World Unit)
          (fun _ turn => Aligned env catalog envelope turn.record)
          (fun _ turn => Aligned env catalog envelope turn.record) := by
        refine .change fun turn ⟨row, traced, opened⟩ => ?_
        rw [record_note opened rfl]
        exact settled.close ⟨traced.toolName, traced.arguments, traced.outcome⟩ offered rfl
      exact .bind noted fun _ => .pure fun _ held => held
  | none =>
      have affordable : Holds
          (fun turn => turn.record = prior.opened (seen false false) [] [])
          (Procedure.change fun turn =>
            turn.note fun served => { served with affordable := true } : Serves World Unit)
          (fun _ turn => turn.record = prior.opened (seen true false) [] [])
          (fun _ turn => Aligned env catalog envelope turn.record) :=
        .change fun turn opened => record_note opened rfl
      have checked (passed : Bool) : Holds
          (fun turn => turn.record = prior.opened (seen true false) [] [])
          (Procedure.change fun turn =>
            turn.note fun served => { served with checked := passed } : Serves World Unit)
          (fun _ turn => turn.record = prior.opened (seen true passed) [] [])
          (fun _ turn => Aligned env catalog envelope turn.record) :=
        .change fun turn opened => record_note opened rfl
      refine .bind affordable fun _ =>
        .bind (kept_record checkCall_keeps (quiet.checks refusable.name)) fun error =>
        .bind (checked error.isNone) fun _ => ?_
      cases error with
      | some error =>
          have refused : Holds
              (fun turn => turn.record = prior.opened (seen true false) [] [])
              (refuseAndMaybeTerminate env envelope call arguments error) _ _ :=
            refuseAndMaybeTerminate_closed quiet settled offered refusable rfl rfl
          exact refused
      | none =>
          have executed : Holds
              (fun turn => turn.record = prior.opened (seen true true) [] [])
              (executeTool env envelope call arguments tool) _ _ :=
            executeTool_closed quiet settled offered refusable rfl
          exact executed

theorem serveCall_closed (servable : ServableCall env call) :
    Holds (fun turn => Settled env catalog envelope turn.record)
      (serveCall env catalog envelope startedAt call)
      (Closed env catalog envelope) (fun _ turn => Aligned env catalog envelope turn.record) := by
  refine .of_view Turn.record fun prior settled => ?_
  have parsed : Holds (fun turn => turn.record = prior)
      (Procedure.lift (parseArguments env.loads call.arguments call.name) :
        Serves World (PyDict × Option LabAgentError))
      (fun result turn => Refusable call.name result.1 ∧ turn.record = prior)
      (fun _ turn => Aligned env catalog envelope turn.record) :=
    .lift (fun result given _ held => ⟨servable _ _ given, held⟩)
      fun _ _ _ held => held.symm ▸ settled.toAligned
  refine .bind parsed fun result => .of_fact fun refusable => ?_
  have opened (offered : Bool) : Holds (fun turn => turn.record = prior)
      (Procedure.change fun turn => { turn with
        transcript := turn.transcript ++ [.functionCall call.callId call.name call.arguments]
        served := turn.served ++ [⟨call, result.1, offered, false, false, .unstarted⟩] } :
        Serves World Unit)
      (fun _ turn => turn.record =
        prior.opened ⟨call, result.1, offered, false, false, .unstarted⟩ [] [])
      (fun _ turn => Aligned env catalog envelope turn.record) := by
    refine .change fun turn held => ?_
    rw [← held]
    simp [Turn.record, TurnRecord.opened, ServedCall.item]
  refine .bind (opened _) fun _ => ?_
  cases lookup : (offeredTools env catalog envelope.scope.form).lookup call.name with
  | some tool => exact serveOffered_closed quiet settled refusable (by rw [lookup]; rfl)
  | none =>
      have known : (if call.name ∈ catalog.map Prod.fst then
          LabAgentErrorCode.catalogToolNotOffered else .catalogToolUnknown).messages.isSome := by
        split_ifs <;> rfl
      have refused (error : LabAgentError) : Holds (fun turn => turn.record =
            prior.opened ⟨call, result.1, false, false, false, .unstarted⟩ [] [])
          (refuseAndMaybeTerminate env envelope call result.1 error) _ _ :=
        refuseAndMaybeTerminate_closed quiet settled (by rw [lookup]; rfl) refusable rfl rfl
      exact .bind (kept_record (.lift _)
        (lift_returns (refusalError_returns known refusable.name))) fun error => refused error

theorem serve_closed (calls : List FunctionCall) (servable : ∀ call ∈ calls, ServableCall env call) :
    Holds (fun turn => Settled env catalog envelope turn.record)
      (serve env catalog envelope startedAt calls)
      (Closed env catalog envelope) (fun _ turn => Aligned env catalog envelope turn.record) := by
  induction calls with
  | nil => exact .pure fun _ held => held
  | cons call rest ih =>
      refine .bind (serveCall_closed quiet (servable call (by simp))) fun served => ?_
      cases served with
      | some terminal => exact .pure fun _ held => held
      | none => exact ih fun other inside => servable other (List.mem_cons_of_mem _ inside)

end Serve

/-! ## One round -/

section Round

theorem kept_aligned {Result : Type} {body : Serves World Result}
    (keeps : Keeps Turn.record body) :
    Holds (fun turn => Aligned env catalog envelope turn.record) body
      (fun _ turn => Aligned env catalog envelope turn.record)
      (fun _ turn => Aligned env catalog envelope turn.record) :=
  keeps.holds fun _ _ held => held

theorem kept_settled {Result : Type} {body : Serves World Result}
    (keeps : Keeps Turn.record body) :
    Holds (fun turn => Settled env catalog envelope turn.record) body
      (fun _ turn => Settled env catalog envelope turn.record)
      (fun _ turn => Aligned env catalog envelope turn.record) :=
  keeps.holds fun _ _ held => held.toAligned

theorem finish_closed (terminal : LabTurnTerminal) :
    Holds (fun turn => Aligned env catalog envelope turn.record) (finish env terminal)
      (Closed env catalog envelope) (fun _ turn => Aligned env catalog envelope turn.record) :=
  .bind (kept_aligned (emitIf_keeps _)) fun _ => .bind (kept_aligned (emitEvent_keeps _)) fun _ =>
    .bind (kept_aligned (emitEvent_keeps _)) fun _ => .pure fun _ held => held

theorem providerFailed_closed :
    Holds (fun turn => Aligned env catalog envelope turn.record) (providerFailed env)
      (Closed env catalog envelope) (fun _ turn => Aligned env catalog envelope turn.record) :=
  .bind (kept_aligned .read) fun _ => finish_closed _

theorem acceptAnswer_closed {response : Response} :
    Holds (fun turn => Aligned env catalog envelope turn.record)
      (acceptAnswer env response)
      (Closed env catalog envelope) (fun _ turn => Aligned env catalog envelope turn.record) := by
  refine .bind (kept_aligned (.lift _)) fun text => ?_
  dsimp only
  split_ifs
  · exact providerFailed_closed
  · exact .bind (kept_aligned (emitEvent_keeps _)) fun _ =>
      .bind (kept_aligned .read) fun _ => finish_closed _

variable (env) in
/-- The provider never calls a tool in a way that cannot be refused. -/
def ServableProvider : Prop :=
  ∀ request world response calls, (env.invoke request world).1 = .ok response →
    extractFunctionCalls response = .ok calls → ∀ call ∈ calls, ServableCall env call

/-- What is sent is a settled transcript. -/
theorem askProvider_settled (servable : ServableProvider env) :
    Holds (fun turn => Settled env catalog envelope turn.record)
      (askProvider env catalog envelope instructions)
      (fun result turn => (∀ call ∈ result.2, ServableCall env call) ∧
        Settled env catalog envelope turn.record)
      (fun _ turn => Aligned env catalog envelope turn.record) := by
  refine .bind (kept_settled (.lift _)) fun tools => .bind .read fun seen => ?_
  have sent (request : Request) (copied : request.input = seen.transcript) :
      Holds (fun turn => seen = turn ∧ Settled env catalog envelope turn.record)
        (Procedure.change fun turn => { turn with sent := turn.sent ++ [request] } :
          Serves World Unit)
        (fun _ turn => Settled env catalog envelope turn.record)
        (fun _ turn => Aligned env catalog envelope turn.record) := by
    refine .change fun turn ⟨same, settled⟩ => { settled with requests := ?_ }
    intro other inside
    rcases List.mem_append.mp inside with before | last
    · exact settled.requests other before
    · rw [List.mem_singleton.mp last, copied, same]
      exact settled.paired
  have asked (request : Request) :
      Holds (fun turn => Settled env catalog envelope turn.record)
        (Procedure.ask (env.invoke request) : Serves World Response)
        (fun response turn => (∀ calls, extractFunctionCalls response = .ok calls →
          ∀ call ∈ calls, ServableCall env call) ∧ Settled env catalog envelope turn.record)
        (fun _ turn => Aligned env catalog envelope turn.record) :=
    .ask (fun world response given _ held => ⟨(servable request world response · given), held⟩)
      fun _ _ _ _ held => held.toAligned
  refine .bind (sent _ rfl) fun _ => .bind (asked _) fun response => .of_fact fun answers =>
    .bind (kept_settled (.change fun _ => by rfl)) fun _ => .bind (kept_settled (.lift _)) fun _ =>
    .bind (kept_settled (.change fun _ => by rfl)) fun _ => ?_
  have extracted : Holds (fun turn => Settled env catalog envelope turn.record)
      (Procedure.lift (extractFunctionCalls response) : Serves World (List FunctionCall))
      (fun calls turn => (∀ call ∈ calls, ServableCall env call) ∧
        Settled env catalog envelope turn.record)
      (fun _ turn => Aligned env catalog envelope turn.record) :=
    .lift (fun calls given _ held => ⟨answers calls given, held⟩) fun _ _ _ held => held.toAligned
  exact .bind extracted fun _ => .pure fun _ held => held

theorem tryProvider_settled (servable : ServableProvider env) :
    Holds (fun turn => Settled env catalog envelope turn.record)
      (tryProvider env catalog envelope instructions)
      (fun result turn => match result with
        | none => Aligned env catalog envelope turn.record
        | some (_, calls) => (∀ call ∈ calls, ServableCall env call) ∧
            Settled env catalog envelope turn.record)
      (fun _ turn => Aligned env catalog envelope turn.record) := by
  refine .attempt (.bind (askProvider_settled servable) fun answer => .pure fun _ held => held)
    (fun fault rest handled => ?_) fun _ _ _ held => held
  split_ifs at handled
  cases handled
  exact .pure fun _ held => held

/-- A round that goes on leaves a settled record. -/
theorem turnStep_closed {startedAt : Rat} (quiet : Quiet env) (servable : ServableProvider env) :
    Holds (fun turn => Settled env catalog envelope turn.record)
      (turnStep env catalog envelope instructions startedAt)
      (Closed env catalog envelope) (fun _ turn => Aligned env catalog envelope turn.record) := by
  have ended {body : Serves World (Option LabTurnTerminal)}
      (holds : Holds (fun turn => Aligned env catalog envelope turn.record) body
        (Closed env catalog envelope) fun _ turn => Aligned env catalog envelope turn.record) :
      Holds (fun turn => Settled env catalog envelope turn.record) body
        (Closed env catalog envelope) (fun _ turn => Aligned env catalog envelope turn.record) :=
    holds.weaken (fun _ held => held.toAligned) (fun _ _ held => held) fun _ _ held => held
  refine .bind (kept_settled (.ask _)) fun cancelled => ?_
  split_ifs
  · exact .bind (kept_settled .read) fun _ => ended (finish_closed _)
  refine .bind (kept_settled (wallExhausted_keeps _)) fun late => ?_
  split_ifs
  · exact .bind (kept_settled .read) fun _ => ended (finish_closed _)
  refine .bind (kept_settled .read) fun seen => ?_
  split_ifs
  · exact ended (finish_closed _)
  refine .bind (tryProvider_settled servable) fun answer => ?_
  match answer with
  | none => exact providerFailed_closed
  | some (response, []) =>
      exact acceptAnswer_closed.weaken (fun _ held => held.2.toAligned) (fun _ _ held => held)
        fun _ _ held => held
  | some (response, call :: calls) =>
      refine .of_fact fun servable => .bind (serve_closed quiet _ servable) fun served => ?_
      cases served with
      | none => exact .pure fun _ held => held
      | some terminal => exact finish_closed terminal

theorem turnLoop_closed {startedAt : Rat} (quiet : Quiet env) (servable : ServableProvider env)
    (fuel : Nat) :
    Holds (fun turn => Settled env catalog envelope turn.record)
      (turnLoop env catalog envelope instructions startedAt fuel)
      (Closed env catalog envelope) (fun _ turn => Aligned env catalog envelope turn.record) := by
  induction fuel with
  | zero => exact .pure fun _ held => held
  | succ fuel ih =>
      refine .bind (turnStep_closed quiet servable) fun result => ?_
      cases result with
      | some terminal => exact .pure fun _ held => held
      | none => exact ih

theorem initial_settled : Settled env catalog envelope (Turn.initial envelope).record where
  requests := by simp [Turn.record, Turn.initial]
  calls := by
    simp [Turn.record, Turn.initial, functionCalls, List.filterMap_map]
  traced := .nil
  started := rfl
  offered := by simp [Turn.record, Turn.initial]
  paired := paired_messages envelope.history

theorem execute_closed (quiet : Quiet env) (servable : ServableProvider env) (fuel : Nat) :
    Holds (fun turn => Settled env catalog envelope turn.record)
      (execute env catalog envelope instructions fuel)
      (Closed env catalog envelope) (fun _ turn => Aligned env catalog envelope turn.record) := by
  unfold execute
  dsimp only
  split_ifs
  · exact .bind (kept_settled (.ask _)) fun _ => .bind (kept_settled (emitEvent_keeps _)) fun _ =>
      turnLoop_closed quiet servable fuel
  · exact .raise fun _ held => held.toAligned

end Round

namespace Sample

/-- The arguments of a call, with an escaped unpaired surrogate. -/
def surrogateText : String := "\x7b\"a\":\"\\ud800\"\x7d"

/-- `json.loads`, as far as the samples need it. -/
def loads (raw : String) : Except Fault (Option PyValue) :=
  if raw = surrogateText then .ok (some (.dict [(PyStr.ofText "a", .str [0xD800])]))
  else if raw = "\x7b\x7d" then .ok (some (.dict []))
  else .ok none

theorem forbiddenKey_text :
    ∀ key ∈ forbiddenScopeKeys, pathText (PyStr.ofText key) = .ok key := by
  intro key inside
  simp only [forbiddenScopeKeys, List.mem_cons, List.not_mem_nil, or_false] at inside
  rcases inside with rfl | rfl | rfl | rfl | rfl | rfl <;> rfl

/-- A tool without parameters refuses every argument by name. -/
theorem validateSchema_nil {toolName : String} (named : strip toolName ≠ "") (arguments : PyDict) :
    ∃ verdict, validateSchema toolName [] arguments = .ok verdict := by
  have refused (code : LabAgentErrorCode) (known : code.messages.isSome) :
      ∃ verdict, refuseWhen toolName true code [] = .ok verdict := by
    obtain ⟨error, given⟩ := refusalError_returns known named
    exact ⟨some error, by rw [refuseWhen, if_pos rfl, given]; rfl⟩
  unfold validateSchema
  dsimp only
  split
  · next key found =>
      have text := forbiddenKey_text key (List.mem_of_find?_eq_some found)
      obtain ⟨texts, given⟩ : ∃ texts, LabAgentErrorCode.messages .schemaScopeArgumentForbidden =
        some texts := ⟨_, rfl⟩
      refine ⟨some ⟨.schemaScopeArgumentForbidden, texts.1, texts.2, [key], some (strip toolName)⟩, ?_⟩
      rw [refuseWhen, if_pos rfl, refusalError, given]
      simp only [List.mapM_cons, List.mapM_nil, text, nonEmptyText, if_neg named]
      rfl
  · split_ifs
    · exact refused _ rfl
    · exact refused _ rfl

theorem quietEnvironment_quiet (response : Response) :
    Quiet (quietEnvironment loads response) where
  trace _ _ := rfl
  emit _ _ := rfl
  clock _ := ⟨0, rfl⟩
  scope _ _ _ _ := ⟨none, rfl⟩
  classification _ _ _ _ := ⟨none, rfl⟩
  schema _ := ⟨[], rfl, fun _ arguments named => validateSchema_nil named arguments⟩

end Sample

end Evidrun.Lab
