import Evidrun.Database.Ledger
import Evidrun.Lab.Arguments
import Evidrun.Lib.Procedure

/-!
# A turn of the Lab Agent

The bounded loop of one turn (`lab/loop.py`) and the serving of its tool calls
(`lab/serving.py`). The provider, the tools, the policy, the trace sink, the clock, the
cancellation probe and the event sink are a world that answers anything, and any of
them may raise.

`sent`, `started`, `trace` and `served` are history: what was asked of the provider,
which calls reached `tool.execute`, which rows the sink received, and what became of
each call. The loop never reads them.
-/

namespace Evidrun.Lab

open Evidrun.Database (pyStrip)

set_option autoImplicit false

/-! ## Messages -/

inductive Item
  | message (role content : String)
  | functionCall (callId name arguments : String)
  | functionCallOutput (callId : String) (output : PyStr)

structure Request where
  input : List Item
  instructions : String
  tools : List (String × PyDict)
  maxOutputTokens : Nat

structure FunctionCall where
  callId : String
  name : String
  arguments : String
deriving DecidableEq

structure OutputItem where
  type : Option String
  callId : Option String
  name : Option String
  arguments : Option String
  content : List (String × Option String)

/-- A response that has the shape of `_ResponseEnvelope`. -/
structure ResponseEnvelope where
  id : Option String
  outputText : Option String
  output : List OutputItem

structure Usage where
  inputTokens : Nat
  outputTokens : Nat
  totalTokens : Nat

/-- A response; `none` is a document that `_ResponseEnvelope` refuses. -/
structure Response where
  envelope : Option ResponseEnvelope
  usage : Usage

/-- A string that is neither `None` nor empty. -/
def nonEmpty : Option String → Option String
  | some text => if text = "" then none else some text
  | none => none

def ResponseEnvelope.ofResponse (response : Response) : Except Fault ResponseEnvelope :=
  match response.envelope with
  | some envelope => .ok envelope
  | none => .error .valueError

def extractResponseId (response : Response) : Except Fault String := do
  let envelope ← ResponseEnvelope.ofResponse response
  match nonEmpty envelope.id with
  | some id => .ok id
  | none => .error .providerRequestError

def callOf (item : OutputItem) : Except Fault FunctionCall :=
  match nonEmpty item.callId, nonEmpty item.name, item.arguments with
  | some callId, some name, some arguments => .ok ⟨callId, name, arguments⟩
  | _, _, _ => .error .providerRequestError

def extractFunctionCalls (response : Response) : Except Fault (List FunctionCall) := do
  let envelope ← ResponseEnvelope.ofResponse response
  (envelope.output.filter fun item => item.type == some "function_call").mapM callOf

def extractOutputText (response : Response) : Except Fault String := do
  let envelope ← ResponseEnvelope.ofResponse response
  match nonEmpty envelope.outputText with
  | some text => .ok text
  | none => .ok <| String.join <| envelope.output.flatMap fun item =>
      item.content.filterMap fun content =>
        if content.1 = "output_text" || content.1 = "text" then content.2 else none

/-! ## The session -/

inductive SessionForm
  | general | project | focused
deriving DecidableEq

structure SessionScope where
  workspaceId : String
  projectId : Option String
  focus : Option (String × String)

def SessionScope.form (scope : SessionScope) : SessionForm :=
  match scope.focus, scope.projectId with
  | some _, _ => .focused
  | none, some _ => .project
  | none, none => .general

inductive MessageRole
  | human | agent | systemNote

def MessageRole.providerRole : MessageRole → String
  | .human => "user"
  | .agent => "assistant"
  | .systemNote => "developer"

structure Message where
  role : MessageRole
  sequence : Nat
  content : String

structure TurnLimits where
  maxToolCalls : Nat
  maxProviderRoundTrips : Nat
  maxWallSeconds : Nat
  maxRefusals : Nat
  maxOutputTokens : Nat

structure LabAgentEnvelope where
  sessionId : String
  scope : SessionScope
  history : List Message
  offeredTools : List String
  limits : TurnLimits

/-- `max((message.sequence for message in history), default=1)`. -/
def LabAgentEnvelope.turnSequence (envelope : LabAgentEnvelope) : Nat :=
  match envelope.history.map Message.sequence with
  | [] => 1
  | first :: rest => rest.foldl max first

structure ToolContext where
  scope : SessionScope
  sessionId : String
  turnSequence : Nat

def LabAgentEnvelope.context (envelope : LabAgentEnvelope) : ToolContext :=
  ⟨envelope.scope, envelope.sessionId, envelope.turnSequence⟩

/-! ## Terminals, trace and events -/

inductive TerminalName
  | answered | proposed | budgetExhausted | repeatedRefusal | providerFailed | cancelled
deriving DecidableEq

def TerminalName.value : TerminalName → String
  | .answered => "answered"
  | .proposed => "proposed"
  | .budgetExhausted => "budget_exhausted"
  | .repeatedRefusal => "repeated_refusal"
  | .providerFailed => "provider_failed"
  | .cancelled => "cancelled"

inductive TurnBudget
  | toolCalls | roundTrips | wallSeconds | refusals
deriving DecidableEq

structure LabTurnTerminal where
  name : TerminalName
  content : PyStr
  complete : Bool
  error : Option LabAgentError
  budget : Option TurnBudget
  returnedRefs : List String
  providerRoundTrips : Nat
  toolCalls : Nat
  refusals : Nat
  usage : Usage

inductive Outcome
  | completed | failed | refused
deriving DecidableEq

structure TraceRow where
  sessionId : String
  workspaceId : String
  turnSequence : Nat
  toolName : String
  arguments : PyDict
  requestedRefs : List String
  returnedRefs : List String
  outcome : Outcome
  refusalCode : Option String

inductive UiEvent
  | status (label : String)
  | tool (id name status : String) (summary : Option PyStr)
  | message (content : String)
  | error (message : PyStr) (code remediation : Option String)
  | done

/-! ## The world -/

/-- The result of a tool; `content` is its canonical text, unless it has none. -/
structure ToolResult where
  content : Except Fault PyStr
  requestedRefs : List String
  returnedRefs : List String

inductive ToolAnswer
  | returned (result : ToolResult)
  /-- `LabToolRejected`. -/
  | rejected (error : LabAgentError)
  /-- Any other exception. -/
  | raised

structure LabEnvironment (World Tool : Type) where
  /-- `json.loads`; `none` is a `JSONDecodeError`. -/
  loads : String → Except Fault (Option PyValue)
  /-- `canonical_json`. -/
  dumps : PyValue → PyStr
  /-- The SHA-256 digest of a canonical text that has a UTF-8 encoding. -/
  sha256 : PyValue → String
  offers : Tool → SessionForm → Bool
  providerSchema : Tool → Except Fault PyDict
  execute : Tool → PyDict → ToolContext → World → ToolAnswer × World
  checkScope : Tool → PyDict → ToolContext → World → Except Fault (Option LabAgentError) × World
  checkClassification :
    Tool → PyDict → ToolContext → World → Except Fault (Option LabAgentError) × World
  appendToolTrace : TraceRow → World → Except Fault Unit × World
  emit : UiEvent → World → Except Fault Unit × World
  cancelled : World → Except Fault Bool × World
  clock : World → Except Fault Rat × World
  invoke : Request → World → Except Fault Response × World

/-! ## The state of a turn -/

/-- What `tool.execute` did for a call. -/
inductive Ending
  | unstarted | returned | rejected | raised
deriving DecidableEq

def ToolAnswer.ending : ToolAnswer → Ending
  | .returned _ => .returned
  | .rejected _ => .rejected
  | .raised => .raised

/-- What became of a call, as far as it was served. -/
structure ServedCall where
  call : FunctionCall
  arguments : PyDict
  /-- The tool is in the effective catalog. -/
  offered : Bool
  /-- `_deny_budget` let it pass: the call and wall budgets allow it. -/
  affordable : Bool
  /-- The schema, scope and classification checks found no error. -/
  checked : Bool
  ending : Ending

structure Turn where
  transcript : List Item
  providerRoundTrips : Nat
  toolCalls : Nat
  refusals : Nat
  proposed : Bool
  returnedRefs : List String
  refusalDigests : List String
  usage : Usage
  /-- History: the requests sent to the provider. -/
  sent : List Request
  /-- History: the calls for which `tool.execute` was started. -/
  started : List FunctionCall
  /-- History: the rows given to the trace sink. -/
  trace : List TraceRow
  /-- History: the calls put in the transcript. -/
  served : List ServedCall

def Turn.initial (envelope : LabAgentEnvelope) : Turn where
  transcript := envelope.history.map fun item => .message item.role.providerRole item.content
  providerRoundTrips := 0
  toolCalls := 0
  refusals := 0
  proposed := false
  returnedRefs := []
  refusalDigests := []
  usage := ⟨0, 0, 0⟩
  sent := []
  started := []
  trace := []
  served := []

/-- Note something about the call that is being served. -/
def noteLast (note : ServedCall → ServedCall) : List ServedCall → List ServedCall
  | [] => []
  | [last] => [note last]
  | first :: rest => first :: noteLast note rest

def Turn.note (turn : Turn) (note : ServedCall → ServedCall) : Turn :=
  { turn with served := noteLast note turn.served }

def Turn.terminal (turn : Turn) (name : TerminalName) (content : PyStr) (complete : Bool)
    (error : Option LabAgentError) (budget : Option TurnBudget) : LabTurnTerminal where
  name := name
  content := content
  complete := complete
  error := error
  budget := budget
  returnedRefs := turn.returnedRefs
  providerRoundTrips := turn.providerRoundTrips
  toolCalls := turn.toolCalls
  refusals := turn.refusals
  usage := turn.usage

section Serving

variable {World Tool : Type} (env : LabEnvironment World Tool) (catalog : List (String × Tool))
  (envelope : LabAgentEnvelope)

/-- The effective catalog of a form of session, in order of the names. -/
def offeredTools (form : SessionForm) : List (String × Tool) :=
  (catalog.insertionSort fun left right => left.1 ≤ right.1).filter fun entry =>
    env.offers entry.2 form

/-- The state of a turn, with a world that may raise. -/
abbrev Serves (World Result : Type) : Type := Procedure World Turn Fault Result

def appendItem (item : Item) : Serves World Unit :=
  .change fun turn => { turn with transcript := turn.transcript ++ [item] }

def emitEvent (event : UiEvent) : Serves World Unit := .ask (env.emit event)

def appendTrace (row : TraceRow) : Serves World Unit := do
  Procedure.ask (env.appendToolTrace row)
  Procedure.change fun turn => { turn with trace := turn.trace ++ [row] }

/-- A row about a call of this turn. -/
def traceRow (toolName : String) (arguments : PyDict) (outcome : Outcome) : TraceRow where
  sessionId := envelope.sessionId
  workspaceId := envelope.scope.workspaceId
  turnSequence := envelope.turnSequence
  toolName := toolName
  arguments := arguments
  requestedRefs := []
  returnedRefs := []
  outcome := outcome
  refusalCode := none

def appendRefusalTrace (toolName : String) (arguments : PyDict) (error : LabAgentError) :
    Serves World Unit :=
  appendTrace env
    { traceRow envelope toolName arguments .refused with refusalCode := some error.code.value }

/-! ## Refusals -/

/-- `sha256_json`, which raises when the document has no UTF-8 encoding. -/
def sha256Json (document : PyValue) : Except Fault String :=
  if document.encodable then .ok (env.sha256 document) else .error .valueError

def refusalDocument (call : FunctionCall) (arguments : PyDict) (error : LabAgentError) : PyValue :=
  .dict [(PyStr.ofText "tool_name", .str (PyStr.ofText call.name)),
    (PyStr.ofText "arguments", .dict arguments),
    (PyStr.ofText "refusal_code", .str (PyStr.ofText error.code.value))]

/-- Record a refusal and detect an exact repetition. -/
def refuse (call : FunctionCall) (arguments : PyDict) (error : LabAgentError) :
    Serves World (Option LabTurnTerminal) := do
  Procedure.change fun turn => { turn with refusals := turn.refusals + 1 }
  let digest ← Procedure.lift (sha256Json env (refusalDocument call arguments error))
  let repeated := decide (digest ∈ (← Procedure.read).refusalDigests)
  Procedure.change fun turn => { turn with refusalDigests := digest :: turn.refusalDigests }
  appendRefusalTrace env envelope call.name arguments error
  let output := env.dumps (.dict [(PyStr.ofText "error", errorPayload error)])
  appendItem (.functionCallOutput call.callId output)
  let turn ← Procedure.read
  if repeated then return some (turn.terminal .repeatedRefusal output false (some error) none)
  else return none

def refuseAndMaybeTerminate (call : FunctionCall) (arguments : PyDict) (error : LabAgentError) :
    Serves World (Option LabTurnTerminal) := do
  match ← refuse env envelope call arguments error with
  | some terminal => return some terminal
  | none => do
      let turn ← Procedure.read
      if envelope.limits.maxRefusals ≤ turn.refusals then
        return some (turn.terminal .budgetExhausted [] false (some error) (some .refusals))
      else return none

/-! ## Budgets -/

def wallExhausted (startedAt : Rat) : Serves World Bool := do
  let now ← Procedure.ask env.clock
  return decide (now - startedAt ≥ envelope.limits.maxWallSeconds)

/-- Deny a call that a budget of the turn does not allow, after it was traced. -/
def denyBudget (startedAt : Rat) (call : FunctionCall) (arguments : PyDict) :
    Serves World (Option LabTurnTerminal) := do
  let turn ← Procedure.read
  let late ← wallExhausted env envelope startedAt
  let deny (code : LabAgentErrorCode) (budget : TurnBudget) :
      Serves World (Option LabTurnTerminal) := do
    let error ← Procedure.lift (refusalError code call.name [])
    appendRefusalTrace env envelope call.name arguments error
    let turn ← Procedure.read
    return some (turn.terminal .budgetExhausted [] false (some error) (some budget))
  if envelope.limits.maxToolCalls < turn.toolCalls then deny .budgetToolCallsExhausted .toolCalls
  else if late then deny .budgetWallTimeExhausted .wallSeconds
  else return none

/-! ## Execution -/

def toolFailedContent : PyStr := PyStr.ofText "A tool não devolveu um resultado utilizável."

def cancelledAfterWork : PyStr := PyStr.ofText "Turno cancelado após registrar o trabalho parcial."

/-- `tool.execute`, with the call noted as started and with how it ended. -/
def startTool (call : FunctionCall) (tool : Tool) (arguments : PyDict) :
    Serves World ToolAnswer := do
  Procedure.change fun turn => { turn with started := turn.started ++ [call] }
  let answer ← Procedure.ask fun world =>
    let (answer, world) := env.execute tool arguments envelope.context world
    (.ok answer, world)
  Procedure.change fun turn => turn.note fun served => { served with ending := answer.ending }
  return answer

/-- Trace and answer a call whose tool returned. -/
def completeCall (call : FunctionCall) (arguments : PyDict) (result : ToolResult) :
    Serves World (Option LabTurnTerminal) := do
  appendTrace env { traceRow envelope call.name arguments .completed with
    requestedRefs := result.requestedRefs
    returnedRefs := result.returnedRefs }
  Procedure.change fun turn => { turn with
    returnedRefs := turn.returnedRefs ++ result.returnedRefs
    proposed := turn.proposed || call.name == "propose_draft" }
  let output ← Procedure.lift result.content
  appendItem (.functionCallOutput call.callId output)
  emitEvent env (.tool call.callId call.name "completed" (some output))
  if ← Procedure.ask env.cancelled then
    let turn ← Procedure.read
    return some (turn.terminal .cancelled cancelledAfterWork false none none)
  else return none

/-- Execute an approved call; a terminal is returned only if the turn ends. -/
def executeTool (call : FunctionCall) (arguments : PyDict) (tool : Tool) :
    Serves World (Option LabTurnTerminal) := do
  emitEvent env (.tool call.callId call.name "running" (some (env.dumps (.dict arguments))))
  match ← startTool env envelope call tool arguments with
  | .rejected error => do
      emitEvent env (.tool call.callId call.name "failed" none)
      refuseAndMaybeTerminate env envelope call arguments error
  | .raised => do
      appendTrace env (traceRow envelope call.name arguments .failed)
      emitEvent env (.tool call.callId call.name "failed" none)
      let turn ← Procedure.read
      return some (turn.terminal .providerFailed toolFailedContent false none none)
  | .returned result => completeCall env envelope call arguments result

/-! ## Serving the calls of a response -/

/-- `error or validate_schema(…)`. -/
def checkSchema (call : FunctionCall) (arguments : PyDict) (tool : Tool) :
    Option LabAgentError → Serves World (Option LabAgentError)
  | some error => return some error
  | none => do
      let schema ← Procedure.lift (env.providerSchema tool)
      Procedure.lift (validateSchema call.name schema arguments)

/-- The next check, unless there is an error already. -/
def orCheck (next : Serves World (Option LabAgentError)) :
    Option LabAgentError → Serves World (Option LabAgentError)
  | some error => return some error
  | none => next

/-- The schema, scope and classification of an affordable call, in this order. -/
def checkCall (call : FunctionCall) (arguments : PyDict) (parseError : Option LabAgentError)
    (tool : Tool) : Serves World (Option LabAgentError) := do
  let error ← checkSchema env call arguments tool parseError
  let error ← orCheck (.ask (env.checkScope tool arguments envelope.context)) error
  orCheck (.ask (env.checkClassification tool arguments envelope.context)) error

/-- A call of the effective catalog. -/
def serveOffered (startedAt : Rat) (call : FunctionCall) (arguments : PyDict)
    (parseError : Option LabAgentError) (tool : Tool) :
    Serves World (Option LabTurnTerminal) := do
  Procedure.change fun turn => { turn with toolCalls := turn.toolCalls + 1 }
  let denied ← denyBudget env envelope startedAt call arguments
  Procedure.change fun turn => turn.note fun served => { served with affordable := denied.isNone }
  match denied with
  | some terminal => return some terminal
  | none => do
      let error ← checkCall env envelope call arguments parseError tool
      Procedure.change fun turn => turn.note fun served => { served with checked := error.isNone }
      match error with
      | some error => refuseAndMaybeTerminate env envelope call arguments error
      | none => executeTool env envelope call arguments tool

def serveCall (startedAt : Rat) (call : FunctionCall) : Serves World (Option LabTurnTerminal) := do
  let (arguments, parseError) ← Procedure.lift (parseArguments env.loads call.arguments call.name)
  let tool := (offeredTools env catalog envelope.scope.form).lookup call.name
  Procedure.change fun turn => { turn with
    transcript := turn.transcript ++ [.functionCall call.callId call.name call.arguments]
    served := turn.served ++ [⟨call, arguments, tool.isSome, false, false, .unstarted⟩] }
  match tool with
  | some tool => serveOffered env envelope startedAt call arguments parseError tool
  | none => do
      let code := if call.name ∈ catalog.map Prod.fst then
          LabAgentErrorCode.catalogToolNotOffered else .catalogToolUnknown
      let error ← Procedure.lift (refusalError code call.name [])
      refuseAndMaybeTerminate env envelope call arguments error

/-- Serve the calls in order until one ends the turn. -/
def serve (startedAt : Rat) : List FunctionCall → Serves World (Option LabTurnTerminal)
  | [] => return none
  | call :: rest => do
      match ← serveCall env catalog envelope startedAt call with
      | some terminal => return some terminal
      | none => serve startedAt rest

/-! ## The loop -/

variable (instructions : String)

def unusableContent : PyStr := PyStr.ofText "O provider não devolveu uma resposta utilizável."

def cancelledContent : PyStr := PyStr.ofText "Turno cancelado; o trabalho exibido é parcial."

/-- The error that the human sees, if the turn ended with one. -/
def finishError (terminal : LabTurnTerminal) : Option UiEvent :=
  match terminal.error with
  | some error => some
      (.error (PyStr.ofText error.message) (some error.code.value) (some error.remediation))
  | none =>
      if terminal.name = .providerFailed then some (.error terminal.content none none) else none

def emitIf : Option UiEvent → Serves World Unit
  | some event => emitEvent env event
  | none => return ()

/-- Tell the event sink how the turn ended. -/
def finish (terminal : LabTurnTerminal) : Serves World (Option LabTurnTerminal) := do
  emitIf env (finishError terminal)
  emitEvent env (.status terminal.name.value)
  emitEvent env .done
  return some terminal

def providerFailed : Serves World (Option LabTurnTerminal) := do
  let turn ← Procedure.read
  finish env (turn.terminal .providerFailed unusableContent false none none)

def requestTools : List (String × Tool) → Except Fault (List (String × PyDict)) :=
  List.mapM fun entry => do .ok (entry.1, ← env.providerSchema entry.2)

/-- One request, with the calls of its response. -/
def askProvider : Serves World (Response × List FunctionCall) := do
  let tools ← Procedure.lift (requestTools env (offeredTools env catalog envelope.scope.form))
  let turn ← Procedure.read
  let request : Request := ⟨turn.transcript, instructions, tools, envelope.limits.maxOutputTokens⟩
  Procedure.change fun turn => { turn with sent := turn.sent ++ [request] }
  let response ← Procedure.ask (env.invoke request)
  Procedure.change fun turn => { turn with providerRoundTrips := turn.providerRoundTrips + 1 }
  let _ ← Procedure.lift (extractResponseId response)
  Procedure.change fun turn => { turn with usage :=
    ⟨turn.usage.inputTokens + response.usage.inputTokens,
      turn.usage.outputTokens + response.usage.outputTokens,
      turn.usage.totalTokens + response.usage.totalTokens⟩ }
  let calls ← Procedure.lift (extractFunctionCalls response)
  return (response, calls)

/-- `except ProviderRequestError, ValueError, TypeError, KeyError`. -/
def isProviderFault : Fault → Bool
  | .providerRequestError | .valueError | .typeError | .keyError => true
  | .other _ => false

/-- The answer of a response without calls. -/
def acceptAnswer (response : Response) : Serves World (Option LabTurnTerminal) := do
  let text := pyStrip (← Procedure.lift (extractOutputText response))
  if text = "" then providerFailed env
  else
    emitEvent env (.message text)
    let turn ← Procedure.read
    let name := if turn.proposed then TerminalName.proposed else .answered
    finish env (turn.terminal name (PyStr.ofText text) true none none)

/-- The response, unless the provider gave none that can be used. -/
def tryProvider : Serves World (Option (Response × List FunctionCall)) :=
  .attempt (do return some (← askProvider env catalog envelope instructions)) fun fault =>
    if isProviderFault fault then some (return none) else none

/-- One round of the loop; without a terminal there is another. -/
def turnStep (startedAt : Rat) : Serves World (Option LabTurnTerminal) := do
  if ← Procedure.ask env.cancelled then
    let turn ← Procedure.read
    finish env (turn.terminal .cancelled cancelledContent false none none)
  else if ← wallExhausted env envelope startedAt then
    let turn ← Procedure.read
    finish env (turn.terminal .budgetExhausted [] false none (some .wallSeconds))
  else
    let turn ← Procedure.read
    if envelope.limits.maxProviderRoundTrips ≤ turn.providerRoundTrips then
      finish env (turn.terminal .budgetExhausted [] false none (some .roundTrips))
    else
      match ← tryProvider env catalog envelope instructions with
      | none => providerFailed env
      | some (response, []) => acceptAnswer env response
      | some (_, calls) => do
          match ← serve env catalog envelope startedAt calls with
          | some terminal => finish env terminal
          | none => return none

/-- `while True`, for as many rounds as there is fuel. -/
def turnLoop (startedAt : Rat) : Nat → Serves World (Option LabTurnTerminal)
  | 0 => return none
  | fuel + 1 => do
      match ← turnStep env catalog envelope instructions startedAt with
      | some terminal => return some terminal
      | none => turnLoop startedAt fuel

/-- The same set of names. -/
def sameNames (left right : List String) : Bool :=
  left.all (· ∈ right) && right.all (· ∈ left)

/-- `LabAgentLoop.execute`; without a terminal the fuel was not enough. -/
def execute (fuel : Nat) : Serves World (Option LabTurnTerminal) := do
  let effective := (offeredTools env catalog envelope.scope.form).map Prod.fst
  if sameNames envelope.offeredTools effective then
    let startedAt ← Procedure.ask env.clock
    emitEvent env (.status "working")
    turnLoop env catalog envelope instructions startedAt fuel
  else Procedure.raise .valueError

end Serving

/-! ## What a step leaves alone -/

section Keeps

variable {World Tool View : Type} {env : LabEnvironment World Tool} {envelope : LabAgentEnvelope}
  {view : Turn → View}

theorem emitEvent_keeps (event : UiEvent) : Procedure.Keeps view (emitEvent env event) := .ask _

theorem emitIf_keeps (event : Option UiEvent) : Procedure.Keeps view (emitIf env event) := by
  cases event with
  | some event => exact emitEvent_keeps event
  | none => exact .pure _

theorem wallExhausted_keeps (startedAt : Rat) :
    Procedure.Keeps view (wallExhausted env envelope startedAt) :=
  .bind (.ask _) fun _ => .pure _

theorem orCheck_keeps {next : Serves World (Option LabAgentError)}
    (checked : Procedure.Keeps view next) (error : Option LabAgentError) :
    Procedure.Keeps view (orCheck next error) := by
  cases error with
  | some error => exact .pure _
  | none => exact checked

theorem checkCall_keeps {call : FunctionCall} {arguments : PyDict}
    {parseError : Option LabAgentError} {tool : Tool} :
    Procedure.Keeps view (checkCall env envelope call arguments parseError tool) := by
  refine .bind ?_ fun error =>
    .bind (orCheck_keeps (.ask _) error) fun error => orCheck_keeps (.ask _) error
  cases parseError with
  | some error => exact .pure _
  | none => exact .bind (.lift _) fun _ => .lift _

end Keeps

/-! ## A quiet world -/

namespace Sample

/-- Nothing raises, nothing is cancelled, no time passes, and the provider always sends the
same response. -/
def quietEnvironment (loads : String → Except Fault (Option PyValue)) (response : Response) :
    LabEnvironment Unit Unit where
  loads := loads
  dumps _ := []
  sha256 _ := ""
  offers _ _ := true
  providerSchema _ := .ok []
  execute _ _ _ world := (.raised, world)
  checkScope _ _ _ world := (.ok none, world)
  checkClassification _ _ _ world := (.ok none, world)
  appendToolTrace _ world := (.ok (), world)
  emit _ world := (.ok (), world)
  cancelled world := (.ok false, world)
  clock world := (.ok 0, world)
  invoke _ world := (.ok response, world)

def envelope : LabAgentEnvelope where
  sessionId := "s"
  scope := ⟨"w", none, none⟩
  history := []
  offeredTools := []
  limits := ⟨1, 1, 1, 1, 1⟩

def callItem (name arguments : String) : OutputItem where
  type := some "function_call"
  callId := some "c"
  name := some name
  arguments := some arguments
  content := []

/-- A response that calls one tool. -/
def callResponse (name arguments : String) : Response where
  envelope := some ⟨some "r", none, [callItem name arguments]⟩
  usage := ⟨0, 0, 0⟩

end Sample

end Evidrun.Lab
