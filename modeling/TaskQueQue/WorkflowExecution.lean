import TaskQueQue.LabelledRuns
import TaskQueQue.ResultReferences

/-!
# The execution of a workflow

The workflow worker submits the steps of a definition as tasks of their own, each
once the steps it depends on are completed, and polls the tasks it has submitted
until all are.

An execution is written as what it does from one `await` to the next: `Await` says
what it waits for, with the entries of the loop it is in that are still to come. What
it is answered, and when, is up to the gateway and the clock.
-/

namespace WorkflowExecution

open GatewayValues WorkflowDefinition ResultReferences

/-! ### Faults -/

/-- What an execution throws, by the place that throws it. -/
inductive ExecutionFault
  | invalidTaskId
  | definition (error : WorkflowError)
  | configuration (message : String)
  | requestFailed (reason : String)
  | invalidJson
  | nonObject
  | refused (stepId : String)
  | notEnqueued (stepId : String) (status : Nat)
  | invalidChild
  | notQueried (taskId : Int)
  | invalidSnapshot (taskId : Int)
  | notDurable (sourceId : String)
  | badReference (stepId message : String)
  | unreadable (stepId message : String)
  | overtime
  | childFailed (stepId : String)
  | lostChild

def errorMessage : WorkflowError → String
  | .payload message | .execution message => message
  | .unfinished => ""

def ExecutionFault.message : ExecutionFault → String
  | .invalidTaskId => "workflow task id must be a positive safe integer"
  | .definition error => errorMessage error
  | .configuration message => message
  | .requestFailed reason => "gateway request failed: " ++ reason
  | .invalidJson => "gateway returned invalid JSON"
  | .nonObject => "gateway returned a non-object response"
  | .refused stepId => "gateway rejected workflow step " ++ stepId
  | .notEnqueued stepId status =>
    "gateway could not enqueue workflow step " ++ stepId ++ ": HTTP " ++ toString status
  | .invalidChild => "gateway returned an invalid child task response"
  | .notQueried taskId => "gateway could not query child task " ++ toString taskId
  | .invalidSnapshot taskId => "gateway returned an invalid child snapshot for " ++ toString taskId
  | .notDurable sourceId => "workflow result source " ++ sourceId ++ " is not durably completed"
  | .badReference stepId message | .unreadable stepId message =>
    "workflow step " ++ stepId ++ ": " ++ message
  | .overtime => "workflow exceeded configured maximum run time"
  | .childFailed stepId => "workflow child step " ++ stepId ++ " failed"
  | .lostChild => "workflow runtime lost a completed child task"

/-- A resolution's refusal, as the step's. -/
def referenceFault (stepId : String) : ResolutionError → ExecutionFault
  | .reference message => .badReference stepId message
  | .read message => .unreadable stepId message
  | .configuration message => .configuration message

/-! ### The configuration -/

structure WorkflowGatewayConfig where
  origin : String
  bearerToken : String
  requestTimeoutMs : ℚ
  pollMs : ℚ
  maxRunMs : ℚ
  resultOrigin : Option String := none

structure ValidatedWorkflowGatewayConfig where
  origin : String
  bearerToken : String
  requestTimeoutMs : ℚ
  pollMs : ℚ
  maxRunMs : ℚ
  resultOrigin : String

def normalizeWorkflowGatewayOrigin (platform : Platform) (raw : String) :
    Except ExecutionFault String :=
  match platform.newUrl raw with
  | none => .error (.configuration "Invalid URL")
  | some url =>
    let loopback := ["127.0.0.1", "localhost", "[::1]", "::1"].contains
      (String.ofList (url.hostname.toList.map Char.toLower))
    if url.protocol ≠ "http:" ∨ loopback = false then
      .error (.configuration "WORKFLOW_GATEWAY_ORIGIN must be a loopback http origin")
    else if url.username ≠ "" ∨ url.password ≠ "" ∨ url.search ≠ "" ∨ url.hash ≠ "" ∨
        (url.pathname ≠ "" ∧ url.pathname ≠ "/") then
      .error (.configuration "WORKFLOW_GATEWAY_ORIGIN must contain only scheme, host, and port")
    else .ok url.origin

def between (value low high : ℚ) : Bool := decide (value.den = 1 ∧ low ≤ value ∧ value ≤ high)

def validateWorkflowGatewayConfig (platform : Platform) (config : WorkflowGatewayConfig) :
    Except ExecutionFault ValidatedWorkflowGatewayConfig :=
  match normalizeWorkflowGatewayOrigin platform config.origin with
  | .error fault => .error fault
  | .ok origin =>
    match normalizeWorkflowResultOrigin platform
        (config.resultOrigin.getD "http://127.0.0.1:7331") with
    | .error error => .error (referenceFault "" error)
    | .ok resultOrigin =>
      if config.bearerToken = "" ∨ 4096 < utf16Length config.bearerToken ∨
          config.bearerToken.toList.any fun c => c == '\r' || c == '\n' then
        .error (.configuration "WORKFLOW_GATEWAY_API_TOKEN is invalid")
      else if !between config.requestTimeoutMs 100 60000 then
        .error (.configuration
          "WORKFLOW_GATEWAY_REQUEST_TIMEOUT_MS must be between 100 and 60000")
      else if !between config.pollMs 25 60000 then
        .error (.configuration "WORKFLOW_POLL_MS must be between 25 and 60000")
      else if !between config.maxRunMs 1000 86400000 then
        .error (.configuration "WORKFLOW_MAX_RUN_MS must be between 1000 and 86400000")
      else
        .ok { origin, resultOrigin, bearerToken := config.bearerToken
              requestTimeoutMs := config.requestTimeoutMs, pollMs := config.pollMs
              maxRunMs := config.maxRunMs }

/-! ### Calls of the gateway -/

structure Reply where
  status : Nat
  text : String

/-- What `fetch` and the reading of its response come to: a reply, or why there is none. -/
abbrev Answer := Except String Reply

def gatewayJson (platform : Platform) (answer : Answer) : Except ExecutionFault (Nat × Json) :=
  match answer with
  | .error reason => .error (.requestFailed reason)
  | .ok reply =>
    match platform.parse reply.text with
    | none => .error .invalidJson
    | some (.obj fields) => .ok (reply.status, .obj fields)
    | some _ => .error .nonObject

def childIdempotencyKey (workflowTaskId : Int) (stepId : String) : String :=
  "wf-" ++ toString workflowTaskId ++ "-" ++ stepId

/-- A submission of a child task, apart from the headers all of them have. -/
structure Submission where
  idempotencyKey : String
  body : String
deriving DecidableEq

def childSubmission (platform : Platform) (workflowTaskId : Int) (step : WorkflowStep)
    (payload : Json) : Submission where
  idempotencyKey := childIdempotencyKey workflowTaskId step.id
  body := platform.stringify (.obj ([("type", .str step.type), ("payload", payload)] ++
    (step.priority.toList.map fun n => ("priority", .num n)) ++
    step.maxRetries.toList.map fun n => ("max_retries", .num n)))

/-- `enqueueChild`, from the answer on. -/
def enqueueChild (platform : Platform) (step : WorkflowStep) (answer : Answer) :
    Except ExecutionFault (Int × Bool) :=
  match gatewayJson platform answer with
  | .error fault => .error fault
  | .ok (status, body) =>
    if status = 400 ∨ status = 413 ∨ status = 422 then .error (.refused step.id)
    else if status ≠ 202 then .error (.notEnqueued step.id status)
    else
      match Json.safeInteger? (body.field "task_id"), body.field "status",
          body.field "replayed" with
      | some taskId, some (.str status), some (.bool replayed) =>
        if taskId ≤ 0 ∨ status ≠ "PENDING" then .error .invalidChild else .ok (taskId, replayed)
      | _, _, _ => .error .invalidChild

inductive StepStatus
  | waiting
  | pending
  | assigned
  | running
  | completed
  | failed
deriving DecidableEq

/-- The statuses a child's snapshot may have. -/
def SNAPSHOT_STATUSES : List (String × StepStatus) :=
  [("PENDING", .pending), ("ASSIGNED", .assigned), ("RUNNING", .running),
    ("COMPLETED", .completed), ("FAILED", .failed)]

/-- `getChild`, from the answer on. -/
def getChild (platform : Platform) (taskId : Int) (expectedTaskName : String) (answer : Answer) :
    Except ExecutionFault StepStatus :=
  match gatewayJson platform answer with
  | .error fault => .error fault
  | .ok (status, body) =>
    if status ≠ 200 then .error (.notQueried taskId)
    else
      match body.field "task_name", body.field "status" with
      | some (.str taskName), some (.str status) =>
        if Json.safeInteger? (body.field "id") ≠ some taskId ∨ taskName ≠ expectedTaskName then
          .error (.invalidSnapshot taskId)
        else
          match SNAPSHOT_STATUSES.lookup status with
          | some status => .ok status
          | none => .error (.invalidSnapshot taskId)
      | _, _ => .error (.invalidSnapshot taskId)

/-! ### The runtime -/

structure RuntimeStep where
  step : WorkflowStep
  taskId : Option Int
  status : StepStatus

/-- The entries in the order of the definition. -/
abbrev RuntimeMap := List RuntimeStep

def entryOf (runtime : RuntimeMap) (id : String) : Option RuntimeStep :=
  runtime.find? fun entry => decide (entry.step.id = id)

def setEntry (runtime : RuntimeMap) (id : String) (taskId : Option Int) (status : StepStatus) :
    RuntimeMap :=
  runtime.map fun entry =>
    if entry.step.id = id then { entry with taskId, status } else entry

def initialRuntime (steps : List WorkflowStep) : RuntimeMap :=
  steps.map fun step => ⟨step, none, .waiting⟩

def completedIn (runtime : RuntimeMap) (id : String) : Bool :=
  (entryOf runtime id).any fun entry => decide (entry.status = .completed)

/-- The loop of `availableAncestorTaskIds`. -/
def ancestorTaskIds (runtime : RuntimeMap) :
    List String → Except ExecutionFault (List (String × Int))
  | [] => .ok []
  | ancestorId :: rest =>
    match entryOf runtime ancestorId with
    | some ⟨_, some taskId, .completed⟩ =>
      match ancestorTaskIds runtime rest with
      | .error fault => .error fault
      | .ok sources => .ok ((ancestorId, taskId) :: sources)
    | _ => .error (.notDurable ancestorId)

def availableAncestorTaskIds (step : WorkflowStep) (steps : List WorkflowStep)
    (runtime : RuntimeMap) : Except ExecutionFault (List (String × Int)) :=
  ancestorTaskIds runtime (ancestorsOf step.id steps)

structure CompletedStep where
  id : String
  type : String
  taskId : Int
deriving DecidableEq

structure WorkflowResult where
  workflowTaskId : Int
  steps : List CompletedStep
deriving DecidableEq

/-- The steps of the result. -/
def completedSteps (runtime : RuntimeMap) :
    List WorkflowStep → Except ExecutionFault (List CompletedStep)
  | [] => .ok []
  | step :: rest =>
    match entryOf runtime step.id with
    | some ⟨_, some taskId, .completed⟩ =>
      match completedSteps runtime rest with
      | .error fault => .error fault
      | .ok steps => .ok (⟨step.id, step.type, taskId⟩ :: steps)
    | _ => .error .lostChild

/-! ### From one `await` to the next -/

structure Workflow where
  taskId : Int
  steps : List WorkflowStep
  config : ValidatedWorkflowGatewayConfig

/-- What an execution waits for: the next round, the snapshot of a child, the payload of a
step, the answer to its submission. -/
inductive Await
  | round
  | child (current : WorkflowStep) (taskId : Int) (rest : List WorkflowStep)
  | payload (current : WorkflowStep) (sources : List (String × Int)) (call : Pending)
      (shared : Shared) (rest : List WorkflowStep)
  | submission (current : WorkflowStep) (rest : List WorkflowStep)
  | returned (result : WorkflowResult)
  | thrown (fault : ExecutionFault)

structure Machine where
  runtime : RuntimeMap
  await : Await

section Execution
variable (platform : Platform) (w : Workflow)

/-- The end of a round. -/
def conclude (runtime : RuntimeMap) : Machine :=
  if runtime.all fun entry => decide (entry.status = .completed) then
    match completedSteps runtime w.steps with
    | .error fault => ⟨runtime, .thrown fault⟩
    | .ok steps => ⟨runtime, .returned ⟨w.taskId, steps⟩⟩
  else ⟨runtime, .round⟩

/-- `resolveStepPayload` up to its first `await`. -/
def resolveStepPayload (runtime : RuntimeMap) (step : WorkflowStep) :
    Except ExecutionFault (List (String × Int) × Pending × Shared) :=
  match availableAncestorTaskIds step w.steps runtime with
  | .error fault => .error fault
  | .ok sources =>
    match start platform ⟨w.config.resultOrigin, w.config.requestTimeoutMs⟩ sources
        step.payload with
    | .error error => .error (referenceFault step.id error)
    | .ok (call, shared) => .ok (sources, call, shared)

/-- The second loop of a round, over the entries to come. -/
def submitFrom (runtime : RuntimeMap) : List WorkflowStep → Machine
  | [] => conclude w runtime
  | current :: rest =>
    match entryOf runtime current.id with
    | some ⟨step, none, _⟩ =>
      if !step.dependsOn.all (completedIn runtime) then submitFrom runtime rest
      else
        match resolveStepPayload platform w runtime step with
        | .error fault => ⟨runtime, .thrown fault⟩
        | .ok (sources, call, shared) => ⟨runtime, .payload step sources call shared rest⟩
    | some ⟨_, some _, _⟩ | none => submitFrom runtime rest

/-- The first loop of a round, over the entries to come. -/
def pollFrom (runtime : RuntimeMap) : List WorkflowStep → Machine
  | [] => submitFrom platform w runtime w.steps
  | current :: rest =>
    match entryOf runtime current.id with
    | some ⟨step, some taskId, status⟩ =>
      if status = .completed then pollFrom runtime rest else ⟨runtime, .child step taskId rest⟩
    | some ⟨_, none, _⟩ | none => pollFrom runtime rest

def beginRound (runtime : RuntimeMap) (elapsedMs : ℚ) : Machine :=
  if w.config.maxRunMs < elapsedMs then ⟨runtime, .thrown .overtime⟩
  else pollFrom platform w runtime w.steps

def afterPoll (runtime : RuntimeMap) (current : WorkflowStep) (taskId : Int)
    (rest : List WorkflowStep) (answer : Answer) : Machine :=
  match getChild platform taskId current.type answer with
  | .error fault => ⟨runtime, .thrown fault⟩
  | .ok status =>
    let runtime := setEntry runtime current.id (some taskId) status
    if status = .failed then ⟨runtime, .thrown (.childFailed current.id)⟩
    else pollFrom platform w runtime rest

def afterSubmission (runtime : RuntimeMap) (current : WorkflowStep) (rest : List WorkflowStep)
    (answer : Answer) : Machine :=
  match enqueueChild platform current answer with
  | .error fault => ⟨runtime, .thrown fault⟩
  | .ok (taskId, _) =>
    submitFrom platform w (setEntry runtime current.id (some taskId) .pending) rest

end Execution

/-- `executeWorkflow` up to its first round. -/
def executeWorkflow (platform : Platform) (workflowTaskId : Int) (rawPayload : String)
    (rawConfig : WorkflowGatewayConfig) : Except ExecutionFault (Workflow × Machine) :=
  if 9007199254740991 < workflowTaskId ∨ workflowTaskId ≤ 0 then .error .invalidTaskId
  else
    match parseWorkflowDefinition platform.toRuntime rawPayload with
    | .error error => .error (.definition error)
    | .ok definition =>
      match validateWorkflowGatewayConfig platform rawConfig with
      | .error fault => .error fault
      | .ok config =>
        .ok (⟨workflowTaskId, definition.steps, config⟩, ⟨initialRuntime definition.steps, .round⟩)

/-! ### Steps -/

inductive Event
  | clock (elapsedMs : ℚ)
  | polled (stepId : String) (taskId : Int) (answer : Answer)
  | resolving
  | submitted (stepId : String) (submission : Submission)
  | answered (stepId : String) (answer : Answer)

mutual

/-- The errors a promise can be rejected with: of the entries of an array, any that was. -/
def errors : Pending → List ResolutionError
  | .rejected error => [error]
  | .all calls => errorsOf calls
  | .assigning _ _ call _ _ => errors call
  | .settled _ | .fetching _ _ => []

def errorsOf : List Pending → List ResolutionError
  | [] => []
  | call :: calls => errors call ++ errorsOf calls

end

/-- What an execution does next. While a payload is resolved, the results that are read
are those of some projections the result API may show. -/
inductive Step (platform : Platform) (w : Workflow) (shown : (Int → Fields) → Prop) :
    Machine → Event → Machine → Prop
  | clock (runtime : RuntimeMap) (elapsedMs : ℚ) :
      Step platform w shown ⟨runtime, .round⟩ (.clock elapsedMs)
        (beginRound platform w runtime elapsedMs)
  | polled (runtime : RuntimeMap) (current : WorkflowStep) (taskId : Int)
      (rest : List WorkflowStep) (answer : Answer) :
      Step platform w shown ⟨runtime, .child current taskId rest⟩
        (.polled current.id taskId answer) (afterPoll platform w runtime current taskId rest answer)
  | resolving {runtime : RuntimeMap} {current : WorkflowStep} {sources : List (String × Int)}
      {call call' : Pending} {s s' : Shared} {rest : List WorkflowStep}
      {projections : Int → Fields} (stored : shown projections)
      (step : ResultReferences.Step sources projections call s call' s') :
      Step platform w shown ⟨runtime, .payload current sources call s rest⟩ .resolving
        ⟨runtime, .payload current sources call' s' rest⟩
  | rejected {runtime : RuntimeMap} {current : WorkflowStep} {sources : List (String × Int)}
      {call : Pending} {s : Shared} {rest : List WorkflowStep} {error : ResolutionError}
      (mem : error ∈ errors call) :
      Step platform w shown ⟨runtime, .payload current sources call s rest⟩ .resolving
        ⟨runtime, .thrown (referenceFault current.id error)⟩
  | oversized {runtime : RuntimeMap} {current : WorkflowStep} {sources : List (String × Int)}
      {call : Pending} {s : Shared} {rest : List WorkflowStep} {value : Json}
      {error : ResolutionError} (done : call.value? = some value)
      (refused : finish platform value = .error error) :
      Step platform w shown ⟨runtime, .payload current sources call s rest⟩ .resolving
        ⟨runtime, .thrown (referenceFault current.id error)⟩
  | submitted {runtime : RuntimeMap} {current : WorkflowStep} {sources : List (String × Int)}
      {call : Pending} {s : Shared} {rest : List WorkflowStep} {value payload : Json}
      (done : call.value? = some value) (fits : finish platform value = .ok payload) :
      Step platform w shown ⟨runtime, .payload current sources call s rest⟩
        (.submitted current.id (childSubmission platform w.taskId current payload))
        ⟨runtime, .submission current rest⟩
  | answered (runtime : RuntimeMap) (current : WorkflowStep) (rest : List WorkflowStep)
      (answer : Answer) :
      Step platform w shown ⟨runtime, .submission current rest⟩ (.answered current.id answer)
        (afterSubmission platform w runtime current rest answer)

/-- A run of an execution from its first round on. -/
def Run (platform : Platform) (w : Workflow) (shown : (Int → Fields) → Prop) :
    List Event → Machine → Prop :=
  LabelledRuns.Runs (Step platform w shown) ⟨initialRuntime w.steps, .round⟩

end WorkflowExecution
