import TaskQueQue.ClaimHandling
import TaskQueQue.ClientCalls
import TaskQueQue.GatewayConfig
import TaskQueQue.McpTools
import TaskQueQue.RemoteAgents

/-!
# The worker's side of its protocol

A worker is started with a registry of handlers and a configuration from the environment. It
registers under a label, asks for work, and reports on what it was given. What it hears is a
status and a body, and it trusts neither: a registration must be of what was asked for, a
claim must have the numbers a report will quote.
-/

namespace WorkerClient

open GatewayValues GatewayConfig ClientCalls
open ClaimHandling (WorkerHandler WorkerHandlerRegistry)
open McpTools (positiveInteger)
open RemoteAgents (safeId)

/-! ### The registry of handlers -/

def validateName (value label : String) : Except String Unit :=
  refuse (!safeId value) (label ++ " must be a safe 1-128 character identifier")

/-- The handlers in their order, behind those that were added before. -/
def addHandlers (workerType : String) (added : List WorkerHandler) :
    List WorkerHandler → Except String (List WorkerHandler)
  | [] => .ok added
  | handler :: rest => do
    validateName handler.taskName "handler task name"
    validateName handler.taskType "handler task type"
    refuse (decide (handler.taskType ≠ workerType))
      ("handler " ++ handler.taskName ++ " declares " ++ handler.taskType ++
        ", expected hard capability " ++ workerType)
    refuse ((added.map WorkerHandler.taskName).contains handler.taskName)
      ("duplicate worker handler: " ++ handler.taskName)
    addHandlers workerType (added ++ [handler]) rest

def newRegistry (workerType : String) (handlers : List WorkerHandler) :
    Except String WorkerHandlerRegistry := do
  validateName workerType "worker type"
  refuse handlers.isEmpty "worker registry must contain at least one handler"
  let handlers ← addHandlers workerType [] handlers
  .ok ⟨workerType, handlers⟩

/-- The names are ASCII; their order by code units is that by characters. -/
def taskNames (registry : WorkerHandlerRegistry) : List String :=
  (registry.handlers.map WorkerHandler.taskName).insertionSort (· ≤ ·)

/-! ### The configuration -/

structure WorkerConfig where
  origin : String
  workerId : String
  outputDir : String
  capacity : Int
  pollMs : Int
  processDelayMs : Int
  requestTimeoutMs : Int
deriving DecidableEq

section Settings
variable (platform : Platform)

/-- `positiveInteger` from one on, `nonNegativeInteger` from zero on. -/
def integerFrom (least : Int) (raw : Option String) (fallback : Int) (name : String) (max : Int) :
    Except String Int :=
  match raw.filter fun text => decide (text ≠ "") with
  | none => .ok fallback
  | some text =>
    match Json.safeInteger? ((platform.number text).map .num) with
    | some value =>
      if value < least ∨ max < value then
        .error (name ++ " must be an integer between " ++ toString least ++ " and " ++ toString max)
      else .ok value
    | none =>
      .error (name ++ " must be an integer between " ++ toString least ++ " and " ++ toString max)

def normalizeLoopbackOrigin (raw : String) : Except String String :=
  match platform.url raw with
  | none => .error "Invalid URL"
  | some url =>
    let host := url.hostname.map Char.toLower
    let loopback := ["127.0.0.1", "localhost", "[::1]", "::1"].contains host
    if url.protocol ≠ "http:" ∨ !loopback then
      .error "DOCUMENT_WORKER_ORIGIN must be a loopback http origin"
    else if url.username ≠ "" ∨ url.password ≠ "" ∨ url.search ≠ "" ∨ url.hash ≠ "" ∨
        (url.pathname ≠ "" ∧ url.pathname ≠ "/") then
      .error "DOCUMENT_WORKER_ORIGIN must contain only scheme, host, and port"
    else .ok url.origin

def loadWorkerConfig (env : Environment) : Except String WorkerConfig := do
  let workerId := (env "DOCUMENT_WORKER_ID").getD "document-reference-worker"
  refuse (!safeId workerId) "DOCUMENT_WORKER_ID must be a safe 1-128 character identifier"
  let outputDir := (env "DOCUMENT_WORKER_OUTPUT_DIR").getD "./var/document-worker-results"
  refuse (decide (outputDir = "") || outputDir.toList.contains (Char.ofNat 0))
    "DOCUMENT_WORKER_OUTPUT_DIR is invalid"
  let origin ← normalizeLoopbackOrigin platform
    ((env "DOCUMENT_WORKER_ORIGIN").getD "http://127.0.0.1:7332")
  let capacity ← integerFrom platform 1 (env "DOCUMENT_WORKER_CAPACITY") 1
    "DOCUMENT_WORKER_CAPACITY" 64
  let pollMs ← integerFrom platform 1 (env "DOCUMENT_WORKER_POLL_MS") 250
    "DOCUMENT_WORKER_POLL_MS" 60000
  let processDelayMs ← integerFrom platform 0 (env "DOCUMENT_WORKER_PROCESS_DELAY_MS") 0
    "DOCUMENT_WORKER_PROCESS_DELAY_MS" 60000
  let requestTimeoutMs ← integerFrom platform 1 (env "DOCUMENT_WORKER_REQUEST_TIMEOUT_MS") 5000
    "DOCUMENT_WORKER_REQUEST_TIMEOUT_MS" 60000
  .ok ⟨origin, workerId, outputDir, capacity, pollMs, processDelayMs, requestTimeoutMs⟩

end Settings

/-! ### What is heard -/

/-- A status, and the body's value if it is JSON. -/
structure Heard where
  status : Nat
  json : Option Json

def Heard.ok (heard : Heard) : Bool := decide (200 ≤ heard.status ∧ heard.status ≤ 299)

/-- A `WorkerApiError`, or any other. -/
inductive ClientError
  | api (status : Nat) (message : String)
  | other (message : String)
deriving DecidableEq

def responseJson (heard : Heard) : Except ClientError Json :=
  if !heard.ok then
    .error (.api heard.status ("worker broker returned HTTP " ++ toString heard.status))
  else
    match heard.json with
    | none => .error (.other "SyntaxError")
    | some .null => .error (.other "TypeError")
    | some value => .ok value

structure Registration where
  workerId : String
  workerType : String
  taskNames : List String
  sessionId : String
  sessionToken : String
  sessionTtlMs : Int
  taskLeaseMs : Int

/-- The strings are these, one by one. -/
def sameNames : List Json → List String → Bool
  | [], [] => true
  | .str name :: names, advertised :: rest => decide (name = advertised) && sameNames names rest
  | _, _ => false

/-- `test` takes the text of its argument; that of an array of one is the text of that one. -/
def hexOf (length : Nat) : Json → Option String
  | .str text =>
    if text.length = length ∧ text.toList.all LocalApi.hexDigit then some text else none
  | .arr [value] => hexOf length value
  | _ => none

def sessionHeaders (registration : Registration) : List (String × String) :=
  [("X-Worker-Session", registration.sessionId), ("X-Worker-Token", registration.sessionToken)]

/-! ### Registering -/

def registerCall (config : WorkerConfig) (registry : WorkerHandlerRegistry) : Call where
  path := "/v1/register"
  headers := [("X-Worker-Id", config.workerId), ("X-Worker-Type", registry.workerType),
    ("X-Worker-Capacity", toString config.capacity),
    ("X-Worker-Tasks", ",".intercalate (taskNames registry))]

def malformedRegistration : ClientError :=
  .other "worker broker returned a malformed registration"

def readRegistration (config : WorkerConfig) (registry : WorkerHandlerRegistry) (heard : Heard) :
    Except ClientError Registration := do
  let registration ← responseJson heard
  match registration.field "worker_id", registration.field "worker_type",
      registration.field "task_names", (registration.field "session_id").bind (hexOf 32),
      (registration.field "session_token").bind (hexOf 64),
      positiveInteger (registration.field "session_ttl_ms"),
      positiveInteger (registration.field "task_lease_ms") with
  | some (.str workerId), some (.str workerType), some (.arr names), some sessionId,
      some sessionToken, some sessionTtlMs, some taskLeaseMs =>
    if workerId = config.workerId ∧ workerType = registry.workerType ∧
        sameNames names (taskNames registry) then
      .ok ⟨workerId, workerType, taskNames registry, sessionId, sessionToken, sessionTtlMs,
        taskLeaseMs⟩
    else .error malformedRegistration
  | _, _, _, _, _, _, _ => .error malformedRegistration

/-! ### The calls of a session -/

def heartbeatCall (registration : Registration) : Call where
  path := "/v1/session/heartbeat"
  headers := sessionHeaders registration

def readHeartbeat (heard : Heard) : Except ClientError Unit :=
  if heard.ok then .ok ()
  else .error (.api heard.status ("session heartbeat returned HTTP " ++ toString heard.status))

def claimCall (registration : Registration) : Call where
  path := "/v1/claim"
  headers := sessionHeaders registration

structure ClaimedTask where
  taskId : Int
  taskName : String
  taskType : String
  payload : String
  leaseGeneration : Int
  leaseMs : Int
deriving DecidableEq

def readClaim (heard : Heard) : Except ClientError (Option ClaimedTask) :=
  if heard.status = 204 then .ok none
  else do
    let task ← responseJson heard
    match positiveInteger (task.field "task_id"), task.field "task_name",
        task.field "task_type", task.field "payload",
        positiveInteger (task.field "lease_generation"), positiveInteger (task.field "lease_ms") with
    | some taskId, some (.str taskName), some (.str taskType), some (.str payload),
        some leaseGeneration, some leaseMs =>
      .ok (some ⟨taskId, taskName, taskType, payload, leaseGeneration, leaseMs⟩)
    | _, _, _, _, _, _ => .error (.other "worker broker returned a malformed claim")

/-- The report a worker makes of a task it holds. -/
inductive Transition
  | heartbeat
  | complete (resultProjection : Option String)
  | fail (errorCode : String)

def Transition.path : Transition → String
  | .heartbeat => "/v1/task/heartbeat"
  | .complete _ => "/v1/task/complete"
  | .fail _ => "/v1/task/fail"

def Transition.headers : Transition → List (String × String)
  | .heartbeat | .complete none => []
  | .complete (some _) => [("Content-Type", "application/json; charset=utf-8")]
  | .fail errorCode => [("X-Worker-Error-Code", errorCode)]

def Transition.body : Transition → String
  | .complete resultProjection => resultProjection.getD ""
  | _ => ""

def transitionCall (registration : Registration) (task : ClaimedTask) (transition : Transition) :
    Call where
  path := transition.path
  headers := sessionHeaders registration ++
    [("X-Task-Id", toString task.taskId), ("X-Lease-Generation", toString task.leaseGeneration)] ++
      transition.headers
  body := transition.body

def readTransition (transition : Transition) (heard : Heard) : Except ClientError Unit :=
  if heard.ok then .ok ()
  else .error (.api heard.status (transition.path ++ " returned HTTP " ++ toString heard.status))

end WorkerClient
