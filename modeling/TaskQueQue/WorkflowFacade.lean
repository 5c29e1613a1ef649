import TaskQueQue.TaskFacade

/-!
# The public workflow facade

A workflow is submitted as a task of the internal type `workflow.run`, through the
same facade as any other task, and read back through the task query. Its result
is the declared projection its worker stored.
-/

namespace WorkflowFacade

open QueueValues QueueTables GatewayValues CapabilityAuth LocalApi TaskFacade

def MAX_WORKFLOW_RESULT_BYTES : Int := 256 * 1024
def MAX_WORKFLOW_OUTPUT_BYTES : Nat := 128 * 1024
def MAX_WORKFLOW_OUTPUTS : Nat := 32
def MAX_WORKFLOW_STEPS : Nat := 32
def FORBIDDEN_OUTPUT_NAMES : List String := ["__proto__", "prototype", "constructor"]

/-- `/^[A-Za-z0-9._:-]{1,max}$/`. -/
def safeName (maxLength : Nat) (value : String) : Bool :=
  let chars := value.toList
  decide (1 ≤ chars.length ∧ chars.length ≤ maxLength) &&
    chars.all fun c => asciiAlphanumeric c || "._:-".toList.contains c

def parseWorkflowBody (web : WebRuntime) (request : Request) : Except Response Json :=
  match boundedBody web request (request.header "content-length") with
  | .error response => .error response
  | .ok raw =>
    match web.parse raw with
    | none => .error (.coded 400 "invalid_json" "request body must contain valid JSON")
    | some (.obj fields) => .ok (.obj fields)
    | some _ => .error (.coded 400 "invalid_workflow" "workflow body must be a JSON object")

/-- The request to the task facade carries the sender's authorization and key. -/
def taskFacadeRequest (source : Request) (path method : String) (body : String) : Request where
  method := method
  pathname := path
  header := fun name =>
    if name = "authorization" ∨ name = "idempotency-key" then source.header name
    else if name = "content-type" ∧ method = "POST" then some "application/json"
    else none
  body := body

def workflowTask (workflow : Json) : Json :=
  .obj [("type", .str "workflow.run"), ("payload", workflow)]

def handleCreateWorkflow (web : WebRuntime) (registry : TaskRegistry) (config : GatewayConfig)
    (request : Request) (conditions : Conditions) (s : FacadeState) : Response × FacadeState :=
  match parseWorkflowBody web request with
  | .error response => (response, s)
  | .ok workflow =>
    let (delegated, s') := handleRequest web registry config
      (taskFacadeRequest request "/v1/tasks" "POST" (web.stringify (workflowTask workflow)))
      conditions s
    if delegated.status ≠ 202 then (delegated, s')
    else
      match delegated.body with
      | none => (.coded 502 "invalid_gateway_response" "task facade returned invalid JSON", s')
      | some body =>
        match Json.safeInteger? (body.field "task_id"), body.field "status",
            body.field "replayed" with
        | some taskId, some (.str "PENDING"), some (.bool replayed) =>
          if taskId ≤ 0 then
            (.coded 502 "invalid_gateway_response" "task facade returned invalid workflow state", s')
          else
            (⟨202, some (.obj [("workflow_id", .num taskId), ("status", .str "PENDING"),
              ("replayed", .bool replayed)])⟩, s')
        | _, _, _ =>
          (.coded 502 "invalid_gateway_response" "task facade returned invalid workflow state", s')

structure WorkflowSnapshot where
  workflowId : Int
  status : String
  retryCount : Json
  createdAt : Json
  updatedAt : Json

def isWorkflowStatus (status : String) : Bool :=
  ["PENDING", "ASSIGNED", "RUNNING", "COMPLETED", "FAILED", "CANCELLED"].contains status

def numberOf (digits : String) : Option Int := (decimal? digits.toList).map Int.ofNat

def readWorkflowSnapshot (web : WebRuntime) (registry : TaskRegistry) (config : GatewayConfig)
    (request : Request) (taskIdText : String) (conditions : Conditions) (s : FacadeState) :
    Except Response WorkflowSnapshot :=
  if !positiveDigits taskIdText then
    .error (.coded 400 "invalid_workflow_id" "workflow id must be a positive integer")
  else
    let delegated := (handleRequest web registry config
      (taskFacadeRequest request ("/v1/tasks/" ++ taskIdText) "GET" "") conditions s).1
    if delegated.status = 404 then
      .error (.coded 404 "workflow_not_found" "workflow not found")
    else if delegated.status ≠ 200 then .error delegated
    else
      match delegated.body with
      | none =>
        .error (.coded 502 "invalid_gateway_response" "task facade returned invalid JSON")
      | some body =>
        match body.field "task_name", body.field "task_type" with
        | some (.str "workflow.run"), some (.str "workflow") =>
          match Json.safeInteger? (body.field "id"), body.field "status" with
          | some id, some (.str status) =>
            if some id ≠ numberOf taskIdText ∨ !isWorkflowStatus status then
              .error (.coded 502 "invalid_gateway_response"
                "task facade returned invalid workflow state")
            else .ok
              { workflowId := id, status
                retryCount := orNull (fun n : Int => .num n)
                  (Json.safeInteger? (body.field "retry_count"))
                createdAt := (body.field "created_at").getD .null
                updatedAt := (body.field "updated_at").getD .null }
          | _, _ => .error (.coded 502 "invalid_gateway_response"
              "task facade returned invalid workflow state")
        | _, _ => .error (.coded 404 "workflow_not_found" "workflow not found")

def handleGetWorkflow (web : WebRuntime) (registry : TaskRegistry) (config : GatewayConfig)
    (request : Request) (workflowIdText : String) (conditions : Conditions) (s : FacadeState) :
    Response :=
  match readWorkflowSnapshot web registry config request workflowIdText conditions s with
  | .error response => response
  | .ok snapshot =>
    ⟨200, some (.obj [("workflow_id", .num snapshot.workflowId), ("status", .str snapshot.status),
      ("retry_count", snapshot.retryCount), ("created_at", snapshot.createdAt),
      ("updated_at", snapshot.updatedAt)])⟩

def cancelledResponse (workflowId : Int) (replayed : Bool) : Response :=
  ⟨200, some (.obj [("workflow_id", .num workflowId), ("status", .str "CANCELLED"),
    ("replayed", .bool replayed)])⟩

/-- The daemon's answer to a cancellation, in public terms. -/
def publicCancellation (workflowId : Int) (upstream : Response) : Response :=
  if upstream.status = 404 then .coded 404 "workflow_not_found" "workflow not found"
  else if upstream.status = 409 then
    .coded 409 "workflow_not_cancellable"
      "workflow reached a terminal state before cancellation committed"
  else if upstream.status ≠ 200 then
    .coded 502 "queue_cancel_failed" "queue daemon rejected workflow cancellation"
  else
    match upstream.body with
    | none =>
      .coded 502 "invalid_queue_response" "queue daemon returned invalid cancellation JSON"
    | some body =>
      match Json.integer? (body.field "task_id"), body.field "status",
          body.field "cancellation" with
      | some taskId, some (.str "CANCELLED"), some (.str cancellation) =>
        if taskId ≠ workflowId ∨ (cancellation ≠ "applied" ∧ cancellation ≠ "replayed") then
          .coded 502 "invalid_queue_response" "queue daemon returned invalid cancellation state"
        else cancelledResponse workflowId (cancellation = "replayed")
      | _, _, _ =>
        .coded 502 "invalid_queue_response" "queue daemon returned invalid cancellation state"

def handleCancelWorkflow (web : WebRuntime) (registry : TaskRegistry) (config : GatewayConfig)
    (request : Request) (workflowIdText : String) (conditions : Conditions) (s : FacadeState) :
    Response × FacadeState :=
  match readWorkflowSnapshot web registry config request workflowIdText conditions s with
  | .error response => (response, s)
  | .ok snapshot =>
    if snapshot.status = "CANCELLED" then (cancelledResponse snapshot.workflowId true, s)
    else if snapshot.status = "COMPLETED" ∨ snapshot.status = "FAILED" then
      (.coded 409 "workflow_not_cancellable"
        ("workflow is already terminal with status " ++ snapshot.status), s)
    else
      let (upstream, db) := fetchWithTimeout (conditions.delivery 1)
        (routeCancelTask conditions.daemonClock (toString snapshot.workflowId)) s.db
      ((upstream.map (publicCancellation snapshot.workflowId)).getD queueUnavailable, { s with db })

/-! ### Declared results -/

def publicStep (rawStep : Json) : Option Json :=
  match rawStep.field "id", rawStep.field "type", Json.safeInteger? (rawStep.field "task_id"),
      rawStep.field "status" with
  | some (.str id), some (.str type), some taskId, some (.str "COMPLETED") =>
    if exactKeys rawStep ["id", "type", "task_id", "status"] && safeName 64 id &&
        safeName 128 type && decide (0 < taskId) then
      some (.obj [("id", .str id), ("type", .str type), ("task_id", .num taskId),
        ("status", .str "COMPLETED")])
    else none
  | _, _, _, _ => none

def validateOutputs (web : WebRuntime) (value : Option Json) : Option Json :=
  match value with
  | some (.obj entries) =>
    if entries.length ≤ MAX_WORKFLOW_OUTPUTS ∧
        (entries.all fun entry => safeName 64 entry.1 && !FORBIDDEN_OUTPUT_NAMES.contains entry.1) ∧
        (web.stringify (.obj entries)).utf8ByteSize ≤ MAX_WORKFLOW_OUTPUT_BYTES then
      some (.obj entries)
    else none
  | _ => none

def projectionKeys (hasOutputs : Bool) : List String :=
  ["schema_version", "workflow_task_id", "status", "steps"] ++ if hasOutputs then ["outputs"] else []

def publicProjection (web : WebRuntime) (workflowId : Int) (wrapper : Json) : Option Json :=
  match Json.integer? (wrapper.field "task_id"), wrapper.field "result_json",
      Json.safeInteger? (wrapper.field "result_bytes") with
  | some taskId, some (.str resultJson), some resultBytes =>
    if taskId ≠ workflowId ∨ resultBytes < 0 ∨ MAX_WORKFLOW_RESULT_BYTES < resultBytes ∨
        (resultJson.utf8ByteSize : Int) ≠ resultBytes then none
    else
      match web.parse resultJson with
      | none => none
      | some projection =>
        let hasOutputs := (projection.field "outputs").isSome
        match projection.field "status", projection.field "steps" with
        | some (.str "COMPLETED"), some (.arr rawSteps) =>
          if !exactKeys projection (projectionKeys hasOutputs) ||
              decide (Json.integer? (projection.field "schema_version") ≠ some 1) ||
              decide (Json.integer? (projection.field "workflow_task_id") ≠ some workflowId) ||
              rawSteps.isEmpty || decide (MAX_WORKFLOW_STEPS < rawSteps.length) then none
          else
            match rawSteps.mapM publicStep,
                if hasOutputs then validateOutputs web (projection.field "outputs")
                else some (.obj []) with
            | some steps, some outputs =>
              some (.obj [("schema_version", .num 1), ("workflow_id", .num workflowId),
                ("status", .str "COMPLETED"), ("steps", .arr steps), ("outputs", outputs)])
            | _, _ => none
        | _, _ => none
  | _, _, _ => none

/-- The daemon's answer to a result query, in public terms. -/
def publicResult (web : WebRuntime) (workflowId : Int) (upstream : Nat × String) : Response :=
  if upstream.1 = 404 then
    .coded 502 "workflow_result_unavailable" "completed workflow has no result projection"
  else if upstream.1 ≠ 200 then
    .coded 502 "queue_query_failed" "queue daemon could not return workflow result"
  else if MAX_PUBLIC_REQUEST_BYTES < upstream.2.utf8ByteSize then
    .coded 502 "invalid_queue_response" "workflow result wrapper exceeds bounded size"
  else
    match web.parse upstream.2 with
    | none => .coded 502 "invalid_queue_response" "queue daemon returned invalid result JSON"
    | some wrapper =>
      match publicProjection web workflowId wrapper with
      | some projected => ⟨200, some projected⟩
      | none =>
        .coded 502 "invalid_queue_response" "queue daemon returned invalid workflow projection"

def handleResult (web : WebRuntime) (registry : TaskRegistry) (config : GatewayConfig)
    (request : Request) (workflowIdText : String) (conditions : Conditions) (s : FacadeState) :
    Response :=
  match positiveDigits workflowIdText, numberOf workflowIdText with
  | true, some workflowId =>
    let delegated := (handleRequest web registry config
      (taskFacadeRequest request ("/v1/tasks/" ++ workflowIdText) "GET" "") conditions s).1
    if delegated.status = 404 then .coded 404 "workflow_not_found" "workflow not found"
    else if delegated.status ≠ 200 then delegated
    else
      match delegated.body with
      | none => .coded 502 "invalid_gateway_response" "task facade returned invalid JSON"
      | some snapshot =>
        match snapshot.field "task_name", snapshot.field "task_type",
            Json.integer? (snapshot.field "id"), snapshot.field "status" with
        | some (.str "workflow.run"), some (.str "workflow"), some id, some (.str status) =>
          if id ≠ workflowId then .coded 404 "workflow_not_found" "workflow not found"
          else if status ≠ "COMPLETED" then
            .coded 409 "workflow_not_completed"
              ("workflow result is unavailable while status is " ++ status)
          else
            match conditions.delivery 1 with
            | .answered => publicResult web workflowId (routeGetTaskResult workflowIdText s.db)
            | .failed => publicResult web workflowId (500, "")
            | .unreachable | .unanswered => queueUnavailable
        | _, _, _, _ => .coded 404 "workflow_not_found" "workflow not found"
  | _, _ => .coded 400 "invalid_workflow_id" "workflow id must be a positive integer"

/-! ### The routes -/

def handleDeclaredWorkflowResultRequest (web : WebRuntime) (registry : TaskRegistry)
    (config : GatewayConfig) (request : Request) (conditions : Conditions) (s : FacadeState) :
    Option Response :=
  (segmentBetween "/v1/workflows/" "/result" request.pathname).map fun workflowIdText =>
    if request.method = "GET" then
      handleResult web registry config request workflowIdText conditions s
    else methodNotAllowed "GET"

/-- The result route is answered before this one and is left out here. -/
def handlePublicWorkflowRequest (web : WebRuntime) (registry : TaskRegistry)
    (config : GatewayConfig) (request : Request) (conditions : Conditions) (s : FacadeState) :
    Option (Response × FacadeState) :=
  if request.pathname = "/v1/workflows" then
    some (if request.method = "POST" then
      handleCreateWorkflow web registry config request conditions s
    else (methodNotAllowed "POST", s))
  else
    match segmentBetween "/v1/workflows/" "/cancel" request.pathname with
    | some workflowIdText =>
      some (if request.method = "POST" then
        handleCancelWorkflow web registry config request workflowIdText conditions s
      else (methodNotAllowed "POST", s))
    | none =>
      (segmentBetween "/v1/workflows/" "" request.pathname).map fun workflowIdText =>
        (if request.method = "GET" then
          handleGetWorkflow web registry config request workflowIdText conditions s
        else methodNotAllowed "GET", s)

end WorkflowFacade
