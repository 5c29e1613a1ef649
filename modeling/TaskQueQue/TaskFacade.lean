import TaskQueQue.CapabilityAuth
import TaskQueQue.LocalApi

/-!
# The public task facade

`handleRequest` and what it calls: a submission is authorized, parsed, held
against the policy of its task type and the token bucket, and then sent to the
queue daemon under its idempotency key and fingerprint. A query is a projection
of the daemon's answer.

The daemon may fail, be out of reach, or do its work and lose the answer; which
of these happens to each call is an input. Response headers are left out.
-/

namespace TaskFacade

open QueueValues QueueTables GatewayValues CapabilityAuth LocalApi

def MAX_PUBLIC_REQUEST_BYTES : Nat := 1024 * 1024

/-! ### Policies and admission -/

structure TaskPolicy where
  queueKind : String
  maxPayloadBytes : Nat
  minPriority : Int
  maxPriority : Int
  maxRetries : Int
deriving DecidableEq

abbrev TaskRegistry := List (String × TaskPolicy)

def boundedPolicy (queueKind : String) : TaskPolicy :=
  ⟨queueKind, 256 * 1024, -1000, 1000, 10⟩

def TASK_REGISTRY : TaskRegistry := [
  ("document.process", boundedPolicy "cpu"),
  ("hash.compute", boundedPolicy "cpu"),
  ("vector.dot", boundedPolicy "vector"),
  ("agent.invoke", boundedPolicy "remote-agent"),
  ("workflow.run", boundedPolicy "workflow")]

def getTaskPolicy (registry : TaskRegistry) (taskType : String) : Option TaskPolicy :=
  registry.lookup taskType

structure TokenBucket where
  ratePerSecond : ℚ
  burst : ℚ
  tokens : ℚ
  lastRefillMs : ℚ

/-- The bucket after a call, and whether the call got a token. -/
def TokenBucket.tryAcquire (bucket : TokenBucket) (now : ℚ) : Bool × TokenBucket :=
  let elapsedMs := max 0 (now - bucket.lastRefillMs)
  let tokens := min bucket.burst (bucket.tokens + elapsedMs / 1000 * bucket.ratePerSecond)
  if 1 ≤ tokens then (true, { bucket with tokens := tokens - 1, lastRefillMs := now })
  else (false, { bucket with tokens, lastRefillMs := now })

/-! ### The request -/

structure PublicTaskRequest where
  type : String
  payload : Json
  priority : Option Int
  maxRetries : Option Int

def TASK_REQUEST_KEYS : List String := ["type", "payload", "priority", "max_retries"]

/-- The checks of a body's media type and length, shared by the public routes. -/
def boundedBody (web : WebRuntime) (request : Request) (declaredLength : Option String) :
    Except Response String :=
  let contentType := ((request.header "content-type").map String.toLower).getD ""
  let length := declaredLength.map fun text =>
    (web.number text).filter fun length => decide (length.den = 1 ∧ 0 ≤ length)
  if !"application/json".toList.isPrefixOf contentType.toList then
    .error (.coded 415 "unsupported_media_type" "content-type must be application/json")
  else if length.any Option.isNone then
    .error (.coded 400 "invalid_content_length" "invalid content-length")
  else if (length.any fun length => length.any fun n => decide ((MAX_PUBLIC_REQUEST_BYTES : ℚ) < n)) ∨
      MAX_PUBLIC_REQUEST_BYTES < request.body.utf8ByteSize then
    .error (.coded 413 "request_too_large" "request body exceeds 1 MiB")
  else .ok request.body

def parsePublicTaskRequest (web : WebRuntime) (request : Request) :
    Except Response PublicTaskRequest :=
  match boundedBody web request
      ((request.header "content-length").filter fun text => decide (text ≠ "")) with
  | .error response => .error response
  | .ok raw =>
    match web.parse raw with
    | none => .error (.coded 400 "invalid_json" "request body must contain valid JSON")
    | some (.obj fields) =>
      let parsed := Json.obj fields
      match (fields.map Prod.fst).find? fun key => !TASK_REQUEST_KEYS.contains key with
      | some key => .error (.coded 400 "unknown_field" ("unknown request field: " ++ key))
      | none =>
        match parsed.field "type" with
        | some (.str type) =>
          if type = "" ∨ 128 < utf16Length type then
            .error (.coded 400 "invalid_task_type" "type must be a non-empty string up to 128 bytes")
          else
            match parsed.field "payload" with
            | none => .error (.coded 400 "missing_payload" "payload is required")
            | some payload =>
              let priority := parsed.field "priority"
              let maxRetries := parsed.field "max_retries"
              if priority.isSome ∧ Json.integer? priority = none then
                .error (.coded 400 "invalid_priority" "priority must be an integer")
              else if maxRetries.isSome ∧ Json.integer? maxRetries = none then
                .error (.coded 400 "invalid_max_retries" "max_retries must be an integer")
              else .ok ⟨type, payload, Json.integer? priority, Json.integer? maxRetries⟩
        | _ =>
          .error (.coded 400 "invalid_task_type" "type must be a non-empty string up to 128 bytes")
    | some _ => .error (.coded 400 "invalid_request" "request body must be a JSON object")

def parseIdempotencyKey (request : Request) : Except Response String :=
  match (request.header "idempotency-key").filter fun value => decide (value ≠ "") with
  | none => .error (.coded 400 "missing_idempotency_key"
      "Idempotency-Key header is required for task creation")
  | some value =>
    if 128 < utf16Length value ∨
        !value.toList.all fun c => asciiAlphanumeric c || "._:-".toList.contains c then
      .error (.coded 400 "invalid_idempotency_key"
        "Idempotency-Key must be 1..128 ASCII characters using A-Z a-z 0-9 . _ : -")
    else .ok value

/-! ### The fingerprint -/

/-- The UTF-16 code units of a string, by which JavaScript sorts. -/
def utf16Units (value : String) : List Nat :=
  value.toList.flatMap fun c =>
    if c.toNat < 65536 then [c.toNat]
    else [55296 + (c.toNat - 65536) / 1024, 56320 + (c.toNat - 65536) % 1024]

mutual

def canonicalJson (web : WebRuntime) : Json → String
  | .arr values => "[" ++ ",".intercalate (canonicalItems web values) ++ "]"
  | .obj fields =>
    let sorted := (canonicalFields web fields).insertionSort
      fun left right => utf16Units left.1 ≤ utf16Units right.1
    "\x7b" ++ ",".intercalate (sorted.map fun field =>
      web.stringify (.str field.1) ++ ":" ++ field.2) ++ "\x7d"
  | .null => web.stringify .null
  | .bool value => web.stringify (.bool value)
  | .num value => web.stringify (.num value)
  | .str value => web.stringify (.str value)

def canonicalItems (web : WebRuntime) : List Json → List String
  | [] => []
  | value :: rest => canonicalJson web value :: canonicalItems web rest

def canonicalFields (web : WebRuntime) : List (String × Json) → List (String × String)
  | [] => []
  | (key, value) :: rest => (key, canonicalJson web value) :: canonicalFields web rest

end

def requestFingerprint (web : WebRuntime) (taskType queueKind : String) (priority maxRetries : Int)
    (payload : Json) : String :=
  web.sha256Hex (canonicalJson web (.obj [("contract_version", .num 1), ("type", .str taskType),
    ("queue_kind", .str queueKind), ("priority", .num priority), ("max_retries", .num maxRetries),
    ("payload", payload)]))

/-! ### Calls of the daemon -/

inductive Delivery
  | answered
  | failed
  | unreachable
  | unanswered

/-- `none` is a call that threw. -/
def fetchWithTimeout (delivery : Delivery) (route : Db → Response × Db) (db : Db) :
    Option Response × Db :=
  match delivery with
  | .answered => (some (route db).1, (route db).2)
  | .failed => (some ⟨500, none⟩, db)
  | .unreachable => (none, db)
  | .unanswered => (none, (route db).2)

/-- What a request meets: the clocks it reads and what becomes of its calls of
the daemon. -/
structure Conditions where
  nowMs : Int := 0
  performanceMs : ℚ := 0
  daemonClock : Seconds := 0
  delivery : Nat → Delivery := fun _ => .answered

structure FacadeState where
  db : Db
  bucket : TokenBucket

def queueUnavailable : Response := .coded 503 "queue_unavailable" "queue daemon is unavailable"

/-! ### The routes -/

def isAuthorized (request : Request) (config : GatewayConfig) : Bool :=
  if config.allowUnauthenticated then true
  else
    match config.token?, bearerText request with
    | some apiToken, some text => constantTimeEqual text apiToken
    | _, _ => false

def unauthorized : Response := .coded 401 "unauthorized" "valid bearer token required"

def handleReady (conditions : Conditions) : Response :=
  match conditions.delivery 0 with
  | .answered => ⟨200, some (.obj [("status", .str "ready"), ("queue", .str "ready")])⟩
  | .failed => .coded 503 "queue_not_ready" "queue daemon is not ready"
  | .unreachable | .unanswered => queueUnavailable

/-- The daemon's answer to a submission, in public terms. -/
def publicAcceptance (upstream : Response) : Response :=
  if upstream.status = 409 then
    .coded 409 "idempotency_conflict" "Idempotency-Key was already used for a different task request"
  else if upstream.status = 503 then
    .coded 503 "queue_capacity_reached"
      "queue active-task capacity reached; retry later with the same Idempotency-Key"
  else if upstream.status ≠ 202 then
    .coded 502 "queue_rejected_task" "queue daemon rejected the task"
  else
    match upstream.body with
    | none => queueUnavailable
    | some body =>
      match Json.integer? (body.field "task_id"), body.field "status", body.field "idempotency" with
      | some taskId, some (.str status), some (.str idempotency) =>
        if taskId ≤ 0 ∨ status ≠ "PENDING" ∨ (idempotency ≠ "created" ∧ idempotency ≠ "replayed") then
          .coded 502 "invalid_queue_response" "queue daemon returned an invalid response"
        else ⟨202, some (.obj [("task_id", .num taskId), ("status", .str "PENDING"),
          ("replayed", .bool (idempotency = "replayed"))])⟩
      | _, _, _ => .coded 502 "invalid_queue_response" "queue daemon returned an invalid response"

/-- A submission that passed every check but the token bucket's: what goes to the
daemon if it gets a token. -/
def admissible (web : WebRuntime) (registry : TaskRegistry) (config : GatewayConfig)
    (request : Request) : Except Response EnqueueRequest :=
  if !isAuthorized request config then .error unauthorized
  else
    match parseIdempotencyKey request with
    | .error response => .error response
    | .ok idempotencyKey =>
      match parsePublicTaskRequest web request with
      | .error response => .error response
      | .ok parsed =>
        match getTaskPolicy registry parsed.type with
        | none => .error (.coded 422 "unregistered_task_type" "task type is not registered")
        | some policy =>
          let priority := parsed.priority.getD 0
          let maxRetries := parsed.maxRetries.getD (min 3 policy.maxRetries)
          let payload := web.stringify parsed.payload
          if priority < policy.minPriority ∨ policy.maxPriority < priority then
            .error (.coded 422 "priority_out_of_policy" ("priority must be between " ++
              toString policy.minPriority ++ " and " ++ toString policy.maxPriority))
          else if maxRetries < 0 ∨ policy.maxRetries < maxRetries then
            .error (.coded 422 "max_retries_out_of_policy"
              ("max_retries must be between 0 and " ++ toString policy.maxRetries))
          else if policy.maxPayloadBytes < payload.utf8ByteSize then
            .error (.coded 413 "payload_too_large" ("serialized payload exceeds " ++
              toString policy.maxPayloadBytes ++ " bytes for this task type"))
          else .ok
            { taskName := parsed.type, taskType := policy.queueKind, priority, maxRetries
              idempotencyKey
              requestFingerprint := requestFingerprint web parsed.type policy.queueKind priority
                maxRetries parsed.payload
              maxActiveTasks := config.maxActiveTasks, body := payload }

def handleCreateTask (web : WebRuntime) (registry : TaskRegistry) (config : GatewayConfig)
    (request : Request) (conditions : Conditions) (s : FacadeState) : Response × FacadeState :=
  match admissible web registry config request with
  | .error response => (response, s)
  | .ok upstreamRequest =>
    match s.bucket.tryAcquire conditions.performanceMs with
    | (false, bucket) => (.coded 429 "rate_limited"
        "task admission rate exceeded; retry later with the same Idempotency-Key", { s with bucket })
    | (true, bucket) =>
      let (upstream, db) := fetchWithTimeout (conditions.delivery 0)
        (routeEnqueue conditions.daemonClock upstreamRequest) s.db
      ((upstream.map publicAcceptance).getD queueUnavailable, { db, bucket })

def SNAPSHOT_KEYS : List String :=
  ["id", "task_name", "task_type", "priority", "max_retries", "retry_count", "status",
    "scheduled_at", "created_at", "updated_at"]

def publicTaskSnapshot (value : Json) : Option Json :=
  match Json.integer? (value.field "id") with
  | none => none
  | some id =>
    if id ≤ 0 then none
    else some (.obj (SNAPSHOT_KEYS.map fun key => (key, (value.field key).getD .null)))

/-- `/^[1-9][0-9]*$/`. -/
def positiveDigits (text : String) : Bool :=
  match text.toList with
  | [] => false
  | first :: rest =>
    decide ('1' ≤ first ∧ first ≤ '9') && rest.all fun c => decide ('0' ≤ c ∧ c ≤ '9')

def handleGetTask (config : GatewayConfig) (request : Request) (taskIdText : String)
    (conditions : Conditions) (s : FacadeState) : Response :=
  if !isAuthorized request config then unauthorized
  else if !positiveDigits taskIdText then
    .coded 400 "invalid_task_id" "task id must be a positive integer"
  else
    match (fetchWithTimeout (conditions.delivery 0) (fun db => (routeGetTask taskIdText db, db)) s.db).1
      with
    | none => queueUnavailable
    | some upstream =>
      if upstream.status = 404 then .coded 404 "task_not_found" "task not found"
      else if upstream.status ≠ 200 then
        .coded 502 "queue_query_failed" "queue daemon could not return task state"
      else
        match upstream.body with
        | none => queueUnavailable
        | some body =>
          match publicTaskSnapshot body with
          | some snapshot => ⟨200, some snapshot⟩
          | none => .coded 502 "invalid_queue_response" "queue daemon returned an invalid task snapshot"

def methodNotAllowed (method : String) : Response :=
  .coded 405 "method_not_allowed" (method ++ " required")

def GATEWAY_VERSION : String := "0.2.0"

def handleRequest (web : WebRuntime) (registry : TaskRegistry) (config : GatewayConfig)
    (request : Request) (conditions : Conditions) (s : FacadeState) : Response × FacadeState :=
  if request.pathname = "/healthz" then
    (if request.method = "GET" then
      ⟨200, some (.obj [("status", .str "ok"), ("version", .str GATEWAY_VERSION)])⟩
    else methodNotAllowed "GET", s)
  else if request.pathname = "/readyz" then
    (if request.method = "GET" then handleReady conditions else methodNotAllowed "GET", s)
  else if request.pathname = "/v1/tasks" then
    if request.method = "POST" then handleCreateTask web registry config request conditions s
    else (methodNotAllowed "POST", s)
  else
    match segmentBetween "/v1/tasks/" "" request.pathname with
    | some taskIdText =>
      (if request.method = "GET" then handleGetTask config request taskIdText conditions s
      else methodNotAllowed "GET", s)
    | none => (.coded 404 "not_found" "route not found", s)

/-! ### What a submission comes to -/

theorem boundedBody_ok {web : WebRuntime} {request : Request} {declaredLength : Option String}
    {raw : String} (h : boundedBody web request declaredLength = .ok raw) : raw = request.body := by
  simp only [boundedBody] at h
  repeat' split at h
  all_goals cases h
  rfl

theorem parsePublicTaskRequest_ok {web : WebRuntime} {request : Request}
    {parsed : PublicTaskRequest} (h : parsePublicTaskRequest web request = .ok parsed) :
    ∃ fields, web.parse request.body = some (.obj fields) ∧
      (Json.obj fields).field "type" = some (.str parsed.type) ∧
      (Json.obj fields).field "payload" = some parsed.payload ∧
      parsed.priority = Json.integer? ((Json.obj fields).field "priority") ∧
      parsed.maxRetries = Json.integer? ((Json.obj fields).field "max_retries") := by
  simp only [parsePublicTaskRequest] at h
  split at h
  · cases h
  rename_i raw hraw
  rw [boundedBody_ok hraw] at h
  split at h
  · cases h
  · rename_i fields hparse
    split at h
    · cases h
    split at h
    · rename_i type htype
      split at h
      · cases h
      split at h
      · cases h
      · rename_i payload hpayload
        split at h
        · cases h
        split at h
        · cases h
        · cases h
          exact ⟨fields, hparse, htype, hpayload, rfl, rfl⟩
    · cases h
  · cases h

/-- What goes to the daemon is the task the request names, under its policy. -/
structure Submission (web : WebRuntime) (registry : TaskRegistry) (request : Request)
    (r : EnqueueRequest) (parsed : PublicTaskRequest) (policy : TaskPolicy) : Prop where
  reads : parsePublicTaskRequest web request = .ok parsed
  registered : getTaskPolicy registry parsed.type = some policy
  taskName : r.taskName = parsed.type
  taskType : r.taskType = policy.queueKind
  body : r.body = web.stringify parsed.payload

theorem admissible_ok {web : WebRuntime} {registry : TaskRegistry} {config : GatewayConfig}
    {request : Request} {r : EnqueueRequest}
    (h : admissible web registry config request = .ok r) :
    isAuthorized request config = true ∧
      ∃ parsed policy, Submission web registry request r parsed policy := by
  simp only [admissible] at h
  split at h
  · cases h
  rename_i authorized
  split at h
  · cases h
  split at h
  · cases h
  rename_i parsed hparsed
  split at h
  · cases h
  rename_i policy hpolicy
  repeat' split at h
  all_goals cases h
  exact ⟨by simpa using authorized, parsed, policy, hparsed, hpolicy, rfl, rfl, rfl⟩

/-- A submission either leaves the database as it was or runs one admission. -/
theorem handleCreateTask_db (web : WebRuntime) (registry : TaskRegistry) (config : GatewayConfig)
    (request : Request) (conditions : Conditions) (s : FacadeState) :
    (handleCreateTask web registry config request conditions s).2.db = s.db ∨
    ∃ r, admissible web registry config request = .ok r ∧
      (handleCreateTask web registry config request conditions s).2.db =
        QueueRuns.step (r.op conditions.daemonClock) s.db := by
  rw [handleCreateTask]
  split
  · exact Or.inl rfl
  · rename_i r hr
    split
    · exact Or.inl rfl
    · simp only [fetchWithTimeout]
      cases conditions.delivery 0 with
      | answered | unanswered =>
        exact (routeEnqueue_db conditions.daemonClock r s.db).imp id fun h => ⟨r, hr, h⟩
      | failed | unreachable => exact Or.inl rfl

theorem handleRequest_db (web : WebRuntime) (registry : TaskRegistry) (config : GatewayConfig)
    (request : Request) (conditions : Conditions) (s : FacadeState) :
    (handleRequest web registry config request conditions s).2.db = s.db ∨
    (request.pathname = "/v1/tasks" ∧ request.method = "POST" ∧
      ∃ r, admissible web registry config request = .ok r ∧
        (handleRequest web registry config request conditions s).2.db =
          QueueRuns.step (r.op conditions.daemonClock) s.db) := by
  rw [handleRequest]
  split
  · exact Or.inl rfl
  split
  · exact Or.inl rfl
  split
  · rename_i path
    split
    · rename_i method
      rcases handleCreateTask_db web registry config request conditions s with h | h
      · exact Or.inl h
      · exact Or.inr ⟨path, method, h⟩
    · exact Or.inl rfl
  · split
    · exact Or.inl rfl
    · exact Or.inl rfl

end TaskFacade
