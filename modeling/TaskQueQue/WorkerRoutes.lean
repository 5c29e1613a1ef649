import TaskQueQue.HttpFraming
import TaskQueQue.LeaseSafety
import TaskQueQue.SessionRegistry
import TaskQueQue.WorkerApi

/-!
# The routes of the worker API

What a worker's request reads, in the order in which it is checked, the one transaction
it may run on the queue, and the answer. A session is authenticated before anything else
of a request is looked at, but for the body that most routes do not take.

A request meets a reading of each clock and, if it registers, the random numbers drawn
for it.
-/

namespace WorkerRoutes

open QueueValues QueueTables LeaseFence ResultProjection WorkerProtocol HttpFraming
open LocalApi (validateIdentifier parseI64 hexDigit)
open WorkerApi (jsonEscape claimJson)

/-! ### Requests and responses -/

structure Response where
  status : Nat
  reason : String
  body : String
deriving DecidableEq

def Response.error (status : Nat) (reason message : String) : Response :=
  ⟨status, reason, "\x7b\"error\":\"" ++ jsonEscape message ++ "\"\x7d"⟩

def badRequest (message : String) : Response := .error 400 "Bad Request" message

/-- One duration, in floating seconds and in whole milliseconds. -/
structure LeaseDuration where
  secs : F64
  millis : Nat

/-- What stays as it was at the start. The texts of database errors are the driver's. -/
structure Api where
  taskLease : LeaseDuration
  version : String
  sqliteText : SqliteError → String

def Api.display (api : Api) : QueueError → String
  | .sqlite cause => "sqlite error: " ++ api.sqliteText cause
  | .invalidState message => "invalid queue state: " ++ message

structure WorkerApiState where
  db : Db
  registry : SessionRegistry.Logged

abbrev U128 := Fin (2 ^ 128)

/-- The readings of the two clocks, the draws for a session id and for its token, and what
a ping of the database comes to. -/
structure Moment where
  instant : Instant
  now : Seconds
  idDraws : List U128
  tokenDraws : U128 × U128
  ping : Except QueueError Unit

def requiredHeader (request : HttpRequest) (name : String) : Except Response String :=
  match (request.header name).filter fun value => decide (value ≠ "") with
  | some value => .ok value
  | none => .error (badRequest ("missing " ++ name ++ " header"))

def parseBoundedI64Header (request : HttpRequest) (name : String) (min max : Int) :
    Except Response Int := do
  let raw ← requiredHeader request name
  match (parseI64 raw).filter fun value => decide (min ≤ value ∧ value ≤ max) with
  | some value => .ok value
  | none => .error (badRequest
      (name ++ " must be an integer between " ++ toString min ++ " and " ++ toString max))

def requireEmptyBody (request : HttpRequest) : Except Response Unit :=
  if request.body = [] then .ok ()
  else .error (badRequest "worker control requests must not contain a body")

def orBadRequest (checked : Except String Unit) : Except Response Unit :=
  match checked with
  | .ok () => .ok ()
  | .error message => .error (badRequest message)

/-! ### Sessions -/

/-- `len() == n` and every byte a hexadecimal digit. -/
def hexText (length : Nat) (text : String) : Bool :=
  decide (text.utf8ByteSize = length) && text.toList.all hexDigit

def invalidCredentials : Response :=
  .error 401 "Unauthorized" "invalid worker session credentials"

/-- The credentials of a request, by their form. -/
def credentials (request : HttpRequest) : Except Response (String × String) := do
  let sessionId ← requiredHeader request "x-worker-session"
  let sessionToken ← requiredHeader request "x-worker-token"
  if !hexText 32 sessionId then .error invalidCredentials
  else if !hexText 64 sessionToken then .error invalidCredentials
  else .ok (sessionId, sessionToken)

def authenticate (m : Moment) (request : HttpRequest) (s : WorkerApiState) :
    Except Response WorkerSession × WorkerApiState :=
  match credentials request with
  | .error response => (.error response, s)
  | .ok (sessionId, sessionToken) =>
    match SessionRegistry.authenticateAndTouch s.registry sessionId sessionToken m.instant with
    | (some session, registry) => (.ok session, { s with registry })
    | (none, registry) =>
      (.error (.error 401 "Unauthorized" "invalid or expired worker session"),
        { s with registry })

def validateTaskName (value : String) : Except String Unit :=
  if value = "" ∨ 128 < value.utf8ByteSize then
    .error "worker task name length must be between 1 and 128"
  else if !value.toList.all fun c =>
      GatewayValues.asciiAlphanumeric c || "._-:".toList.contains c then
    .error "worker task names may contain only ASCII alphanumeric characters and . _ - :"
  else .ok ()

/-- The names between the commas, each checked before the next is looked at. -/
def checkedTaskNames : List String → Except Response (List String)
  | [] => .ok []
  | value :: values => do
    orBadRequest (validateTaskName value)
    let rest ← checkedTaskNames values
    .ok (value :: rest)

def parseWorkerTaskNames (request : HttpRequest) : Except Response (List String) := do
  let raw ← requiredHeader request "x-worker-tasks"
  if 4096 < raw.utf8ByteSize then
    .error (badRequest "x-worker-tasks exceeds bounded header size")
  else
    let taskNames ← checkedTaskNames
      ((raw.toList.splitOnP (· = ',')).map fun value => String.ofList (trim value))
    if taskNames = [] ∨ 32 < taskNames.length then
      .error (badRequest "x-worker-tasks must advertise between 1 and 32 exact task names")
    else if !noAdjacentDuplicate (taskNames.insertionSort (· ≤ ·)) then
      .error (badRequest "x-worker-tasks must not contain duplicates")
    else .ok (taskNames.insertionSort (· ≤ ·))

/-- `{:032x}`. -/
def hex032 (n : U128) : String := String.ofList ((Nat.toDigits 16 n.val).leftpad 32 '0')

def Moment.candidates (m : Moment) : List String := m.idDraws.map hex032

def Moment.sessionToken (m : Moment) : String :=
  hex032 m.tokenDraws.1 ++ hex032 m.tokenDraws.2

def fromDb (value : String) : WorkerKind :=
  if value = "gpu" then .gpu else if value = "cpu" then .cpu else .other value

structure Registering where
  workerId : String
  workerType : String
  capacity : Int
  taskNames : List String

def readRegistering (request : HttpRequest) : Except Response Registering := do
  requireEmptyBody request
  let workerId ← requiredHeader request "x-worker-id"
  let workerType ← requiredHeader request "x-worker-type"
  orBadRequest (validateIdentifier workerId 128 "x-worker-id")
  orBadRequest (validateIdentifier workerType 64 "x-worker-type")
  let capacity ← parseBoundedI64Header request "x-worker-capacity" 1 1000000
  let taskNames ← parseWorkerTaskNames request
  .ok ⟨workerId, workerType, capacity, taskNames⟩

def millis (ttl : Instant) : Nat := ttl / 1000000

def registrationJson (registration : WorkerRegistration) (ttlMs leaseMs : Nat) : String :=
  "\x7b\"worker_id\":\"" ++ jsonEscape registration.session.workerId ++
    "\",\"worker_type\":\"" ++ jsonEscape registration.session.kind.toDb ++
    "\",\"capacity\":" ++ toString registration.session.capacity ++
    ",\"task_names\":[" ++ ",".intercalate
      (registration.session.taskNames.1.map fun name => "\"" ++ jsonEscape name ++ "\"") ++
    "],\"session_id\":\"" ++ jsonEscape registration.session.sessionId ++
    "\",\"session_token\":\"" ++ jsonEscape registration.sessionToken ++
    "\",\"session_ttl_ms\":" ++ toString (ttlMs : Int) ++
    ",\"task_lease_ms\":" ++ toString (leaseMs : Int) ++ "\x7d"

/-- No answer while every id drawn is in use: the loop goes on. -/
def routeRegister (api : Api) (m : Moment) (request : HttpRequest) (s : WorkerApiState) :
    Option Response × WorkerApiState :=
  match readRegistering request with
  | .error response => (some response, s)
  | .ok r =>
    match SessionRegistry.register s.registry r.workerId (fromDb r.workerType) r.capacity
        r.taskNames m.instant m.candidates m.sessionToken with
    | (.error error, registry) => (some (badRequest (api.display error)), { s with registry })
    | (.ok none, registry) => (none, { s with registry })
    | (.ok (some registration), registry) =>
      (some ⟨201, "Created", registrationJson registration (millis registry.registry.ttl)
        api.taskLease.millis⟩, { s with registry })

def routeSessionHeartbeat (m : Moment) (request : HttpRequest) (s : WorkerApiState) :
    Response × WorkerApiState :=
  match requireEmptyBody request with
  | .error response => (response, s)
  | .ok () =>
    match authenticate m request s with
    | (.error response, s) => (response, s)
    | (.ok session, s) =>
      (⟨200, "OK", "\x7b\"status\":\"alive\",\"worker_id\":\"" ++ jsonEscape session.workerId ++
        "\",\"session_id\":\"" ++ jsonEscape session.sessionId ++ "\"\x7d"⟩, s)

/-! ### Tasks -/

def internalError (api : Api) (error : QueueError) : Response :=
  .error 500 "Internal Server Error" (api.display error)

def claimResponse (api : Api) : Except QueueError (Option FencedClaimedTask) → Response
  | .ok (some task) => ⟨200, "OK", claimJson task api.taskLease.millis⟩
  | .ok none => ⟨204, "No Content", ""⟩
  | .error error => internalError api error

def routeClaim (api : Api) (m : Moment) (request : HttpRequest) (s : WorkerApiState) :
    Response × WorkerApiState :=
  match requireEmptyBody request with
  | .error response => (response, s)
  | .ok () =>
    match authenticate m request s with
    | (.error response, s) => (response, s)
    | (.ok session, s) =>
      let (claimed, db) := executeWithRetry (claimTask m.now session.sessionId) s.db
      (claimResponse api claimed, { s with db })

def taskFenceHeaders (request : HttpRequest) : Except Response (Int × Int) := do
  let taskId ← parseBoundedI64Header request "x-task-id" 1 i64Max
  let generation ← parseBoundedI64Header request "x-lease-generation" 1 i64Max
  .ok (taskId, generation)

def applied : Response := ⟨200, "OK", "\x7b\"transition\":\"applied\"\x7d"⟩

def stale : Response := .error 409 "Conflict" "task lease is stale"

def transitionResponse (api : Api) : Except QueueError LeaseMutation → Response
  | .ok .applied => applied
  | .ok .stale => stale
  | .error error => internalError api error

/-- What a worker says of the task it holds. -/
inductive Report
  | heartbeat
  | complete (resultJson : Option String)
  | fail (error : String)
deriving DecidableEq

def Report.transaction (api : Api) (now : Seconds) (taskId : Int) (sessionId : String)
    (generation : Int) : Report → Transaction LeaseMutation
  | .heartbeat => LeaseFence.heartbeat now taskId sessionId generation api.taskLease.secs
  | .complete none => completeTask now taskId sessionId generation
  | .complete (some resultJson) =>
    completeWithProjection now taskId sessionId generation resultJson
  | .fail error => failTask now taskId sessionId generation error

/-- What the three routes share: the session, the task and its fence, then what the
report says, then its transaction. -/
def routeReport (api : Api) (m : Moment) (request : HttpRequest)
    (report : Except Response Report) (s : WorkerApiState) : Response × WorkerApiState :=
  match authenticate m request s with
  | (.error response, s) => (response, s)
  | (.ok session, s) =>
    match taskFenceHeaders request with
    | .error response => (response, s)
    | .ok (taskId, generation) =>
      match report with
      | .error response => (response, s)
      | .ok report =>
        let (result, db) := executeWithRetry
          (report.transaction api m.now taskId session.sessionId generation) s.db
        (transitionResponse api result, { s with db })

def routeTaskHeartbeat (api : Api) (m : Moment) (request : HttpRequest) (s : WorkerApiState) :
    Response × WorkerApiState :=
  match requireEmptyBody request with
  | .error response => (response, s)
  | .ok () => routeReport api m request (.ok .heartbeat) s

def jsonType : List Char := "application/json".toList

def readProjection (request : HttpRequest) : Except Response Report :=
  if request.body = [] then .ok (.complete none)
  else
    let contentType := (request.header "content-type").getD ""
    if !jsonType.isPrefixOf (contentType.toList.map Char.toLower) then
      .error (.error 415 "Unsupported Media Type"
        "result projection body must use application/json")
    else
      match String.fromUTF8? ⟨request.body.toArray⟩ with
      | some value => .ok (.complete (if value ≠ "" then some value else none))
      | none => .error (badRequest "result projection body must be valid UTF-8")

def routeTaskComplete (api : Api) (m : Moment) (request : HttpRequest) (s : WorkerApiState) :
    Response × WorkerApiState :=
  routeReport api m request (readProjection request) s

def readFailure (request : HttpRequest) : Except Response Report := do
  let errorCode ← requiredHeader request "x-worker-error-code"
  orBadRequest (validateIdentifier errorCode 128 "x-worker-error-code")
  .ok (.fail ("worker_error:" ++ errorCode))

def routeTaskFail (api : Api) (m : Moment) (request : HttpRequest) (s : WorkerApiState) :
    Response × WorkerApiState :=
  match requireEmptyBody request with
  | .error response => (response, s)
  | .ok () => routeReport api m request (readFailure request) s

/-! ### The table of routes -/

def routeReady (api : Api) (m : Moment) : Response :=
  match m.ping with
  | .ok () => ⟨200, "OK", "\x7b\"status\":\"ready\"\x7d"⟩
  | .error error => .error 503 "Service Unavailable" (api.display error)

def isTo (request : HttpRequest) (method path : String) : Bool :=
  decide (request.method = method ∧ request.path = path)

def answered (answer : Response × WorkerApiState) : Option Response × WorkerApiState :=
  (some answer.1, answer.2)

def route (api : Api) (m : Moment) (request : HttpRequest) (s : WorkerApiState) :
    Option Response × WorkerApiState :=
  if isTo request "GET" "/healthz" then
    (some ⟨200, "OK", "\x7b\"status\":\"ok\",\"version\":\"" ++ api.version ++ "\"\x7d"⟩, s)
  else if isTo request "GET" "/readyz" then (some (routeReady api m), s)
  else if isTo request "POST" "/v1/register" then routeRegister api m request s
  else if isTo request "POST" "/v1/session/heartbeat" then
    answered (routeSessionHeartbeat m request s)
  else if isTo request "POST" "/v1/claim" then answered (routeClaim api m request s)
  else if isTo request "POST" "/v1/task/heartbeat" then
    answered (routeTaskHeartbeat api m request s)
  else if isTo request "POST" "/v1/task/complete" then
    answered (routeTaskComplete api m request s)
  else if isTo request "POST" "/v1/task/fail" then
    answered (routeTaskFail api m request s)
  else (some (.error 404 "Not Found" "worker route not found"), s)

/-- `serve_worker_connection`: a request that cannot be read is answered with its error. -/
def serveWorkerConnection (api : Api) (m : Moment) (ending : Ending)
    (pieces : List (List UInt8)) (s : WorkerApiState) : Option Response × WorkerApiState :=
  match readRequest workerApi ending pieces with
  | .ok request => route api m request s
  | .error error => (some (.error error.status error.reason error.message), s)

/-! ### What a request comes to -/

/-- The request's credentials are those of a session that has not expired. -/
def Authentic (m : Moment) (request : HttpRequest) (s : WorkerApiState)
    (session : WorkerSession) : Prop :=
  ∃ sessionId sessionToken, credentials request = .ok (sessionId, sessionToken) ∧
    (authenticateAndTouchAt s.registry.registry sessionId sessionToken m.instant).1 = some session

/-- The report a request makes, by its route, its headers and its body. -/
structure Reports (request : HttpRequest) (taskId generation : Int) (report : Report) : Prop where
  fence : taskFenceHeaders request = .ok (taskId, generation)
  made : (isTo request "POST" "/v1/task/heartbeat" ∧ request.body = [] ∧ report = .heartbeat) ∨
    (isTo request "POST" "/v1/task/complete" ∧ readProjection request = .ok report) ∨
    (isTo request "POST" "/v1/task/fail" ∧ request.body = [] ∧ readFailure request = .ok report)

def ofTasks (request : HttpRequest) : Bool :=
  isTo request "POST" "/v1/claim" || isTo request "POST" "/v1/task/heartbeat" ||
    isTo request "POST" "/v1/task/complete" || isTo request "POST" "/v1/task/fail"

/-- A request is granted a task, or applies a report, or leaves the queue as it was. -/
inductive Effect (api : Api) (m : Moment) (request : HttpRequest) (s : WorkerApiState) :
    Option Response → Db → Prop
  | none {answer : Option Response}
      (silent : ofTasks request → ∀ response, answer = some response → response.status ≠ 200) :
      Effect api m request s answer s.db
  | claimed {session : WorkerSession} {task : FencedClaimedTask} {db : Db}
      (path : isTo request "POST" "/v1/claim") (authentic : Authentic m request s session)
      (served : claimTask m.now session.sessionId s.db = .ok (some task, db)) :
      Effect api m request s (some ⟨200, "OK", claimJson task api.taskLease.millis⟩) db
  | reported {session : WorkerSession} {taskId generation : Int} {report : Report} {db : Db}
      (reports : Reports request taskId generation report)
      (authentic : Authentic m request s session)
      (accepted : report.transaction api m.now taskId session.sessionId generation s.db =
        .ok (.applied, db)) :
      Effect api m request s (some applied) db

/-! ### Refusals -/

theorem bind_error {ε α β : Type} {x : Except ε α} {f : α → Except ε β} {e : ε}
    (h : (x >>= f) = .error e) : x = .error e ∨ ∃ a, x = .ok a ∧ f a = .error e := by
  cases x with
  | error refused =>
    cases h
    exact Or.inl rfl
  | ok a => exact Or.inr ⟨a, rfl, h⟩

theorem orBadRequest_error {checked : Except String Unit} {response : Response}
    (h : orBadRequest checked = .error response) : response.status = 400 := by
  cases checked with
  | error message =>
    cases h
    rfl
  | ok done => cases h

theorem requiredHeader_error {request : HttpRequest} {name : String} {response : Response}
    (h : requiredHeader request name = .error response) : response.status = 400 := by
  unfold requiredHeader at h
  split at h
  · cases h
  · cases h
    rfl

theorem parseBoundedI64Header_error {request : HttpRequest} {name : String} {min max : Int}
    {response : Response} (h : parseBoundedI64Header request name min max = .error response) :
    response.status = 400 := by
  rcases bind_error h with missing | ⟨raw, _, h⟩
  · exact requiredHeader_error missing
  · split at h
    · cases h
    · cases h
      rfl

theorem taskFenceHeaders_error {request : HttpRequest} {response : Response}
    (h : taskFenceHeaders request = .error response) : response.status = 400 := by
  rcases bind_error h with first | ⟨taskId, _, h⟩
  · exact parseBoundedI64Header_error first
  · rcases bind_error h with second | ⟨generation, _, h⟩
    · exact parseBoundedI64Header_error second
    · cases h

theorem requireEmptyBody_cases (request : HttpRequest) :
    (request.body = [] ∧ requireEmptyBody request = .ok ()) ∨
      ∃ response, requireEmptyBody request = .error response ∧ response.status = 400 := by
  unfold requireEmptyBody
  by_cases empty : request.body = []
  · exact Or.inl ⟨empty, if_pos empty⟩
  · exact Or.inr ⟨_, if_neg empty, rfl⟩

theorem credentials_error {request : HttpRequest} {response : Response}
    (h : credentials request = .error response) :
    response.status = 400 ∨ response.status = 401 := by
  rcases bind_error h with missing | ⟨sessionId, _, h⟩
  · exact Or.inl (requiredHeader_error missing)
  · rcases bind_error h with missing | ⟨sessionToken, _, h⟩
    · exact Or.inl (requiredHeader_error missing)
    · split at h
      · cases h
        exact Or.inr rfl
      split at h
      · cases h
        exact Or.inr rfl
      · cases h

theorem readProjection_error {request : HttpRequest} {response : Response}
    (h : readProjection request = .error response) :
    response.status = 400 ∨ response.status = 415 := by
  unfold readProjection at h
  split at h
  · cases h
  dsimp only at h
  split at h
  · cases h
    exact Or.inr rfl
  split at h
  · cases h
  · cases h
    exact Or.inl rfl

theorem readFailure_error {request : HttpRequest} {response : Response}
    (h : readFailure request = .error response) : response.status = 400 := by
  rcases bind_error h with missing | ⟨errorCode, _, h⟩
  · exact requiredHeader_error missing
  · rcases bind_error h with invalid | ⟨_, _, h⟩
    · exact orBadRequest_error invalid
    · cases h

theorem requireEmptyBody_error {request : HttpRequest} {response : Response}
    (h : requireEmptyBody request = .error response) : response.status = 400 := by
  rcases requireEmptyBody_cases request with ⟨_, passed⟩ | ⟨other, refused, status⟩
  · rw [passed] at h
    cases h
  · rw [refused] at h
    cases h
    exact status

theorem checkedTaskNames_error {values : List String} {response : Response}
    (h : checkedTaskNames values = .error response) : response.status = 400 := by
  induction values with
  | nil => cases h
  | cons value values ih =>
    rw [checkedTaskNames] at h
    rcases bind_error h with invalid | ⟨_, _, h⟩
    · exact orBadRequest_error invalid
    · rcases bind_error h with later | ⟨rest, _, h⟩
      · exact ih later
      · cases h

theorem parseWorkerTaskNames_error {request : HttpRequest} {response : Response}
    (h : parseWorkerTaskNames request = .error response) : response.status = 400 := by
  rcases bind_error h with missing | ⟨raw, _, h⟩
  · exact requiredHeader_error missing
  · split at h
    · cases h
      rfl
    · rcases bind_error h with invalid | ⟨taskNames, _, h⟩
      · exact checkedTaskNames_error invalid
      · split at h
        · cases h
          rfl
        split at h
        · cases h
          rfl
        · cases h

theorem readRegistering_error {request : HttpRequest} {response : Response}
    (h : readRegistering request = .error response) : response.status = 400 := by
  rcases bind_error h with filled | ⟨_, _, h⟩
  · exact requireEmptyBody_error filled
  rcases bind_error h with missing | ⟨workerId, _, h⟩
  · exact requiredHeader_error missing
  rcases bind_error h with missing | ⟨workerType, _, h⟩
  · exact requiredHeader_error missing
  rcases bind_error h with invalid | ⟨_, _, h⟩
  · exact orBadRequest_error invalid
  rcases bind_error h with invalid | ⟨_, _, h⟩
  · exact orBadRequest_error invalid
  rcases bind_error h with invalid | ⟨capacity, _, h⟩
  · exact parseBoundedI64Header_error invalid
  rcases bind_error h with invalid | ⟨taskNames, _, h⟩
  · exact parseWorkerTaskNames_error invalid
  · cases h

/-! ### Authentication -/

def WorkerApiState.touched (s : WorkerApiState) (sessionId sessionToken : String)
    (now : Instant) : WorkerApiState :=
  ⟨s.db, SessionRegistry.step (.authenticateAndTouch sessionId sessionToken now) s.registry⟩

/-- Authentication is one call of the registry, and leaves the queue alone. -/
inductive Authenticated (m : Moment) (request : HttpRequest) (s : WorkerApiState) :
    Except Response WorkerSession → WorkerApiState → Prop
  | malformed {response : Response} (refused : credentials request = .error response) :
      Authenticated m request s (.error response) s
  | unknown {sessionId sessionToken : String}
      (given : credentials request = .ok (sessionId, sessionToken))
      (refused : (authenticateAndTouchAt s.registry.registry sessionId sessionToken
        m.instant).1 = none) :
      Authenticated m request s
        (.error (.error 401 "Unauthorized" "invalid or expired worker session"))
        (s.touched sessionId sessionToken m.instant)
  | known {sessionId sessionToken : String} {session : WorkerSession}
      (given : credentials request = .ok (sessionId, sessionToken))
      (live : (authenticateAndTouchAt s.registry.registry sessionId sessionToken
        m.instant).1 = some session) :
      Authenticated m request s (.ok session)
        (s.touched sessionId sessionToken m.instant)

theorem authenticateAndTouch_fst (w : SessionRegistry.Logged) (sessionId sessionToken : String)
    (now : Instant) : (SessionRegistry.authenticateAndTouch w sessionId sessionToken now).1 =
      (authenticateAndTouchAt w.registry sessionId sessionToken now).1 := by
  unfold SessionRegistry.authenticateAndTouch
  split
  · rename_i registry answer
    rw [answer]
  · rename_i session registry answer
    rw [answer]

theorem authenticate_cases (m : Moment) (request : HttpRequest) (s : WorkerApiState) :
    Authenticated m request s (authenticate m request s).1 (authenticate m request s).2 := by
  unfold authenticate
  split
  · rename_i response refused
    exact .malformed refused
  · rename_i sessionId sessionToken given
    have registry : (SessionRegistry.authenticateAndTouch s.registry sessionId sessionToken
        m.instant).2 = SessionRegistry.step
          (.authenticateAndTouch sessionId sessionToken m.instant) s.registry := rfl
    have answer := authenticateAndTouch_fst s.registry sessionId sessionToken m.instant
    split
    · rename_i session registry' result
      rw [result] at registry answer
      rw [show registry' = _ from registry]
      exact .known given answer.symm
    · rename_i registry' result
      rw [result] at registry answer
      rw [show registry' = _ from registry]
      exact .unknown given answer.symm

theorem Authenticated.db {m : Moment} {request : HttpRequest} {s s' : WorkerApiState}
    {answer : Except Response WorkerSession} (h : Authenticated m request s answer s') :
    s'.db = s.db := by
  cases h with
  | malformed => rfl
  | unknown => rfl
  | known => rfl

theorem Authenticated.refusal {m : Moment} {request : HttpRequest} {s s' : WorkerApiState}
    {response : Response} (h : Authenticated m request s (.error response) s') :
    response.status ≠ 200 := by
  cases h with
  | malformed refused =>
    have := credentials_error refused
    omega
  | unknown => decide

theorem Authenticated.session {m : Moment} {request : HttpRequest} {s s' : WorkerApiState}
    {session : WorkerSession} (h : Authenticated m request s (.ok session) s') :
    Authentic m request s session := by
  cases h with
  | known given live => exact ⟨_, _, given, live⟩

/-! ### Reports -/

def Report.call (api : Api) (now : Seconds) : Report → LeaseSafety.FencedCall
  | .heartbeat => .heartbeat now api.taskLease.secs
  | .complete none => .completeTask now
  | .complete (some resultJson) => .completeWithProjection now resultJson
  | .fail error => .failTask now error

def Report.op (api : Api) (now : Seconds) (taskId : Int) (sessionId : String) (generation : Int)
    (report : Report) : QueueRuns.Op :=
  (report.call api now).op taskId sessionId generation

section Reports
variable (api : Api) (now : Seconds) (taskId : Int) (sessionId : String) (generation : Int)
  (report : Report) (db : Db)

theorem report_exec : QueueRuns.exec (report.op api now taskId sessionId generation) db =
    QueueRuns.answer .mutation (report.transaction api now taskId sessionId generation) db := by
  cases report with
  | heartbeat => rfl
  | complete resultJson => cases resultJson <;> rfl
  | fail error => rfl

/-- A report is applied under the lease it quotes, or it is stale and changes nothing. -/
def Settled (result : Except QueueError (LeaseMutation × Db)) : Prop :=
  (∃ t db', TaskLife.Holds (TaskLife.view db taskId) sessionId generation now t ∧
    result = .ok (.applied, db')) ∨
  ((∀ t, ¬ TaskLife.Holds (TaskLife.view db taskId) sessionId generation now t) ∧
    result = .ok (.stale, db))

theorem fencedUpdate_settled (set : Task → Task) (keeps : ∀ t, (set t).id = t.id) :
    Settled now taskId sessionId generation db
      (.ok (fencedUpdate taskId sessionId generation now set keeps db)) := by
  rcases fencedUpdate_cases taskId sessionId generation now set keeps db with
    ⟨t, db', holds, ran, _⟩ | ⟨none, ran⟩
  · exact Or.inl ⟨t, db', holds, congrArg Except.ok ran⟩
  · exact Or.inr ⟨none, congrArg Except.ok ran⟩

theorem failTask_settled (error : String) :
    Settled now taskId sessionId generation db (failTask now taskId sessionId generation error db) := by
  unfold failTask
  split
  · rename_i unselected
    refine Or.inr ⟨?_, rfl⟩
    intro t holds
    have selected : (db.tasks.find? taskId).filter (fenced db taskId sessionId generation now) =
        some t := Option.filter_eq_some_iff.mpr ⟨holds.row, (fenced_iff holds.row).mpr holds⟩
    rw [unselected] at selected
    cases selected
  · split
    · exact fencedUpdate_settled now taskId sessionId generation db _ _
    · exact fencedUpdate_settled now taskId sessionId generation db _ _

/-- A result that fits its bound settles, if the task has none yet while it runs. -/
theorem completeWithProjection_settled {resultJson : String}
    (filled : resultJson.utf8ByteSize ≠ 0)
    (fits : resultJson.utf8ByteSize ≤ maxResultProjectionBytes)
    (free : ∀ t, TaskLife.Holds (TaskLife.view db taskId) sessionId generation now t →
      db.results.find? taskId = none) :
    Settled now taskId sessionId generation db
      (completeWithProjection now taskId sessionId generation resultJson db) := by
  rw [completeWithProjection, if_neg filled, if_neg (Nat.not_lt_of_le fits)]
  rcases fencedUpdate_cases taskId sessionId generation now (TaskLife.unlockAs "COMPLETED" now)
      (TaskLife.unlockAs_id "COMPLETED" now) db with
    ⟨t, db', holds, ran, _, _, _, results⟩ | ⟨none, ran⟩
  · have unused : db'.results.find? (projectionRow now taskId generation resultJson).taskId =
        none := by
      rw [projectionRow_taskId, results]
      exact free t holds
    obtain ⟨results, stored⟩ := KeyedTable.Table.insert?_of_absent unused
    rw [ran]
    simp only [stored]
    exact Or.inl ⟨t, _, holds, rfl⟩
  · rw [ran]
    exact Or.inr ⟨none, rfl⟩

/-- What the result of a report has to meet. -/
def Report.Fits : Report → Prop
  | .complete (some resultJson) =>
    resultJson.utf8ByteSize ≠ 0 ∧ resultJson.utf8ByteSize ≤ maxResultProjectionBytes
  | _ => True

theorem report_settled (fits : report.Fits)
    (free : ∀ t, TaskLife.Holds (TaskLife.view db taskId) sessionId generation now t →
      db.results.find? taskId = none) :
    Settled now taskId sessionId generation db
      (report.transaction api now taskId sessionId generation db) := by
  cases report with
  | heartbeat => exact fencedUpdate_settled now taskId sessionId generation db _ _
  | complete resultJson =>
    cases resultJson with
    | none => exact fencedUpdate_settled now taskId sessionId generation db _ _
    | some resultJson =>
      exact completeWithProjection_settled now taskId sessionId generation db fits.1 fits.2 free
  | fail error => exact failTask_settled now taskId sessionId generation db error

/-- What came of a report whose transaction has this result. -/
def Unapplied (result : Except QueueError LeaseMutation) (db' : Db) : Prop :=
  (∃ t, TaskLife.Holds (TaskLife.view db taskId) sessionId generation now t ∧
    result = .ok .applied) ∨
  (result ≠ .ok .applied ∧ db' = db)

theorem Settled.unapplied {tx : Transaction LeaseMutation}
    (settled : Settled now taskId sessionId generation db (tx db)) :
    Unapplied now taskId sessionId generation db (executeWithRetry tx db).1
      (executeWithRetry tx db).2 := by
  rcases settled with ⟨t, db', holds, done⟩ | ⟨_, done⟩
  · rw [executeWithRetry_ok done]
    exact Or.inl ⟨t, holds, rfl⟩
  · rw [executeWithRetry_ok done]
    exact Or.inr ⟨fun same => (by cases same), rfl⟩

theorem completeWithProjection_unapplied (resultJson : String) :
    Unapplied now taskId sessionId generation db
      (executeWithRetry (completeWithProjection now taskId sessionId generation resultJson) db).1
      (executeWithRetry (completeWithProjection now taskId sessionId generation resultJson) db).2 := by
  cases done : completeWithProjection now taskId sessionId generation resultJson db with
  | error error =>
    rw [executeWithRetry_error done]
    exact Or.inr ⟨fun same => (by cases same), rfl⟩
  | ok outcome =>
    obtain ⟨mutation, after⟩ := outcome
    rw [executeWithRetry_ok done]
    rcases completeWithProjection_cases done with ⟨rfl, rfl, _⟩ | ⟨rfl, _, _, t, holds, _⟩
    · exact Or.inr ⟨fun same => (by cases same), rfl⟩
    · exact Or.inl ⟨t, holds, rfl⟩

/-- A report that is applied quotes a lease that is held; another changes nothing. -/
theorem report_unapplied :
    Unapplied now taskId sessionId generation db
      (executeWithRetry (report.transaction api now taskId sessionId generation) db).1
      (executeWithRetry (report.transaction api now taskId sessionId generation) db).2 := by
  cases report with
  | heartbeat => exact Settled.unapplied _ _ _ _ _ (fencedUpdate_settled now _ _ _ db _ _)
  | fail error => exact Settled.unapplied _ _ _ _ _ (failTask_settled now _ _ _ db error)
  | complete resultJson =>
    cases resultJson with
    | none => exact Settled.unapplied _ _ _ _ _ (fencedUpdate_settled now _ _ _ db _ _)
    | some resultJson => exact completeWithProjection_unapplied now _ _ _ db resultJson

end Reports

/-! ### The effect of a request -/

theorem claim_cases (now : Seconds) (sessionId : String) (db : Db) :
    (∃ task db', claimTask now sessionId db = .ok (some task, db') ∧
      executeWithRetry (claimTask now sessionId) db = (.ok (some task), db')) ∨
    ((executeWithRetry (claimTask now sessionId) db).2 = db ∧
      ∀ task, (executeWithRetry (claimTask now sessionId) db).1 ≠ .ok (some task)) := by
  cases done : claimTask now sessionId db with
  | error error =>
    rw [executeWithRetry_error done]
    exact Or.inr ⟨rfl, fun task same => (by cases same)⟩
  | ok outcome =>
    obtain ⟨claimed, db'⟩ := outcome
    rw [executeWithRetry_ok done]
    cases claimed with
    | some task => exact Or.inl ⟨task, db', rfl, rfl⟩
    | none =>
      refine Or.inr ⟨?_, fun task same => (by cases same)⟩
      unfold claimTask at done
      split at done
      · cases done
        rfl
      dsimp only at done
      split at done
      · cases done
        rfl
      split at done
      · cases done
      · cases done

theorem claimResponse_status {api : Api} {claimed : Except QueueError (Option FencedClaimedTask)}
    (none : ∀ task, claimed ≠ .ok (some task)) : (claimResponse api claimed).status ≠ 200 := by
  unfold claimResponse
  split
  · rename_i task
    exact absurd rfl (none task)
  · decide
  · exact (by decide : (500 : Nat) ≠ 200)

theorem transitionResponse_status {api : Api} {result : Except QueueError LeaseMutation}
    (unapplied : result ≠ .ok .applied) : (transitionResponse api result).status ≠ 200 := by
  unfold transitionResponse
  split
  · exact absurd rfl unapplied
  · exact (by decide : (409 : Nat) ≠ 200)
  · exact (by decide : (500 : Nat) ≠ 200)

variable {api : Api} {m : Moment} {request : HttpRequest} {s : WorkerApiState}

/-- A refusal of a route that asks for a task. -/
theorem Effect.refused {response : Response} (refusal : response.status ≠ 200) {db : Db}
    (same : db = s.db) : Effect api m request s (some response) db := by
  rw [same]
  refine .none fun _ answer shown => ?_
  cases shown
  exact refusal

theorem routeClaim_effect (path : isTo request "POST" "/v1/claim") :
    Effect api m request s (some (routeClaim api m request s).1)
      (routeClaim api m request s).2.db := by
  unfold routeClaim
  rcases requireEmptyBody_cases request with ⟨_, empty⟩ | ⟨response, filled, status⟩
  · rw [empty]
    have cases := authenticate_cases m request s
    generalize authenticate m request s = answer at cases ⊢
    obtain ⟨answer, s'⟩ := answer
    cases answer with
    | error response => exact Effect.refused cases.refusal cases.db
    | ok session =>
      dsimp only
      rw [cases.db]
      rcases claim_cases m.now session.sessionId s.db with
        ⟨task, db', served, ran⟩ | ⟨same, none⟩
      · rw [ran]
        exact .claimed path cases.session served
      · exact Effect.refused (claimResponse_status none) same
  · rw [filled]
    exact Effect.refused (by rw [status]; decide) rfl

theorem routeReport_effect {read : Except Response Report}
    (reports : ∀ taskId generation report, taskFenceHeaders request = .ok (taskId, generation) →
      read = .ok report → Reports request taskId generation report)
    (refusal : ∀ response, read = .error response → response.status ≠ 200) :
    Effect api m request s (some (routeReport api m request read s).1)
      (routeReport api m request read s).2.db := by
  unfold routeReport
  have cases := authenticate_cases m request s
  generalize authenticate m request s = answer at cases ⊢
  obtain ⟨answer, s'⟩ := answer
  cases answer with
  | error response => exact Effect.refused cases.refusal cases.db
  | ok session =>
    dsimp only
    cases fence : taskFenceHeaders request with
    | error response =>
      refine Effect.refused ?_ cases.db
      rw [taskFenceHeaders_error fence]
      decide
    | ok quoted =>
      obtain ⟨taskId, generation⟩ := quoted
      cases said : read with
      | error response => exact Effect.refused (refusal response said) cases.db
      | ok report =>
        dsimp only
        rw [cases.db]
        have outcome := report_unapplied api m.now taskId session.sessionId generation report s.db
        cases done : report.transaction api m.now taskId session.sessionId generation s.db with
        | error error =>
          rw [executeWithRetry_error done]
          have unapplied : Except.error error ≠ Except.ok LeaseMutation.applied :=
            fun same => by cases same
          exact Effect.refused (transitionResponse_status unapplied) rfl
        | ok result =>
          obtain ⟨mutation, db'⟩ := result
          rw [executeWithRetry_ok done] at outcome ⊢
          rcases outcome with ⟨t, holds, settled⟩ | ⟨unapplied, same⟩
          · cases settled
            exact .reported (reports taskId generation report fence said) cases.session done
          · exact Effect.refused (transitionResponse_status unapplied) same

theorem routeReport_of_empty {route : WorkerApiState → Response × WorkerApiState}
    {read : Except Response Report}
    (shape : ∀ s, route s = match requireEmptyBody request with
      | .error response => (response, s)
      | .ok () => routeReport api m request read s)
    (reports : ∀ taskId generation report, request.body = [] →
      taskFenceHeaders request = .ok (taskId, generation) → read = .ok report →
        Reports request taskId generation report)
    (refusal : ∀ response, read = .error response → response.status ≠ 200) :
    Effect api m request s (some (route s).1) (route s).2.db := by
  rw [shape]
  rcases requireEmptyBody_cases request with ⟨empty, passed⟩ | ⟨response, filled, status⟩
  · rw [passed]
    exact routeReport_effect (fun taskId generation report => reports taskId generation report empty)
      refusal
  · rw [filled]
    exact Effect.refused (by rw [status]; decide) rfl

theorem isTo_eq {method path : String} (h : isTo request method path) :
    request.method = method ∧ request.path = path := of_decide_eq_true h

theorem isTo_other {path : String} (own : isTo request "POST" path) {method other : String}
    (apart : (method, other) ≠ ("POST", path)) : ¬ isTo request method other = true := by
  intro same
  obtain ⟨ownMethod, ownPath⟩ := isTo_eq own
  obtain ⟨otherMethod, otherPath⟩ := isTo_eq same
  rw [← ownMethod, ← ownPath, ← otherMethod, ← otherPath] at apart
  exact apart rfl

theorem route_register (own : isTo request "POST" "/v1/register") :
    route api m request s = routeRegister api m request s := by
  rw [route, if_neg (isTo_other own (by decide)), if_neg (isTo_other own (by decide)), if_pos own]

theorem route_sessionHeartbeat (own : isTo request "POST" "/v1/session/heartbeat") :
    route api m request s = answered (routeSessionHeartbeat m request s) := by
  rw [route, if_neg (isTo_other own (by decide)), if_neg (isTo_other own (by decide)),
    if_neg (isTo_other own (by decide)), if_pos own]

theorem route_claim (own : isTo request "POST" "/v1/claim") :
    route api m request s = answered (routeClaim api m request s) := by
  rw [route, if_neg (isTo_other own (by decide)), if_neg (isTo_other own (by decide)),
    if_neg (isTo_other own (by decide)), if_neg (isTo_other own (by decide)), if_pos own]

theorem route_taskHeartbeat (own : isTo request "POST" "/v1/task/heartbeat") :
    route api m request s = answered (routeTaskHeartbeat api m request s) := by
  rw [route, if_neg (isTo_other own (by decide)), if_neg (isTo_other own (by decide)),
    if_neg (isTo_other own (by decide)), if_neg (isTo_other own (by decide)),
    if_neg (isTo_other own (by decide)), if_pos own]

theorem route_taskComplete (own : isTo request "POST" "/v1/task/complete") :
    route api m request s = answered (routeTaskComplete api m request s) := by
  rw [route, if_neg (isTo_other own (by decide)), if_neg (isTo_other own (by decide)),
    if_neg (isTo_other own (by decide)), if_neg (isTo_other own (by decide)),
    if_neg (isTo_other own (by decide)), if_neg (isTo_other own (by decide)), if_pos own]

theorem route_taskFail (own : isTo request "POST" "/v1/task/fail") :
    route api m request s = answered (routeTaskFail api m request s) := by
  rw [route, if_neg (isTo_other own (by decide)), if_neg (isTo_other own (by decide)),
    if_neg (isTo_other own (by decide)), if_neg (isTo_other own (by decide)),
    if_neg (isTo_other own (by decide)), if_neg (isTo_other own (by decide)),
    if_neg (isTo_other own (by decide)), if_pos own]

theorem routeRegister_db (api : Api) (m : Moment) (request : HttpRequest) (s : WorkerApiState) :
    (routeRegister api m request s).2.db = s.db := by
  unfold routeRegister
  split
  · rfl
  · split <;> rfl

theorem routeSessionHeartbeat_db (m : Moment) (request : HttpRequest) (s : WorkerApiState) :
    (routeSessionHeartbeat m request s).2.db = s.db := by
  unfold routeSessionHeartbeat
  split
  · rfl
  · have cases := authenticate_cases m request s
    split
    · rename_i response s' same
      rw [same] at cases
      exact cases.db
    · rename_i session s' same
      rw [same] at cases
      exact cases.db

theorem route_effect (api : Api) (m : Moment) (request : HttpRequest) (s : WorkerApiState) :
    Effect api m request s (route api m request s).1 (route api m request s).2.db := by
  have elsewhere : ∀ {method path : String}, isTo request method path →
      (method, path) ∉ [("POST", "/v1/claim"), ("POST", "/v1/task/heartbeat"),
        ("POST", "/v1/task/complete"), ("POST", "/v1/task/fail")] → ofTasks request = false := by
    intro method path to_ other
    obtain ⟨rfl, rfl⟩ := isTo_eq to_
    simp only [List.mem_cons, Prod.mk.injEq, List.not_mem_nil, or_false, not_or] at other
    obtain ⟨a, b, c, d⟩ := other
    simp only [ofTasks, isTo, decide_eq_false a, decide_eq_false b, decide_eq_false c,
      decide_eq_false d, Bool.or_self]
  have apart : ∀ {answer : Option Response}, ofTasks request = false →
      Effect api m request s answer s.db := by
    intro answer other
    refine .none fun asks => ?_
    rw [other] at asks
    cases asks
  unfold route
  split
  · rename_i path
    exact apart (elsewhere path (by decide))
  split
  · rename_i path
    exact apart (elsewhere path (by decide))
  split
  · rename_i path
    rw [routeRegister_db]
    exact apart (elsewhere path (by decide))
  split
  · rename_i path
    rw [answered, routeSessionHeartbeat_db]
    exact apart (elsewhere path (by decide))
  split
  · rename_i path
    exact routeClaim_effect path
  split
  · rename_i path
    refine routeReport_of_empty (fun _ => rfl) ?_ ?_
    · intro taskId generation report empty fence said
      cases said
      exact ⟨fence, Or.inl ⟨path, empty, rfl⟩⟩
    · intro response refused
      cases refused
  split
  · rename_i path
    refine routeReport_effect ?_ ?_
    · intro taskId generation report fence said
      exact ⟨fence, Or.inr (Or.inl ⟨path, said⟩)⟩
    · intro response refused
      have := readProjection_error refused
      omega
  split
  · rename_i path
    refine routeReport_of_empty (fun _ => rfl) ?_ ?_
    · intro taskId generation report empty fence said
      exact ⟨fence, Or.inr (Or.inr ⟨path, empty, said⟩)⟩
    · intro response refused
      have := readFailure_error refused
      omega
  · refine .none fun _ response shown => ?_
    cases shown
    decide

/-! ### The registry after a request -/

/-- A request calls the registry once, at its own time, or not at all. -/
inductive Calls (m : Moment) (request : HttpRequest) (before : SessionRegistry.Logged) :
    SessionRegistry.Logged → Prop
  | none : Calls m request before before
  | touch (sessionId sessionToken : String) : Calls m request before
      (SessionRegistry.step (.authenticateAndTouch sessionId sessionToken m.instant) before)
  | register {r : Registering} (path : isTo request "POST" "/v1/register")
      (read : readRegistering request = .ok r) : Calls m request before
      (SessionRegistry.step (.register r.workerId (fromDb r.workerType) r.capacity r.taskNames
        m.instant m.candidates m.sessionToken) before)

theorem Authenticated.calls {answer : Except Response WorkerSession} {s' : WorkerApiState}
    (h : Authenticated m request s answer s') : Calls m request s.registry s'.registry := by
  cases h with
  | malformed => exact .none
  | unknown => exact .touch _ _
  | known => exact .touch _ _

theorem authenticate_calls {answer : Except Response WorkerSession} {s' : WorkerApiState}
    (same : authenticate m request s = (answer, s')) : Calls m request s.registry s'.registry := by
  have cases := authenticate_cases m request s
  rw [same] at cases
  exact cases.calls

theorem routeRegister_calls (path : isTo request "POST" "/v1/register") :
    Calls m request s.registry (routeRegister api m request s).2.registry := by
  unfold routeRegister
  split
  · exact .none
  · rename_i r read
    have called : Calls m request s.registry _ := .register path read
    rw [SessionRegistry.step] at called
    split
    · rename_i error registry made
      rw [made] at called
      exact called
    · rename_i registry made
      rw [made] at called
      exact called
    · rename_i registration registry made
      rw [made] at called
      exact called

theorem routeSessionHeartbeat_calls :
    Calls m request s.registry (routeSessionHeartbeat m request s).2.registry := by
  unfold routeSessionHeartbeat
  split
  · exact .none
  · split
    · rename_i response s' same
      exact authenticate_calls same
    · rename_i session s' same
      exact authenticate_calls same

theorem routeClaim_calls : Calls m request s.registry (routeClaim api m request s).2.registry := by
  unfold routeClaim
  split
  · exact .none
  · split
    · rename_i response s' same
      exact authenticate_calls same
    · rename_i session s' same
      have calls := authenticate_calls same
      exact calls

theorem routeReport_calls (read : Except Response Report) :
    Calls m request s.registry (routeReport api m request read s).2.registry := by
  unfold routeReport
  split
  · rename_i response s' same
    exact authenticate_calls same
  · rename_i session s' same
    have calls := authenticate_calls same
    split
    · exact calls
    · split <;> exact calls

theorem route_calls : Calls m request s.registry (route api m request s).2.registry := by
  unfold route
  split
  · exact .none
  split
  · exact .none
  split
  · rename_i path
    exact routeRegister_calls path
  split
  · exact routeSessionHeartbeat_calls
  split
  · exact routeClaim_calls
  split
  · rw [answered, routeTaskHeartbeat]
    split
    · exact .none
    · exact routeReport_calls _
  split
  · exact routeReport_calls _
  split
  · rw [answered, routeTaskFail]
    split
    · exact .none
    · exact routeReport_calls _
  · exact .none

/-! ### The answer to a report -/

theorem authenticate_of_authentic {session : WorkerSession}
    (authentic : Authentic m request s session) :
    ∃ s', authenticate m request s = (.ok session, s') := by
  obtain ⟨sessionId, sessionToken, given, live⟩ := authentic
  have cases := authenticate_cases m request s
  generalize authenticate m request s = answer at cases ⊢
  obtain ⟨answer, s'⟩ := answer
  cases cases with
  | malformed refused =>
    rw [given] at refused
    cases refused
  | unknown given' refused =>
    rw [given] at given'
    cases given'
    rw [live] at refused
    cases refused
  | known given' live' =>
    rw [given] at given'
    cases given'
    rw [live] at live'
    cases live'
    exact ⟨_, rfl⟩

variable (api) in
/-- A report of a live session is answered by what its transaction comes to. -/
theorem route_of_reports {session : WorkerSession} {taskId generation : Int} {report : Report}
    (reports : Reports request taskId generation report)
    (authentic : Authentic m request s session) :
    (route api m request s).1 = some (transitionResponse api (executeWithRetry
      (report.transaction api m.now taskId session.sessionId generation) s.db).1) := by
  obtain ⟨s', known⟩ := authenticate_of_authentic authentic
  have unchanged : s'.db = s.db := by
    have cases := authenticate_cases m request s
    rw [known] at cases
    exact cases.db
  have shared : (routeReport api m request (.ok report) s).1 = transitionResponse api
      (executeWithRetry (report.transaction api m.now taskId session.sessionId generation)
        s.db).1 := by
    rw [routeReport, known]
    dsimp only
    rw [reports.fence]
    dsimp only
    rw [unchanged]
  rcases reports.made with ⟨own, empty, rfl⟩ | ⟨own, read⟩ | ⟨own, empty, read⟩
  · rw [route_taskHeartbeat own, answered, routeTaskHeartbeat, requireEmptyBody, if_pos empty]
    exact congrArg some shared
  · rw [route_taskComplete own, answered, routeTaskComplete, read]
    exact congrArg some shared
  · rw [route_taskFail own, answered, routeTaskFail, requireEmptyBody, if_pos empty, read]
    exact congrArg some shared

end WorkerRoutes
