import TaskQueQue.HttpFraming
import Mathlib.Data.List.Nodup

/-!
# Submissions as HTTP requests

`route_enqueue` from the request it is handed: its headers are looked up, parsed and
validated one after the other, then its body. What comes out for a request with an
idempotency key is the record that `LocalApi.routeEnqueue` takes, and every check
that one makes has passed.
-/

namespace SubmissionRoute

open QueueValues QueueTables QueueRuns GatewayValues LocalApi HttpFraming

def requiredHeader (request : HttpRequest) (name : String) : Except Response String :=
  match (request.header name).filter fun value => decide (value ≠ "") with
  | some value => .ok value
  | none => .error (.error 400 ("missing " ++ name ++ " header"))

/-- A failed check is answered with its message. -/
def orBadRequest (checked : Except String Unit) : Except Response Unit :=
  match checked with
  | .ok () => .ok ()
  | .error message => .error (.error 400 message)

def parseIdempotencyHeaders (request : HttpRequest) : Except Response (Option (String × String)) :=
  match request.header "x-idempotency-key", request.header "x-request-fingerprint" with
  | none, none => .ok none
  | some key, some fingerprint => do
    orBadRequest (validateIdempotencyKey key)
    orBadRequest (validateRequestFingerprint fingerprint)
    .ok (some (key, fingerprint))
  | _, _ =>
    .error (.error 400 "x-idempotency-key and x-request-fingerprint must be supplied together")

def parseRequiredBoundedI64Header (request : HttpRequest) (name : String) (min max : Int) :
    Except Response Int := do
  let raw ← requiredHeader request name
  match (parseI64 raw).filter fun value => decide (min ≤ value ∧ value ≤ max) with
  | some value => .ok value
  | none => .error (.error 400
      (name ++ " must be an integer between " ++ toString min ++ " and " ++ toString max))

def parseI64Header (request : HttpRequest) (name : String) (default : Int) : Except Response Int :=
  match request.header name with
  | none => .ok default
  | some value =>
    match parseI64 value with
    | some value => .ok value
    | none => .error (.error 400 (name ++ " must be a signed integer"))

def decodeBody (request : HttpRequest) : Except Response String :=
  match String.fromUTF8? ⟨request.body.toArray⟩ with
  | some payload => .ok payload
  | none => .error (.error 400 "task payload body must be valid UTF-8")

/-- The policy is required only beside a key. -/
def maxActiveTasksHeader (request : HttpRequest) (idempotency : Option (String × String)) :
    Except Response Int :=
  if idempotency.isSome then
    parseRequiredBoundedI64Header request "x-queue-max-active-tasks" 1 MAX_ACTIVE_TASK_POLICY_LIMIT
  else .ok 0

def maxRetriesHeader (request : HttpRequest) : Except Response Int := do
  let value ← parseI64Header request "x-task-max-retries" 3
  if 0 ≤ value ∧ value ≤ 100 then .ok value
  else .error (.error 400 "x-task-max-retries must be between 0 and 100")

/-- The headers and the body; a request without a key has none of its three. -/
def readSubmission (request : HttpRequest) : Except Response (EnqueueRequest × Bool) := do
  let taskName ← requiredHeader request "x-task-name"
  let taskType ← requiredHeader request "x-task-type"
  orBadRequest (validateIdentifier taskName 128 "x-task-name")
  orBadRequest (validateIdentifier taskType 64 "x-task-type")
  let idempotency ← parseIdempotencyHeaders request
  let maxActiveTasks ← maxActiveTasksHeader request idempotency
  let priority ← parseI64Header request "x-task-priority" 0
  let maxRetries ← maxRetriesHeader request
  let body ← decodeBody request
  let (idempotencyKey, requestFingerprint) := idempotency.getD ("", "")
  .ok (⟨taskName, taskType, priority, maxRetries, idempotencyKey, requestFingerprint,
    maxActiveTasks, body⟩, idempotency.isSome)

def pendingResponse (taskId : Int) : Response :=
  ⟨202, some (.obj [("task_id", .num taskId), ("status", .str "PENDING")])⟩

def routeEnqueue (now : Seconds) (request : HttpRequest) (db : Db) : Response × Db :=
  match readSubmission request with
  | .error response => (response, db)
  | .ok (r, true) => LocalApi.routeEnqueue now r db
  | .ok (r, false) =>
    let (reply, db') :=
      exec (.enqueue now r.taskName r.taskType r.body r.priority r.maxRetries) db
    (match reply with
      | .enqueued taskId => pendingResponse taskId
      | _ => ⟨500, none⟩, db')

/-! ### Reading a record back -/

/-- The checks of a submission, each by itself. -/
structure Valid (r : EnqueueRequest) : Prop where
  taskNamed : r.taskName ≠ ""
  taskTyped : r.taskType ≠ ""
  taskName : validateIdentifier r.taskName 128 "x-task-name" = .ok ()
  taskType : validateIdentifier r.taskType 64 "x-task-type" = .ok ()
  idempotencyKey : validateIdempotencyKey r.idempotencyKey = .ok ()
  requestFingerprint : validateRequestFingerprint r.requestFingerprint = .ok ()
  maxActiveTasks : 1 ≤ r.maxActiveTasks ∧ r.maxActiveTasks ≤ MAX_ACTIVE_TASK_POLICY_LIMIT
  priority : i64Min ≤ r.priority ∧ r.priority ≤ i64Max
  maxRetries : 0 ≤ r.maxRetries ∧ r.maxRetries ≤ 100

theorem validate_of_valid {r : EnqueueRequest} (valid : Valid r) : r.validate = .ok () := by
  have retries : i64Min ≤ r.maxRetries ∧ r.maxRetries ≤ i64Max := by
    have := valid.maxRetries
    simp only [i64Min, i64Max]
    omega
  simp only [EnqueueRequest.validate, LocalApi.requiredHeader, if_neg valid.taskNamed,
    if_neg valid.taskTyped, valid.taskName, valid.taskType, valid.idempotencyKey,
    valid.requestFingerprint, boundedI64, if_pos valid.maxActiveTasks, if_pos valid.priority,
    if_pos valid.maxRetries, if_pos retries]
  rfl

/-- A request's headers and body say what the record does. -/
structure Carries (request : HttpRequest) (r : EnqueueRequest) : Prop where
  taskName : request.header "x-task-name" = some r.taskName
  taskType : request.header "x-task-type" = some r.taskType
  priority : request.header "x-task-priority" = some (toString r.priority)
  maxRetries : request.header "x-task-max-retries" = some (toString r.maxRetries)
  idempotencyKey : request.header "x-idempotency-key" = some r.idempotencyKey
  requestFingerprint : request.header "x-request-fingerprint" = some r.requestFingerprint
  maxActiveTasks : request.header "x-queue-max-active-tasks" = some (toString r.maxActiveTasks)
  body : String.fromUTF8? ⟨request.body.toArray⟩ = some r.body

theorem ok_bind {ε α β : Type} (a : α) (f : α → Except ε β) : (Except.ok a >>= f) = f a := rfl

end SubmissionRoute
