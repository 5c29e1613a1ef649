import TaskQueQue.QueueRuns
import TaskQueQue.GatewayValues

/-!
# The queue daemon's local API

The routes of the daemon that the gateway calls. A route validates what it was
sent, runs one operation of the queue, and answers with its outcome. The headers
of a submission are a record: the gateway sends all of them, and always with an
idempotency key.

Responses are compared as JSON values. A database error is answered with 500, and
a gateway reads no more of it than its status.
-/

namespace LocalApi

open QueueValues QueueTables QueueRuns GatewayValues

def MAX_ACTIVE_TASK_POLICY_LIMIT : Int := 1000000

structure EnqueueRequest where
  taskName : String
  taskType : String
  priority : Int
  maxRetries : Int
  idempotencyKey : String
  requestFingerprint : String
  maxActiveTasks : Int
  body : String

def hexDigit (c : Char) : Bool :=
  decide ('a' ≤ c ∧ c ≤ 'f') || decide ('A' ≤ c ∧ c ≤ 'F') || decide ('0' ≤ c ∧ c ≤ '9')

def validateIdentifier (value : String) (maxLen : Nat) (header : String) : Except String Unit :=
  if value = "" ∨ maxLen < value.utf8ByteSize then
    .error (header ++ " length must be between 1 and " ++ toString maxLen)
  else if !value.toList.all fun c => asciiAlphanumeric c || "._-:/".toList.contains c then
    .error (header ++ " may contain only ASCII alphanumeric characters and . _ - : /")
  else .ok ()

def validateIdempotencyKey (value : String) : Except String Unit :=
  if value = "" ∨ 128 < value.utf8ByteSize then
    .error "x-idempotency-key length must be between 1 and 128"
  else if !value.toList.all fun c => asciiAlphanumeric c || "._-:".toList.contains c then
    .error "x-idempotency-key may contain only ASCII alphanumeric characters and . _ - :"
  else .ok ()

def validateRequestFingerprint (value : String) : Except String Unit :=
  if value.utf8ByteSize ≠ 64 ∨ !value.toList.all hexDigit then
    .error "x-request-fingerprint must be a 64-character hexadecimal SHA-256 digest"
  else .ok ()

def requiredHeader (value name : String) : Except String Unit :=
  if value = "" then .error ("missing " ++ name ++ " header") else .ok ()

def boundedI64 (value min max : Int) (message : String) : Except String Unit :=
  if min ≤ value ∧ value ≤ max then .ok () else .error message

/-- The checks of a submission, in the order they are made. -/
def EnqueueRequest.validate (r : EnqueueRequest) : Except String Unit := do
  requiredHeader r.taskName "x-task-name"
  requiredHeader r.taskType "x-task-type"
  validateIdentifier r.taskName 128 "x-task-name"
  validateIdentifier r.taskType 64 "x-task-type"
  validateIdempotencyKey r.idempotencyKey
  validateRequestFingerprint r.requestFingerprint
  boundedI64 r.maxActiveTasks 1 MAX_ACTIVE_TASK_POLICY_LIMIT
    "x-queue-max-active-tasks must be an integer between 1 and 1000000"
  boundedI64 r.priority i64Min i64Max "x-task-priority must be a signed integer"
  boundedI64 r.maxRetries i64Min i64Max "x-task-max-retries must be a signed integer"
  boundedI64 r.maxRetries 0 100 "x-task-max-retries must be between 0 and 100"

def EnqueueRequest.op (r : EnqueueRequest) (now : Seconds) : Op :=
  .enqueueBounded now r.idempotencyKey r.requestFingerprint r.taskName r.taskType r.body
    r.priority r.maxRetries r.maxActiveTasks

def accepted (taskId : Int) (idempotency : String) : Response :=
  ⟨202, some (.obj [("task_id", .num taskId), ("status", .str "PENDING"),
    ("idempotency", .str idempotency)])⟩

def routeEnqueue (now : Seconds) (r : EnqueueRequest) (db : Db) : Response × Db :=
  match r.validate with
  | .error message => (.error 400 message, db)
  | .ok () =>
    let (reply, db') := exec (r.op now) db
    (match reply with
      | .admission (.created taskId) => accepted taskId "created"
      | .admission (.replayed taskId) => accepted taskId "replayed"
      | .admission .conflict => .error 409
          "idempotency key was already used with a different request fingerprint"
      | .admission (.full _ _) => .error 503 "active task admission capacity reached"
      | _ => ⟨500, none⟩, db')

/-! ### Routes that name a task -/

def decimal? (digits : List Char) : Option Nat :=
  if digits = [] ∨ !digits.all fun c => decide ('0' ≤ c ∧ c ≤ '9') then none
  else some (digits.foldl (fun n c => 10 * n + (c.toNat - '0'.toNat)) 0)

/-- `parse::<i64>`. -/
def parseI64 (text : String) : Option Int :=
  let value := match text.toList with
    | '-' :: digits => (decimal? digits).map fun n => -(n : Int)
    | '+' :: digits => (decimal? digits).map Int.ofNat
    | digits => (decimal? digits).map Int.ofNat
  value.filter fun n => decide (i64Min ≤ n ∧ n ≤ i64Max)

theorem decimal?_toDigits (n : Nat) : decimal? (Nat.toDigits 10 n) = some n := by
  rw [decimal?, if_neg]
  · rw [← Nat.ofDigitChars_eq_foldl, Nat.ofDigitChars_toDigits (by decide) (by decide)]
  · rintro (empty | other)
    · exact Nat.toDigits_ne_nil empty
    · rw [Bool.not_eq_true', ← Bool.not_eq_true, List.all_eq_true] at other
      refine other fun c mem => ?_
      have digit := Nat.isDigit_of_mem_toDigits (by decide) (by decide) mem
      rw [Char.isDigit, Bool.and_eq_true, decide_eq_true_eq, decide_eq_true_eq] at digit
      exact decide_eq_true digit

theorem parseI64_toString {n : Int} (lower : i64Min ≤ n) (upper : n ≤ i64Max) :
    parseI64 (toString n) = some n := by
  have range : decide (i64Min ≤ n ∧ n ≤ i64Max) = true := decide_eq_true ⟨lower, upper⟩
  cases n with
  | ofNat m =>
    have digits : (toString (Int.ofNat m)).toList = Nat.toDigits 10 m := Nat.toList_repr
    have plain : ∀ c ∈ Nat.toDigits 10 m, c ≠ '-' ∧ c ≠ '+' := by
      intro c mem
      have digit := Nat.isDigit_of_mem_toDigits (by decide) (by decide) mem
      exact ⟨by rintro rfl; simp at digit, by rintro rfl; simp at digit⟩
    rw [parseI64, digits]
    cases shown : Nat.toDigits 10 m with
    | nil => exact absurd shown Nat.toDigits_ne_nil
    | cons c rest =>
      have first := plain c (by rw [shown]; exact List.mem_cons_self)
      have value : decimal? (c :: rest) = some m := by rw [← shown, decimal?_toDigits]
      split
      · rename_i minus
        rw [List.cons.injEq] at minus
        exact absurd minus.1 first.1
      · rename_i plus
        rw [List.cons.injEq] at plus
        exact absurd plus.1 first.2
      · rw [value]
        exact Option.filter_eq_some_iff.mpr ⟨rfl, range⟩
  | negSucc m =>
    have digits : (toString (Int.negSucc m)).toList = '-' :: Nat.toDigits 10 (m + 1) := by
      rw [show toString (Int.negSucc m) = "-" ++ Nat.repr (m + 1) from rfl, String.toList_append,
        Nat.toList_repr]
      rfl
    rw [parseI64, digits]
    simp only [decimal?_toDigits]
    exact Option.filter_eq_some_iff.mpr ⟨rfl, range⟩

def positiveId (idText : String) : Option Int := (parseI64 idText).filter fun n => decide (0 < n)

def routeCancelTask (now : Seconds) (idText : String) (db : Db) : Response × Db :=
  match positiveId idText with
  | none => (.error 400 "task id must be a positive integer", db)
  | some taskId =>
    let cancelled (cancellation : String) : Response :=
      ⟨200, some (.obj [("task_id", .num taskId), ("status", .str "CANCELLED"),
        ("cancellation", .str cancellation)])⟩
    let (reply, db') := exec (.cancelTask now taskId) db
    (match reply with
      | .cancellation .applied => cancelled "applied"
      | .cancellation .replayed => cancelled "replayed"
      | .cancellation .notFound => .error 404 "task not found"
      | .cancellation (.terminal status) =>
        .error 409 ("task is already terminal with status " ++ status.asStr)
      | _ => ⟨500, none⟩, db')

def orNull {α : Type} (wrap : α → Json) (value : Option α) : Json := (value.map wrap).getD .null

def snapshotJson (db : Db) (t : Task) : Json :=
  .obj [("id", .num t.id), ("task_name", .str t.taskName), ("task_type", .str t.taskType),
    ("priority", .num t.priority), ("max_retries", .num t.maxRetries),
    ("retry_count", .num t.retryCount), ("status", .str t.status),
    ("locked_by", orNull .str t.lockedBy), ("locked_until", orNull .num t.lockedUntil),
    ("heartbeat_at", orNull .num t.heartbeatAt), ("error_log", orNull .str t.errorLog),
    ("scheduled_at", .num t.scheduledAt), ("created_at", .num t.createdAt),
    ("updated_at", .num t.updatedAt), ("lease_generation", .num (db.generationOf t.id))]

def routeGetTask (idText : String) (db : Db) : Response :=
  match positiveId idText with
  | none => .error 400 "task id must be a positive integer"
  | some taskId =>
    match db.tasks.find? taskId with
    | some t => ⟨200, some (snapshotJson db t)⟩
    | none => .error 404 "task not found"

def hexDigits (n : Nat) : List Char := (Nat.toDigits 16 n).leftpad 4 '0'

def jsonEscape (value : String) : String :=
  String.ofList (value.toList.flatMap fun c =>
    if c = '"' then ['\\', '"']
    else if c = '\\' then ['\\', '\\']
    else if c = '\n' then ['\\', 'n']
    else if c = '\r' then ['\\', 'r']
    else if c = '\t' then ['\\', 't']
    else if c.toNat < 32 then '\\' :: 'u' :: hexDigits c.toNat
    else [c])

def resultProjectionJson (result : ResultProjection.TaskResultProjection) : String :=
  "\x7b\"task_id\":" ++ toString result.taskId ++ ",\"result_json\":\"" ++
    jsonEscape result.resultJson ++ "\",\"result_bytes\":" ++ toString result.resultBytes ++ "\x7d"

/-- The status and the text, which the gateway bounds before it parses it. -/
def routeGetTaskResult (idText : String) (db : Db) : Nat × String :=
  match positiveId idText with
  | none => (400, "")
  | some taskId =>
    match ResultProjection.get db taskId with
    | .ok (some result) => (200, resultProjectionJson result)
    | .ok none => (404, "")
    | .error _ => (500, "")

/-! ### What the routes write -/

theorem routeEnqueue_db (now : Seconds) (r : EnqueueRequest) (db : Db) :
    (routeEnqueue now r db).2 = db ∨ (routeEnqueue now r db).2 = step (r.op now) db := by
  rw [routeEnqueue]
  split
  · exact Or.inl rfl
  · exact Or.inr rfl

theorem routeCancelTask_db (now : Seconds) (idText : String) (db : Db) :
    (routeCancelTask now idText db).2 = db ∨
      ∃ taskId, (routeCancelTask now idText db).2 = step (.cancelTask now taskId) db := by
  rw [routeCancelTask]
  split
  · exact Or.inl rfl
  · rename_i taskId _
    exact Or.inr ⟨taskId, rfl⟩

end LocalApi
