import TaskQueQue.ResultProjection
import TaskQueQue.SharedDatabase

/-!
# The Rust gateway's agents

A second gateway serves agents from the queue database. Its handlers hold one
connection for a whole request, but run each statement on its own, and go on when
one fails. A statement that names a column its table lacks does not prepare, and a
column is read only as the type it is stored with, after the statement has run.

The columns are those of the daemon's schema.
-/

namespace RustAgents

open QueueValues QueueTables KeyedTable GatewayValues AgentDirect SharedDatabase

structure PollRequest where
  agentId : String

structure ResultRequest where
  taskId : String
  agentId : String
  result : Json

/-- What a handler runs on the database; any of these may fail. -/
inductive Statement
  | autoRelease
  | claim
  | giveBack
  | insert
  | complete
deriving DecidableEq

/-- The agent that holds a token. -/
abbrev Tokens := String → Option String

def verifyToken (tokens : Tokens) (token : Option String) (agentId : String) : Bool :=
  match tokens (token.getD "") with
  | some storedId => decide (storedId = agentId)
  | none => false

/-! ### Polls -/

/-- `row.get` of a `String`. -/
def getString : Cell → Option String
  | .text value => some value
  | _ => none

/-- The row the claiming statement returns: an integer and two texts. -/
def claimedRow (task : Task) : List Cell :=
  [.integer task.id, .text task.taskName, .text task.payload]

def readRow : List Cell → Option (String × String × String)
  | [taskId, taskName, payload] =>
    match getString taskId, getString taskName, getString payload with
    | some taskId, some taskName, some payload => some (taskId, taskName, payload)
    | _, _, _ => none
  | _ => none

def autoReleaseExpired (fails : Statement → Bool) (releasedAt : Seconds) (db : Db) : Db :=
  if fails .autoRelease then db else autoRelease releasedAt db

/-- An error of any kind is no task. -/
def claim (fails : Statement → Bool) (agentId : String) (now : Seconds) (db : Db) :
    Option (String × String × String) × Db :=
  if fails .claim then (none, db)
  else
    match claimNext agentId (now + 60) now db with
    | (none, db) => (none, db)
    | (some task, db) => (readRow (claimedRow task), db)

def checkTargetsAgent (rt : Runtime) (taskName payloadJson agentId : String) : Bool :=
  match rt.parse payloadJson with
  | none => false
  | some payload =>
    let isFor := fun value : Json =>
      match value.field "agent" with
      | some (.str agent) => decide (agent = agentId)
      | _ => false
    if taskName = "workflow.run" then (Json.items (payload.field "steps")).any isFor
    else if taskName = "agent.invoke" then isFor payload
    else false

def releaseClaim (rt : Runtime) (fails : Statement → Bool) (taskId : String) (db : Db) : Db :=
  match rt.rowid (.str taskId) with
  | some id => if fails .giveBack then db else giveBack id db
  | none => db

def noContent : Response := ⟨204, some .null⟩

def poll (rt : Runtime) (tokens : Tokens) (fails : Statement → Bool) (token : Option String)
    (req : PollRequest) (releasedAt now : Seconds) (db : Db) : Response × Db :=
  if req.agentId = "" then (.error 400 "agent_id required", db)
  else if !verifyToken tokens token req.agentId then (.error 401 "invalid agent token", db)
  else
    match claim fails req.agentId now (autoReleaseExpired fails releasedAt db) with
    | (none, db) => (noContent, db)
    | (some (taskId, taskName, payloadJson), db) =>
      if checkTargetsAgent rt taskName payloadJson req.agentId then
        (⟨200, some (.obj [("task", .obj [("id", .str taskId), ("type", .str taskName),
          ("payload_json", .str payloadJson)])])⟩, db)
      else (noContent, releaseClaim rt fails taskId db)

/-! ### Results -/

def RESULT_COLUMNS : List String :=
  ["task_id", "result_json", "result_bytes", "lease_generation", "created_at"]

/-- The columns without a default that must not be null. -/
def REQUIRED_RESULT_COLUMNS : List String :=
  ["result_json", "result_bytes", "lease_generation", "created_at"]

def INSERT_COLUMNS : List String := ["task_id", "result_bytes", "lease_generation", "completed_at"]

/-- `tasks` has no `lease_generation`: the query does not prepare, and zero stands in. -/
def leaseGen : Int := 0

/-- The statement prepares only if its columns exist, and applies only if none is missing. -/
def insertResult (rt : Runtime) (req : ResultRequest) (resultStr : String) (now : Seconds)
    (db : Db) : Option Db :=
  if !(INSERT_COLUMNS.all fun column => RESULT_COLUMNS.contains column) then none
  else if !(REQUIRED_RESULT_COLUMNS.all fun column => INSERT_COLUMNS.contains column) then none
  else
    match rt.rowid (.str req.taskId) with
    | none => none
    | some taskId =>
      (db.results.insert? ⟨taskId, .null, .blob resultStr.toUTF8.toList, leaseGen, now⟩).map
        fun results => { db with results }

def finished (t : Task) : Task :=
  { t with status := "COMPLETED", lockedBy := none, lockedUntil := none }

@[simp] theorem finished_id (t : Task) : (finished t).id = t.id := rfl

def lockedBy (taskId : Int) (agentId : String) (t : Task) : Bool :=
  decide (t.id = taskId) && decide (t.lockedBy = some agentId)

/-- A task id that is no integer names no row. -/
def complete (rt : Runtime) (req : ResultRequest) (db : Db) : Db :=
  match rt.rowid (.str req.taskId) with
  | some taskId => db.updateTasks (lockedBy taskId req.agentId) finished finished_id
  | none => db

def submitResult (rt : Runtime) (tokens : Tokens) (fails : Statement → Bool)
    (token : Option String) (req : ResultRequest) (now : Seconds) (db : Db) : Response × Db :=
  if !verifyToken tokens token req.agentId then (.error 401 "invalid agent token", db)
  else
    let r₁ := if fails .insert then none
      else insertResult rt req (rt.stringify req.result) now db
    let db₁ := r₁.getD db
    let r₂ := if fails .complete then none else some (complete rt req db₁)
    match r₁, r₂ with
    | some _, some db₂ => (⟨200, some (.obj [("ok", .bool true)])⟩, db₂)
    | _, _ => (.error 500 "failed to save result", r₂.getD db₁)

/-! ### What the protocol promises -/

inductive AgentRequest
  | poll (req : PollRequest)
  | submitResult (req : ResultRequest)

def AgentRequest.agentId : AgentRequest → String
  | .poll req => req.agentId
  | .submitResult req => req.agentId

/-- The agent is registered, and the request carries its token. -/
def Authenticated (tokens : Tokens) (token : Option String) (request : AgentRequest) : Prop :=
  request.agentId ≠ "" ∧ verifyToken tokens token request.agentId = true

def serve (rt : Runtime) (tokens : Tokens) (fails : Statement → Bool) (token : Option String)
    (releasedAt now : Seconds) (db : Db) : AgentRequest → Response × Db
  | .poll req => poll rt tokens fails token req releasedAt now db
  | .submitResult req => submitResult rt tokens fails token req now db

/-- Without a task in the answer, every claim that stands was there before the poll's own. -/
def PollKept (released : Db) (answer : Response × Db) : Prop :=
  answer.1.status = 200 ∨
    ∀ t ∈ answer.2.tasks.rows, t.status = "CLAIMED" → t ∈ released.tasks.rows

/-- An error changes nothing; success completes a task the agent held, with its result. -/
def SubmitKept (rt : Runtime) (req : ResultRequest) (db : Db) (answer : Response × Db) : Prop :=
  (answer.1.status ≠ 200 → answer.2.tasks = db.tasks ∧ answer.2.results = db.results) ∧
    (answer.1.status = 200 → ∃ t ∈ db.tasks.rows, rt.rowid (.str req.taskId) = some t.id ∧
      t.status = "CLAIMED" ∧ t.lockedBy = some req.agentId ∧
      (∃ t', answer.2.tasks.find? t.id = some t' ∧ t'.status = "COMPLETED") ∧
      ∃ p, ResultProjection.get answer.2 t.id = .ok (some p) ∧
        p.resultJson = rt.stringify req.result)

def Kept (rt : Runtime) (fails : Statement → Bool) (releasedAt : Seconds) (db : Db)
    (answer : Response × Db) : AgentRequest → Prop
  | .poll _ => PollKept (autoReleaseExpired fails releasedAt db) answer
  | .submitResult req => SubmitKept rt req db answer

/-- Nothing waits for any agent, or the agent holds no such task; or the statement fails. -/
def Spared (rt : Runtime) (fails : Statement → Bool) (releasedAt now : Seconds) (db : Db) :
    AgentRequest → Prop
  | .poll _ => fails .claim = true ∨
      nextForAgents (autoReleaseExpired fails releasedAt db) now = none
  | .submitResult req => fails .complete = true ∨ ∀ t ∈ db.tasks.rows,
      rt.rowid (.str req.taskId) = some t.id → t.lockedBy ≠ some req.agentId

/-! ### Polls never serve -/

section Poll
variable {rt : Runtime} {tokens : Tokens} {fails : Statement → Bool} {token : Option String}

/-- The id is an integer, so the row is never read. -/
theorem readRow_claimedRow (task : Task) : readRow (claimedRow task) = none := rfl

theorem claim_eq (agentId : String) (now : Seconds) (db : Db) :
    claim fails agentId now db =
      (none, if fails .claim then db else (claimNext agentId (now + 60) now db).2) := by
  unfold claim
  split
  · rfl
  · rcases claimNext agentId (now + 60) now db with ⟨_ | task, db'⟩
    · rfl
    · rfl

theorem poll_eq {req : PollRequest} (known : req.agentId ≠ "")
    (valid : verifyToken tokens token req.agentId = true) (releasedAt now : Seconds) (db : Db) :
    poll rt tokens fails token req releasedAt now db =
      (noContent, (claim fails req.agentId now (autoReleaseExpired fails releasedAt db)).2) := by
  unfold poll
  rw [if_neg known, valid, Bool.not_true, if_neg Bool.false_ne_true, claim_eq]

theorem pollKept_iff {req : PollRequest} (known : req.agentId ≠ "")
    (valid : verifyToken tokens token req.agentId = true) (releasedAt now : Seconds) (db : Db) :
    PollKept (autoReleaseExpired fails releasedAt db)
        (poll rt tokens fails token req releasedAt now db) ↔
      fails .claim = true ∨ nextForAgents (autoReleaseExpired fails releasedAt db) now = none := by
  rw [poll_eq known valid, claim_eq, PollKept]
  set released := autoReleaseExpired fails releasedAt db
  rw [or_iff_right (show noContent.status ≠ 200 by decide)]
  dsimp only
  by_cases failed : fails .claim = true
  · rw [if_pos failed]
    exact ⟨fun _ => Or.inl failed, fun _ t mem _ => mem⟩
  rw [if_neg failed, or_iff_right failed]
  unfold claimNext
  cases first : nextForAgents released now with
  | none => exact ⟨fun _ => rfl, fun _ t mem _ => mem⟩
  | some task =>
    obtain ⟨row, pending, _⟩ := nextForAgents_spec first
    constructor
    · intro kept
      have hit : named task.id task = true := decide_eq_true rfl
      have claimed := Table.find?_update released.tasks (named task.id)
        (claimFor req.agentId (now + 60)) (claimFor_id req.agentId (now + 60)) task.id
      rw [row, Option.map_some, if_pos hit] at claimed
      have mem := kept _ (Table.mem_of_find? claimed) rfl
      -- the claimed row was pending, and a key has one row
      have same := Table.eq_of_key_eq mem (Table.mem_of_find? row) rfl
      have status := congrArg Task.status same
      rw [pending] at status
      exact absurd status (show "CLAIMED" ≠ "PENDING" by decide)
    · rintro ⟨⟩

end Poll

/-! ### Results are never stored -/

section Submit
variable {rt : Runtime} {tokens : Tokens} {fails : Statement → Bool} {token : Option String}

/-- The results have no column for the time of completion. -/
theorem insertResult_none (req : ResultRequest) (resultStr : String) (now : Seconds) (db : Db) :
    insertResult rt req resultStr now db = none := by
  have refused : (!(INSERT_COLUMNS.all fun column => RESULT_COLUMNS.contains column)) = true := by
    decide
  rw [insertResult, if_pos refused]

theorem submitResult_eq {req : ResultRequest}
    (valid : verifyToken tokens token req.agentId = true) (now : Seconds) (db : Db) :
    submitResult rt tokens fails token req now db = (.error 500 "failed to save result",
      if fails .complete then db else complete rt req db) := by
  unfold submitResult
  rw [valid, Bool.not_true, if_neg Bool.false_ne_true, insertResult_none, ite_self]
  dsimp only [Option.getD_none]
  split
  · rfl
  · rfl

theorem complete_results (req : ResultRequest) (db : Db) :
    (complete rt req db).results = db.results := by
  unfold complete
  split
  · rfl
  · rfl

/-- Completing changes the tasks if the agent holds the one that is named. -/
theorem complete_tasks_iff (req : ResultRequest) (db : Db) :
    (complete rt req db).tasks = db.tasks ↔ ∀ t ∈ db.tasks.rows,
      rt.rowid (.str req.taskId) = some t.id → t.lockedBy ≠ some req.agentId := by
  unfold complete
  cases key : rt.rowid (.str req.taskId) with
  | none => exact ⟨fun _ t _ none => (nomatch none), fun _ => rfl⟩
  | some taskId =>
    dsimp only
    constructor
    · intro same t mem id held
      have hit : lockedBy taskId req.agentId t = true := by
        rw [lockedBy, Bool.and_eq_true]
        exact ⟨decide_eq_true (Option.some.inj id).symm, decide_eq_true held⟩
      have found := Table.find?_update db.tasks (lockedBy taskId req.agentId) finished
        finished_id t.id
      rw [Table.find?_of_mem mem, Option.map_some, if_pos hit] at found
      have kept : db.tasks.find? t.id = some (finished t) := same ▸ found
      rw [Table.find?_of_mem mem] at kept
      have unlocked := congrArg Task.lockedBy (Option.some.inj kept)
      rw [held] at unlocked
      cases unlocked
    · intro spared
      have others : ∀ t ∈ db.tasks.rows, lockedBy taskId req.agentId t = false := by
        intro t mem
        by_contra selected
        have hit := (Bool.not_eq_false _).mp selected
        rw [lockedBy, Bool.and_eq_true, decide_eq_true_eq, decide_eq_true_eq] at hit
        exact absurd hit.2 (spared t mem (congrArg some hit.1.symm))
      exact @Table.update_eq_self _ _ _ db.tasks _ finished finished_id others

theorem submitKept_iff {req : ResultRequest}
    (valid : verifyToken tokens token req.agentId = true) (now : Seconds) (db : Db) :
    SubmitKept rt req db (submitResult rt tokens fails token req now db) ↔
      fails .complete = true ∨ ∀ t ∈ db.tasks.rows,
        rt.rowid (.str req.taskId) = some t.id → t.lockedBy ≠ some req.agentId := by
  rw [submitResult_eq valid, SubmitKept, ← complete_tasks_iff]
  have refused : (Response.error 500 "failed to save result").status ≠ 200 := by decide
  constructor
  · rintro ⟨unchanged, _⟩
    by_cases failed : fails .complete = true
    · exact Or.inl failed
    · have same := (unchanged refused).1
      rw [if_neg failed] at same
      exact Or.inr same
  · intro spared
    refine ⟨fun _ => ?_, fun accepted => absurd accepted refused⟩
    dsimp only
    by_cases failed : fails .complete = true
    · rw [if_pos failed]
      exact ⟨rfl, rfl⟩
    · rw [if_neg failed]
      exact ⟨spared.resolve_left failed, complete_results req db⟩

end Submit

/-- A request of an authenticated agent keeps the protocol exactly if its poll finds nothing to
claim, or the agent whose result it submits does not hold the task. -/
theorem protocol_kept_iff (rt : Runtime) (tokens : Tokens) (fails : Statement → Bool)
    (token : Option String) (releasedAt now : Seconds) (db : Db) (request : AgentRequest)
    (authenticated : Authenticated tokens token request) :
    Kept rt fails releasedAt db (serve rt tokens fails token releasedAt now db request) request ↔
      Spared rt fails releasedAt now db request := by
  obtain ⟨known, valid⟩ := authenticated
  cases request with
  | poll req => exact pollKept_iff known valid releasedAt now db
  | submitResult req => exact submitKept_iff valid now db

/-! ### An invocation that is lost -/

def invocation : Task where
  id := 1
  taskName := "agent.invoke"
  taskType := "agent"
  payload := "call"

def waiting : Db := { Db.empty with tasks := ⟨[invocation], by decide⟩, taskSeq := 1 }

def held : Db :=
  { Db.empty with
    tasks := ⟨[claimFor "a" 70 invocation], by decide⟩
    taskSeq := 1 }

def keyOfA : Tokens := fun token => if token = "key" then some "a" else none

/-- The runtime reads the payload of the invocation, and the id as a number. -/
def sampleRuntime : Runtime where
  parse := fun text => if text = "call" then some (.obj [("agent", .str "a")]) else none
  stringify := fun _ => "null"
  rowid
    | .str "1" => some 1
    | _ => none

theorem protocol_kept_iff_waiting :
    Kept sampleRuntime (fun _ => false) 10 waiting
        (serve sampleRuntime keyOfA (fun _ => false) (some "key") 10 10 waiting (.poll ⟨"a"⟩))
        (.poll ⟨"a"⟩) ↔
      Spared sampleRuntime (fun _ => false) 10 10 waiting (.poll ⟨"a"⟩) :=
  protocol_kept_iff sampleRuntime keyOfA (fun _ => false) (some "key") 10 10 waiting
    (.poll ⟨"a"⟩) ⟨by decide, by decide⟩

/-- The invocation that waits for the agent is claimed, and not served; the one it holds is
completed, and its result is refused. -/
theorem invocation_lost :
    (¬ PollKept (autoReleaseExpired (fun _ => false) 10 waiting)
      (poll sampleRuntime keyOfA (fun _ => false) (some "key") ⟨"a"⟩ 10 10 waiting)) ∧
    ¬ SubmitKept sampleRuntime ⟨"1", "a", .null⟩ held
      (submitResult sampleRuntime keyOfA (fun _ => false) (some "key") ⟨"1", "a", .null⟩ 20
        held) := by
  constructor
  · rw [pollKept_iff (by decide) (by decide)]
    decide
  · rw [submitKept_iff (by decide)]
    rintro (failed | spared)
    · cases failed
    · exact spared (claimFor "a" 70 invocation) List.mem_cons_self rfl rfl

end RustAgents
