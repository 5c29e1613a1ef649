import TaskQueQue.TaskLife
import TaskQueQue.GatewayValues
import Mathlib.Algebra.Order.Round
import Mathlib.Data.List.Sort
import Mathlib.Data.Rat.Floor

/-!
# Agents on the queue database

The gateway's handler for polling agents opens the queue database itself. It
keeps its agents' tokens and presence in memory. A poll or a result submission
runs two or three SQL statements, each in a transaction of its own, so a handler
is a `Job` that runs one statement at a time and says what comes next.

The connection leaves foreign keys unenforced, and the handler's statements name
neither the fence table nor the lease columns' owner.
-/

namespace AgentDirect

open QueueValues QueueTables TaskLife KeyedTable GatewayValues

structure AgentToken where
  agentId : String
  token : String
deriving DecidableEq

structure AgentPresence where
  agentId : String
  lastSeen : Seconds
  mcpTools : List Json
  agentType : Json

structure Agents where
  agentTokens : Table AgentToken String AgentToken.agentId := .empty
  agentPresence : Table AgentPresence String AgentPresence.agentId := .empty

def Agents.empty : Agents := {}

def verifyAgentToken (agents : Agents) (request : Request) (agentId : Option Json) : Bool :=
  match request.header "x-agent-token", agentId with
  | some token, some (.str id) =>
    decide (token ≠ "") && decide (id ≠ "") &&
      (agents.agentTokens.find? id).any fun entry => decide (entry.token = token)
  | _, _ => false

/-! ### The statements -/

/-- A row put back into the queue: by the auto-release and by a give-back. -/
def putBack (t : Task) : Task := { t with status := "PENDING", lockedBy := none, lockedUntil := none }

def claimFor (agentId : String) (lockedUntil : Seconds) (t : Task) : Task :=
  { t with status := "CLAIMED", lockedBy := some agentId, lockedUntil := some lockedUntil }

def withStatus (status : String) (t : Task) : Task := { t with status }

@[simp] theorem putBack_id (t : Task) : (putBack t).id = t.id := rfl

@[simp] theorem claimFor_id (agentId : String) (lockedUntil : Seconds) (t : Task) :
    (claimFor agentId lockedUntil t).id = t.id := rfl

@[simp] theorem withStatus_id (status : String) (t : Task) : (withStatus status t).id = t.id := rfl

def claimLapsed (now : Seconds) (t : Task) : Bool :=
  decide (t.status = "CLAIMED") && t.lockExpired now

def autoRelease (now : Seconds) (db : Db) : Db :=
  db.updateTasks (claimLapsed now) putBack putBack_id

/-- The subquery of the claiming statement. -/
def nextForAgents (db : Db) (now : Seconds) : Option Task :=
  ((db.tasks.select fun t => decide (t.status = "PENDING") &&
    ["workflow.run", "agent.invoke"].contains t.taskName &&
    decide (t.scheduledAt ≤ now)).insertionSort Task.dispatchBefore).head?

def named (taskId : Int) (t : Task) : Bool := decide (t.id = taskId)

/-- `UPDATE … RETURNING`: the claimed row as it was before, if there was one. -/
def claimNext (agentId : String) (lockedUntil now : Seconds) (db : Db) : Option Task × Db :=
  match nextForAgents db now with
  | none => (none, db)
  | some task =>
    (some task, db.updateTasks (named task.id) (claimFor agentId lockedUntil)
      (claimFor_id agentId lockedUntil))

def giveBack (taskId : Int) (db : Db) : Db := db.updateTasks (named taskId) putBack putBack_id

def setStatus (taskId : Int) (status : String) (db : Db) : Db :=
  db.updateTasks (named taskId) (withStatus status) (withStatus_id status)

/-- The bytes of the text go in as a BLOB, and the generation as zero. -/
def resultRow (taskId : Int) (resultStr : String) (now : Seconds) : ResultRow where
  taskId := taskId
  resultJson := .text resultStr
  resultBytes := .blob resultStr.toUTF8.toList
  leaseGeneration := 0
  createdAt := now

/-- The SET list of the upsert: the generation and the time stay as they were. -/
def overwrite (excluded r : ResultRow) : ResultRow :=
  { r with resultJson := excluded.resultJson, resultBytes := excluded.resultBytes }

theorem overwrite_taskId (excluded r : ResultRow) : (overwrite excluded r).taskId = r.taskId := rfl

def storeResult (taskId : Int) (resultStr : String) (now : Seconds) (db : Db) : Db :=
  let excluded := resultRow taskId resultStr now
  { db with
    results := db.results.upsert excluded (overwrite excluded) (overwrite_taskId excluded) }

/-! ### The handlers -/

inductive Job
  | autoRelease (agentId : String)
  | claim (agentId : String)
  | giveBack (agentId : String) (taskId : Int)
  | setStatus (agentId : String) (taskId : Int) (status : String) (resultStr : Option String)
  | storeResult (agentId : String) (taskId : Int) (status resultStr : String)
deriving DecidableEq

inductive Outcome
  | next (job : Job)
  | reply (response : Response)
  | thrown

def Outcome.job? : Outcome → Option Job
  | .next job => some job
  | _ => none

/-- `steps.some(s => s.agent === agentId)`. A `null` step throws, and the caller
gives the task back as it does for a step list without a match. -/
def someStep (agentId : String) : List Json → Bool
  | [] => false
  | .null :: _ => false
  | step :: rest =>
    match step.field "agent" with
    | some (.str agent) => agent = agentId || someStep agentId rest
    | _ => someStep agentId rest

def targetsThisAgent (rt : Runtime) (agentId : String) (task : Task) : Bool :=
  match rt.parse task.payload with
  | none => false
  | some payload =>
    (decide (task.taskName = "workflow.run") &&
      someStep agentId (Json.items (payload.field "steps"))) ||
    (decide (task.taskName = "agent.invoke") &&
      match payload.field "agent" with
      | some (.str agent) => decide (agent = agentId)
      | _ => false)

def taskResponse (task : Task) : Response :=
  ⟨200, some (.obj [("task", .obj [("id", .num task.id), ("type", .str task.taskName),
    ("payload_json", .str task.payload)])])⟩

/-- One SQL statement of a handler, with the clock readings it takes in order. -/
def Job.statement (rt : Runtime) (clock clock' : Seconds) : Job → Db → Outcome × Db
  | .autoRelease agentId, db => (.next (.claim agentId), AgentDirect.autoRelease clock db)
  | .claim agentId, db =>
    match claimNext agentId (clock + 60) clock' db with
    | (none, db') => (.reply ⟨204, none⟩, db')
    | (some task, db') =>
      if targetsThisAgent rt agentId task then (.reply (taskResponse task), db')
      else (.next (.giveBack agentId task.id), db')
  | .giveBack _ taskId, db => (.reply ⟨204, none⟩, AgentDirect.giveBack taskId db)
  | .setStatus agentId taskId status resultStr, db =>
    -- `Buffer.from(undefined)` throws when the body has no result
    (match resultStr with
      | some resultStr => .next (.storeResult agentId taskId status resultStr)
      | none => .thrown, AgentDirect.setStatus taskId status db)
  | .storeResult _ taskId status resultStr, db =>
    (.reply ⟨200, some (.obj [("ok", .bool true), ("status", .str status)])⟩,
      AgentDirect.storeResult taskId resultStr clock db)

def handlePoll (rt : Runtime) (agents : Agents) (request : Request) : Outcome :=
  match rt.bodyOrEmpty request with
  | .null => .thrown
  | body =>
    match body.field "agent_id" with
    | some (.str agentId) =>
      if verifyAgentToken agents request (some (.str agentId)) then .next (.autoRelease agentId)
      else .reply (.error 401 "invalid agent token")
    | _ => .reply (.error 401 "invalid agent token")

def handleResult (rt : Runtime) (agents : Agents) (request : Request) : Outcome :=
  let agentId := (request.header "x-agent-id").getD ""
  if !verifyAgentToken agents request (some (.str agentId)) then
    .reply (.error 401 "invalid agent token")
  else
    match rt.bodyOrEmpty request with
    | .null => .thrown
    | body =>
      match (body.field "task_id").filter fun value => Json.truthy (some value) with
      | none => .reply (.error 400 "task_id required")
      | some taskId =>
        match rt.rowid taskId with
        -- matches no row, and the key column refuses it
        | none => .thrown
        | some taskId =>
          let error := body.field "error"
          let result := if Json.truthy error then error.map fun value => .obj [("error", value)]
            else body.field "result"
          .next (.setStatus agentId taskId (if Json.truthy error then "FAILED" else "COMPLETED")
            (result.map rt.stringify))

def handleRegister (rt : Runtime) (agents : Agents) (request : Request) (now : Seconds)
    (token : String) : Outcome × Agents :=
  match rt.bodyOrEmpty request with
  | .null => (.thrown, agents)
  | body =>
    match body.field "agent_id" with
    | some (.str agentId) =>
      if agentId = "" ∨ 64 < utf16Length agentId then
        (.reply (.error 400 "valid agent_id required"), agents)
      else
        let presence : AgentPresence :=
          ⟨agentId, now, [], Json.orElse (body.field "agent_type") (.str "unknown")⟩
        (.reply ⟨200, some (.obj [("ok", .bool true), ("agent_id", .str agentId),
            ("agent_token", .str token)])⟩,
          { agentTokens := agents.agentTokens.upsert ⟨agentId, token⟩
              (fun entry => { entry with token }) fun _ => rfl
            agentPresence := agents.agentPresence.upsert presence
              (fun entry => { presence with agentId := entry.agentId }) fun _ => rfl })
    | _ => (.reply (.error 400 "valid agent_id required"), agents)

def handleHeartbeat (rt : Runtime) (agents : Agents) (request : Request) (now : Seconds) :
    Outcome × Agents :=
  match rt.bodyOrEmpty request with
  | .null => (.thrown, agents)
  | body =>
    match body.field "agent_id" with
    | some (.str agentId) =>
      if verifyAgentToken agents request (some (.str agentId)) then
        let presence : AgentPresence := ⟨agentId, now, Json.items (body.field "mcp_tools"),
          Json.orElse (body.field "agent_type") (.str "unknown")⟩
        (.reply ⟨200, some (.obj [("ok", .bool true), ("agent_id", .str agentId)])⟩,
          { agents with
            agentPresence := agents.agentPresence.upsert presence
              (fun entry => { presence with agentId := entry.agentId }) fun _ => rfl })
      else (.reply (.error 401 "invalid agent token"), agents)
    | _ => (.reply (.error 401 "invalid agent token"), agents)

def stale (now : Seconds) (entry : AgentPresence) : Bool := !decide (now - entry.lastSeen < 90)

/-- The agents seen within 90 seconds; the others are dropped from the presence. -/
def handleAgents (agents : Agents) (now : Seconds) : Outcome × Agents :=
  let active := agents.agentPresence.select fun entry => !stale now entry
  let listed := active.map fun entry => Json.obj [("agent_id", .str entry.agentId),
    ("agent_type", entry.agentType), ("mcp_tools", .arr entry.mcpTools),
    ("last_seen_ago_s", .num (round (now - entry.lastSeen)))]
  (.reply ⟨200, some (.obj [("agents", .arr listed), ("count", .num active.length)])⟩,
    { agents with agentPresence := agents.agentPresence.delete (stale now) })

/-- The handler up to its first SQL statement; `none` is the router's `null`. -/
def handleAgentDirectRequest (rt : Runtime) (request : Request) (now : Seconds) (token : String)
    (agents : Agents) : Option (Outcome × Agents) :=
  if request.pathname = "/v1/agent/poll" ∧ request.method = "POST" then
    some (handlePoll rt agents request, agents)
  else if request.pathname = "/v1/agent/result" ∧ request.method = "POST" then
    some (handleResult rt agents request, agents)
  else if request.pathname = "/v1/agent/register" ∧ request.method = "POST" then
    some (handleRegister rt agents request now token)
  else if request.pathname = "/v1/agent/heartbeat" ∧ request.method = "POST" then
    some (handleHeartbeat rt agents request now)
  else if request.pathname = "/v1/agents" ∧ request.method = "GET" then
    some (handleAgents agents now)
  else none

end AgentDirect
