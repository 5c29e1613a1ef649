import TaskQueQue.SharedDatabase

/-!
# When a poll serves its agent

A poll releases lapsed claims, claims the first task that waits for any agent, and
looks at whom it is for afterwards. A task for the polling agent is therefore served
only when the first task of the queue is one.
-/

namespace AgentPolling

open QueueValues QueueTables TaskLife KeyedTable GatewayValues AgentDirect SharedDatabase

/-- The statements of a handler one after the other, with nothing in between; each reads the
clock up to twice. -/
def finish (rt : Runtime) : List (Seconds × Seconds) → Outcome × Db → Outcome × Db
  | (clock, clock') :: rest, (.next job, db) => finish rt rest (job.statement rt clock clock' db)
  | _, reached => reached

def poll (rt : Runtime) (agents : Agents) (request : Request) (releasedAt lockedAt dueAt : Seconds)
    (db : Db) : Outcome × Db :=
  finish rt [(releasedAt, releasedAt), (lockedAt, dueAt), (dueAt, dueAt)]
    (handlePoll rt agents request, db)

/-- The request is a poll of this agent, with its token. -/
def Authenticated (rt : Runtime) (agents : Agents) (request : Request) (agentId : String) : Prop :=
  handlePoll rt agents request = .next (.autoRelease agentId)

/-! ### What a poll does -/

section Poll
variable {rt : Runtime} {agents : Agents} {request : Request} {agentId : String}
variable {releasedAt lockedAt dueAt : Seconds} {db : Db}

theorem authenticated_iff : Authenticated rt agents request agentId ↔
    (rt.bodyOrEmpty request).field "agent_id" = some (.str agentId) ∧
      verifyAgentToken agents request (some (.str agentId)) = true := by
  unfold Authenticated handlePoll
  split
  · rename_i body
    rw [body]
    constructor
    · intro thrown
      cases thrown
    · rintro ⟨named, _⟩
      cases named
  · split
    · rename_i id named
      rw [named]
      split
      · rename_i valid
        constructor
        · rintro ⟨⟩
          exact ⟨rfl, valid⟩
        · rintro ⟨⟨⟩, _⟩
          rfl
      · rename_i invalid
        constructor
        · rintro ⟨⟩
        · rintro ⟨⟨⟩, valid⟩
          exact absurd valid invalid
    · rename_i other
      constructor
      · rintro ⟨⟩
      · rintro ⟨named, _⟩
        exact absurd named (other agentId)

theorem poll_empty (authenticated : Authenticated rt agents request agentId)
    (idle : nextForAgents (autoRelease releasedAt db) dueAt = none) :
    poll rt agents request releasedAt lockedAt dueAt db =
      (.reply ⟨204, none⟩, autoRelease releasedAt db) := by
  rw [poll, authenticated]
  simp only [finish, Job.statement, claimNext, idle]

theorem poll_served (authenticated : Authenticated rt agents request agentId) {task : Task}
    (first : nextForAgents (autoRelease releasedAt db) dueAt = some task)
    (mine : targetsThisAgent rt agentId task = true) :
    poll rt agents request releasedAt lockedAt dueAt db =
      (.reply (taskResponse task), (autoRelease releasedAt db).updateTasks (named task.id)
        (claimFor agentId (lockedAt + 60)) (claimFor_id agentId (lockedAt + 60))) := by
  rw [poll, authenticated]
  simp only [finish, Job.statement, claimNext, first, mine, if_true]

theorem poll_refused (authenticated : Authenticated rt agents request agentId) {task : Task}
    (first : nextForAgents (autoRelease releasedAt db) dueAt = some task)
    (other : targetsThisAgent rt agentId task = false) :
    poll rt agents request releasedAt lockedAt dueAt db =
      (.reply ⟨204, none⟩, giveBack task.id ((autoRelease releasedAt db).updateTasks
        (named task.id) (claimFor agentId (lockedAt + 60))
        (claimFor_id agentId (lockedAt + 60)))) := by
  rw [poll, authenticated]
  simp only [finish, Job.statement, claimNext, first, other, Bool.false_eq_true, if_false]

end Poll

/-! ### Whom a task is for -/

/-- The agent of the invocation, or of some step of the workflow. -/
def Targets (rt : Runtime) (agentId : String) (task : Task) : Prop :=
  ∃ payload, rt.parse task.payload = some payload ∧
    (task.taskName = "workflow.run" ∧ (∃ step ∈ Json.items (payload.field "steps"),
        step.field "agent" = some (.str agentId)) ∨
      task.taskName = "agent.invoke" ∧ payload.field "agent" = some (.str agentId))

theorem someStep_sound {agentId : String} {steps : List Json}
    (some_step : someStep agentId steps = true) :
    ∃ step ∈ steps, step.field "agent" = some (.str agentId) := by
  induction steps with
  | nil => cases some_step
  | cons step rest ih =>
    cases step with
    | null => cases some_step
    | _ =>
      unfold someStep at some_step
      split at some_step
      · rename_i agent named
        rw [Bool.or_eq_true, decide_eq_true_eq] at some_step
        rcases some_step with rfl | later
        · exact ⟨_, List.mem_cons_self, named⟩
        · obtain ⟨step, mem, named⟩ := ih later
          exact ⟨step, List.mem_cons_of_mem _ mem, named⟩
      · obtain ⟨step, mem, named⟩ := ih some_step
        exact ⟨step, List.mem_cons_of_mem _ mem, named⟩

theorem targets_of_check {rt : Runtime} {agentId : String} {task : Task}
    (mine : targetsThisAgent rt agentId task = true) : Targets rt agentId task := by
  unfold targetsThisAgent at mine
  split at mine
  · cases mine
  · rename_i payload parsed
    refine ⟨payload, parsed, ?_⟩
    rw [Bool.or_eq_true, Bool.and_eq_true, Bool.and_eq_true, decide_eq_true_eq,
      decide_eq_true_eq] at mine
    rcases mine with ⟨name, some_step⟩ | ⟨name, invoked⟩
    · exact Or.inl ⟨name, someStep_sound some_step⟩
    · refine Or.inr ⟨name, ?_⟩
      split at invoked
      · rename_i agent named
        rw [named, of_decide_eq_true invoked]
      · cases invoked

/-- A task that a poll should find for its agent. -/
structure Waits (rt : Runtime) (agentId : String) (now : Seconds) (db : Db) (t : Task) : Prop where
  row : t ∈ db.tasks.rows
  pending : t.status = "PENDING"
  due : t.scheduledAt ≤ now
  targets : Targets rt agentId t

/-- What a poll owes its agent: a task if one waits for it, and if it answers with none, every row
but the lapsed claims left alone. -/
structure Fair (rt : Runtime) (agentId : String) (releasedAt lockedAt dueAt : Seconds) (db : Db)
    (reached : Outcome × Db) : Prop where
  served : (∃ t, Waits rt agentId dueAt db t) →
    ∃ t, Waits rt agentId dueAt (autoRelease releasedAt db) t ∧
      reached.1 = .reply (taskResponse t) ∧
      ∀ id, reached.2.tasks.find? id =
        if id = t.id then some (claimFor agentId (lockedAt + 60) t)
        else (autoRelease releasedAt db).tasks.find? id
  restored : reached.1 = .reply ⟨204, none⟩ → ∀ id, reached.2.tasks.find? id =
    (db.tasks.find? id).map fun t => if claimLapsed releasedAt t then putBack t else t

/-- The first task that waits for any agent is one the poll accepts, if one waits for its agent;
and if it is given back, it had no lock. -/
structure FirstServed (rt : Runtime) (agentId : String) (releasedAt dueAt : Seconds) (db : Db) :
    Prop where
  accepted : (∃ t, Waits rt agentId dueAt db t) →
    ∃ t, nextForAgents (autoRelease releasedAt db) dueAt = some t ∧
      targetsThisAgent rt agentId t = true
  unlocked : ∀ t, nextForAgents (autoRelease releasedAt db) dueAt = some t →
    targetsThisAgent rt agentId t = false → t.lockedBy = none ∧ t.lockedUntil = none

section Law
variable {rt : Runtime} {agents : Agents} {request : Request} {agentId : String}
variable {releasedAt lockedAt dueAt : Seconds} {db : Db}

theorem find?_autoRelease (db : Db) (releasedAt : Seconds) (id : Int) :
    (autoRelease releasedAt db).tasks.find? id =
      (db.tasks.find? id).map fun t => if claimLapsed releasedAt t then putBack t else t := by
  rw [autoRelease, Db.updateTasks_tasks, Table.find?_update]

theorem waits_of_first {t : Task} (first : nextForAgents db dueAt = some t)
    (mine : targetsThisAgent rt agentId t = true) : Waits rt agentId dueAt db t := by
  have found := List.mem_of_head? first
  rw [List.mem_insertionSort, Table.select, List.mem_filter] at found
  obtain ⟨row, guard⟩ := found
  simp only [Bool.and_eq_true, decide_eq_true_eq] at guard
  exact ⟨row, guard.1.1, guard.2, targets_of_check mine⟩

/-- A claim and its return leave the row as it was, but for a lock it had. -/
theorem find?_returned (db : Db) {t : Task} (row : db.tasks.find? t.id = some t)
    (pending : t.status = "PENDING") (id : Int) :
    (giveBack t.id (db.updateTasks (named t.id) (claimFor agentId lockedAt)
      (claimFor_id agentId lockedAt))).tasks.find? id =
      if id = t.id then some { t with lockedBy := none, lockedUntil := none }
      else db.tasks.find? id := by
  rw [giveBack, Db.updateTasks_tasks, Db.updateTasks_tasks, Table.find?_update,
    Table.find?_update]
  by_cases same : id = t.id
  · rw [if_pos same, same, row]
    simp [named, putBack, claimFor, pending]
  · rw [if_neg same]
    cases found : db.tasks.find? id with
    | none => rfl
    | some u =>
      have other : u.id ≠ t.id := fun h => same ((Table.key_of_find? found).symm.trans h)
      simp [named, other]

theorem find?_claimed (db : Db) {t : Task} (row : db.tasks.find? t.id = some t) (id : Int) :
    (db.updateTasks (named t.id) (claimFor agentId lockedAt)
      (claimFor_id agentId lockedAt)).tasks.find? id =
      if id = t.id then some (claimFor agentId lockedAt t) else db.tasks.find? id := by
  rw [Db.updateTasks_tasks, Table.find?_update]
  by_cases same : id = t.id
  · rw [if_pos same, same, row]
    simp [named]
  · rw [if_neg same]
    cases found : db.tasks.find? id with
    | none => rfl
    | some u =>
      have other : u.id ≠ t.id := fun h => same ((Table.key_of_find? found).symm.trans h)
      simp [named, other]

/-- A poll is fair exactly where the first task of the queue is for its agent or none is. -/
theorem poll_fair_iff (rt : Runtime) (agents : Agents) (request : Request) (agentId : String)
    (releasedAt lockedAt dueAt : Seconds) (db : Db)
    (authenticated : Authenticated rt agents request agentId) :
    Fair rt agentId releasedAt lockedAt dueAt db
        (poll rt agents request releasedAt lockedAt dueAt db) ↔
      FirstServed rt agentId releasedAt dueAt db := by
  cases first : nextForAgents (autoRelease releasedAt db) dueAt with
  | none =>
    rw [poll_empty authenticated first]
    constructor
    · intro fair
      refine ⟨fun waits => ?_, fun t found => ?_⟩
      · obtain ⟨t, _, answered, _⟩ := fair.served waits
        cases answered
      · rw [first] at found
        cases found
    · intro condition
      refine ⟨fun waits => ?_, fun _ id => find?_autoRelease db releasedAt id⟩
      obtain ⟨t, found, _⟩ := condition.accepted waits
      rw [first] at found
      cases found
  | some task =>
    obtain ⟨row, pending, _⟩ := nextForAgents_spec first
    cases mine : targetsThisAgent rt agentId task with
    | true =>
      rw [poll_served authenticated first mine]
      constructor
      · intro _
        refine ⟨fun _ => ⟨task, first, mine⟩, fun t found other => ?_⟩
        rw [first, Option.some.injEq] at found
        rw [← found, mine] at other
        cases other
      · intro _
        refine ⟨fun _ => ⟨task, waits_of_first first mine, rfl, find?_claimed _ row⟩, ?_⟩
        intro answered
        cases answered
    | false =>
      rw [poll_refused authenticated first mine]
      constructor
      · intro fair
        refine ⟨fun waits => ?_, fun t found _ => ?_⟩
        · obtain ⟨t, _, answered, _⟩ := fair.served waits
          cases answered
        · rw [first, Option.some.injEq] at found
          subst found
          have kept := fair.restored rfl task.id
          rw [find?_returned _ row pending, if_pos rfl, ← find?_autoRelease, row,
            Option.some.injEq] at kept
          exact ⟨(congrArg Task.lockedBy kept).symm, (congrArg Task.lockedUntil kept).symm⟩
      · intro condition
        constructor
        · intro waits
          obtain ⟨t, found, accepted⟩ := condition.accepted waits
          rw [first, Option.some.injEq] at found
          rw [← found, mine] at accepted
          cases accepted
        · intro _ id
          obtain ⟨owner, deadline⟩ := condition.unlocked task first mine
          rw [find?_returned _ row pending, ← find?_autoRelease]
          split
          · rename_i same
            rw [same, row, ← owner, ← deadline]
          · rfl

end Law

/-! ### A task for another agent at the head of the queue -/

def twoAgents : Runtime := .reading
  [("\x7b\"agent_id\":\"a\"\x7d", .obj [("agent_id", .str "a")]),
    ("\x7b\"agent\":\"a\"\x7d", .obj [("agent", .str "a")]),
    ("\x7b\"agent\":\"b\"\x7d", .obj [("agent", .str "b")])]

def pollOfA : Request :=
  { method := "POST", pathname := "/v1/agent/poll", header := agentHeaders
    body := "\x7b\"agent_id\":\"a\"\x7d" }

def agentA : Agents := { agentTokens := ⟨[⟨"a", "t"⟩], List.nodup_singleton _⟩ }

def behindB : Db :=
  QueueRuns.run [.enqueue 0 "agent.invoke" "agent" "\x7b\"agent\":\"b\"\x7d" 0 3,
    .enqueue 0 "agent.invoke" "agent" "\x7b\"agent\":\"a\"\x7d" 0 3]

/-- The second task waits for the agent and the poll answers with no content. -/
theorem behindB_starves : Authenticated twoAgents agentA pollOfA "a" ∧
    ¬ Fair twoAgents "a" 1 1 1 behindB (poll twoAgents agentA pollOfA 1 1 1 behindB) := by
  refine ⟨rfl, fun fair => ?_⟩
  have answer : (poll twoAgents agentA pollOfA 1 1 1 behindB).1 = .reply ⟨204, none⟩ := rfl
  have waits : ∃ t, Waits twoAgents "a" 1 behindB t := by
    refine ⟨SyncQueue.newTask 0 "agent.invoke" "agent" "\x7b\"agent\":\"a\"\x7d" 0 3 2, ?_⟩
    exact ⟨by decide +kernel, rfl, by decide +kernel, _, rfl, Or.inr ⟨rfl, rfl⟩⟩
  obtain ⟨t, _, answered, _⟩ := fair.served waits
  rw [answer] at answered
  cases answered

/-- The law at that queue. -/
theorem poll_fair_iff_behindB :
    Fair twoAgents "a" 1 1 1 behindB (poll twoAgents agentA pollOfA 1 1 1 behindB) ↔
      FirstServed twoAgents "a" 1 1 behindB :=
  poll_fair_iff twoAgents agentA pollOfA "a" 1 1 1 behindB rfl

end AgentPolling
