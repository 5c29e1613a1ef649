import TaskQueQue.QueueRuns
import TaskQueQue.AgentDirect

/-!
# The shared queue database

The queue's operations and the gateway's agent handlers write the same database.
An operation of the queue is one transaction; a handler is a request, which runs
up to its first statement, and then one step for each SQL statement. Handlers are
numbered in the order their requests arrive, and any other step may fall between
two statements of one of them.

A task's row changes in few ways here too: by a move of the queue, or by one of
the four writes of the agent statements. The id counter may lag behind the other
tables, since a result is stored under any id, so an admission is described by
its rows alone.
-/

namespace SharedDatabase

open QueueValues QueueTables TaskLife KeyedTable SyncQueue QueueRuns GatewayValues AgentDirect

structure Shared where
  db : Db
  agents : Agents
  jobs : Nat → Option Job
  requests : Nat

inductive Event
  | queue (op : Op)
  | request (request : Request) (now : Seconds) (token : String)
  | statement (n : Nat) (clock clock' : Seconds)

/-- A fresh database, and a gateway that has just started. -/
def Shared.start : Shared := ⟨.empty, .empty, fun _ => none, 0⟩

def step (rt : Runtime) : Event → Shared → Shared
  | .queue op, s => { s with db := QueueRuns.step op s.db }
  | .request request now token, s =>
    match handleAgentDirectRequest rt request now token s.agents with
    | none => s
    | some (outcome, agents) =>
      { s with
        agents
        jobs := Function.update s.jobs s.requests outcome.job?
        requests := s.requests + 1 }
  | .statement n clock clock', s =>
    match s.jobs n with
    | none => s
    | some job =>
      let result := job.statement rt clock clock' s.db
      { s with db := result.2, jobs := Function.update s.jobs n result.1.job? }

def run (rt : Runtime) (events : List Event) : Shared := Histories.run (step rt) .start events

theorem run_concat (rt : Runtime) (events : List Event) (e : Event) :
    run rt (events ++ [e]) = step rt e (run rt events) :=
  Histories.run_append _ _ _

theorem step_statement {rt : Runtime} {s : Shared} {n : Nat} {job : Job} (h : s.jobs n = some job)
    (clock clock' : Seconds) : (step rt (.statement n clock clock') s).db =
      (job.statement rt clock clock' s.db).2 := by
  simp only [step, h]

theorem step_idle {rt : Runtime} {s : Shared} {n : Nat} (h : s.jobs n = none)
    (clock clock' : Seconds) : step rt (.statement n clock clock') s = s := by
  simp only [step, h]

theorem step_queue (rt : Runtime) (op : Op) (s : Shared) :
    (step rt (.queue op) s).db = QueueRuns.step op s.db := rfl

theorem step_request (rt : Runtime) (request : Request) (now : Seconds) (token : String)
    (s : Shared) : (step rt (.request request now token) s).db = s.db := by
  simp only [step]
  split <;> rfl

/-! ### Admissions over any database -/

/-- A new row under an id no task had, and nothing else of that task but its
admission. -/
structure Admitted (id seq seq' : Int) (v v' : TaskView) : Prop where
  fresh : seq < id
  counted : id ≤ seq'
  absent : v.task = none
  row : ∃ t, v'.task = some t ∧ t.status = "PENDING" ∧ t.lockedBy = none ∧ t.lockedUntil = none
  fence : v'.fence = v.fence
  result : v'.result = v.result

theorem view_enqueue {db db' : Db} {now : Seconds} {taskName taskType payload : String}
    {priority maxRetries taskId : Int}
    (h : enqueue now taskName taskType payload priority maxRetries db = .ok (taskId, db'))
    (id : Int) : if taskId = id then Admitted id db.taskSeq db'.taskSeq (view db id) (view db' id)
      else view db' id = view db id := by
  have rows := view_insertTask (fun _ => rfl) h id
  obtain ⟨hid, _, tasks, hins, hdb⟩ := Db.insertTask_ok h
  have hseq : db'.taskSeq = taskId := by rw [hdb]
  split
  · rename_i heq
    subst heq
    rw [if_pos rfl] at rows
    rw [rows]
    exact ⟨by omega, by omega, (Table.rows_of_insert? hins).2, ⟨_, rfl, rfl, rfl, rfl⟩, rfl, rfl⟩
  · rename_i hne
    rwa [if_neg hne] at rows

theorem view_admission {db : Db} {now : Seconds} {key fingerprint taskName taskType payload : String}
    {priority maxRetries taskId : Int}
    {tasks : Table Task Int Task.id}
    {idempotency : Table IdempotencyRow String IdempotencyRow.idempotencyKey}
    (next : taskId = db.taskSeq + 1)
    (htasks : db.tasks.insert? (newTask now taskName taskType payload priority maxRetries taskId) =
      some tasks)
    (hkey : db.idempotency.insert? ⟨key, fingerprint, taskId, now⟩ = some idempotency) (id : Int) :
    if taskId = id then
      Admitted id db.taskSeq taskId (view db id)
        (view { db with tasks, idempotency, taskSeq := taskId } id)
    else view { db with tasks, idempotency, taskSeq := taskId } id = view db id := by
  have row : tasks.find? id = if taskId = id then
      some (newTask now taskName taskType payload priority maxRetries taskId)
      else db.tasks.find? id := Table.find?_of_insert? htasks id
  split
  · rename_i hid
    subst hid
    rw [if_pos rfl] at row
    exact ⟨by omega, le_refl _, (Table.rows_of_insert? htasks).2, ⟨_, row, rfl, rfl, rfl⟩, rfl, rfl⟩
  · rename_i hid
    have same : idempotency.select (fun r => decide (r.taskId = id)) = (view db id).admissions := by
      simp [Table.select, (Table.rows_of_insert? hkey).1, view, hid]
    exact TaskView.ext (row.trans (if_neg hid)) rfl rfl same

/-- What an operation of the queue does to a task, whatever the database: one of
its moves, or an admission under this id. -/
theorem queue_effect (op : Op) (db : Db) (id : Int) :
    db.taskSeq ≤ (QueueRuns.step op db).taskSeq ∧
    (Move id db.taskSeq (QueueRuns.step op db).taskSeq (view db id) (change id op db)
      (view (QueueRuns.step op db) id) ∨
    (change id op db = .created ∧ Admitted id db.taskSeq (QueueRuns.step op db).taskSeq
      (view db id) (view (QueueRuns.step op db) id))) := by
  by_cases hop : admits op = true
  · cases op with
    | enqueue now taskName taskType payload priority maxRetries =>
      rcases answer_cases .enqueued (enqueue now taskName taskType payload priority maxRetries) db
        with ⟨taskId, db', hok, hans⟩ | ⟨err, _, hans⟩
      · have effect := view_enqueue hok id
        have rises : db.taskSeq ≤ db'.taskSeq := by
          obtain ⟨hid, _, _, _, rfl⟩ := Db.insertTask_ok hok
          simp only
          omega
        simp only [QueueRuns.step, change, exec, hans, noted, createdChange]
        refine ⟨rises, ?_⟩
        split at effect
        · rename_i hid
          exact Or.inr ⟨if_pos hid, effect⟩
        · rename_i hid
          rw [effect, if_neg hid]
          exact Or.inl (.stay _)
      · simp only [QueueRuns.step, change, exec, hans, noted]
        exact ⟨le_refl _, Or.inl (.stay _)⟩
    | enqueueBounded now key fingerprint taskName taskType payload priority maxRetries limit =>
      rcases answer_cases .admission (Idempotency.enqueueBounded now key fingerprint taskName
        taskType payload priority maxRetries limit) db with ⟨reply, db', hok, hans⟩ | ⟨err, _, hans⟩
      · simp only [QueueRuns.step, change, exec, hans, noted]
        rcases Idempotency.enqueueBounded_cases hok with
          ⟨rfl, not_created⟩ | ⟨taskId, rfl, _, _, next, tasks, idempotency, htasks, hkey, rfl⟩
        · have quiet : Idempotency.admissionChange reply id = .quiet := by
            cases reply with
            | created taskId => exact absurd rfl (not_created taskId)
            | replayed | conflict | full => rfl
          rw [quiet]
          exact ⟨le_refl _, Or.inl (.stay _)⟩
        · have effect := view_admission next htasks hkey id
          rw [Idempotency.admissionChange, createdChange]
          refine ⟨by simp only; omega, ?_⟩
          split at effect
          · rename_i hid
            exact Or.inr ⟨if_pos hid, effect⟩
          · rename_i hid
            rw [effect, if_neg hid]
            exact Or.inl (.stay _)
      · simp only [QueueRuns.step, change, exec, hans, noted]
        exact ⟨le_refl _, Or.inl (.stay _)⟩
    | _ => cases hop
  · have advances : Advances db (QueueRuns.step op db) fun id => change id op db :=
      exec_advances_of op fun h => absurd h hop
    exact ⟨advances.seq, Or.inl (advances.move id)⟩

/-! ### What an agent statement does to a task -/

/-- What happens to the claim of a task: `grant` is the claim of the poll with
this number, `revoke` any write that ends it. -/
abbrev ClaimEvent := FencedLease.Event String Nat

/-- One statement of the handler numbered `n`, seen from one task. -/
inductive AgentMove (id : Int) (n : Nat) (clock : Seconds) :
    Job → TaskView → ClaimEvent → TaskView → Prop
  | stay (job : Job) (v : TaskView) : AgentMove id n clock job v .quiet v
  | release {v : TaskView} {t : Task} (agentId : String) (row : v.task = some t)
      (lapsed : claimLapsed clock t) :
      AgentMove id n clock (.autoRelease agentId) v .revoke { v with task := some (putBack t) }
  | claim {v : TaskView} {t : Task} (agentId : String) (lockedUntil : Seconds)
      (row : v.task = some t) (pending : t.status = "PENDING") :
      AgentMove id n clock (.claim agentId) v (.grant agentId n)
        { v with task := some (claimFor agentId lockedUntil t) }
  | giveBack {v : TaskView} {t : Task} (agentId : String) (row : v.task = some t) :
      AgentMove id n clock (.giveBack agentId id) v .revoke { v with task := some (putBack t) }
  | submit {v : TaskView} {t : Task} (agentId status : String) (resultStr : Option String)
      (row : v.task = some t) :
      AgentMove id n clock (.setStatus agentId id status resultStr) v .revoke
        { v with task := some (withStatus status t) }
  | store {v : TaskView} {r : ResultRow} (agentId status resultStr : String)
      (text : r.resultJson = .text resultStr) (bytes : r.resultBytes = .blob resultStr.toUTF8.toList) :
      AgentMove id n clock (.storeResult agentId id status resultStr) v .quiet
        { v with result := some r }

/-- What a statement does to the claim of a task, read off the state before it. -/
def claimEvent (id : Int) (n : Nat) (clock clock' : Seconds) (job : Job) (db : Db) : ClaimEvent :=
  match job with
  | .autoRelease _ => if (db.tasks.find? id).any (claimLapsed clock) then .revoke else .quiet
  | .claim agentId =>
    if (nextForAgents db clock').any fun t => decide (t.id = id) then .grant agentId n else .quiet
  | .giveBack _ taskId | .setStatus _ taskId _ _ =>
    if taskId = id ∧ (db.tasks.find? id).isSome then .revoke else .quiet
  | .storeResult .. => .quiet

theorem nextForAgents_spec {db : Db} {now : Seconds} {t : Task} (h : nextForAgents db now = some t) :
    db.tasks.find? t.id = some t ∧ t.status = "PENDING" ∧
      (t.taskName = "workflow.run" ∨ t.taskName = "agent.invoke") := by
  have found := List.mem_of_head? h
  rw [List.mem_insertionSort, Table.select, List.mem_filter] at found
  obtain ⟨hrow, guard⟩ := found
  simp only [Bool.and_eq_true, decide_eq_true_eq, List.contains_cons, List.contains_nil,
    Bool.or_eq_true, beq_iff_eq, Bool.or_false] at guard
  exact ⟨Table.find?_of_mem hrow, guard.1.1, guard.1.2⟩

/-- An update that names its row, seen from any task. -/
theorem view_named (db : Db) (taskId id : Int) (f : Task → Task) (keeps : ∀ t, (f t).id = t.id) :
    (∃ t, taskId = id ∧ (view db id).task = some t ∧
      view (db.updateTasks (named taskId) f keeps) id = { view db id with task := some (f t) }) ∨
    (¬ (taskId = id ∧ (db.tasks.find? id).isSome) ∧
      view (db.updateTasks (named taskId) f keeps) id = view db id) := by
  by_cases hit : taskId = id ∧ (db.tasks.find? id).isSome
  · obtain ⟨hid, present⟩ := hit
    obtain ⟨t, row⟩ := Option.isSome_iff_exists.mp present
    have selected : named taskId t = true := by
      simp [named, hid, Table.key_of_find? row]
    exact Or.inl ⟨t, hid, row, view_updateTasks_hit row selected⟩
  · refine Or.inr ⟨hit, view_updateTasks_miss fun t row => ?_⟩
    have hid : t.id = id := Table.key_of_find? row
    have absent : taskId ≠ id := fun e => hit ⟨e, by simp [row]⟩
    simp [named, hid, Ne.symm absent]

theorem view_storeResult (taskId : Int) (resultStr : String) (now : Seconds) (db : Db) (id : Int) :
    view (AgentDirect.storeResult taskId resultStr now db) id = if taskId = id then
      { view db id with
        result := some ((view db id).result.elim (resultRow taskId resultStr now)
          (overwrite (resultRow taskId resultStr now))) }
    else view db id := by
  have results : (db.results.upsert (resultRow taskId resultStr now)
      (overwrite (resultRow taskId resultStr now))
      (overwrite_taskId (resultRow taskId resultStr now))).find? id = if taskId = id then
        some ((db.results.find? id).elim (resultRow taskId resultStr now)
          (overwrite (resultRow taskId resultStr now))) else db.results.find? id :=
    Table.find?_upsert _ _ _ _ _
  split
  · rename_i hid
    exact TaskView.ext rfl rfl (results.trans (if_pos hid)) rfl
  · rename_i hid
    exact TaskView.ext rfl rfl (results.trans (if_neg hid)) rfl

theorem claim_statement_db (rt : Runtime) (clock clock' : Seconds) (agentId : String) (db : Db) :
    ((Job.claim agentId).statement rt clock clock' db).2 =
      (claimNext agentId (clock + 60) clock' db).2 := by
  simp only [Job.statement]
  split
  · rename_i hnone
    rw [hnone]
  · rename_i task db' hsome
    rw [hsome]
    split <;> rfl

theorem statement_taskSeq (rt : Runtime) (clock clock' : Seconds) (job : Job) (db : Db) :
    (job.statement rt clock clock' db).2.taskSeq = db.taskSeq := by
  cases job with
  | claim agentId =>
    rw [claim_statement_db, claimNext]
    split <;> rfl
  | autoRelease | giveBack | setStatus | storeResult => rfl

theorem statement_effect (rt : Runtime) (n : Nat) (clock clock' : Seconds) (job : Job) (db : Db)
    (id : Int) : AgentMove id n clock job (view db id) (claimEvent id n clock clock' job db)
      (view (job.statement rt clock clock' db).2 id) := by
  cases job with
  | autoRelease agentId =>
    simp only [Job.statement, AgentDirect.autoRelease, claimEvent]
    by_cases lapsed : (db.tasks.find? id).any (claimLapsed clock)
    · obtain ⟨t, row, guard⟩ := (Option.any_eq_true _ _).mp lapsed
      rw [if_pos lapsed, view_updateTasks_hit row guard]
      exact .release agentId row guard
    · rw [if_neg lapsed, view_updateTasks_miss]
      · exact .stay _ _
      · intro t row
        simpa [row] using lapsed
  | claim agentId =>
    rw [claim_statement_db]
    simp only [claimNext, claimEvent]
    cases hnext : nextForAgents db clock' with
    | none => exact .stay _ _
    | some task =>
      obtain ⟨row, pending, _⟩ := nextForAgents_spec hnext
      simp only [Option.any_some, decide_eq_true_eq]
      rcases view_named db task.id id (claimFor agentId (clock + 60))
        (claimFor_id agentId (clock + 60)) with ⟨t, hid, ht, hview⟩ | ⟨miss, hview⟩
      · subst hid
        have same : t = task := Option.some.inj (ht.symm.trans row)
        rw [hview, if_pos rfl]
        exact .claim agentId _ ht (same ▸ pending)
      · have other : task.id ≠ id := fun e => miss ⟨e, by simp [← e, row]⟩
        rw [hview, if_neg other]
        exact .stay _ _
  | giveBack agentId taskId =>
    simp only [Job.statement, AgentDirect.giveBack, claimEvent]
    rcases view_named db taskId id putBack putBack_id with ⟨t, rfl, row, hview⟩ | ⟨miss, hview⟩
    · rw [hview, if_pos ⟨rfl, Option.isSome_iff_exists.mpr ⟨t, row⟩⟩]
      exact .giveBack agentId row
    · rw [hview, if_neg miss]
      exact .stay _ _
  | setStatus agentId taskId status resultStr =>
    simp only [Job.statement, AgentDirect.setStatus, claimEvent]
    rcases view_named db taskId id (withStatus status) (withStatus_id status) with
      ⟨t, rfl, row, hview⟩ | ⟨miss, hview⟩
    · rw [hview, if_pos ⟨rfl, Option.isSome_iff_exists.mpr ⟨t, row⟩⟩]
      exact .submit agentId status resultStr row
    · rw [hview, if_neg miss]
      exact .stay _ _
  | storeResult agentId taskId status resultStr =>
    simp only [Job.statement, view_storeResult, claimEvent]
    by_cases hid : taskId = id
    · subst hid
      rw [if_pos rfl]
      refine .store agentId status resultStr ?_ ?_ <;> cases (view db taskId).result <;> rfl
    · rw [if_neg hid]
      exact .stay _ _

/-! ### Jobs in flight -/

/-- The statuses a submission writes. -/
def Submittable (status : String) : Prop := status = "COMPLETED" ∨ status = "FAILED"

/-- The job of a request that has run no statement yet. -/
def FirstJob (job : Job) : Prop :=
  (∃ agentId, job = .autoRelease agentId) ∨
    ∃ agentId taskId status resultStr, job = .setStatus agentId taskId status resultStr ∧
      Submittable status

theorem firstJob_of_request {rt : Runtime} {request : Request} {now : Seconds} {token : String}
    {agents agents' : Agents} {job : Job}
    (h : handleAgentDirectRequest rt request now token agents = some (.next job, agents')) :
    FirstJob job := by
  unfold handleAgentDirectRequest at h
  split at h
  · simp only [Option.some.injEq, Prod.mk.injEq] at h
    have poll := h.1
    unfold handlePoll at poll
    split at poll
    · cases poll
    split at poll
    · split at poll
      · cases poll
        exact Or.inl ⟨_, rfl⟩
      · cases poll
    · cases poll
  split at h
  · simp only [Option.some.injEq, Prod.mk.injEq] at h
    have result := h.1
    unfold handleResult at result
    simp only at result
    split at result
    · cases result
    split at result
    · cases result
    split at result
    · cases result
    split at result
    · cases result
    · cases result
      refine Or.inr ⟨_, _, _, _, rfl, ?_⟩
      split
      · exact Or.inr rfl
      · exact Or.inl rfl
  split at h
  · simp only [Option.some.injEq] at h
    have outcome : (handleRegister rt agents request now token).1 = .next job := by rw [h]
    unfold handleRegister at outcome
    split at outcome
    · cases outcome
    split at outcome
    · split at outcome <;> cases outcome
    · cases outcome
  split at h
  · simp only [Option.some.injEq] at h
    have outcome : (handleHeartbeat rt agents request now).1 = .next job := by rw [h]
    unfold handleHeartbeat at outcome
    split at outcome
    · cases outcome
    split at outcome
    · split at outcome <;> cases outcome
    · cases outcome
  split at h
  · simp [handleAgents] at h
  · cases h

/-- What a statement leaves to be done. -/
inductive NextJob (db : Db) (clock' : Seconds) : Job → Job → Prop
  | claim (agentId : String) : NextJob db clock' (.autoRelease agentId) (.claim agentId)
  | giveBack {t : Task} (agentId : String) (claimed : nextForAgents db clock' = some t) :
      NextJob db clock' (.claim agentId) (.giveBack agentId t.id)
  | storeResult (agentId : String) (taskId : Int) (status resultStr : String) :
      NextJob db clock' (.setStatus agentId taskId status (some resultStr))
        (.storeResult agentId taskId status resultStr)

theorem nextJob_of_statement {rt : Runtime} {clock clock' : Seconds} {job job' : Job} {db : Db}
    (h : (job.statement rt clock clock' db).1 = .next job') : NextJob db clock' job job' := by
  cases job with
  | autoRelease agentId =>
    cases h
    exact .claim agentId
  | claim agentId =>
    simp only [Job.statement, claimNext] at h
    cases hnext : nextForAgents db clock' with
    | none => simp [hnext] at h
    | some task =>
      simp only [hnext] at h
      split at h
      · cases h
      · cases h
        exact .giveBack agentId hnext
  | giveBack agentId taskId => cases h
  | setStatus agentId taskId status resultStr =>
    cases resultStr with
    | none => cases h
    | some resultStr =>
      cases h
      exact .storeResult agentId taskId status resultStr
  | storeResult agentId taskId status resultStr => cases h

/-- Where a job in flight comes from: it was there, it is a new request's, or its
handler has just run the statement before it. -/
theorem step_job {rt : Runtime} {e : Event} {s : Shared} {n : Nat} {job : Job}
    (h : (step rt e s).jobs n = some job) :
    (s.jobs n = some job ∧ ∀ clock clock', e ≠ .statement n clock clock') ∨
    (n = s.requests ∧ FirstJob job) ∨
    ∃ clock clock' before, e = .statement n clock clock' ∧ s.jobs n = some before ∧
      NextJob s.db clock' before job := by
  cases e with
  | queue op => exact Or.inl ⟨h, by simp⟩
  | request request now token =>
    simp only [step] at h
    split at h
    · exact Or.inl ⟨h, by simp⟩
    · rename_i outcome agents handled
      simp only [Function.update_apply] at h
      split at h
      · rename_i hn
        cases outcome with
        | next first =>
          cases h
          exact Or.inr (Or.inl ⟨hn, firstJob_of_request handled⟩)
        | reply => cases h
        | thrown => cases h
      · exact Or.inl ⟨h, by simp⟩
  | statement m clock clock' =>
    simp only [step] at h
    split at h
    · rename_i idle
      refine Or.inl ⟨h, fun c c' he => ?_⟩
      cases he
      rw [idle] at h
      cases h
    · rename_i before running
      simp only [Function.update_apply] at h
      split at h
      · rename_i hn
        subst hn
        cases hnext : (before.statement rt clock clock' s.db).1 with
        | next next =>
          rw [hnext] at h
          cases h
          exact Or.inr (Or.inr ⟨clock, clock', before, rfl, running, nextJob_of_statement hnext⟩)
        | reply =>
          rw [hnext] at h
          cases h
        | thrown =>
          rw [hnext] at h
          cases h
      · rename_i hn
        refine Or.inl ⟨h, fun c c' he => ?_⟩
        cases he
        exact hn rfl

/-- Requests not yet made have no job, and a submission writes an outcome. -/
structure JobsSound (s : Shared) : Prop where
  idle : ∀ n, s.requests ≤ n → s.jobs n = none
  status : ∀ n agentId taskId status resultStr,
    s.jobs n = some (.setStatus agentId taskId status resultStr) → Submittable status
  stored : ∀ n agentId taskId status resultStr,
    s.jobs n = some (.storeResult agentId taskId status resultStr) → Submittable status

theorem step_requests (rt : Runtime) (e : Event) (s : Shared) :
    s.requests ≤ (step rt e s).requests ∧
      ((step rt e s).jobs s.requests ≠ none → s.jobs s.requests = none →
        s.requests < (step rt e s).requests) := by
  cases e with
  | queue op => exact ⟨le_refl _, fun h h' => absurd h' h⟩
  | request request now token =>
    simp only [step]
    split
    · exact ⟨le_refl _, fun h h' => absurd h' h⟩
    · exact ⟨Nat.le_succ _, fun _ _ => Nat.lt_succ_self _⟩
  | statement n clock clock' =>
    simp only [step]
    split
    · exact ⟨le_refl _, fun h h' => absurd h' h⟩
    · rename_i job running
      refine ⟨le_refl _, fun h h' => ?_⟩
      by_cases hn : s.requests = n
      · rw [hn, running] at h'
        cases h'
      · simp only [Function.update_of_ne hn] at h
        exact absurd h' h

theorem step_jobsSound {rt : Runtime} {e : Event} {s : Shared} (sound : JobsSound s) :
    JobsSound (step rt e s) := by
  have rises := step_requests rt e s
  refine ⟨fun n hn => ?_, fun n agentId taskId status resultStr h => ?_,
    fun n agentId taskId status resultStr h => ?_⟩
  · by_contra present
    obtain ⟨job, h⟩ := Option.ne_none_iff_exists'.mp present
    rcases step_job h with ⟨old, _⟩ | ⟨rfl, _⟩ | ⟨_, _, before, _, old, _⟩
    · rw [sound.idle n (rises.1.trans hn)] at old
      cases old
    · have := rises.2 present (sound.idle _ (le_refl _))
      omega
    · rw [sound.idle n (rises.1.trans hn)] at old
      cases old
  · rcases step_job h with ⟨old, _⟩ | ⟨_, first⟩ | ⟨_, _, before, _, _, next⟩
    · exact sound.status n agentId taskId status resultStr old
    · rcases first with ⟨_, hjob⟩ | ⟨_, _, _, _, hjob, written⟩
      · cases hjob
      · cases hjob
        exact written
    · cases next
  · rcases step_job h with ⟨old, _⟩ | ⟨_, first⟩ | ⟨_, _, before, _, old, next⟩
    · exact sound.stored n agentId taskId status resultStr old
    · rcases first with ⟨_, hjob⟩ | ⟨_, _, _, _, hjob, _⟩ <;> cases hjob
    · cases next
      exact sound.status n agentId taskId status (some resultStr) old

theorem run_jobsSound (rt : Runtime) (events : List Event) : JobsSound (run rt events) := by
  have start : JobsSound .start := ⟨fun _ _ => rfl, fun _ _ _ _ _ h => (by cases h),
    fun _ _ _ _ _ h => (by cases h)⟩
  exact Histories.run_preserves (fun e s sound => step_jobsSound sound) start events

/-! ### An agent's run -/

def agentRuntime : Runtime := .reading
  [("\x7b\"agent_id\":\"a\"\x7d", .obj [("agent_id", .str "a")]),
    ("\x7b\"agent\":\"a\"\x7d", .obj [("agent", .str "a")]),
    ("\x7b\"task_id\":1,\"result\":\"done\"\x7d",
      .obj [("task_id", .num 1), ("result", .str "done")])]

def agentHeaders (name : String) : Option String :=
  [("x-agent-id", "a"), ("x-agent-token", "t")].lookup name

def agentRequest (pathname body : String) : Event :=
  .request { method := "POST", pathname, header := agentHeaders, body } 0 "t"

/-- A task for the agent, and the agent's registration. -/
def registered : List Event :=
  [.queue (.enqueue 0 "agent.invoke" "agent" "\x7b\"agent\":\"a\"\x7d" 0 3),
    agentRequest "/v1/agent/register" "\x7b\"agent_id\":\"a\"\x7d"]

def polled : List Event :=
  registered ++ [agentRequest "/v1/agent/poll" "\x7b\"agent_id\":\"a\"\x7d",
    .statement 1 0 0, .statement 1 0 0]

def submission : Event :=
  agentRequest "/v1/agent/result" "\x7b\"task_id\":1,\"result\":\"done\"\x7d"

end SharedDatabase
