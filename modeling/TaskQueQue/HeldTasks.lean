import TaskQueQue.IssuedSessions

/-!
# Who holds a task

In every run of the worker daemon a task that is assigned or running is held by a session
that was issued, of the task's type and advertising its name. Only a dispatch assigns, to
the sessions of its snapshot; nothing else changes who holds a task but to free it.
-/

namespace HeldTasks

open QueueValues QueueTables TaskLife KeyedTable SyncQueue WorkerProtocol HttpFraming
open WorkerRoutes WorkerDaemon IssuedSessions
open QueueRuns (Op)
open WorkerApi (claimJson)

variable {api : Api} {ttl : Instant}

def held (t : Task) : Prop := t.status = "ASSIGNED" ∨ t.status = "RUNNING"

/-- Who holds a task, and what a holder has to advertise. -/
def lease (t : Task) : Option String × String × String := (t.lockedBy, t.taskName, t.taskType)

/-- What is held was held before, by the same holder. -/
def KeepsLeases (db db' : Db) : Prop :=
  ∀ id t', db'.tasks.find? id = some t' → held t' →
    ∃ t, db.tasks.find? id = some t ∧ held t ∧ lease t' = lease t

theorem KeepsLeases.refl (db : Db) : KeepsLeases db db := fun _ t found holds => ⟨t, found, holds, rfl⟩

/-! ### What does not assign -/

theorem keepsLeases_update {db : Db} {p : Task → Bool} {f : Task → Task}
    {keeps : ∀ t, (f t).id = t.id}
    (kept : ∀ t, p t = true → held (f t) → held t ∧ lease (f t) = lease t) :
    KeepsLeases db (db.updateTasks p f keeps) := by
  intro id t' found holds
  rw [Db.updateTasks_tasks, Table.find?_update, Option.map_eq_some_iff] at found
  obtain ⟨t, row, shape⟩ := found
  split at shape
  · rename_i chosen
    rw [← shape] at holds ⊢
    obtain ⟨before, same⟩ := kept t chosen holds
    exact ⟨t, row, before, same⟩
  · rw [← shape] at holds ⊢
    exact ⟨t, row, holds, rfl⟩

theorem unlockAs_free (status : String) (free : status ≠ "ASSIGNED" ∧ status ≠ "RUNNING")
    (now : Seconds) (t : Task) : ¬ held (unlockAs status now t) := by
  rintro (assigned | running)
  · exact free.1 assigned
  · exact free.2 running

theorem keepsLeases_unlock {db : Db} {p : Task → Bool} {f : Task → Task}
    {keeps : ∀ t, (f t).id = t.id} (free : ∀ t, ¬ held (f t)) :
    KeepsLeases db (db.updateTasks p f keeps) :=
  keepsLeases_update fun t _ holds => absurd holds (free t)

/-- A row that is put in under an unused id is not held if it is new. -/
theorem keepsLeases_insert {db db' : Db} {t : Task} (free : ¬ held t)
    (inserted : db.tasks.insert? t = some db'.tasks) : KeepsLeases db db' := by
  intro id t' found holds
  rw [Table.find?_of_insert? inserted] at found
  split at found
  · cases found
    exact absurd holds free
  · exact ⟨t', found, holds, rfl⟩

theorem newTask_free (now : Seconds) (taskName taskType payload : String)
    (priority maxRetries id : Int) :
    ¬ held (newTask now taskName taskType payload priority maxRetries id) := by
  rintro (assigned | running)
  · exact absurd assigned (by simp [newTask])
  · exact absurd running (by simp [newTask])

theorem fencedUpdate_keeps {db : Db} {taskId generation : Int} {workerId : String} {now : Seconds}
    {set : Task → Task} {keeps : ∀ t, (set t).id = t.id}
    (kept : ∀ t, held (set t) → held t ∧ lease (set t) = lease t) :
    KeepsLeases db (LeaseFence.fencedUpdate taskId workerId generation now set keeps db).2 :=
  keepsLeases_update fun t _ => kept t

theorem failTask_keeps {db db' : Db} {taskId generation : Int} {workerId errorMsg : String}
    {now : Seconds} {mutation : LeaseMutation}
    (h : LeaseFence.failTask now taskId workerId generation errorMsg db = .ok (mutation, db')) :
    KeepsLeases db db' := by
  have failed : ∀ t, ¬ held (failWith errorMsg now t) := fun t =>
    unlockAs_free "FAILED" (by decide) now t
  unfold LeaseFence.failTask at h
  split at h
  · cases h
    exact .refl db
  · rename_i t _
    have retried : ∀ x,
        ¬ held (retryAt (now + LeaseFence.backoffSeconds t.retryCount) errorMsg now x) :=
      fun x => unlockAs_free "PENDING" (by decide) now x
    split at h
    · cases h
      exact fencedUpdate_keeps fun t holds => absurd holds (failed t)
    · cases h
      exact fencedUpdate_keeps fun t holds => absurd holds (retried t)

theorem completed_keeps (db : Db) (taskId generation : Int) (workerId : String) (now : Seconds) :
    KeepsLeases db (LeaseFence.fencedUpdate taskId workerId generation now
      (unlockAs "COMPLETED" now) (unlockAs_id "COMPLETED" now) db).2 :=
  fencedUpdate_keeps fun t holds =>
    absurd holds (unlockAs_free "COMPLETED" (by decide) now t)

theorem completeWithProjection_keeps {db db' : Db} {taskId generation : Int}
    {workerId resultJson : String} {now : Seconds} {mutation : LeaseMutation}
    (h : ResultProjection.completeWithProjection now taskId workerId generation resultJson db =
      .ok (mutation, db')) : KeepsLeases db db' := by
  have completed := completed_keeps db taskId generation workerId now
  unfold ResultProjection.completeWithProjection at h
  split at h
  · cases h
  split at h
  · cases h
  split at h
  · rename_i db₁ updated
    rw [updated] at completed
    cases h
    exact completed
  · rename_i db₁ updated
    rw [updated] at completed
    split at h
    · cases h
      exact completed
    · cases h

theorem enqueue_keeps {db db' : Db} {now : Seconds} {taskName taskType payload : String}
    {priority maxRetries id : Int}
    (h : enqueue now taskName taskType payload priority maxRetries db = .ok (id, db')) :
    KeepsLeases db db' := by
  obtain ⟨_, _, tasks, inserted, rfl⟩ := Db.insertTask_ok h
  exact keepsLeases_insert (newTask_free _ _ _ _ _ _ _) inserted

theorem enqueueBounded_keeps {db db' : Db} {now : Seconds} {key fingerprint : String}
    {taskName taskType payload : String} {priority maxRetries limit : Int}
    {reply : Idempotency.IdempotentEnqueueResult}
    (h : Idempotency.enqueueBounded now key fingerprint taskName taskType payload priority
      maxRetries limit db = .ok (reply, db')) : KeepsLeases db db' := by
  rcases Idempotency.enqueueBounded_cases h with
    ⟨rfl, _⟩ | ⟨taskId, _, _, _, _, tasks, idempotency, inserted, _, rfl⟩
  · exact .refl db'
  · exact keepsLeases_insert (newTask_free _ _ _ _ _ _ _) inserted

theorem recoverExpiredLeases_keeps {db db' : Db} {now : Seconds} {affected : Nat}
    (h : recoverExpiredLeases now db = .ok (affected, db')) : KeepsLeases db db' := by
  cases h
  exact keepsLeases_unlock fun t => unlockAs_free "PENDING" (by decide) now t

/-- What is claimed was assigned to the session already. -/
theorem claimTask_keeps {db db' : Db} {now : Seconds} {workerId : String}
    {claimed : Option LeaseFence.FencedClaimedTask}
    (h : LeaseFence.claimTask now workerId db = .ok (claimed, db')) : KeepsLeases db db' := by
  unfold LeaseFence.claimTask at h
  split at h
  · cases h
    exact .refl db
  dsimp only at h
  split at h
  · cases h
    exact .refl db
  split at h
  · cases h
  · cases h
    have started : ∀ guard : Task → Bool, (∀ t, guard t = true → t.status = "ASSIGNED") →
        KeepsLeases db (db.updateTasks guard (start now) (start_id now)) := fun guard assigned =>
      keepsLeases_update fun t chosen _ => ⟨Or.inl (assigned t chosen), rfl⟩
    refine started _ fun t guard => ?_
    simp only [Bool.and_eq_true, decide_eq_true_eq] at guard
    exact guard.1.1.2

theorem heartbeat_keeps {db db' : Db} {now : Seconds} {taskId generation : Int}
    {workerId : String} {extendSec : F64} {mutation : LeaseMutation}
    (h : LeaseFence.heartbeat now taskId workerId generation extendSec db = .ok (mutation, db')) :
    KeepsLeases db db' := by
  cases h
  exact fencedUpdate_keeps fun t holds => ⟨holds, rfl⟩

theorem applyCancel_keeps {db db' : Db} {now : Seconds} {taskId : Int} {status : TaskStatus}
    {outcome : Cancellation.CancellationOutcome}
    (h : Cancellation.applyCancel now taskId status db = .ok (outcome, db')) :
    KeepsLeases db db' := by
  unfold Cancellation.applyCancel at h
  split at h
  · cases h
  dsimp only at h
  split at h
  · cases h
  · cases h
    rename_i generation _ _
    have cancelled : ∀ guard : Task → Bool, KeepsLeases (db.setGeneration taskId generation)
        ((db.setGeneration taskId generation).updateTasks guard (unlockAs "CANCELLED" now)
          (unlockAs_id "CANCELLED" now)) := fun guard =>
      keepsLeases_unlock fun t => unlockAs_free "CANCELLED" (by decide) now t
    exact cancelled _

theorem cancelTask_keeps {db db' : Db} {now : Seconds} {taskId : Int}
    {outcome : Cancellation.CancellationOutcome}
    (h : Cancellation.cancelTask now taskId db = .ok (outcome, db')) : KeepsLeases db db' := by
  unfold Cancellation.cancelTask at h
  split at h
  · cases h
  split at h
  · cases h
    exact .refl db
  split at h
  · cases h
  · cases h
    exact .refl db
  · cases h
    exact .refl db
  · cases h
    exact .refl db
  · exact applyCancel_keeps h

theorem pruneToMax_keeps {db db' : Db} {maxTerminalTasks : Int}
    {result : Retention.TerminalRetentionResult}
    (h : Retention.pruneToMax maxTerminalTasks db = .ok (result, db')) : KeepsLeases db db' := by
  rcases Retention.pruneToMax_cases h with ⟨rfl, _⟩ | rfl
  · exact .refl db'
  · intro id t' found holds
    rw [Retention.deleteTasks, Table.find?_delete] at found
    exact ⟨t', (Option.filter_eq_some_iff.mp found).1, holds, rfl⟩

theorem answer_keeps {α : Type} {wrap : α → QueueRuns.Reply} {body : Transaction α} {db : Db}
    (committed : ∀ value db', body db = .ok (value, db') → KeepsLeases db db') :
    KeepsLeases db (QueueRuns.answer wrap body db).2 := by
  rcases QueueRuns.answer_cases wrap body db with ⟨value, db', ran, answer⟩ | ⟨err, _, answer⟩
  · rw [answer]
    exact committed value db' ran
  · rw [answer]
    exact .refl db

/-- Only a dispatch assigns. -/
theorem step_keeps {op : Op} (other : CoordinatorRuns.dispatches op = false) (db : Db) :
    KeepsLeases db (QueueRuns.step op db) := by
  cases op with
  | dispatchBatch => cases other
  | dispatchRegistered => cases other
  | enqueue => exact answer_keeps fun _ _ => enqueue_keeps
  | enqueueBounded => exact answer_keeps fun _ _ => enqueueBounded_keeps
  | recoverExpiredLeases => exact answer_keeps fun _ _ => recoverExpiredLeases_keeps
  | claimTask => exact answer_keeps fun _ _ => claimTask_keeps
  | heartbeat => exact answer_keeps fun _ _ => heartbeat_keeps
  | completeTask =>
    refine answer_keeps fun _ _ done => ?_
    cases done
    exact completed_keeps _ _ _ _ _
  | failTask => exact answer_keeps fun _ _ => failTask_keeps
  | completeWithProjection => exact answer_keeps fun _ _ => completeWithProjection_keeps
  | cancelTask => exact answer_keeps fun _ _ => cancelTask_keeps
  | pruneToMax => exact answer_keeps fun _ _ => pruneToMax_keeps

/-! ### Every holder was issued -/

/-- A session with this id was issued, for the type of the task and with its name. -/
def Suited (api : Api) (ttl : Instant) (events : List Event) (sessionId taskName taskType : String) :
    Prop :=
  ∃ made, Issued api ttl events made ∧ made.session.sessionId = sessionId ∧
    taskType = made.session.kind.toDb ∧ taskName ∈ made.session.taskNames.1

def HeldBySuited (api : Api) (ttl : Instant) (events : List Event) (db : Db) : Prop :=
  ∀ id t, db.tasks.find? id = some t → held t →
    ∃ w, t.lockedBy = some w ∧ Suited api ttl events w t.taskName t.taskType

theorem HeldBySuited.kept {events : List Event} {db db' : Db} (e : Event)
    (suited : HeldBySuited api ttl events db) (keeps : KeepsLeases db db') :
    HeldBySuited api ttl (events ++ [e]) db' := by
  intro id t' found holds
  obtain ⟨t, before, held, same⟩ := keeps id t' found holds
  obtain ⟨w, owner, made, issued, advertises⟩ := suited id t before held
  simp only [lease, Prod.mk.injEq] at same
  obtain ⟨owner', name, type⟩ := same
  refine ⟨w, owner'.trans owner, made, issued.later [e], ?_⟩
  rw [name, type]
  exact advertises

/-- A dispatch assigns to the sessions of its snapshot, by their types and names. -/
theorem HeldBySuited.dispatched {events : List Event} {db : Db} (e : Event)
    (suited : HeldBySuited api ttl events db) {now : Seconds} {sessions : List WorkerSession}
    {leaseSec : F64} {transport : String → Nat → Nat → F64}
    (issued : ∀ session ∈ sessions, ∃ sessionToken, Issued api ttl events ⟨session, sessionToken⟩) :
    HeldBySuited api ttl (events ++ [e])
      (QueueRuns.step (.dispatchRegistered now sessions leaseSec transport) db) := by
  have step_eq : QueueRuns.step (.dispatchRegistered now sessions leaseSec transport) db =
      (QueueRuns.answer .assigned (dispatchRegistered now sessions leaseSec transport) db).2 := rfl
  rw [step_eq]
  rcases QueueRuns.answer_cases .assigned (dispatchRegistered now sessions leaseSec transport) db with
    ⟨assignments, db', ran, answer⟩ | ⟨err, _, answer⟩
  · rw [answer]
    have assigns := dispatchRegistered_assigns ran
    intro id t' found holds
    rcases assigns.row id with
      ⟨same, _⟩ | ⟨a, reported, _, t, leaseUntil, now', _, _, name, type, row⟩
    · rw [same] at found
      exact suited.kept e (.refl db) id t' found holds
    · rw [row, Option.some.injEq] at found
      obtain ⟨session, mem, sessionId, kind, advertised⟩ := assigns.sound a reported
      obtain ⟨sessionToken, issuance⟩ := issued session mem
      rw [← found]
      refine ⟨a.sessionId, rfl, _, issuance.later [e], sessionId.symm, ?_⟩
      exact ⟨type.trans kind, (show t.taskName = a.taskName from name) ▸ advertised⟩
  · rw [answer]
    exact suited.kept e (.refl db)

variable (api ttl) in
theorem run_held (events : List Event) :
    HeldBySuited api ttl events (run api ttl events).api.db := by
  induction events using List.reverseRecOn with
  | nil =>
    intro id t found
    cases found
  | append_singleton events e ih =>
    rw [run_concat]
    have happened := step_happened api ttl e (run api ttl events)
    generalize (step api ttl e (run api ttl events)).api.db = db at happened
    cases happened with
    | nothing => exact ih.kept e (.refl _)
    | @client op allowed =>
      refine ih.kept e (step_keeps ?_ _)
      cases op with
      | dispatchBatch => cases allowed
      | dispatchRegistered => cases allowed
      | _ => rfl
    | dispatch taken => exact ih.dispatched e fun session mem => (run_issued events).2 _ taken session mem
    | claimed => exact ih.kept e (step_keeps rfl _)
    | @reported _ _ _ _ _ report =>
      refine ih.kept e (step_keeps ?_ _)
      cases report with
      | heartbeat => rfl
      | fail error => rfl
      | complete resultJson => cases resultJson <;> rfl

theorem claimTask_row {db db' : Db} {now : Seconds} {workerId : String}
    {task : LeaseFence.FencedClaimedTask}
    (h : LeaseFence.claimTask now workerId db = .ok (some task, db')) :
    ∃ t, db.tasks.find? task.id = some t ∧ t.status = "ASSIGNED" ∧ t.lockedBy = some workerId ∧
      task = ⟨t.id, t.taskName, t.taskType, t.payload, t.retryCount, t.maxRetries,
        db.generationOf t.id + 1⟩ := by
  unfold LeaseFence.claimTask at h
  split at h
  · cases h
  rename_i t claimable
  dsimp only at h
  split at h
  · cases h
  split at h
  · cases h
  · rename_i next counted
    cases h
    obtain ⟨row, assigned, owner, _⟩ := LeaseFence.claimable_spec claimable
    unfold checkedAdd at counted
    split at counted
    · cases counted
      exact ⟨t, row, assigned, owner, rfl⟩
    · cases counted

theorem exec_claimed {now : Seconds} {w : String} {db : Db} {task : LeaseFence.FencedClaimedTask}
    (served : (QueueRuns.exec (.claimTask now w) db).1 = .claimed (some task)) :
    ∃ db', LeaseFence.claimTask now w db = .ok (some task, db') := by
  have exec_eq : QueueRuns.exec (.claimTask now w) db =
      QueueRuns.answer .claimed (LeaseFence.claimTask now w) db := rfl
  rw [exec_eq] at served
  rcases QueueRuns.answer_cases .claimed (LeaseFence.claimTask now w) db with
    ⟨claimed, db', ran, answer⟩ | ⟨err, _, answer⟩
  · rw [answer] at served
    cases served
    exact ⟨db', ran⟩
  · rw [answer] at served
    cases served

theorem grants_suited {events : List Event} {e : Event} {taskId generation : Int} {w : String}
    (grants : Grants api e (run api ttl events) taskId w generation) :
    ∃ task, respond api e (run api ttl events) =
        some ⟨200, "OK", claimJson task api.taskLease.millis⟩ ∧
      task.id = taskId ∧ task.leaseGeneration = generation ∧
      Suited api ttl events w task.taskName task.taskType := by
  obtain ⟨⟨request, read, path, quoted⟩, task, answer, named, fence⟩ := grants
  refine ⟨task, answer, named, fence, ?_⟩
  have unread : e.request? ≠ none := by
    rw [read]
    exact Option.some_ne_none request
  have happened := step_happened api ttl e (run api ttl events)
  generalize (step api ttl e (run api ttl events)).api.db = db at happened
  cases happened with
  | nothing silent =>
    have asks : ofTasks request = true := by
      rw [ofTasks, path]
      rfl
    exact absurd rfl (silent request read asks _ answer)
  | client _ none => exact absurd none unread
  | dispatch _ none => exact absurd none unread
  | reported read' reports =>
    rw [read] at read'
    cases read'
    exact absurd path (other_path reports)
  | @claimed m request' session task' read' path' authentic served answer' =>
    rw [read] at read'
    cases read'
    rw [answer, Option.some.injEq, Response.mk.injEq] at answer'
    cases WorkerApi.claimJson_injective answer'.2.2
    rw [Authentic.quotes authentic] at quoted
    cases quoted
    obtain ⟨db', ran⟩ := exec_claimed served
    obtain ⟨t, row, assigned, owner, told⟩ := claimTask_row ran
    obtain ⟨w, owner', suited⟩ := run_held api ttl events _ t row (Or.inl assigned)
    cases owner.symm.trans owner'
    rw [told]
    exact suited

/-- Tasks are held by sessions that advertise them, and served to no other. -/
theorem held_tasks_advertised (api : Api) (ttl : Instant) (events : List Event) :
    (∀ id t, (run api ttl events).api.db.tasks.find? id = some t →
      t.status = "ASSIGNED" ∨ t.status = "RUNNING" →
      ∃ w, t.lockedBy = some w ∧ Suited api ttl events w t.taskName t.taskType) ∧
    ∀ e taskId w generation, Grants api e (run api ttl events) taskId w generation →
      ∃ task, respond api e (run api ttl events) =
          some ⟨200, "OK", claimJson task api.taskLease.millis⟩ ∧
        task.id = taskId ∧ task.leaseGeneration = generation ∧
        Suited api ttl events w task.taskName task.taskType :=
  ⟨run_held api ttl events, fun _ _ _ _ => grants_suited⟩

end HeldTasks
