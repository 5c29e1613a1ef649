import TaskQueQue.ResultProjection
import TaskQueQue.Cancellation
import TaskQueQue.Idempotency
import TaskQueQue.Retention
import TaskQueQue.WorkerProtocol
import TaskQueQue.Histories

/-!
# Runs of the queue

Every queue operation is one transaction on the shared database, with the clock
reading it took and the reply it gave. A run applies any list of operations,
whoever issued them, to the empty schema; clock readings are arbitrary.

`change` is read off an operation, its reply and the database before it. It is
what a run's history says about one task.
-/

namespace QueueRuns

open QueueValues QueueTables TaskLife KeyedTable SyncQueue LeaseFence ResultProjection
open Cancellation Idempotency Retention WorkerProtocol

inductive Op
  | enqueue (now : Seconds) (taskName taskType payload : String) (priority maxRetries : Int)
  | enqueueBounded (now : Seconds) (idempotencyKey requestFingerprint : String)
      (taskName taskType payload : String) (priority maxRetries maxActiveTasks : Int)
  | dispatchBatch (now : Seconds) (workers : List WorkerDescriptor) (leaseSec : F64)
      (transport : Nat → Nat → F64)
  | dispatchRegistered (now : Seconds) (sessions : List WorkerSession) (leaseSec : F64)
      (transport : String → Nat → Nat → F64)
  | recoverExpiredLeases (now : Seconds)
  | claimTask (now : Seconds) (workerId : String)
  | heartbeat (now : Seconds) (taskId : Int) (workerId : String) (generation : Int)
      (extendSec : F64)
  | completeTask (now : Seconds) (taskId : Int) (workerId : String) (generation : Int)
  | failTask (now : Seconds) (taskId : Int) (workerId : String) (generation : Int)
      (errorMsg : String)
  | completeWithProjection (now : Seconds) (taskId : Int) (workerId : String) (generation : Int)
      (resultJson : String)
  | cancelTask (now : Seconds) (taskId : Int)
  | pruneToMax (maxTerminalTasks : Int)

inductive Reply
  | enqueued (taskId : Int)
  | admission (result : IdempotentEnqueueResult)
  | dispatched (tasks : List DispatchedTask)
  | assigned (assignments : List WorkerAssignment)
  | recovered (affected : Nat)
  | claimed (task : Option FencedClaimedTask)
  | mutation (result : LeaseMutation)
  | cancellation (outcome : CancellationOutcome)
  | retention (result : TerminalRetentionResult)
  | failed (err : QueueError)
deriving DecidableEq

def answer {α : Type} (wrap : α → Reply) (op : Transaction α) (db : Db) : Reply × Db :=
  match executeWithRetry op db with
  | (.ok value, db') => (wrap value, db')
  | (.error err, db') => (.failed err, db')

theorem answer_cases {α : Type} (wrap : α → Reply) (op : Transaction α) (db : Db) :
    (∃ value db', op db = .ok (value, db') ∧ answer wrap op db = (wrap value, db')) ∨
    (∃ err, op db = .error err ∧ answer wrap op db = (.failed err, db)) := by
  cases h : op db with
  | ok result =>
    obtain ⟨value, db'⟩ := result
    exact Or.inl ⟨value, db', rfl, by simp only [answer, executeWithRetry_ok h]⟩
  | error err =>
    exact Or.inr ⟨err, rfl, by simp only [answer, executeWithRetry_error h]⟩

def exec : Op → Db → Reply × Db
  | .enqueue now taskName taskType payload priority maxRetries =>
    answer .enqueued (enqueue now taskName taskType payload priority maxRetries)
  | .enqueueBounded now key fingerprint taskName taskType payload priority maxRetries limit =>
    answer .admission
      (enqueueBounded now key fingerprint taskName taskType payload priority maxRetries limit)
  | .dispatchBatch now workers leaseSec transport =>
    answer .dispatched (dispatchBatch now workers leaseSec transport)
  | .dispatchRegistered now sessions leaseSec transport =>
    answer .assigned (dispatchRegistered now sessions leaseSec transport)
  | .recoverExpiredLeases now => answer .recovered (recoverExpiredLeases now)
  | .claimTask now workerId => answer .claimed (claimTask now workerId)
  | .heartbeat now taskId workerId generation extendSec =>
    answer .mutation (heartbeat now taskId workerId generation extendSec)
  | .completeTask now taskId workerId generation =>
    answer .mutation (completeTask now taskId workerId generation)
  | .failTask now taskId workerId generation errorMsg =>
    answer .mutation (failTask now taskId workerId generation errorMsg)
  | .completeWithProjection now taskId workerId generation resultJson =>
    answer .mutation (completeWithProjection now taskId workerId generation resultJson)
  | .cancelTask now taskId => answer .cancellation (cancelTask now taskId)
  | .pruneToMax maxTerminalTasks => answer .retention (pruneToMax maxTerminalTasks)

def step (op : Op) (db : Db) : Db := (exec op db).2

/-- The database after a list of operations on the empty schema. -/
def run (ops : List Op) : Db := Histories.run step .empty ops

/-- What an operation that gave this reply did to one task. -/
def noted (op : Op) (reply : Reply) (db : Db) (id : Int) : Change :=
  match op, reply with
  | .enqueue .., .enqueued taskId => createdChange taskId id
  | .enqueueBounded .., .admission result => admissionChange result id
  | .recoverExpiredLeases now, .recovered _ =>
    if (db.tasks.find? id).any (recovers now) then .recovered else .quiet
  | .claimTask _ workerId, .claimed task => claimChange workerId task id
  | .completeTask _ taskId workerId generation, .mutation result =>
    appliedChange taskId (.completed workerId generation) result id
  | .failTask _ taskId workerId generation _, .mutation result =>
    appliedChange taskId (failChange db taskId workerId generation) result id
  | .completeWithProjection _ taskId workerId generation _, .mutation result =>
    appliedChange taskId (.completed workerId generation) result id
  | .cancelTask _ taskId, .cancellation outcome => cancelChange taskId outcome id
  | .pruneToMax _, .retention result => pruneChange db result id
  | _, _ => .quiet

def change (id : Int) (op : Op) (db : Db) : Change := noted op (exec op db).1 db id

theorem noted_failed (op : Op) (err : QueueError) (db : Db) (id : Int) :
    noted op (.failed err) db id = .quiet := by
  cases op <;> rfl

/-- An operation advances the database if its committed outcomes do. -/
theorem answer_advances (op : Op) {α : Type} {wrap : α → Reply} {body : Transaction α} {db : Db}
    (committed : ∀ value db', body db = .ok (value, db') →
      Advances db db' (noted op (wrap value) db)) :
    Advances db (answer wrap body db).2 (noted op (answer wrap body db).1 db) := by
  rcases answer_cases wrap body db with ⟨value, db', hbody, hans⟩ | ⟨err, _, hans⟩
  · rw [hans]
    exact committed value db' hbody
  · rw [hans]
    exact advances_self (noted_failed op err db)

/-- The operations that take a new id from the sequence. -/
def admits : Op → Bool
  | .enqueue .. | .enqueueBounded .. => true
  | _ => false

/-- Only the admissions need the next id to be unused. -/
theorem exec_advances_of {db : Db} (op : Op) (fresh : admits op = true → Fresh db) :
    Advances db (step op db) fun id => change id op db := by
  cases op with
  | enqueue =>
    exact answer_advances _ fun _ _ h => enqueue_advances (fresh rfl) h
  | enqueueBounded =>
    exact answer_advances _ fun _ _ h => enqueueBounded_advances (fresh rfl) h
  | dispatchBatch =>
    exact answer_advances _ fun _ _ h => (dispatchBatch_onlyAssigns h).advances
  | dispatchRegistered =>
    exact answer_advances _ fun _ _ h => (dispatchRegistered_assigns h).onlyAssigns.advances
  | recoverExpiredLeases =>
    exact answer_advances _ fun _ _ h => recoverExpiredLeases_advances h
  | claimTask =>
    exact answer_advances _ fun _ _ h => claimTask_advances h
  | heartbeat =>
    exact answer_advances _ fun _ _ h => heartbeat_advances h
  | completeTask =>
    exact answer_advances _ fun _ _ h => completeTask_advances h
  | failTask =>
    exact answer_advances _ fun _ _ h => failTask_advances h
  | completeWithProjection =>
    exact answer_advances _ fun _ _ h => completeWithProjection_advances h
  | cancelTask =>
    exact answer_advances _ fun _ _ h => cancelTask_advances h
  | pruneToMax =>
    exact answer_advances _ fun _ _ h => pruneToMax_advances h

theorem exec_advances {db : Db} (fresh : Fresh db) (op : Op) :
    Advances db (step op db) fun id => change id op db :=
  exec_advances_of op fun _ => fresh

/-! ### Reading a change back -/

theorem appliedChange_ne_quiet {taskId id : Int} {c c' : Change} {mutation : LeaseMutation}
    (h : appliedChange taskId c mutation id = c') (loud : c' ≠ .quiet) :
    mutation = .applied ∧ id = taskId ∧ c = c' := by
  unfold appliedChange at h
  split at h
  · rename_i hcond
    exact ⟨hcond.1, hcond.2, h⟩
  · exact (loud h.symm).elim

/-- Which operation and reply stand behind a change that is not quiet. -/
inductive Noted (db : Db) (id : Int) : Op → Reply → Change → Prop
  | created (now : Seconds) (taskName taskType payload : String) (priority maxRetries : Int) :
      Noted db id (.enqueue now taskName taskType payload priority maxRetries) (.enqueued id)
        .created
  | admitted (now : Seconds) (key fingerprint taskName taskType payload : String)
      (priority maxRetries limit : Int) :
      Noted db id (.enqueueBounded now key fingerprint taskName taskType payload priority
        maxRetries limit) (.admission (.created id)) .created
  | recovered (now : Seconds) (affected : Nat) :
      Noted db id (.recoverExpiredLeases now) (.recovered affected) .recovered
  | claimed (now : Seconds) (workerId : String) (task : FencedClaimedTask) (named : task.id = id) :
      Noted db id (.claimTask now workerId) (.claimed (some task))
        (.claimed workerId task.leaseGeneration)
  | completed (now : Seconds) (workerId : String) (generation : Int) :
      Noted db id (.completeTask now id workerId generation) (.mutation .applied)
        (.completed workerId generation)
  | projected (now : Seconds) (workerId : String) (generation : Int) (resultJson : String) :
      Noted db id (.completeWithProjection now id workerId generation resultJson)
        (.mutation .applied) (.completed workerId generation)
  | retried (now : Seconds) (workerId : String) (generation : Int) (errorMsg : String)
      (budget : budgetSpent db id = false) :
      Noted db id (.failTask now id workerId generation errorMsg) (.mutation .applied)
        (.retried workerId generation)
  | failed (now : Seconds) (workerId : String) (generation : Int) (errorMsg : String)
      (spent : budgetSpent db id = true) :
      Noted db id (.failTask now id workerId generation errorMsg) (.mutation .applied)
        (.failed workerId generation)
  | cancelled (now : Seconds) : Noted db id (.cancelTask now id) (.cancellation .applied) .cancelled
  | pruned (maxTerminalTasks : Int) (result : TerminalRetentionResult) :
      Noted db id (.pruneToMax maxTerminalTasks) (.retention result) .pruned

theorem noted_of_change {db : Db} {op : Op} {id : Int} {c : Change}
    (h : change id op db = c) (loud : c ≠ .quiet) : Noted db id op (exec op db).1 c := by
  unfold change at h
  generalize (exec op db).1 = reply at h
  unfold noted at h
  split at h
  · unfold createdChange at h
    split at h
    · rename_i named
      exact h ▸ named ▸ .created _ _ _ _ _ _
    · exact (loud h.symm).elim
  · unfold admissionChange createdChange at h
    split at h
    · split at h
      · rename_i named
        exact h ▸ named ▸ .admitted _ _ _ _ _ _ _ _ _
      · exact (loud h.symm).elim
    · exact (loud h.symm).elim
  · split at h
    · exact h ▸ .recovered _ _
    · exact (loud h.symm).elim
  · unfold claimChange at h
    split at h
    · split at h
      · rename_i named
        exact h ▸ .claimed _ _ _ named
      · exact (loud h.symm).elim
    · exact (loud h.symm).elim
  · obtain ⟨rfl, rfl, rfl⟩ := appliedChange_ne_quiet h loud
    exact .completed _ _ _
  · obtain ⟨rfl, rfl, rfl⟩ := appliedChange_ne_quiet h loud
    unfold failChange
    split
    · rename_i spent
      exact .failed _ _ _ _ spent
    · rename_i budget
      exact .retried _ _ _ _ (by simpa using budget)
  · obtain ⟨rfl, rfl, rfl⟩ := appliedChange_ne_quiet h loud
    exact .projected _ _ _ _
  · unfold cancelChange at h
    split at h
    · rename_i hcond
      obtain ⟨rfl, rfl⟩ := hcond
      exact h ▸ .cancelled _
    · exact (loud h.symm).elim
  · unfold pruneChange at h
    split at h
    · exact h ▸ .pruned _ _
    · exact (loud h.symm).elim
  · exact (loud h.symm).elim

theorem step_fresh (op : Op) (db : Db) (fresh : Fresh db) : Fresh (step op db) :=
  (exec_advances fresh op).fresh fresh

theorem run_fresh (ops : List Op) : Fresh (run ops) :=
  Histories.run_preserves step_fresh empty_fresh ops

theorem run_append (ops later : List Op) :
    run (ops ++ later) = Histories.run step (run ops) later :=
  Histories.run_append _ _ _

end QueueRuns
