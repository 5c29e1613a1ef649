import TaskQueQue.QueueTables
import Mathlib.Data.List.MinMax

/-!
# Queue metrics

One aggregate query over the task table. Every figure counts the rows a condition
selects; the six status figures and the figure of unknown statuses split the
table.
-/

namespace TaskQuery

open QueueValues QueueTables

structure QueueMetricsSnapshot where
  observedAt : Seconds
  totalTasks : Nat
  pending : Nat
  assigned : Nat
  running : Nat
  completed : Nat
  failed : Nat
  cancelled : Nat
  unknownStatus : Nat
  pendingRunnable : Nat
  pendingDelayed : Nat
  activeLeases : Nat
  expiredLeases : Nat
  activeWithoutLeaseDeadline : Nat
  oldestRunnablePendingAgeSeconds : Option Seconds
deriving DecidableEq

/-- The rows one of the six status figures counts. -/
def bucket (status : TaskStatus) (t : Task) : Bool := decide (t.status = status.asStr)

def unknown (t : Task) : Bool :=
  !t.statusIn ["PENDING", "ASSIGNED", "RUNNING", "COMPLETED", "FAILED", "CANCELLED"]

def leased (t : Task) : Bool := t.statusIn ["ASSIGNED", "RUNNING"]

def runnableAt (observedAt : Seconds) (t : Task) : Bool :=
  decide (t.status = "PENDING") && decide (t.scheduledAt ≤ observedAt)

def metrics (observedAt : Seconds) (db : Db) : QueueMetricsSnapshot where
  observedAt := observedAt
  totalTasks := db.tasks.rows.length
  pending := db.tasks.count (bucket .pending)
  assigned := db.tasks.count (bucket .assigned)
  running := db.tasks.count (bucket .running)
  completed := db.tasks.count (bucket .completed)
  failed := db.tasks.count (bucket .failed)
  cancelled := db.tasks.count (bucket .cancelled)
  unknownStatus := db.tasks.count unknown
  pendingRunnable := db.tasks.count (runnableAt observedAt)
  pendingDelayed := db.tasks.count fun t =>
    decide (t.status = "PENDING") && decide (observedAt < t.scheduledAt)
  activeLeases := db.tasks.count fun t => leased t && t.lockedUntilFrom observedAt
  expiredLeases := db.tasks.count fun t => leased t && t.lockExpired observedAt
  activeWithoutLeaseDeadline := db.tasks.count fun t => leased t && t.lockedUntil.isNone
  oldestRunnablePendingAgeSeconds :=
    ((db.tasks.select (runnableAt observedAt)).map Task.createdAt).min?.map fun createdAt =>
      max (observedAt - createdAt) 0

/-- A row is in the bucket of the status its text parses to, and in no other. -/
theorem bucket_iff_parse {status : TaskStatus} {t : Task} :
    bucket status t = true ↔ TaskStatus.parse t.status = .ok status := by
  rw [TaskStatus.parse_eq_ok_iff, bucket, decide_eq_true_eq]

theorem unknown_iff_parse {t : Task} :
    unknown t = true ↔ ¬ ∃ status, TaskStatus.parse t.status = .ok status := by
  have known : t.statusIn ["PENDING", "ASSIGNED", "RUNNING", "COMPLETED", "FAILED", "CANCELLED"] =
      true ↔ ∃ status, TaskStatus.parse t.status = .ok status := by
    simp only [Task.statusIn, List.contains_cons, List.contains_nil, Bool.or_false, Bool.or_eq_true,
      beq_iff_eq, TaskStatus.parse_eq_ok_iff]
    constructor
    · rintro (h | h | h | h | h | h)
      · exact ⟨.pending, h⟩
      · exact ⟨.assigned, h⟩
      · exact ⟨.running, h⟩
      · exact ⟨.completed, h⟩
      · exact ⟨.failed, h⟩
      · exact ⟨.cancelled, h⟩
    · rintro ⟨status, h⟩
      cases status <;> simp [h, TaskStatus.asStr]
  rw [← known, unknown, Bool.not_eq_true', Bool.not_eq_true]

/-- Whatever the statuses, the seven status figures add up to the table. -/
theorem metrics_total (observedAt : Seconds) (db : Db) :
    let m := metrics observedAt db
    m.pending + m.assigned + m.running + m.completed + m.failed + m.cancelled + m.unknownStatus =
      m.totalTasks := by
  simp only [metrics, KeyedTable.Table.count]
  induction db.tasks.rows with
  | nil => rfl
  | cons t rest ih =>
    have one : (if bucket .pending t then 1 else 0) + (if bucket .assigned t then 1 else 0) +
        (if bucket .running t then 1 else 0) + (if bucket .completed t then 1 else 0) +
        (if bucket .failed t then 1 else 0) + (if bucket .cancelled t then 1 else 0) +
        (if unknown t then 1 else 0) = 1 := by
      by_cases h : unknown t = true
      · have none_of : ∀ status, bucket status t = false := by
          intro status
          rw [← Bool.not_eq_true, bucket_iff_parse]
          exact fun parsed => unknown_iff_parse.mp h ⟨status, parsed⟩
        simp [h, none_of]
      · obtain ⟨status, parsed⟩ := not_not.mp (mt unknown_iff_parse.mpr h)
        rw [TaskStatus.parse_eq_ok_iff] at parsed
        simp only [Bool.not_eq_true] at h
        simp only [bucket, parsed, h]
        cases status <;> rfl
    simp only [List.countP_cons, List.length_cons]
    omega

end TaskQuery
