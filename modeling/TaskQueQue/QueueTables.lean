import TaskQueQue.KeyedTable
import TaskQueQue.QueueValues

/-!
# The queue database

The four tables the queue operations share, with the columns of their schemas,
and the shape of a transaction: a function that either commits a value and a new
database or rolls back with an error.

Statuses are compared as stored text, as the statements do. A comparison with a
NULL column is false, which is what `Option.any` and equality with `some` say.
-/

namespace QueueTables

open QueueValues

structure Task where
  id : Int
  taskName : String
  taskType : String
  payload : String
  priority : Int := 0
  maxRetries : Int := 3
  retryCount : Int := 0
  status : String := "PENDING"
  lockedBy : Option String := none
  lockedUntil : Option Seconds := none
  heartbeatAt : Option Seconds := none
  errorLog : Option String := none
  scheduledAt : Seconds := 0
  createdAt : Seconds := 0
  updatedAt : Seconds := 0
deriving DecidableEq

structure FenceRow where
  taskId : Int
  generation : Int := 0
deriving DecidableEq

structure IdempotencyRow where
  idempotencyKey : String
  requestFingerprint : String
  taskId : Int
  createdAt : Seconds
deriving DecidableEq

/-- A dynamically typed column value. -/
inductive Cell
  | null
  | integer (value : Int)
  | real (value : Seconds)
  | text (value : String)
  | blob (bytes : List UInt8)
deriving DecidableEq

structure ResultRow where
  taskId : Int
  resultJson : Cell
  resultBytes : Cell
  leaseGeneration : Int
  createdAt : Seconds
deriving DecidableEq

/-- `taskSeq` is the AUTOINCREMENT counter of `tasks`: ids are never reused. -/
structure Db where
  tasks : KeyedTable.Table Task Int Task.id := .empty
  taskSeq : Int := 0
  fences : KeyedTable.Table FenceRow Int FenceRow.taskId := .empty
  idempotency : KeyedTable.Table IdempotencyRow String IdempotencyRow.idempotencyKey := .empty
  results : KeyedTable.Table ResultRow Int ResultRow.taskId := .empty

/-- A fresh database: the schema and no rows. -/
def Db.empty : Db := {}

abbrev Transaction (α : Type) := Db → Except QueueError (α × Db)

/-- The body runs in one immediate transaction. An error rolls it back. -/
def executeWithRetry {α : Type} (op : Transaction α) (db : Db) : Except QueueError α × Db :=
  match op db with
  | .ok (value, db') => (.ok value, db')
  | .error err => (.error err, db)

theorem executeWithRetry_ok {α : Type} {op : Transaction α} {db db' : Db} {value : α}
    (h : op db = .ok (value, db')) : executeWithRetry op db = (.ok value, db') := by
  simp only [executeWithRetry, h]

theorem executeWithRetry_error {α : Type} {op : Transaction α} {db : Db} {err : QueueError}
    (h : op db = .error err) : executeWithRetry op db = (.error err, db) := by
  simp only [executeWithRetry, h]

/-! ### Conditions on a task row -/

namespace Task

def statusIn (t : Task) (statuses : List String) : Bool := statuses.contains t.status

def lockedUntilFrom (t : Task) (now : Seconds) : Bool := t.lockedUntil.any fun u => decide (now ≤ u)

def lockExpired (t : Task) (now : Seconds) : Bool := t.lockedUntil.any fun u => decide (u < now)

/-- `ORDER BY priority DESC, id ASC`. -/
def dispatchBefore (s t : Task) : Prop :=
  t.priority < s.priority ∨ (t.priority = s.priority ∧ s.id ≤ t.id)

instance : DecidableRel dispatchBefore := fun s t =>
  inferInstanceAs (Decidable (t.priority < s.priority ∨ (t.priority = s.priority ∧ s.id ≤ t.id)))

/-- `ORDER BY updated_at ASC, id ASC`. -/
def retiredBefore (s t : Task) : Prop :=
  s.updatedAt < t.updatedAt ∨ (s.updatedAt = t.updatedAt ∧ s.id ≤ t.id)

instance : DecidableRel retiredBefore := fun s t =>
  inferInstanceAs (Decidable (s.updatedAt < t.updatedAt ∨
    (s.updatedAt = t.updatedAt ∧ s.id ≤ t.id)))

end Task

namespace Db

def generationOf (db : Db) (taskId : Int) : Int :=
  ((db.fences.find? taskId).map FenceRow.generation).getD 0

/-- `INSERT INTO tasks`: the next id of the sequence, and the new row under it. -/
def insertTask (db : Db) (row : Int → Task) : Except QueueError (Int × Db) :=
  if db.taskSeq = i64Max then .error (.sqlite .full)
  else
    match db.tasks.insert? (row (db.taskSeq + 1)) with
    | some tasks => .ok (db.taskSeq + 1, { db with tasks, taskSeq := db.taskSeq + 1 })
    | none => .error (.sqlite (.constraint "tasks"))

/-- The fence upsert of a claim and of a cancellation. -/
def setGeneration (db : Db) (taskId generation : Int) : Db :=
  { db with
    fences := db.fences.upsert { taskId, generation } (fun f => { f with generation })
      (fun _ => rfl) }

def updateTasks (db : Db) (p : Task → Bool) (f : Task → Task) (keeps : ∀ t, (f t).id = t.id) : Db :=
  { db with tasks := db.tasks.update p f keeps }

@[simp] theorem updateTasks_tasks (db : Db) (p : Task → Bool) (f : Task → Task)
    (keeps : ∀ t, (f t).id = t.id) :
    (db.updateTasks p f keeps).tasks = db.tasks.update p f keeps := rfl

@[simp] theorem updateTasks_fences (db : Db) (p : Task → Bool) (f : Task → Task)
    (keeps : ∀ t, (f t).id = t.id) : (db.updateTasks p f keeps).fences = db.fences := rfl

@[simp] theorem updateTasks_idempotency (db : Db) (p : Task → Bool) (f : Task → Task)
    (keeps : ∀ t, (f t).id = t.id) : (db.updateTasks p f keeps).idempotency = db.idempotency := rfl

@[simp] theorem updateTasks_results (db : Db) (p : Task → Bool) (f : Task → Task)
    (keeps : ∀ t, (f t).id = t.id) : (db.updateTasks p f keeps).results = db.results := rfl

@[simp] theorem updateTasks_taskSeq (db : Db) (p : Task → Bool) (f : Task → Task)
    (keeps : ∀ t, (f t).id = t.id) : (db.updateTasks p f keeps).taskSeq = db.taskSeq := rfl

/-- An update whose condition selects no row writes nothing. -/
theorem updateTasks_eq_self {db : Db} {p : Task → Bool} {f : Task → Task}
    {keeps : ∀ t, (f t).id = t.id} (h : db.tasks.count p = 0) : db.updateTasks p f keeps = db := by
  unfold updateTasks
  rw [KeyedTable.Table.update_eq_self_of_count h]

@[simp] theorem setGeneration_tasks (db : Db) (taskId generation : Int) :
    (db.setGeneration taskId generation).tasks = db.tasks := rfl

@[simp] theorem setGeneration_idempotency (db : Db) (taskId generation : Int) :
    (db.setGeneration taskId generation).idempotency = db.idempotency := rfl

@[simp] theorem setGeneration_results (db : Db) (taskId generation : Int) :
    (db.setGeneration taskId generation).results = db.results := rfl

@[simp] theorem setGeneration_taskSeq (db : Db) (taskId generation : Int) :
    (db.setGeneration taskId generation).taskSeq = db.taskSeq := rfl

@[simp]
theorem setGeneration_fence (db : Db) (taskId generation k : Int) :
    (db.setGeneration taskId generation).fences.find? k =
      if taskId = k then some ⟨taskId, generation⟩ else db.fences.find? k := by
  simp only [setGeneration, KeyedTable.Table.find?_upsert]
  by_cases h : taskId = k
  · subst h
    cases hf : db.fences.find? taskId with
    | none => simp
    | some f =>
      have hkey := KeyedTable.Table.key_of_find? hf
      simp [← hkey]
  · simp [h]

theorem insertTask_ok {db db' : Db} {row : Int → Task} {id : Int}
    (h : db.insertTask row = .ok (id, db')) :
    id = db.taskSeq + 1 ∧ db.taskSeq ≠ i64Max ∧ ∃ tasks, db.tasks.insert? (row id) = some tasks ∧
      db' = { db with tasks, taskSeq := id } := by
  unfold insertTask at h
  split at h
  · cases h
  · rename_i hfull
    split at h
    · rename_i tasks hins
      cases h
      exact ⟨rfl, hfull, tasks, hins, rfl⟩
    · cases h

end Db

end QueueTables
