import TaskQueQue.QueueTables
import TaskQueQue.FencedLease

/-!
# The life of one task

The queue operations write four tables, but each of them acts on a task in one
of a few ways. `TaskView` collects everything the database holds about one task
id, `Move` lists what one transaction can do to it, guards included, and `Change`
is what an observer notes about it. Every operation is shown, in its own module,
to make one such move on every task at once (`Advances`); the safety results
reason about moves only.
-/

namespace TaskLife

open QueueValues QueueTables KeyedTable

/-! ### The SET lists of the statements -/

/-- The row with its lock columns cleared, under another status. -/
def unlockAs (status : String) (now : Seconds) (t : Task) : Task :=
  { t with status, lockedBy := none, lockedUntil := none, heartbeatAt := none, updatedAt := now }

def assignTo (worker : String) (leaseUntil now : Seconds) (t : Task) : Task :=
  { t with
    status := "ASSIGNED", lockedBy := some worker, lockedUntil := some leaseUntil
    heartbeatAt := some now, updatedAt := now }

def start (now : Seconds) (t : Task) : Task :=
  { t with status := "RUNNING", heartbeatAt := some now, updatedAt := now }

def extend (leaseUntil now : Seconds) (t : Task) : Task :=
  { t with lockedUntil := some leaseUntil, heartbeatAt := some now, updatedAt := now }

def failWith (errorMsg : String) (now : Seconds) (t : Task) : Task :=
  { unlockAs "FAILED" now t with retryCount := t.retryCount + 1, errorLog := some errorMsg }

def retryAt (scheduledNext : Seconds) (errorMsg : String) (now : Seconds) (t : Task) : Task :=
  { unlockAs "PENDING" now t with
    retryCount := t.retryCount + 1, scheduledAt := scheduledNext, errorLog := some errorMsg }

@[simp] theorem unlockAs_id (status : String) (now : Seconds) (t : Task) :
    (unlockAs status now t).id = t.id := rfl

@[simp] theorem assignTo_id (worker : String) (leaseUntil now : Seconds) (t : Task) :
    (assignTo worker leaseUntil now t).id = t.id := rfl

@[simp] theorem start_id (now : Seconds) (t : Task) : (start now t).id = t.id := rfl

@[simp] theorem extend_id (leaseUntil now : Seconds) (t : Task) :
    (extend leaseUntil now t).id = t.id := rfl

@[simp] theorem failWith_id (errorMsg : String) (now : Seconds) (t : Task) :
    (failWith errorMsg now t).id = t.id := rfl

@[simp] theorem retryAt_id (scheduledNext : Seconds) (errorMsg : String) (now : Seconds)
    (t : Task) : (retryAt scheduledNext errorMsg now t).id = t.id := rfl

/-! ### Views -/

@[ext]
structure TaskView where
  task : Option Task
  fence : Option Int
  result : Option ResultRow
  admissions : List IdempotencyRow

def TaskView.absent : TaskView := ⟨none, none, none, []⟩

def TaskView.generation (v : TaskView) : Int := v.fence.getD 0

def view (db : Db) (id : Int) : TaskView where
  task := db.tasks.find? id
  fence := (db.fences.find? id).map FenceRow.generation
  result := db.results.find? id
  admissions := db.idempotency.select fun r => decide (r.taskId = id)

theorem view_generation (db : Db) (id : Int) : (view db id).generation = db.generationOf id := rfl

theorem id_of_view {db : Db} {id : Int} {t : Task} (h : (view db id).task = some t) : t.id = id :=
  Table.key_of_find? h

theorem view_updateTasks_hit {db : Db} {p : Task → Bool} {f : Task → Task}
    {keeps : ∀ t, (f t).id = t.id} {id : Int} {t : Task} (row : db.tasks.find? id = some t)
    (selected : p t) :
    view (db.updateTasks p f keeps) id = { view db id with task := some (f t) } := by
  simp [view, row, selected]

theorem view_updateTasks_miss {db : Db} {p : Task → Bool} {f : Task → Task}
    {keeps : ∀ t, (f t).id = t.id} {id : Int}
    (skipped : ∀ t, db.tasks.find? id = some t → p t = false) :
    view (db.updateTasks p f keeps) id = view db id := by
  cases row : db.tasks.find? id with
  | none => simp [view, row]
  | some t => simp [view, row, skipped t row]

/-- A row condition that names its task leaves every other task alone. -/
theorem view_updateTasks_other {db : Db} {p : Task → Bool} {f : Task → Task}
    {keeps : ∀ t, (f t).id = t.id} {taskId id : Int} (named : ∀ t, p t = true → t.id = taskId)
    (hne : id ≠ taskId) : view (db.updateTasks p f keeps) id = view db id := by
  apply view_updateTasks_miss
  intro t row
  by_contra selected
  exact hne ((Table.key_of_find? row).symm.trans (named t (by simpa using selected)))

theorem view_setGeneration (db : Db) (taskId generation id : Int) :
    view (db.setGeneration taskId generation) id =
      if taskId = id then { view db id with fence := some generation } else view db id := by
  by_cases h : taskId = id
  · subst h
    simp [view]
  · simp [view, h]

/-! ### Moves -/

/-- What one step did to one task, as far as leases and outcomes go. -/
inductive Change
  | quiet
  | created
  | claimed (worker : String) (generation : Int)
  | recovered
  | completed (worker : String) (generation : Int)
  | retried (worker : String) (generation : Int)
  | failed (worker : String) (generation : Int)
  | cancelled
  | pruned
deriving DecidableEq, Repr

/-- The lease event behind a change. -/
def Change.event : Change → FencedLease.Event String Int
  | .quiet => .quiet
  | .claimed w g => .grant w g
  | .completed w g | .retried w g | .failed w g => .settle w g
  | .created | .recovered | .cancelled | .pruned => .revoke

/-- A change that ends the task: the outcome is reported once. -/
def Change.terminal : Change → Bool
  | .completed _ _ | .failed _ _ | .cancelled => true
  | _ => false

@[simp] theorem terminal_quiet : Change.quiet.terminal = false := rfl

@[simp] theorem terminal_created : Change.created.terminal = false := rfl

@[simp] theorem terminal_completed (w : String) (g : Int) :
    (Change.completed w g).terminal = true := rfl

@[simp] theorem terminal_retried (w : String) (g : Int) :
    (Change.retried w g).terminal = false := rfl

@[simp] theorem terminal_failed (w : String) (g : Int) :
    (Change.failed w g).terminal = true := rfl

@[simp] theorem terminal_cancelled : Change.cancelled.terminal = true := rfl

def activeStatuses : List String := ["PENDING", "ASSIGNED", "RUNNING"]

def terminalStatuses : List String := ["COMPLETED", "FAILED", "CANCELLED"]

/-- The guard of the fenced operations: the row is running under this worker's
unexpired lock and the fence row carries this generation. -/
structure Holds (v : TaskView) (worker : String) (generation : Int) (now : Seconds) (t : Task) :
    Prop where
  row : v.task = some t
  running : t.status = "RUNNING"
  owner : t.lockedBy = some worker
  live : t.lockedUntilFrom now
  fence : v.fence = some generation

/-- One transaction, seen from one task. `seq` and `seq'` are the id counter
before and after. -/
inductive Move (id seq seq' : Int) : TaskView → Change → TaskView → Prop
  | stay (v : TaskView) : Move id seq seq' v .quiet v
  | create {t : Task} {rows : List IdempotencyRow} (fresh : seq < id) (counted : id ≤ seq')
      (status : t.status = "PENDING") (owner : t.lockedBy = none) (lock : t.lockedUntil = none)
      (retries : t.retryCount = 0) : Move id seq seq' .absent .created ⟨some t, none, none, rows⟩
  | assign {v : TaskView} {t : Task} (worker : String) (leaseUntil now : Seconds)
      (row : v.task = some t) (pending : t.status = "PENDING") :
      Move id seq seq' v .quiet { v with task := some (assignTo worker leaseUntil now t) }
  | release {v : TaskView} {t : Task} (now : Seconds) (row : v.task = some t)
      (leased : t.statusIn ["ASSIGNED", "RUNNING"]) (expired : t.lockExpired now) :
      Move id seq seq' v .recovered { v with task := some (unlockAs "PENDING" now t) }
  | claim {v : TaskView} {t : Task} {worker : String} (now : Seconds) (row : v.task = some t)
      (assigned : t.status = "ASSIGNED") (owner : t.lockedBy = some worker)
      (live : t.lockedUntilFrom now) :
      Move id seq seq' v (.claimed worker (v.generation + 1))
        { v with task := some (start now t), fence := some (v.generation + 1) }
  | extend {v : TaskView} {t : Task} {worker : String} {g : Int} {now : Seconds}
      (leaseUntil : Seconds) (holds : Holds v worker g now t) :
      Move id seq seq' v .quiet { v with task := some (extend leaseUntil now t) }
  | complete {v : TaskView} {t : Task} {worker : String} {g : Int} {now : Seconds}
      (holds : Holds v worker g now t) :
      Move id seq seq' v (.completed worker g)
        { v with task := some (unlockAs "COMPLETED" now t) }
  | project {v : TaskView} {t : Task} {worker : String} {g : Int} {now : Seconds}
      {r : ResultRow} (holds : Holds v worker g now t) (free : v.result = none)
      (agrees : r.leaseGeneration = g) :
      Move id seq seq' v (.completed worker g)
        { v with task := some (unlockAs "COMPLETED" now t), result := some r }
  | retry {v : TaskView} {t : Task} {worker : String} {g : Int} {now : Seconds}
      (scheduledNext : Seconds) (errorMsg : String) (holds : Holds v worker g now t)
      (budget : t.retryCount + 1 < t.maxRetries) :
      Move id seq seq' v (.retried worker g)
        { v with task := some (retryAt scheduledNext errorMsg now t) }
  | exhaust {v : TaskView} {t : Task} {worker : String} {g : Int} {now : Seconds}
      (errorMsg : String) (holds : Holds v worker g now t)
      (spent : t.maxRetries ≤ t.retryCount + 1) :
      Move id seq seq' v (.failed worker g) { v with task := some (failWith errorMsg now t) }
  | cancel {v : TaskView} {t : Task} (now : Seconds) (row : v.task = some t)
      (active : t.statusIn activeStatuses) :
      Move id seq seq' v .cancelled
        { v with task := some (unlockAs "CANCELLED" now t), fence := some (v.generation + 1) }
  | prune {v : TaskView} {t : Task} (row : v.task = some t)
      (done : t.statusIn terminalStatuses) : Move id seq seq' v .pruned .absent

/-- One transaction moves every task at once, and the id counter never runs back. -/
structure Advances (db db' : Db) (change : Int → Change) : Prop where
  seq : db.taskSeq ≤ db'.taskSeq
  move : ∀ id, Move id db.taskSeq db'.taskSeq (view db id) (change id) (view db' id)

theorem advances_self {db : Db} {change : Int → Change} (h : ∀ id, change id = .quiet) :
    Advances db db change :=
  ⟨le_refl _, fun id => h id ▸ .stay _⟩

/-- Ids past the counter are unused: no table mentions them. -/
def Fresh (db : Db) : Prop := 0 ≤ db.taskSeq ∧ ∀ id, db.taskSeq < id → view db id = .absent

theorem empty_fresh : Fresh .empty := ⟨le_refl _, fun _ _ => rfl⟩

/-- From nothing, a task can only be created, under a new id. -/
theorem Move.of_absent {id seq seq' : Int} {c : Change} {v : TaskView}
    (h : Move id seq seq' .absent c v) :
    v = .absent ∨ (seq < id ∧ id ≤ seq') := by
  have none_row {t : Task} (row : TaskView.absent.task = some t) : False := by cases row
  cases h with
  | stay => exact Or.inl rfl
  | create fresh counted => exact Or.inr ⟨fresh, counted⟩
  | assign _ _ _ row => exact (none_row row).elim
  | release _ row => exact (none_row row).elim
  | claim _ row => exact (none_row row).elim
  | extend _ holds => exact (none_row holds.row).elim
  | complete holds => exact (none_row holds.row).elim
  | project holds => exact (none_row holds.row).elim
  | retry _ _ holds => exact (none_row holds.row).elim
  | exhaust _ holds => exact (none_row holds.row).elim
  | cancel _ row => exact (none_row row).elim
  | prune row => exact (none_row row).elim

theorem Advances.fresh {db db' : Db} {change : Int → Change} (h : Advances db db' change)
    (fresh : Fresh db) : Fresh db' := by
  refine ⟨fresh.1.trans h.seq, ?_⟩
  intro id hid
  have before : view db id = .absent := fresh.2 id (lt_of_le_of_lt h.seq hid)
  have move := h.move id
  rw [before] at move
  rcases move.of_absent with same | ⟨_, counted⟩
  · exact same
  · omega

end TaskLife
