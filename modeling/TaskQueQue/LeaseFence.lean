import TaskQueQue.SyncQueue

/-!
# Fenced leases on tasks

A worker claims an assigned task and receives a generation number. Heartbeat,
completion and failure quote task, worker and generation, and their statements
repeat one condition: the row is running under this worker's unexpired lock and
the fence row carries this generation. `fencedUpdate` is that shared statement;
its specification says it either applies to the one row or changes nothing.
-/

namespace LeaseFence

open QueueValues QueueTables TaskLife KeyedTable

structure FencedClaimedTask where
  id : Int
  taskName : String
  taskType : String
  payload : String
  retryCount : Int
  maxRetries : Int
  leaseGeneration : Int
deriving DecidableEq

/-- The WHERE clause of the fenced statements. -/
def fenced (db : Db) (taskId : Int) (workerId : String) (generation : Int) (now : Seconds)
    (t : Task) : Bool :=
  decide (t.id = taskId) && decide (t.lockedBy = some workerId) && decide (t.status = "RUNNING") &&
    t.lockedUntilFrom now &&
    (db.fences.find? t.id).any fun fence => decide (fence.generation = generation)

def fencedUpdate (taskId : Int) (workerId : String) (generation : Int) (now : Seconds)
    (set : Task → Task) (keeps : ∀ t, (set t).id = t.id) (db : Db) : LeaseMutation × Db :=
  let guard := fenced db taskId workerId generation now
  (LeaseMutation.fromAffectedRows (db.tasks.count guard), db.updateTasks guard set keeps)

/-- The task a worker may claim: the first of its assigned rows in dispatch order. -/
def claimable (db : Db) (workerId : String) (now : Seconds) : Option Task :=
  ((db.tasks.select fun t => decide (t.status = "ASSIGNED") &&
    decide (t.lockedBy = some workerId) && t.lockedUntilFrom now).insertionSort
      Task.dispatchBefore).head?

def claimTask (now : Seconds) (workerId : String) : Transaction (Option FencedClaimedTask) :=
  fun db =>
    match claimable db workerId now with
    | none => .ok (none, db)
    | some task =>
      let guard := fun (t : Task) => decide (t.id = task.id) && decide (t.status = "ASSIGNED") &&
        decide (t.lockedBy = some workerId) && t.lockedUntilFrom now
      if db.tasks.count guard ≠ 1 then .ok (none, db)
      else
        match checkedAdd (db.generationOf task.id) 1 with
        | none => .error (.invalidState
            ("lease generation overflow for task_id=" ++ toString task.id))
        | some nextGeneration =>
          .ok (some { id := task.id, taskName := task.taskName, taskType := task.taskType
                      payload := task.payload, retryCount := task.retryCount
                      maxRetries := task.maxRetries, leaseGeneration := nextGeneration },
            (db.updateTasks guard (start now) (start_id now)).setGeneration task.id nextGeneration)

def heartbeat (now : Seconds) (taskId : Int) (workerId : String) (generation : Int)
    (extendSec : F64) : Transaction LeaseMutation := fun db =>
  let leaseUntil := now + extendSec.positiveOr 10
  .ok (fencedUpdate taskId workerId generation now (extend leaseUntil now)
    (extend_id leaseUntil now) db)

def completeTask (now : Seconds) (taskId : Int) (workerId : String) (generation : Int) :
    Transaction LeaseMutation := fun db =>
  .ok (fencedUpdate taskId workerId generation now (unlockAs "COMPLETED" now)
    (unlockAs_id "COMPLETED" now) db)

def backoffSeconds (retryCount : Int) : Seconds := 2 ^ (max 0 (min retryCount 20)).toNat * 2

def failTask (now : Seconds) (taskId : Int) (workerId : String) (generation : Int)
    (errorMsg : String) : Transaction LeaseMutation := fun db =>
  match (db.tasks.find? taskId).filter (fenced db taskId workerId generation now) with
  | none => .ok (.stale, db)
  | some t =>
    if t.maxRetries ≤ t.retryCount + 1 then
      .ok (fencedUpdate taskId workerId generation now (failWith errorMsg now)
        (failWith_id errorMsg now) db)
    else
      let scheduledNext := now + backoffSeconds t.retryCount
      .ok (fencedUpdate taskId workerId generation now (retryAt scheduledNext errorMsg now)
        (retryAt_id scheduledNext errorMsg now) db)

/-! ### The shared statement -/

theorem fenced_iff {db : Db} {taskId generation : Int} {workerId : String} {now : Seconds}
    {t : Task} (row : db.tasks.find? taskId = some t) :
    fenced db taskId workerId generation now t ↔
      Holds (view db taskId) workerId generation now t := by
  have hid := Table.key_of_find? row
  have hfence : ((db.fences.find? taskId).any fun fence => decide (fence.generation = generation)) ↔
      (view db taskId).fence = some generation := by
    simp [view, Option.any_eq_true]
  simp only [fenced, hid, decide_true, Bool.true_and, Bool.and_eq_true, decide_eq_true_eq, hfence]
  constructor
  · rintro ⟨⟨⟨owner, running⟩, live⟩, fence⟩
    exact ⟨row, running, owner, live, fence⟩
  · rintro ⟨_, running, owner, live, fence⟩
    exact ⟨⟨⟨owner, running⟩, live⟩, fence⟩

theorem fenced_named {db : Db} {taskId generation : Int} {workerId : String} {now : Seconds}
    (t : Task) (h : fenced db taskId workerId generation now t = true) : t.id = taskId := by
  simp only [fenced, Bool.and_eq_true, decide_eq_true_eq] at h
  exact h.1.1.1.1

/-- The fenced statement applies to the row whose lease it quotes, or to none. -/
theorem fencedUpdate_cases (taskId : Int) (workerId : String) (generation : Int) (now : Seconds)
    (set : Task → Task) (keeps : ∀ t, (set t).id = t.id) (db : Db) :
    (∃ t db', Holds (view db taskId) workerId generation now t ∧
      fencedUpdate taskId workerId generation now set keeps db = (.applied, db') ∧
      view db' taskId = { view db taskId with task := some (set t) } ∧
      (∀ id, id ≠ taskId → view db' id = view db id) ∧ db'.taskSeq = db.taskSeq ∧
      db'.results = db.results) ∨
    ((∀ t, ¬ Holds (view db taskId) workerId generation now t) ∧
      fencedUpdate taskId workerId generation now set keeps db = (.stale, db)) := by
  have named : ∀ t, fenced db taskId workerId generation now t = true → t.id = taskId :=
    fenced_named
  have hcount := db.tasks.count_key named
  by_cases hany : (db.tasks.find? taskId).any (fenced db taskId workerId generation now)
  · left
    obtain ⟨t, row, guard⟩ := (Option.any_eq_true _ _).mp hany
    rw [if_pos hany] at hcount
    refine ⟨t, db.updateTasks (fenced db taskId workerId generation now) set keeps,
      (fenced_iff row).mp guard, ?_, view_updateTasks_hit row guard,
      fun id hne => view_updateTasks_other fenced_named hne, rfl, rfl⟩
    simp only [fencedUpdate, hcount]
    rfl
  · right
    rw [if_neg hany] at hcount
    refine ⟨fun t holds => hany ?_, ?_⟩
    · exact (Option.any_eq_true _ _).mpr ⟨t, holds.row, (fenced_iff holds.row).mpr holds⟩
    · simp only [fencedUpdate, hcount, Db.updateTasks_eq_self hcount]
      rfl

/-! ### What the operations do to a task -/

/-- The change a fenced operation reports on its task. -/
def appliedChange (taskId : Int) (change : Change) (mutation : LeaseMutation) (id : Int) : Change :=
  if mutation = .applied ∧ id = taskId then change else .quiet

theorem appliedChange_quiet (taskId : Int) (mutation : LeaseMutation) :
    appliedChange taskId .quiet mutation = fun _ => .quiet := by
  funext id
  simp [appliedChange]

/-- One fenced statement advances the database when its SET list is a move. -/
theorem fencedUpdate_advances {taskId generation : Int} {workerId : String} {now : Seconds}
    {set : Task → Task} {keeps : ∀ t, (set t).id = t.id} {db db' : Db} {change : Change}
    {mutation : LeaseMutation}
    (h : fencedUpdate taskId workerId generation now set keeps db = (mutation, db'))
    (move : ∀ t, Holds (view db taskId) workerId generation now t →
      Move taskId db.taskSeq db.taskSeq (view db taskId) change
        { view db taskId with task := some (set t) }) :
    Advances db db' (appliedChange taskId change mutation) := by
  rcases fencedUpdate_cases taskId workerId generation now set keeps db with
    ⟨t, db₁, holds, happlied, hview, hother, hseq, _⟩ | ⟨_, hstale⟩
  · rw [happlied, Prod.mk.injEq] at h
    obtain ⟨rfl, rfl⟩ := h
    refine ⟨hseq.symm.le, fun id => ?_⟩
    rw [hseq]
    by_cases hid : id = taskId
    · subst hid
      simpa [appliedChange, hview] using move t holds
    · simpa [appliedChange, hid, hother id hid] using Move.stay (view db id)
  · rw [hstale, Prod.mk.injEq] at h
    obtain ⟨rfl, rfl⟩ := h
    exact advances_self fun id => by simp [appliedChange]

def claimChange (workerId : String) (claimed : Option FencedClaimedTask) (id : Int) : Change :=
  match claimed with
  | some task => if task.id = id then .claimed workerId task.leaseGeneration else .quiet
  | none => .quiet

theorem claimable_spec {db : Db} {workerId : String} {now : Seconds} {t : Task}
    (h : claimable db workerId now = some t) : db.tasks.find? t.id = some t ∧
      t.status = "ASSIGNED" ∧ t.lockedBy = some workerId ∧ t.lockedUntilFrom now := by
  have hmem := List.mem_of_mem_head? h
  rw [List.mem_insertionSort, Table.select, List.mem_filter] at hmem
  obtain ⟨hrow, hcond⟩ := hmem
  simp only [Bool.and_eq_true, decide_eq_true_eq] at hcond
  exact ⟨Table.find?_of_mem hrow, hcond.1.1, hcond.1.2, hcond.2⟩

theorem claimTask_advances {db db' : Db} {now : Seconds} {workerId : String}
    {claimed : Option FencedClaimedTask} (h : claimTask now workerId db = .ok (claimed, db')) :
    Advances db db' (claimChange workerId claimed) := by
  unfold claimTask at h
  split at h
  · cases h
    exact advances_self fun _ => rfl
  · rename_i task hclaimable
    obtain ⟨row, assigned, owner, live⟩ := claimable_spec hclaimable
    simp only at h
    split at h
    · cases h
      exact advances_self fun _ => rfl
    · split at h
      · cases h
      · rename_i g hg
        cases h
        obtain ⟨rfl, _⟩ := checkedAdd_eq_some hg
        refine ⟨le_refl _, fun id => ?_⟩
        rw [view_setGeneration]
        by_cases hid : task.id = id
        · subst hid
          rw [if_pos rfl, view_updateTasks_hit row (by simp [assigned, owner, live])]
          simpa [claimChange, ← view_generation] using Move.claim now row assigned owner live
        · have named : ∀ t : Task, (decide (t.id = task.id) && decide (t.status = "ASSIGNED") &&
              decide (t.lockedBy = some workerId) && t.lockedUntilFrom now) = true →
              t.id = task.id := by
            intro t ht
            simp only [Bool.and_eq_true, decide_eq_true_eq] at ht
            exact ht.1.1.1
          rw [if_neg hid, view_updateTasks_other named (fun e => hid e.symm)]
          simpa [claimChange, hid] using Move.stay (view db id)

theorem heartbeat_advances {db db' : Db} {now : Seconds} {taskId generation : Int}
    {workerId : String} {extendSec : F64} {mutation : LeaseMutation}
    (h : heartbeat now taskId workerId generation extendSec db = .ok (mutation, db')) :
    Advances db db' fun _ => .quiet := by
  rw [heartbeat, Except.ok.injEq] at h
  rw [← appliedChange_quiet taskId mutation]
  exact fencedUpdate_advances h fun t holds => .extend _ holds

theorem completeTask_advances {db db' : Db} {now : Seconds} {taskId generation : Int}
    {workerId : String} {mutation : LeaseMutation}
    (h : completeTask now taskId workerId generation db = .ok (mutation, db')) :
    Advances db db' (appliedChange taskId (.completed workerId generation) mutation) := by
  rw [completeTask, Except.ok.injEq] at h
  exact fencedUpdate_advances h fun t holds => .complete holds

/-- Whether a failure of this task spends its last attempt. -/
def budgetSpent (db : Db) (taskId : Int) : Bool :=
  (db.tasks.find? taskId).any fun t => decide (t.maxRetries ≤ t.retryCount + 1)

def failChange (db : Db) (taskId : Int) (workerId : String) (generation : Int) : Change :=
  if budgetSpent db taskId then .failed workerId generation else .retried workerId generation

theorem failTask_advances {db db' : Db} {now : Seconds} {taskId generation : Int}
    {workerId errorMsg : String} {mutation : LeaseMutation}
    (h : failTask now taskId workerId generation errorMsg db = .ok (mutation, db')) :
    Advances db db' (appliedChange taskId (failChange db taskId workerId generation) mutation) := by
  unfold failTask at h
  split at h
  · cases h
    exact advances_self fun id => by simp [appliedChange]
  · rename_i t hselect
    obtain ⟨row, guard⟩ := Option.filter_eq_some_iff.mp hselect
    have same : ∀ t', Holds (view db taskId) workerId generation now t' → t' = t := fun t' holds =>
      Option.some.inj (holds.row.symm.trans row)
    split at h
    · rename_i spent
      rw [Except.ok.injEq] at h
      have change : failChange db taskId workerId generation = .failed workerId generation := by
        simp [failChange, budgetSpent, row, spent]
      rw [change]
      exact fencedUpdate_advances h fun t' holds => .exhaust errorMsg holds (same t' holds ▸ spent)
    · rename_i budget
      rw [Except.ok.injEq] at h
      have change : failChange db taskId workerId generation = .retried workerId generation := by
        simp [failChange, budgetSpent, row, budget]
      rw [change]
      exact fencedUpdate_advances h fun t' holds =>
        .retry _ errorMsg holds (same t' holds ▸ not_le.mp budget)

end LeaseFence
