import TaskQueQue.SyncQueue

/-!
# Terminal retention

Pruning keeps the newest terminal tasks. The child rows go first, each statement
selecting the same oldest ids, and the tasks last.
-/

namespace Retention

open QueueValues QueueTables TaskLife KeyedTable

structure TerminalRetentionResult where
  terminalBefore : Int
  retainedTerminal : Int
  prunedTasks : Int
  prunedIdempotency : Int
  prunedFences : Int
  prunedResults : Int
deriving DecidableEq, Repr

def terminalTask (t : Task) : Bool := t.statusIn ["COMPLETED", "FAILED", "CANCELLED"]

/-- The ids every statement of the pruning selects: the oldest terminal tasks. -/
def oldestTerminal (db : Db) (pruneCount : Nat) : List Int :=
  (((db.tasks.select terminalTask).insertionSort Task.retiredBefore).take pruneCount).map Task.id

/-- The database after the four DELETE statements. -/
def deleteTasks (db : Db) (ids : List Int) : Db :=
  { db with
    idempotency := db.idempotency.delete fun r => ids.contains r.taskId
    fences := db.fences.delete fun f => ids.contains f.taskId
    results := db.results.delete fun r => ids.contains r.taskId
    tasks := db.tasks.delete fun t => ids.contains t.id && terminalTask t }

def pruneToMax (maxTerminalTasks : Int) : Transaction TerminalRetentionResult := fun db =>
  if maxTerminalTasks ≤ 0 then
    .error (.invalidState "max_terminal_tasks must be greater than zero")
  else
    let terminalBefore : Int := db.tasks.count terminalTask
    if terminalBefore ≤ maxTerminalTasks then
      .ok ({ terminalBefore, retainedTerminal := terminalBefore, prunedTasks := 0
             prunedIdempotency := 0, prunedFences := 0, prunedResults := 0 }, db)
    else
      let pruneCount := terminalBefore - maxTerminalTasks
      let ids := oldestTerminal db pruneCount.toNat
      let prunedTasks : Int := db.tasks.count fun t => ids.contains t.id && terminalTask t
      if prunedTasks ≠ pruneCount then
        .error (.invalidState ("terminal retention selected " ++ toString pruneCount ++
          " tasks but deleted " ++ toString prunedTasks))
      else
        .ok ({ terminalBefore, retainedTerminal := terminalBefore - prunedTasks, prunedTasks
               prunedIdempotency := db.idempotency.count fun r => ids.contains r.taskId
               prunedFences := db.fences.count fun f => ids.contains f.taskId
               prunedResults := db.results.count fun r => ids.contains r.taskId },
          deleteTasks db ids)

theorem mem_oldestTerminal {db : Db} {n : Nat} {id : Int} (h : id ∈ oldestTerminal db n) :
    ∃ t, db.tasks.find? id = some t ∧ terminalTask t := by
  obtain ⟨t, ht, rfl⟩ := List.mem_map.mp h
  have hmem := List.mem_of_mem_take ht
  rw [List.mem_insertionSort, Table.select, List.mem_filter] at hmem
  exact ⟨t, Table.find?_of_mem hmem.1, hmem.2⟩

theorem view_deleteTasks_of_mem {db : Db} {ids : List Int} {id : Int} (hid : id ∈ ids)
    {t : Task} (row : db.tasks.find? id = some t) (done : terminalTask t) :
    view (deleteTasks db ids) id = .absent := by
  have hkey := Table.key_of_find? row
  apply TaskView.ext
  · simp [view, deleteTasks, TaskView.absent, row, hkey, hid, done]
  · simp only [view, deleteTasks, TaskView.absent, Table.find?_delete]
    cases hf : db.fences.find? id with
    | none => rfl
    | some f => simp [Table.key_of_find? hf, hid]
  · simp only [view, deleteTasks, TaskView.absent, Table.find?_delete]
    cases hf : db.results.find? id with
    | none => rfl
    | some r => simp [Table.key_of_find? hf, hid]
  · simp only [view, deleteTasks, TaskView.absent, Table.select, Table.delete]
    rw [List.filter_eq_nil_iff]
    intro r hr hrid
    rw [decide_eq_true_eq] at hrid
    simp [List.mem_filter, hrid, hid] at hr

theorem view_deleteTasks_of_notMem {db : Db} {ids : List Int} {id : Int} (hid : id ∉ ids) :
    view (deleteTasks db ids) id = view db id := by
  apply TaskView.ext
  · simp only [view, deleteTasks, Table.find?_delete]
    cases hf : db.tasks.find? id with
    | none => rfl
    | some t => simp [Table.key_of_find? hf, hid]
  · simp only [view, deleteTasks, Table.find?_delete]
    cases hf : db.fences.find? id with
    | none => rfl
    | some f => simp [Table.key_of_find? hf, hid]
  · simp only [view, deleteTasks, Table.find?_delete]
    cases hf : db.results.find? id with
    | none => rfl
    | some r => simp [Table.key_of_find? hf, hid]
  · simp only [view, deleteTasks, Table.select, Table.delete, List.filter_filter]
    apply List.filter_congr
    intro r _
    by_cases hr : r.taskId = id
    · simp [hr, hid]
    · simp [hr]

/-- The tasks a pruning that reported this result removed. -/
def pruneChange (db : Db) (result : TerminalRetentionResult) (id : Int) : Change :=
  if id ∈ oldestTerminal db result.prunedTasks.toNat then .pruned else .quiet

theorem pruneToMax_cases {db db' : Db} {maxTerminalTasks : Int} {result : TerminalRetentionResult}
    (h : pruneToMax maxTerminalTasks db = .ok (result, db')) :
    (db' = db ∧ result.prunedTasks = 0) ∨
      db' = deleteTasks db (oldestTerminal db result.prunedTasks.toNat) := by
  unfold pruneToMax at h
  simp only at h
  split at h
  · cases h
  split at h
  · cases h
    exact Or.inl ⟨rfl, rfl⟩
  split at h
  · cases h
  · rename_i hcount
    cases h
    right
    simp only
    rw [not_not.mp hcount]

theorem pruneToMax_advances {db db' : Db} {maxTerminalTasks : Int}
    {result : TerminalRetentionResult}
    (h : pruneToMax maxTerminalTasks db = .ok (result, db')) :
    Advances db db' (pruneChange db result) := by
  rcases pruneToMax_cases h with ⟨rfl, none_pruned⟩ | rfl
  · exact advances_self fun id => by simp [pruneChange, none_pruned, oldestTerminal]
  · refine ⟨le_refl _, fun id => ?_⟩
    by_cases hid : id ∈ oldestTerminal db result.prunedTasks.toNat
    · obtain ⟨t, row, done⟩ := mem_oldestTerminal hid
      rw [view_deleteTasks_of_mem hid row done, pruneChange, if_pos hid]
      exact .prune row done
    · rw [view_deleteTasks_of_notMem hid, pruneChange, if_neg hid]
      exact .stay _

end Retention
