import TaskQueQue.OrderedSelections
import TaskQueQue.QueueRuns

/-!
# Pruning, statement by statement

Each DELETE selects its victims anew, from what the ones before it left, and every
statement of every attempt may fail. The statements agree on the victims because
none but the last touches the tasks, and because the order tells any two tasks
apart.
-/

namespace TerminalPruning

open QueueValues QueueTables TaskLife KeyedTable Retention OrderedSelections QueueRuns

/-! ### The statements -/

inductive Statement
  | openDatabase
  | beginImmediate
  | countTerminal
  | tableExists (name : String)
  | deleteIdempotency
  | deleteFences
  | deleteResults
  | deleteTasks
  | commit

structure Fault where
  error : QueueError
  retryable : Bool

/-- Which statements of an attempt fail. -/
abbrev Faults := Statement → Option Fault

def run (faults : Faults) (statement : Statement) : Except Fault Unit :=
  match faults statement with
  | some fault => .error fault
  | none => .ok ()

def deleteIdempotency (pruneCount : Nat) (db : Db) : Nat × Db :=
  let ids := oldestTerminal db pruneCount
  (db.idempotency.count fun r => ids.contains r.taskId,
    { db with idempotency := db.idempotency.delete fun r => ids.contains r.taskId })

def deleteFences (pruneCount : Nat) (db : Db) : Nat × Db :=
  let ids := oldestTerminal db pruneCount
  (db.fences.count fun f => ids.contains f.taskId,
    { db with fences := db.fences.delete fun f => ids.contains f.taskId })

def deleteResults (pruneCount : Nat) (db : Db) : Nat × Db :=
  let ids := oldestTerminal db pruneCount
  (db.results.count fun r => ids.contains r.taskId,
    { db with results := db.results.delete fun r => ids.contains r.taskId })

def deleteTasks (pruneCount : Nat) (db : Db) : Nat × Db :=
  let ids := oldestTerminal db pruneCount
  (db.tasks.count fun t => ids.contains t.id && terminalTask t,
    { db with tasks := db.tasks.delete fun t => ids.contains t.id && terminalTask t })

def deleteOldest (faults : Faults) (terminalBefore pruneCount : Int) (db : Db) :
    Except Fault (TerminalRetentionResult × Db) := do
  run faults (.tableExists "task_idempotency")
  run faults (.tableExists "task_lease_fences")
  run faults (.tableExists "task_results")
  run faults .deleteIdempotency
  let admissions := deleteIdempotency pruneCount.toNat db
  run faults .deleteFences
  let fences := deleteFences pruneCount.toNat admissions.2
  run faults .deleteResults
  let results := deleteResults pruneCount.toNat fences.2
  run faults .deleteTasks
  let tasks := deleteTasks pruneCount.toNat results.2
  if (tasks.1 : Int) ≠ pruneCount then
    .error ⟨.invalidState ("terminal retention selected " ++ toString pruneCount ++
      " tasks but deleted " ++ toString tasks.1), false⟩
  else do
    run faults .commit
    .ok ({ terminalBefore, retainedTerminal := terminalBefore - tasks.1, prunedTasks := tasks.1
           prunedIdempotency := admissions.1, prunedFences := fences.1
           prunedResults := results.1 }, tasks.2)

/-- The body of the transaction. -/
def attempt (faults : Faults) (maxTerminalTasks : Int) (db : Db) :
    Except Fault (TerminalRetentionResult × Db) := do
  run faults .openDatabase
  run faults .beginImmediate
  run faults .countTerminal
  let terminalBefore : Int := db.tasks.count terminalTask
  if terminalBefore ≤ maxTerminalTasks then do
    run faults .commit
    .ok ({ terminalBefore, retainedTerminal := terminalBefore, prunedTasks := 0
           prunedIdempotency := 0, prunedFences := 0, prunedResults := 0 }, db)
  else deleteOldest faults terminalBefore (terminalBefore - maxTerminalTasks) db

/-- An attempt that fails is rolled back, and repeated if it may be. -/
def retrying {α : Type} (op : Nat → Db → Except Fault (α × Db)) :
    Nat → Nat → Db → Except QueueError α × Db
  | 0, attempt, db =>
    match op attempt db with
    | .ok (value, db') => (.ok value, db')
    | .error fault => (.error fault.error, db)
  | left + 1, attempt, db =>
    match op attempt db with
    | .ok (value, db') => (.ok value, db')
    | .error fault =>
      if fault.retryable then retrying op left (attempt + 1) db else (.error fault.error, db)

/-- `faults` says what fails in each of the seven attempts. -/
def pruneToMax (faults : Nat → Faults) (maxTerminalTasks : Int) (db : Db) :
    Except QueueError TerminalRetentionResult × Db :=
  if maxTerminalTasks ≤ 0 then
    (.error (.invalidState "max_terminal_tasks must be greater than zero"), db)
  else retrying (fun n => attempt (faults n) maxTerminalTasks) 6 0 db

/-! ### The victims -/

def terminalRows (db : Db) : List Task := db.tasks.select terminalTask

/-- The terminal tasks that come after this one in `(updated_at, id)`. -/
def newer (db : Db) (t : Task) : Nat := rankAfter Task.retiredBefore (terminalRows db) t

/-- A task goes when it is terminal and as many as may stay are newer. -/
def gone (maxTerminalTasks : Int) (db : Db) (t : Task) : Bool :=
  terminalTask t && decide (maxTerminalTasks ≤ newer db t)

def goneId (maxTerminalTasks : Int) (db : Db) (taskId : Int) : Bool :=
  db.tasks.rows.any fun t => decide (t.id = taskId) && gone maxTerminalTasks db t

theorem terminal_orders (db : Db) : Orders Task.retiredBefore (terminalRows db) where
  total := by
    intro s t
    rcases lt_trichotomy s.updatedAt t.updatedAt with before | same | after
    · exact Or.inl (Or.inl before)
    · rcases Int.le_total s.id t.id with le | le
      · exact Or.inl (Or.inr ⟨same, le⟩)
      · exact Or.inr (Or.inr ⟨same.symm, le⟩)
    · exact Or.inr (Or.inl after)
  trans := by
    rintro s t u (st | ⟨st, ids⟩) (tu | ⟨tu, ids'⟩)
    · exact Or.inl (lt_trans st tu)
    · exact Or.inl (tu ▸ st)
    · exact Or.inl (st ▸ tu)
    · exact Or.inr ⟨st.trans tu, Int.le_trans ids ids'⟩
  antisymm := by
    rintro s hs t ht (st | ⟨st, ids⟩) (ts | ⟨ts, ids'⟩)
    · exact absurd ts (lt_asymm st)
    · exact absurd st (ts ▸ lt_irrefl _)
    · exact absurd ts (st ▸ lt_irrefl _)
    · exact Table.eq_of_key_eq (List.mem_filter.mp hs).1 (List.mem_filter.mp ht).1
        (Int.le_antisymm ids ids')
  nodup := (List.Nodup.of_map Task.id db.tasks.unique).sublist List.filter_sublist

theorem mem_terminalRows {db : Db} {t : Task} :
    t ∈ terminalRows db ↔ t ∈ db.tasks.rows ∧ terminalTask t = true := List.mem_filter

theorem mem_oldestTerminal_iff {db : Db} {n : Nat} {t : Task} (mem : t ∈ terminalRows db) :
    t.id ∈ oldestTerminal db n ↔ t ∈ firstRows Task.retiredBefore (terminalRows db) n := by
  constructor
  · intro listed
    obtain ⟨other, first, same⟩ := List.mem_map.mp listed
    have inside := ((mem_firstRows_iff (terminal_orders db)).mp first).1
    rwa [Table.eq_of_key_eq (mem_terminalRows.mp mem).1 (mem_terminalRows.mp inside).1 same.symm]
  · exact fun first => List.mem_map.mpr ⟨t, first, rfl⟩

section Selection
variable {db : Db} {maxTerminalTasks : Int} {n : Nat}

/-- What exceeds the maximum are the tasks with enough newer ones. -/
theorem selected_iff (excess : (n : Int) = db.tasks.count terminalTask - maxTerminalTasks)
    {t : Task} (mem : t ∈ db.tasks.rows) :
    ((oldestTerminal db n).contains t.id && terminalTask t) = gone maxTerminalTasks db t := by
  by_cases terminal : terminalTask t = true
  · have inside := mem_terminalRows.mpr ⟨mem, terminal⟩
    have all : (terminalRows db).length = db.tasks.count terminalTask :=
      List.countP_eq_length_filter.symm
    rw [gone, terminal, Bool.and_true, Bool.true_and, Bool.eq_iff_iff, List.contains_iff_mem,
      decide_eq_true_eq, mem_oldestTerminal_iff inside,
      mem_firstRows_iff_after (terminal_orders db) inside, newer, all]
    omega
  · rw [gone, Bool.eq_false_iff.mpr terminal, Bool.and_false, Bool.false_and]

theorem selectedId_iff (excess : (n : Int) = db.tasks.count terminalTask - maxTerminalTasks)
    (taskId : Int) :
    (oldestTerminal db n).contains taskId = goneId maxTerminalTasks db taskId := by
  rw [Bool.eq_iff_iff, List.contains_iff_mem, goneId, List.any_eq_true]
  constructor
  · intro listed
    obtain ⟨t, row, terminal⟩ := mem_oldestTerminal listed
    have mem := Table.mem_of_find? row
    have own : t.id = taskId := Table.key_of_find? row
    subst own
    refine ⟨t, mem, ?_⟩
    rw [← selected_iff excess mem, terminal, List.contains_iff_mem.mpr listed, decide_eq_true rfl]
    rfl
  · rintro ⟨t, mem, both⟩
    obtain ⟨own, goes⟩ := Bool.and_eq_true_iff.mp both
    rw [← selected_iff excess mem] at goes
    rw [← of_decide_eq_true own]
    exact List.contains_iff_mem.mp (Bool.and_eq_true_iff.mp goes).1

/-- As many go as exceed the maximum. -/
theorem count_gone (positive : 0 < maxTerminalTasks)
    (excess : (n : Int) = db.tasks.count terminalTask - maxTerminalTasks) :
    db.tasks.count (gone maxTerminalTasks db) = n := by
  have orders := terminal_orders db
  have same : (db.tasks.rows.filter (gone maxTerminalTasks db)).Perm
      (firstRows Task.retiredBefore (terminalRows db) n) := by
    have rows : db.tasks.rows.Nodup := List.Nodup.of_map Task.id db.tasks.unique
    refine (List.perm_ext_iff_of_nodup (rows.filter _) (firstRows_nodup orders.nodup n)).mpr ?_
    intro t
    rw [List.mem_filter]
    constructor
    · rintro ⟨mem, goes⟩
      rw [← selected_iff excess mem] at goes
      obtain ⟨listed, terminal⟩ := Bool.and_eq_true_iff.mp goes
      exact (mem_oldestTerminal_iff (mem_terminalRows.mpr ⟨mem, terminal⟩)).mp
        (List.contains_iff_mem.mp listed)
    · intro first
      have inside := ((mem_firstRows_iff orders).mp first).1
      obtain ⟨mem, terminal⟩ := mem_terminalRows.mp inside
      refine ⟨mem, ?_⟩
      rw [← selected_iff excess mem, terminal, Bool.and_true, List.contains_iff_mem]
      exact (mem_oldestTerminal_iff inside).mpr first
  have counted := same.length_eq
  have all : (terminalRows db).length = db.tasks.count terminalTask :=
    List.countP_eq_length_filter.symm
  rw [length_firstRows, ← List.countP_eq_length_filter, all] at counted
  rw [Table.count, counted]
  omega

/-- The same as the last statement counts it. -/
theorem count_deletedTasks (positive : 0 < maxTerminalTasks)
    (excess : (n : Int) = db.tasks.count terminalTask - maxTerminalTasks) :
    (deleteTasks n db).1 = n := by
  rw [← count_gone positive excess]
  apply List.countP_congr
  intro t mem
  rw [count_gone positive excess, selected_iff excess mem]

end Selection

/-! ### What a pruning that succeeds has done -/

/-- The tasks that exceed the maximum are gone with their rows, and nothing else is. -/
structure Pruned (maxTerminalTasks : Int) (db db' : Db) (result : TerminalRetentionResult) :
    Prop where
  tasks : db'.tasks.rows = db.tasks.select fun t => !gone maxTerminalTasks db t
  idempotency : db'.idempotency.rows =
    db.idempotency.select fun r => !goneId maxTerminalTasks db r.taskId
  fences : db'.fences.rows = db.fences.select fun f => !goneId maxTerminalTasks db f.taskId
  results : db'.results.rows = db.results.select fun r => !goneId maxTerminalTasks db r.taskId
  taskSeq : db'.taskSeq = db.taskSeq
  kept : (db'.tasks.count terminalTask : Int) = min maxTerminalTasks (db.tasks.count terminalTask)
  terminalBefore : result.terminalBefore = db.tasks.count terminalTask
  retainedTerminal : result.retainedTerminal = db'.tasks.count terminalTask
  prunedTasks : result.prunedTasks = db.tasks.count (gone maxTerminalTasks db)
  prunedIdempotency : result.prunedIdempotency =
    db.idempotency.count fun r => goneId maxTerminalTasks db r.taskId
  prunedFences : result.prunedFences =
    db.fences.count fun f => goneId maxTerminalTasks db f.taskId
  prunedResults : result.prunedResults =
    db.results.count fun r => goneId maxTerminalTasks db r.taskId

section Attempts
variable {db db' : Db} {maxTerminalTasks : Int} {n : Nat} {result : TerminalRetentionResult} {faults : Faults}

theorem run_then {α : Type} {statement : Statement} {rest : Except Fault α} {value : α}
    (h : (run faults statement >>= fun _ => rest) = .ok value) : rest = .ok value := by
  unfold run at h
  cases failed : faults statement with
  | some fault =>
    rw [failed] at h
    cases h
  | none =>
    rw [failed] at h
    exact h

theorem run_of_none {statement : Statement} (h : faults statement = none) :
    run faults statement = .ok () := by
  rw [run, h]

/-- Within the maximum nothing goes. -/
theorem gone_of_within (within : (db.tasks.count terminalTask : Int) ≤ maxTerminalTasks) {t : Task}
    (mem : t ∈ db.tasks.rows) : gone maxTerminalTasks db t = false := by
  by_cases terminal : terminalTask t = true
  · have place := rank_add_rankAfter (terminal_orders db) (mem_terminalRows.mpr ⟨mem, terminal⟩)
    have all : (terminalRows db).length = db.tasks.count terminalTask :=
      List.countP_eq_length_filter.symm
    rw [gone, terminal, Bool.true_and, decide_eq_false_iff_not, newer]
    omega
  · rw [gone, Bool.eq_false_iff.mpr terminal, Bool.false_and]

theorem goneId_of_within (within : (db.tasks.count terminalTask : Int) ≤ maxTerminalTasks)
    (taskId : Int) : goneId maxTerminalTasks db taskId = false := by
  rw [goneId, List.any_eq_false]
  intro t mem both
  rw [gone_of_within within mem, Bool.and_false] at both
  cases both

theorem pruned_of_within (within : (db.tasks.count terminalTask : Int) ≤ maxTerminalTasks) :
    Pruned maxTerminalTasks db db
      { terminalBefore := db.tasks.count terminalTask
        retainedTerminal := db.tasks.count terminalTask, prunedTasks := 0, prunedIdempotency := 0
        prunedFences := 0, prunedResults := 0 } := by
  have none_gone : db.tasks.count (gone maxTerminalTasks db) = 0 := by
    apply List.countP_eq_zero.mpr
    intro t mem goes
    rw [gone_of_within within mem] at goes
    cases goes
  constructor
  case tasks =>
    refine (List.filter_eq_self.mpr fun t mem => ?_).symm
    rw [gone_of_within within mem]
    rfl
  case kept => exact (min_eq_right within).symm
  case prunedTasks =>
    rw [none_gone]
    rfl
  all_goals simp [goneId_of_within within, Table.select, Table.count]

/-- The four statements agree on what goes. -/
theorem pruned_of_exceeds (positive : 0 < maxTerminalTasks)
    (excess : (n : Int) = db.tasks.count terminalTask - maxTerminalTasks) :
    Pruned maxTerminalTasks db (Retention.deleteTasks db (oldestTerminal db n))
      { terminalBefore := db.tasks.count terminalTask
        retainedTerminal := db.tasks.count terminalTask - (deleteTasks n db).1
        prunedTasks := (deleteTasks n db).1
        prunedIdempotency := (deleteIdempotency n db).1, prunedFences := (deleteFences n db).1
        prunedResults := (deleteResults n db).1 } := by
  have rows : (Retention.deleteTasks db (oldestTerminal db n)).tasks.rows =
      db.tasks.select fun t => !gone maxTerminalTasks db t := by
    apply List.filter_congr
    intro t mem
    exact congrArg not (selected_iff excess mem)
  have left : (db.tasks.select fun t => !gone maxTerminalTasks db t).countP terminalTask +
      db.tasks.count (gone maxTerminalTasks db) = db.tasks.count terminalTask := by
    rw [Table.select, List.countP_filter]
    apply Table.count_split
    intro t _
    rw [gone]
    cases terminalTask t <;> cases decide (maxTerminalTasks ≤ (newer db t : Int)) <;> rfl
  rw [count_gone positive excess, ← rows] at left
  have kept : ((Retention.deleteTasks db (oldestTerminal db n)).tasks.count terminalTask : Int) +
      n = db.tasks.count terminalTask := by
    exact_mod_cast left
  constructor
  case tasks => exact rows
  case kept =>
    rw [min_eq_left (by omega)]
    omega
  case retainedTerminal =>
    rw [count_deletedTasks positive excess]
    dsimp only
    omega
  case prunedTasks => rw [count_gone positive excess, count_deletedTasks positive excess]
  all_goals first
    | rfl
    | simp only [Retention.deleteTasks, deleteIdempotency, deleteFences, deleteResults,
        Table.delete, Table.select, selectedId_iff excess]

theorem attempt_ok (positive : 0 < maxTerminalTasks)
    (h : attempt faults maxTerminalTasks db = .ok (result, db')) :
    Pruned maxTerminalTasks db db' result := by
  have h := run_then (run_then (run_then h))
  dsimp only at h
  split at h
  · rename_i within
    have h := run_then h
    cases h
    exact pruned_of_within within
  · rename_i exceeds
    have excess : ((((db.tasks.count terminalTask : Int) - maxTerminalTasks).toNat : Nat) : Int) =
        db.tasks.count terminalTask - maxTerminalTasks := by
      omega
    have h := run_then (run_then (run_then (run_then h)))
    have h := run_then (run_then (run_then h))
    dsimp only at h
    split at h
    · cases h
    have h := run_then h
    rw [Except.ok.injEq, Prod.mk.injEq] at h
    obtain ⟨rfl, rfl⟩ := h
    exact pruned_of_exceeds positive excess

theorem attempt_of_within (within : (db.tasks.count terminalTask : Int) ≤ maxTerminalTasks)
    (h : attempt faults maxTerminalTasks db = .ok (result, db')) : db' = db := by
  have h := run_then (run_then (run_then h))
  dsimp only at h
  rw [if_pos within] at h
  cases run_then h
  rfl

end Attempts

/-! ### Attempts until one succeeds -/

theorem retrying_cases {α : Type} (op : Nat → Db → Except Fault (α × Db)) (left n : Nat) (db : Db) :
    (∃ k value db', op k db = .ok (value, db') ∧ retrying op left n db = (.ok value, db')) ∨
      ∃ error, retrying op left n db = (.error error, db) := by
  induction left generalizing n with
  | zero =>
    rw [retrying]
    cases done : op n db with
    | ok pair => exact Or.inl ⟨n, pair.1, pair.2, done, rfl⟩
    | error fault => exact Or.inr ⟨fault.error, rfl⟩
  | succ left ih =>
    rw [retrying]
    cases done : op n db with
    | ok pair => exact Or.inl ⟨n, pair.1, pair.2, done, rfl⟩
    | error fault =>
      dsimp only
      by_cases again : fault.retryable = true
      · rw [if_pos again]
        exact ih (n + 1)
      · rw [if_neg again]
        exact Or.inr ⟨fault.error, rfl⟩

/-- An attempt without faults does what the transaction of the queue's runs does. -/
theorem clear_attempt {maxTerminalTasks : Int} (positive : 0 < maxTerminalTasks) (db : Db) :
    ∃ pair, attempt (fun _ => none) maxTerminalTasks db = .ok pair ∧
      Retention.pruneToMax maxTerminalTasks db = .ok pair := by
  by_cases within : (db.tasks.count terminalTask : Int) ≤ maxTerminalTasks
  · exact ⟨_, if_pos within, (if_neg (not_le.mpr positive)).trans (if_pos within)⟩
  · have excess : ((((db.tasks.count terminalTask : Int) - maxTerminalTasks).toNat : Nat) : Int) =
        db.tasks.count terminalTask - maxTerminalTasks := by
      omega
    have counted : ¬ ((deleteTasks ((db.tasks.count terminalTask : Int) - maxTerminalTasks).toNat
        db).1 : Int) ≠ db.tasks.count terminalTask - maxTerminalTasks := by
      rw [count_deletedTasks positive excess, excess]
      exact not_not.mpr rfl
    exact ⟨_, (if_neg within).trans (if_neg counted),
      (if_neg (not_le.mpr positive)).trans ((if_neg within).trans (if_neg counted))⟩

theorem pruneToMax_refines (maxTerminalTasks : Int) (db : Db) :
    pruneToMax (fun _ _ => none) maxTerminalTasks db =
      executeWithRetry (Retention.pruneToMax maxTerminalTasks) db := by
  by_cases refused : maxTerminalTasks ≤ 0
  · rw [executeWithRetry_error (show Retention.pruneToMax maxTerminalTasks db = _ from if_pos refused),
      pruneToMax, if_pos refused]
  · obtain ⟨pair, done, same⟩ := clear_attempt (not_le.mp refused) db
    rw [executeWithRetry_ok same, pruneToMax, if_neg refused, retrying, done]

/-- Whatever fails and however often: a maximum that is not positive is refused, a pruning
that fails changes nothing, one that succeeds removes exactly what exceeds the maximum and
leaves nothing for another, and one without faults succeeds. -/
theorem prune_exact (faults : Nat → Faults) (maxTerminalTasks : Int) (db : Db) :
    (maxTerminalTasks ≤ 0 → pruneToMax faults maxTerminalTasks db =
      (.error (.invalidState "max_terminal_tasks must be greater than zero"), db)) ∧
    (0 < maxTerminalTasks →
      (∃ error, pruneToMax faults maxTerminalTasks db = (.error error, db)) ∨
      ∃ result db', pruneToMax faults maxTerminalTasks db = (.ok result, db') ∧
        Pruned maxTerminalTasks db db' result ∧
        ∀ later, (pruneToMax later maxTerminalTasks db').2 = db') ∧
    (0 < maxTerminalTasks → (∀ n statement, faults n statement = none) →
      ∃ result, (pruneToMax faults maxTerminalTasks db).1 = .ok result) := by
  refine ⟨fun refused => if_pos refused, fun positive => ?_, fun positive none => ?_⟩
  · rw [pruneToMax, if_neg (not_le.mpr positive)]
    rcases retrying_cases (fun n => attempt (faults n) maxTerminalTasks) 6 0 db with
      ⟨n, result, db', done, answer⟩ | failed
    · have pruned := attempt_ok positive done
      refine Or.inr ⟨result, db', answer, pruned, fun later => ?_⟩
      have within : (db'.tasks.count terminalTask : Int) ≤ maxTerminalTasks :=
        pruned.kept ▸ min_le_left _ _
      rw [pruneToMax, if_neg (not_le.mpr positive)]
      rcases retrying_cases (fun n => attempt (later n) maxTerminalTasks) 6 0 db' with
        ⟨n, result', db'', done', answer'⟩ | ⟨error, answer'⟩
      · rw [answer', attempt_of_within within done']
      · rw [answer']
    · exact Or.inl failed
  · have clear : faults = fun _ _ => Option.none := funext fun n => funext fun s => none n s
    obtain ⟨pair, done, _⟩ := clear_attempt positive db
    rw [clear, pruneToMax, if_neg (not_le.mpr positive), retrying, done]
    exact ⟨pair.1, rfl⟩

/-- A database with one task, cancelled. -/
def oneCancelled : Db := QueueRuns.run [.enqueue 0 "send" "cpu" "" 0 3, .cancelTask 1 1]

/-- With a maximum of zero the cancelled task exceeds it, and stays. -/
theorem zero_refused : ¬ ∀ t ∈ oneCancelled.tasks.rows,
    (t ∈ (pruneToMax (fun _ _ => none) 0 oneCancelled).2.tasks.rows ↔
      gone 0 oneCancelled t = false) := by
  decide +kernel

end TerminalPruning
