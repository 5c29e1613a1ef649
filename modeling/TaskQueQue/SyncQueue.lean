import TaskQueQue.TaskLife
import TaskQueQue.GreedyAssignment
import Mathlib.Data.List.Sort

/-!
# Enqueueing, lease recovery and batch dispatch

The coordinator's side of the queue. A dispatch reads the runnable tasks in
priority order, rounds a transport plan to at most one worker per task and marks
the chosen rows ASSIGNED. The plan comes from an iterative floating-point
computation; here it is a parameter, so what is proved holds for every plan,
finite or not.
-/

namespace SyncQueue

open QueueValues QueueTables TaskLife KeyedTable GreedyAssignment

/-! ### Transport plans -/

structure Array2 (α : Type) where
  rows : Nat
  cols : Nat
  entry : Nat → Nat → α

/-- `sort_by` on the scores, largest first; incomparable scores keep their order. -/
def scoreBefore (left right : F64 × Nat × Nat) : Prop :=
  (right.1.partialCmp left.1).getD .eq ≠ .gt

instance : DecidableRel scoreBefore := fun left right =>
  inferInstanceAs (Decidable ((right.1.partialCmp left.1).getD .eq ≠ .gt))

/-- The entries of the plan that may be taken, best score first. -/
def rankedCandidates (plan : Array2 F64) (usable : Nat → Nat → Bool) : List (Nat × Nat) :=
  let candidates := (List.range plan.rows).flatMap fun i =>
    (List.range plan.cols).filterMap fun j =>
      if usable i j then some (plan.entry i j, i, j) else none
  (candidates.insertionSort scoreBefore).map Prod.snd

theorem mem_rankedCandidates {plan : Array2 F64} {usable : Nat → Nat → Bool} {c : Nat × Nat} :
    c ∈ rankedCandidates plan usable ↔ c.1 < plan.rows ∧ c.2 < plan.cols ∧ usable c.1 c.2 := by
  obtain ⟨i, j⟩ := c
  simp only [rankedCandidates, List.mem_map, List.mem_insertionSort, List.mem_flatMap,
    List.mem_range, List.mem_filterMap]
  constructor
  · rintro ⟨⟨score, x⟩, ⟨i', hi, j', hj, hmem⟩, rfl⟩
    split at hmem
    · rename_i hu
      cases hmem
      exact ⟨hi, hj, hu⟩
    · cases hmem
  · rintro ⟨hi, hj, hu⟩
    exact ⟨(plan.entry i j, i, j), ⟨i, hi, j, hj, by rw [if_pos hu]⟩, rfl⟩

def slots (capacities : List Int) (j : Nat) : Nat := (capacities.getD j 0).toNat

/-- The worker with the best score among those with room, a non-finite score
counting as zero; the first of equals. -/
def bestScored (plan : Array2 F64) (s : State Nat Nat) (i : Nat) : Option Nat :=
  let best := (List.range plan.cols).foldl (fun (best : Option (F64 × Nat)) j =>
    if s.remaining j = 0 then best
    else
      let score := if (plan.entry i j).isFinite then plan.entry i j else .finite 0
      match best with
      | none => some (score, j)
      | some (bestScore, _) =>
        if score.partialCmp bestScore = some .gt then some (score, j) else best) none
  best.map Prod.snd

/-- A task left over by the greedy pass gets the best scored worker with room. -/
def chooseScored (plan : Array2 F64) (s : State Nat Nat) (i : Nat) : Option Nat :=
  if (s.assignment i).isSome then none else bestScored plan s i

/-- One worker index per task; `none` is the `-1` of the assignment vector. -/
def roundTransportPlanBounded (plan : Array2 F64) (capacities : List Int) : List (Option Nat) :=
  let first := greedy (start (slots capacities))
    (rankedCandidates plan fun i j => (plan.entry i j).isFinite && 0 < slots capacities j)
  let final := fill (chooseScored plan) first (List.range plan.rows)
  (List.range plan.rows).map final.assignment

/-! ### Enqueue and lease recovery -/

/-- The row both admission paths insert. -/
def newTask (now : Seconds) (taskName taskType payload : String) (priority maxRetries id : Int) :
    Task :=
  { id, taskName, taskType, payload, priority, maxRetries, status := "PENDING", retryCount := 0
    scheduledAt := now, createdAt := now, updatedAt := now }

def enqueue (now : Seconds) (taskName taskType payload : String) (priority maxRetries : Int) :
    Transaction Int := fun db =>
  db.insertTask (newTask now taskName taskType payload priority maxRetries)

/-- Whether lease recovery takes the task back: the guard of its UPDATE. -/
def recovers (now : Seconds) (t : Task) : Bool :=
  t.statusIn ["ASSIGNED", "RUNNING"] && t.lockExpired now

def recoverExpiredLeases (now : Seconds) : Transaction Nat := fun db =>
  .ok (db.tasks.count (recovers now),
    db.updateTasks (recovers now) (unlockAs "PENDING" now) (unlockAs_id "PENDING" now))

/-! ### Batch dispatch -/

structure WorkerDescriptor where
  workerId : String
  workerType : String
  capacity : Int
  availableSlots : Int
deriving DecidableEq

structure DispatchedTask where
  taskId : Int
  taskName : String
  taskType : String
  priority : Int
  workerId : String
  transportScore : ℚ
deriving DecidableEq

/-- The plan entry clamped to the unit interval and rounded to four decimals,
half away from zero. -/
def transportScore (plan : Array2 F64) (i j : Nat) : ℚ :=
  match plan.entry i j with
  | .finite q => ((max 0 (min 1 q) * 10000 + 1 / 2).floor : ℚ) / 10000
  | _ => 0

/-- The runnable rows a dispatch may take, in dispatch order. -/
def runnable (db : Db) (now : Seconds) (wanted : Task → Bool) (limit : Int) : List Task :=
  ((db.tasks.select fun t =>
      decide (t.status = "PENDING") && decide (t.scheduledAt ≤ now) && wanted t).insertionSort
    Task.dispatchBefore).take limit.toNat

theorem mem_runnable {db : Db} {now : Seconds} {wanted : Task → Bool} {limit : Int} {t : Task}
    (h : t ∈ runnable db now wanted limit) :
    db.tasks.find? t.id = some t ∧ t.status = "PENDING" ∧ t.scheduledAt ≤ now ∧ wanted t := by
  have hmem := List.mem_of_mem_take h
  rw [List.mem_insertionSort, Table.select, List.mem_filter] at hmem
  obtain ⟨hrow, hcond⟩ := hmem
  simp only [Bool.and_eq_true, decide_eq_true_eq] at hcond
  exact ⟨Table.find?_of_mem hrow, hcond.1.1, hcond.1.2, hcond.2⟩

theorem runnable_nodup (db : Db) (now : Seconds) (wanted : Task → Bool) (limit : Int) :
    ((runnable db now wanted limit).map Task.id).Nodup := by
  have selected : ((db.tasks.select fun t => decide (t.status = "PENDING") &&
      decide (t.scheduledAt ≤ now) && wanted t).map Task.id).Nodup :=
    db.tasks.unique.sublist (List.filter_sublist.map Task.id)
  have sorted := ((List.perm_insertionSort Task.dispatchBefore _).map Task.id).nodup_iff.mpr selected
  exact sorted.sublist ((List.take_sublist _ _).map Task.id)

/-- The per-task UPDATE of the batch: guarded by the id only. -/
def assignRow (worker : String) (leaseUntil now : Seconds) (taskId : Int) (db : Db) : Db :=
  db.updateTasks (fun t => decide (t.id = taskId)) (assignTo worker leaseUntil now)
    (assignTo_id worker leaseUntil now)

def assignBatch (workers : List WorkerDescriptor) (plan : Array2 F64) (leaseUntil now : Seconds) :
    List (Task × Nat × Option Nat) → Db → List DispatchedTask × Db
  | [], db => ([], db)
  | (task, i, choice) :: rest, db =>
    match choice.bind fun j => (workers[j]?).map fun w => (j, w) with
    | none => assignBatch workers plan leaseUntil now rest db
    | some (j, worker) =>
      let (dispatched, db') := assignBatch workers plan leaseUntil now rest
        (assignRow worker.workerId leaseUntil now task.id db)
      ({ taskId := task.id, taskName := task.taskName, taskType := task.taskType
         priority := task.priority, workerId := worker.workerId
         transportScore := transportScore plan i j } :: dispatched, db')

def totalSlots (slots : List Int) : Int := slots.foldl saturatingAdd 0

def dispatchBatch (now : Seconds) (workers : List WorkerDescriptor) (leaseSec : F64)
    (transport : Nat → Nat → F64) : Transaction (List DispatchedTask) := fun db =>
  let activeWorkers := workers.filter fun w => decide (0 < w.availableSlots)
  if activeWorkers = [] then .ok ([], db)
  else
    let totalAvailable := totalSlots (activeWorkers.map WorkerDescriptor.availableSlots)
    if totalAvailable ≤ 0 then .ok ([], db)
    else
      let leaseUntil := now + leaseSec.positiveOr 10
      let rows := runnable db now (fun _ => true) totalAvailable
      if rows = [] then .ok ([], db)
      else
        let plan : Array2 F64 := ⟨rows.length, activeWorkers.length, transport⟩
        let assignments := roundTransportPlanBounded plan
          (activeWorkers.map WorkerDescriptor.availableSlots)
        .ok (assignBatch activeWorkers plan leaseUntil now
          (rows.zip ((List.range rows.length).zip assignments)) db)

/-! ### What the operations do to a task -/

theorem view_insertTask {db db' : Db} {row : Int → Task} {id : Int} (named : ∀ k, (row k).id = k)
    (h : db.insertTask row = .ok (id, db')) (k : Int) :
    view db' k = if id = k then { view db k with task := some (row id) } else view db k := by
  obtain ⟨_, _, tasks, hins, rfl⟩ := Db.insertTask_ok h
  have found := Table.find?_of_insert? hins k
  rw [named] at found
  by_cases hk : id = k
  · subst hk
    simp only [view, found, if_true]
  · simp only [view, found, if_neg hk]

/-- The change an admission makes: its task is created. -/
def createdChange (taskId id : Int) : Change := if taskId = id then .created else .quiet

theorem enqueue_advances {db db' : Db} (fresh : Fresh db) {now : Seconds}
    {taskName taskType payload : String} {priority maxRetries id : Int}
    (h : enqueue now taskName taskType payload priority maxRetries db = .ok (id, db')) :
    Advances db db' (createdChange id) := by
  have hview := view_insertTask (fun _ => rfl) h
  obtain ⟨hid, _, tasks, _, hdb⟩ := Db.insertTask_ok h
  have hseq : db'.taskSeq = id := by rw [hdb]
  constructor
  · omega
  · intro k
    rw [hview, createdChange]
    by_cases hk : id = k
    · subst hk
      rw [if_pos rfl, if_pos rfl, fresh.2 id (by omega)]
      exact .create (by omega) (by omega) rfl rfl rfl rfl
    · rw [if_neg hk, if_neg hk]
      exact .stay _

theorem recoverExpiredLeases_advances {db db' : Db} {now : Seconds} {affected : Nat}
    (h : recoverExpiredLeases now db = .ok (affected, db')) :
    Advances db db' fun id =>
      if (db.tasks.find? id).any (recovers now) then .recovered else .quiet := by
  cases h
  refine ⟨le_refl _, fun id => ?_⟩
  by_cases hr : (db.tasks.find? id).any (recovers now)
  · obtain ⟨t, row, guard⟩ := (Option.any_eq_true _ _).mp hr
    rw [if_pos hr, view_updateTasks_hit row guard]
    rw [recovers, Bool.and_eq_true] at guard
    exact .release now row guard.1 guard.2
  · rw [if_neg hr, view_updateTasks_miss]
    · exact .stay _
    · intro t row
      simpa [row, recovers] using hr

/-- Nothing changed but pending rows becoming assigned ones. -/
structure OnlyAssigns (db db' : Db) : Prop where
  row : ∀ id, db'.tasks.find? id = db.tasks.find? id ∨ ∃ t worker leaseUntil now,
    db.tasks.find? id = some t ∧ t.status = "PENDING" ∧
      db'.tasks.find? id = some (assignTo worker leaseUntil now t)
  fences : db'.fences = db.fences
  results : db'.results = db.results
  idempotency : db'.idempotency = db.idempotency
  seq : db'.taskSeq = db.taskSeq

theorem OnlyAssigns.refl (db : Db) : OnlyAssigns db db :=
  ⟨fun _ => Or.inl rfl, rfl, rfl, rfl, rfl⟩

theorem OnlyAssigns.trans {db₁ db₂ db₃ : Db} (h : OnlyAssigns db₁ db₂) (h' : OnlyAssigns db₂ db₃) :
    OnlyAssigns db₁ db₃ := by
  refine ⟨fun id => ?_, h'.fences.trans h.fences, h'.results.trans h.results,
    h'.idempotency.trans h.idempotency, h'.seq.trans h.seq⟩
  rcases h'.row id with same | ⟨t, worker, leaseUntil, now, hrow, pending, hnew⟩
  · rw [same]
    exact h.row id
  · rcases h.row id with same | ⟨_, _, _, _, _, _, hassigned⟩
    · exact Or.inr ⟨t, worker, leaseUntil, now, same ▸ hrow, pending, hnew⟩
    · rw [hrow, Option.some.injEq] at hassigned
      simp [hassigned, assignTo] at pending

theorem OnlyAssigns.advances {db db' : Db} (h : OnlyAssigns db db') :
    Advances db db' fun _ => .quiet := by
  refine ⟨h.seq.symm.le, fun id => ?_⟩
  rcases h.row id with same | ⟨t, worker, leaseUntil, now, hrow, pending, hnew⟩
  · have hview : view db' id = view db id := by
      simp only [view, same, h.fences, h.results, h.idempotency]
    rw [hview]
    exact .stay _
  · have hview : view db' id =
        { view db id with task := some (assignTo worker leaseUntil now t) } := by
      simp only [view, hnew, h.fences, h.results, h.idempotency]
    rw [hview]
    exact .assign worker leaseUntil now hrow pending

theorem assignRow_find? (worker : String) (leaseUntil now : Seconds) (taskId : Int) (db : Db)
    (id : Int) : (assignRow worker leaseUntil now taskId db).tasks.find? id =
      if id = taskId then (db.tasks.find? id).map (assignTo worker leaseUntil now)
      else db.tasks.find? id := by
  simp only [assignRow, Db.updateTasks_tasks, Table.find?_update]
  cases hf : db.tasks.find? id with
  | none => simp
  | some t =>
    have hid := Table.key_of_find? hf
    by_cases h : id = taskId
    · simp [h, hid]
    · simp [h, hid]

theorem assignRow_onlyAssigns {db : Db} {t : Task} {taskId : Int}
    (hrow : db.tasks.find? taskId = some t) (pending : t.status = "PENDING") (worker : String)
    (leaseUntil now : Seconds) : OnlyAssigns db (assignRow worker leaseUntil now taskId db) := by
  refine ⟨fun id => ?_, rfl, rfl, rfl, rfl⟩
  rw [assignRow_find?]
  by_cases h : id = taskId
  · subst h
    exact Or.inr ⟨t, worker, leaseUntil, now, hrow, pending, by simp [hrow]⟩
  · exact Or.inl (if_neg h)

theorem assignBatch_onlyAssigns {workers : List WorkerDescriptor} {plan : Array2 F64}
    {leaseUntil now : Seconds} {work : List (Task × Nat × Option Nat)} {db : Db}
    (distinct : (work.map fun x => x.1.id).Nodup)
    (rows : ∀ x ∈ work, db.tasks.find? x.1.id = some x.1 ∧ x.1.status = "PENDING") :
    OnlyAssigns db (assignBatch workers plan leaseUntil now work db).2 := by
  induction work generalizing db with
  | nil => exact .refl db
  | cons x rest ih =>
    obtain ⟨task, i, choice⟩ := x
    rw [List.map_cons, List.nodup_cons] at distinct
    obtain ⟨hrow, pending⟩ := rows _ List.mem_cons_self
    have later := fun x hx => rows x (List.mem_cons_of_mem _ hx)
    unfold assignBatch
    split
    · exact ih distinct.2 later
    · rename_i j worker _
      have first := assignRow_onlyAssigns hrow pending worker.workerId leaseUntil now
      refine first.trans (ih distinct.2 fun x hx => ?_)
      have hne : x.1.id ≠ task.id := fun e =>
        distinct.1 (List.mem_map.mpr ⟨x, hx, e⟩)
      rw [assignRow_find?, if_neg hne]
      exact later x hx

theorem length_roundTransportPlanBounded (plan : Array2 F64) (capacities : List Int) :
    (roundTransportPlanBounded plan capacities).length = plan.rows := by
  simp [roundTransportPlanBounded]

theorem dispatchBatch_onlyAssigns {db db' : Db} {now : Seconds} {workers : List WorkerDescriptor}
    {leaseSec : F64} {transport : Nat → Nat → F64} {dispatched : List DispatchedTask}
    (h : dispatchBatch now workers leaseSec transport db = .ok (dispatched, db')) :
    OnlyAssigns db db' := by
  unfold dispatchBatch at h
  simp only at h
  split at h
  · cases h
    exact .refl db
  · split at h
    · cases h
      exact .refl db
    · split at h
      · cases h
        exact .refl db
      · simp only [Except.ok.injEq] at h
        rw [← show _ = db' from congrArg Prod.snd h]
        apply assignBatch_onlyAssigns
        · rw [show (fun x : Task × Nat × Option Nat => x.1.id) = Task.id ∘ Prod.fst from rfl,
            ← List.map_map, List.map_fst_zip]
          · exact runnable_nodup _ _ _ _
          · simp [length_roundTransportPlanBounded]
        · intro x hx
          obtain ⟨hfind, pending, _⟩ := mem_runnable (List.of_mem_zip hx).1
          exact ⟨hfind, pending⟩

end SyncQueue
