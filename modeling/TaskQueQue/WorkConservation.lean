import TaskQueQue.BatchDispatch

/-!
# What a dispatch to sessions leaves idle

The rounding leaves a selected task over only if every session that supports it is
full. The selection is made before it and takes no more tasks than there are free
slots in all, whichever session they are for, so a session can be left idle beside
a task it supports that was not selected. Which queues and sessions this happens to
is a question about placements of the selected tasks alone: every placement is the
outcome of some plan.
-/

namespace WorkConservation

open QueueValues QueueTables TaskLife KeyedTable GreedyAssignment SyncQueue WorkerProtocol
open WorkerCapacity

/-! ### The rounding -/

section Rounding
variable {plan : Array2 F64} {capacities : List Int} {compatible : Array2 Bool}

theorem roomiest_isSome {s : State Nat Nat} {i j : Nat} (inside : j < compatible.cols)
    (ok : compatible.entry i j = true) (room : 0 < s.remaining j) :
    (roomiest compatible s i).isSome := by
  rw [roomiest, Option.isSome_map]
  apply BatchDispatch.foldl_isSome
  · intro b a
    split
    · rfl
    · dsimp only
      split <;> rfl
  · refine Or.inr ⟨j, List.mem_range.mpr inside, ?_⟩
    rw [if_neg]
    · rfl
    · simp [ok, Nat.pos_iff_ne_zero.mp room]

/-- A task is left over only if every worker compatible with it is full. -/
theorem rounding_maximal {i j : Nat} (row : i < plan.rows) (col : j < compatible.cols)
    (ok : compatible.entry i j = true)
    (left_out : (rounding plan capacities compatible).assignment i = none) :
    GreedyAssignment.load (Finset.range plan.rows) (rounding plan capacities compatible) j =
      slots capacities j := by
  have account := (rounding_valid plan capacities compatible).account j
  have full : (rounding plan capacities compatible).remaining j = 0 := by
    unfold rounding at left_out ⊢
    dsimp only at left_out ⊢
    generalize greedy (start (slots capacities)) (rankedCandidates plan fun i j =>
      compatible.entry i j && (plan.entry i j).isFinite && decide (0 < slots capacities j)) =
        first at left_out ⊢
    generalize rest_eq : ((List.range plan.rows).filter fun i =>
      (first.assignment i).isNone).insertionSort (scarcerBefore compatible) = rest at left_out ⊢
    have mem_rest : ∀ i, i ∈ rest ↔ i < plan.rows ∧ first.assignment i = none := by
      intro i
      rw [← rest_eq, List.mem_insertionSort, List.mem_filter, List.mem_range,
        Option.isNone_iff_eq_none]
    have distinct : rest.Nodup := by
      rw [← rest_eq]
      exact (List.perm_insertionSort _ _).nodup_iff.mpr (List.nodup_range.filter _)
    have left : i ∈ rest := by
      by_contra held
      rw [fill_other held] at left_out
      exact held ((mem_rest i).mpr ⟨row, left_out⟩)
    have answers : ∀ (s : State Nat Nat) i j,
        (j < compatible.cols ∧ compatible.entry i j = true) → 0 < s.remaining j →
        (roomiest compatible s i).isSome := by
      rintro s i j ⟨inside, ok⟩ room
      exact roomiest_isSome inside ok room
    exact fill_maximal answers distinct left ⟨col, ok⟩ left_out
  omega

/-- Any goal that respects compatibility and capacities is the outcome of the plan that is a
number on its pairs only. -/
theorem rounding_takes {goal : Nat → Option Nat}
    (usable : ∀ i j, i < plan.rows → j < plan.cols →
      (goal i = some j ↔ compatible.entry i j = true ∧ (plan.entry i j).isFinite = true))
    (inside : ∀ i j, goal i = some j → j < plan.cols)
    (fits : ∀ j, ((Finset.range plan.rows).filter fun i => goal i = some j).card ≤
      slots capacities j)
    {i j : Nat} (row : i < plan.rows) (aim : goal i = some j) :
    (rounding plan capacities compatible).assignment i = some j := by
  have known : ∀ i j, (i, j) ∈ rankedCandidates plan (fun i j =>
      compatible.entry i j && (plan.entry i j).isFinite && 0 < slots capacities j) ↔
      i ∈ Finset.range plan.rows ∧ goal i = some j := by
    intro i j
    rw [mem_rankedCandidates, Finset.mem_range]
    constructor
    · rintro ⟨row, col, use⟩
      simp only [Bool.and_eq_true] at use
      exact ⟨row, (usable i j row col).mpr use.1⟩
    · rintro ⟨row, aim⟩
      have col := inside i j aim
      refine ⟨row, col, ?_⟩
      have one : i ∈ (Finset.range plan.rows).filter fun i => goal i = some j :=
        Finset.mem_filter.mpr ⟨Finset.mem_range.mpr row, aim⟩
      have room := Nat.lt_of_lt_of_le (Finset.card_pos.mpr ⟨i, one⟩) (fits j)
      simp only [Bool.and_eq_true, decide_eq_true_eq]
      exact ⟨(usable i j row col).mp aim, room⟩
  have taken := greedy_takes known fits ((known i j).mpr ⟨Finset.mem_range.mpr row, aim⟩)
  unfold rounding
  dsimp only
  rw [fill_other, taken]
  rw [List.mem_insertionSort, List.mem_filter, taken]
  exact fun mem => Bool.false_ne_true mem.2

/-- A task goes to one of the workers that have capacities. -/
theorem rounding_col {i j : Nat} (row : i < plan.rows)
    (taken : (rounding plan capacities compatible).assignment i = some j) :
    j < capacities.length := by
  by_contra outside
  have bound := load_le_capacity (rounding_valid plan capacities compatible) j
  have closed : slots capacities j = 0 := by
    rw [slots, List.getD_eq_getElem?_getD, List.getElem?_eq_none (Nat.le_of_not_lt outside)]
    rfl
  rw [closed, Nat.le_zero, GreedyAssignment.load, Finset.card_eq_zero] at bound
  have held : i ∈ (∅ : Finset Nat) := by
    rw [← bound, Finset.mem_filter, Finset.mem_range]
    exact ⟨row, taken⟩
  exact absurd held (Finset.notMem_empty i)

theorem entry_of_range {n i : Nat} {f : Nat → Option Nat} {choice : Option Nat}
    (found : ((List.range n).map f)[i]? = some choice) : i < n ∧ f i = choice := by
  rw [List.getElem?_map, Option.map_eq_some_iff] at found
  obtain ⟨k, at_i, same⟩ := found
  obtain ⟨inside, rfl⟩ := List.getElem?_eq_some_iff.mp at_i
  rw [List.length_range] at inside
  rw [List.getElem_range] at same
  exact ⟨inside, same⟩

/-- The rounding gives each task at most one worker, one compatible with it, keeps to the
capacities, and leaves a task over only if all workers compatible with it are full. -/
theorem roundTransportPlanBounded_maximal (n : Nat) (capacities : List Int)
    (score : Nat → Nat → F64) (compatible : Nat → Nat → Bool) :
    ∃ assignment, WorkerProtocol.roundTransportPlanBounded ⟨n, capacities.length, score⟩ capacities
        ⟨n, capacities.length, compatible⟩ = assignment ∧ assignment.length = n ∧
      (∀ i j, assignment[i]? = some (some j) → j < capacities.length ∧ compatible i j = true) ∧
      (∀ j, assignment.countP (fun choice => decide (choice = some j)) ≤
        (capacities.getD j 0).toNat) ∧
      ∀ i j, assignment[i]? = some none → j < capacities.length → compatible i j = true →
        assignment.countP (fun choice => decide (choice = some j)) =
          (capacities.getD j 0).toNat := by
  have valid := rounding_valid ⟨n, capacities.length, score⟩ capacities
    ⟨n, capacities.length, compatible⟩
  have rounded : WorkerProtocol.roundTransportPlanBounded ⟨n, capacities.length, score⟩ capacities
      ⟨n, capacities.length, compatible⟩ = (List.range n).map
        (rounding ⟨n, capacities.length, score⟩ capacities
          ⟨n, capacities.length, compatible⟩).assignment := by
    unfold WorkerProtocol.roundTransportPlanBounded
    rw [if_neg]
    simp
  refine ⟨_, rounded, by rw [List.length_map, List.length_range], ?_, ?_, ?_⟩
  · intro i j found
    obtain ⟨row, taken⟩ := entry_of_range found
    exact ⟨rounding_col row taken, (valid.sound i j taken).2⟩
  · intro j
    rw [← rounded]
    exact count_rounded_le _ capacities _ j
  · intro i j found inside ok
    obtain ⟨row, left_out⟩ := entry_of_range found
    have full := @rounding_maximal ⟨n, capacities.length, score⟩ capacities
      ⟨n, capacities.length, compatible⟩ i j row inside ok left_out
    rw [GreedyAssignment.load, card_range_filter] at full
    rw [List.countP_map]
    exact full

end Rounding

/-! ### The assignments of a group -/

/-- The worker a task of the batch goes to. -/
def chosen (workers : List DispatchWorker) (x : Task × Option Nat) : Option DispatchWorker :=
  (x.2.bind fun j => workers[j]?).filter fun w => w.supports x.1.taskName

def assignmentOf (task : Task) (worker : DispatchWorker) : WorkerAssignment :=
  ⟨task.id, worker.sessionId, task.taskName, task.taskType⟩

theorem assignRegistered_out (workers : List DispatchWorker) (leaseUntil now : Seconds)
    {work : List (Task × Option Nat)} (distinct : (work.map fun x => x.1.id).Nodup) {db : Db}
    (pending : ∀ x ∈ work, db.tasks.find? x.1.id = some x.1 ∧ x.1.status = "PENDING") :
    (assignRegistered workers leaseUntil now work db).1 =
      work.filterMap fun x => (chosen workers x).map (assignmentOf x.1) := by
  induction work generalizing db with
  | nil => rfl
  | cons x rest ih =>
    obtain ⟨task, choice⟩ := x
    rw [List.map_cons, List.nodup_cons] at distinct
    obtain ⟨fresh, distinct⟩ := distinct
    have later := fun x hx => pending x (List.mem_cons_of_mem _ hx)
    unfold assignRegistered
    split
    · rename_i unplaced
      rw [ih distinct later, List.filterMap_cons_none]
      rw [chosen, unplaced]
      rfl
    · rename_i worker placed
      obtain ⟨row, unassigned⟩ := pending (task, choice) List.mem_cons_self
      dsimp only at row unassigned
      have one : db.tasks.count (assignable task) = 1 := by
        rw [db.tasks.count_key fun t ht => (assignable_named ht).1, row, if_pos]
        simp [assignable, unassigned]
      have rest_pending : ∀ x ∈ rest,
          (db.updateTasks (assignable task) (assignTo worker.sessionId leaseUntil now)
            (assignTo_id worker.sessionId leaseUntil now)).tasks.find? x.1.id = some x.1 ∧
          x.1.status = "PENDING" := by
        intro x hx
        obtain ⟨row, unassigned⟩ := later x hx
        refine ⟨?_, unassigned⟩
        have other : x.1.id ≠ task.id := fun same => fresh (same ▸ List.mem_map_of_mem hx)
        rw [Db.updateTasks_tasks, Table.find?_update, row, Option.map_some, if_neg]
        exact fun guard => other (assignable_named guard).1
      dsimp only
      rw [if_pos one, ih distinct rest_pending, List.filterMap_cons_some]
      · rfl
      · rw [chosen, placed]
        rfl

theorem assignRegistered_select (workers : List DispatchWorker) (leaseUntil now : Seconds)
    {p : Task → Bool} {taskType : String} (only : ∀ t, p t = true → t.taskType = taskType)
    {work : List (Task × Option Nat)} (other : ∀ x ∈ work, x.1.taskType ≠ taskType) (db : Db) :
    (assignRegistered workers leaseUntil now work db).2.tasks.select p = db.tasks.select p := by
  induction work generalizing db with
  | nil => rfl
  | cons x rest ih =>
    obtain ⟨task, choice⟩ := x
    have later := fun x hx => other x (List.mem_cons_of_mem _ hx)
    unfold assignRegistered
    split
    · exact ih later db
    · dsimp only
      rw [ih later, Db.updateTasks_tasks]
      apply Table.select_update_of_disjoint
      intro t guard
      have kind : t.taskType ≠ taskType := by
        rw [(assignable_named guard).2.2.1]
        exact other (task, choice) List.mem_cons_self
      constructor
      · exact Bool.eq_false_iff.mpr fun held => kind (only t held)
      · apply Bool.eq_false_iff.mpr
        intro held
        have after := only _ held
        exact kind after

/-! ### A group -/

/-- The names that some worker of the group advertises. -/
def supportedNames (workers : List DispatchWorker) : List String :=
  (workers.flatMap fun w => w.taskNames.1).dedup

def wanted (taskType : String) (workers : List DispatchWorker) (t : Task) : Bool :=
  decide (t.taskType = taskType) && (supportedNames workers).contains t.taskName

/-- The runnable tasks that some worker of the group supports. -/
def waiting (now : Seconds) (db : Db) (taskType : String) (workers : List DispatchWorker) :
    List Task :=
  db.tasks.select fun t =>
    decide (t.status = "PENDING") && decide (t.scheduledAt ≤ now) && wanted taskType workers t

/-- The first of them, as many as there are free slots in all. -/
def candidates (now : Seconds) (db : Db) (taskType : String) (workers : List DispatchWorker) :
    List Task :=
  runnable db now (wanted taskType workers)
    (totalSlots (workers.map DispatchWorker.availableSlots))

/-- The names fit into the bound parameters of one statement. -/
def NamesFit (workers : List DispatchWorker) : Prop :=
  (supportedNames workers).length + 3 ≤ maxVariableNumber

/-- The workers that support a candidate. -/
def useful (tasks : List Task) (workers : List DispatchWorker) : List DispatchWorker :=
  workers.filter fun w => tasks.any fun t => w.supports t.taskName

def outcome (tasks : List Task) (workers : List DispatchWorker) (transport : Nat → Nat → F64) :
    State Nat Nat :=
  rounding ⟨tasks.length, workers.length, transport⟩
    (workers.map DispatchWorker.availableSlots)
    ⟨tasks.length, workers.length, compatibleAt tasks workers⟩

theorem rounded_eq (tasks : List Task) (workers : List DispatchWorker)
    (transport : Nat → Nat → F64) :
    WorkerProtocol.roundTransportPlanBounded ⟨tasks.length, workers.length, transport⟩
      (workers.map DispatchWorker.availableSlots)
      ⟨tasks.length, workers.length, compatibleAt tasks workers⟩ =
      (List.range tasks.length).map (outcome tasks workers transport).assignment := by
  unfold WorkerProtocol.roundTransportPlanBounded
  rw [if_neg]
  · rfl
  · simp

/-- The tasks with their choices. -/
def work (tasks : List Task) (workers : List DispatchWorker) (transport : Nat → Nat → F64) :
    List (Task × Option Nat) :=
  tasks.zip ((List.range tasks.length).map (outcome tasks workers transport).assignment)

theorem work_tasks (tasks : List Task) (workers : List DispatchWorker)
    (transport : Nat → Nat → F64) : (work tasks workers transport).map Prod.fst = tasks := by
  apply List.map_fst_zip
  rw [List.length_map, List.length_range]

theorem mem_work {tasks : List Task} {workers : List DispatchWorker}
    {transport : Nat → Nat → F64} {x : Task × Option Nat} :
    x ∈ work tasks workers transport ↔
      ∃ i, tasks[i]? = some x.1 ∧ (outcome tasks workers transport).assignment i = x.2 := by
  obtain ⟨t, choice⟩ := x
  rw [work, List.mem_iff_getElem?]
  constructor
  · rintro ⟨i, found⟩
    obtain ⟨task, chose⟩ := List.getElem?_zip_eq_some.mp found
    rw [List.getElem?_map] at chose
    obtain ⟨k, at_i, rfl⟩ := Option.map_eq_some_iff.mp chose
    obtain ⟨_, rfl⟩ := List.getElem?_eq_some_iff.mp at_i
    rw [List.getElem_range]
    exact ⟨i, task, rfl⟩
  · rintro ⟨i, task, rfl⟩
    have inside := (List.getElem?_eq_some_iff.mp task).1
    refine ⟨i, List.getElem?_zip_eq_some.mpr ⟨task, ?_⟩⟩
    rw [List.getElem?_map, List.getElem?_range inside, Option.map_some]

theorem assignRegistered_nobody (leaseUntil now : Seconds) (work : List (Task × Option Nat))
    (db : Db) : assignRegistered [] leaseUntil now work db = ([], db) := by
  induction work with
  | nil => rfl
  | cons x rest ih =>
    obtain ⟨task, choice⟩ := x
    cases choice <;> exact ih

/-- A group's dispatch is the batch of its work, also where it returns early. -/
theorem dispatchGroup_eq {now leaseUntil : Seconds} {transport : Nat → Nat → F64}
    {taskType : String} {workers : List DispatchWorker} {db db' : Db} {out : List WorkerAssignment}
    (h : dispatchGroup now leaseUntil transport taskType workers db = .ok (out, db')) :
    assignRegistered (useful (candidates now db taskType workers) workers) leaseUntil now
      (work (candidates now db taskType workers)
        (useful (candidates now db taskType workers) workers) transport) db = (out, db') := by
  unfold dispatchGroup at h
  dsimp only at h
  split at h
  · rename_i idle
    cases h
    have empty : candidates now db taskType workers = [] := by
      rcases idle with spent | unnamed
      · rw [candidates, runnable, Int.toNat_of_nonpos spent, List.take_zero]
      · have none : ∀ t, wanted taskType workers t = false := by
          intro t
          rw [wanted, supportedNames, unnamed]
          simp
        simp [candidates, runnable, Table.select, none]
    rw [empty]
    rfl
  split at h
  · cases h
  change (if candidates now db taskType workers = [] ∨
    useful (candidates now db taskType workers) workers = [] then _ else _) = _ at h
  split at h
  · rename_i nothing
    cases h
    rcases nothing with none | none
    · rw [none]
      rfl
    · rw [none]
      exact assignRegistered_nobody leaseUntil now _ db
  · change Except.ok (assignRegistered (useful (candidates now db taskType workers) workers)
      leaseUntil now ((candidates now db taskType workers).zip
        (WorkerProtocol.roundTransportPlanBounded _ _ _)) db) = _ at h
    rw [rounded_eq, Except.ok.injEq] at h
    exact h

theorem dispatchGroup_out {now leaseUntil : Seconds} {transport : Nat → Nat → F64}
    {taskType : String} {workers : List DispatchWorker} {db db' : Db} {out : List WorkerAssignment}
    (h : dispatchGroup now leaseUntil transport taskType workers db = .ok (out, db')) :
    out = (work (candidates now db taskType workers)
      (useful (candidates now db taskType workers) workers) transport).filterMap fun x =>
        (chosen (useful (candidates now db taskType workers) workers) x).map
          (assignmentOf x.1) := by
  have first : _ = out := congrArg Prod.fst (dispatchGroup_eq h)
  rw [← first]
  apply assignRegistered_out
  · have ids : (work (candidates now db taskType workers)
        (useful (candidates now db taskType workers) workers) transport).map (fun x => x.1.id) =
        (candidates now db taskType workers).map Task.id := by
      rw [← congrArg (List.map Task.id) (work_tasks _ _ transport), List.map_map]
      rfl
    rw [ids]
    exact runnable_nodup db now _ _
  · intro x hx
    obtain ⟨row, pending, _⟩ := mem_runnable (List.of_mem_zip hx).1
    exact ⟨row, pending⟩

/-- Tasks of another type are as they were. -/
theorem dispatchGroup_select {now leaseUntil : Seconds} {transport : Nat → Nat → F64}
    {taskType : String} {workers : List DispatchWorker} {db db' : Db} {out : List WorkerAssignment}
    (h : dispatchGroup now leaseUntil transport taskType workers db = .ok (out, db'))
    {p : Task → Bool} {taskType' : String} (only : ∀ t, p t = true → t.taskType = taskType')
    (other : taskType ≠ taskType') : db'.tasks.select p = db.tasks.select p := by
  have second : _ = db' := congrArg Prod.snd (dispatchGroup_eq h)
  rw [← second]
  apply assignRegistered_select _ _ _ only
  intro x hx
  obtain ⟨_, _, _, want⟩ := mem_runnable (List.of_mem_zip hx).1
  simp only [wanted, Bool.and_eq_true, decide_eq_true_eq] at want
  rw [want.1]
  exact other

/-! ### What the assignments of a group are -/

section Group
variable {now leaseUntil : Seconds} {transport : Nat → Nat → F64} {taskType : String}
variable {workers : List DispatchWorker} {db db' : Db} {out : List WorkerAssignment}

theorem compatibleAt_iff {tasks : List Task} {able : List DispatchWorker} {i j : Nat} :
    compatibleAt tasks able i j = true ↔
      ∃ t w, tasks[i]? = some t ∧ able[j]? = some w ∧ w.supports t.taskName = true := by
  unfold compatibleAt
  cases tasks[i]? with
  | none => simp
  | some t =>
    cases able[j]? with
    | none => simp
    | some w => simp

theorem outcome_valid (tasks : List Task) (able : List DispatchWorker)
    (transport : Nat → Nat → F64) :
    Valid (Finset.range tasks.length) (slots (able.map DispatchWorker.availableSlots))
      (fun i j => compatibleAt tasks able i j = true) (outcome tasks able transport) :=
  rounding_valid ⟨tasks.length, able.length, transport⟩ _
    ⟨tasks.length, able.length, compatibleAt tasks able⟩

/-- The assignments, by the places of task and worker. -/
theorem mem_out (h : dispatchGroup now leaseUntil transport taskType workers db = .ok (out, db'))
    {a : WorkerAssignment} : a ∈ out ↔
      ∃ i j t w, (candidates now db taskType workers)[i]? = some t ∧
        (useful (candidates now db taskType workers) workers)[j]? = some w ∧
        (outcome (candidates now db taskType workers)
          (useful (candidates now db taskType workers) workers) transport).assignment i = some j ∧
        w.supports t.taskName = true ∧ a = assignmentOf t w := by
  rw [dispatchGroup_out h, List.mem_filterMap]
  constructor
  · rintro ⟨⟨t, choice⟩, mem, shown⟩
    obtain ⟨i, task, chose⟩ := mem_work.mp mem
    obtain ⟨w, picked, rfl⟩ := Option.map_eq_some_iff.mp shown
    obtain ⟨bound, supports⟩ := Option.filter_eq_some_iff.mp picked
    obtain ⟨j, aimed, worker⟩ := Option.bind_eq_some_iff.mp bound
    exact ⟨i, j, t, w, task, worker, chose.trans aimed, supports, rfl⟩
  · rintro ⟨i, j, t, w, task, worker, chose, supports, rfl⟩
    refine ⟨(t, some j), mem_work.mpr ⟨i, task, chose⟩, ?_⟩
    have picked : chosen (useful (candidates now db taskType workers) workers) (t, some j) =
        some w := Option.filter_eq_some_iff.mpr ⟨worker, supports⟩
    rw [picked]
    rfl

theorem index_of_session {able : List DispatchWorker}
    (distinct : (able.map DispatchWorker.sessionId).Nodup) {j k : Nat} {v w : DispatchWorker}
    (at_j : able[j]? = some v) (at_k : able[k]? = some w) (same : v.sessionId = w.sessionId) :
    j = k := by
  have inside : j < (able.map DispatchWorker.sessionId).length := by
    rw [List.length_map]
    exact (List.getElem?_eq_some_iff.mp at_j).1
  apply (List.getElem?_inj inside distinct).mp
  rw [List.getElem?_map, List.getElem?_map, at_j, at_k, Option.map_some, Option.map_some, same]

theorem assignedTo_eq_load
    (h : dispatchGroup now leaseUntil transport taskType workers db = .ok (out, db'))
    (distinct : (workers.map DispatchWorker.sessionId).Nodup) {j : Nat} {w : DispatchWorker}
    (worker : (useful (candidates now db taskType workers) workers)[j]? = some w) :
    assignedTo w.sessionId out = GreedyAssignment.load
      (Finset.range (candidates now db taskType workers).length)
      (outcome (candidates now db taskType workers)
        (useful (candidates now db taskType workers) workers) transport) j := by
  have alone := distinct.sublist
    ((List.filter_sublist (p := fun w : DispatchWorker =>
      (candidates now db taskType workers).any fun t => w.supports t.taskName)).map
        DispatchWorker.sessionId)
  rw [dispatchGroup_out h]
  change (useful (candidates now db taskType workers) workers |>.map
    DispatchWorker.sessionId).Nodup at alone
  generalize candidates now db taskType workers = tasks at worker alone ⊢
  generalize useful tasks workers = able at worker alone ⊢
  have valid := outcome_valid tasks able transport
  rw [assignedTo, List.countP_filterMap]
  calc (work tasks able transport).countP _
      = (work tasks able transport).countP (fun x => decide (x.2 = some j)) := by
        apply List.countP_congr
        intro x hx
        obtain ⟨i, task, chose⟩ := mem_work.mp hx
        rw [decide_eq_true_eq]
        constructor
        · intro mine
          cases picked : chosen able x with
          | none => simp [picked] at mine
          | some v =>
            obtain ⟨k, aimed, at_k⟩ := Option.bind_eq_some_iff.mp
              (Option.filter_eq_some_iff.mp picked).1
            have same : v.sessionId = w.sessionId := by simpa [picked, assignmentOf] using mine
            rw [aimed, index_of_session alone at_k worker same]
        · intro aimed
          rw [aimed] at chose
          obtain ⟨t, v, task', at_j, supports⟩ := compatibleAt_iff.mp (valid.sound i j chose).2
          rw [worker, Option.some.injEq] at at_j
          rw [task, Option.some.injEq] at task'
          subst at_j task'
          have picked : chosen able x = some w := by
            rw [chosen, aimed]
            exact Option.filter_eq_some_iff.mpr ⟨worker, supports⟩
          simp [picked, assignmentOf]
    _ = ((work tasks able transport).map Prod.snd).countP (fun c => decide (c = some j)) := by
        rw [List.countP_map]
        rfl
    _ = GreedyAssignment.load (Finset.range tasks.length) (outcome tasks able transport) j := by
        rw [work, List.map_snd_zip, List.countP_map, GreedyAssignment.load, card_range_filter]
        · rfl
        · rw [List.length_map, List.length_range]

/-- A candidate is left over only if every worker that supports it is full. -/
theorem left_over_full
    (h : dispatchGroup now leaseUntil transport taskType workers db = .ok (out, db'))
    (distinct : (workers.map DispatchWorker.sessionId).Nodup) {t : Task}
    (candidate : t ∈ candidates now db taskType workers)
    (left_out : t.id ∉ out.map WorkerAssignment.taskId) {w : DispatchWorker} (mem : w ∈ workers)
    (supports : w.supports t.taskName = true) :
    assignedTo w.sessionId out = w.availableSlots.toNat := by
  have able : w ∈ useful (candidates now db taskType workers) workers :=
    List.mem_filter.mpr ⟨mem, List.any_eq_true.mpr ⟨t, candidate, supports⟩⟩
  obtain ⟨j, worker⟩ := List.mem_iff_getElem?.mp able
  obtain ⟨i, task⟩ := List.mem_iff_getElem?.mp candidate
  have ok := compatibleAt_iff.mpr ⟨t, w, task, worker, supports⟩
  have free : (outcome (candidates now db taskType workers)
      (useful (candidates now db taskType workers) workers) transport).assignment i = none := by
    cases held : (outcome (candidates now db taskType workers)
      (useful (candidates now db taskType workers) workers) transport).assignment i with
    | none => rfl
    | some k =>
      obtain ⟨t', v, task', at_k, fits⟩ :=
        compatibleAt_iff.mp ((outcome_valid _ _ transport).sound i k held).2
      rw [task, Option.some.injEq] at task'
      subst task'
      have reported := (mem_out h).mpr ⟨i, k, t, v, task, at_k, held, fits, rfl⟩
      exact absurd (List.mem_map_of_mem reported) left_out
  have full := @rounding_maximal ⟨_, _, transport⟩ _ _ i j
    (List.getElem?_eq_some_iff.mp task).1 (List.getElem?_eq_some_iff.mp worker).1 ok free
  rw [assignedTo_eq_load h distinct worker]
  refine full.trans ?_
  rw [slots, List.getD_eq_getElem?_getD, List.getElem?_map, worker]
  rfl

end Group

/-! ### Placements -/

/-- Tasks on sessions: each on one that supports it, no session beyond its free slots. -/
structure Placement (tasks : List Task) (workers : List DispatchWorker)
    (place : Int → Option String) : Prop where
  supported : ∀ t ∈ tasks, ∀ s, place t.id = some s →
    ∃ w ∈ workers, w.sessionId = s ∧ w.supports t.taskName = true
  fits : ∀ w ∈ workers, tasks.countP (fun t => decide (place t.id = some w.sessionId)) ≤
    w.availableSlots.toNat

/-- A task waits that is not selected, while the selected tasks that some worker for it supports
can be placed with a slot of that worker left. -/
structure Beside (waits tasks : List Task) (workers : List DispatchWorker)
    (place : Int → Option String) (t : Task) (w : DispatchWorker) : Prop where
  waits : t ∈ waits
  passed : t ∉ tasks
  worker : w ∈ workers
  supports : w.supports t.taskName = true
  placement : Placement tasks workers place
  placed : ∀ c ∈ tasks, w.supports c.taskName = true → (place c.id).isSome
  room : tasks.countP (fun c => decide (place c.id = some w.sessionId)) < w.availableSlots.toNat

def PassedOver (now : Seconds) (db : Db) (taskType : String) (workers : List DispatchWorker) :
    Prop :=
  ∃ place t w, Beside (waiting now db taskType workers) (candidates now db taskType workers)
    workers place t w

/-- Nothing is passed over where the free slots are as many as the waiting tasks. -/
theorem not_passedOver_of_few {now : Seconds} {db : Db} {taskType : String}
    {workers : List DispatchWorker} (few : (waiting now db taskType workers).length ≤
      (totalSlots (workers.map DispatchWorker.availableSlots)).toNat) :
    ¬ PassedOver now db taskType workers := by
  rintro ⟨place, t, w, beside⟩
  apply beside.passed
  have whole : candidates now db taskType workers =
      (waiting now db taskType workers).insertionSort Task.dispatchBefore := by
    apply List.take_of_length_le
    rw [List.length_insertionSort]
    exact few
  rw [whole, List.mem_insertionSort]
  exact beside.waits

theorem countP_range_getElem? {α : Type} (l : List α) (p : α → Bool) :
    (List.range l.length).countP (fun i => (l[i]?).any p) = l.countP p := by
  induction l with
  | nil => rfl
  | cons a rest ih =>
    rw [List.length_cons, List.range_succ_eq_map, List.countP_cons, List.countP_cons,
      List.countP_map, ← ih]
    rfl

section Plans
variable {now leaseUntil : Seconds} {taskType : String} {workers : List DispatchWorker}

/-- Whether a placement puts the task at `i` on the worker at `j`. -/
def hits (tasks : List Task) (able : List DispatchWorker) (place : Int → Option String)
    (i j : Nat) : Bool :=
  (tasks[i]?).any fun t => (able[j]?).any fun w => decide (place t.id = some w.sessionId)

theorem hits_iff {tasks : List Task} {able : List DispatchWorker} {place : Int → Option String}
    {i j : Nat} : hits tasks able place i j = true ↔ ∃ t w, tasks[i]? = some t ∧
      able[j]? = some w ∧ place t.id = some w.sessionId := by
  unfold hits
  cases tasks[i]? with
  | none => simp
  | some t =>
    cases able[j]? with
    | none => simp
    | some w => simp

/-- The plan that is a number on the pairs of a placement only. -/
def planOf (tasks : List Task) (able : List DispatchWorker) (place : Int → Option String)
    (i j : Nat) : F64 :=
  if hits tasks able place i j then .finite 1 else .nan

theorem planOf_isFinite (tasks : List Task) (able : List DispatchWorker)
    (place : Int → Option String) (i j : Nat) :
    (planOf tasks able place i j).isFinite = hits tasks able place i j := by
  unfold planOf
  cases hits tasks able place i j <;> rfl

/-- The rounding of that plan puts every task of the placement where the placement does. -/
theorem outcome_planOf {tasks : List Task} {able : List DispatchWorker}
    {place : Int → Option String} (distinct : (able.map DispatchWorker.sessionId).Nodup)
    (placement : Placement tasks able place) {i j : Nat}
    (hit : hits tasks able place i j = true) :
    (outcome tasks able (planOf tasks able place)).assignment i = some j := by
  have one : ∀ i j k, hits tasks able place i j = true → hits tasks able place i k = true →
      j = k := by
    intro i j k at_j at_k
    obtain ⟨t, v, task, worker, aimed⟩ := hits_iff.mp at_j
    obtain ⟨t', w, task', worker', aimed'⟩ := hits_iff.mp at_k
    rw [task, Option.some.injEq] at task'
    subst task'
    rw [aimed, Option.some.injEq] at aimed'
    exact index_of_session distinct worker worker' aimed'
  let goal := fun i => (List.range able.length).find? (hits tasks able place i)
  have goal_iff : ∀ i j, goal i = some j ↔ hits tasks able place i j = true := by
    intro i j
    constructor
    · exact fun found => List.find?_some found
    · intro hit
      cases found : goal i with
      | none =>
        obtain ⟨_, _, _, worker, _⟩ := hits_iff.mp hit
        have inside := List.mem_range.mpr (List.getElem?_eq_some_iff.mp worker).1
        exact absurd hit (List.find?_eq_none.mp found j inside)
      | some k =>
        have hit_k : hits tasks able place i k = true := List.find?_some found
        rw [one i k j hit_k hit]
  obtain ⟨t, _, task, _, _⟩ := hits_iff.mp hit
  apply @rounding_takes _ _ _ goal _ _ _ i j (List.getElem?_eq_some_iff.mp task).1
    ((goal_iff i j).mpr hit)
  · intro i j _ _
    rw [goal_iff]
    change _ ↔ compatibleAt tasks able i j = true ∧ (planOf tasks able place i j).isFinite = true
    rw [planOf_isFinite]
    constructor
    · intro hit
      refine ⟨?_, hit⟩
      obtain ⟨t, w, task, worker, aimed⟩ := hits_iff.mp hit
      obtain ⟨v, mem, same, supports⟩ :=
        placement.supported t (List.mem_of_getElem? task) _ aimed
      have named := List.inj_on_of_nodup_map distinct mem (List.mem_of_getElem? worker) same
      exact compatibleAt_iff.mpr ⟨t, w, task, worker, named ▸ supports⟩
    · exact fun both => both.2
  · intro i j found
    exact List.mem_range.mp (List.mem_of_find?_eq_some found)
  · intro j
    rw [card_range_filter]
    cases worker : able[j]? with
    | none =>
      have never : (List.range tasks.length).countP (fun i => decide (goal i = some j)) = 0 := by
        rw [List.countP_eq_zero]
        intro i _ aimed
        obtain ⟨_, _, _, found, _⟩ := hits_iff.mp ((goal_iff i j).mp (of_decide_eq_true aimed))
        rw [worker] at found
        cases found
      exact never ▸ Nat.zero_le _
    | some w =>
      have room := placement.fits w (List.mem_of_getElem? worker)
      rw [← countP_range_getElem?] at room
      have enough : slots (able.map DispatchWorker.availableSlots) j =
          w.availableSlots.toNat := by
        rw [slots, List.getD_eq_getElem?_getD, List.getElem?_map, worker]
        rfl
      rw [enough]
      refine le_trans (le_of_eq (List.countP_congr fun i _ => ?_)) room
      rw [decide_eq_true_eq, goal_iff, hits, worker]
      rfl

variable {db : Db}

/-- Every placement of the candidates is part of what its plan leads to. -/
theorem placement_realised (distinct : (workers.map DispatchWorker.sessionId).Nodup)
    {place : Int → Option String}
    (placement : Placement (candidates now db taskType workers) workers place)
    {db' : Db} {out : List WorkerAssignment}
    (h : dispatchGroup now leaseUntil (planOf (candidates now db taskType workers)
      (useful (candidates now db taskType workers) workers) place) taskType workers db =
      .ok (out, db'))
    {t : Task} (candidate : t ∈ candidates now db taskType workers) {s : String}
    (aimed : place t.id = some s) : ∃ a ∈ out, a.taskId = t.id ∧ a.sessionId = s := by
  have alone : ((useful (candidates now db taskType workers) workers).map
      DispatchWorker.sessionId).Nodup := distinct.sublist (List.filter_sublist.map _)
  have able : ∀ t ∈ candidates now db taskType workers, ∀ s, place t.id = some s →
      ∃ w ∈ useful (candidates now db taskType workers) workers, w.sessionId = s ∧
        w.supports t.taskName = true := by
    intro t candidate s aimed
    obtain ⟨w, mem, same, supports⟩ := placement.supported t candidate s aimed
    exact ⟨w, List.mem_filter.mpr ⟨mem, List.any_eq_true.mpr ⟨t, candidate, supports⟩⟩, same,
      supports⟩
  have placement' : Placement (candidates now db taskType workers)
      (useful (candidates now db taskType workers) workers) place :=
    ⟨able, fun w mem => placement.fits w (List.mem_filter.mp mem).1⟩
  obtain ⟨w, mem, rfl, supports⟩ := able t candidate s aimed
  obtain ⟨i, task⟩ := List.mem_iff_getElem?.mp candidate
  obtain ⟨j, worker⟩ := List.mem_iff_getElem?.mp mem
  have placed := outcome_planOf alone placement' (hits_iff.mpr ⟨t, w, task, worker, aimed⟩)
  exact ⟨assignmentOf t w, (mem_out h).mpr ⟨i, j, t, w, task, worker, placed, supports, rfl⟩,
    rfl, rfl⟩

end Plans

/-! ### What a group leaves idle -/

section Idle
variable {now leaseUntil : Seconds} {transport : Nat → Nat → F64} {taskType : String}
variable {workers : List DispatchWorker} {db db' : Db} {out : List WorkerAssignment}

/-- The tasks that still wait are those that were not assigned. -/
theorem waiting_after {ok : WorkerAssignment → Prop} (assigns : Assigns ok db db' out) {t : Task} :
    t ∈ waiting now db' taskType workers ↔
      t ∈ waiting now db taskType workers ∧ t.id ∉ out.map WorkerAssignment.taskId := by
  have row := assigns.row t.id
  constructor
  · intro mem
    obtain ⟨held, due⟩ := List.mem_filter.mp mem
    have pending : t.status = "PENDING" := by
      simp only [Bool.and_eq_true, decide_eq_true_eq] at due
      exact due.1.1
    have found := Table.find?_of_mem held
    rcases row with ⟨same, absent⟩ | ⟨a, _, _, t', leaseUntil, now', _, _, _, _, new⟩
    · refine ⟨List.mem_filter.mpr ⟨Table.mem_of_find? (same.symm.trans found), due⟩, ?_⟩
      intro listed
      obtain ⟨a, ha, named⟩ := List.mem_map.mp listed
      exact absent a ha named
    · change db'.tasks.find? t.id = some t at found
      rw [found, Option.some.injEq] at new
      rw [new] at pending
      simp [assignTo] at pending
  · rintro ⟨mem, unlisted⟩
    obtain ⟨held, due⟩ := List.mem_filter.mp mem
    have found := Table.find?_of_mem held
    rcases row with ⟨same, _⟩ | ⟨a, ha, named, _⟩
    · exact List.mem_filter.mpr ⟨Table.mem_of_find? (same.trans found), due⟩
    · exact absurd (List.mem_map.mpr ⟨a, ha, named⟩) unlisted

theorem candidate_row {c : Task} (candidate : c ∈ candidates now db taskType workers) :
    db.tasks.find? c.id = some c :=
  (mem_runnable candidate).1

theorem candidate_ext {c d : Task} (hc : c ∈ candidates now db taskType workers)
    (hd : d ∈ candidates now db taskType workers) (same : c.id = d.id) : c = d := by
  have found := candidate_row hc
  rw [same, candidate_row hd] at found
  exact (Option.some.inj found).symm

theorem out_from_candidates
    (h : dispatchGroup now leaseUntil transport taskType workers db = .ok (out, db'))
    {a : WorkerAssignment} (mem : a ∈ out) : ∃ c ∈ candidates now db taskType workers,
      ∃ w ∈ workers, w.supports c.taskName = true ∧ a = assignmentOf c w := by
  obtain ⟨_, _, c, w, task, worker, _, supports, shown⟩ := (mem_out h).mp mem
  exact ⟨c, List.mem_of_getElem? task, w,
    (List.mem_filter.mp (List.mem_of_getElem? worker)).1, supports, shown⟩

/-- Tasks that map to different assignments of a session are no more than these. -/
theorem countP_le_assignedTo {tasks : List Task} (ids : (tasks.map Task.id).Nodup)
    {place : Int → Option String} {s : String}
    (reported : ∀ t ∈ tasks, place t.id = some s → ∃ a ∈ out, a.taskId = t.id ∧ a.sessionId = s) :
    tasks.countP (fun t => decide (place t.id = some s)) ≤ assignedTo s out := by
  have inside : (tasks.filter fun t => decide (place t.id = some s)).map Task.id ⊆
      (out.filter fun a => decide (a.sessionId = s)).map WorkerAssignment.taskId := by
    intro id mem
    obtain ⟨t, ht, rfl⟩ := List.mem_map.mp mem
    obtain ⟨ht, aimed⟩ := List.mem_filter.mp ht
    obtain ⟨a, ha, named, mine⟩ := reported t ht (of_decide_eq_true aimed)
    exact List.mem_map.mpr ⟨a, List.mem_filter.mpr ⟨ha, decide_eq_true mine⟩, named⟩
  have bound := (List.subperm_of_subset (ids.sublist (List.filter_sublist.map Task.id))
    inside).length_le
  rwa [List.length_map, List.length_map, ← List.countP_eq_length_filter,
    ← List.countP_eq_length_filter] at bound

theorem assignedTo_le_countP (distinct : (out.map WorkerAssignment.taskId).Nodup)
    {tasks : List Task} {place : Int → Option String} {s : String}
    (placed : ∀ a ∈ out, a.sessionId = s →
      ∃ t ∈ tasks, t.id = a.taskId ∧ place t.id = some s) :
    assignedTo s out ≤ tasks.countP (fun t => decide (place t.id = some s)) := by
  have inside : (out.filter fun a => decide (a.sessionId = s)).map WorkerAssignment.taskId ⊆
      (tasks.filter fun t => decide (place t.id = some s)).map Task.id := by
    intro id mem
    obtain ⟨a, ha, rfl⟩ := List.mem_map.mp mem
    obtain ⟨ha, mine⟩ := List.mem_filter.mp ha
    obtain ⟨t, ht, named, aimed⟩ := placed a ha (of_decide_eq_true mine)
    exact List.mem_map.mpr ⟨t, List.mem_filter.mpr ⟨ht, decide_eq_true aimed⟩, named⟩
  have bound := (List.subperm_of_subset
    (distinct.sublist (List.filter_sublist.map WorkerAssignment.taskId)) inside).length_le
  rwa [List.length_map, List.length_map, ← List.countP_eq_length_filter,
    ← List.countP_eq_length_filter] at bound

/-- A worker left with room beside a task it supports was passed over. -/
theorem passedOver_of_idle
    (h : dispatchGroup now leaseUntil transport taskType workers db = .ok (out, db'))
    (distinct : (workers.map DispatchWorker.sessionId).Nodup) {t : Task} {w : DispatchWorker}
    (idle : t ∈ waiting now db' taskType workers) (mem : w ∈ workers)
    (supports : w.supports t.taskName = true)
    (room : assignedTo w.sessionId out < w.availableSlots.toNat) :
    PassedOver now db taskType workers := by
  have assigns := dispatchGroup_assigns h
  obtain ⟨waits, unlisted⟩ := (waiting_after assigns).mp idle
  have placed : ∀ c ∈ candidates now db taskType workers, w.supports c.taskName = true →
      c.id ∈ out.map WorkerAssignment.taskId := by
    intro c candidate fits
    by_contra left_out
    have full := left_over_full h distinct candidate left_out mem fits
    omega
  let place := fun id => (out.find? fun a => decide (a.taskId = id)).map WorkerAssignment.sessionId
  have reported : ∀ (c : Task) s, place c.id = some s →
      ∃ a ∈ out, a.taskId = c.id ∧ a.sessionId = s := by
    intro c s aimed
    obtain ⟨a, found, mine⟩ := Option.map_eq_some_iff.mp aimed
    exact ⟨a, List.mem_of_find?_eq_some found, of_decide_eq_true (List.find?_some found :), mine⟩
  have few : ∀ s, (candidates now db taskType workers).countP
      (fun c => decide (place c.id = some s)) ≤ assignedTo s out := fun s =>
    countP_le_assignedTo (runnable_nodup db now _ _) fun c _ => reported c s
  refine ⟨place, t, w, waits, fun candidate => unlisted (placed t candidate supports), mem,
    supports, ⟨?_, ?_⟩, ?_, (few w.sessionId).trans_lt room⟩
  · intro c candidate s aimed
    obtain ⟨a, ha, named, mine⟩ := reported c s aimed
    obtain ⟨d, other, v, hv, fits, rfl⟩ := out_from_candidates h ha
    rw [candidate_ext candidate other named.symm]
    exact ⟨v, hv, mine, fits⟩
  · intro v hv
    refine (few v.sessionId).trans (dispatchGroup_count distinct ?_ h)
    intro u hu same
    rw [List.inj_on_of_nodup_map distinct hu hv same]
  · intro c candidate fits
    obtain ⟨a, ha, named⟩ := List.mem_map.mp (placed c candidate fits)
    rw [Option.isSome_map, List.find?_isSome]
    exact ⟨a, ha, decide_eq_true named⟩

/-- Where a task is passed over, a plan leaves the worker with room beside it. -/
theorem idle_of_beside (distinct : (workers.map DispatchWorker.sessionId).Nodup)
    {place : Int → Option String} {t : Task} {w : DispatchWorker}
    (beside : Beside (waiting now db taskType workers) (candidates now db taskType workers)
      workers place t w)
    (h : dispatchGroup now leaseUntil (planOf (candidates now db taskType workers)
      (useful (candidates now db taskType workers) workers) place) taskType workers db =
      .ok (out, db')) :
    t ∈ waiting now db' taskType workers ∧
      assignedTo w.sessionId out < w.availableSlots.toNat := by
  have assigns := dispatchGroup_assigns h
  constructor
  · refine (waiting_after assigns).mpr ⟨beside.waits, ?_⟩
    intro listed
    obtain ⟨a, ha, named⟩ := List.mem_map.mp listed
    obtain ⟨c, candidate, _, _, _, rfl⟩ := out_from_candidates h ha
    have held := candidate_row candidate
    have found : db.tasks.find? t.id = some t :=
      Table.find?_of_mem (List.mem_filter.mp beside.waits).1
    change c.id = t.id at named
    rw [named, found, Option.some.injEq] at held
    exact beside.passed (held ▸ candidate)
  · refine (assignedTo_le_countP assigns.distinct ?_).trans_lt beside.room
    intro a ha mine
    obtain ⟨c, candidate, v, hv, fits, rfl⟩ := out_from_candidates h ha
    obtain rfl := List.inj_on_of_nodup_map distinct hv beside.worker mine
    refine ⟨c, candidate, rfl, ?_⟩
    obtain ⟨s, aimed⟩ := Option.isSome_iff_exists.mp (beside.placed c candidate fits)
    obtain ⟨b, hb, named, there⟩ :=
      placement_realised distinct beside.placement h candidate aimed
    have one := List.inj_on_of_nodup_map assigns.distinct hb ha named
    rw [one] at there
    rw [aimed, ← there]
    rfl

end Idle

/-! ### All groups -/

/-- No type and no session in two groups. -/
def Apart (groups : List (String × List DispatchWorker)) : Prop :=
  groups.Pairwise fun g g' => g.1 ≠ g'.1 ∧ ∀ w ∈ g.2, ∀ w' ∈ g'.2, w.sessionId ≠ w'.sessionId

theorem dispatchGroup_fits {now leaseUntil : Seconds} {transport : Nat → Nat → F64}
    {taskType : String} {workers : List DispatchWorker} {db : Db}
    (positive : ∀ w ∈ workers, 0 < w.availableSlots) :
    (∃ r, dispatchGroup now leaseUntil transport taskType workers db = .ok r) ↔
      NamesFit workers := by
  unfold dispatchGroup
  dsimp only
  split
  · rename_i idle
    refine ⟨fun _ => ?_, fun _ => ⟨_, rfl⟩⟩
    have unnamed : supportedNames workers = [] := by
      rcases idle with spent | unnamed
      · cases workers with
        | nil => rfl
        | cons w rest =>
          have nonneg : ∀ n ∈ (w :: rest).map DispatchWorker.availableSlots, 0 ≤ n := by
            intro n mem
            obtain ⟨v, hv, rfl⟩ := List.mem_map.mp mem
            exact (positive v hv).le
          rw [totalSlots, BatchDispatch.foldl_saturatingAdd nonneg (le_refl 0) (by decide),
            List.map_cons, List.map_cons, List.sum_cons] at spent
          have first := positive w List.mem_cons_self
          generalize ((rest.map DispatchWorker.availableSlots).map Int.toNat).sum = others at spent
          simp only [i64Max] at spent
          omega
      · exact unnamed
    rw [NamesFit, unnamed]
    decide
  change (∃ r, (if maxVariableNumber < (supportedNames workers).length + 3 then _ else _) =
    Except.ok r) ↔ _
  rw [NamesFit]
  split
  · rename_i many
    constructor
    · rintro ⟨r, ok⟩
      cases ok
    · intro few
      omega
  · rename_i few
    refine ⟨fun _ => Nat.le_of_not_lt few, fun _ => ?_⟩
    split <;> exact ⟨_, rfl⟩

theorem dispatchGroups_fits {now leaseUntil : Seconds} {transport : String → Nat → Nat → F64}
    {groups : List (String × List DispatchWorker)}
    (positive : ∀ g ∈ groups, ∀ w ∈ g.2, 0 < w.availableSlots) {db : Db} :
    (∃ r, dispatchGroups now leaseUntil transport groups db = .ok r) ↔
      ∀ g ∈ groups, NamesFit g.2 := by
  induction groups generalizing db with
  | nil => exact ⟨fun _ _ mem => absurd mem List.not_mem_nil, fun _ => ⟨_, rfl⟩⟩
  | cons g rest ih =>
    obtain ⟨taskType, workers⟩ := g
    have here : (∃ r, dispatchGroup now leaseUntil (transport taskType) taskType workers db =
        .ok r) ↔ NamesFit workers := dispatchGroup_fits (positive _ List.mem_cons_self)
    have later : ∀ db, (∃ r, dispatchGroups now leaseUntil transport rest db = .ok r) ↔
        ∀ g ∈ rest, NamesFit g.2 := fun db =>
      ih fun g mem => positive g (List.mem_cons_of_mem _ mem)
    rw [List.forall_mem_cons, ← here]
    unfold dispatchGroups
    cases dispatchGroup now leaseUntil (transport taskType) taskType workers db with
    | error err => simp
    | ok r =>
      obtain ⟨assignments, db₁⟩ := r
      dsimp only
      rw [← later db₁]
      cases dispatchGroups now leaseUntil transport rest db₁ with
      | error err => simp
      | ok r => simp

theorem dispatchGroups_append {now leaseUntil : Seconds} {transport : String → Nat → Nat → F64}
    {before after : List (String × List DispatchWorker)} {db db' : Db}
    {out : List WorkerAssignment}
    (h : dispatchGroups now leaseUntil transport (before ++ after) db = .ok (out, db')) :
    ∃ out₁ db₁ out₂, dispatchGroups now leaseUntil transport before db = .ok (out₁, db₁) ∧
      dispatchGroups now leaseUntil transport after db₁ = .ok (out₂, db') ∧
      out = out₁ ++ out₂ := by
  induction before generalizing db out with
  | nil => exact ⟨[], db, out, rfl, h, rfl⟩
  | cons g rest ih =>
    obtain ⟨taskType, workers⟩ := g
    rw [List.cons_append] at h
    unfold dispatchGroups at h
    split at h
    · cases h
    · rename_i assignments db₁ group
      split at h
      · cases h
      · rename_i more db₂ later
        cases h
        obtain ⟨out₁, db₂, out₂, first, second, rfl⟩ := ih later
        refine ⟨assignments ++ out₁, db₂, out₂, ?_, second, (List.append_assoc _ _ _).symm⟩
        unfold dispatchGroups
        rw [group]
        dsimp only
        rw [first]

theorem dispatchGroups_select {now leaseUntil : Seconds} {transport : String → Nat → Nat → F64}
    {p : Task → Bool} {taskType : String} (only : ∀ t, p t = true → t.taskType = taskType)
    {groups : List (String × List DispatchWorker)} (other : ∀ g ∈ groups, g.1 ≠ taskType)
    {db db' : Db} {out : List WorkerAssignment}
    (h : dispatchGroups now leaseUntil transport groups db = .ok (out, db')) :
    db'.tasks.select p = db.tasks.select p := by
  induction groups generalizing db out with
  | nil =>
    cases h
    rfl
  | cons g rest ih =>
    unfold dispatchGroups at h
    split at h
    · cases h
    · rename_i group
      split at h
      · cases h
      · rename_i later
        cases h
        rw [ih (fun g mem => other g (List.mem_cons_of_mem _ mem)) later]
        exact dispatchGroup_select group only (other g List.mem_cons_self)

theorem dispatchGroups_nothing {now leaseUntil : Seconds} {transport : String → Nat → Nat → F64}
    {groups : List (String × List DispatchWorker)} {db db' : Db} {out : List WorkerAssignment}
    (h : dispatchGroups now leaseUntil transport groups db = .ok (out, db')) {s : String}
    (other : ∀ g ∈ groups, ∀ w ∈ g.2, w.sessionId ≠ s) : assignedTo s out = 0 := by
  rw [assignedTo, List.countP_eq_zero]
  intro a mem mine
  obtain ⟨g, hg, _, w, hw, same, _⟩ := (dispatchGroups_assigns h).sound a mem
  exact other g hg w hw (same.symm.trans (of_decide_eq_true mine))

/-- A group in a dispatch: it finds its tasks as they were and they stay as it left them. -/
theorem group_of_dispatch {now leaseUntil : Seconds} {transport : String → Nat → Nat → F64}
    {groups : List (String × List DispatchWorker)} (apart : Apart groups) {db db' : Db}
    {out : List WorkerAssignment}
    (h : dispatchGroups now leaseUntil transport groups db = .ok (out, db'))
    {g : String × List DispatchWorker} (mem : g ∈ groups) :
    ∃ db₁ out₂ db₂, dispatchGroup now leaseUntil (transport g.1) g.1 g.2 db₁ = .ok (out₂, db₂) ∧
      (∀ p : Task → Bool, (∀ t, p t = true → t.taskType = g.1) →
        db₁.tasks.select p = db.tasks.select p ∧ db'.tasks.select p = db₂.tasks.select p) ∧
      ∀ w ∈ g.2, assignedTo w.sessionId out = assignedTo w.sessionId out₂ := by
  obtain ⟨before, after, rfl⟩ := List.append_of_mem mem
  obtain ⟨_, right, across⟩ := List.pairwise_append.mp apart
  obtain ⟨alone, _⟩ := List.pairwise_cons.mp right
  obtain ⟨out₁, db₁, rest, first, later, rfl⟩ := dispatchGroups_append h
  unfold dispatchGroups at later
  split at later
  · cases later
  rename_i out₂ db₂ group
  split at later
  · cases later
  rename_i out₃ _ last
  cases later
  refine ⟨db₁, out₂, db₂, group, ?_, ?_⟩
  · intro p only
    constructor
    · exact dispatchGroups_select only
        (fun g' mem => (across g' mem g List.mem_cons_self).1) first
    · exact dispatchGroups_select only (fun g' mem => (alone g' mem).1.symm) last
  · intro w hw
    have none_before := dispatchGroups_nothing first (s := w.sessionId)
      fun g' mem w' hw' => (across g' mem g List.mem_cons_self).2 w' hw' w hw
    have none_after := dispatchGroups_nothing last (s := w.sessionId)
      fun g' mem w' hw' => ((alone g' mem).2 w hw w' hw').symm
    rw [assignedTo, List.countP_append, List.countP_append]
    rw [assignedTo] at none_before none_after ⊢
    omega

/-! ### The dispatch -/

/-- Every runnable task waits for sessions that are all full. -/
def Conserving (now : Seconds) (sessions : List WorkerSession) (db : Db) : Prop :=
  ∀ t ∈ db.tasks.rows, t.status = "PENDING" → t.scheduledAt ≤ now →
    ∀ session ∈ sessions, t.taskType = session.kind.toDb → t.taskName ∈ session.taskNames.1 →
      session.capacity ≤ WorkerProtocol.load db session.sessionId

section Dispatch
variable {now : Seconds} {sessions : List WorkerSession} {leaseSec : F64} {db db' : Db}
variable {transport : String → Nat → Nat → F64} {out : List WorkerAssignment}

theorem groups_apart (distinct : (sessions.map WorkerSession.sessionId).Nodup) (db : Db) :
    Apart (byType (availableWorkers db sessions)) := by
  have ids := distinct.sublist (availableWorkers_ids db sessions)
  have types : ((((availableWorkers db sessions).map Prod.fst).dedup).insertionSort
      (· ≤ ·)).Nodup := (List.perm_insertionSort _ _).nodup_iff.mpr (List.nodup_dedup _)
  refine List.pairwise_map.mpr (types.imp fun {t t'} differ => ⟨differ, ?_⟩)
  intro w hw w' hw' same
  obtain ⟨x, hx, rfl⟩ := List.mem_map.mp hw
  obtain ⟨x', hx', rfl⟩ := List.mem_map.mp hw'
  obtain ⟨mem, kind⟩ := List.mem_filter.mp hx
  obtain ⟨mem', kind'⟩ := List.mem_filter.mp hx'
  have one : x = x' := List.inj_on_of_nodup_map ids mem mem' same
  exact differ ((of_decide_eq_true kind).symm.trans (one ▸ of_decide_eq_true kind'))

/-- The workers of a group are the sessions of its type with free slots. -/
theorem mem_group {g : String × List DispatchWorker}
    (mem : g ∈ byType (availableWorkers db sessions)) {w : DispatchWorker} :
    w ∈ g.2 ↔ ∃ session ∈ sessions, session.kind.toDb = g.1 ∧ 0 < w.availableSlots ∧
      w = ⟨session.sessionId, saturatingSub session.capacity
        (WorkerProtocol.load db session.sessionId), session.taskNames⟩ := by
  rw [mem_byType mem]
  constructor
  · intro hw
    obtain ⟨x, hx, rfl⟩ := List.mem_map.mp hw
    obtain ⟨hx, kind⟩ := List.mem_filter.mp hx
    obtain ⟨session, hsession, made⟩ := List.mem_filterMap.mp hx
    dsimp only at made
    split at made
    · cases made
    · rename_i free
      cases made
      exact ⟨session, hsession, of_decide_eq_true kind, not_le.mp free, rfl⟩
  · rintro ⟨session, hsession, kind, free, rfl⟩
    refine List.mem_map.mpr ⟨(g.1, _), List.mem_filter.mpr ⟨?_, decide_eq_true rfl⟩, rfl⟩
    refine List.mem_filterMap.mpr ⟨session, hsession, ?_⟩
    dsimp only
    rw [if_neg (not_le.mpr free), kind]

theorem group_positive {g : String × List DispatchWorker}
    (mem : g ∈ byType (availableWorkers db sessions)) : ∀ w ∈ g.2, 0 < w.availableSlots := by
  intro w hw
  obtain ⟨_, _, _, free, _⟩ := (mem_group mem).mp hw
  exact free

theorem group_distinct (distinct : (sessions.map WorkerSession.sessionId).Nodup)
    {g : String × List DispatchWorker} (mem : g ∈ byType (availableWorkers db sessions)) :
    (g.2.map DispatchWorker.sessionId).Nodup :=
  byType_distinct (distinct.sublist (availableWorkers_ids db sessions)) g mem

/-- A session with a free slot is in the group of its type. -/
theorem group_of_session (db : Db) {session : WorkerSession} (mem : session ∈ sessions)
    (free : 0 < saturatingSub session.capacity (WorkerProtocol.load db session.sessionId)) :
    ∃ g ∈ byType (availableWorkers db sessions), g.1 = session.kind.toDb ∧
      ⟨session.sessionId, saturatingSub session.capacity
        (WorkerProtocol.load db session.sessionId), session.taskNames⟩ ∈ g.2 := by
  let x : String × DispatchWorker := (session.kind.toDb, ⟨session.sessionId,
    saturatingSub session.capacity (WorkerProtocol.load db session.sessionId), session.taskNames⟩)
  have available : x ∈ availableWorkers db sessions := by
    refine List.mem_filterMap.mpr ⟨session, mem, ?_⟩
    dsimp only
    rw [if_neg (not_le.mpr free)]
  refine ⟨(x.1, ((availableWorkers db sessions).filter fun w => decide (w.1 = x.1)).map Prod.snd),
    ?_, rfl, ?_⟩
  · refine List.mem_map.mpr ⟨x.1, ?_, rfl⟩
    rw [List.mem_insertionSort, List.mem_dedup]
    exact List.mem_map_of_mem available
  · exact List.mem_map.mpr ⟨x, List.mem_filter.mpr ⟨available, decide_eq_true rfl⟩, rfl⟩

/-- Having room is having been assigned less than the free slots. -/
theorem room_iff {session : WorkerSession} (bounded : session.capacity ≤ i64Max)
    (grown : WorkerProtocol.load db' session.sessionId =
      WorkerProtocol.load db session.sessionId + assignedTo session.sessionId out) :
    (WorkerProtocol.load db' session.sessionId : Int) < session.capacity ↔
      assignedTo session.sessionId out <
        (saturatingSub session.capacity (WorkerProtocol.load db session.sessionId)).toNat := by
  rw [grown]
  generalize assignedTo session.sessionId out = assigned
  generalize WorkerProtocol.load db session.sessionId = held
  have positive := session.capacity_pos
  simp only [saturatingSub, i64Min, i64Max] at bounded ⊢
  omega

theorem mem_waiting {taskType : String} {workers : List DispatchWorker} {t : Task} :
    t ∈ waiting now db taskType workers ↔ t ∈ db.tasks.rows ∧ t.status = "PENDING" ∧
      t.scheduledAt ≤ now ∧ t.taskType = taskType ∧
      ∃ w ∈ workers, w.supports t.taskName = true := by
  have names : (supportedNames workers).contains t.taskName = true ↔
      ∃ w ∈ workers, w.supports t.taskName = true := by
    rw [List.contains_iff_mem, supportedNames, List.mem_dedup, List.mem_flatMap]
    refine exists_congr fun w => and_congr_right fun _ => ?_
    rw [DispatchWorker.supports, List.contains_iff_mem]
  constructor
  · intro mem
    obtain ⟨row, due⟩ := List.mem_filter.mp mem
    simp only [wanted, Bool.and_eq_true, decide_eq_true_eq] at due
    exact ⟨row, due.1.1, due.1.2, due.2.1, names.mp due.2.2⟩
  · rintro ⟨row, pending, due, kind, supported⟩
    refine List.mem_filter.mpr ⟨row, ?_⟩
    simp only [wanted, Bool.and_eq_true, decide_eq_true_eq]
    exact ⟨⟨pending, due⟩, kind, names.mpr supported⟩

theorem wanted_type {taskType : String} {workers : List DispatchWorker} {t : Task}
    (h : (decide (t.status = "PENDING") && decide (t.scheduledAt ≤ now) &&
      wanted taskType workers t) = true) : t.taskType = taskType := by
  simp only [wanted, Bool.and_eq_true, decide_eq_true_eq] at h
  exact h.2.1

/-- What a group waits for and selects depends on the rows of its type alone. -/
theorem selection_congr (now : Seconds) {db₁ : Db} {g : String × List DispatchWorker}
    (same : ∀ p : Task → Bool, (∀ t, p t = true → t.taskType = g.1) →
      db₁.tasks.select p = db.tasks.select p) :
    waiting now db₁ g.1 g.2 = waiting now db g.1 g.2 ∧
      candidates now db₁ g.1 g.2 = candidates now db g.1 g.2 := by
  have rows : waiting now db₁ g.1 g.2 = waiting now db g.1 g.2 := same _ fun _ => wanted_type
  refine ⟨rows, ?_⟩
  unfold waiting at rows
  rw [candidates, candidates, runnable, runnable, rows]

/-- A dispatch that leaves a session idle passed a task over. -/
theorem passedOver_of_not_conserving (distinct : (sessions.map WorkerSession.sessionId).Nodup)
    (bounded : ∀ session ∈ sessions, session.capacity ≤ i64Max)
    (h : dispatchRegistered now sessions leaseSec transport db = .ok (out, db'))
    (idle : ¬ Conserving now sessions db') :
    ∃ g ∈ byType (availableWorkers db sessions), PassedOver now db g.1 g.2 := by
  simp only [Conserving, not_forall, not_le] at idle
  obtain ⟨t, row, pending, due, session, mem, kind, named, room⟩ := idle
  have grown := load_of_assigns (dispatchRegistered_assigns h) session.sessionId
  have left := (room_iff (bounded session mem) grown).mp room
  obtain ⟨g, hg, same, hw⟩ := group_of_session db mem (by omega)
  obtain ⟨db₁, out₂, db₂, group, frame, counts⟩ :=
    group_of_dispatch (groups_apart distinct db) h hg
  have supports : (DispatchWorker.mk session.sessionId (saturatingSub session.capacity
      (WorkerProtocol.load db session.sessionId)) session.taskNames).supports t.taskName = true :=
    List.contains_iff_mem.mpr named
  have waits : t ∈ waiting now db' g.1 g.2 :=
    mem_waiting.mpr ⟨row, pending, due, kind.trans same.symm, _, hw, supports⟩
  rw [waiting, (frame _ fun _ => wanted_type).2] at waits
  have own := counts _ hw
  dsimp only at own
  obtain ⟨place, t', w, beside⟩ := passedOver_of_idle group (group_distinct distinct hg) waits hw
    supports (own ▸ left)
  obtain ⟨waits_eq, picks_eq⟩ := selection_congr now fun p only => (frame p only).1
  rw [waits_eq, picks_eq] at beside
  exact ⟨g, hg, place, t', w, beside⟩

/-- A dispatch whose groups pass no task over is work-conserving, whatever the plan; where one
passes a task over, some plan leaves a session idle beside it. -/
theorem conserving_iff (now : Seconds) (sessions : List WorkerSession) (leaseSec : F64) (db : Db)
    (distinct : (sessions.map WorkerSession.sessionId).Nodup)
    (bounded : ∀ session ∈ sessions, session.capacity ≤ i64Max) :
    (∀ transport out db', dispatchRegistered now sessions leaseSec transport db = .ok (out, db') →
      Conserving now sessions db') ↔
    ((∀ g ∈ byType (availableWorkers db sessions), NamesFit g.2) →
      ∀ g ∈ byType (availableWorkers db sessions), ¬ PassedOver now db g.1 g.2) := by
  have positive : ∀ g ∈ byType (availableWorkers db sessions), ∀ w ∈ g.2, 0 < w.availableSlots :=
    fun g hg => group_positive hg
  constructor
  · rintro conserving fits g hg ⟨place, t, w, beside⟩
    let transport : String → Nat → Nat → F64 := fun _ =>
      planOf (candidates now db g.1 g.2) (useful (candidates now db g.1 g.2) g.2) place
    have returns : ∃ r, dispatchRegistered now sessions leaseSec transport db = .ok r :=
      (dispatchGroups_fits positive).mpr fits
    obtain ⟨⟨out, db'⟩, h⟩ := returns
    obtain ⟨db₁, out₂, db₂, group, frame, counts⟩ :=
      group_of_dispatch (groups_apart distinct db) h hg
    obtain ⟨waits_eq, picks_eq⟩ := selection_congr now fun p only => (frame p only).1
    rw [← waits_eq, ← picks_eq] at beside
    dsimp only [transport] at group
    rw [← picks_eq] at group
    obtain ⟨waits, room⟩ := idle_of_beside (group_distinct distinct hg) beside group
    rw [waiting, ← (frame _ fun _ => wanted_type).2] at waits
    obtain ⟨row, pending, due, kind, _⟩ := mem_waiting.mp waits
    obtain ⟨session, mem, type, _, rfl⟩ := (mem_group hg).mp beside.worker
    have full := conserving transport out db' h t row pending due session mem
      (kind.trans type.symm) (List.contains_iff_mem.mp beside.supports)
    have grown := load_of_assigns (dispatchRegistered_assigns h) session.sessionId
    have own := counts _ beside.worker
    dsimp only at own room
    have left := (room_iff (bounded session mem) grown).mpr (own ▸ room)
    exact absurd left (not_lt.mpr full)
  · intro condition transport out db' h
    by_contra idle
    obtain ⟨g, hg, left_out⟩ := passedOver_of_not_conserving distinct bounded h idle
    exact condition ((dispatchGroups_fits positive).mp ⟨_, h⟩) g hg left_out

end Dispatch

/-! ### Two urgent tasks for one session and one task for another -/

instance (now : Seconds) (sessions : List WorkerSession) (db : Db) :
    Decidable (Conserving now sessions db) :=
  inferInstanceAs (Decidable (∀ t ∈ db.tasks.rows, t.status = "PENDING" → t.scheduledAt ≤ now →
    ∀ session ∈ sessions, t.taskType = session.kind.toDb → t.taskName ∈ session.taskNames.1 →
      session.capacity ≤ WorkerProtocol.load db session.sessionId))

def oneName (sessionId name : String) : WorkerSession :=
  ⟨sessionId, sessionId, .cpu, 1, ⟨[name], List.pairwise_singleton _ _⟩, by decide⟩

def crowded : Db :=
  QueueRuns.run [.enqueue 0 "a" "cpu" "" 5 3, .enqueue 0 "a" "cpu" "" 5 3,
    .enqueue 0 "b" "cpu" "" 0 3]

/-- The two free slots are spent on the urgent tasks, and the second session stays idle. -/
theorem crowded_leaves_idle : ∃ out db', dispatchRegistered 1
    [oneName "s1" "a", oneName "s2" "b"] (.finite 30) (fun _ _ _ => .finite 1) crowded =
      .ok (out, db') ∧ ¬ Conserving 1 [oneName "s1" "a", oneName "s2" "b"] db' := by
  refine ⟨_, _, rfl, ?_⟩
  decide +kernel

/-- The condition at that queue. -/
theorem conserving_iff_sample :
    (∀ transport out db', dispatchRegistered 1 [oneName "s1" "a", oneName "s2" "b"] (.finite 30)
      transport crowded = .ok (out, db') →
      Conserving 1 [oneName "s1" "a", oneName "s2" "b"] db') ↔
    ((∀ g ∈ byType (availableWorkers crowded [oneName "s1" "a", oneName "s2" "b"]),
      NamesFit g.2) →
      ∀ g ∈ byType (availableWorkers crowded [oneName "s1" "a", oneName "s2" "b"]),
        ¬ PassedOver 1 crowded g.1 g.2) :=
  conserving_iff 1 [oneName "s1" "a", oneName "s2" "b"] (.finite 30) crowded (by decide)
    (by decide)

end WorkConservation
