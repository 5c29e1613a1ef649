import TaskQueQue.SyncQueue
import Mathlib.Data.String.Basic
import Mathlib.Data.List.Chain

/-!
# Worker sessions and capability dispatch

Workers register with a coordinator and advertise the exact task names they
serve. A dispatch takes a snapshot of the live sessions, reads the load of each
from the database, groups the sessions by task type and rounds one transport
plan per type against free slots and advertised names.

The registry is keyed by session id, so two live sessions never share one. The
advertised names are strictly sorted, which is what the binary search of
`supports` relies on; the search is modelled as membership.
-/

namespace WorkerProtocol

open QueueValues QueueTables TaskLife KeyedTable GreedyAssignment SyncQueue

/-- Nanoseconds of the monotonic clock. -/
abbrev Instant := Nat

def maxTaskNamesPerWorker : Nat := 32

def maxTaskNameBytes : Nat := 128

/-- Strictly sorted names: sorted, without duplicates. -/
abbrev TaskNames := { names : List String // names.Pairwise (· < ·) }

structure WorkerSession where
  sessionId : String
  workerId : String
  kind : WorkerKind
  capacity : Int
  taskNames : TaskNames
  capacity_pos : 0 < capacity
deriving DecidableEq

structure WorkerSessionEntry where
  session : WorkerSession
  sessionToken : String
  expiresAt : Instant
deriving DecidableEq

namespace WorkerSessionEntry

def sessionId (entry : WorkerSessionEntry) : String := entry.session.sessionId

end WorkerSessionEntry

structure WorkerRegistration where
  session : WorkerSession
  sessionToken : String
deriving DecidableEq

abbrev Sessions := Table WorkerSessionEntry String WorkerSessionEntry.sessionId

structure WorkerRegistry where
  sessions : Sessions
  ttl : Instant

def isSafeTaskName (value : String) : Bool :=
  decide (value ≠ "") && decide (value.utf8ByteSize ≤ maxTaskNameBytes) &&
    value.toList.all fun c =>
      c.isAlphanum || c == '.' || c == '_' || c == '-' || c == ':'

def noAdjacentDuplicate : List String → Bool
  | a :: b :: rest => decide (a ≠ b) && noAdjacentDuplicate (b :: rest)
  | _ => true

theorem strict_of_sorted {names : List String} (sorted : names.Pairwise (· ≤ ·))
    (distinct : noAdjacentDuplicate names = true) : names.Pairwise (· < ·) := by
  rw [← List.isChain_iff_pairwise]
  induction names with
  | nil => exact .nil
  | cons a rest ih =>
    cases rest with
    | nil => exact .singleton a
    | cons b rest =>
      simp only [noAdjacentDuplicate, Bool.and_eq_true, decide_eq_true_eq] at distinct
      have hab : a ≤ b := (List.pairwise_cons.mp sorted).1 b List.mem_cons_self
      exact .cons_cons (lt_of_le_of_ne hab distinct.1)
        (ih (List.pairwise_cons.mp sorted).2 distinct.2)

def normalizeTaskNames (taskNames : List String) : Except QueueError TaskNames :=
  if taskNames = [] ∨ maxTaskNamesPerWorker < taskNames.length then
    .error (.invalidState ("worker must advertise between 1 and " ++
      toString maxTaskNamesPerWorker ++ " exact task names"))
  else if !taskNames.all isSafeTaskName then
    .error (.invalidState "worker task names must be safe 1-128 character identifiers")
  else
    if distinct : noAdjacentDuplicate (taskNames.insertionSort (· ≤ ·)) = true then
      .ok ⟨taskNames.insertionSort (· ≤ ·),
        strict_of_sorted (List.pairwise_insertionSort (· ≤ ·) taskNames) distinct⟩
    else .error (.invalidState "worker task names must not contain duplicates")

/-- Registration drops expired entries and the worker's own older session, then
draws session ids until one is unused; `candidates` are the draws. When all of
them are in use the call has not returned. -/
def registerAt (registry : WorkerRegistry) (workerId : String) (kind : WorkerKind) (capacity : Int)
    (taskNames : List String) (now : Instant) (candidates : List String) (sessionToken : String) :
    Except QueueError (Option WorkerRegistration × WorkerRegistry) :=
  if workerId = "" then .error (.invalidState "worker id must not be empty")
  else if hcapacity : capacity ≤ 0 then
    .error (.invalidState "worker capacity must be greater than zero")
  else
    match normalizeTaskNames taskNames with
    | .error err => .error err
    | .ok taskNames =>
      let retained := registry.sessions.delete fun entry =>
        !(decide (now < entry.expiresAt) && decide (entry.session.workerId ≠ workerId))
      match candidates.find? fun candidate => (retained.find? candidate).isNone with
      | none => .ok (none, registry)
      | some sessionId =>
        let session : WorkerSession :=
          ⟨sessionId, workerId, kind, capacity, taskNames, not_le.mp hcapacity⟩
        match retained.insert? ⟨session, sessionToken, now + registry.ttl⟩ with
        | none => .ok (none, registry)
        | some sessions =>
          .ok (some { session, sessionToken }, { registry with sessions })

/-- The token comparison runs over all bytes; its answer is equality. -/
def authenticateAndTouchAt (registry : WorkerRegistry) (sessionId sessionToken : String)
    (now : Instant) : Option WorkerSession × WorkerRegistry :=
  match registry.sessions.find? sessionId with
  | none => (none, registry)
  | some entry =>
    if entry.expiresAt ≤ now then
      (none, { registry with
        sessions := registry.sessions.delete fun e => decide (e.sessionId = sessionId) })
    else if entry.sessionToken ≠ sessionToken then (none, registry)
    else
      (some entry.session, { registry with
        sessions := registry.sessions.update (fun e => decide (e.sessionId = sessionId))
          (fun e => { e with expiresAt := now + registry.ttl }) fun _ => rfl })

def activeSessionsAt (registry : WorkerRegistry) (now : Instant) :
    List WorkerSession × WorkerRegistry :=
  let retained := registry.sessions.delete fun entry => !decide (now < entry.expiresAt)
  (retained.rows.map WorkerSessionEntry.session, { registry with sessions := retained })

/-! ### Dispatch -/

structure WorkerAssignment where
  taskId : Int
  sessionId : String
  taskName : String
  taskType : String
deriving DecidableEq, Repr

structure DispatchWorker where
  sessionId : String
  availableSlots : Int
  taskNames : TaskNames
deriving DecidableEq

def DispatchWorker.supports (worker : DispatchWorker) (taskName : String) : Bool :=
  worker.taskNames.1.contains taskName

/-- Tasks a session holds: the count the load query groups by owner. -/
def load (db : Db) (sessionId : String) : Nat :=
  db.tasks.count fun t => t.statusIn ["ASSIGNED", "RUNNING"] && decide (t.lockedBy = some sessionId)

/-- The worker with most room left among the compatible ones, the last of equals. -/
def roomiest (compatible : Array2 Bool) (s : State Nat Nat) (task : Nat) : Option Nat :=
  let best := (List.range compatible.cols).foldl (fun (best : Option (Nat × Nat)) worker =>
    if !compatible.entry task worker || s.remaining worker = 0 then best
    else
      match best with
      | none => some (s.remaining worker, worker)
      | some current =>
        if current.1 < s.remaining worker ∨
            (current.1 = s.remaining worker ∧ current.2 < worker) then
          some (s.remaining worker, worker)
        else best) none
  best.map Prod.snd

def compatibleCount (compatible : Array2 Bool) (task : Nat) : Nat :=
  ((List.range compatible.cols).filter fun worker => compatible.entry task worker).length

/-- `sort_by_key` on (number of compatible workers, index). -/
def scarcerBefore (compatible : Array2 Bool) (left right : Nat) : Prop :=
  compatibleCount compatible left < compatibleCount compatible right ∨
    (compatibleCount compatible left = compatibleCount compatible right ∧ left ≤ right)

instance (compatible : Array2 Bool) : DecidableRel (scarcerBefore compatible) := fun _ _ =>
  inferInstanceAs (Decidable (_ ∨ _))

/-- The rounding: a greedy pass over the finite compatible entries, then the
tasks left over, scarcest first. -/
def rounding (plan : Array2 F64) (capacities : List Int) (compatible : Array2 Bool) :
    State Nat Nat :=
  let first := greedy (start (slots capacities)) (rankedCandidates plan fun i j =>
    compatible.entry i j && (plan.entry i j).isFinite && 0 < slots capacities j)
  let unresolved := ((List.range plan.rows).filter fun i =>
    (first.assignment i).isNone).insertionSort (scarcerBefore compatible)
  fill (roomiest compatible) first unresolved

def roundTransportPlanBounded (plan : Array2 F64) (capacities : List Int)
    (compatible : Array2 Bool) : List (Option Nat) :=
  if compatible.rows ≠ plan.rows ∨ compatible.cols ≠ plan.cols ∨
      capacities.length ≠ plan.cols then
    List.replicate plan.rows none
  else (List.range plan.rows).map (rounding plan capacities compatible).assignment

/-- The guard of the per-task UPDATE. -/
def assignable (task t : Task) : Bool :=
  decide (t.id = task.id) && decide (t.status = "PENDING") &&
    decide (t.taskType = task.taskType) && decide (t.taskName = task.taskName)

def assignRegistered (workers : List DispatchWorker) (leaseUntil now : Seconds) :
    List (Task × Option Nat) → Db → List WorkerAssignment × Db
  | [], db => ([], db)
  | (task, choice) :: rest, db =>
    match (choice.bind fun j => workers[j]?).filter fun w => w.supports task.taskName with
    | none => assignRegistered workers leaseUntil now rest db
    | some worker =>
      let affected := db.tasks.count (assignable task)
      let later := assignRegistered workers leaseUntil now rest
        (db.updateTasks (assignable task) (assignTo worker.sessionId leaseUntil now)
          (assignTo_id worker.sessionId leaseUntil now))
      ((if affected = 1 then
          [{ taskId := task.id, sessionId := worker.sessionId, taskName := task.taskName
             taskType := task.taskType }]
        else []) ++ later.1, later.2)

/-- The most bound parameters a statement may have. -/
def maxVariableNumber : Nat := 32766

def compatibleAt (tasks : List Task) (workers : List DispatchWorker) (i j : Nat) : Bool :=
  match tasks[i]?, workers[j]? with
  | some task, some worker => worker.supports task.taskName
  | _, _ => false

def dispatchGroup (now leaseUntil : Seconds) (transport : Nat → Nat → F64) (taskType : String)
    (workers : List DispatchWorker) : Transaction (List WorkerAssignment) := fun db =>
  let totalAvailable := totalSlots (workers.map DispatchWorker.availableSlots)
  let supportedNames := (workers.flatMap fun w => w.taskNames.1).dedup
  if totalAvailable ≤ 0 ∨ supportedNames = [] then .ok ([], db)
  else if maxVariableNumber < supportedNames.length + 3 then .error (.sqlite .tooManyVariables)
  else
    let tasks := runnable db now (fun t =>
      decide (t.taskType = taskType) && supportedNames.contains t.taskName) totalAvailable
    let workers := workers.filter fun w => tasks.any fun t => w.supports t.taskName
    if tasks = [] ∨ workers = [] then .ok ([], db)
    else
      let plan : Array2 F64 := ⟨tasks.length, workers.length, transport⟩
      let compatible : Array2 Bool := ⟨tasks.length, workers.length, compatibleAt tasks workers⟩
      let rounded := roundTransportPlanBounded plan (workers.map DispatchWorker.availableSlots)
        compatible
      .ok (assignRegistered workers leaseUntil now (tasks.zip rounded) db)

def dispatchGroups (now leaseUntil : Seconds) (transport : String → Nat → Nat → F64) :
    List (String × List DispatchWorker) → Transaction (List WorkerAssignment)
  | [], db => .ok ([], db)
  | (taskType, workers) :: rest, db =>
    match dispatchGroup now leaseUntil (transport taskType) taskType workers db with
    | .error err => .error err
    | .ok (assignments, db₁) =>
      match dispatchGroups now leaseUntil transport rest db₁ with
      | .error err => .error err
      | .ok (more, db₂) => .ok (assignments ++ more, db₂)

/-- The workers with free slots, each with its task type. -/
def availableWorkers (db : Db) (sessions : List WorkerSession) : List (String × DispatchWorker) :=
  sessions.filterMap fun session =>
    let availableSlots := saturatingSub session.capacity (load db session.sessionId)
    if availableSlots ≤ 0 then none
    else some (session.kind.toDb, ⟨session.sessionId, availableSlots, session.taskNames⟩)

/-- The workers by task type, the types in ascending order. -/
def byType (workers : List (String × DispatchWorker)) : List (String × List DispatchWorker) :=
  (((workers.map Prod.fst).dedup).insertionSort (· ≤ ·)).map fun taskType =>
    (taskType, (workers.filter fun w => decide (w.1 = taskType)).map Prod.snd)

def dispatchRegistered (now : Seconds) (sessions : List WorkerSession) (leaseSec : F64)
    (transport : String → Nat → Nat → F64) : Transaction (List WorkerAssignment) := fun db =>
  dispatchGroups now (now + leaseSec.positiveOr 30) transport
    (byType (availableWorkers db sessions)) db

/-! ### What a dispatch writes -/

/-- The rows that changed are exactly the pending rows of the assignments, each
now assigned to its session; no task is assigned twice. -/
structure Assigns (ok : WorkerAssignment → Prop) (db db' : Db) (out : List WorkerAssignment) :
    Prop where
  row : ∀ id, (db'.tasks.find? id = db.tasks.find? id ∧ ∀ a ∈ out, a.taskId ≠ id) ∨
    ∃ a ∈ out, a.taskId = id ∧ ∃ t leaseUntil now, db.tasks.find? id = some t ∧
      t.status = "PENDING" ∧ t.taskName = a.taskName ∧ t.taskType = a.taskType ∧
      db'.tasks.find? id = some (assignTo a.sessionId leaseUntil now t)
  distinct : (out.map WorkerAssignment.taskId).Nodup
  sound : ∀ a ∈ out, ok a
  fences : db'.fences = db.fences
  results : db'.results = db.results
  idempotency : db'.idempotency = db.idempotency
  seq : db'.taskSeq = db.taskSeq

theorem Assigns.nil {ok : WorkerAssignment → Prop} (db : Db) : Assigns ok db db [] :=
  ⟨fun _ => Or.inl ⟨rfl, by simp⟩, List.nodup_nil, by simp, rfl, rfl, rfl, rfl⟩

theorem Assigns.mono {ok ok' : WorkerAssignment → Prop} {db db' : Db}
    {out : List WorkerAssignment} (h : Assigns ok db db' out) (weaker : ∀ a, ok a → ok' a) :
    Assigns ok' db db' out :=
  { h with sound := fun a ha => weaker a (h.sound a ha) }

/-- An assigned row is pending no longer, so two batches never share a task. -/
theorem Assigns.append {ok : WorkerAssignment → Prop} {db₁ db₂ db₃ : Db}
    {out more : List WorkerAssignment} (h : Assigns ok db₁ db₂ out)
    (h' : Assigns ok db₂ db₃ more) : Assigns ok db₁ db₃ (out ++ more) := by
  have once : ∀ a ∈ out, ∀ b ∈ more, a.taskId ≠ b.taskId := by
    intro a ha b hb hab
    rcases h'.row b.taskId with ⟨_, absent⟩ | ⟨_, _, _, t, _, _, hrow, pending, _⟩
    · exact absent b hb rfl
    rcases h.row b.taskId with ⟨_, absent⟩ | ⟨_, _, _, _, _, _, _, _, _, _, hnew⟩
    · exact absent a ha hab
    rw [hrow, Option.some.injEq] at hnew
    simp [hnew, assignTo] at pending
  refine ⟨fun id => ?_, ?_, ?_, h'.fences.trans h.fences, h'.results.trans h.results,
    h'.idempotency.trans h.idempotency, h'.seq.trans h.seq⟩
  · rcases h'.row id with ⟨same, absent'⟩ | ⟨b, hb, hid, t, leaseUntil, now, hrow, pending, rest⟩
    · rcases h.row id with ⟨same₁, absent⟩ | ⟨a, ha, hid, t, leaseUntil, now, hrow, pending, hn, ht,
        hnew⟩
      · refine Or.inl ⟨same.trans same₁, fun a ha => ?_⟩
        exact (List.mem_append.mp ha).elim (absent a) (absent' a)
      · exact Or.inr ⟨a, List.mem_append_left _ ha, hid, t, leaseUntil, now, hrow, pending, hn, ht,
          same.trans hnew⟩
    · rcases h.row id with ⟨same₁, _⟩ | ⟨a, ha, haid, _⟩
      · exact Or.inr ⟨b, List.mem_append_right _ hb, hid, t, leaseUntil, now, same₁ ▸ hrow, pending,
          rest⟩
      · exact (once a ha b hb (haid.trans hid.symm)).elim
  · rw [List.map_append]
    refine List.nodup_append.mpr ⟨h.distinct, h'.distinct, ?_⟩
    intro x hx y hy
    obtain ⟨a, ha, rfl⟩ := List.mem_map.mp hx
    obtain ⟨b, hb, rfl⟩ := List.mem_map.mp hy
    exact once a ha b hb
  · intro a ha
    exact (List.mem_append.mp ha).elim (h.sound a) (h'.sound a)

theorem Assigns.onlyAssigns {ok : WorkerAssignment → Prop} {db db' : Db}
    {out : List WorkerAssignment} (h : Assigns ok db db' out) : OnlyAssigns db db' := by
  refine ⟨fun id => ?_, h.fences, h.results, h.idempotency, h.seq⟩
  rcases h.row id with ⟨same, _⟩ | ⟨a, _, _, t, leaseUntil, now, hrow, pending, _, _, hnew⟩
  · exact Or.inl same
  · exact Or.inr ⟨t, a.sessionId, leaseUntil, now, hrow, pending, hnew⟩

theorem assignable_named {task t : Task} (h : assignable task t = true) :
    t.id = task.id ∧ t.status = "PENDING" ∧ t.taskType = task.taskType ∧
      t.taskName = task.taskName := by
  simp only [assignable, Bool.and_eq_true, decide_eq_true_eq] at h
  exact ⟨h.1.1.1, h.1.1.2, h.1.2, h.2⟩

/-- The guarded UPDATE of one task, and the assignment it reports. -/
theorem assignOne_assigns {ok : WorkerAssignment → Prop} {db : Db} {task : Task}
    {worker : DispatchWorker} (leaseUntil now : Seconds)
    (sound : ok ⟨task.id, worker.sessionId, task.taskName, task.taskType⟩) :
    Assigns ok db (db.updateTasks (assignable task) (assignTo worker.sessionId leaseUntil now)
        (assignTo_id worker.sessionId leaseUntil now))
      (if db.tasks.count (assignable task) = 1 then
        [⟨task.id, worker.sessionId, task.taskName, task.taskType⟩] else []) := by
  have hcount := db.tasks.count_key fun t ht => (assignable_named ht : t.id = task.id ∧ _).1
  by_cases hany : (db.tasks.find? task.id).any (assignable task)
  · rw [if_pos hany] at hcount
    rw [if_pos hcount]
    obtain ⟨t, row, hguard⟩ := (Option.any_eq_true _ _).mp hany
    obtain ⟨_, pending, htype, hname⟩ := assignable_named hguard
    refine ⟨fun id => ?_, by simp, by simpa using sound, rfl, rfl, rfl, rfl⟩
    by_cases hid : id = task.id
    · subst hid
      refine Or.inr ⟨_, List.mem_singleton_self _, rfl, t, leaseUntil, now, row, pending, hname,
        htype, ?_⟩
      simp [row, hguard]
    · refine Or.inl ⟨?_, by simpa using Ne.symm hid⟩
      exact congrArg TaskView.task
        (view_updateTasks_other (fun t ht => (assignable_named ht).1) hid)
  · rw [if_neg hany] at hcount
    rw [if_neg (by omega), Db.updateTasks_eq_self hcount]
    exact .nil db

theorem assignRegistered_assigns {ok : WorkerAssignment → Prop} {workers : List DispatchWorker}
    {leaseUntil now : Seconds} {work : List (Task × Option Nat)} {db : Db}
    (sound : ∀ x ∈ work, ∀ w ∈ workers, w.supports x.1.taskName →
      ok ⟨x.1.id, w.sessionId, x.1.taskName, x.1.taskType⟩) :
    Assigns ok db (assignRegistered workers leaseUntil now work db).2
      (assignRegistered workers leaseUntil now work db).1 := by
  induction work generalizing db with
  | nil => exact .nil db
  | cons x rest ih =>
    obtain ⟨task, choice⟩ := x
    have later := fun x hx => sound x (List.mem_cons_of_mem _ hx)
    unfold assignRegistered
    split
    · exact ih later
    · rename_i worker hchoice
      obtain ⟨hbind, hsupports⟩ := Option.filter_eq_some_iff.mp hchoice
      obtain ⟨j, _, hj⟩ := Option.bind_eq_some_iff.mp hbind
      have hworker : worker ∈ workers := List.mem_of_getElem? hj
      have supported := sound _ List.mem_cons_self worker hworker hsupports
      exact (assignOne_assigns leaseUntil now supported).append (ih later)

/-- An assignment goes to a worker of its type's group, advertising its name. -/
def FromGroups (groups : List (String × List DispatchWorker)) (a : WorkerAssignment) : Prop :=
  ∃ g ∈ groups, a.taskType = g.1 ∧
    ∃ w ∈ g.2, a.sessionId = w.sessionId ∧ a.taskName ∈ w.taskNames.1

theorem dispatchGroup_assigns {now leaseUntil : Seconds} {transport : Nat → Nat → F64}
    {taskType : String} {workers : List DispatchWorker} {db db' : Db}
    {out : List WorkerAssignment}
    (h : dispatchGroup now leaseUntil transport taskType workers db = .ok (out, db')) :
    Assigns (FromGroups [(taskType, workers)]) db db' out := by
  unfold dispatchGroup at h
  simp only at h
  split at h
  · cases h
    exact .nil _
  split at h
  · cases h
  split at h
  · cases h
    exact .nil _
  · simp only [Except.ok.injEq, Prod.ext_iff] at h
    obtain ⟨rfl, rfl⟩ := h
    apply assignRegistered_assigns
    intro x hx w hw supports
    obtain ⟨_, _, _, wanted⟩ := mem_runnable (List.of_mem_zip hx).1
    simp only [Bool.and_eq_true, decide_eq_true_eq] at wanted
    refine ⟨_, List.mem_singleton_self _, wanted.1, w, (List.mem_filter.mp hw).1, rfl, ?_⟩
    simpa [DispatchWorker.supports] using supports

theorem dispatchGroups_assigns {now leaseUntil : Seconds} {transport : String → Nat → Nat → F64}
    {groups : List (String × List DispatchWorker)} {db db' : Db} {out : List WorkerAssignment}
    (h : dispatchGroups now leaseUntil transport groups db = .ok (out, db')) :
    Assigns (FromGroups groups) db db' out := by
  induction groups generalizing db out with
  | nil =>
    cases h
    exact .nil _
  | cons g rest ih =>
    obtain ⟨taskType, workers⟩ := g
    unfold dispatchGroups at h
    split at h
    · cases h
    · rename_i assignments db₁ hgroup
      split at h
      · cases h
      · rename_i more _ hrest
        cases h
        have first : Assigns (FromGroups ((taskType, workers) :: rest)) db db₁ assignments :=
          (dispatchGroup_assigns hgroup).mono fun a ⟨g, hg, ha⟩ =>
            ⟨g, List.mem_singleton.mp hg ▸ List.mem_cons_self, ha⟩
        have later : Assigns (FromGroups ((taskType, workers) :: rest)) db₁ db' more :=
          (ih hrest).mono fun a ⟨g, hg, ha⟩ => ⟨g, List.mem_cons_of_mem _ hg, ha⟩
        exact first.append later

/-- What the claimed capability of an assignment rests on: a session of the
snapshot of the task's type, advertising the task's name. -/
def Advertised (sessions : List WorkerSession) (a : WorkerAssignment) : Prop :=
  ∃ session ∈ sessions, a.sessionId = session.sessionId ∧ a.taskType = session.kind.toDb ∧
    a.taskName ∈ session.taskNames.1

theorem mem_availableWorkers {db : Db} {sessions : List WorkerSession}
    {x : String × DispatchWorker} (h : x ∈ availableWorkers db sessions) :
    ∃ session ∈ sessions, x = (session.kind.toDb, ⟨session.sessionId,
      saturatingSub session.capacity (load db session.sessionId), session.taskNames⟩) := by
  obtain ⟨session, hsession, hx⟩ := List.mem_filterMap.mp h
  refine ⟨session, hsession, ?_⟩
  simp only at hx
  split at hx
  · cases hx
  · exact (Option.some.inj hx).symm

theorem mem_byType {workers : List (String × DispatchWorker)} {g : String × List DispatchWorker}
    (h : g ∈ byType workers) :
    g.2 = (workers.filter fun w => decide (w.1 = g.1)).map Prod.snd := by
  obtain ⟨taskType, _, rfl⟩ := List.mem_map.mp h
  rfl

theorem dispatchRegistered_assigns {now : Seconds} {sessions : List WorkerSession} {leaseSec : F64}
    {transport : String → Nat → Nat → F64} {db db' : Db} {out : List WorkerAssignment}
    (h : dispatchRegistered now sessions leaseSec transport db = .ok (out, db')) :
    Assigns (Advertised sessions) db db' out := by
  refine (dispatchGroups_assigns h).mono ?_
  rintro a ⟨g, hg, htype, w, hw, hid, hname⟩
  rw [mem_byType hg] at hw
  obtain ⟨x, hx, rfl⟩ := List.mem_map.mp hw
  obtain ⟨hx, hkind⟩ := List.mem_filter.mp hx
  obtain ⟨session, hsession, rfl⟩ := mem_availableWorkers hx
  exact ⟨session, hsession, hid, htype.trans (of_decide_eq_true hkind).symm, hname⟩

end WorkerProtocol
