import TaskQueQue.TerminalStates

/-!
# Idempotent bounded admission

A key row, once inserted, is kept by every operation but pruning, so between two
prunings a key names one task. The number of active tasks rises only when a task
is created, and a bounded admission creates one only below its limit.
-/

namespace BoundedAdmission

open QueueValues QueueTables TaskLife KeyedTable Idempotency QueueRuns QueueInvariants

/-! ### Keys -/

/-- Only pruning takes an idempotency row away. -/
theorem move_admissions {id seq seq' : Int} {v v' : TaskView} {c : Change} {r : IdempotencyRow}
    (move : Move id seq seq' v c v') (kept : c ≠ .pruned) (h : r ∈ v.admissions) :
    r ∈ v'.admissions := by
  cases move with
  | create => cases h
  | prune => exact (kept rfl).elim
  | stay | assign | release | claim | extend | complete | project | retry | exhaust | cancel =>
    exact h

def isPrune : Op → Bool
  | .pruneToMax _ => true
  | _ => false

theorem step_keeps_key {db : Db} (fresh : Fresh db) {op : Op} (noPrune : isPrune op = false)
    {key : String} {r : IdempotencyRow} (h : db.idempotency.find? key = some r) :
    (step op db).idempotency.find? key = some r := by
  obtain ⟨hr, hkey⟩ := Table.find?_eq_some_iff.mp h
  have move := (exec_advances fresh op).move r.taskId
  have kept : change r.taskId op db ≠ .pruned := by
    intro hc
    have behind := noted_of_change hc (by simp)
    generalize (exec op db).1 = reply at behind
    cases behind with
    | pruned => cases noPrune
  have here : r ∈ (view db r.taskId).admissions :=
    List.mem_filter.mpr ⟨hr, decide_eq_true rfl⟩
  have there := (List.mem_filter.mp (move_admissions move kept here)).1
  exact Table.find?_eq_some_iff.mpr ⟨there, hkey⟩

theorem run_keeps_key {db : Db} (fresh : Fresh db) {later : List Op}
    (noPrune : ∀ op ∈ later, isPrune op = false) {key : String} {r : IdempotencyRow}
    (h : db.idempotency.find? key = some r) :
    (Histories.run step db later).idempotency.find? key = some r := by
  have preserved : ∀ op db, isPrune op = false →
      (Fresh db ∧ db.idempotency.find? key = some r) →
        (Fresh (step op db) ∧ (step op db).idempotency.find? key = some r) :=
    fun op db noPrune held => ⟨step_fresh op db held.1, step_keeps_key held.1 noPrune held.2⟩
  exact (Histories.run_preserves_allowed preserved
    (Histories.allSteps_of_mem noPrune) ⟨fresh, h⟩).2

/-- One admission request, apart from its key and fingerprint. -/
structure Admission where
  now : Seconds
  taskName : String
  taskType : String
  payload : String
  priority : Int
  maxRetries : Int
  maxActiveTasks : Int

def Admission.op (a : Admission) (key fingerprint : String) : Op :=
  .enqueueBounded a.now key fingerprint a.taskName a.taskType a.payload a.priority a.maxRetries
    a.maxActiveTasks

/-- A known key decides the answer before the limit is looked at. -/
theorem known_key_answer {db : Db} {key : String} {r : IdempotencyRow}
    (h : db.idempotency.find? key = some r) (a : Admission) (positive : 0 < a.maxActiveTasks)
    (fingerprint : String) : exec (a.op key fingerprint) db =
      (.admission (if r.requestFingerprint = fingerprint then .replayed r.taskId else .conflict),
        db) := by
  by_cases same : r.requestFingerprint = fingerprint
  · simp only [exec, Admission.op, answer, executeWithRetry, enqueueBounded,
      if_neg (not_le.mpr positive), h, if_pos same]
  · simp only [exec, Admission.op, answer, executeWithRetry, enqueueBounded,
      if_neg (not_le.mpr positive), h, if_neg same]

/-- An answer naming a task leaves the key bound to that task and fingerprint. -/
theorem key_of_admitted {db : Db} {key fingerprint : String} {a : Admission} {taskId : Int}
    (h : (exec (a.op key fingerprint) db).1 = .admission (.created taskId) ∨
      (exec (a.op key fingerprint) db).1 = .admission (.replayed taskId)) :
    ∃ r, (step (a.op key fingerprint) db).idempotency.find? key = some r ∧
      r.requestFingerprint = fingerprint ∧ r.taskId = taskId := by
  rcases answer_cases .admission (enqueueBounded a.now key fingerprint a.taskName a.taskType
    a.payload a.priority a.maxRetries a.maxActiveTasks) db with
    ⟨reply, db', hop, hans⟩ | ⟨err, _, hans⟩
  · have hexec : exec (a.op key fingerprint) db = (.admission reply, db') := hans
    simp only [step, hexec, Reply.admission.injEq] at h ⊢
    rcases enqueueBounded_cases hop with
      ⟨rfl, not_created⟩ | ⟨id, rfl, _, _, _, tasks, idempotency, _, hkey, rfl⟩
    · have hreply : reply = .replayed taskId := h.resolve_left (not_created taskId)
      subst hreply
      unfold enqueueBounded at hop
      split at hop
      · cases hop
      split at hop
      · rename_i existing hfound
        split at hop
        · rename_i same
          cases hop
          exact ⟨existing, hfound, same, rfl⟩
        · cases hop
      · split at hop
        · cases hop
        split at hop
        · cases hop
        split at hop
        · cases hop
        · cases hop
    · have hid : id = taskId := by simpa using h
      refine ⟨⟨key, fingerprint, id, a.now⟩, ?_, rfl, hid⟩
      exact (Table.find?_of_insert? hkey key).trans (if_pos rfl)
  · have hexec : exec (a.op key fingerprint) db = (.failed err, db) := hans
    simp [hexec] at h

/-! ### Active tasks -/

def activeTask (t : Task) : Bool := t.statusIn ["PENDING", "ASSIGNED", "RUNNING"]

theorem activeTask_of_status {t : Task} {status : String} (h : t.status = status)
    (live : ["PENDING", "ASSIGNED", "RUNNING"].contains status = true) : activeTask t := by
  rw [activeTask, Task.statusIn, h, live]

/-- No move brings a finished task back to life. -/
theorem move_active {id seq seq' : Int} {v v' : TaskView} {c : Change} {t' : Task}
    (move : Move id seq seq' v c v') (row' : v'.task = some t') (active : activeTask t') :
    c = .created ∨ ∃ t, v.task = some t ∧ activeTask t := by
  cases move with
  | stay => exact Or.inr ⟨t', row', active⟩
  | create => exact Or.inl rfl
  | assign _ _ _ row pending => exact Or.inr ⟨_, row, activeTask_of_status pending (by decide)⟩
  | release _ row leased =>
    refine Or.inr ⟨_, row, ?_⟩
    simp only [activeTask, Task.statusIn, List.contains_cons, Bool.or_eq_true] at leased ⊢
    exact Or.inr leased
  | claim _ row assigned => exact Or.inr ⟨_, row, activeTask_of_status assigned (by decide)⟩
  | extend _ holds => exact Or.inr ⟨_, holds.row, activeTask_of_status holds.running (by decide)⟩
  | complete holds => exact Or.inr ⟨_, holds.row, activeTask_of_status holds.running (by decide)⟩
  | project holds => exact Or.inr ⟨_, holds.row, activeTask_of_status holds.running (by decide)⟩
  | retry _ _ holds =>
    exact Or.inr ⟨_, holds.row, activeTask_of_status holds.running (by decide)⟩
  | exhaust _ holds =>
    exact Or.inr ⟨_, holds.row, activeTask_of_status holds.running (by decide)⟩
  | cancel _ row live => exact Or.inr ⟨_, row, live⟩
  | prune => cases row'

theorem activeTasks_le {db : Db} (fresh : Fresh db) (op : Op) {created : List Int}
    (named : ∀ id, change id op db = .created → id ∈ created) :
    activeTasks (step op db) ≤ activeTasks db + created.length := by
  refine Table.count_le_add_of_keys fun id t' row' active => ?_
  rcases move_active ((exec_advances fresh op).move id) row' active with hc | ⟨t, row, live⟩
  · exact Or.inr (named id hc)
  · exact Or.inl ⟨t, row, live⟩

/-- An operation that admits tasks only through the bounded path, with this limit. -/
def LimitedTo (limit : Int) : Op → Prop
  | .enqueue .. => False
  | .enqueueBounded _ _ _ _ _ _ _ _ maxActiveTasks => maxActiveTasks = limit
  | _ => True

theorem step_active_bounded {limit : Int} {op : Op} {db : Db} (limited : LimitedTo limit op)
    (fresh : Fresh db) (bounded : (activeTasks db : Int) ≤ max limit 0) :
    (activeTasks (step op db) : Int) ≤ max limit 0 := by
  by_cases hcreated : ∃ id, change id op db = .created
  · obtain ⟨id, hc⟩ := hcreated
    have behind := noted_of_change hc (by simp)
    generalize hreply : (exec op db).1 = reply at behind
    cases behind with
    | created => exact limited.elim
    | admitted now key fingerprint taskName taskType payload priority maxRetries limit' =>
      have hlimit : limit' = limit := limited
      subst hlimit
      rcases answer_cases .admission (enqueueBounded now key fingerprint taskName taskType payload
        priority maxRetries limit') db with ⟨value, db', hop, hans⟩ | ⟨err, _, hans⟩
      · have hexec : exec (.enqueueBounded now key fingerprint taskName taskType payload priority
            maxRetries limit') db = (.admission value, db') := hans
        rw [hexec] at hreply
        rcases enqueueBounded_cases hop with
          ⟨_, not_created⟩ | ⟨id', rfl, _, room, _, _⟩
        · exact (not_created id (Reply.admission.inj hreply)).elim
        · have only : ∀ k, change k (.enqueueBounded now key fingerprint taskName taskType payload
              priority maxRetries limit') db = .created → k ∈ [id'] := by
            intro k hk
            simp only [change, noted, hexec, admissionChange, SyncQueue.createdChange] at hk
            split at hk
            · rename_i named
              exact List.mem_singleton.mpr named.symm
            · cases hk
          have risen := activeTasks_le fresh _ only
          simp only [List.length_singleton] at risen
          omega
      · have hexec : exec (.enqueueBounded now key fingerprint taskName taskType payload priority
            maxRetries limit') db = (.failed err, db) := hans
        rw [hexec] at hreply
        cases hreply
  · have never : ∀ id, change id op db = .created → id ∈ ([] : List Int) := fun id hc =>
      (hcreated ⟨id, hc⟩).elim
    have risen := activeTasks_le fresh op never
    simp only [List.length_nil] at risen
    omega

theorem run_active_bounded {limit : Int} {ops : List Op} (limited : ∀ op ∈ ops, LimitedTo limit op) :
    (activeTasks (run ops) : Int) ≤ max limit 0 := by
  have preserved : ∀ op db, LimitedTo limit op →
      (Fresh db ∧ (activeTasks db : Int) ≤ max limit 0) →
        (Fresh (step op db) ∧ (activeTasks (step op db) : Int) ≤ max limit 0) :=
    fun op db limited held =>
      ⟨step_fresh op db held.1, step_active_bounded limited held.1 held.2⟩
  have empty_bounded : (activeTasks Db.empty : Int) ≤ max limit 0 := le_max_right _ _
  exact (Histories.run_preserves_allowed preserved
    (Histories.allSteps_of_mem limited) ⟨empty_fresh, empty_bounded⟩).2

/-! ### The admission contract -/

/-- Whether this step creates a task under the key. -/
def createsUnder (key : String) (op : Op) (db : Db) : Bool :=
  match op with
  | .enqueueBounded _ key' _ _ _ _ _ _ _ =>
    decide (key' = key) && (match (exec op db).1 with
      | .admission (.created _) => true
      | _ => false)
  | _ => false

theorem admission_of_createsUnder {key : String} {op : Op} {db : Db}
    (h : createsUnder key op db = true) : ∃ (a : Admission) (fingerprint : String) (taskId : Int),
      op = a.op key fingerprint ∧ (exec op db).1 = .admission (.created taskId) := by
  cases op with
  | enqueueBounded now key' fingerprint taskName taskType payload priority maxRetries limit =>
    simp only [createsUnder, Bool.and_eq_true, decide_eq_true_eq] at h
    obtain ⟨rfl, created⟩ := h
    split at created
    · rename_i taskId hreply
      exact ⟨⟨now, taskName, taskType, payload, priority, maxRetries, limit⟩, fingerprint, taskId,
        rfl, hreply⟩
    · cases created
  | _ => cases h

theorem known_key_creates_nothing {db : Db} {key : String} {r : IdempotencyRow}
    (h : db.idempotency.find? key = some r) (op : Op) : createsUnder key op db = false := by
  by_contra hcreates
  obtain ⟨a, fingerprint, taskId, rfl, hreply⟩ :=
    admission_of_createsUnder (by simpa using hcreates)
  by_cases positive : 0 < a.maxActiveTasks
  · rw [known_key_answer h a positive] at hreply
    split at hreply <;> cases hreply
  · simp [exec, Admission.op, answer, executeWithRetry, enqueueBounded,
      not_lt.mp positive] at hreply

/-- Tasks created under a key along a stretch of operations. -/
def createdUnder (key : String) (db : Db) (ops : List Op) : Nat :=
  (Histories.notes step (createsUnder key) db ops).count true

theorem createdUnder_known {db : Db} (fresh : Fresh db) {key : String} {r : IdempotencyRow}
    (h : db.idempotency.find? key = some r) {ops : List Op}
    (noPrune : ∀ op ∈ ops, isPrune op = false) : createdUnder key db ops = 0 := by
  induction ops generalizing db with
  | nil => rfl
  | cons op ops ih =>
    have later := ih (step_fresh op db fresh)
      (step_keeps_key fresh (noPrune op List.mem_cons_self) h)
      fun op' hop' => noPrune op' (List.mem_cons_of_mem _ hop')
    simpa [createdUnder, known_key_creates_nothing h op] using later

theorem createdUnder_le_one {db : Db} (fresh : Fresh db) (key : String) {ops : List Op}
    (noPrune : ∀ op ∈ ops, isPrune op = false) : createdUnder key db ops ≤ 1 := by
  induction ops generalizing db with
  | nil => exact Nat.zero_le _
  | cons op ops ih =>
    have later : ∀ op' ∈ ops, isPrune op' = false := fun op' hop' =>
      noPrune op' (List.mem_cons_of_mem _ hop')
    by_cases hcreates : createsUnder key op db = true
    · obtain ⟨a, fingerprint, taskId, rfl, hreply⟩ := admission_of_createsUnder hcreates
      obtain ⟨r, held, _⟩ := key_of_admitted (Or.inl hreply)
      have rest := createdUnder_known (step_fresh _ db fresh) held later
      simp only [createdUnder] at rest
      simp [createdUnder, hcreates, rest]
    · simpa [createdUnder, hcreates] using ih (step_fresh op db fresh) later

/-- Any answer but a creation changes nothing. -/
theorem unchanged_unless_created {db : Db} {key fingerprint : String} {a : Admission}
    (h : ∀ taskId, (exec (a.op key fingerprint) db).1 ≠ .admission (.created taskId)) :
    step (a.op key fingerprint) db = db := by
  rcases answer_cases .admission (enqueueBounded a.now key fingerprint a.taskName a.taskType
    a.payload a.priority a.maxRetries a.maxActiveTasks) db with
    ⟨reply, db', hop, hans⟩ | ⟨err, _, hans⟩
  · have hexec : exec (a.op key fingerprint) db = (.admission reply, db') := hans
    rw [step, hexec]
    rcases enqueueBounded_cases hop with ⟨same, _⟩ | ⟨taskId, rfl, _⟩
    · exact same
    · exact (h taskId (by rw [hexec])).elim
  · have hexec : exec (a.op key fingerprint) db = (.failed err, db) := hans
    rw [step, hexec]

/-- Idempotent bounded admission, from any reachable database. -/
theorem idempotent_bounded_admission (ops : List Op) :
    (∀ key segment, (∀ op ∈ segment, isPrune op = false) →
      createdUnder key (run ops) segment ≤ 1 ∧
      ∀ before after a fingerprint taskId, segment = before ++ Admission.op a key fingerprint :: after →
        ((exec (a.op key fingerprint) (run (ops ++ before))).1 = .admission (.created taskId) ∨
          (exec (a.op key fingerprint) (run (ops ++ before))).1 = .admission (.replayed taskId)) →
        ∀ (a' : Admission) fingerprint', 0 < a'.maxActiveTasks →
          (exec (a'.op key fingerprint') (run (ops ++ segment))).1 = .admission
            (if fingerprint = fingerprint' then .replayed taskId else .conflict)) ∧
    (∀ (a : Admission) key fingerprint,
      (∀ taskId, (exec (a.op key fingerprint) (run ops)).1 ≠ .admission (.created taskId)) →
        step (a.op key fingerprint) (run ops) = run ops) ∧
    (∀ key r, (run ops).idempotency.find? key = some r →
      ∀ (a : Admission) fingerprint, 0 < a.maxActiveTasks →
        (exec (a.op key fingerprint) (run ops)).1 = .admission
          (if r.requestFingerprint = fingerprint then .replayed r.taskId else .conflict)) ∧
    (∀ limit, (∀ op ∈ ops, LimitedTo limit op) →
      (activeTasks (run ops) : Int) ≤ max limit 0) := by
  refine ⟨fun key segment noPrune => ⟨createdUnder_le_one (run_fresh ops) key noPrune, ?_⟩,
    fun a key fingerprint => unchanged_unless_created,
    fun key r held a fingerprint positive => by rw [known_key_answer held a positive],
    fun limit limited => run_active_bounded limited⟩
  intro before after a fingerprint taskId hsegment hreply a' fingerprint' positive
  obtain ⟨r, held, hfingerprint, hid⟩ := key_of_admitted hreply
  have reached : run (ops ++ segment) =
      Histories.run step (step (a.op key fingerprint) (run (ops ++ before))) after := by
    rw [hsegment, ← List.append_assoc, run_append (ops ++ before)]
    rfl
  have kept : (run (ops ++ segment)).idempotency.find? key = some r := by
    rw [reached]
    refine run_keeps_key (step_fresh _ _ (run_fresh (ops ++ before))) (fun op hop => ?_) held
    exact noPrune op (by rw [hsegment]; simp [hop])
  rw [known_key_answer kept a' positive, hfingerprint, hid]

end BoundedAdmission
