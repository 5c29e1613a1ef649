import TaskQueQue.QueueRuns

/-!
# The representation invariant of the queue

What every reachable database satisfies, stated for one task at a time and kept
by every move: lock columns agree with the status, a running task has a fence, a
stored result belongs to a completed task at its current generation, no child
row outlives its task, and the retry count stays within the budget.
-/

namespace QueueInvariants

open QueueValues QueueTables TaskLife KeyedTable LeaseFence ResultProjection QueueRuns

structure RowSound (t : Task) : Prop where
  parsed : ∃ s : TaskStatus, t.status = s.asStr
  unlocked : t.statusIn ("PENDING" :: terminalStatuses) → t.lockedBy = none ∧ t.lockedUntil = none
  locked : t.statusIn ["ASSIGNED", "RUNNING"] → t.lockedBy.isSome ∧ t.lockedUntil.isSome
  nonneg : 0 ≤ t.retryCount
  budget : t.retryCount ≤ max 1 t.maxRetries
  live : t.statusIn activeStatuses → t.retryCount = 0 ∨ t.retryCount < t.maxRetries

structure Coherent (v : TaskView) : Prop where
  row : ∀ t, v.task = some t → RowSound t
  orphan : v.task = none → v = .absent
  running : ∀ t, v.task = some t → t.status = "RUNNING" → v.fence.isSome
  fence : ∀ g, v.fence = some g → 1 ≤ g
  result : ∀ r, v.result = some r →
    ∃ t, v.task = some t ∧ t.status = "COMPLETED" ∧ v.fence = some r.leaseGeneration

theorem absent_coherent : Coherent .absent := by
  constructor
  · intro t h
    cases h
  · intro _
    rfl
  · intro t h
    cases h
  · intro g h
    cases h
  · intro r h
    cases h

/-! ### Rows after each SET list -/

section Rows
variable {t : Task}

theorem unlockAs_sound (h : RowSound t) {s : TaskStatus} (hs : s = .pending ∨ s.terminal = true)
    (live : s = .pending → t.retryCount = 0 ∨ t.retryCount < t.maxRetries) (now : Seconds) :
    RowSound (unlockAs s.asStr now t) := by
  refine ⟨⟨s, rfl⟩, fun _ => ⟨rfl, rfl⟩, fun h' => ?_, h.nonneg, h.budget, fun h' => ?_⟩
  · cases s <;> simp_all [unlockAs, Task.statusIn, TaskStatus.asStr, TaskStatus.terminal]
  · cases s <;> simp_all [unlockAs, Task.statusIn, TaskStatus.asStr, TaskStatus.terminal,
      activeStatuses]

theorem assignTo_sound (h : RowSound t) (pending : t.status = "PENDING") (worker : String)
    (leaseUntil now : Seconds) : RowSound (assignTo worker leaseUntil now t) := by
  have live := h.live (by simp [Task.statusIn, activeStatuses, pending])
  refine ⟨⟨.assigned, rfl⟩, fun h' => ?_, fun _ => ⟨rfl, rfl⟩, h.nonneg, h.budget, fun _ => live⟩
  simp [assignTo, Task.statusIn, terminalStatuses] at h'

theorem start_sound (h : RowSound t) (assigned : t.status = "ASSIGNED") (now : Seconds) :
    RowSound (start now t) := by
  have locked := h.locked (by simp [Task.statusIn, assigned])
  have live := h.live (by simp [Task.statusIn, activeStatuses, assigned])
  refine ⟨⟨.running, rfl⟩, fun h' => ?_, fun _ => locked, h.nonneg, h.budget, fun _ => live⟩
  simp [start, Task.statusIn, terminalStatuses] at h'

theorem extend_sound (h : RowSound t) (running : t.status = "RUNNING") (leaseUntil now : Seconds) :
    RowSound (extend leaseUntil now t) := by
  have locked := h.locked (by simp [Task.statusIn, running])
  refine ⟨h.parsed, fun h' => ?_, fun _ => ⟨locked.1, rfl⟩, h.nonneg, h.budget, h.live⟩
  simp [extend, Task.statusIn, terminalStatuses, running] at h'

theorem running_live (h : RowSound t) (running : t.status = "RUNNING") :
    t.retryCount = 0 ∨ t.retryCount < t.maxRetries :=
  h.live (by simp [Task.statusIn, activeStatuses, running])

theorem failWith_sound (h : RowSound t) (running : t.status = "RUNNING") (errorMsg : String)
    (now : Seconds) : RowSound (failWith errorMsg now t) := by
  have live := running_live h running
  have nonneg := h.nonneg
  refine ⟨⟨.failed, rfl⟩, fun _ => ⟨rfl, rfl⟩, fun h' => ?_, ?_, ?_, fun h' => ?_⟩
  · simp [failWith, unlockAs, Task.statusIn] at h'
  · simp only [failWith, unlockAs]
    omega
  · simp only [failWith, unlockAs]
    omega
  · simp [failWith, unlockAs, Task.statusIn, activeStatuses] at h'

theorem retryAt_sound (h : RowSound t) (budget : t.retryCount + 1 < t.maxRetries)
    (scheduledNext : Seconds) (errorMsg : String) (now : Seconds) :
    RowSound (retryAt scheduledNext errorMsg now t) := by
  have nonneg := h.nonneg
  refine ⟨⟨.pending, rfl⟩, fun _ => ⟨rfl, rfl⟩, fun h' => ?_, ?_, ?_, fun _ => Or.inr budget⟩
  · simp [retryAt, unlockAs, Task.statusIn] at h'
  · simp only [retryAt, unlockAs]
    omega
  · simp only [retryAt, unlockAs]
    omega

end Rows

/-- A move that leaves the results alone and ends in another status than COMPLETED
could not have had a result, so only the row and the fence need an argument. -/
theorem coherent_of_live {v : TaskView} (h : Coherent v) {t t' : Task} (row : v.task = some t)
    (notCompleted : t.status ≠ "COMPLETED") (sound : RowSound t') {fence : Option Int}
    (running : t'.status = "RUNNING" → fence.isSome) (positive : ∀ g, fence = some g → 1 ≤ g) :
    Coherent { v with task := some t', fence := fence } := by
  refine ⟨fun x hx => ?_, fun hx => ?_, fun x hx hr => ?_, positive, fun r hr => ?_⟩
  · cases hx
    exact sound
  · cases hx
  · cases hx
    exact running hr
  · obtain ⟨x, hx, completed, _⟩ := h.result r hr
    rw [row, Option.some.injEq] at hx
    exact (notCompleted (hx ▸ completed)).elim

theorem generation_nonneg {v : TaskView} (h : Coherent v) : 0 ≤ v.generation := by
  unfold TaskView.generation
  cases hf : v.fence with
  | none => simp
  | some g =>
    have := h.fence g hf
    simp only [Option.getD_some]
    omega

/-- Every move keeps the invariant. -/
theorem move_coherent {id seq seq' : Int} {v v' : TaskView} {c : Change}
    (move : Move id seq seq' v c v') (h : Coherent v) : Coherent v' := by
  cases move with
  | stay => exact h
  | @create t rows fresh counted status owner lock retries =>
    refine ⟨fun x hx => ?_, fun hx => ?_, fun x hx hr => ?_, fun g hg => ?_, fun r hr => ?_⟩
    · cases hx
      refine ⟨⟨.pending, status⟩, fun _ => ⟨owner, lock⟩, fun h' => ?_, by omega, by omega,
        fun _ => Or.inl retries⟩
      simp [Task.statusIn, status] at h'
    · cases hx
    · cases hx
      simp [status] at hr
    · cases hg
    · cases hr
  | assign worker leaseUntil now row pending =>
    refine coherent_of_live h row (by simp [pending])
      (assignTo_sound (h.row _ row) pending worker leaseUntil now) (fun hr => ?_) h.fence
    simp [assignTo] at hr
  | @release _ t now row leased expired =>
    have hne : t.status ≠ "COMPLETED" := by
      intro e
      simp [Task.statusIn, e] at leased
    have live : t.retryCount = 0 ∨ t.retryCount < t.maxRetries := by
      refine (h.row _ row).live ?_
      simp only [Task.statusIn, activeStatuses, List.contains_cons, Bool.or_eq_true] at leased ⊢
      exact Or.inr leased
    refine coherent_of_live h row hne
      (unlockAs_sound (s := .pending) (h.row _ row) (Or.inl rfl) (fun _ => live) now)
      (fun hr => ?_) h.fence
    simp [unlockAs, TaskStatus.asStr] at hr
  | claim now row assigned owner live =>
    refine coherent_of_live h row (by simp [assigned]) (start_sound (h.row _ row) assigned now)
      (fun _ => rfl) fun g hg => ?_
    have := generation_nonneg h
    cases hg
    omega
  | extend leaseUntil holds =>
    exact coherent_of_live h holds.row (by simp [holds.running])
      (extend_sound (h.row _ holds.row) holds.running leaseUntil _)
      (fun _ => h.running _ holds.row holds.running) h.fence
  | complete holds =>
    refine coherent_of_live h holds.row (by simp [holds.running])
      (unlockAs_sound (s := .completed) (h.row _ holds.row) (Or.inr rfl) (by simp) _)
      (fun hr => ?_) h.fence
    simp [unlockAs, TaskStatus.asStr] at hr
  | @project _ t worker g now r holds free agrees =>
    refine ⟨fun x hx => ?_, fun hx => ?_, fun x hx hr => ?_, h.fence, fun r' hr' => ?_⟩
    · cases hx
      exact unlockAs_sound (s := .completed) (h.row _ holds.row) (Or.inr rfl) (by simp) _
    · cases hx
    · cases hx
      simp [unlockAs] at hr
    · cases hr'
      exact ⟨_, rfl, rfl, agrees ▸ holds.fence⟩
  | retry scheduledNext errorMsg holds budget =>
    refine coherent_of_live h holds.row (by simp [holds.running])
      (retryAt_sound (h.row _ holds.row) budget scheduledNext errorMsg _) (fun hr => ?_) h.fence
    simp [retryAt, unlockAs] at hr
  | exhaust errorMsg holds spent =>
    refine coherent_of_live h holds.row (by simp [holds.running])
      (failWith_sound (h.row _ holds.row) holds.running errorMsg _) (fun hr => ?_) h.fence
    simp [failWith, unlockAs] at hr
  | @cancel _ t now row active =>
    have hne : t.status ≠ "COMPLETED" := by
      intro e
      simp [Task.statusIn, activeStatuses, e] at active
    refine coherent_of_live h row hne
      (unlockAs_sound (s := .cancelled) (h.row _ row) (Or.inr rfl) (by simp) now)
      (fun hr => ?_) fun g hg => ?_
    · simp [unlockAs, TaskStatus.asStr] at hr
    · have := generation_nonneg h
      cases hg
      omega
  | prune => exact absent_coherent

theorem run_coherent (ops : List Op) (id : Int) : Coherent (view (run ops) id) := by
  have both : Fresh (run ops) ∧ ∀ id, Coherent (view (run ops) id) := by
    refine Histories.run_preserves (P := fun db => Fresh db ∧ ∀ id, Coherent (view db id)) ?_
      ⟨empty_fresh, fun _ => absent_coherent⟩ ops
    rintro op db ⟨fresh, coherent⟩
    exact ⟨step_fresh op db fresh, fun id =>
      move_coherent ((exec_advances fresh op).move id) (coherent id)⟩
  exact both.2 id

/-! ### The invariant, table by table -/

structure Represents (db : Db) : Prop where
  known : ∀ t ∈ db.tasks.rows, ∃ s : TaskStatus, t.status = s.asStr
  unlocked : ∀ t ∈ db.tasks.rows, t.statusIn ["PENDING", "COMPLETED", "FAILED", "CANCELLED"] →
    t.lockedBy = none ∧ t.lockedUntil = none
  locked : ∀ t ∈ db.tasks.rows, t.statusIn ["ASSIGNED", "RUNNING"] →
    t.lockedBy.isSome ∧ t.lockedUntil.isSome
  fenced : ∀ t ∈ db.tasks.rows, t.status = "RUNNING" →
    ∃ f ∈ db.fences.rows, f.taskId = t.id ∧ 1 ≤ f.generation
  projected : ∀ r ∈ db.results.rows, ∃ t ∈ db.tasks.rows, t.id = r.taskId ∧
    t.status = "COMPLETED" ∧ ∃ f ∈ db.fences.rows, f.taskId = t.id ∧
      f.generation = r.leaseGeneration
  fenceTask : ∀ f ∈ db.fences.rows, ∃ t ∈ db.tasks.rows, t.id = f.taskId
  admissionTask : ∀ a ∈ db.idempotency.rows, ∃ t ∈ db.tasks.rows, t.id = a.taskId
  resultTask : ∀ r ∈ db.results.rows, ∃ t ∈ db.tasks.rows, t.id = r.taskId
  budget : ∀ t ∈ db.tasks.rows, 0 ≤ t.retryCount ∧ t.retryCount ≤ max 1 t.maxRetries

theorem fence_mem {db : Db} {id g : Int} (h : (view db id).fence = some g) :
    ∃ f ∈ db.fences.rows, f.taskId = id ∧ f.generation = g := by
  obtain ⟨f, hf, hg⟩ := Option.map_eq_some_iff.mp h
  exact ⟨f, Table.mem_of_find? hf, Table.key_of_find? hf, hg⟩

theorem task_of_child {db : Db} {id : Int} (h : Coherent (view db id))
    (child : view db id ≠ .absent) : ∃ t ∈ db.tasks.rows, t.id = id := by
  cases row : (view db id).task with
  | none => exact (child (h.orphan row)).elim
  | some t => exact ⟨t, Table.mem_of_find? row, Table.key_of_find? row⟩

theorem represents_of_coherent {db : Db} (h : ∀ id, Coherent (view db id)) : Represents db := by
  have sound : ∀ t ∈ db.tasks.rows, RowSound t := fun t ht =>
    (h t.id).row t (Table.find?_of_mem ht)
  refine ⟨fun t ht => (sound t ht).parsed, fun t ht => (sound t ht).unlocked,
    fun t ht => (sound t ht).locked, fun t ht hr => ?_, fun r hr => ?_, fun f hf => ?_,
    fun a ha => ?_, fun r hr => ?_, fun t ht => ⟨(sound t ht).nonneg, (sound t ht).budget⟩⟩
  · obtain ⟨g, hg⟩ := Option.isSome_iff_exists.mp
      ((h t.id).running t (Table.find?_of_mem ht) hr)
    obtain ⟨f, hf, hid, rfl⟩ := fence_mem hg
    exact ⟨f, hf, hid, (h t.id).fence _ hg⟩
  · obtain ⟨t, row, completed, hg⟩ := (h r.taskId).result r (Table.find?_of_mem hr)
    have hid := Table.key_of_find? row
    obtain ⟨f, hf, hfid, hgen⟩ := fence_mem hg
    exact ⟨t, Table.mem_of_find? row, hid, completed, f, hf, hfid.trans hid.symm, hgen⟩
  · refine task_of_child (h f.taskId) fun e => ?_
    have hfence : (view db f.taskId).fence = some f.generation := by
      simp [view, Table.find?_of_mem hf]
    rw [e] at hfence
    cases hfence
  · refine task_of_child (h a.taskId) fun e => ?_
    have hrow : a ∈ (view db a.taskId).admissions :=
      List.mem_filter.mpr ⟨ha, decide_eq_true rfl⟩
    rw [e] at hrow
    cases hrow
  · refine task_of_child (h r.taskId) fun e => ?_
    have hresult : (view db r.taskId).result = some r := Table.find?_of_mem hr
    rw [e] at hresult
    cases hresult

/-- A running task has no result yet, so the projection INSERT finds its key free. -/
theorem no_projection_conflict {db : Db} (h : ∀ id, Coherent (view db id)) (now : Seconds)
    (taskId : Int) (workerId : String) (generation : Int) (resultJson : String) :
    completeWithProjection now taskId workerId generation resultJson db ≠
      .error (.sqlite (.constraint "task_results")) := by
  intro hconflict
  unfold completeWithProjection at hconflict
  split at hconflict
  · cases hconflict
  split at hconflict
  · cases hconflict
  rcases fencedUpdate_cases taskId workerId generation now (unlockAs "COMPLETED" now)
      (unlockAs_id "COMPLETED" now) db with
    ⟨t, db₁, holds, happlied, _, _, _, hresults⟩ | ⟨_, hstale⟩
  · simp only [happlied, hresults] at hconflict
    have free : db.results.find? taskId = none := by
      by_contra hne
      obtain ⟨r, hr⟩ := Option.ne_none_iff_exists'.mp hne
      obtain ⟨t', row, completed, _⟩ := (h taskId).result r hr
      rw [holds.row, Option.some.injEq] at row
      rw [← row, holds.running] at completed
      simp at completed
    obtain ⟨results, hins⟩ := Table.insert?_of_absent
      (r := projectionRow now taskId generation resultJson) free
    simp [hins] at hconflict
  · simp [hstale] at hconflict

def isFailed (db : Db) (id : Int) : Prop := ∃ t, db.tasks.find? id = some t ∧ t.status = "FAILED"

/-- A task becomes FAILED exactly when a failure is applied with no attempt left. -/
theorem becomes_failed_iff {db : Db} (fresh : Fresh db) (op : Op) (id : Int) :
    (¬ isFailed db id ∧ isFailed (step op db) id) ↔
      ∃ now workerId generation errorMsg, op = .failTask now id workerId generation errorMsg ∧
        (exec op db).1 = .mutation .applied ∧ budgetSpent db id := by
  have move := (exec_advances fresh op).move id
  constructor
  · rintro ⟨before, t', row', failed⟩
    have row'' : (view (step op db) id).task = some t' := row'
    generalize hv : view db id = v at move
    generalize hv' : view (step op db) id = v' at move row''
    generalize hc : change id op db = c at move
    have unchanged : v.task ≠ some t' := fun e =>
      before ⟨t', by rw [← hv] at e; exact e, failed⟩
    cases move with
    | exhaust errorMsg holds spent =>
      have behind := noted_of_change hc (by simp)
      generalize (exec op db).1 = reply at behind ⊢
      cases behind with
      | failed now _ _ errorMsg spent => exact ⟨now, _, _, errorMsg, rfl, rfl, spent⟩
    | stay => exact (unchanged row'').elim
    | create _ _ status =>
      cases row''
      simp [status] at failed
    | claim | assign | release | complete | project | retry | cancel =>
      cases row''
      simp [start, assignTo, unlockAs, retryAt] at failed
    | extend leaseUntil holds =>
      cases row''
      simp [extend, holds.running] at failed
    | prune => cases row''
  · rintro ⟨now, workerId, generation, errorMsg, rfl, applied, spent⟩
    have hc : change id (.failTask now id workerId generation errorMsg) db =
        .failed workerId generation := by
      simp [change, noted, applied, appliedChange, failChange, spent]
    rw [hc] at move
    generalize hv : view db id = v at move
    generalize hv' : view (step _ db) id = v' at move
    cases move with
    | @exhaust _ t _ _ _ errorMsg holds spent =>
      refine ⟨?_, failWith errorMsg _ t, congrArg TaskView.task hv', rfl⟩
      rintro ⟨t', row, failed⟩
      rw [← hv] at holds
      rw [← Option.some.inj (holds.row.symm.trans row), holds.running] at failed
      simp at failed

/-- The queue's representation invariant, over every run from the empty schema. -/
theorem queue_representation (ops : List Op) :
    Represents (run ops) ∧
    (∀ now taskId workerId generation resultJson,
      completeWithProjection now taskId workerId generation resultJson (run ops) ≠
        .error (.sqlite (.constraint "task_results"))) ∧
    ∀ op id, (¬ isFailed (run ops) id ∧ isFailed (step op (run ops)) id) ↔
      ∃ now workerId generation errorMsg, op = .failTask now id workerId generation errorMsg ∧
        (exec op (run ops)).1 = .mutation .applied ∧ budgetSpent (run ops) id :=
  ⟨represents_of_coherent (run_coherent ops), no_projection_conflict (run_coherent ops),
    becomes_failed_iff (run_fresh ops)⟩

end QueueInvariants
