import TaskQueQue.SyncQueue

/-!
# Bounded idempotent admission

A client's key is looked up first: a known key answers with the stored task id,
or with a conflict when the fingerprint differs. Only a new key is held against
the limit on active tasks, and only then are the task and the key inserted, both
in the same transaction.
-/

namespace Idempotency

open QueueValues QueueTables TaskLife KeyedTable SyncQueue

inductive IdempotentEnqueueResult
  | created (taskId : Int)
  | replayed (taskId : Int)
  | conflict
  | full (activeTasks maxActiveTasks : Int)
deriving DecidableEq, Repr

def activeTasks (db : Db) : Nat :=
  db.tasks.count fun t => t.statusIn ["PENDING", "ASSIGNED", "RUNNING"]

/-- `INSERT INTO task_idempotency`: the key is the primary key, and a unique
index keeps two keys from naming one task. -/
def insertAdmission (db : Db) (row : IdempotencyRow) : Except QueueError Db :=
  if db.idempotency.count (fun r => decide (r.taskId = row.taskId)) ≠ 0 then
    .error (.sqlite (.constraint "task_idempotency"))
  else
    match db.idempotency.insert? row with
    | some idempotency => .ok { db with idempotency }
    | none => .error (.sqlite (.constraint "task_idempotency"))

def enqueueBounded (now : Seconds) (idempotencyKey requestFingerprint : String)
    (taskName taskType payload : String) (priority maxRetries maxActiveTasks : Int) :
    Transaction IdempotentEnqueueResult := fun db =>
  if maxActiveTasks ≤ 0 then
    .error (.invalidState "max_active_tasks must be greater than zero")
  else
    match db.idempotency.find? idempotencyKey with
    | some existing =>
      if existing.requestFingerprint = requestFingerprint then
        .ok (.replayed existing.taskId, db)
      else .ok (.conflict, db)
    | none =>
      if maxActiveTasks ≤ activeTasks db then
        .ok (.full (activeTasks db) maxActiveTasks, db)
      else
        match db.insertTask (newTask now taskName taskType payload priority maxRetries) with
        | .error err => .error err
        | .ok (taskId, inserted) =>
          match insertAdmission inserted
            { idempotencyKey, requestFingerprint, taskId, createdAt := now } with
          | .error err => .error err
          | .ok db' => .ok (.created taskId, db')

theorem insertAdmission_ok {db db' : Db} {row : IdempotencyRow}
    (h : insertAdmission db row = .ok db') :
    ∃ idempotency, db.idempotency.insert? row = some idempotency ∧
      db' = { db with idempotency } := by
  unfold insertAdmission at h
  split at h
  · cases h
  split at h
  · rename_i idempotency hins
    cases h
    exact ⟨idempotency, hins, rfl⟩
  · cases h

/-- A call either creates one task under a new key or changes nothing. -/
theorem enqueueBounded_cases {db db' : Db} {now : Seconds} {key fingerprint : String}
    {taskName taskType payload : String} {priority maxRetries maxActiveTasks : Int}
    {reply : IdempotentEnqueueResult}
    (h : enqueueBounded now key fingerprint taskName taskType payload priority maxRetries
      maxActiveTasks db = .ok (reply, db')) :
    (db' = db ∧ ∀ taskId, reply ≠ .created taskId) ∨
    (∃ taskId, reply = .created taskId ∧ db.idempotency.find? key = none ∧
      (activeTasks db : Int) < maxActiveTasks ∧ taskId = db.taskSeq + 1 ∧
      ∃ tasks idempotency,
        db.tasks.insert? (newTask now taskName taskType payload priority maxRetries taskId) =
          some tasks ∧
        db.idempotency.insert? ⟨key, fingerprint, taskId, now⟩ = some idempotency ∧
        db' = { db with tasks, idempotency, taskSeq := taskId }) := by
  unfold enqueueBounded at h
  split at h
  · cases h
  split at h
  · split at h <;> cases h <;> exact Or.inl ⟨rfl, by simp⟩
  · rename_i habsent
    split at h
    · cases h
      exact Or.inl ⟨rfl, by simp⟩
    · rename_i hroom
      split at h
      · cases h
      · rename_i taskId inserted hinsert
        split at h
        · cases h
        · rename_i db₂ hadmission
          cases h
          obtain ⟨hid, _, tasks, htasks, rfl⟩ := Db.insertTask_ok hinsert
          obtain ⟨idempotency, hkey, rfl⟩ := insertAdmission_ok hadmission
          exact Or.inr ⟨taskId, rfl, habsent, not_le.mp hroom, hid, tasks, idempotency, htasks,
            hkey, rfl⟩

def admissionChange (reply : IdempotentEnqueueResult) (id : Int) : Change :=
  match reply with
  | .created taskId => createdChange taskId id
  | _ => .quiet

theorem enqueueBounded_advances {db db' : Db} (fresh : Fresh db) {now : Seconds}
    {key fingerprint taskName taskType payload : String}
    {priority maxRetries maxActiveTasks : Int} {reply : IdempotentEnqueueResult}
    (h : enqueueBounded now key fingerprint taskName taskType payload priority maxRetries
      maxActiveTasks db = .ok (reply, db')) :
    Advances db db' (admissionChange reply) := by
  rcases enqueueBounded_cases h with
    ⟨rfl, not_created⟩ | ⟨taskId, rfl, _, _, hid, tasks, idempotency, htasks, hkey, rfl⟩
  · refine advances_self fun id => ?_
    cases reply with
    | created taskId => exact (not_created taskId rfl).elim
    | replayed | conflict | full => rfl
  · refine ⟨by simp only; omega, fun id => ?_⟩
    have hrow := Table.find?_of_insert? htasks id
    have hrows : idempotency.select (fun r => decide (r.taskId = id)) =
        (view db id).admissions ++
          if taskId = id then [⟨key, fingerprint, taskId, now⟩] else [] := by
      rw [Table.select, (Table.rows_of_insert? hkey).1, List.filter_append]
      by_cases hk : taskId = id <;> simp [view, Table.select, hk]
    by_cases hk : taskId = id
    · subst hk
      have hbefore := fresh.2 taskId (by omega)
      have hafter : view { db with tasks, idempotency, taskSeq := taskId } taskId =
          ⟨some (newTask now taskName taskType payload priority maxRetries taskId), none, none,
            [⟨key, fingerprint, taskId, now⟩]⟩ := by
        have hfence : (view db taskId).fence = none := by rw [hbefore]; rfl
        have hresult : (view db taskId).result = none := by rw [hbefore]; rfl
        rw [hbefore, if_pos rfl] at hrows
        exact TaskView.ext (hrow.trans (if_pos rfl)) hfence hresult hrows
      rw [hbefore, hafter, admissionChange, createdChange, if_pos rfl]
      exact .create (by omega) (le_refl _) rfl rfl rfl rfl
    · have hsame : view { db with tasks, idempotency, taskSeq := taskId } id = view db id := by
        rw [if_neg hk, List.append_nil] at hrows
        exact TaskView.ext (hrow.trans (if_neg hk)) rfl rfl hrows
      rw [hsame, admissionChange, createdChange, if_neg hk]
      exact .stay _

end Idempotency
