import TaskQueQue.TaskLife

/-!
# Cancellation

Cancelling reads the status through `TaskStatus.parse`, bumps the fence so that
no outstanding lease matches any more, and writes CANCELLED guarded by the
status it read.
-/

namespace Cancellation

open QueueValues QueueTables TaskLife KeyedTable

inductive CancellationOutcome
  | applied
  | replayed
  | notFound
  | terminal (status : TaskStatus)
deriving DecidableEq, Repr

/-- The writes of a cancellation that found the task in a live status. -/
def applyCancel (now : Seconds) (taskId : Int) (status : TaskStatus) :
    Transaction CancellationOutcome := fun db =>
  match checkedAdd (db.generationOf taskId) 1 with
  | none => .error (.invalidState
      ("lease generation overflow while cancelling task_id=" ++ toString taskId))
  | some nextGeneration =>
    let guard := fun (t : Task) => decide (t.id = taskId) && decide (t.status = status.asStr)
    let fencedDb := db.setGeneration taskId nextGeneration
    if fencedDb.tasks.count guard ≠ 1 then
      .error (.invalidState
        ("cancellation lost selected task state for task_id=" ++ toString taskId))
    else
      .ok (.applied, fencedDb.updateTasks guard (unlockAs "CANCELLED" now)
        (unlockAs_id "CANCELLED" now))

def cancelTask (now : Seconds) (taskId : Int) : Transaction CancellationOutcome := fun db =>
  if taskId ≤ 0 then .error (.invalidState "task id must be a positive integer")
  else
    match db.tasks.find? taskId with
    | none => .ok (.notFound, db)
    | some t =>
      match TaskStatus.parse t.status with
      | .error err => .error err
      | .ok .cancelled => .ok (.replayed, db)
      | .ok .completed => .ok (.terminal .completed, db)
      | .ok .failed => .ok (.terminal .failed, db)
      | .ok status => applyCancel now taskId status db

def cancelChange (taskId : Int) (outcome : CancellationOutcome) (id : Int) : Change :=
  if outcome = .applied ∧ id = taskId then .cancelled else .quiet

theorem applyCancel_advances {db db' : Db} {now : Seconds} {taskId : Int} {status : TaskStatus}
    {outcome : CancellationOutcome} {t : Task} (row : db.tasks.find? taskId = some t)
    (hstatus : t.status = status.asStr) (live : status.terminal = false)
    (h : applyCancel now taskId status db = .ok (outcome, db')) :
    Advances db db' (cancelChange taskId outcome) := by
  unfold applyCancel at h
  split at h
  · cases h
  · rename_i g hg
    obtain ⟨rfl, _⟩ := checkedAdd_eq_some hg
    simp only at h
    split at h
    · cases h
    · cases h
      have hid := Table.key_of_find? row
      refine ⟨le_refl _, fun id => ?_⟩
      by_cases hne : id = taskId
      · subst hne
        have fencedRow : (db.setGeneration id (db.generationOf id + 1)).tasks.find? id = some t := row
        rw [view_updateTasks_hit fencedRow (by simp [hid, hstatus]), view_setGeneration, if_pos rfl]
        have active : t.statusIn activeStatuses := by
          rw [Task.statusIn, hstatus]
          revert live
          cases status <;> decide
        simpa [cancelChange, ← view_generation] using Move.cancel now row active
      · have named : ∀ x : Task, (decide (x.id = taskId) && decide (x.status = status.asStr)) = true →
            x.id = taskId := by
          intro x hx
          exact of_decide_eq_true (Bool.and_eq_true_iff.mp hx).1
        rw [view_updateTasks_other named hne, view_setGeneration, if_neg (fun e => hne e.symm)]
        simpa [cancelChange, hne] using Move.stay (view db id)

theorem cancelTask_advances {db db' : Db} {now : Seconds} {taskId : Int}
    {outcome : CancellationOutcome} (h : cancelTask now taskId db = .ok (outcome, db')) :
    Advances db db' (cancelChange taskId outcome) := by
  unfold cancelTask at h
  split at h
  · cases h
  split at h
  · cases h
    exact advances_self fun id => by simp [cancelChange]
  · rename_i t row
    cases hparse : TaskStatus.parse t.status with
    | error err => simp [hparse] at h
    | ok status =>
      have hstatus := TaskStatus.parse_eq_ok_iff.mp hparse
      cases status with
      | pending | assigned | running =>
        simp only [hparse] at h
        exact applyCancel_advances row hstatus rfl h
      | completed | failed | cancelled =>
        simp only [hparse, Except.ok.injEq, Prod.mk.injEq] at h
        obtain ⟨rfl, rfl⟩ := h
        exact advances_self fun id => by simp [cancelChange]

end Cancellation
