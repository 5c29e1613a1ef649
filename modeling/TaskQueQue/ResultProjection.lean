import TaskQueQue.LeaseFence

/-!
# Result projections

A fenced completion that also stores the result text, in one transaction: the
fenced UPDATE first, and the INSERT only when it applied. A conflict on the
result row's key would roll the completion back.

`get` decodes what is stored. The cells are dynamically typed, so decoding can
fail; rusqlite reads only an INTEGER cell as an integer and only a TEXT cell as
a string.
-/

namespace ResultProjection

open QueueValues QueueTables TaskLife KeyedTable LeaseFence

def maxResultProjectionBytes : Nat := 256 * 1024

structure TaskResultProjection where
  taskId : Int
  resultJson : String
  resultBytes : Int
deriving DecidableEq

def projectionRow (now : Seconds) (taskId generation : Int) (resultJson : String) : ResultRow where
  taskId := taskId
  resultJson := .text resultJson
  resultBytes := .integer resultJson.utf8ByteSize
  leaseGeneration := generation
  createdAt := now

@[simp] theorem projectionRow_taskId (now : Seconds) (taskId generation : Int)
    (resultJson : String) : (projectionRow now taskId generation resultJson).taskId = taskId := rfl

def completeWithProjection (now : Seconds) (taskId : Int) (workerId : String) (generation : Int)
    (resultJson : String) : Transaction LeaseMutation := fun db =>
  if resultJson.utf8ByteSize = 0 then
    .error (.invalidState "result projection must not be empty")
  else if maxResultProjectionBytes < resultJson.utf8ByteSize then
    .error (.invalidState
      ("result projection exceeds " ++ toString maxResultProjectionBytes ++ " bytes"))
  else
    match fencedUpdate taskId workerId generation now (unlockAs "COMPLETED" now)
      (unlockAs_id "COMPLETED" now) db with
    | (.stale, db') => .ok (.stale, db')
    | (.applied, db') =>
      match db'.results.insert? (projectionRow now taskId generation resultJson) with
      | some results => .ok (.applied, { db' with results })
      | none => .error (.sqlite (.constraint "task_results"))

def decode (r : ResultRow) : Except QueueError TaskResultProjection :=
  match r.resultJson, r.resultBytes with
  | .text resultJson, .integer resultBytes =>
    .ok { taskId := r.taskId, resultJson, resultBytes }
  | .text _, _ => .error (.sqlite (.invalidColumnType "result_bytes"))
  | _, _ => .error (.sqlite (.invalidColumnType "result_json"))

/-- The stored projection of a completed task. -/
def get (db : Db) (taskId : Int) : Except QueueError (Option TaskResultProjection) :=
  match db.results.find? taskId, db.tasks.find? taskId with
  | some r, some t =>
    if t.status = "COMPLETED" then (decode r).map some else .ok none
  | _, _ => .ok none

theorem completeWithProjection_cases {db db' : Db} {now : Seconds} {taskId generation : Int}
    {workerId resultJson : String} {mutation : LeaseMutation}
    (h : completeWithProjection now taskId workerId generation resultJson db =
      .ok (mutation, db')) :
    (mutation = .stale ∧ db' = db ∧
      ∀ t, ¬ Holds (view db taskId) workerId generation now t) ∨
    (mutation = .applied ∧ db.results.find? taskId = none ∧ db'.taskSeq = db.taskSeq ∧
      ∃ t, Holds (view db taskId) workerId generation now t ∧
        view db' taskId = { view db taskId with
          task := some (unlockAs "COMPLETED" now t)
          result := some (projectionRow now taskId generation resultJson) } ∧
        ∀ id, id ≠ taskId → view db' id = view db id) := by
  unfold completeWithProjection at h
  split at h
  · cases h
  split at h
  · cases h
  rcases fencedUpdate_cases taskId workerId generation now (unlockAs "COMPLETED" now)
      (unlockAs_id "COMPLETED" now) db with
    ⟨t, db₁, holds, happlied, hview, hother, hseq, hresults⟩ | ⟨hnone, hstale⟩
  · simp only [happlied] at h
    split at h
    · rename_i results hins
      cases h
      have hfree := (Table.rows_of_insert? hins).2
      have hfind := Table.find?_of_insert? hins
      rw [hresults] at hfree hfind
      refine Or.inr ⟨rfl, hfree, hseq, t, holds, ?_, fun id hne => ?_⟩
      · have hpoint := hfind taskId
        rw [projectionRow_taskId, if_pos rfl] at hpoint
        simp only [view, TaskView.mk.injEq] at hview ⊢
        exact ⟨hview.1, hview.2.1, hpoint, hview.2.2.2⟩
      · have hpoint := hfind id
        have hrow := hother id hne
        rw [projectionRow_taskId, if_neg (Ne.symm hne)] at hpoint
        simp only [view, TaskView.mk.injEq] at hrow ⊢
        exact ⟨hrow.1, hrow.2.1, hpoint, hrow.2.2.2⟩
    · cases h
  · simp only [hstale] at h
    cases h
    exact Or.inl ⟨rfl, rfl, hnone⟩

theorem completeWithProjection_advances {db db' : Db} {now : Seconds} {taskId generation : Int}
    {workerId resultJson : String} {mutation : LeaseMutation}
    (h : completeWithProjection now taskId workerId generation resultJson db =
      .ok (mutation, db')) :
    Advances db db' (appliedChange taskId (.completed workerId generation) mutation) := by
  rcases completeWithProjection_cases h with
    ⟨rfl, rfl, _⟩ | ⟨rfl, hfree, hseq, t, holds, hview, hother⟩
  · exact advances_self fun id => by simp [appliedChange]
  · refine ⟨hseq.symm.le, fun id => ?_⟩
    rw [hseq]
    by_cases hid : id = taskId
    · subst hid
      rw [hview]
      simpa [appliedChange] using Move.project holds hfree rfl
    · simpa [appliedChange, hid, hother id hid] using Move.stay (view db id)

end ResultProjection
