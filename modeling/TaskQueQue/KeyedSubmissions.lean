import TaskQueQue.TaskFacade
import TaskQueQue.UrlValues

/-!
# Submissions under a key

What one submission does to the records of idempotency keys, and what its answer tells
of them: a record is made once, under a key that had none, and is never changed; an
accepted task is the one recorded; a conflict is with a record of another fingerprint.
-/

namespace KeyedSubmissions

open QueueValues QueueTables QueueRuns Idempotency KeyedTable GatewayValues LocalApi TaskFacade
open CapabilityAuth (GatewayConfig)

/-- The key is recorded for the task. -/
def Recorded (db : Db) (key : String) (taskId : Int) : Prop :=
  ∃ row, db.idempotency.find? key = some row ∧ row.taskId = taskId

theorem Recorded.unique {db : Db} {key : String} {taskId other : Int}
    (recorded : Recorded db key taskId) (recorded' : Recorded db key other) : taskId = other := by
  obtain ⟨row, found, rfl⟩ := recorded
  obtain ⟨row', found', rfl⟩ := recorded'
  rw [found] at found'
  cases found'
  rfl

/-! ### The daemon -/

/-- What an admission did: nothing, or a record under its key, which had none. -/
structure Admission (r : EnqueueRequest) (db db' : Db) : Prop where
  records : db'.idempotency = db.idempotency ∨
    ∃ row : IdempotencyRow, db.idempotency.find? r.idempotencyKey = none ∧
      row.requestFingerprint = r.requestFingerprint ∧
      ∀ key, db'.idempotency.find? key =
        if r.idempotencyKey = key then some row else db.idempotency.find? key

theorem Admission.refl (r : EnqueueRequest) (db : Db) : Admission r db db := ⟨Or.inl rfl⟩

/-- What the daemon's reply tells of the records. -/
def Tells (r : EnqueueRequest) (db db' : Db) : Reply → Prop
  | .admission (.created taskId) =>
    db.idempotency.find? r.idempotencyKey = none ∧ Recorded db' r.idempotencyKey taskId
  | .admission (.replayed taskId) =>
    Recorded db r.idempotencyKey taskId ∧ Recorded db' r.idempotencyKey taskId
  | .admission .conflict => ∃ row, db.idempotency.find? r.idempotencyKey = some row ∧
      row.requestFingerprint ≠ r.requestFingerprint
  | _ => True

theorem exec_tells (r : EnqueueRequest) (now : Seconds) (db : Db) :
    Admission r db (exec (r.op now) db).2 ∧
      Tells r db (exec (r.op now) db).2 (exec (r.op now) db).1 := by
  simp only [EnqueueRequest.op, exec]
  rcases answer_cases Reply.admission (enqueueBounded now r.idempotencyKey r.requestFingerprint
      r.taskName r.taskType r.body r.priority r.maxRetries r.maxActiveTasks) db with
    ⟨reply, db', done, answered⟩ | ⟨err, _, answered⟩
  · rw [answered]
    dsimp only
    unfold enqueueBounded at done
    obtain ⟨_, done⟩ := UrlValues.guard_ok done
    split at done
    · rename_i row found
      split at done
      · cases done
        exact ⟨.refl r db, ⟨row, found, rfl⟩, row, found, rfl⟩
      · rename_i differs
        cases done
        exact ⟨.refl r db, row, found, differs⟩
    · rename_i absent
      split at done
      · cases done
        exact ⟨.refl r db, trivial⟩
      split at done
      · cases done
      rename_i taskId inserted made
      split at done
      · cases done
      rename_i admitted
      cases done
      obtain ⟨_, _, tasks, _, rfl⟩ := Db.insertTask_ok made
      obtain ⟨records, kept, rfl⟩ := insertAdmission_ok admitted
      have found := Table.find?_of_insert? kept
      refine ⟨⟨Or.inr ⟨_, absent, rfl, found⟩⟩, absent,
        ⟨r.idempotencyKey, r.requestFingerprint, taskId, now⟩, ?_, rfl⟩
      dsimp only
      rw [found, if_pos rfl]
  · rw [answered]
    exact ⟨.refl r db, trivial⟩

/-! ### The answer in public terms -/

/-- A response that accepts a task. -/
def Accepts (response : Response) (taskId : Int) (replayed : Bool) : Prop :=
  response.status = 202 ∧ ∃ body, response.body = some body ∧
    Json.integer? (body.field "task_id") = some taskId ∧
    body.field "replayed" = some (.bool replayed)

theorem not_accepts {response : Response} (status : response.status ≠ 202) {taskId : Int}
    {replayed : Bool} : ¬ Accepts response taskId replayed := fun accepts => status accepts.1

theorem publicAcceptance_accepted {taskId n : Int} {idempotency : String} {replayed : Bool}
    (h : Accepts (publicAcceptance (accepted taskId idempotency)) n replayed) :
    n = taskId ∧ replayed = decide (idempotency = "replayed") := by
  have whole : Json.integer? (some (.num (taskId : ℚ))) = some taskId := by
    rw [Json.integer?, if_pos (Rat.den_intCast taskId), Rat.num_intCast]
  have fields : (accepted taskId idempotency).body = some (.obj [("task_id", .num taskId),
      ("status", .str "PENDING"), ("idempotency", .str idempotency)]) := rfl
  unfold publicAcceptance at h
  have status : (accepted taskId idempotency).status = 202 := rfl
  rw [status, if_neg (by decide), if_neg (by decide), if_neg (by decide), fields] at h
  have named : Json.integer? ((Json.obj [("task_id", .num taskId), ("status", .str "PENDING"),
      ("idempotency", .str idempotency)]).field "task_id") = some taskId := whole
  dsimp only at h
  rw [named] at h
  dsimp only [Json.field, List.lookup_cons, String.reduceBEq] at h
  split at h
  · exact absurd h (not_accepts (show 502 ≠ 202 by decide))
  · obtain ⟨_, body, ⟨⟩, number, flag⟩ := h
    have number' : Json.integer? (some (.num (taskId : ℚ))) = some n := number
    rw [whole] at number'
    cases number'
    cases flag
    exact ⟨rfl, rfl⟩

/-- A record of the key with another fingerprint. -/
def Differs (r : EnqueueRequest) (db : Db) : Prop :=
  ∃ row, db.idempotency.find? r.idempotencyKey = some row ∧
    row.requestFingerprint ≠ r.requestFingerprint

/-- What a response tells of the records before and after it. -/
structure Answers (r : EnqueueRequest) (db db' : Db) (response : Response) : Prop where
  accepted : ∀ taskId replayed, Accepts response taskId replayed →
    Recorded db' r.idempotencyKey taskId ∧
      (if replayed then Recorded db r.idempotencyKey taskId
        else db.idempotency.find? r.idempotencyKey = none)
  conflict : response.status = 409 → Differs r db

/-- A response that is neither an acceptance nor a conflict. -/
theorem Answers.other {r : EnqueueRequest} {db db' : Db} {response : Response}
    (status : response.status ≠ 202 ∧ response.status ≠ 409) : Answers r db db' response :=
  ⟨fun _ _ accepts => absurd accepts (not_accepts status.1), fun h => absurd h status.2⟩

theorem publicAcceptance_conflict {upstream : Response}
    (h : (publicAcceptance upstream).status = 409) : upstream.status = 409 := by
  unfold publicAcceptance at h
  split at h
  · rename_i conflict
    exact conflict
  split at h
  · cases h
  split at h
  · cases h
  split at h
  · cases h
  split at h
  · split at h
    · cases h
    · cases h
  · cases h

theorem routeEnqueue_answers (r : EnqueueRequest) (now : Seconds) (db : Db) :
    Admission r db (routeEnqueue now r db).2 ∧
      Answers r db (routeEnqueue now r db).2 (publicAcceptance (routeEnqueue now r db).1) := by
  obtain ⟨admission, tells⟩ := exec_tells r now db
  rw [routeEnqueue]
  split
  · exact ⟨.refl r db, .other ⟨show 502 ≠ 202 by decide, show 502 ≠ 409 by decide⟩⟩
  dsimp only
  refine ⟨admission, ?_⟩
  generalize (exec (r.op now) db).1 = reply at tells ⊢
  split
  · rename_i taskId
    obtain ⟨absent, recorded⟩ := tells
    constructor
    · intro n replayed accepts
      obtain ⟨rfl, rfl⟩ := publicAcceptance_accepted accepts
      exact ⟨recorded, absent⟩
    · intro h
      exact absurd (publicAcceptance_conflict h) (show 202 ≠ 409 by decide)
  · rename_i taskId
    obtain ⟨before, after⟩ := tells
    constructor
    · intro n replayed accepts
      obtain ⟨rfl, rfl⟩ := publicAcceptance_accepted accepts
      exact ⟨after, before⟩
    · intro h
      exact absurd (publicAcceptance_conflict h) (show 202 ≠ 409 by decide)
  · exact ⟨fun _ _ accepts => absurd accepts (not_accepts (show 409 ≠ 202 by decide)), fun _ => tells⟩
  · exact .other ⟨show 503 ≠ 202 by decide, show 503 ≠ 409 by decide⟩
  · exact .other ⟨show 502 ≠ 202 by decide, show 502 ≠ 409 by decide⟩

/-! ### The gateway -/

section Gateway
variable {web : WebRuntime} {registry : TaskRegistry} {config : GatewayConfig} {request : Request}

theorem coded_other {status : Nat} {code message : String} (other : status ≠ 202 ∧ status ≠ 409) :
    (Response.coded status code message).status ≠ 202 ∧
      (Response.coded status code message).status ≠ 409 := other

theorem boundedBody_error {declaredLength : Option String} {response : Response}
    (h : boundedBody web request declaredLength = .error response) :
    response.status ≠ 202 ∧ response.status ≠ 409 := by
  simp only [boundedBody] at h
  repeat' split at h
  all_goals cases h
  all_goals exact coded_other (by decide)

theorem parsePublicTaskRequest_error {response : Response}
    (h : parsePublicTaskRequest web request = .error response) :
    response.status ≠ 202 ∧ response.status ≠ 409 := by
  unfold parsePublicTaskRequest at h
  split at h
  · rename_i failed
    cases h
    exact boundedBody_error failed
  · simp only at h
    repeat' split at h
    all_goals cases h
    all_goals exact coded_other (by decide)

theorem admissible_error {response : Response}
    (h : admissible web registry config request = .error response) :
    response.status ≠ 202 ∧ response.status ≠ 409 := by
  simp only [admissible] at h
  split at h
  · cases h
    exact coded_other (by decide)
  split at h
  · rename_i failed
    cases h
    unfold parseIdempotencyKey at failed
    repeat' split at failed
    all_goals cases failed
    all_goals exact coded_other (by decide)
  split at h
  · rename_i failed
    cases h
    exact parsePublicTaskRequest_error failed
  repeat' split at h
  all_goals cases h
  all_goals exact coded_other (by decide)

/-- What becomes of a submission: it is refused and nothing is done, or what it does and is
answered is of the daemon. -/
theorem handleCreateTask_answers (conditions : Conditions) (s : FacadeState) :
    ((handleCreateTask web registry config request conditions s).2.db = s.db ∧
      (handleCreateTask web registry config request conditions s).1.status ≠ 202 ∧
      (handleCreateTask web registry config request conditions s).1.status ≠ 409) ∨
    ∃ r, admissible web registry config request = .ok r ∧
      Admission r s.db (handleCreateTask web registry config request conditions s).2.db ∧
      Answers r s.db (handleCreateTask web registry config request conditions s).2.db
        (handleCreateTask web registry config request conditions s).1 := by
  rw [handleCreateTask]
  split
  · rename_i response failed
    exact Or.inl ⟨rfl, admissible_error failed⟩
  rename_i r admitted
  split
  · exact Or.inl ⟨rfl, show 429 ≠ 202 by decide, show 429 ≠ 409 by decide⟩
  obtain ⟨admission, answers⟩ := routeEnqueue_answers r conditions.daemonClock s.db
  have unavailable : ∀ db, Answers r s.db db queueUnavailable := fun db =>
    .other ⟨show 503 ≠ 202 by decide, show 503 ≠ 409 by decide⟩
  refine Or.inr ⟨r, admitted, ?_⟩
  simp only [fetchWithTimeout]
  cases conditions.delivery 0 with
  | answered => exact ⟨admission, answers⟩
  | failed => exact ⟨.refl r s.db, .other ⟨show 502 ≠ 202 by decide, show 502 ≠ 409 by decide⟩⟩
  | unreachable => exact ⟨.refl r s.db, unavailable _⟩
  | unanswered => exact ⟨admission, unavailable _⟩

/-- The records after any request: as they were, or with one of its key. -/
theorem handleRequest_records (conditions : Conditions) (s : FacadeState) :
    (handleRequest web registry config request conditions s).2.db = s.db ∨
    ∃ r, admissible web registry config request = .ok r ∧
      Admission r s.db (handleRequest web registry config request conditions s).2.db := by
  rcases handleRequest_db web registry config request conditions s with same |
    ⟨_, _, r, admitted, stepped⟩
  · exact Or.inl same
  · rw [stepped]
    exact Or.inr ⟨r, admitted, (exec_tells r conditions.daemonClock s.db).1⟩

end Gateway

end KeyedSubmissions
