import TaskQueQue.SharedDatabase

/-!
# The formats of result rows

Two writers store results: the fenced completion of the queue and the result
handler of the gateway. The reader decodes what the former writes and nothing
that the latter does, whose byte count is a BLOB and whose generation is zero.
-/

namespace ResultFormats

open QueueValues QueueTables TaskLife KeyedTable GatewayValues AgentDirect SharedDatabase
open LeaseFence ResultProjection
open QueueRuns (exec)

/-- The task a step completes by storing a result, and the text it stores. -/
def writes (e : Event) (s : Shared) : Option (Int × String) :=
  match e with
  | .queue (.completeWithProjection now taskId workerId generation resultJson) =>
    if (exec (.completeWithProjection now taskId workerId generation resultJson) s.db).1 =
      .mutation .applied then some (taskId, resultJson) else none
  | .statement n _ _ =>
    match s.jobs n with
    | some (.storeResult _ taskId _ resultStr) =>
      if (s.db.tasks.find? taskId).any fun t => decide (t.status = "COMPLETED") then
        some (taskId, resultStr)
      else none
    | _ => none
  | _ => none

/-- The reader gets the text back with its size, and the row carries the task's
fence generation. -/
structure RoundTrips (db : Db) (taskId : Int) (text : String) : Prop where
  read : get db taskId = .ok (some ⟨taskId, text, text.utf8ByteSize⟩)
  fenced : ∃ r, db.results.find? taskId = some r ∧ r.leaseGeneration = db.generationOf taskId

def byProjection : Event → Bool
  | .queue _ => true
  | _ => false

theorem projection_roundTrips {db : Db} {now : Seconds} {taskId generation : Int}
    {workerId resultJson : String}
    (applied : (exec (.completeWithProjection now taskId workerId generation resultJson) db).1 =
      .mutation .applied) :
    RoundTrips (QueueRuns.step (.completeWithProjection now taskId workerId generation resultJson) db)
      taskId resultJson := by
  rcases QueueRuns.answer_cases .mutation
    (completeWithProjection now taskId workerId generation resultJson) db with
    ⟨mutation, db', hok, hans⟩ | ⟨err, _, hans⟩
  · have hexec : exec (.completeWithProjection now taskId workerId generation resultJson) db =
        (.mutation mutation, db') := hans
    rw [hexec] at applied
    cases applied
    rw [QueueRuns.step, hexec]
    rcases completeWithProjection_cases hok with ⟨stale, _⟩ | ⟨_, _, _, t, holds, hview, _⟩
    · cases stale
    · have task : db'.tasks.find? taskId = some (unlockAs "COMPLETED" now t) :=
        congrArg TaskView.task hview
      have result : db'.results.find? taskId =
          some (projectionRow now taskId generation resultJson) := congrArg TaskView.result hview
      have fence : (view db' taskId).fence = some generation := by
        rw [hview]
        exact holds.fence
      constructor
      · simp only [ResultProjection.get, task, result, unlockAs, if_true, decode, projectionRow]
        rfl
      · refine ⟨_, result, ?_⟩
        rw [← view_generation, TaskView.generation, fence]
        rfl
  · have hexec : exec (.completeWithProjection now taskId workerId generation resultJson) db =
        (.failed err, db) := hans
    rw [hexec] at applied
    cases applied

/-- Whatever the row held before, the upsert leaves a BLOB in `result_bytes`. -/
theorem storeResult_unreadable {db : Db} {taskId : Int} {resultStr : String} (now : Seconds)
    (completed : (db.tasks.find? taskId).any (fun t => decide (t.status = "COMPLETED")) = true) :
    get (AgentDirect.storeResult taskId resultStr now db) taskId =
      .error (.sqlite (.invalidColumnType "result_bytes")) := by
  obtain ⟨t, row, status⟩ := (Option.any_eq_true _ _).mp completed
  have stored := view_storeResult taskId resultStr now db taskId
  rw [if_pos rfl] at stored
  have task : (AgentDirect.storeResult taskId resultStr now db).tasks.find? taskId = some t :=
    (congrArg TaskView.task stored).trans row
  have result : (AgentDirect.storeResult taskId resultStr now db).results.find? taskId =
      some ((view db taskId).result.elim (resultRow taskId resultStr now)
        (overwrite (resultRow taskId resultStr now))) := congrArg TaskView.result stored
  simp only [ResultProjection.get, task, result, of_decide_eq_true status, if_true]
  cases (view db taskId).result <;> rfl

/-- Of the steps that complete a task by storing a result, in any run, exactly the
fenced completions store one in the reader's format. -/
theorem roundTrips_iff_byProjection (rt : Runtime) (events : List Event) (e : Event) :
    match writes e (run rt events) with
    | none => True
    | some (taskId, text) =>
      RoundTrips (run rt (events ++ [e])).db taskId text ↔ byProjection e = true := by
  rw [run_concat]
  generalize run rt events = s
  split
  · trivial
  · rename_i taskId text hwrites
    unfold writes at hwrites
    split at hwrites
    · split at hwrites
      · rename_i applied
        cases hwrites
        exact ⟨fun _ => rfl, fun _ => projection_roundTrips applied⟩
      · cases hwrites
    · rename_i n clock clock'
      split at hwrites
      · rename_i running
        split at hwrites
        · rename_i completed
          cases hwrites
          refine ⟨fun roundTrips => ?_, fun h => by cases h⟩
          have read := roundTrips.read
          rw [step_statement running, Job.statement, storeResult_unreadable clock completed] at read
          cases read
        · cases hwrites
      · cases hwrites
    · cases hwrites

/-- The agent of the sample run submits its result, and the reader fails on it. -/
theorem submitted_result_unreadable :
    ¬ ∀ (rt : Runtime) (events : List Event) (e : Event) (taskId : Int) (text : String),
      writes e (run rt events) = some (taskId, text) →
        RoundTrips (run rt (events ++ [e])).db taskId text := by
  intro h
  have written : writes (.statement 2 0 0)
      (run agentRuntime (polled ++ [submission, .statement 2 0 0])) = some (1, "\"done\"") := by
    decide +kernel
  have read := (h _ _ _ _ _ written).read
  have unreadable : get (run agentRuntime (polled ++ [submission, .statement 2 0 0] ++
      [.statement 2 0 0])).db 1 = .error (.sqlite (.invalidColumnType "result_bytes")) := by
    decide +kernel
  rw [unreadable] at read
  cases read

end ResultFormats
