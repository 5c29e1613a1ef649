import TaskQueQue.SharedDatabase
import TaskQueQue.TaskQuery

/-!
# The status vocabulary of the shared database

Cancellation, admission, metrics and recovery each list statuses of their own.
They agree on the six texts `TaskStatus.parse` accepts, and a row outside them is
in nobody's list. The one writer of such a text is the claiming statement of a
poll, so the database keeps to the vocabulary exactly in the runs where no poll
finds a task to claim.
-/

namespace StatusVocabulary

open QueueValues QueueTables TaskLife KeyedTable GatewayValues AgentDirect SharedDatabase
open SyncQueue Cancellation Idempotency TaskQuery
open Retention (terminalTask)
open QueueRuns (change)

/-- An error of reading a stored status. -/
def DecodingError (err : QueueError) : Prop := ∃ value, TaskStatus.parse value = .error err

/-- What the readers of the task table rely on. -/
structure Vocabulary (db : Db) : Prop where
  parses : ∀ id t, db.tasks.find? id = some t → ∃ status, TaskStatus.parse t.status = .ok status
  cancels : ∀ id t, db.tasks.find? id = some t → ∀ now err,
    cancelTask now id db = .error err → ¬ DecodingError err
  active : activeTasks db = db.tasks.count fun t => !terminalTask t
  buckets : ∀ id t, db.tasks.find? id = some t → ∃! status, bucket status t = true
  known : ∀ observedAt, (metrics observedAt db).unknownStatus = 0
  recovers : ∀ id t u now, db.tasks.find? id = some t → terminalTask t = false →
    t.lockedUntil = some u → u < now →
    (QueueRuns.step (.recoverExpiredLeases now) db).tasks.find? id =
      some (unlockAs "PENDING" now t)

/-! ### Readers of a row in the vocabulary -/

/-- A row whose status parses, and which is not locked while it waits. -/
structure Sound (t : Task) : Prop where
  parses : ∃ status : TaskStatus, t.status = status.asStr
  unlocked : t.status = "PENDING" → t.lockedUntil = none

theorem parse_error_text {value : String} {err : QueueError}
    (h : TaskStatus.parse value = .error err) :
    err = .invalidState ("unknown task status: " ++ value) := by
  unfold TaskStatus.parse at h
  split_ifs at h
  exact (Except.error.inj h).symm

theorem not_decodingError (first : Char) {message : String} (differs : first ≠ 'u')
    (text : message.toList.head? = some first) : ¬ DecodingError (.invalidState message) := by
  rintro ⟨value, h⟩
  have same := QueueError.invalidState.inj (parse_error_text h)
  rw [same, String.toList_append] at text
  have head : some 'u' = some first := text
  exact differs (Option.some.inj head).symm

theorem activeTask_iff {t : Task} (sound : Sound t) :
    t.statusIn ["PENDING", "ASSIGNED", "RUNNING"] = !terminalTask t := by
  obtain ⟨status, h⟩ := sound.parses
  rw [terminalTask, Task.statusIn, Task.statusIn, h]
  cases status <;> decide

theorem cancel_reads {db : Db} {now : Seconds} {id : Int} {t : Task} {err : QueueError}
    (row : db.tasks.find? id = some t) (sound : Sound t) (h : cancelTask now id db = .error err) :
    ¬ DecodingError err := by
  obtain ⟨status, hstatus⟩ := sound.parses
  have parsed := TaskStatus.parse_eq_ok_iff.mpr hstatus
  have live : ∀ status, applyCancel now id status db = .error err → ¬ DecodingError err := by
    intro status h
    unfold applyCancel at h
    split at h
    · cases h
      exact not_decodingError 'l' (by decide) (by simp [String.toList_append])
    · simp only at h
      split at h
      · cases h
        exact not_decodingError 'c' (by decide) (by simp [String.toList_append])
      · cases h
  unfold cancelTask at h
  split at h
  · cases h
    exact not_decodingError 't' (by decide) rfl
  · simp only [row, parsed] at h
    cases status with
    | pending | assigned | running => exact live _ h
    | completed | failed | cancelled => cases h

/-- A sound row that is locked and not over is leased. -/
theorem leased_of_locked {t : Task} (sound : Sound t) (live : terminalTask t = false) {u : Seconds}
    (locked : t.lockedUntil = some u) : t.statusIn ["ASSIGNED", "RUNNING"] = true := by
  obtain ⟨status, h⟩ := sound.parses
  cases status with
  | pending =>
    rw [sound.unlocked h] at locked
    cases locked
  | assigned | running => simp [Task.statusIn, h, TaskStatus.asStr]
  | completed | failed | cancelled =>
    simp [terminalTask, Task.statusIn, h, TaskStatus.asStr] at live

theorem vocabulary_of_sound {db : Db} (sound : ∀ id t, db.tasks.find? id = some t → Sound t) :
    Vocabulary db := by
  have sound_row : ∀ t ∈ db.tasks.rows, Sound t := fun t ht => sound t.id t (Table.find?_of_mem ht)
  refine ⟨fun id t row => ?_, fun id t row now err => cancel_reads row (sound id t row), ?_,
    fun id t row => ?_, fun observedAt => ?_, fun id t u now row live locked expired => ?_⟩
  · obtain ⟨status, h⟩ := (sound id t row).parses
    exact ⟨status, TaskStatus.parse_eq_ok_iff.mpr h⟩
  · exact List.countP_congr fun t ht => by rw [activeTask_iff (sound_row t ht)]
  · obtain ⟨status, h⟩ := (sound id t row).parses
    have parsed := TaskStatus.parse_eq_ok_iff.mpr h
    refine ⟨status, bucket_iff_parse.mpr parsed, fun other hother => ?_⟩
    have again := bucket_iff_parse.mp hother
    rw [parsed] at again
    exact (Except.ok.inj again).symm
  · simp only [metrics, Table.count, List.countP_eq_zero]
    intro t ht unread
    obtain ⟨status, h⟩ := (sound_row t ht).parses
    exact unknown_iff_parse.mp unread ⟨status, TaskStatus.parse_eq_ok_iff.mpr h⟩
  · have guard : recovers now t = true := by
      rw [recovers, leased_of_locked (sound id t row) live locked, Task.lockExpired, locked]
      simp [expired]
    have after : view (db.updateTasks (recovers now) (unlockAs "PENDING" now)
        (unlockAs_id "PENDING" now)) id = { view db id with task := some (unlockAs "PENDING" now t) } :=
      view_updateTasks_hit row guard
    exact congrArg TaskView.task after

/-! ### Runs -/

theorem sound_of_status {t : Task} (status : TaskStatus) (h : t.status = status.asStr)
    (unlocked : status = .pending → t.lockedUntil = none) : Sound t := by
  refine ⟨⟨status, h⟩, fun pending => unlocked ?_⟩
  rw [h] at pending
  cases status with
  | pending => rfl
  | _ => simp [TaskStatus.asStr] at pending

/-- Every move of the queue keeps a row sound. -/
theorem move_sound {id seq seq' : Int} {v v' : TaskView} {c : Change} (move : Move id seq seq' v c v')
    (h : ∀ t, v.task = some t → Sound t) {t : Task} (row : v'.task = some t) : Sound t := by
  cases move with
  | stay => exact h t row
  | create _ _ status _ lock =>
    cases row
    exact sound_of_status .pending status fun _ => lock
  | assign =>
    cases row
    exact sound_of_status .assigned rfl (by simp)
  | release =>
    cases row
    exact sound_of_status .pending rfl fun _ => rfl
  | claim =>
    cases row
    exact sound_of_status .running rfl (by simp)
  | extend _ holds =>
    cases row
    exact sound_of_status .running holds.running (by simp)
  | complete | project =>
    cases row
    exact sound_of_status .completed rfl (by simp)
  | retry =>
    cases row
    exact sound_of_status .pending rfl fun _ => rfl
  | exhaust =>
    cases row
    exact sound_of_status .failed rfl (by simp)
  | cancel =>
    cases row
    exact sound_of_status .cancelled rfl (by simp)
  | prune => cases row

/-- No poll's claiming UPDATE finds a task at this step. -/
def ClaimsNothing (e : Event) (s : Shared) : Prop :=
  match e with
  | .statement n _ clock' => ∀ agentId, s.jobs n = some (.claim agentId) →
      nextForAgents s.db clock' = none
  | _ => True

theorem statement_sound {rt : Runtime} {s : Shared} {n : Nat} {clock clock' : Seconds} {job : Job}
    (jobs : JobsSound s) (running : s.jobs n = some job)
    (idle : ClaimsNothing (.statement n clock clock') s) {id : Int}
    (h : ∀ t, (view s.db id).task = some t → Sound t) {t : Task}
    (row : (view (job.statement rt clock clock' s.db).2 id).task = some t) : Sound t := by
  have move := statement_effect rt n clock clock' job s.db id
  have quiet : ∀ agentId, job = .claim agentId → claimEvent id n clock clock' job s.db = .quiet := by
    rintro agentId rfl
    simp [claimEvent, idle agentId running]
  generalize claimEvent id n clock clock' job s.db = event,
    view (job.statement rt clock clock' s.db).2 id = v' at move row quiet
  cases move with
  | stay => exact h t row
  | release =>
    cases row
    exact sound_of_status .pending rfl fun _ => rfl
  | claim agentId => cases quiet agentId rfl
  | giveBack =>
    cases row
    exact sound_of_status .pending rfl fun _ => rfl
  | submit agentId status resultStr =>
    cases row
    rcases jobs.status n agentId id status resultStr running with rfl | rfl
    · exact sound_of_status .completed rfl (by simp)
    · exact sound_of_status .failed rfl (by simp)
  | store => exact h t row

def SoundRows (db : Db) : Prop := ∀ id t, (view db id).task = some t → Sound t

theorem step_sound {rt : Runtime} {e : Event} {s : Shared} (jobs : JobsSound s)
    (idle : ClaimsNothing e s) (h : SoundRows s.db) : SoundRows (step rt e s).db := by
  cases e with
  | queue op =>
    intro id t row
    rcases (queue_effect op s.db id).2 with move | ⟨_, admitted⟩
    · exact move_sound move (h id) row
    · obtain ⟨t', row', pending, _, unlocked⟩ := admitted.row
      have same : t = t' := Option.some.inj (row.symm.trans row')
      exact same ▸ sound_of_status .pending pending fun _ => unlocked
  | request request now token =>
    rw [step_request]
    exact h
  | statement n clock clock' =>
    cases running : s.jobs n with
    | none =>
      rw [step_idle running]
      exact h
    | some job =>
      rw [step_statement running]
      exact fun id t row => statement_sound jobs running idle (h id) row

theorem run_sound {rt : Runtime} {events : List Event}
    (idle : Histories.AllSteps (step rt) ClaimsNothing .start events) :
    SoundRows (run rt events).db := by
  have kept : ∀ e s, ClaimsNothing e s → JobsSound s ∧ SoundRows s.db →
      JobsSound (step rt e s) ∧ SoundRows (step rt e s).db := fun e s idle h =>
    ⟨step_jobsSound h.1, step_sound h.1 idle h.2⟩
  have start : JobsSound .start ∧ SoundRows Shared.start.db :=
    ⟨run_jobsSound rt [], fun id t row => by cases row⟩
  exact (Histories.run_preserves_allowed (P := fun s : Shared => JobsSound s ∧ SoundRows s.db)
    kept idle start).2

/-- A claim leaves a row whose status nothing reads. -/
theorem claim_breaks {rt : Runtime} {s : Shared} {n : Nat} {agentId : String}
    {clock clock' : Seconds} {task : Task} (running : s.jobs n = some (.claim agentId))
    (claimed : nextForAgents s.db clock' = some task) :
    ¬ Vocabulary (step rt (.statement n clock clock') s).db := by
  intro vocabulary
  obtain ⟨row, _⟩ := nextForAgents_spec claimed
  have after : view (step rt (.statement n clock clock') s).db task.id =
      { view s.db task.id with task := some (claimFor agentId (clock + 60) task) } := by
    rw [step_statement running, claim_statement_db, claimNext, claimed]
    exact view_updateTasks_hit row (by simp [named])
  obtain ⟨status, parsed⟩ := vocabulary.parses task.id _ (congrArg TaskView.task after)
  rw [TaskStatus.parse_eq_ok_iff] at parsed
  cases status <;> simp [claimFor, TaskStatus.asStr] at parsed

/-- The database keeps to the vocabulary in every state of a run exactly when no
poll of the run claims a task. -/
theorem vocabulary_iff_claims_nothing (rt : Runtime) (events : List Event) :
    (∀ before later, events = before ++ later → Vocabulary (run rt before).db) ↔
      Histories.AllSteps (step rt) ClaimsNothing .start events := by
  constructor
  · intro vocabulary
    rw [Histories.allSteps_iff_at]
    intro before e after hevents
    cases e with
    | statement n clock clock' =>
      intro agentId running
      by_contra claims
      obtain ⟨task, claimed⟩ := Option.ne_none_iff_exists'.mp claims
      have broken : ¬ Vocabulary (step rt (.statement n clock clock') (run rt before)).db :=
        claim_breaks running claimed
      have kept := vocabulary (before ++ [.statement n clock clock']) after (by simp [hevents])
      rw [run_concat] at kept
      exact broken kept
    | queue | request => trivial
  · rintro idle before later rfl
    exact vocabulary_of_sound (run_sound (Histories.allSteps_append.mp idle).1)

/-- A poll claims the agent's task, and its row has no known status. -/
theorem poll_leaves_vocabulary :
    ¬ ∀ (rt : Runtime) (events : List Event), Vocabulary (run rt events).db := by
  intro h
  obtain ⟨t, row⟩ : ∃ t, (run agentRuntime polled).db.tasks.find? 1 = some t ∧
      t.status = "CLAIMED" := by
    have claimed : ((run agentRuntime polled).db.tasks.find? 1).map Task.status = some "CLAIMED" := by
      decide +kernel
    simpa [Option.map_eq_some_iff] using claimed
  obtain ⟨status, parsed⟩ := (h agentRuntime polled).parses 1 _ row.1
  rw [TaskStatus.parse_eq_ok_iff, row.2] at parsed
  cases status <;> simp [TaskStatus.asStr] at parsed

end StatusVocabulary
