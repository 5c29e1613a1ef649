import TaskQueQue.TaskQuery
import TaskQueQue.QueueInvariants

/-!
# The metrics and the operations they describe

The metrics query and the operations write their conditions on a row each for
itself. They are compared here, at every moment: what the metrics call expired,
a recovery at that moment takes back; what they call runnable, a dispatch may take.
-/

namespace MetricsAgreement

open QueueValues QueueTables TaskLife KeyedTable SyncQueue TaskQuery QueueRuns QueueInvariants

variable {now : Seconds} {db : Db}

/-- The rows that stand PENDING after a step and did not before. -/
def returned (db' : Db) (t : Task) : Bool :=
  decide (t.status ≠ "PENDING") &&
    (db'.tasks.find? t.id).any fun t' => decide (t'.status = "PENDING")

structure Agrees (now : Seconds) (db : Db) : Prop where
  partition : ∀ t ∈ db.tasks.rows, ∃! status, bucket status t = true
  total : let m := metrics now db
    m.pending + m.assigned + m.running + m.completed + m.failed + m.cancelled = m.totalTasks
  known : (metrics now db).unknownStatus = 0
  deadlines : (metrics now db).activeWithoutLeaseDeadline = 0
  recovery : ∃ affected db', recoverExpiredLeases now db = .ok (affected, db') ∧
    affected = (metrics now db).expiredLeases ∧
    db.tasks.count (returned db') = (metrics now db).expiredLeases ∧
    (metrics now db').expiredLeases = 0
  dispatch : ∀ limit : Int, (runnable db now (fun _ => true) limit).length =
    min limit.toNat (metrics now db).pendingRunnable
  delayed : (metrics now db).pendingRunnable + (metrics now db).pendingDelayed =
    (metrics now db).pending
  leases : (metrics now db).activeLeases + (metrics now db).expiredLeases =
    (metrics now db).assigned + (metrics now db).running

/-! ### What holds of any table -/

theorem dispatch_agrees (limit : Int) : (runnable db now (fun _ => true) limit).length =
    min limit.toNat (metrics now db).pendingRunnable := by
  rw [runnable, List.length_take, List.length_insertionSort, Table.select,
    ← List.countP_eq_length_filter]
  simp only [Bool.and_true]
  rfl

theorem delayed_agrees : (metrics now db).pendingRunnable + (metrics now db).pendingDelayed =
    (metrics now db).pending := by
  apply Table.count_split
  intro t _
  by_cases pending : t.status = "PENDING"
  · by_cases due : t.scheduledAt ≤ now
    · simp [runnableAt, bucket, TaskStatus.asStr, pending, due]
    · simp [runnableAt, bucket, TaskStatus.asStr, pending, due, Rat.not_le.mp due]
  · simp [runnableAt, bucket, TaskStatus.asStr, pending]

/-- Recovery takes back the rows whose lease has expired, and leaves none. -/
theorem recovered_rows {t' : Task} (mem : t' ∈ (db.tasks.update (recovers now)
    (unlockAs "PENDING" now) (unlockAs_id "PENDING" now)).rows) : recovers now t' = false := by
  obtain ⟨t, _, rfl⟩ := List.mem_map.mp mem
  by_cases expired : recovers now t = true
  · rw [if_pos expired]
    rfl
  · rw [if_neg expired]
    exact Bool.eq_false_iff.mpr expired

theorem returned_iff {t : Task} (mem : t ∈ db.tasks.rows) :
    returned (db.updateTasks (recovers now) (unlockAs "PENDING" now) (unlockAs_id "PENDING" now))
      t = recovers now t := by
  rw [returned, Db.updateTasks_tasks, Table.find?_update, Table.find?_of_mem mem, Option.map_some,
    Option.any_some]
  by_cases expired : recovers now t = true
  · have leased : t.statusIn ["ASSIGNED", "RUNNING"] = true := (Bool.and_eq_true_iff.mp expired).1
    have other : t.status ≠ "PENDING" := by
      intro pending
      simp [Task.statusIn, pending] at leased
    rw [if_pos expired, expired, decide_eq_true other]
    rfl
  · rw [if_neg expired, Bool.eq_false_iff.mpr expired]
    by_cases pending : t.status = "PENDING"
    · simp [pending]
    · simp [pending]

theorem recovery_agrees : ∃ affected db', recoverExpiredLeases now db = .ok (affected, db') ∧
    affected = (metrics now db).expiredLeases ∧
    db.tasks.count (returned db') = (metrics now db).expiredLeases ∧
    (metrics now db').expiredLeases = 0 := by
  refine ⟨_, _, rfl, rfl, ?_, ?_⟩
  · apply List.countP_congr
    intro t mem
    rw [returned_iff mem]
    rfl
  · apply List.countP_eq_zero.mpr
    intro t' mem
    have gone := recovered_rows mem
    rw [recovers] at gone
    rw [leased, gone]
    exact Bool.false_ne_true

/-! ### What holds of a queue -/

theorem partition_agrees (sound : Represents db) :
    ∀ t ∈ db.tasks.rows, ∃! status, bucket status t = true := by
  intro t mem
  obtain ⟨status, known⟩ := sound.known t mem
  refine ⟨status, decide_eq_true known, ?_⟩
  intro other counted
  have same : other.asStr = status.asStr := (of_decide_eq_true counted).symm.trans known
  have parsed := TaskStatus.parse_asStr other
  rw [same, TaskStatus.parse_asStr] at parsed
  exact (Except.ok.inj parsed).symm

theorem known_agrees (sound : Represents db) : (metrics now db).unknownStatus = 0 := by
  apply List.countP_eq_zero.mpr
  intro t mem counted
  obtain ⟨status, known⟩ := sound.known t mem
  exact unknown_iff_parse.mp counted ⟨status, TaskStatus.parse_eq_ok_iff.mpr known⟩

theorem deadlines_agree (sound : Represents db) :
    (metrics now db).activeWithoutLeaseDeadline = 0 := by
  apply List.countP_eq_zero.mpr
  intro t mem counted
  obtain ⟨active, missing⟩ := Bool.and_eq_true_iff.mp counted
  obtain ⟨_, deadline⟩ := sound.locked t mem active
  rw [Option.isNone_iff_eq_none] at missing
  rw [missing] at deadline
  cases deadline

theorem leases_agree (sound : Represents db) :
    (metrics now db).activeLeases + (metrics now db).expiredLeases =
      (metrics now db).assigned + (metrics now db).running := by
  have active : (metrics now db).activeLeases + (metrics now db).expiredLeases =
      db.tasks.count leased := by
    apply Table.count_split
    intro t mem
    by_cases held : leased t = true
    · obtain ⟨deadline, some_deadline⟩ := Option.isSome_iff_exists.mp (sound.locked t mem held).2
      rw [held, Task.lockedUntilFrom, Task.lockExpired, some_deadline]
      by_cases live : now ≤ deadline
      · simp [live]
      · simp [live, Rat.not_le.mp live]
    · rw [Bool.eq_false_iff.mpr held]
      rfl
  have statuses : (metrics now db).assigned + (metrics now db).running = db.tasks.count leased := by
    apply Table.count_split
    intro t _
    by_cases assigned : t.status = "ASSIGNED"
    · simp [leased, Task.statusIn, bucket, TaskStatus.asStr, assigned]
    · simp [leased, Task.statusIn, bucket, TaskStatus.asStr, assigned, eq_comm]
  rw [active, statuses]

theorem agrees_of_represents (now : Seconds) (sound : Represents db) : Agrees now db where
  partition := partition_agrees sound
  total := by
    have all := metrics_total now db
    dsimp only at all ⊢
    rwa [known_agrees sound, Nat.add_zero] at all
  known := known_agrees sound
  deadlines := deadlines_agree sound
  recovery := recovery_agrees
  dispatch := dispatch_agrees
  delayed := delayed_agrees
  leases := leases_agree sound

/-- In every state the queue reaches, and at every moment. -/
theorem metrics_agree (ops : List Op) (now : Seconds) : Agrees now (run ops) :=
  agrees_of_represents now (represents_of_coherent (run_coherent ops))

end MetricsAgreement
