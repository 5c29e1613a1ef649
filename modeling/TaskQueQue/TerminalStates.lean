import TaskQueQue.LeaseSafety

/-!
# Terminal states are absorbing

Once a task is COMPLETED, FAILED or CANCELLED, no move but pruning touches
anything the database holds about it, and the operation that ended it is the
only one ever to report so. `Outcomes` counts the terminal reports in a task's
history against its row.
-/

namespace TerminalStates

open QueueValues QueueTables TaskLife KeyedTable LeaseFence Cancellation Retention QueueRuns
open QueueInvariants LeaseSafety

theorem terminalTask_iff {t : Task} :
    terminalTask t ↔ ∃ s : TaskStatus, s.terminal = true ∧ t.status = s.asStr := by
  constructor
  · intro h
    simp only [terminalTask, Task.statusIn, List.contains_cons, List.contains_nil, Bool.or_false,
      Bool.or_eq_true, beq_iff_eq] at h
    rcases h with h | h | h
    · exact ⟨.completed, rfl, h⟩
    · exact ⟨.failed, rfl, h⟩
    · exact ⟨.cancelled, rfl, h⟩
  · rintro ⟨s, hs, status⟩
    cases s <;> simp_all [terminalTask, Task.statusIn, TaskStatus.asStr, TaskStatus.terminal]

theorem not_terminal_of_status {t : Task} {status : String} (h : t.status = status)
    (live : ["COMPLETED", "FAILED", "CANCELLED"].contains status = false) :
    terminalTask t = false := by
  rw [terminalTask, Task.statusIn, h, live]

/-- From a terminal row a task stays as it is or is pruned. -/
theorem move_of_terminal {id seq seq' : Int} {v v' : TaskView} {c : Change} {t : Task}
    (move : Move id seq seq' v c v') (row : v.task = some t) (done : terminalTask t) :
    (c = .quiet ∧ v' = v) ∨ (c = .pruned ∧ v' = .absent) := by
  have notLive : ∀ {t' : Task} {status : String}, v.task = some t' → t'.status = status →
      ["COMPLETED", "FAILED", "CANCELLED"].contains status = false → False := by
    intro t' status row' hstatus live
    rw [row, Option.some.injEq] at row'
    rw [row', not_terminal_of_status hstatus live] at done
    cases done
  cases move with
  | stay => exact Or.inl ⟨rfl, rfl⟩
  | create => cases row
  | assign _ _ _ row' pending => exact (notLive row' pending (by decide)).elim
  | release _ row' leased =>
    simp only [Task.statusIn, List.contains_cons, List.contains_nil, Bool.or_false,
      Bool.or_eq_true, beq_iff_eq] at leased
    exact (leased.elim (notLive row' · (by decide)) (notLive row' · (by decide))).elim
  | claim _ row' assigned => exact (notLive row' assigned (by decide)).elim
  | extend _ holds => exact (notLive holds.row holds.running (by decide)).elim
  | complete holds => exact (notLive holds.row holds.running (by decide)).elim
  | project holds => exact (notLive holds.row holds.running (by decide)).elim
  | retry _ _ holds => exact (notLive holds.row holds.running (by decide)).elim
  | exhaust _ holds => exact (notLive holds.row holds.running (by decide)).elim
  | cancel _ row' active =>
    simp only [Task.statusIn, activeStatuses, List.contains_cons, List.contains_nil, Bool.or_false,
      Bool.or_eq_true, beq_iff_eq] at active
    rcases active with h | h | h
    · exact (notLive row' h (by decide)).elim
    · exact (notLive row' h (by decide)).elim
    · exact (notLive row' h (by decide)).elim
  | prune => exact Or.inr ⟨rfl, rfl⟩

/-- The fence never falls while the task exists. -/
theorem move_generation {id seq seq' : Int} {v v' : TaskView} {c : Change}
    (move : Move id seq seq' v c v') (present : v.task.isSome) (present' : v'.task.isSome) :
    v.generation ≤ v'.generation := by
  cases move with
  | create => cases present
  | prune => cases present'
  | claim | cancel =>
    simp only [TaskView.generation, Option.getD_some]
    omega
  | stay | assign | release | extend | complete | project | retry | exhaust => exact le_refl _

/-- A task that loses its row loses everything. -/
theorem move_to_none {id seq seq' : Int} {v v' : TaskView} {c : Change}
    (move : Move id seq seq' v c v') (present : v.task.isSome) (gone : v'.task = none) :
    v' = .absent := by
  cases move with
  | prune => rfl
  | stay => simp [gone] at present
  | create => cases present
  | assign | release | claim | extend | complete | project | retry | exhaust | cancel => cases gone

/-- A task that is gone stays gone. -/
theorem move_of_gone {id seq seq' : Int} {v' : TaskView} {c : Change}
    (move : Move id seq seq' .absent c v') (used : id ≤ seq) : v' = .absent := by
  rcases move.of_absent with same | ⟨fresh, _⟩
  · exact same
  · omega

theorem run_of_gone {db : Db} {id : Int} (fresh : Fresh db) (used : id ≤ db.taskSeq)
    (gone : view db id = .absent) (later : List Op) :
    view (Histories.run step db later) id = .absent := by
  have preserved : ∀ op db, (Fresh db ∧ id ≤ db.taskSeq ∧ view db id = .absent) →
      (Fresh (step op db) ∧ id ≤ (step op db).taskSeq ∧ view (step op db) id = .absent) := by
    rintro op db ⟨fresh, used, gone⟩
    have advances := exec_advances fresh op
    have move := advances.move id
    rw [gone] at move
    exact ⟨step_fresh op db fresh, used.trans advances.seq, move_of_gone move used⟩
  exact (Histories.run_preserves preserved ⟨fresh, used, gone⟩ later).2.2

/-! ### Runs after a terminal state -/

/-- Later operations leave a finished task alone, or prune it whole. -/
theorem run_of_terminal {db : Db} {id : Int} {t : Task} (fresh : Fresh db)
    (row : (view db id).task = some t) (done : terminalTask t) (later : List Op) :
    view (Histories.run step db later) id = view db id ∨
      (view (Histories.run step db later) id = .absent ∧ ∃ n, .pruneToMax n ∈ later) := by
  induction later generalizing db with
  | nil => exact Or.inl rfl
  | cons op later ih =>
    have advances := exec_advances fresh op
    have used := known_of_fresh fresh id (by simp [row])
    rcases move_of_terminal (advances.move id) row done with ⟨_, stays⟩ | ⟨hc, absent⟩
    · rcases ih (step_fresh op db fresh) (stays ▸ row) with same | ⟨gone, n, hn⟩
      · exact Or.inl (same.trans stays)
      · exact Or.inr ⟨gone, n, List.mem_cons_of_mem _ hn⟩
    · have behind := noted_of_change hc (by simp)
      generalize (exec op db).1 = reply at behind
      cases behind with
      | pruned n =>
        refine Or.inr ⟨?_, n, List.mem_cons_self⟩
        exact run_of_gone (step_fresh _ db fresh) (used.trans advances.seq) absent later

theorem run_generation {db : Db} {id : Int} (fresh : Fresh db)
    (present : (view db id).task.isSome) (later : List Op)
    (present' : (view (Histories.run step db later) id).task.isSome) :
    (view db id).generation ≤ (view (Histories.run step db later) id).generation := by
  induction later generalizing db with
  | nil => exact le_refl _
  | cons op later ih =>
    have advances := exec_advances fresh op
    have used := known_of_fresh fresh id present
    have move := advances.move id
    cases row : (view (step op db) id).task with
    | some t =>
      have here : (view (step op db) id).task.isSome := by simp [row]
      exact (move_generation move present here).trans (ih (step_fresh op db fresh) here present')
    | none =>
      have absent := move_to_none move present row
      have gone := run_of_gone (step_fresh op db fresh) (used.trans advances.seq) absent later
      rw [Histories.run_cons, gone] at present'
      cases present'

/-! ### Terminal reports -/

/-- Whether this step reports that it ended the task: a completion, a failure
with the budget spent, or a cancellation, each applied. -/
def reportsTerminal (id : Int) (op : Op) (db : Db) : Bool :=
  match op with
  | .completeTask _ taskId _ _ | .completeWithProjection _ taskId _ _ _ =>
    decide (taskId = id ∧ (exec op db).1 = .mutation .applied)
  | .failTask _ taskId _ _ _ =>
    decide (taskId = id ∧ (exec op db).1 = .mutation .applied ∧ budgetSpent db id = true)
  | .cancelTask _ taskId => decide (taskId = id ∧ (exec op db).1 = .cancellation .applied)
  | _ => false

theorem terminal_appliedChange (taskId id : Int) (c : Change) (mutation : LeaseMutation) :
    (appliedChange taskId c mutation id).terminal =
      decide (taskId = id ∧ mutation = .applied ∧ c.terminal = true) := by
  unfold appliedChange
  split
  · rename_i h
    simp [h.1, h.2]
  · rename_i h
    have hne : ¬ (taskId = id ∧ mutation = .applied ∧ c.terminal = true) := fun ⟨e, ha, _⟩ =>
      h ⟨ha, e.symm⟩
    simp [hne]

theorem reportsTerminal_eq (id : Int) (op : Op) (db : Db) :
    reportsTerminal id op db = (change id op db).terminal := by
  unfold change reportsTerminal
  generalize (exec op db).1 = reply
  cases op with
  | completeTask now taskId w g =>
    cases reply <;> simp [noted, terminal_appliedChange]
  | completeWithProjection now taskId w g resultJson =>
    cases reply <;> simp [noted, terminal_appliedChange]
  | failTask now taskId w g errorMsg =>
    cases reply with
    | mutation m =>
      by_cases hid : taskId = id
      · subst hid
        cases hspent : budgetSpent db taskId <;>
          simp [noted, terminal_appliedChange, failChange, hspent]
      · simp [noted, terminal_appliedChange, hid]
    | _ => simp [noted]
  | recoverExpiredLeases now =>
    cases reply with
    | recovered n =>
      simp only [noted]
      split <;> rfl
    | _ => rfl
  | claimTask now w =>
    cases reply with
    | claimed task =>
      simp only [noted, claimChange]
      split
      · split <;> rfl
      · rfl
    | _ => rfl
  | cancelTask now taskId =>
    cases reply with
    | cancellation outcome =>
      by_cases h : outcome = .applied ∧ id = taskId
      · simp [noted, cancelChange, h]
      · have hne : ¬ (taskId = id ∧ outcome = .applied) := by
          rintro ⟨e, ha⟩
          exact h ⟨ha, e.symm⟩
        simp [noted, cancelChange, h, hne]
    | _ => simp [noted]
  | pruneToMax maxTerminalTasks =>
    cases reply with
    | retention result =>
      simp only [noted, pruneChange]
      split <;> rfl
    | _ => rfl
  | enqueue now taskName taskType payload priority maxRetries =>
    cases reply with
    | enqueued taskId =>
      simp only [noted, SyncQueue.createdChange]
      split <;> rfl
    | _ => rfl
  | enqueueBounded now key fingerprint taskName taskType payload priority maxRetries limit =>
    cases reply with
    | admission result =>
      cases result with
      | created taskId =>
        simp only [noted, Idempotency.admissionChange, SyncQueue.createdChange]
        split <;> rfl
      | _ => rfl
    | _ => rfl
  | dispatchBatch | dispatchRegistered | heartbeat => cases reply <;> rfl

/-- A task's row against the number of terminal reports in its history. -/
structure Outcomes (id seq : Int) (past : List Change) (v : TaskView) : Prop where
  row : ∀ t, v.task = some t → 0 < id ∧ id ≤ seq ∧
    past.countP Change.terminal = if terminalTask t then 1 else 0
  gone : v.task = none → past.countP Change.terminal ≤ 1 ∧
    (0 < past.countP Change.terminal → 0 < id ∧ id ≤ seq)

theorem absent_outcomes (id seq : Int) : Outcomes id seq [] .absent :=
  ⟨(fun _ h => nomatch h), fun _ => by simp⟩

/-- A live row moves to a terminal one exactly by a terminal change. -/
theorem Outcomes.next {id seq seq' : Int} {past : List Change} {v v' : TaskView} {c : Change}
    {t t' : Task} (h : Outcomes id seq past v) (hseq : seq ≤ seq') (row : v.task = some t)
    (live : terminalTask t = false) (row' : v'.task = some t') (agrees : terminalTask t' = c.terminal) :
    Outcomes id seq' (past ++ [c]) v' := by
  obtain ⟨pos, used, count⟩ := h.row t row
  refine ⟨fun x hx => ⟨pos, used.trans hseq, ?_⟩, fun hx => by simp [row'] at hx⟩
  rw [row', Option.some.injEq] at hx
  rw [List.countP_append, count, live, List.countP_singleton, ← hx, agrees]
  simp

theorem Outcomes.settle {id seq seq' : Int} {past : List Change} {v v' : TaskView} {c : Change}
    {w : String} {g : Int} {now : Seconds} {t t' : Task} (h : Outcomes id seq past v)
    (hseq : seq ≤ seq') (holds : Holds v w g now t) (row' : v'.task = some t')
    (agrees : terminalTask t' = c.terminal) : Outcomes id seq' (past ++ [c]) v' :=
  h.next hseq holds.row (not_terminal_of_status holds.running (by decide)) row' agrees

theorem move_outcomes {id seq seq' : Int} {past : List Change} {v v' : TaskView} {c : Change}
    (move : Move id seq seq' v c v') (nonneg : 0 ≤ seq) (hseq : seq ≤ seq')
    (h : Outcomes id seq past v) : Outcomes id seq' (past ++ [c]) v' := by
  cases move with
  | stay =>
    have same : (past ++ [Change.quiet]).countP Change.terminal = past.countP Change.terminal := by
      simp [List.countP_append]
    refine ⟨fun t row => ?_, fun gone => ?_⟩
    · obtain ⟨pos, used, count⟩ := h.row t row
      exact ⟨pos, used.trans hseq, same.trans count⟩
    · obtain ⟨once, known⟩ := h.gone gone
      rw [same]
      exact ⟨once, fun hpos => ⟨(known hpos).1, (known hpos).2.trans hseq⟩⟩
  | create fresh counted status =>
    have none_yet : past.countP Change.terminal = 0 := by
      by_contra hne
      have := ((h.gone rfl).2 (Nat.pos_of_ne_zero hne)).2
      omega
    refine ⟨fun t row => ⟨by omega, counted, ?_⟩, fun gone => by cases gone⟩
    cases row
    rw [not_terminal_of_status status (by decide)]
    simp [List.countP_append, none_yet]
  | assign worker leaseUntil now row pending =>
    exact h.next hseq row (not_terminal_of_status pending (by decide)) rfl rfl
  | @release _ t now row leased =>
    have live : terminalTask t = false := by
      simp only [Task.statusIn, List.contains_cons, List.contains_nil, Bool.or_false,
        Bool.or_eq_true, beq_iff_eq] at leased
      rcases leased with status | status <;> exact not_terminal_of_status status (by decide)
    exact h.next hseq row live rfl rfl
  | claim now row assigned =>
    exact h.next hseq row (not_terminal_of_status assigned (by decide)) rfl rfl
  | extend leaseUntil holds =>
    exact h.settle hseq holds rfl (not_terminal_of_status holds.running (by decide))
  | complete holds => exact h.settle hseq holds rfl rfl
  | project holds => exact h.settle hseq holds rfl rfl
  | retry _ _ holds => exact h.settle hseq holds rfl rfl
  | exhaust _ holds => exact h.settle hseq holds rfl rfl
  | @cancel _ t now row active =>
    have live : terminalTask t = false := by
      simp only [Task.statusIn, activeStatuses, List.contains_cons, List.contains_nil,
        Bool.or_false, Bool.or_eq_true, beq_iff_eq] at active
      rcases active with status | status | status <;>
        exact not_terminal_of_status status (by decide)
    exact h.next hseq row live rfl rfl
  | @prune _ t row done =>
    obtain ⟨pos, used, count⟩ := h.row t row
    rw [if_pos (show terminalTask t from done)] at count
    refine ⟨fun _ hx => (by cases hx), fun _ => ?_⟩
    rw [List.countP_append, count]
    exact ⟨le_refl _, fun _ => ⟨pos, used.trans hseq⟩⟩

theorem run_outcomes (ops : List Op) (id : Int) :
    Outcomes id (run ops).taskSeq (history id ops) (view (run ops) id) := by
  have preserved : ∀ past op db,
      (Fresh db ∧ Outcomes id db.taskSeq past (view db id)) →
        (Fresh (step op db) ∧ Outcomes id (step op db).taskSeq (past ++ [change id op db])
          (view (step op db) id)) := by
    rintro past op db ⟨fresh, outcomes⟩
    have advances := exec_advances fresh op
    exact ⟨step_fresh op db fresh,
      move_outcomes (advances.move id) fresh.1 advances.seq outcomes⟩
  exact (Histories.history_invariant preserved ⟨empty_fresh, absent_outcomes id 0⟩ ops).2

/-! ### The losers of a race -/

/-- Whatever tries to end the task now learns that it has ended already. -/
structure Settled (db : Db) (id : Int) : Prop where
  complete : ∀ now workerId generation,
    exec (.completeTask now id workerId generation) db = (.mutation .stale, db)
  fail : ∀ now workerId generation errorMsg,
    exec (.failTask now id workerId generation errorMsg) db = (.mutation .stale, db)
  project : ∀ now workerId generation resultJson,
    exec (.completeWithProjection now id workerId generation resultJson) db =
        (.mutation .stale, db) ∨
      ((resultJson.utf8ByteSize = 0 ∨
          ResultProjection.maxResultProjectionBytes < resultJson.utf8ByteSize) ∧
        ∃ message, exec (.completeWithProjection now id workerId generation resultJson) db =
          (.failed (.invalidState message), db))
  cancel : ∀ now, exec (.cancelTask now id) db = (.cancellation .replayed, db) ∨
    (∃ status, status.terminal = true ∧
      exec (.cancelTask now id) db = (.cancellation (.terminal status), db)) ∨
    (db.tasks.find? id = none ∧ exec (.cancelTask now id) db = (.cancellation .notFound, db))

theorem settled_of_ended {db : Db} {id : Int} (pos : 0 < id)
    (ended : ∀ t, db.tasks.find? id = some t → terminalTask t) : Settled db id := by
  have free : ∀ w g now t, ¬ Holds (view db id) w g now t := by
    intro w g now t holds
    have done := ended t holds.row
    rw [not_terminal_of_status holds.running (by decide)] at done
    cases done
  have stale : ∀ w g now set keeps, fencedUpdate id w g now set keeps db = (.stale, db) := by
    intro w g now set keeps
    rcases fencedUpdate_cases id w g now set keeps db with ⟨t, _, holds, _⟩ | ⟨_, hstale⟩
    · exact (free w g now t holds).elim
    · exact hstale
  constructor
  · intro now w g
    simp only [exec, answer, executeWithRetry, completeTask, stale]
  · intro now w g errorMsg
    have unselected : (db.tasks.find? id).filter (fenced db id w g now) = none := by
      cases row : db.tasks.find? id with
      | none => rfl
      | some t =>
        have hfenced : fenced db id w g now t = false := by
          by_contra h
          exact free w g now t ((fenced_iff row).mp (by simpa using h))
        simp [Option.filter, hfenced]
    simp only [exec, answer, executeWithRetry, failTask, unselected]
  · intro now w g resultJson
    by_cases hempty : resultJson.utf8ByteSize = 0
    · refine Or.inr ⟨Or.inl hempty, "result projection must not be empty", ?_⟩
      simp only [exec, answer, executeWithRetry, ResultProjection.completeWithProjection,
        if_pos hempty]
    · by_cases hlarge : ResultProjection.maxResultProjectionBytes < resultJson.utf8ByteSize
      · refine Or.inr ⟨Or.inr hlarge, "result projection exceeds " ++
          toString ResultProjection.maxResultProjectionBytes ++ " bytes", ?_⟩
        simp only [exec, answer, executeWithRetry, ResultProjection.completeWithProjection,
          if_neg hempty, if_pos hlarge]
      · left
        simp only [exec, answer, executeWithRetry, ResultProjection.completeWithProjection,
          if_neg hempty, if_neg hlarge, stale]
  · intro now
    have hpos : ¬ id ≤ 0 := not_le.mpr pos
    cases row : db.tasks.find? id with
    | none =>
      refine Or.inr (Or.inr ⟨rfl, ?_⟩)
      simp only [exec, answer, executeWithRetry, cancelTask, if_neg hpos, row]
    | some t =>
      obtain ⟨s, hs, status⟩ := terminalTask_iff.mp (ended t row)
      have parsed : TaskStatus.parse t.status = .ok s := TaskStatus.parse_eq_ok_iff.mpr status
      cases s with
      | pending | assigned | running => cases hs
      | cancelled =>
        left
        simp only [exec, answer, executeWithRetry, cancelTask, if_neg hpos, row, parsed]
      | completed =>
        refine Or.inr (Or.inl ⟨.completed, rfl, ?_⟩)
        simp only [exec, answer, executeWithRetry, cancelTask, if_neg hpos, row, parsed]
      | failed =>
        refine Or.inr (Or.inl ⟨.failed, rfl, ?_⟩)
        simp only [exec, answer, executeWithRetry, cancelTask, if_neg hpos, row, parsed]

/-- The terminal reports of a run about one task. -/
def terminalReports (id : Int) (ops : List Op) : Nat :=
  (Histories.notes step (reportsTerminal id) .empty ops).count true

theorem terminalReports_eq (id : Int) (ops : List Op) :
    terminalReports id ops = (history id ops).countP Change.terminal := by
  have same : reportsTerminal id = fun op db => (change id op db).terminal := by
    funext op db
    exact reportsTerminal_eq id op db
  rw [terminalReports, same, Histories.notes_map Change.terminal, history]
  simp [List.count_eq_countP, List.countP_map, Function.comp_def]

/-- Terminal states are absorbing, and outcomes are unique. -/
theorem terminal_states_absorbing (ops later : List Op) (id : Int) :
    (∀ t, (run ops).tasks.find? id = some t → terminalTask t →
      view (run (ops ++ later)) id = view (run ops) id ∨
        (view (run (ops ++ later)) id = .absent ∧ ∃ n, .pruneToMax n ∈ later)) ∧
    (∀ t t', (run ops).tasks.find? id = some t → (run (ops ++ later)).tasks.find? id = some t' →
      (run ops).generationOf id ≤ (run (ops ++ later)).generationOf id) ∧
    terminalReports id ops ≤ 1 ∧
    (∀ t, (run ops).tasks.find? id = some t → (terminalReports id ops = 1 ↔ terminalTask t)) ∧
    (terminalReports id ops = 1 → Settled (run ops) id) := by
  have fresh := run_fresh ops
  have outcomes := run_outcomes ops id
  rw [run_append]
  refine ⟨fun t row done => run_of_terminal fresh row done later, fun t t' row row' => ?_, ?_, ?_, ?_⟩
  · have present : (view (run ops) id).task.isSome := by simp [view, row]
    exact run_generation fresh present later (by simp [view, row'])
  · rw [terminalReports_eq]
    cases row : (view (run ops) id).task with
    | none => exact (outcomes.gone row).1
    | some t =>
      rw [(outcomes.row t row).2.2]
      split <;> omega
  · intro t row
    rw [terminalReports_eq, (outcomes.row t row).2.2]
    by_cases done : terminalTask t <;> simp [done]
  · intro once
    rw [terminalReports_eq] at once
    have pos : 0 < id := by
      cases row : (view (run ops) id).task with
      | none => exact ((outcomes.gone row).2 (by omega)).1
      | some t => exact (outcomes.row t row).1
    refine settled_of_ended pos fun t row => ?_
    have count := (outcomes.row t row).2.2
    by_contra live
    rw [once, if_neg live] at count
    cases count

end TerminalStates
