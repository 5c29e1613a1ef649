import TaskQueQue.SharedDatabase
import TaskQueQue.TerminalStates

/-!
# Whose claim a task is under

The history of a task's claims is read off a run: a poll's claim grants it to the
poll's agent, and an auto-release, a give-back, a submission or a move of the
queue ends it. A row in status CLAIMED always carries the lock of the present
claim's agent.

The statements of a submission and of a give-back name the task and nothing else.
They act on the agent's own claim as long as every step finds the row as a guard
on status and lock owner would ask, which is what `respects` says of a step.
-/

namespace ClaimOwnership

open QueueValues QueueTables TaskLife KeyedTable GatewayValues AgentDirect SharedDatabase
open QueueRuns (change)
open FencedLease (holder heldAfter)

/-- What a step does to the claim of a task. -/
def claimStep (id : Int) (e : Event) (s : Shared) : ClaimEvent :=
  match e with
  | .queue op => if change id op s.db = .quiet then .quiet else .revoke
  | .request .. => .quiet
  | .statement n clock clock' =>
    match s.jobs n with
    | none => .quiet
    | some job => claimEvent id n clock clock' job s.db

def claims (rt : Runtime) (id : Int) (events : List Event) : List ClaimEvent :=
  Histories.notes (step rt) (claimStep id) .start events

variable {rt : Runtime} {events : List Event} {e : Event}

theorem claims_concat (id : Int) : claims rt id (events ++ [e]) =
    claims rt id events ++ [claimStep id e (run rt events)] :=
  Histories.notes_append _ _ _

/-- The task is CLAIMED, and its present claim is the one this agent's poll made. -/
def ClaimedBy (rt : Runtime) (events : List Event) (id : Int) (agentId : String) (n : Nat) : Prop :=
  (∃ t, (run rt events).db.tasks.find? id = some t ∧ t.status = "CLAIMED") ∧
    holder (claims rt id events) = some (agentId, n)

/-! ### The claim behind a CLAIMED row -/

/-- No move of the queue makes a row CLAIMED, or touches one. -/
theorem move_claimed {id seq seq' : Int} {v v' : TaskView} {c : Change} {t : Task}
    (move : Move id seq seq' v c v') (row : v'.task = some t) (claimed : t.status = "CLAIMED") :
    c = .quiet ∧ v' = v := by
  have written : ∀ {t' : Task} {status : String}, v'.task = some t' → t'.status = status →
      status ≠ "CLAIMED" → False := by
    intro t' status row' hstatus differs
    rw [row, Option.some.injEq] at row'
    exact differs (hstatus.symm.trans (row' ▸ claimed))
  cases move with
  | stay => exact ⟨rfl, rfl⟩
  | create _ _ status => exact (written rfl status (by decide)).elim
  | assign => exact (written rfl rfl (by simp [assignTo])).elim
  | release => exact (written rfl rfl (by simp [unlockAs])).elim
  | claim => exact (written rfl rfl (by simp [start])).elim
  | extend _ holds => exact (written rfl holds.running (by decide)).elim
  | complete => exact (written rfl rfl (by simp [unlockAs])).elim
  | project => exact (written rfl rfl (by simp [unlockAs])).elim
  | retry => exact (written rfl rfl (by simp [retryAt, unlockAs])).elim
  | exhaust => exact (written rfl rfl (by simp [failWith, unlockAs])).elim
  | cancel => exact (written rfl rfl (by simp [unlockAs])).elim
  | prune => cases row

/-- A CLAIMED row is locked by the agent of the present claim. -/
def Held (v : TaskView) (trace : List ClaimEvent) : Prop :=
  ∀ t, v.task = some t → t.status = "CLAIMED" →
    ∃ agentId n, t.lockedBy = some agentId ∧ holder trace = some (agentId, n)

theorem Held.quiet {v : TaskView} {trace : List ClaimEvent} (h : Held v trace) :
    Held v (trace ++ [.quiet]) := by
  intro t row claimed
  obtain ⟨agentId, n, owner, held⟩ := h t row claimed
  exact ⟨agentId, n, owner, by simpa [heldAfter] using held⟩

theorem agentMove_held {id : Int} {n : Nat} {clock : Seconds} {job : Job} {v v' : TaskView}
    {event : ClaimEvent} {trace : List ClaimEvent} (move : AgentMove id n clock job v event v')
    (submits : ∀ agentId taskId status resultStr,
      job = .setStatus agentId taskId status resultStr → Submittable status)
    (h : Held v trace) : Held v' (trace ++ [event]) := by
  cases move with
  | stay => exact h.quiet
  | release =>
    intro x row claimed
    cases row
    simp [putBack] at claimed
  | claim agentId =>
    intro x row _
    cases row
    exact ⟨agentId, n, rfl, by simp [heldAfter]⟩
  | giveBack =>
    intro x row claimed
    cases row
    simp [putBack] at claimed
  | submit agentId status resultStr =>
    intro x row claimed
    cases row
    rcases submits _ _ _ _ rfl with rfl | rfl <;> simp [withStatus] at claimed
  | store => exact h.quiet

theorem step_held {s : Shared} (sound : JobsSound s) {id : Int} {trace : List ClaimEvent}
    (h : Held (view s.db id) trace) :
    Held (view (step rt e s).db id) (trace ++ [claimStep id e s]) := by
  cases e with
  | queue op =>
    rw [step_queue]
    intro t row claimed
    rcases (queue_effect op s.db id).2 with move | ⟨_, admitted⟩
    · obtain ⟨quiet, same⟩ := move_claimed move row claimed
      rw [same] at row
      simp only [claimStep, quiet, if_true]
      exact h.quiet t row claimed
    · obtain ⟨t', row', pending, _⟩ := admitted.row
      have both : t = t' := Option.some.inj (row.symm.trans row')
      rw [both, pending] at claimed
      simp at claimed
  | request request now token =>
    rw [step_request]
    exact h.quiet
  | statement n clock clock' =>
    cases running : s.jobs n with
    | none =>
      rw [step_idle running]
      simp only [claimStep, running]
      exact h.quiet
    | some job =>
      rw [step_statement running]
      simp only [claimStep, running]
      refine agentMove_held (statement_effect rt n clock clock' job s.db id) ?_ h
      intro agentId taskId status resultStr hjob
      exact sound.status n agentId taskId status resultStr (hjob ▸ running)

theorem run_held (rt : Runtime) (id : Int) (events : List Event) :
    Held (view (run rt events).db id) (claims rt id events) := by
  induction events using List.reverseRecOn with
  | nil =>
    intro t row
    cases row
  | append_singleton events e ih =>
    rw [run_concat, claims_concat]
    exact step_held (run_jobsSound rt events) ih

/-- Rows have ids the counter has passed. -/
def Counted (db : Db) : Prop := ∀ id, (view db id).task.isSome → id ≤ db.taskSeq

/-- A row after a move was there before it, or has a new id. -/
theorem move_origin {id seq seq' : Int} {v v' : TaskView} {c : Change} (move : Move id seq seq' v c v')
    (present : v'.task.isSome) : v.task.isSome ∨ (seq < id ∧ id ≤ seq') := by
  cases move with
  | stay => exact Or.inl present
  | create fresh counted => exact Or.inr ⟨fresh, counted⟩
  | prune => cases present
  | assign _ _ _ row => exact Or.inl (by simp [row])
  | release _ row => exact Or.inl (by simp [row])
  | claim _ row => exact Or.inl (by simp [row])
  | extend _ holds => exact Or.inl (by simp [holds.row])
  | complete holds => exact Or.inl (by simp [holds.row])
  | project holds => exact Or.inl (by simp [holds.row])
  | retry _ _ holds => exact Or.inl (by simp [holds.row])
  | exhaust _ holds => exact Or.inl (by simp [holds.row])
  | cancel _ row => exact Or.inl (by simp [row])

theorem agentMove_present {id : Int} {n : Nat} {clock : Seconds} {job : Job} {v v' : TaskView}
    {event : ClaimEvent} (move : AgentMove id n clock job v event v') (present : v'.task.isSome) :
    v.task.isSome := by
  cases move with
  | stay => exact present
  | release _ row => simp [row]
  | claim _ _ row => simp [row]
  | giveBack _ row => simp [row]
  | submit _ _ _ row => simp [row]
  | store => exact present

theorem step_counted {s : Shared} (h : Counted s.db) : Counted (step rt e s).db := by
  cases e with
  | queue op =>
    intro id present
    obtain ⟨rises, move | ⟨_, admitted⟩⟩ := queue_effect op s.db id
    · rcases move_origin move present with before | ⟨_, counted⟩
      · exact (h id before).trans rises
      · exact counted
    · exact admitted.counted
  | request request now token =>
    rw [step_request]
    exact h
  | statement n clock clock' =>
    cases running : s.jobs n with
    | none =>
      rw [step_idle running]
      exact h
    | some job =>
      rw [step_statement running]
      intro id present
      rw [statement_taskSeq]
      exact h id (agentMove_present (statement_effect rt n clock clock' job s.db id) present)

theorem run_counted (rt : Runtime) (events : List Event) : Counted (run rt events).db := by
  have start : Counted Shared.start.db := fun id present => by cases present
  exact Histories.run_preserves (P := fun s : Shared => Counted s.db) (fun _ _ => step_counted) start events

/-! ### Runs whose steps respect the owner -/

def lockedFor (agentId : String) (t : Task) : Bool :=
  decide (t.status = "CLAIMED") && decide (t.lockedBy = some agentId)

/-- What a guard on status and lock owner would ask of a step. A submission's
UPDATE finds the task CLAIMED under its agent's lock. A give-back finds the task
gone, back in the queue, or CLAIMED under its agent's lock, and no other poll of
its agent claims the task before it is made. -/
def respects (e : Event) (s : Shared) : Bool :=
  match e with
  | .statement n _ clock' =>
    match s.jobs n with
    | some (.setStatus agentId taskId _ _) => (s.db.tasks.find? taskId).any (lockedFor agentId)
    | some (.giveBack agentId taskId) =>
      (s.db.tasks.find? taskId).all fun t => lockedFor agentId t || decide (putBack t = t)
    | some (.claim agentId) => (nextForAgents s.db clock').all fun t =>
        decide (∀ m < s.requests, s.jobs m ≠ some (.giveBack agentId t.id))
    | _ => true
  | _ => true

def Respects (e : Event) (s : Shared) : Prop := respects e s = true

instance (e : Event) (s : Shared) : Decidable (Respects e s) :=
  inferInstanceAs (Decidable (respects e s = true))

/-- The submission numbered `n` wrote its outcome on a task then under its
agent's claim. -/
def Submitted (rt : Runtime) (events : List Event) (n : Nat) (taskId : Int) (agentId : String) :
    Prop :=
  ∃ earlier clock clock' later status resultStr m,
    events = earlier ++ .statement n clock clock' :: later ∧
    (run rt earlier).jobs n = some (.setStatus agentId taskId status resultStr) ∧
    ClaimedBy rt earlier taskId agentId m

theorem Submitted.later {n : Nat} {taskId : Int} {agentId : String}
    (h : Submitted rt events n taskId agentId) (e : Event) :
    Submitted rt (events ++ [e]) n taskId agentId := by
  obtain ⟨earlier, clock, clock', later, status, resultStr, m, hevents, rest⟩ := h
  exact ⟨earlier, clock, clock', later ++ [e], status, resultStr, m, by simp [hevents], rest⟩

/-- A terminal row under an agent's lock, or no row any more. -/
def Settled (db : Db) (taskId : Int) (agentId status : String) : Prop :=
  taskId ≤ db.taskSeq ∧ ∀ t, (view db taskId).task = some t →
    t.status = status ∧ t.lockedBy = some agentId

theorem terminal_of_submittable {t : Task} {status : String} (h : t.status = status)
    (written : Submittable status) : Retention.terminalTask t := by
  rw [TerminalStates.terminalTask_iff]
  rcases written with rfl | rfl
  · exact ⟨.completed, rfl, h⟩
  · exact ⟨.failed, rfl, h⟩

theorem queue_settled {db : Db} {op : QueueRuns.Op} {taskId : Int} {agentId status : String}
    (written : Submittable status) (h : Settled db taskId agentId status) :
    Settled (QueueRuns.step op db) taskId agentId status := by
  obtain ⟨counted, row⟩ := h
  obtain ⟨rises, move | ⟨_, admitted⟩⟩ := queue_effect op db taskId
  · refine ⟨counted.trans rises, fun t ht => ?_⟩
    cases before : (view db taskId).task with
    | none =>
      rcases move_origin move (by simp [ht]) with there | ⟨fresh, _⟩
      · simp [before] at there
      · omega
    | some t₀ =>
      have done := terminal_of_submittable (row t₀ before).1 written
      rcases TerminalStates.move_of_terminal move before done with ⟨_, same⟩ | ⟨_, gone⟩
      · rw [same] at ht
        exact row t ht
      · rw [gone] at ht
        cases ht
  · exact absurd admitted.fresh (by omega)

/-- A statement of another handler leaves a settled task so, if it respects it. -/
theorem statement_settled {s : Shared} {n : Nat} {clock clock' : Seconds} {job : Job}
    (running : s.jobs n = some job) (allowed : Respects (.statement n clock clock') s)
    {taskId : Int} {agentId status : String} (written : Submittable status)
    (h : Settled s.db taskId agentId status) :
    Settled (job.statement rt clock clock' s.db).2 taskId agentId status := by
  obtain ⟨counted, row⟩ := h
  refine ⟨(statement_taskSeq rt clock clock' job s.db).symm ▸ counted, fun t ht => ?_⟩
  have differs : ∀ {t₀ : Task} {other : String}, (view s.db taskId).task = some t₀ →
      t₀.status = other → other ≠ "COMPLETED" → other ≠ "FAILED" → False := by
    intro t₀ other row₀ hother notCompleted notFailed
    have same := (row t₀ row₀).1
    rcases written with rfl | rfl
    · exact notCompleted (hother.symm.trans same)
    · exact notFailed (hother.symm.trans same)
  have unlocked : ∀ {agentId : String} {t₀ : Task}, (view s.db taskId).task = some t₀ →
      lockedFor agentId t₀ = true → False := by
    intro agentId t₀ row₀ guard
    simp only [lockedFor, Bool.and_eq_true, decide_eq_true_eq] at guard
    exact differs row₀ guard.1 (by decide) (by decide)
  have move := statement_effect rt n clock clock' job s.db taskId
  simp only [Respects, respects, running] at allowed
  generalize claimEvent taskId n clock clock' job s.db = event,
    view (job.statement rt clock clock' s.db).2 taskId = v' at move ht
  cases move with
  | stay => exact row t ht
  | release _ row₀ lapsed =>
    simp only [claimLapsed, Bool.and_eq_true, decide_eq_true_eq] at lapsed
    exact (differs row₀ lapsed.1 (by decide) (by decide)).elim
  | claim _ _ row₀ pending => exact (differs row₀ pending (by decide) (by decide)).elim
  | @giveBack _ t₀ _ row₀ =>
    have found : s.db.tasks.find? taskId = some t₀ := row₀
    simp only [found, Option.all_some, Bool.or_eq_true, decide_eq_true_eq] at allowed
    rcases allowed with guard | same
    · exact (unlocked row₀ guard).elim
    · have pending : t₀.status = "PENDING" := by rw [← same, putBack]
      exact (differs row₀ pending (by decide) (by decide)).elim
  | @submit _ t₀ _ _ _ row₀ =>
    have found : s.db.tasks.find? taskId = some t₀ := row₀
    simp only [found, Option.any_some] at allowed
    exact (unlocked row₀ allowed).elim
  | store => exact row t ht

/-- What such a run keeps of its handlers in flight: a task still to be given back
has had no other claim by that agent, and a result still to be stored is the
outcome of a task its agent had claimed. -/
structure Kept (rt : Runtime) (events : List Event) : Prop where
  returns : ∀ n agentId taskId, (run rt events).jobs n = some (.giveBack agentId taskId) →
    ∀ m, holder (claims rt taskId events) = some (agentId, m) → m = n
  stores : ∀ n agentId taskId status resultStr,
    (run rt events).jobs n = some (.storeResult agentId taskId status resultStr) →
    Submitted rt events n taskId agentId ∧ Settled (run rt events).db taskId agentId status

theorem claimStep_cases (id : Int) (e : Event) (s : Shared) :
    claimStep id e s = .quiet ∨ claimStep id e s = .revoke ∨
    ∃ n clock clock' agentId t, e = .statement n clock clock' ∧ s.jobs n = some (.claim agentId) ∧
      nextForAgents s.db clock' = some t ∧ t.id = id ∧ claimStep id e s = .grant agentId n := by
  cases e with
  | queue op =>
    by_cases quiet : change id op s.db = .quiet
    · exact Or.inl (if_pos quiet)
    · exact Or.inr (Or.inl (if_neg quiet))
  | request request now token => exact Or.inl rfl
  | statement n clock clock' =>
    cases running : s.jobs n with
    | none => simp [claimStep, running]
    | some job =>
      cases job with
      | claim agentId =>
        cases hnext : nextForAgents s.db clock' with
        | none => simp [claimStep, running, claimEvent, hnext]
        | some t =>
          by_cases hid : t.id = id
          · exact Or.inr (Or.inr ⟨n, clock, clock', agentId, t, rfl, running, hnext, hid, by
              simp [claimStep, running, claimEvent, hnext, hid]⟩)
          · simp [claimStep, running, claimEvent, hnext, hid]
      | autoRelease agentId =>
        simp only [claimStep, running, claimEvent]
        split <;> simp
      | giveBack agentId taskId =>
        simp only [claimStep, running, claimEvent]
        split <;> simp
      | setStatus agentId taskId status resultStr =>
        simp only [claimStep, running, claimEvent]
        split <;> simp
      | storeResult agentId taskId status resultStr => simp [claimStep, running, claimEvent]

theorem claimedBy_of_locked {taskId : Int} {agentId : String}
    (h : ((run rt events).db.tasks.find? taskId).any (lockedFor agentId) = true) :
    ∃ m, ClaimedBy rt events taskId agentId m := by
  obtain ⟨t, row, guard⟩ := (Option.any_eq_true _ _).mp h
  simp only [lockedFor, Bool.and_eq_true, decide_eq_true_eq] at guard
  obtain ⟨owner, m, locked, held⟩ := run_held rt taskId events t row guard.1
  have same : owner = agentId := Option.some.inj (locked.symm.trans guard.2)
  exact ⟨m, ⟨t, row, guard.1⟩, same ▸ held⟩

theorem kept_returns (kept : Kept rt events) (allowed : Respects e (run rt events)) (n : Nat)
    (agentId : String) (taskId : Int)
    (h : (run rt (events ++ [e])).jobs n = some (.giveBack agentId taskId)) (m : Nat)
    (held : holder (claims rt taskId (events ++ [e])) = some (agentId, m)) : m = n := by
  rw [run_concat] at h
  rw [claims_concat, FencedLease.holder_concat] at held
  rcases step_job h with ⟨old, _⟩ | ⟨_, first⟩ | ⟨clock, clock', before, rfl, running, next⟩
  · rcases claimStep_cases taskId e (run rt events) with
      quiet | revoke | ⟨k, clock, clock', other, t, rfl, running, hnext, hid, grant⟩
    · rw [quiet] at held
      exact kept.returns n agentId taskId old m held
    · rw [revoke] at held
      cases held
    · rw [grant] at held
      simp only [heldAfter, Option.some.injEq, Prod.mk.injEq] at held
      simp only [Respects, respects, running, hnext, Option.all_some, decide_eq_true_eq] at allowed
      have inFlight : n < (run rt events).requests := by
        by_contra late
        rw [(run_jobsSound rt events).idle n (not_lt.mp late)] at old
        cases old
      rw [← hid, ← held.1] at old
      exact absurd old (allowed n inFlight)
  · rcases first with ⟨_, hjob⟩ | ⟨_, _, _, _, hjob, _⟩ <;> cases hjob
  · cases next with
    | giveBack _ hnext =>
      simp only [claimStep, running, claimEvent, hnext, Option.any_some, decide_true, if_true,
        heldAfter, Option.some.injEq, Prod.mk.injEq] at held
      exact held.2.symm

theorem kept_stores (kept : Kept rt events) (allowed : Respects e (run rt events)) (n : Nat)
    (agentId : String) (taskId : Int) (status resultStr : String)
    (h : (run rt (events ++ [e])).jobs n = some (.storeResult agentId taskId status resultStr)) :
    Submitted rt (events ++ [e]) n taskId agentId ∧
      Settled (run rt (events ++ [e])).db taskId agentId status := by
  have written := (run_jobsSound rt (events ++ [e])).stored n agentId taskId status resultStr h
  rw [run_concat] at h ⊢
  rcases step_job h with ⟨old, _⟩ | ⟨_, first⟩ | ⟨clock, clock', before, rfl, running, next⟩
  · obtain ⟨submitted, settled⟩ := kept.stores n agentId taskId status resultStr old
    refine ⟨submitted.later e, ?_⟩
    cases e with
    | queue op => exact queue_settled written settled
    | request request now token => exact (step_request rt request now token _).symm ▸ settled
    | statement k clock clock' =>
      cases running : (run rt events).jobs k with
      | none => exact (step_idle running clock clock').symm ▸ settled
      | some job =>
        rw [step_statement running]
        exact statement_settled running allowed written settled
  · rcases first with ⟨_, hjob⟩ | ⟨_, _, _, _, hjob, _⟩ <;> cases hjob
  · cases next with
    | storeResult =>
      simp only [Respects, respects, running] at allowed
      obtain ⟨m, claimed⟩ := claimedBy_of_locked allowed
      refine ⟨⟨events, clock, clock', [], status, some resultStr, m, rfl, running, claimed⟩, ?_⟩
      obtain ⟨t, row, guard⟩ := (Option.any_eq_true _ _).mp allowed
      simp only [lockedFor, Bool.and_eq_true, decide_eq_true_eq] at guard
      have hid : t.id = taskId := Table.key_of_find? row
      have after : view (AgentDirect.setStatus taskId status (run rt events).db) taskId =
          { view (run rt events).db taskId with task := some (withStatus status t) } :=
        view_updateTasks_hit row (by simp [named, hid])
      rw [step_statement running]
      refine ⟨run_counted rt events taskId (by simp [view, row]), fun x hx => ?_⟩
      rw [Job.statement, after] at hx
      cases hx
      exact ⟨rfl, guard.2⟩

theorem run_kept (respected : Histories.AllSteps (step rt) Respects .start events) :
    Kept rt events := by
  induction events using List.reverseRecOn with
  | nil => exact ⟨fun _ _ _ h => (by cases h), fun _ _ _ _ _ h => (by cases h)⟩
  | append_singleton events e ih =>
    obtain ⟨before, last⟩ := Histories.allSteps_append.mp respected
    have kept := ih before
    exact ⟨kept_returns kept last.1, kept_stores kept last.1⟩

/-! ### Ownership of transitions -/

/-- The step changes what the database holds of the task. -/
def Changes (rt : Runtime) (events : List Event) (e : Event) (id : Int) : Prop :=
  view (run rt (events ++ [e])).db id ≠ view (run rt events).db id

/-- The next statement of handler `n` changes only the agent's own: a submission's
UPDATE a task under the agent's claim, a give-back one under the claim of its own
poll, and the storing of a result the task whose outcome the submission wrote. -/
def OwnTransition (rt : Runtime) (events : List Event) (n : Nat) (clock clock' : Seconds) : Prop :=
  match (run rt events).jobs n with
  | some (.setStatus agentId taskId _ _) => ∀ id, Changes rt events (.statement n clock clock') id →
      id = taskId ∧ ∃ m, ClaimedBy rt events taskId agentId m
  | some (.giveBack agentId taskId) => ∀ id, Changes rt events (.statement n clock clock') id →
      id = taskId ∧ ClaimedBy rt events taskId agentId n
  | some (.storeResult agentId taskId status _) =>
    ∀ id, Changes rt events (.statement n clock clock') id → id = taskId ∧
      Submitted rt events n taskId agentId ∧ Settled (run rt events).db taskId agentId status
  | _ => True

theorem setStatus_own {n : Nat} {clock clock' : Seconds} {agentId status : String} {taskId : Int}
    {resultStr : Option String}
    (running : (run rt events).jobs n = some (.setStatus agentId taskId status resultStr))
    (allowed : Respects (.statement n clock clock') (run rt events)) {id : Int}
    (changes : Changes rt events (.statement n clock clock') id) :
    id = taskId ∧ ∃ m, ClaimedBy rt events taskId agentId m := by
  rw [Changes, run_concat, step_statement running] at changes
  have move := statement_effect rt n clock clock' (.setStatus agentId taskId status resultStr)
    (run rt events).db id
  simp only [Respects, respects, running] at allowed
  refine ⟨?_, claimedBy_of_locked allowed⟩
  rcases view_named (run rt events).db taskId id (withStatus status) (withStatus_id status) with
    ⟨_, hid, _⟩ | ⟨_, same⟩
  · exact hid.symm
  · exact absurd same changes

theorem giveBack_own (kept : Kept rt events) {n : Nat} {clock clock' : Seconds} {agentId : String}
    {taskId : Int} (running : (run rt events).jobs n = some (.giveBack agentId taskId))
    (allowed : Respects (.statement n clock clock') (run rt events)) {id : Int}
    (changes : Changes rt events (.statement n clock clock') id) :
    id = taskId ∧ ClaimedBy rt events taskId agentId n := by
  rw [Changes, run_concat, step_statement running] at changes
  rcases view_named (run rt events).db taskId id putBack putBack_id with
    ⟨t, rfl, row, hview⟩ | ⟨_, same⟩
  · have found : (run rt events).db.tasks.find? taskId = some t := row
    simp only [Respects, respects, running, found, Option.all_some, Bool.or_eq_true,
      decide_eq_true_eq] at allowed
    rcases allowed with locked | same
    · have owned : ((run rt events).db.tasks.find? taskId).any (lockedFor agentId) = true := by
        rw [found, Option.any_some, locked]
      obtain ⟨m, claimed⟩ := claimedBy_of_locked owned
      have own : m = n := kept.returns n agentId taskId running m claimed.2
      exact ⟨rfl, own ▸ claimed⟩
    · refine absurd ?_ changes
      rw [Job.statement, AgentDirect.giveBack, hview, same, ← row]
  · exact absurd same changes

theorem storeResult_own (kept : Kept rt events) {n : Nat} {clock clock' : Seconds}
    {agentId status resultStr : String} {taskId : Int}
    (running : (run rt events).jobs n = some (.storeResult agentId taskId status resultStr))
    {id : Int} (changes : Changes rt events (.statement n clock clock') id) :
    id = taskId ∧ Submitted rt events n taskId agentId ∧
      Settled (run rt events).db taskId agentId status := by
  rw [Changes, run_concat, step_statement running, Job.statement, view_storeResult] at changes
  refine ⟨?_, kept.stores n agentId taskId status resultStr running⟩
  by_contra other
  rw [if_neg (Ne.symm other)] at changes
  exact changes rfl

/-- In a run whose steps respect the owner, every statement of every handler
changes only its agent's own. -/
theorem owned_transitions (rt : Runtime) (events : List Event)
    (respected : Histories.AllSteps (step rt) Respects .start events) :
    ∀ before n clock clock' later, events = before ++ .statement n clock clock' :: later →
      OwnTransition rt before n clock clock' := by
  rintro before n clock clock' later rfl
  obtain ⟨allowed, here, _⟩ := Histories.allSteps_append.mp respected
  have kept := run_kept allowed
  unfold OwnTransition
  split
  · rename_i running
    exact fun id changes => setStatus_own running here changes
  · rename_i running
    exact fun id changes => giveBack_own kept running here changes
  · rename_i running
    exact fun id changes => storeResult_own kept running changes
  · trivial

theorem claimed_submission_owned :
    OwnTransition agentRuntime (polled ++ [submission, .statement 2 0 0]) 2 0 0 := by
  have respected : Histories.AllSteps (step agentRuntime) Respects .start
      ((polled ++ [submission, .statement 2 0 0]) ++ [.statement 2 0 0]) := by
    decide +kernel
  exact owned_transitions agentRuntime _ respected _ 2 0 0 [] rfl

/-- A submission for a task cancelled before any poll claimed it completes it. -/
theorem submission_overwrites_cancelled :
    ¬ ∀ (rt : Runtime) (events : List Event) (n : Nat) (clock clock' : Seconds),
      OwnTransition rt events n clock clock' := by
  intro h
  have own := h agentRuntime (registered ++ [.queue (.cancelTask 0 1), submission]) 1 0 0
  have running : (run agentRuntime (registered ++ [.queue (.cancelTask 0 1), submission])).jobs 1 =
      some (.setStatus "a" 1 "COMPLETED" (some "\"done\"")) := by decide +kernel
  have before : ((run agentRuntime (registered ++ [.queue (.cancelTask 0 1), submission])).db.tasks.find?
      1).map Task.status = some "CANCELLED" := by decide +kernel
  have after : ((run agentRuntime (registered ++ [.queue (.cancelTask 0 1), submission] ++
      [.statement 1 0 0])).db.tasks.find? 1).map Task.status = some "COMPLETED" := by
    decide +kernel
  simp only [OwnTransition, running] at own
  have changes : Changes agentRuntime (registered ++ [.queue (.cancelTask 0 1), submission])
      (.statement 1 0 0) 1 := by
    intro same
    have status := congrArg (fun v => v.task.map Task.status) same
    simp only [view, before, after] at status
    simp at status
  obtain ⟨_, m, ⟨t, row, claimed⟩, _⟩ := own 1 changes
  rw [row] at before
  simp [claimed] at before

end ClaimOwnership
