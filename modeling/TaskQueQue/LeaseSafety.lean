import TaskQueQue.QueueInvariants

/-!
# Fenced-lease safety

The history of one task is the list of changes the operations of a run made to
it. Its lease events form a lawful trace in the sense of `FencedLease`: the
fence row grants ever larger generations, and a fenced operation that applies
quotes the present holder. The library then says whose claim stands and that no
generation is settled twice.
-/

namespace LeaseSafety

open QueueValues QueueTables TaskLife LeaseFence ResultProjection QueueRuns QueueInvariants
open FencedLease (Lawful Admits holder)

abbrev LeaseEvent := FencedLease.Event String Int

def history (id : Int) (ops : List Op) : List Change :=
  Histories.notes step (change id) .empty ops

def trace (history : List Change) : List LeaseEvent := history.map Change.event

theorem trace_concat (past : List Change) (c : Change) :
    trace (past ++ [c]) = trace past ++ [c.event] := by
  simp [trace]

/-! ### The task's row against its history -/

/-- What the row and the fence of a task say about its history. -/
structure Leased (id seq : Int) (past : List LeaseEvent) (v : TaskView) : Prop where
  lawful : Lawful past
  running : ∀ t, v.task = some t → t.status = "RUNNING" →
    ∃ w g, t.lockedBy = some w ∧ v.fence = some g ∧ holder past = some (w, g)
  granted : ∀ w g, .grant w g ∈ past → id ≤ seq ∧ (v.task.isSome → g ≤ v.generation)

theorem absent_leased (id seq : Int) : Leased id seq [] .absent :=
  ⟨.nil, (fun _ h => nomatch h), (fun _ _ h => nomatch h)⟩

/-- A step that grants nothing, keeps the fence from falling and, if it leaves
the task running, leaves its lease. -/
theorem Leased.next {id seq seq' : Int} {past : List LeaseEvent} {v v' : TaskView}
    {e : LeaseEvent} (h : Leased id seq past v) (hseq : seq ≤ seq') (admits : Admits past e)
    (notGrant : ∀ w g, e ≠ .grant w g)
    (rises : v'.task.isSome → v.task.isSome ∧ v.generation ≤ v'.generation)
    (running : ∀ t, v'.task = some t → t.status = "RUNNING" →
      ∃ w g, t.lockedBy = some w ∧ v'.fence = some g ∧ holder (past ++ [e]) = some (w, g)) :
    Leased id seq' (past ++ [e]) v' := by
  refine ⟨.concat h.lawful admits, running, fun w g hmem => ?_⟩
  rcases List.mem_append.mp hmem with hpast | hlast
  · obtain ⟨hid, hgen⟩ := h.granted w g hpast
    refine ⟨hid.trans hseq, fun present => ?_⟩
    exact (hgen (rises present).1).trans (rises present).2
  · exact (notGrant w g (List.mem_singleton.mp hlast).symm).elim

theorem holder_of_holds {id seq : Int} {past : List LeaseEvent} {v : TaskView} {w : String}
    {g : Int} {now : Seconds} {t : Task} (h : Leased id seq past v) (holds : Holds v w g now t) :
    holder past = some (w, g) := by
  obtain ⟨w', g', owner, fence, held⟩ := h.running t holds.row holds.running
  rw [holds.owner, Option.some.injEq] at owner
  rw [holds.fence, Option.some.injEq] at fence
  rw [held, owner, fence]

/-- A settling step: the holder of the lease quotes it, and the row runs no more. -/
theorem Leased.settle {id seq seq' : Int} {past : List LeaseEvent} {v : TaskView} {w : String}
    {g : Int} {now : Seconds} {t t' : Task} (h : Leased id seq past v) (hseq : seq ≤ seq')
    (holds : Holds v w g now t) (stopped : t'.status ≠ "RUNNING") (result : Option ResultRow) :
    Leased id seq' (past ++ [.settle w g]) { v with task := some t', result := result } := by
  refine h.next hseq (holder_of_holds h holds) (by simp) (fun _ => ?_) fun x hx hr => ?_
  · exact ⟨by simp [holds.row], le_refl _⟩
  · cases hx
    exact (stopped hr).elim

/-- Every move extends a lawful history. -/
theorem move_leased {id seq seq' : Int} {past : List LeaseEvent} {v v' : TaskView} {c : Change}
    (move : Move id seq seq' v c v') (hseq : seq ≤ seq') (known : v.task.isSome → id ≤ seq)
    (h : Leased id seq past v) : Leased id seq' (past ++ [c.event]) v' := by
  cases move with
  | stay =>
    refine h.next hseq trivial (by simp [Change.event]) (fun hp => ⟨hp, le_refl _⟩) ?_
    intro t row running
    obtain ⟨w, g, owner, fence, held⟩ := h.running t row running
    exact ⟨w, g, owner, fence, by simpa [FencedLease.heldAfter, Change.event] using held⟩
  | create fresh counted status =>
    refine ⟨.concat h.lawful trivial, fun x hx hr => ?_, fun w g hmem => ?_⟩
    · cases hx
      simp [status] at hr
    · rcases List.mem_append.mp hmem with hpast | hlast
      · have := (h.granted w g hpast).1
        omega
      · simp [Change.event] at hlast
  | assign worker leaseUntil now row pending =>
    refine h.next hseq trivial (by simp [Change.event]) (fun _ => ⟨by simp [row], le_refl _⟩) ?_
    intro x hx hr
    cases hx
    simp [assignTo] at hr
  | release now row =>
    refine h.next hseq trivial (by simp [Change.event]) (fun _ => ⟨by simp [row], le_refl _⟩) ?_
    intro x hx hr
    cases hx
    simp [unlockAs] at hr
  | @claim _ t worker now row assigned owner live =>
    have below : ∀ w g, .grant w g ∈ past → g < v.generation + 1 := fun w g hmem =>
      Int.lt_add_one_of_le ((h.granted w g hmem).2 (by simp [row]))
    refine ⟨.concat h.lawful below, fun x hx _ => ?_, fun w g hmem => ?_⟩
    · cases hx
      exact ⟨worker, v.generation + 1, owner, rfl, by simp [FencedLease.heldAfter, Change.event]⟩
    · refine ⟨(known (by simp [row])).trans hseq, fun _ => ?_⟩
      rcases List.mem_append.mp hmem with hpast | hlast
      · exact (below w g hpast).le
      · simp only [Change.event, List.mem_singleton, FencedLease.Event.grant.injEq] at hlast
        exact hlast.2.le
  | @extend _ t worker g now leaseUntil holds =>
    refine h.next hseq trivial (by simp [Change.event])
      (fun _ => ⟨by simp [holds.row], le_refl _⟩) ?_
    intro x hx _
    cases hx
    have held := holder_of_holds h holds
    exact ⟨worker, g, holds.owner, holds.fence, by
      simpa [FencedLease.heldAfter, Change.event] using held⟩
  | complete holds => exact h.settle hseq holds (by simp [unlockAs]) _
  | project holds => exact h.settle hseq holds (by simp [unlockAs]) _
  | retry _ _ holds => exact h.settle hseq holds (by simp [retryAt, unlockAs]) _
  | exhaust _ holds => exact h.settle hseq holds (by simp [failWith, unlockAs]) _
  | cancel now row =>
    refine h.next hseq trivial (by simp [Change.event]) (fun _ => ⟨by simp [row], ?_⟩) ?_
    · simp only [TaskView.generation, Option.getD_some]
      omega
    · intro x hx hr
      cases hx
      simp [unlockAs] at hr
  | prune =>
    refine h.next hseq trivial (by simp [Change.event]) (fun hp => by cases hp) fun x hx => ?_
    cases hx

theorem known_of_fresh {db : Db} (fresh : Fresh db) (id : Int)
    (h : (view db id).task.isSome) : id ≤ db.taskSeq := by
  by_contra hlt
  rw [fresh.2 id (not_le.mp hlt)] at h
  cases h

theorem run_leased (ops : List Op) (id : Int) :
    Leased id (run ops).taskSeq (trace (history id ops)) (view (run ops) id) := by
  have preserved : ∀ past op db,
      (Fresh db ∧ Leased id db.taskSeq (trace past) (view db id)) →
        (Fresh (step op db) ∧ Leased id (step op db).taskSeq (trace (past ++ [change id op db]))
          (view (step op db) id)) := by
    rintro past op db ⟨fresh, leased⟩
    have advances := exec_advances fresh op
    rw [trace_concat]
    exact ⟨step_fresh op db fresh,
      move_leased (advances.move id) advances.seq (known_of_fresh fresh id) leased⟩
  exact (Histories.history_invariant preserved ⟨empty_fresh, absent_leased id 0⟩ ops).2

/-! ### Fenced calls -/

/-- A heartbeat, completion or failure quoting one task, worker and generation. -/
inductive FencedCall
  | heartbeat (now : Seconds) (extendSec : F64)
  | completeTask (now : Seconds)
  | failTask (now : Seconds) (errorMsg : String)
  | completeWithProjection (now : Seconds) (resultJson : String)

def FencedCall.op (taskId : Int) (workerId : String) (generation : Int) : FencedCall → Op
  | .heartbeat now extendSec => .heartbeat now taskId workerId generation extendSec
  | .completeTask now => .completeTask now taskId workerId generation
  | .failTask now errorMsg => .failTask now taskId workerId generation errorMsg
  | .completeWithProjection now resultJson =>
    .completeWithProjection now taskId workerId generation resultJson

/-- The answer of one fenced transaction: it applied under the lease it quotes,
or it found no such lease and changed nothing. -/
def FencedAnswer (taskId : Int) (workerId : String) (generation : Int) (db : Db)
    (reply : Reply × Db) : Prop :=
  (reply.1 = .mutation .applied ∧ ∃ now t, Holds (view db taskId) workerId generation now t) ∨
    ((reply.1 = .mutation .stale ∨ ∃ err, reply.1 = .failed err) ∧ reply.2 = db)

theorem fencedUpdate_answer (taskId : Int) (workerId : String) (generation : Int) (now : Seconds)
    (set : Task → Task) (keeps : ∀ t, (set t).id = t.id) (db : Db) :
    FencedAnswer taskId workerId generation db (answer .mutation (fun db =>
      .ok (fencedUpdate taskId workerId generation now set keeps db)) db) := by
  rcases fencedUpdate_cases taskId workerId generation now set keeps db with
    ⟨t, db', holds, happlied, _⟩ | ⟨_, hstale⟩
  · simp only [answer, executeWithRetry, happlied]
    exact Or.inl ⟨rfl, now, t, holds⟩
  · simp only [answer, executeWithRetry, hstale]
    exact Or.inr ⟨Or.inl rfl, rfl⟩

theorem failTask_answer (taskId : Int) (workerId : String) (generation : Int) (now : Seconds)
    (errorMsg : String) (db : Db) : FencedAnswer taskId workerId generation db
      (answer .mutation (failTask now taskId workerId generation errorMsg) db) := by
  cases hselect : (db.tasks.find? taskId).filter (fenced db taskId workerId generation now) with
  | none =>
    simp only [answer, executeWithRetry, failTask, hselect]
    exact Or.inr ⟨Or.inl rfl, rfl⟩
  | some t =>
    by_cases spent : t.maxRetries ≤ t.retryCount + 1
    · have same := fencedUpdate_answer taskId workerId generation now (failWith errorMsg now)
        (failWith_id errorMsg now) db
      simpa only [answer, executeWithRetry, failTask, hselect, if_pos spent] using same
    · have same := fencedUpdate_answer taskId workerId generation now
        (retryAt (now + backoffSeconds t.retryCount) errorMsg now) (retryAt_id _ errorMsg now) db
      simpa only [answer, executeWithRetry, failTask, hselect, if_neg spent] using same

theorem completeWithProjection_answer (taskId : Int) (workerId : String) (generation : Int)
    (now : Seconds) (resultJson : String) (db : Db) :
    FencedAnswer taskId workerId generation db
      (answer .mutation (completeWithProjection now taskId workerId generation resultJson) db) := by
  rcases answer_cases .mutation
      (completeWithProjection now taskId workerId generation resultJson) db with
    ⟨mutation, db', hop, hans⟩ | ⟨err, _, hans⟩
  · rw [hans]
    rcases completeWithProjection_cases hop with
      ⟨rfl, rfl, _⟩ | ⟨rfl, _, _, t, holds, _⟩
    · exact Or.inr ⟨Or.inl rfl, rfl⟩
    · exact Or.inl ⟨rfl, now, t, holds⟩
  · rw [hans]
    exact Or.inr ⟨Or.inr ⟨err, rfl⟩, rfl⟩

theorem fencedCall_answer (call : FencedCall) (taskId : Int) (workerId : String)
    (generation : Int) (db : Db) : FencedAnswer taskId workerId generation db
      (exec (call.op taskId workerId generation) db) := by
  cases call with
  | heartbeat now extendSec => exact fencedUpdate_answer _ _ _ _ _ _ _
  | completeTask now => exact fencedUpdate_answer _ _ _ _ _ _ _
  | failTask now errorMsg => exact failTask_answer _ _ _ _ _ _
  | completeWithProjection now resultJson => exact completeWithProjection_answer _ _ _ _ _ _

/-! ### Whose claim stands -/

/-- The most recent successful claim of the task returned this generation to
this worker, and nothing has ended its lease since: no other claim, recovery,
cancellation, failure or completion of the task was applied. -/
def ClaimStands (ops : List Op) (id : Int) (workerId : String) (generation : Int) : Prop :=
  ∃ before now task after, ops = before ++ .claimTask now workerId :: after ∧
    (exec (.claimTask now workerId) (run before)).1 = .claimed (some task) ∧
    task.id = id ∧ task.leaseGeneration = generation ∧
    ∀ c ∈ Histories.notes step (change id) (run (before ++ [.claimTask now workerId])) after,
      c = .quiet

theorem event_eq_quiet {c : Change} : c.event = .quiet ↔ c = .quiet := by
  cases c <;> simp [Change.event]

theorem claim_stands_of_holder {ops : List Op} {id : Int} {w : String} {g : Int}
    (h : holder (trace (history id ops)) = some (w, g)) : ClaimStands ops id w g := by
  obtain ⟨past, later, hsplit, hquiet⟩ := FencedLease.holder_eq_some_iff.mp h
  obtain ⟨before, rest, hhistory, _, hrest⟩ := List.map_eq_append_iff.mp hsplit
  obtain ⟨c, after, rfl, hc, hafter⟩ := List.map_eq_cons_iff.mp hrest
  obtain ⟨pre, op, post, rfl, _, hop, hpost⟩ := Histories.split_of_notes_eq hhistory
  have claimed : c = .claimed w g := by
    cases c <;> simp [Change.event] at hc ⊢
    exact hc
  have quiet : ∀ d ∈ Histories.notes step (change id) (run (pre ++ [op])) post, d = .quiet := by
    intro d hd
    refine event_eq_quiet.mp (hquiet _ ?_)
    rw [← hafter]
    refine List.mem_map_of_mem ?_
    rw [← hpost]
    exact hd
  have behind := noted_of_change (hop.trans claimed) (by simp)
  generalize hreply : (exec op (Histories.run step .empty pre)).1 = reply at behind
  cases behind with
  | claimed now _ task named => exact ⟨pre, now, task, post, rfl, hreply, named, rfl, quiet⟩

/-- Whether this step applies a terminal or retry transition under a generation. -/
def settlesLease (id generation : Int) (op : Op) (db : Db) : Bool :=
  match op with
  | .completeTask _ taskId _ g | .failTask _ taskId _ g _ | .completeWithProjection _ taskId _ g _ =>
    decide (taskId = id ∧ g = generation ∧ (exec op db).1 = .mutation .applied)
  | _ => false

theorem settles_applied (taskId id g generation : Int) (w : String) (c : Change)
    (settles : c.event = .settle w g) (mutation : LeaseMutation) :
    FencedLease.Settles generation (appliedChange taskId c mutation id).event =
      decide (taskId = id ∧ g = generation ∧ mutation = .applied) := by
  by_cases h : mutation = .applied ∧ id = taskId
  · simp [appliedChange, h, settles, FencedLease.Settles]
  · have hne : ¬ (taskId = id ∧ g = generation ∧ mutation = .applied) := by
      rintro ⟨e, _, ha⟩
      exact h ⟨ha, e.symm⟩
    simp [appliedChange, h, hne, FencedLease.Settles, Change.event]

theorem settlesLease_eq (id generation : Int) (op : Op) (db : Db) :
    settlesLease id generation op db =
      FencedLease.Settles generation (change id op db).event := by
  unfold change settlesLease
  generalize (exec op db).1 = reply
  cases op with
  | completeTask now taskId w g =>
    cases reply with
    | mutation m =>
      simpa [noted] using (settles_applied taskId id g generation w (.completed w g) rfl m).symm
    | _ => simp [noted, FencedLease.Settles, Change.event]
  | completeWithProjection now taskId w g resultJson =>
    cases reply with
    | mutation m =>
      simpa [noted] using (settles_applied taskId id g generation w (.completed w g) rfl m).symm
    | _ => simp [noted, FencedLease.Settles, Change.event]
  | failTask now taskId w g errorMsg =>
    have settles : (failChange db taskId w g).event = .settle w g := by
      unfold failChange
      split <;> rfl
    cases reply with
    | mutation m =>
      simpa [noted] using (settles_applied taskId id g generation w _ settles m).symm
    | _ => simp [noted, FencedLease.Settles, Change.event]
  | recoverExpiredLeases now =>
    cases reply with
    | recovered n =>
      simp only [noted]
      split <;> rfl
    | _ => rfl
  | claimTask now w =>
    cases reply with
    | claimed task =>
      simp only [noted, claimChange]
      split
      · split <;> rfl
      · rfl
    | _ => rfl
  | cancelTask now taskId =>
    cases reply with
    | cancellation outcome =>
      simp only [noted, Cancellation.cancelChange]
      split <;> rfl
    | _ => rfl
  | pruneToMax maxTerminalTasks =>
    cases reply with
    | retention result =>
      simp only [noted, Retention.pruneChange]
      split <;> rfl
    | _ => rfl
  | enqueue now taskName taskType payload priority maxRetries =>
    cases reply with
    | enqueued taskId =>
      simp only [noted, SyncQueue.createdChange]
      split <;> rfl
    | _ => rfl
  | enqueueBounded now key fingerprint taskName taskType payload priority maxRetries limit =>
    cases reply with
    | admission result =>
      cases result with
      | created taskId =>
        simp only [noted, Idempotency.admissionChange, SyncQueue.createdChange]
        split <;> rfl
      | _ => rfl
    | _ => rfl
  | dispatchBatch | dispatchRegistered | heartbeat => cases reply <;> rfl

/-- Fenced-lease safety. -/
theorem fenced_lease_safety (ops : List Op) (id : Int) :
    (∀ (call : FencedCall) (workerId : String) (generation : Int),
      ((exec (call.op id workerId generation) (run ops)).1 = .mutation .applied ∧
        ClaimStands ops id workerId generation) ∨
      (((exec (call.op id workerId generation) (run ops)).1 = .mutation .stale ∨
        ∃ err, (exec (call.op id workerId generation) (run ops)).1 = .failed err) ∧
        step (call.op id workerId generation) (run ops) = run ops)) ∧
    ∀ generation, ((Histories.notes step (settlesLease id generation) .empty ops).count true) ≤ 1 := by
  have leased := run_leased ops id
  constructor
  · intro call workerId generation
    rcases fencedCall_answer call id workerId generation (run ops) with
      ⟨applied, now, t, holds⟩ | ⟨refused, same⟩
    · exact Or.inl ⟨applied, claim_stands_of_holder (holder_of_holds leased holds)⟩
    · exact Or.inr ⟨refused, same⟩
  · intro generation
    have once := FencedLease.settled_at_most_once leased.lawful generation
    have same : settlesLease id generation =
        fun op db => FencedLease.Settles generation (change id op db).event := by
      funext op db
      exact settlesLease_eq id generation op db
    rw [same, Histories.notes_map (fun c : Change => FencedLease.Settles generation c.event)]
    simpa [trace, history, List.countP_map, List.count_eq_countP, Function.comp_def] using once

end LeaseSafety
