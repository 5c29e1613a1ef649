import TaskQueQue.QueueRuns
import Mathlib.Data.List.Perm.Basic

/-!
# Worker capacity

The rounding respects capacities and compatibility whatever the plan holds, so a
dispatch adds to a session's load at most the slots that were free when the load
was read, in the same transaction. A session sits in one group only, and its
load grows by no more than the tasks the dispatch reports for it.
-/

namespace WorkerCapacity

open QueueValues QueueTables TaskLife KeyedTable GreedyAssignment SyncQueue WorkerProtocol QueueRuns

/-! ### The rounding -/

theorem foldl_sound {α β : Type*} {P : β → Prop} {f : Option β → α → Option β}
    (step : ∀ best a, (∀ b, best = some b → P b) → ∀ b, f best a = some b → P b) (l : List α)
    {best : Option β} (h : ∀ b, best = some b → P b) : ∀ b, l.foldl f best = some b → P b := by
  induction l generalizing best with
  | nil => exact h
  | cons a l ih => exact ih (step best a h)

theorem roomiest_spec {compatible : Array2 Bool} {s : State Nat Nat} {task j : Nat}
    (h : roomiest compatible s task = some j) :
    0 < s.remaining j ∧ compatible.entry task j = true := by
  obtain ⟨⟨room, worker⟩, hbest, rfl⟩ := Option.map_eq_some_iff.mp h
  refine foldl_sound (P := fun b : Nat × Nat =>
    0 < s.remaining b.2 ∧ compatible.entry task b.2 = true) ?_ (List.range compatible.cols)
    (by simp) _ hbest
  intro best worker held b hb
  split at hb
  · exact held b hb
  · rename_i usable
    simp only [Bool.or_eq_true, Bool.not_eq_true', decide_eq_true_eq, not_or,
      Bool.not_eq_false] at usable
    have fits : 0 < s.remaining worker ∧ compatible.entry task worker = true :=
      ⟨Nat.pos_of_ne_zero usable.2, usable.1⟩
    split at hb
    · cases hb
      exact fits
    · split at hb
      · cases hb
        exact fits
      · exact held b hb

theorem rounding_valid (plan : Array2 F64) (capacities : List Int) (compatible : Array2 Bool) :
    Valid (Finset.range plan.rows) (slots capacities)
      (fun i j => compatible.entry i j = true) (rounding plan capacities compatible) := by
  apply fill_valid
  · intro s i j h
    exact roomiest_spec h
  · refine greedy_valid start_valid fun c hc => ?_
    obtain ⟨hi, _, usable⟩ := mem_rankedCandidates.mp hc
    simp only [Bool.and_eq_true] at usable
    exact ⟨Finset.mem_range.mpr hi, usable.1.1⟩
  · exact (List.perm_insertionSort _ _).nodup_iff.mpr (List.nodup_range.filter _)
  · intro i hi
    rw [List.mem_insertionSort, List.mem_filter, List.mem_range] at hi
    exact ⟨Finset.mem_range.mpr hi.1, by simpa using hi.2⟩

theorem card_range_filter (n : Nat) (p : Nat → Prop) [DecidablePred p] :
    ((Finset.range n).filter p).card = (List.range n).countP fun i => decide (p i) := by
  rw [List.countP_eq_length_filter]
  rfl

/-- At most the free slots of a worker are filled with it. -/
theorem count_rounded_le (plan : Array2 F64) (capacities : List Int) (compatible : Array2 Bool)
    (j : Nat) : (WorkerProtocol.roundTransportPlanBounded plan capacities compatible).countP
      (fun choice => decide (choice = some j)) ≤ slots capacities j := by
  unfold WorkerProtocol.roundTransportPlanBounded
  split
  · simp [List.countP_replicate]
  · have bound := load_le_capacity (rounding_valid plan capacities compatible) j
    rw [GreedyAssignment.load, card_range_filter] at bound
    simpa [List.countP_map, Function.comp_def] using bound

/-! ### Assignments per session -/

def assignedTo (s : String) (out : List WorkerAssignment) : Nat :=
  out.countP fun a => decide (a.sessionId = s)

def chooses (workers : List DispatchWorker) (s : String) (choice : Option Nat) : Bool :=
  (choice.bind fun j => workers[j]?).any fun w => decide (w.sessionId = s)

theorem assignRegistered_count (workers : List DispatchWorker) (s : String)
    (leaseUntil now : Seconds) (work : List (Task × Option Nat)) (db : Db) :
    assignedTo s (assignRegistered workers leaseUntil now work db).1 ≤
      work.countP fun x => chooses workers s x.2 := by
  induction work generalizing db with
  | nil => exact le_refl _
  | cons x rest ih =>
    obtain ⟨task, choice⟩ := x
    rw [List.countP_cons]
    unfold assignRegistered
    split
    · exact (ih db).trans (Nat.le_add_right _ _)
    · rename_i worker hchoice
      have hbind := (Option.filter_eq_some_iff.mp hchoice).1
      have later := ih (db.updateTasks (assignable task) (assignTo worker.sessionId leaseUntil now)
        (assignTo_id worker.sessionId leaseUntil now))
      have head : (chooses workers s choice = true) ↔ worker.sessionId = s := by
        simp [chooses, hbind]
      have first : assignedTo s (if db.tasks.count (assignable task) = 1 then
          [{ taskId := task.id, sessionId := worker.sessionId, taskName := task.taskName
             taskType := task.taskType }]
        else []) ≤ if chooses workers s (task, choice).2 = true then 1 else 0 := by
        simp only [head]
        split <;> split <;> simp [assignedTo, *]
      rw [assignedTo, List.countP_append, Nat.add_comm]
      exact Nat.add_le_add later first

/-- With distinct session ids, the choices of a session are those of one index. -/
theorem countP_chooses_le {workers : List DispatchWorker} {s : String} {c : Nat}
    (distinct : (workers.map DispatchWorker.sessionId).Nodup)
    (fits : ∀ w ∈ workers, w.sessionId = s → w.availableSlots.toNat ≤ c)
    {choices : List (Option Nat)}
    (bounded : ∀ j, choices.countP (fun choice => decide (choice = some j)) ≤
      slots (workers.map DispatchWorker.availableSlots) j) :
    choices.countP (chooses workers s) ≤ c := by
  by_cases found : ∃ (j : Nat) (w : DispatchWorker), workers[j]? = some w ∧ w.sessionId = s
  · obtain ⟨j, w, hj, hs⟩ := found
    have same : ∀ choice, chooses workers s choice = true → decide (choice = some j) = true := by
      intro choice h
      obtain ⟨w', hw', hs'⟩ := (Option.any_eq_true _ _).mp h
      obtain ⟨j', rfl, hj'⟩ := Option.bind_eq_some_iff.mp hw'
      have ids : (workers.map DispatchWorker.sessionId)[j']? =
          (workers.map DispatchWorker.sessionId)[j]? := by
        rw [List.getElem?_map, List.getElem?_map, hj, hj']
        simp [hs, of_decide_eq_true hs']
      have hlen : j' < (workers.map DispatchWorker.sessionId).length := by
        rw [List.length_map]
        exact (List.getElem?_eq_some_iff.mp hj').1
      simpa using (List.getElem?_inj hlen distinct).mp ids
    calc choices.countP (chooses workers s)
        ≤ choices.countP (fun choice => decide (choice = some j)) :=
          List.countP_mono_left fun choice _ => same choice
      _ ≤ slots (workers.map DispatchWorker.availableSlots) j := bounded j
      _ = w.availableSlots.toNat := by simp [slots, List.getD_eq_getElem?_getD, hj]
      _ ≤ c := fits w (List.mem_of_getElem? hj) hs
  · have never : choices.countP (chooses workers s) = 0 := by
      rw [List.countP_eq_zero]
      intro choice _ h
      obtain ⟨w, hw, hs⟩ := (Option.any_eq_true _ _).mp h
      obtain ⟨j, _, hj⟩ := Option.bind_eq_some_iff.mp hw
      exact found ⟨j, w, hj, of_decide_eq_true hs⟩
    omega

theorem length_rounded (plan : Array2 F64) (capacities : List Int) (compatible : Array2 Bool) :
    (WorkerProtocol.roundTransportPlanBounded plan capacities compatible).length = plan.rows := by
  unfold WorkerProtocol.roundTransportPlanBounded
  split <;> simp

theorem dispatchGroup_count {now leaseUntil : Seconds} {transport : Nat → Nat → F64}
    {taskType s : String} {workers : List DispatchWorker} {db db' : Db}
    {out : List WorkerAssignment} {c : Nat}
    (distinct : (workers.map DispatchWorker.sessionId).Nodup)
    (fits : ∀ w ∈ workers, w.sessionId = s → w.availableSlots.toNat ≤ c)
    (h : dispatchGroup now leaseUntil transport taskType workers db = .ok (out, db')) :
    assignedTo s out ≤ c := by
  unfold dispatchGroup at h
  simp only at h
  split at h
  · cases h
    exact Nat.zero_le _
  split at h
  · cases h
  split at h
  · cases h
    exact Nat.zero_le _
  · simp only [Except.ok.injEq, Prod.ext_iff] at h
    obtain ⟨rfl, rfl⟩ := h
    refine (assignRegistered_count _ s _ _ _ _).trans ?_
    rw [show (fun x : Task × Option Nat => chooses _ s x.2) = chooses _ s ∘ Prod.snd from rfl,
      ← List.countP_map, List.map_snd_zip]
    · refine countP_chooses_le (distinct.sublist (List.filter_sublist.map _)) ?_
        (count_rounded_le _ _ _)
      intro w hw
      exact fits w (List.mem_filter.mp hw).1
    · rw [length_rounded]

/-- A session sits in one group only, so its bound is not spent twice. -/
theorem dispatchGroups_count {now leaseUntil : Seconds} {transport : String → Nat → Nat → F64}
    {s : String} {groups : List (String × List DispatchWorker)} {db db' : Db}
    {out : List WorkerAssignment} {c : Nat}
    (distinct : ∀ g ∈ groups, (g.2.map DispatchWorker.sessionId).Nodup)
    (apart : groups.Pairwise fun g g' => ¬ ((∃ w ∈ g.2, w.sessionId = s) ∧
      ∃ w ∈ g'.2, w.sessionId = s))
    (fits : ∀ g ∈ groups, ∀ w ∈ g.2, w.sessionId = s → w.availableSlots.toNat ≤ c)
    (h : dispatchGroups now leaseUntil transport groups db = .ok (out, db')) :
    assignedTo s out ≤ c := by
  induction groups generalizing db out c with
  | nil =>
    cases h
    exact Nat.zero_le _
  | cons g rest ih =>
    obtain ⟨taskType, workers⟩ := g
    obtain ⟨alone, apart⟩ := List.pairwise_cons.mp apart
    have distinct' : ∀ g ∈ rest, (g.2.map DispatchWorker.sessionId).Nodup := fun g hg =>
      distinct g (List.mem_cons_of_mem _ hg)
    unfold dispatchGroups at h
    split at h
    · cases h
    · rename_i assignments db₁ hgroup
      split at h
      · cases h
      · rename_i more _ hrest
        cases h
        have hdistinct := distinct _ List.mem_cons_self
        rw [assignedTo, List.countP_append]
        by_cases here : ∃ w ∈ workers, w.sessionId = s
        · have first := dispatchGroup_count hdistinct (fits _ List.mem_cons_self) hgroup
          have rest_none : assignedTo s more ≤ 0 := by
            refine ih distinct' apart (fun g hg w hw hs => ?_) hrest
            exact (alone g hg ⟨here, w, hw, hs⟩).elim
          simp only [assignedTo] at first rest_none
          omega
        · have first_none : assignedTo s assignments ≤ 0 :=
            dispatchGroup_count hdistinct (fun w hw hs => (here ⟨w, hw, hs⟩).elim) hgroup
          have later := ih distinct' apart
            (fun g hg => fits g (List.mem_cons_of_mem _ hg)) hrest
          simp only [assignedTo] at first_none later
          omega

/-! ### One dispatch -/

theorem availableWorkers_ids (db : Db) (sessions : List WorkerSession) :
    ((availableWorkers db sessions).map fun x => x.2.sessionId).Sublist
      (sessions.map WorkerSession.sessionId) := by
  induction sessions with
  | nil => exact .slnil
  | cons session rest ih =>
    simp only [availableWorkers, List.filterMap_cons, List.map_cons] at ih ⊢
    split
    · exact ih.cons _
    · rename_i hsome
      split at hsome
      · cases hsome
      · cases hsome
        exact ih.cons_cons _

theorem byType_distinct {workers : List (String × DispatchWorker)}
    (distinct : (workers.map fun x => x.2.sessionId).Nodup) :
    ∀ g ∈ byType workers, (g.2.map DispatchWorker.sessionId).Nodup := by
  intro g hg
  rw [mem_byType hg, List.map_map]
  exact distinct.sublist (List.filter_sublist.map _)

theorem byType_apart {workers : List (String × DispatchWorker)}
    (distinct : (workers.map fun x => x.2.sessionId).Nodup) (s : String) :
    (byType workers).Pairwise fun g g' => ¬ ((∃ w ∈ g.2, w.sessionId = s) ∧
      ∃ w ∈ g'.2, w.sessionId = s) := by
  have types : (((workers.map Prod.fst).dedup).insertionSort (· ≤ ·)).Nodup :=
    (List.perm_insertionSort _ _).nodup_iff.mpr (List.nodup_dedup _)
  refine List.pairwise_map.mpr (types.imp fun {t t'} differ => ?_)
  rintro ⟨⟨w, hw, hs⟩, w', hw', hs'⟩
  obtain ⟨x, hx, rfl⟩ := List.mem_map.mp hw
  obtain ⟨x', hx', rfl⟩ := List.mem_map.mp hw'
  obtain ⟨hmem, htype⟩ := List.mem_filter.mp hx
  obtain ⟨hmem', htype'⟩ := List.mem_filter.mp hx'
  have same : x = x' := List.inj_on_of_nodup_map distinct hmem hmem' (hs.trans hs'.symm)
  exact differ ((of_decide_eq_true htype).symm.trans (same ▸ of_decide_eq_true htype'))

/-- A dispatch assigns to a session at most the slots it had free. -/
theorem dispatchRegistered_count {now : Seconds} {sessions : List WorkerSession} {leaseSec : F64}
    {transport : String → Nat → Nat → F64} {db db' : Db} {out : List WorkerAssignment}
    (distinct : (sessions.map WorkerSession.sessionId).Nodup)
    (h : dispatchRegistered now sessions leaseSec transport db = .ok (out, db'))
    {session : WorkerSession} (hsession : session ∈ sessions) :
    assignedTo session.sessionId out ≤
      (saturatingSub session.capacity (load db session.sessionId)).toNat := by
  have ids := distinct.sublist (availableWorkers_ids db sessions)
  refine dispatchGroups_count (byType_distinct ids) (byType_apart ids session.sessionId) ?_ h
  intro g hg w hw hs
  rw [mem_byType hg] at hw
  obtain ⟨x, hx, rfl⟩ := List.mem_map.mp hw
  obtain ⟨other, hother, rfl⟩ := mem_availableWorkers (List.mem_filter.mp hx).1
  have same : other = session := List.inj_on_of_nodup_map distinct hother hsession hs
  rw [same]

theorem load_le_of_assigns {ok : WorkerAssignment → Prop} {db db' : Db}
    {out : List WorkerAssignment} (h : Assigns ok db db' out) (s : String) :
    load db' s ≤ load db s + assignedTo s out := by
  have inside : load db' s ≤ load db s +
      ((out.filter fun a => decide (a.sessionId = s)).map WorkerAssignment.taskId).length := by
    refine Table.count_le_add_of_keys fun id t ht held => ?_
    rcases h.row id with ⟨same, _⟩ | ⟨a, ha, hid, t₀, leaseUntil, now, _, _, _, _, hnew⟩
    · exact Or.inl ⟨t, same ▸ ht, held⟩
    · rw [ht, Option.some.injEq] at hnew
      simp only [hnew, assignTo, Bool.and_eq_true, decide_eq_true_eq, Option.some.injEq] at held
      exact Or.inr (List.mem_map.mpr ⟨a, List.mem_filter.mpr ⟨ha, by simp [held.2]⟩, hid⟩)
  rwa [List.length_map, ← List.countP_eq_length_filter] at inside

/-- A session's load grows by exactly the tasks the dispatch reports for it. -/
theorem load_of_assigns {ok : WorkerAssignment → Prop} {db db' : Db}
    {out : List WorkerAssignment} (h : Assigns ok db db' out) (s : String) :
    load db' s = load db s + assignedTo s out := by
  apply le_antisymm (load_le_of_assigns h s)
  have grown : load db s +
      ((out.filter fun a => decide (a.sessionId = s)).map WorkerAssignment.taskId).length ≤
      load db' s := by
    apply Table.add_count_le_of_keys
    · exact h.distinct.sublist (List.filter_sublist.map WorkerAssignment.taskId)
    · intro id t found held
      rcases h.row id with ⟨same, absent⟩ | ⟨_, _, _, t', _, _, found', pending, _⟩
      · refine ⟨fun mem => ?_, t, same ▸ found, held⟩
        obtain ⟨a, ha, named⟩ := List.mem_map.mp mem
        exact absent a (List.mem_filter.mp ha).1 named
      · rw [found, Option.some.injEq] at found'
        subst found'
        simp [Task.statusIn, pending] at held
    · intro id mem
      obtain ⟨a, ha, rfl⟩ := List.mem_map.mp mem
      obtain ⟨ha, mine⟩ := List.mem_filter.mp ha
      rcases h.row a.taskId with ⟨_, absent⟩ | ⟨b, hb, same, t, leaseUntil, now, _, _, _, _, new⟩
      · exact absurd rfl (absent a ha)
      · obtain rfl := List.inj_on_of_nodup_map h.distinct hb ha same
        refine ⟨_, new, ?_⟩
        simpa [assignTo, Task.statusIn] using mine
  rwa [List.length_map, ← List.countP_eq_length_filter] at grown

/-- After a dispatch a session holds at most its capacity, or what it held. -/
theorem dispatchRegistered_load {now : Seconds} {sessions : List WorkerSession} {leaseSec : F64}
    {transport : String → Nat → Nat → F64} {db db' : Db} {out : List WorkerAssignment}
    (distinct : (sessions.map WorkerSession.sessionId).Nodup)
    (h : dispatchRegistered now sessions leaseSec transport db = .ok (out, db'))
    {session : WorkerSession} (hsession : session ∈ sessions) :
    (load db' session.sessionId : Int) ≤
      max (load db session.sessionId : Int) session.capacity := by
  have added := dispatchRegistered_count distinct h hsession
  have total := load_le_of_assigns (dispatchRegistered_assigns h) session.sessionId
  unfold saturatingSub i64Min i64Max at added
  omega

end WorkerCapacity
