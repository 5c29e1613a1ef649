import TaskQueQue.OrderedSelections
import TaskQueQue.WorkerCapacity
import Mathlib.Algebra.BigOperators.Fin
import Mathlib.Data.Int.Interval
import Mathlib.Data.List.NodupEquivFin

/-!
# Batch dispatch is exact

A dispatch takes the first runnable tasks, as many as there are free slots. The
rounding gives each of them to a worker, whatever the plan holds, since the second
pass names a worker as long as one has room.
-/

namespace BatchDispatch

open QueueValues QueueTables TaskLife KeyedTable GreedyAssignment SyncQueue OrderedSelections
open WorkerCapacity (card_range_filter)

/-! ### The rounding -/

section Rounding
variable {plan : Array2 F64} {capacities : List Int} {s : State Nat Nat} {i : Nat}

theorem bestScored_spec {j : Nat} (h : bestScored plan s i = some j) :
    0 < s.remaining j ∧ j < plan.cols := by
  obtain ⟨⟨score, worker⟩, best, rfl⟩ := Option.map_eq_some_iff.mp h
  revert best
  refine List.foldlRecOn (motive := fun best : Option (F64 × Nat) =>
    best = some (score, worker) → 0 < s.remaining worker ∧ worker < plan.cols)
    (List.range plan.cols) _ (fun none => by cases none) ?_
  intro best held j mem found
  split at found
  · exact held found
  rename_i room
  have fits : 0 < s.remaining j ∧ j < plan.cols :=
    ⟨Nat.pos_of_ne_zero room, List.mem_range.mp mem⟩
  dsimp only at found
  generalize (if (plan.entry i j).isFinite = true then _ else _) = score' at found
  split at found
  · cases found
    exact fits
  split at found
  · cases found
    exact fits
  · exact held found

theorem foldl_isSome {α β : Type} {f : Option β → α → Option β}
    (keeps : ∀ b a, (f (some b) a).isSome) (l : List α) {best : Option β}
    (h : best.isSome ∨ ∃ a ∈ l, (f none a).isSome) : (l.foldl f best).isSome := by
  induction l generalizing best with
  | nil =>
    rcases h with held | ⟨a, mem, _⟩
    · exact held
    · exact absurd mem List.not_mem_nil
  | cons a l ih =>
    apply ih
    cases best with
    | some b => exact Or.inl (keeps b a)
    | none =>
      rcases h with held | ⟨a', mem, answers⟩
      · cases held
      · rcases List.mem_cons.mp mem with rfl | later
        · exact Or.inl answers
        · cases first : f none a with
          | some b => exact Or.inl rfl
          | none => exact Or.inr ⟨a', later, answers⟩

/-- A worker is named as long as one has room. -/
theorem bestScored_isSome {j : Nat} (inside : j < plan.cols) (room : 0 < s.remaining j) :
    (bestScored plan s i).isSome := by
  rw [bestScored, Option.isSome_map]
  apply foldl_isSome
  · intro b a
    split
    · rfl
    · dsimp only
      generalize (if (plan.entry i a).isFinite = true then _ else _) = score
      split <;> rfl
  · refine Or.inr ⟨j, List.mem_range.mpr inside, ?_⟩
    rw [if_neg (Nat.pos_iff_ne_zero.mp room)]
    rfl

/-- The two passes of the rounding. -/
def rounded (plan : Array2 F64) (capacities : List Int) : State Nat Nat :=
  fill (chooseScored plan) (greedy (start (slots capacities))
    (rankedCandidates plan fun i j => (plan.entry i j).isFinite && 0 < slots capacities j))
    (List.range plan.rows)

theorem roundTransportPlanBounded_eq (plan : Array2 F64) (capacities : List Int) :
    roundTransportPlanBounded plan capacities =
      (List.range plan.rows).map (rounded plan capacities).assignment := rfl

theorem chooseScored_spec (s : State Nat Nat) (i j : Nat) (h : chooseScored plan s i = some j) :
    s.assignment i = none ∧ 0 < s.remaining j ∧ j < plan.cols := by
  unfold chooseScored at h
  split at h
  · cases h
  · rename_i free
    rw [Option.not_isSome_iff_eq_none] at free
    exact ⟨free, bestScored_spec h⟩

theorem first_valid (plan : Array2 F64) (capacities : List Int) :
    Valid (Finset.range plan.rows) (slots capacities) (fun _ j => j < plan.cols)
      (greedy (start (slots capacities))
        (rankedCandidates plan fun i j =>
          (plan.entry i j).isFinite && 0 < slots capacities j)) := by
  refine greedy_valid start_valid fun c hc => ?_
  obtain ⟨row, col, _⟩ := mem_rankedCandidates.mp hc
  exact ⟨Finset.mem_range.mpr row, col⟩

theorem rounded_valid (plan : Array2 F64) (capacities : List Int) :
    Valid (Finset.range plan.rows) (slots capacities) (fun _ j => j < plan.cols)
      (rounded plan capacities) :=
  fill_valid_of_free chooseScored_spec (first_valid plan capacities) fun _ hi =>
    Finset.mem_range.mpr (List.mem_range.mp hi)

/-- With slots for all of them, every task is given to a worker. -/
theorem rounded_complete {plan : Array2 F64} {capacities : List Int}
    (fits : plan.rows ≤ ∑ j ∈ Finset.range plan.cols, slots capacities j) {i : Nat}
    (inside : i < plan.rows) : ((rounded plan capacities).assignment i).isSome := by
  refine fill_complete chooseScored_spec (Finset.range plan.cols) ?_
    (fun _ j allowed => Finset.mem_range.mpr allowed) (by rwa [Finset.card_range])
    (first_valid plan capacities) (fun x hx => Finset.mem_range.mpr (List.mem_range.mp hx)) i
    (List.mem_range.mpr inside)
  rintro s i free ⟨j, hj, room⟩
  rw [chooseScored, free]
  exact bestScored_isSome (Finset.mem_range.mp hj) room

theorem count_roundTransportPlanBounded_le (plan : Array2 F64) (capacities : List Int) (j : Nat) :
    (roundTransportPlanBounded plan capacities).countP (fun choice => decide (choice = some j)) ≤
      slots capacities j := by
  have bound := load_le_capacity (rounded_valid plan capacities) j
  rw [GreedyAssignment.load, card_range_filter] at bound
  simpa [roundTransportPlanBounded_eq, List.countP_map, Function.comp_def] using bound

/-- The choices of a rounding that has slots for every task: an index of a worker for each,
no index more often than the worker has slots. -/
theorem roundTransportPlanBounded_complete {plan : Array2 F64} {capacities : List Int}
    (fits : plan.rows ≤ ∑ j ∈ Finset.range plan.cols, slots capacities j) :
    ∃ choices : List Nat, roundTransportPlanBounded plan capacities = choices.map some ∧
      choices.length = plan.rows ∧ (∀ j ∈ choices, j < plan.cols) ∧
      ∀ j, choices.count j ≤ slots capacities j := by
  have valid := rounded_valid plan capacities
  let choice := fun i => ((rounded plan capacities).assignment i).getD 0
  have each : ∀ i < plan.rows, (rounded plan capacities).assignment i = some (choice i) := by
    intro i inside
    obtain ⟨j, hj⟩ := Option.isSome_iff_exists.mp (rounded_complete fits inside)
    show _ = some (((rounded plan capacities).assignment i).getD 0)
    rw [hj]
    rfl
  have same : roundTransportPlanBounded plan capacities =
      ((List.range plan.rows).map choice).map some := by
    rw [roundTransportPlanBounded_eq, List.map_map]
    exact List.map_congr_left fun i hi => each i (List.mem_range.mp hi)
  refine ⟨(List.range plan.rows).map choice, same, by rw [List.length_map, List.length_range],
    ?_, fun j => ?_⟩
  · intro j hj
    obtain ⟨i, hi, rfl⟩ := List.mem_map.mp hj
    exact (valid.sound i _ (each i (List.mem_range.mp hi))).2
  · have bound := count_roundTransportPlanBounded_le plan capacities j
    rw [same, List.countP_map] at bound
    refine le_trans (le_of_eq ?_) bound
    rw [List.count]
    apply List.countP_congr
    intro k _
    simp

end Rounding

/-! ### What a dispatch may take -/

def eligible (now : Seconds) (db : Db) : List Task :=
  db.tasks.select fun t => decide (t.status = "PENDING") && decide (t.scheduledAt ≤ now)

def freeSlots (workers : List WorkerDescriptor) : Nat :=
  (workers.map fun w => w.availableSlots.toNat).sum

theorem eligible_orders (now : Seconds) (db : Db) :
    Orders Task.dispatchBefore (eligible now db) where
  total := by
    intro s t
    rw [Task.dispatchBefore, Task.dispatchBefore]
    omega
  trans := by
    intro s t u st tu
    rw [Task.dispatchBefore] at st tu ⊢
    omega
  antisymm := by
    intro s hs t ht st ts
    have ids : s.id = t.id := by
      rw [Task.dispatchBefore] at st ts
      omega
    exact Table.eq_of_key_eq (List.mem_filter.mp hs).1 (List.mem_filter.mp ht).1 ids
  nodup := (List.Nodup.of_map Task.id db.tasks.unique).sublist List.filter_sublist

theorem runnable_eq (db : Db) (now : Seconds) (limit : Int) :
    runnable db now (fun _ => true) limit =
      firstRows Task.dispatchBefore (eligible now db) limit.toNat := by
  simp only [runnable, Bool.and_true]
  rfl

/-- The ids of the rows are ids that AUTOINCREMENT gives. -/
def RowIds (db : Db) : Prop := ∀ t ∈ db.tasks.rows, 1 ≤ t.id ∧ t.id ≤ i64Max

theorem length_eligible_le {now : Seconds} {db : Db} (ids : RowIds db) :
    ((eligible now db).length : Int) ≤ i64Max := by
  have inside : (db.tasks.rows.map Task.id).toFinset ⊆ Finset.Icc 1 i64Max := by
    intro id mem
    obtain ⟨t, ht, rfl⟩ := List.mem_map.mp (List.mem_toFinset.mp mem)
    exact Finset.mem_Icc.mpr (ids t ht)
  have bound := Finset.card_le_card inside
  rw [List.toFinset_card_of_nodup db.tasks.unique, List.length_map, Int.card_Icc] at bound
  have fewer : (eligible now db).length ≤ db.tasks.rows.length := List.length_filter_le _ _
  rw [i64Max] at bound ⊢
  omega

/-! ### Free slots -/

theorem foldl_saturatingAdd {slots : List Int} (nonneg : ∀ n ∈ slots, 0 ≤ n) {start : Int}
    (from_zero : 0 ≤ start) (bounded : start ≤ i64Max) :
    slots.foldl saturatingAdd start = min i64Max (start + (slots.map Int.toNat).sum) := by
  induction slots generalizing start with
  | nil =>
    rw [List.foldl_nil, List.map_nil, List.sum_nil]
    omega
  | cons n rest ih =>
    have here := nonneg n List.mem_cons_self
    have one : saturatingAdd start n = min i64Max (start + n) := by
      rw [saturatingAdd, i64Min]
      rw [i64Max] at bounded ⊢
      omega
    have next : 0 ≤ saturatingAdd start n ∧ saturatingAdd start n ≤ i64Max := by
      rw [one, i64Max]
      omega
    rw [List.foldl_cons, ih (fun m hm => nonneg m (List.mem_cons_of_mem n hm)) next.1 next.2, one,
      List.map_cons, List.sum_cons, Nat.cast_add, Int.toNat_of_nonneg here]
    generalize (rest.map Int.toNat).sum = total
    simp only [i64Max]
    omega

theorem sum_slots (capacities : List Int) :
    ∑ j ∈ Finset.range capacities.length, slots capacities j = (capacities.map Int.toNat).sum := by
  rw [Finset.sum_range, ← List.sum_ofFn]
  congr 1
  apply List.ext_getElem
  · rw [List.length_ofFn, List.length_map]
  · intro k inside _
    rw [List.length_ofFn] at inside
    rw [List.getElem_ofFn, List.getElem_map, slots, List.getD_eq_getElem?_getD,
      List.getElem?_eq_getElem inside, Option.getD_some]

/-- Workers without free slots add nothing. -/
theorem sum_active (workers : List WorkerDescriptor) :
    (((workers.filter fun w => decide (0 < w.availableSlots)).map
      WorkerDescriptor.availableSlots).map Int.toNat).sum = freeSlots workers := by
  rw [freeSlots]
  induction workers with
  | nil => rfl
  | cons w rest ih =>
    by_cases free : 0 < w.availableSlots
    · rw [List.filter_cons, if_pos (decide_eq_true free), List.map_cons, List.map_cons,
        List.map_cons, List.sum_cons, List.sum_cons, ih]
    · have empty : w.availableSlots.toNat = 0 := by omega
      rw [List.filter_cons, if_neg (by rwa [decide_eq_true_eq]), List.map_cons, List.sum_cons, ih,
        empty, Nat.zero_add]

/-! ### The batch -/

/-- What a dispatched task tells of the row it stands for. -/
def described (t : Task) : Int × String × String × Int := (t.id, t.taskName, t.taskType, t.priority)

def describedBy (d : DispatchedTask) : Int × String × String × Int :=
  (d.taskId, d.taskName, d.taskType, d.priority)

/-- The row of a task after the batch. -/
def assignedRow (leaseUntil now : Seconds) (dispatched : List DispatchedTask) (id : Int)
    (row : Option Task) : Option Task :=
  match dispatched.find? fun d => decide (d.taskId = id) with
  | some d => row.map (assignTo d.workerId leaseUntil now)
  | none => row

theorem assignBatch_spec (workers : List WorkerDescriptor) (plan : Array2 F64)
    (leaseUntil now : Seconds) {work : List (Task × Nat × Option Nat)} {places : List Nat}
    (chosen : work.map (fun x => x.2.2) = places.map some)
    (inside : ∀ j ∈ places, j < workers.length) (distinct : (work.map fun x => x.1.id).Nodup)
    (db : Db) :
    let dispatched := (assignBatch workers plan leaseUntil now work db).1
    dispatched.map describedBy = work.map (fun x => described x.1) ∧
      dispatched.map (fun d => some d.workerId) =
        places.map (fun j => (workers[j]?).map WorkerDescriptor.workerId) ∧
      ∀ id, (assignBatch workers plan leaseUntil now work db).2.tasks.find? id =
        assignedRow leaseUntil now dispatched id (db.tasks.find? id) := by
  induction work generalizing places db with
  | nil =>
    cases places with
    | nil => exact ⟨rfl, rfl, fun _ => rfl⟩
    | cons => cases chosen
  | cons x rest ih =>
    obtain ⟨task, i, choice⟩ := x
    cases places with
    | nil => cases chosen
    | cons j places =>
      rw [List.map_cons, List.map_cons, List.cons.injEq] at chosen
      obtain ⟨rfl, chosen⟩ := chosen
      rw [List.map_cons, List.nodup_cons] at distinct
      have here : j < workers.length := inside j List.mem_cons_self
      have found : workers[j]? = some workers[j] := List.getElem?_eq_getElem here
      obtain ⟨same, names, rows⟩ := ih chosen (fun k hk => inside k (List.mem_cons_of_mem j hk))
        distinct.2 (assignRow workers[j].workerId leaseUntil now task.id db)
      unfold assignBatch
      simp only [Option.bind_some, found, Option.map_some, List.map_cons]
      refine ⟨congrArg _ same, congrArg _ names, fun id => ?_⟩
      rw [rows, assignedRow, assignedRow, List.find?_cons]
      by_cases own : task.id = id
      · have absent : (assignBatch workers plan leaseUntil now rest
            (assignRow workers[j].workerId leaseUntil now task.id db)).1.find?
            (fun d => decide (d.taskId = id)) = none := by
          rw [List.find?_eq_none]
          intro d hd named
          have listed : describedBy d ∈ rest.map fun x => described x.1 := by
            rw [← same]
            exact List.mem_map_of_mem hd
          obtain ⟨x, hx, shown⟩ := List.mem_map.mp listed
          have ids : x.1.id = d.taskId := congrArg Prod.fst shown
          exact distinct.1 (List.mem_map.mpr ⟨x, hx, (ids.trans (of_decide_eq_true named)).trans
            own.symm⟩)
        rw [absent, assignRow_find?, if_pos own.symm, decide_eq_true own]
      · rw [assignRow_find?, if_neg fun h => own h.symm, decide_eq_false own]

/-! ### The dispatch -/

/-- The first of the eligible tasks, as many as there are free slots, are assigned, each to
one entry of the list of workers, and no entry gets more than its free slots. -/
structure Exact (now leaseUntil : Seconds) (workers : List WorkerDescriptor) (db db' : Db)
    (dispatched : List DispatchedTask) : Prop where
  count : dispatched.length = min (eligible now db).length (freeSlots workers)
  first : ∀ t ∈ db.tasks.rows, t.id ∈ dispatched.map DispatchedTask.taskId ↔
    t ∈ eligible now db ∧ rank Task.dispatchBefore (eligible now db) t < freeSlots workers
  described : ∀ d ∈ dispatched, ∃ t ∈ db.tasks.rows, described t = describedBy d
  once : (dispatched.map DispatchedTask.taskId).Nodup
  placed : ∃ places : List Nat, dispatched.map (fun d => some d.workerId) =
      places.map (fun j => (workers[j]?).map WorkerDescriptor.workerId) ∧
    ∀ j w, workers[j]? = some w → places.count j ≤ w.availableSlots.toNat
  rows : ∀ id, db'.tasks.find? id = assignedRow leaseUntil now dispatched id (db.tasks.find? id)
  fences : db'.fences = db.fences
  results : db'.results = db.results
  idempotency : db'.idempotency = db.idempotency
  taskSeq : db'.taskSeq = db.taskSeq

/-- A dispatch that takes nothing changes nothing. -/
theorem exact_of_none {now leaseUntil : Seconds} {workers : List WorkerDescriptor} {db : Db}
    (nothing : min (eligible now db).length (freeSlots workers) = 0) :
    Exact now leaseUntil workers db db [] where
  count := nothing.symm
  first := by
    intro t _
    constructor
    · exact fun listed => absurd listed List.not_mem_nil
    · rintro ⟨mem, before⟩
      have present := List.length_pos_of_mem mem
      omega
  described := fun d hd => absurd hd List.not_mem_nil
  once := List.nodup_nil
  placed := ⟨[], rfl, fun _ _ _ => Nat.zero_le _⟩
  rows := fun _ => rfl
  fences := rfl
  results := rfl
  idempotency := rfl
  taskSeq := rfl

/-- Indices into the workers with free slots, as indices into all of them. -/
theorem places_of_active {workers : List WorkerDescriptor} {places : List Nat}
    (bounded : ∀ j, places.count j ≤ slots ((workers.filter fun w =>
      decide (0 < w.availableSlots)).map WorkerDescriptor.availableSlots) j) :
    ∃ places' : List Nat, places.map (fun j => ((workers.filter fun w =>
        decide (0 < w.availableSlots))[j]?).map WorkerDescriptor.workerId) =
        places'.map (fun j => (workers[j]?).map WorkerDescriptor.workerId) ∧
      ∀ j w, workers[j]? = some w → places'.count j ≤ w.availableSlots.toNat := by
  obtain ⟨f, same⟩ := List.sublist_iff_exists_orderEmbedding_getElem?_eq.mp
    (List.filter_sublist (p := fun w : WorkerDescriptor => decide (0 < w.availableSlots))
      (l := workers))
  refine ⟨places.map f, ?_, fun j w found => ?_⟩
  · rw [List.map_map]
    exact List.map_congr_left fun j _ => congrArg _ (same j)
  · by_cases reached : ∃ k, f k = j
    · obtain ⟨k, rfl⟩ := reached
      rw [List.count_map_of_injective _ _ f.injective]
      refine (bounded k).trans (le_of_eq ?_)
      rw [slots, List.getD_eq_getElem?_getD, List.getElem?_map, same k, found]
      rfl
    · rw [List.count_eq_zero_of_not_mem]
      · exact Nat.zero_le _
      · intro mem
        obtain ⟨k, _, hk⟩ := List.mem_map.mp mem
        exact reached ⟨k, hk⟩

/-- The slots the dispatch counts: no more than an `i64` holds. -/
theorem totalSlots_active (workers : List WorkerDescriptor) :
    totalSlots ((workers.filter fun w => decide (0 < w.availableSlots)).map
      WorkerDescriptor.availableSlots) = min i64Max (freeSlots workers) := by
  rw [totalSlots, foldl_saturatingAdd, sum_active, Int.zero_add]
  · intro n mem
    obtain ⟨w, hw, rfl⟩ := List.mem_map.mp mem
    exact (of_decide_eq_true (List.mem_filter.mp hw).2).le
  · exact le_refl _
  · decide

theorem firstRows_saturated {now : Seconds} {db : Db} (ids : RowIds db) (n : Nat) :
    firstRows Task.dispatchBefore (eligible now db) (min i64Max (n : Int)).toNat =
      firstRows Task.dispatchBefore (eligible now db) n := by
  have fits : ((eligible now db).length : Int) ≤ i64Max := length_eligible_le ids
  rcases le_or_gt (n : Int) i64Max with small | large
  · rw [min_eq_right small, Int.toNat_natCast]
  · rw [min_eq_left large.le, firstRows, firstRows, List.take_of_length_le,
      List.take_of_length_le]
    · rw [List.length_insertionSort]
      omega
    · rw [List.length_insertionSort]
      omega

/-- What the batch makes of the first eligible tasks. -/
theorem exact_of_batch {now leaseUntil : Seconds} {workers active : List WorkerDescriptor}
    {plan : Array2 F64} {db : Db} {rows : List Task}
    (only : active = workers.filter fun w => decide (0 < w.availableSlots))
    (first : rows = firstRows Task.dispatchBefore (eligible now db) (freeSlots workers))
    (planned : plan.rows = rows.length) (cols : plan.cols = active.length) :
    Exact now leaseUntil workers db
      (assignBatch active plan leaseUntil now (rows.zip ((List.range rows.length).zip
        (roundTransportPlanBounded plan (active.map WorkerDescriptor.availableSlots)))) db).2
      (assignBatch active plan leaseUntil now (rows.zip ((List.range rows.length).zip
        (roundTransportPlanBounded plan (active.map WorkerDescriptor.availableSlots)))) db).1 := by
  have orders := eligible_orders now db
  have size : rows.length = min (eligible now db).length (freeSlots workers) := by
    rw [first, length_firstRows, min_comm]
  have fits : plan.rows ≤ ∑ j ∈ Finset.range plan.cols,
      slots (active.map WorkerDescriptor.availableSlots) j := by
    have all := sum_slots (active.map WorkerDescriptor.availableSlots)
    rw [List.length_map, only, sum_active, ← only] at all
    rw [planned, cols, all, size]
    exact min_le_right _ _
  obtain ⟨places, chosen, many, inside, bounded⟩ := roundTransportPlanBounded_complete fits
  rw [planned] at many
  let work := rows.zip ((List.range rows.length).zip (places.map some))
  have tasks : work.map Prod.fst = rows := by
    apply List.map_fst_zip
    rw [List.length_zip, List.length_range, List.length_map, many, min_self]
  have choices : work.map (fun x => x.2.2) = places.map some := by
    have second : work.map Prod.snd = (List.range rows.length).zip (places.map some) := by
      apply List.map_snd_zip
      rw [List.length_zip, List.length_range, List.length_map, many, min_self]
    calc work.map (fun x => x.2.2) = (work.map Prod.snd).map Prod.snd := by rw [List.map_map]; rfl
      _ = places.map some := by
        rw [second, List.map_snd_zip]
        rw [List.length_map, List.length_range, many]
  have listed : rows.map Task.id = work.map fun x => x.1.id := by
    calc rows.map Task.id = (work.map Prod.fst).map Task.id := by rw [tasks]
      _ = work.map fun x => x.1.id := by rw [List.map_map]; rfl
  have nodup : (rows.map Task.id).Nodup := by
    have sorted : (rows.map Task.id).Sublist
        (((eligible now db).insertionSort Task.dispatchBefore).map Task.id) := by
      rw [first]
      exact (List.take_sublist _ _).map Task.id
    have unique : ((eligible now db).map Task.id).Nodup :=
      db.tasks.unique.sublist (List.filter_sublist.map Task.id)
    exact (((List.perm_insertionSort _ _).map Task.id).nodup_iff.mpr unique).sublist sorted
  rw [chosen]
  have pending : ∀ x ∈ work, db.tasks.find? x.1.id = some x.1 ∧ x.1.status = "PENDING" := by
    intro x hx
    have taken : x.1 ∈ rows := (List.of_mem_zip hx).1
    rw [first] at taken
    obtain ⟨mem, due⟩ := List.mem_filter.mp ((mem_firstRows_iff orders).mp taken).1
    exact ⟨Table.find?_of_mem mem, of_decide_eq_true (Bool.and_eq_true_iff.mp due).1⟩
  have others := @assignBatch_onlyAssigns active plan leaseUntil now work db (listed ▸ nodup) pending
  obtain ⟨same, names, found⟩ := assignBatch_spec active plan leaseUntil now choices
    (fun j hj => cols ▸ inside j hj) (listed ▸ nodup) db
  have shown : (assignBatch active plan leaseUntil now work db).1.map describedBy =
      rows.map BatchDispatch.described := by
    calc (assignBatch active plan leaseUntil now work db).1.map describedBy
        = (work.map Prod.fst).map BatchDispatch.described := by rw [same, List.map_map]; rfl
      _ = rows.map BatchDispatch.described := by rw [tasks]
  have taken : (assignBatch active plan leaseUntil now work db).1.map DispatchedTask.taskId =
      rows.map Task.id := by
    have firsts := congrArg (List.map Prod.fst) shown
    rwa [List.map_map, List.map_map] at firsts
  constructor
  case count =>
    have lengths := congrArg List.length taken
    rwa [List.length_map, List.length_map, size] at lengths
  case first =>
    intro t mem
    rw [taken, ← mem_firstRows_iff orders, ← first]
    constructor
    · intro listed
      obtain ⟨other, hother, ids⟩ := List.mem_map.mp listed
      have known := hother
      rw [first] at known
      have row := (List.mem_filter.mp ((mem_firstRows_iff orders).mp known).1).1
      rwa [Table.eq_of_key_eq mem row ids.symm]
    · exact fun mem => List.mem_map_of_mem mem
  case described =>
    intro d hd
    have told : describedBy d ∈ rows.map BatchDispatch.described := shown ▸ List.mem_map_of_mem hd
    obtain ⟨t, ht, equal⟩ := List.mem_map.mp told
    rw [first] at ht
    exact ⟨t, (List.mem_filter.mp ((mem_firstRows_iff orders).mp ht).1).1, equal⟩
  case once =>
    rw [taken]
    exact nodup
  case placed =>
    subst only
    obtain ⟨places', names', bounded'⟩ := places_of_active bounded
    exact ⟨places', names.trans names', bounded'⟩
  case rows => exact found
  case fences => exact others.fences
  case results => exact others.results
  case idempotency => exact others.idempotency
  case taskSeq => exact others.seq

/-- Dispatch is exact for every list of workers and every plan. -/
theorem dispatchBatch_exact (now : Seconds) (workers : List WorkerDescriptor) (leaseSec : F64)
    (transport : Nat → Nat → F64) (db : Db) (ids : RowIds db) :
    ∃ dispatched db', dispatchBatch now workers leaseSec transport db = .ok (dispatched, db') ∧
      Exact now (now + leaseSec.positiveOr 10) workers db db' dispatched := by
  have total := totalSlots_active workers
  unfold dispatchBatch
  dsimp only
  by_cases idle : (workers.filter fun w => decide (0 < w.availableSlots)) = []
  · have none_free := sum_active workers
    rw [idle] at none_free
    rw [if_pos idle]
    exact ⟨_, _, rfl, exact_of_none (by rw [← none_free]; exact Nat.min_zero _)⟩
  rw [if_neg idle, total]
  by_cases spent : min i64Max (freeSlots workers : Int) ≤ 0
  · have none_free : freeSlots workers = 0 := by
      rw [i64Max] at spent
      omega
    rw [if_pos spent]
    exact ⟨_, _, rfl, exact_of_none (by rw [none_free]; exact Nat.min_zero _)⟩
  rw [if_neg spent, runnable_eq, firstRows_saturated ids]
  by_cases waiting : firstRows Task.dispatchBefore (eligible now db) (freeSlots workers) = []
  · have size : (firstRows Task.dispatchBefore (eligible now db) (freeSlots workers)).length =
        min (freeSlots workers) (eligible now db).length := length_firstRows _ _
    rw [waiting] at size
    rw [if_pos waiting]
    exact ⟨_, _, rfl, exact_of_none (by rw [min_comm]; exact size.symm)⟩
  rw [if_neg waiting]
  exact ⟨_, _, rfl, exact_of_batch rfl rfl rfl rfl⟩

instance : DecidablePred RowIds := fun db =>
  inferInstanceAs (Decidable (∀ t ∈ db.tasks.rows, 1 ≤ t.id ∧ t.id ≤ i64Max))

def twoPending : Db :=
  QueueRuns.run [.enqueue 0 "send" "cpu" "" 0 3, .enqueue 0 "send" "gpu" "" 1 3]

/-- Two tasks and one free slot, with a plan of no numbers. -/
theorem sample_exact : ∃ dispatched db',
    dispatchBatch 1 [⟨"w", "cpu", 2, 1⟩] (.finite 10) (fun _ _ => .nan) twoPending =
      .ok (dispatched, db') ∧
    Exact 1 (1 + (F64.finite 10).positiveOr 10) [⟨"w", "cpu", 2, 1⟩] twoPending db' dispatched :=
  dispatchBatch_exact 1 [⟨"w", "cpu", 2, 1⟩] (.finite 10) (fun _ _ => .nan) twoPending
    (by decide +kernel)

end BatchDispatch
