import TaskQueQue.ResultReferences

/-!
# One projection read for each source

A projection enters the cache when its request is answered, so two references to one
task are read once if the second starts after the first was answered. Entries of an
array start together; entries of an object, one after another. What counts is how many
references to a task can start before any of them was answered: in an object those of
the first entry that has any, in an array those of all its entries.
-/

namespace ProjectionReads

open GatewayValues WorkflowDefinition WorkflowDags ResultReferences

section Reads
variable (sourceTaskIds : List (String × Int)) (taskId : Int)

mutual

/-- The references to a task that can start before any of them was answered. -/
def firstReads : Json → Nat
  | .arr items => firstReadsItems items
  | .obj fields =>
    match parseReference fields with
    | .error _ => 0
    | .ok (some reference) =>
      if sourceTaskIds.lookup reference.source = some taskId then 1 else 0
    | .ok none => firstReadsFields fields
  | .null | .bool _ | .num _ | .str _ => 0

def firstReadsItems : List Json → Nat
  | [] => 0
  | item :: items => firstReads item + firstReadsItems items

def firstReadsFields : Fields → Nat
  | [] => 0
  | (_, entry) :: rest => if firstReads entry = 0 then firstReadsFields rest else firstReads entry

end

mutual

/-- The requests for a task a call waits for. -/
def waiting : Pending → Nat
  | .fetching other _ => if other = taskId then 1 else 0
  | .all calls => waitingAll calls
  | .assigning _ _ call _ _ => waiting call
  | .settled _ | .rejected _ => 0

def waitingAll : List Pending → Nat
  | [] => 0
  | call :: calls => waiting call + waitingAll calls

end

mutual

/-- The requests for a task a call waits for or can still make before one is answered. -/
def demand : Pending → Nat
  | .fetching other _ => if other = taskId then 1 else 0
  | .all calls => demandAll calls
  | .assigning _ _ call rest _ =>
    if demand call ≠ 0 then demand call
    else if call.failed then 0
    else firstReadsFields sourceTaskIds taskId rest
  | .settled _ | .rejected _ => 0

def demandAll : List Pending → Nat
  | [] => 0
  | call :: calls => demand call + demandAll calls

end

mutual

theorem waiting_le_demand : (call : Pending) →
    waiting taskId call ≤ demand sourceTaskIds taskId call
  | .fetching _ _ => by
    rw [waiting, demand]
  | .all calls => by
    rw [waiting, demand]
    exact waitingAll_le_demandAll calls
  | .assigning _ _ call rest _ => by
    have inner := waiting_le_demand call
    rw [waiting, demand]
    by_cases idle : demand sourceTaskIds taskId call = 0
    · omega
    · rw [if_pos idle]
      exact inner
  | .settled _ | .rejected _ => by
    rw [waiting, demand]

theorem waitingAll_le_demandAll : (calls : List Pending) →
    waitingAll taskId calls ≤ demandAll sourceTaskIds taskId calls
  | [] => by
    rw [waitingAll, demandAll]
  | call :: calls => by
    rw [waitingAll, demandAll]
    exact Nat.add_le_add (waiting_le_demand call) (waitingAll_le_demandAll calls)

end

theorem waitingAll_append (before : List Pending) (call : Pending) (after : List Pending) :
    waitingAll taskId (before ++ call :: after) =
      waiting taskId call + waitingAll taskId (before ++ after) := by
  induction before with
  | nil => rfl
  | cons first before ih =>
    rw [List.cons_append, List.cons_append, waitingAll, waitingAll, ih]
    omega

theorem demandAll_append (before : List Pending) (call : Pending) (after : List Pending) :
    demandAll sourceTaskIds taskId (before ++ call :: after) =
      demand sourceTaskIds taskId call + demandAll sourceTaskIds taskId (before ++ after) := by
  induction before with
  | nil => rfl
  | cons first before ih =>
    rw [List.cons_append, List.cons_append, demandAll, demandAll, ih]
    omega

end Reads

/-! ### Starting a call -/

section Starts
variable {sourceTaskIds : List (String × Int)} {taskId : Int}

theorem resolveReference_count (reference : WorkflowResultReference) (s : Shared) :
    (resolveReference sourceTaskIds reference s).2.requests.count taskId =
      s.requests.count taskId + waiting taskId (resolveReference sourceTaskIds reference s).1 := by
  rcases resolveReference_cases sourceTaskIds s reference with
    ⟨⟨error, same⟩, -⟩ | ⟨other, source, ⟨projection, held, same⟩ | ⟨-, same⟩⟩
  · rw [same, waiting]
    rfl
  · rw [same]
    cases selectPath projection reference.path with
    | ok value => rw [settle, waiting]; rfl
    | error error => rw [settle, waiting]; rfl
  · rw [same, waiting, List.count_append, List.count_singleton]
    by_cases here : other = taskId
    · rw [if_pos here, if_pos (beq_iff_eq.mpr here)]
    · rw [if_neg here, if_neg fun h => here (beq_iff_eq.mp h)]

/-- Every request a start makes is one the call waits for. -/
theorem resolve_count (value : Json) : ∀ depth s,
    (resolve sourceTaskIds depth value s).2.requests.count taskId =
      s.requests.count taskId + waiting taskId (resolve sourceTaskIds depth value s).1 := by
  refine json_induction (P := fun value => ∀ depth s,
      (resolve sourceTaskIds depth value s).2.requests.count taskId =
        s.requests.count taskId + waiting taskId (resolve sourceTaskIds depth value s).1)
    (Q := fun items => ∀ depth s,
      (resolveItems sourceTaskIds depth items s).2.requests.count taskId =
        s.requests.count taskId + waitingAll taskId (resolveItems sourceTaskIds depth items s).1)
    (R := fun fields => ∀ depth output s,
      (resolveFields sourceTaskIds depth output fields s).2.requests.count taskId =
        s.requests.count taskId +
          waiting taskId (resolveFields sourceTaskIds depth output fields s).1)
    ?_ ?_ ?_ ?_ ?_ ?_ ?_ value
  · intro value flat depth s
    rcases resolve_scalar sourceTaskIds depth s flat with ⟨⟨error, same⟩, -⟩ | same <;>
      rw [same, waiting] <;> rfl
  · intro items ih depth s
    rcases resolve_arr sourceTaskIds depth s items with ⟨⟨error, same⟩, -⟩ | same <;>
      rw [same, waiting]
    · rfl
    · exact ih (depth + 1) s
  · intro fields ih depth s
    rcases resolve_obj sourceTaskIds depth s fields with
      ⟨⟨error, same⟩, -⟩ | ⟨reference, -, same⟩ | ⟨-, same⟩ <;> rw [same]
    · rw [waiting]
      rfl
    · exact resolveReference_count reference s
    · exact ih (depth + 1) [] s
  · intro depth s
    rw [resolveItems, waitingAll]
    rfl
  · intro item items head tail depth s
    have first := head depth s
    have later := tail depth (resolve sourceTaskIds depth item s).2
    rw [resolveItems, waitingAll]
    dsimp only
    omega
  · intro depth output s
    rw [resolveFields, waiting]
    rfl
  · intro key entry rest head tail depth output s
    rw [resolveFields, waiting]
    exact head depth s

theorem resolveFields_count (depth : Nat) (output fields : Fields) (s : Shared) :
    (resolveFields sourceTaskIds depth output fields s).2.requests.count taskId =
      s.requests.count taskId +
        waiting taskId (resolveFields sourceTaskIds depth output fields s).1 := by
  cases fields with
  | nil =>
    rw [resolveFields, waiting]
    rfl
  | cons field rest =>
    rw [resolveFields, waiting]
    exact resolve_count field.2 depth s

/-- Nothing is requested that the cache holds. -/
theorem resolveReference_cached {reference : WorkflowResultReference} {s : Shared}
    (held : s.cache.lookup taskId ≠ none) :
    waiting taskId (resolveReference sourceTaskIds reference s).1 = 0 := by
  rcases resolveReference_cases sourceTaskIds s reference with
    ⟨⟨error, same⟩, -⟩ | ⟨other, -, ⟨projection, -, same⟩ | ⟨missing, same⟩⟩
  · rw [same, waiting]
  · rw [same]
    cases selectPath projection reference.path <;> rw [settle, waiting]
  · rw [same, waiting, if_neg]
    rintro rfl
    exact held missing

theorem resolve_cached (value : Json) : ∀ depth (s : Shared), s.cache.lookup taskId ≠ none →
    waiting taskId (resolve sourceTaskIds depth value s).1 = 0 := by
  refine json_induction (P := fun value => ∀ depth (s : Shared), s.cache.lookup taskId ≠ none →
      waiting taskId (resolve sourceTaskIds depth value s).1 = 0)
    (Q := fun items => ∀ depth (s : Shared), s.cache.lookup taskId ≠ none →
      waitingAll taskId (resolveItems sourceTaskIds depth items s).1 = 0)
    (R := fun fields => ∀ depth output (s : Shared), s.cache.lookup taskId ≠ none →
      waiting taskId (resolveFields sourceTaskIds depth output fields s).1 = 0)
    ?_ ?_ ?_ ?_ ?_ ?_ ?_ value
  · intro value flat depth s held
    rcases resolve_scalar sourceTaskIds depth s flat with ⟨⟨error, same⟩, -⟩ | same <;>
      rw [same, waiting]
  · intro items ih depth s held
    rcases resolve_arr sourceTaskIds depth s items with ⟨⟨error, same⟩, -⟩ | same <;>
      rw [same, waiting]
    exact ih (depth + 1) s held
  · intro fields ih depth s held
    rcases resolve_obj sourceTaskIds depth s fields with
      ⟨⟨error, same⟩, -⟩ | ⟨reference, -, same⟩ | ⟨-, same⟩ <;> rw [same]
    · rw [waiting]
    · exact resolveReference_cached held
    · exact ih (depth + 1) [] s held
  · intro depth s held
    rw [resolveItems, waitingAll]
  · intro item items head tail depth s held
    have held' : (resolve sourceTaskIds depth item s).2.cache.lookup taskId ≠ none := by
      rwa [resolve_cache]
    rw [resolveItems, waitingAll, head depth s held, tail depth _ held']
  · intro depth output s held
    rw [resolveFields, waiting]
  · intro key entry rest head tail depth output s held
    rw [resolveFields, waiting]
    exact head depth s held

theorem resolveFields_cached {depth : Nat} {output fields : Fields} {s : Shared}
    (held : s.cache.lookup taskId ≠ none) :
    waiting taskId (resolveFields sourceTaskIds depth output fields s).1 = 0 := by
  cases fields with
  | nil => rw [resolveFields, waiting]
  | cons field rest =>
    rw [resolveFields, waiting]
    exact resolve_cached field.2 depth s held

/-- A call can make as many requests as the value's first reads, fewer only if it was
rejected. -/
def Demands (sourceTaskIds : List (String × Int)) (taskId : Int) (call : Pending) (reads : Nat) :
    Prop :=
  demand sourceTaskIds taskId call ≤ reads ∧
    (call.failed = false → demand sourceTaskIds taskId call = reads)

theorem Demands.rejected (error : ResolutionError) (reads : Nat) :
    Demands sourceTaskIds taskId (.rejected error) reads := by
  refine ⟨?_, fun running => (nomatch running)⟩
  rw [demand]
  exact Nat.zero_le _

theorem demands_resolveReference {reference : WorkflowResultReference} {s : Shared}
    (missing : s.cache.lookup taskId = none) :
    Demands sourceTaskIds taskId (resolveReference sourceTaskIds reference s).1
      (if sourceTaskIds.lookup reference.source = some taskId then 1 else 0) := by
  rcases resolveReference_cases sourceTaskIds s reference with
    ⟨⟨error, same⟩, -⟩ | ⟨other, source, ⟨projection, held, same⟩ | ⟨-, same⟩⟩
  · rw [same]
    exact Demands.rejected error _
  · have differ : ¬ sourceTaskIds.lookup reference.source = some taskId := by
      rw [source]
      rintro ⟨⟩
      rw [missing] at held
      cases held
    rw [same, if_neg differ]
    cases selectPath projection reference.path with
    | ok value =>
      rw [settle, Demands, demand]
      exact ⟨Nat.le_refl 0, fun _ => rfl⟩
    | error error => exact Demands.rejected error 0
  · have count : (if sourceTaskIds.lookup reference.source = some taskId then 1 else 0) =
        if other = taskId then 1 else 0 := by
      simp only [source, Option.some.injEq]
    rw [same, count, Demands, demand]
    exact ⟨Nat.le_refl _, fun _ => rfl⟩

theorem demands_resolveFields {fields : Fields} {depth : Nat} {output : Fields} {s : Shared}
    (each : ∀ field ∈ fields, ∀ depth (s : Shared), s.cache.lookup taskId = none →
      Demands sourceTaskIds taskId (resolve sourceTaskIds depth field.2 s).1
        (firstReads sourceTaskIds taskId field.2))
    (missing : s.cache.lookup taskId = none) :
    Demands sourceTaskIds taskId (resolveFields sourceTaskIds depth output fields s).1
      (firstReadsFields sourceTaskIds taskId fields) := by
  cases fields with
  | nil =>
    rw [resolveFields, firstReadsFields, Demands, demand]
    exact ⟨Nat.le_refl 0, fun _ => rfl⟩
  | cons field rest =>
    obtain ⟨key, entry⟩ := field
    obtain ⟨most, all⟩ := each (key, entry) List.mem_cons_self depth s missing
    rw [resolveFields, firstReadsFields, Demands, demand, Pending.failed]
    dsimp only at most all ⊢
    cases failed : (resolve sourceTaskIds depth entry s).1.failed with
    | false =>
      rw [← all failed, if_neg Bool.false_ne_true]
      by_cases idle : demand sourceTaskIds taskId (resolve sourceTaskIds depth entry s).1 = 0
      · rw [if_neg (not_not.mpr idle), if_pos idle]
        exact ⟨Nat.le_refl _, fun _ => rfl⟩
      · rw [if_pos idle, if_neg idle]
        exact ⟨Nat.le_refl _, fun _ => rfl⟩
    | true =>
      refine ⟨?_, fun running => absurd running (by decide)⟩
      rw [if_pos rfl]
      by_cases idle : demand sourceTaskIds taskId (resolve sourceTaskIds depth entry s).1 = 0
      · rw [if_neg (not_not.mpr idle)]
        exact Nat.zero_le _
      · rw [if_pos idle, if_neg (by omega)]
        exact most

theorem demands_resolve (value : Json) : ∀ depth (s : Shared), s.cache.lookup taskId = none →
    Demands sourceTaskIds taskId (resolve sourceTaskIds depth value s).1
      (firstReads sourceTaskIds taskId value) := by
  refine json_induction (P := fun value => ∀ depth (s : Shared), s.cache.lookup taskId = none →
      Demands sourceTaskIds taskId (resolve sourceTaskIds depth value s).1
        (firstReads sourceTaskIds taskId value))
    (Q := fun items => ∀ depth (s : Shared), s.cache.lookup taskId = none →
      demandAll sourceTaskIds taskId (resolveItems sourceTaskIds depth items s).1 ≤
          firstReadsItems sourceTaskIds taskId items ∧
        (Pending.anyFailed (resolveItems sourceTaskIds depth items s).1 = false →
          demandAll sourceTaskIds taskId (resolveItems sourceTaskIds depth items s).1 =
            firstReadsItems sourceTaskIds taskId items))
    (R := fun fields => ∀ field ∈ fields, ∀ depth (s : Shared), s.cache.lookup taskId = none →
      Demands sourceTaskIds taskId (resolve sourceTaskIds depth field.2 s).1
        (firstReads sourceTaskIds taskId field.2))
    ?_ ?_ ?_ ?_ ?_ ?_ ?_ value
  · intro value flat depth s missing
    rcases resolve_scalar sourceTaskIds depth s flat with ⟨⟨error, same⟩, -⟩ | same <;> rw [same]
    · exact Demands.rejected error _
    · rw [Demands, demand]
      cases value with
      | null | bool _ | num _ | str _ =>
        rw [firstReads]
        exact ⟨Nat.le_refl 0, fun _ => rfl⟩
      | arr _ | obj _ => cases flat
  · intro items ih depth s missing
    rcases resolve_arr sourceTaskIds depth s items with ⟨⟨error, same⟩, -⟩ | same <;> rw [same]
    · exact Demands.rejected error _
    · rw [Demands, demand, firstReads, Pending.failed]
      exact ih (depth + 1) s missing
  · intro fields ih depth s missing
    rcases resolve_obj sourceTaskIds depth s fields with
      ⟨⟨error, same⟩, -⟩ | ⟨reference, parsed, same⟩ | ⟨parsed, same⟩ <;> rw [same]
    · exact Demands.rejected error _
    · rw [firstReads, parsed]
      exact demands_resolveReference missing
    · rw [firstReads, parsed]
      exact demands_resolveFields ih missing
  · intro depth s missing
    rw [resolveItems, demandAll, firstReadsItems]
    exact ⟨Nat.le_refl 0, fun _ => rfl⟩
  · intro item items head tail depth s missing
    have missing' : (resolve sourceTaskIds depth item s).2.cache.lookup taskId = none := by
      rwa [resolve_cache]
    obtain ⟨most, all⟩ := head depth s missing
    obtain ⟨mostLater, allLater⟩ := tail depth _ missing'
    rw [resolveItems, demandAll, firstReadsItems, Pending.anyFailed]
    refine ⟨Nat.add_le_add most mostLater, fun running => ?_⟩
    rw [Bool.or_eq_false_iff] at running
    rw [all running.1, allLater running.2]
  · exact List.forall_mem_nil _
  · intro key entry rest head tail
    exact List.forall_mem_cons.mpr ⟨head, tail⟩

end Starts

/-! ### Taking steps -/

section Runs
variable {sourceTaskIds : List (String × Int)} {projections : Int → Fields} {taskId : Int}

mutual

/-- A promise that was fulfilled makes no requests. -/
theorem idle_of_value : (call : Pending) → (value : Json) → call.value? = some value →
    demand sourceTaskIds taskId call = 0
  | .settled _, value, done => by
    rw [demand]
  | .all calls, value, done => by
    rw [Pending.value?] at done
    obtain ⟨values, each, -⟩ := Option.map_eq_some_iff.mp done
    rw [demand]
    exact idle_of_values calls values each
  | .rejected _, value, done => by
    rw [Pending.value?] at done
    cases done
  | .fetching _ _, value, done => by
    rw [Pending.value?] at done
    cases done
  | .assigning _ _ _ _ _, value, done => by
    rw [Pending.value?] at done
    cases done

theorem idle_of_values : (calls : List Pending) → (values : List Json) →
    Pending.values? calls = some values → demandAll sourceTaskIds taskId calls = 0
  | [], values, done => by
    rw [demandAll]
  | call :: calls, values, done => by
    rw [Pending.values?] at done
    obtain ⟨value, first, done⟩ := Option.bind_eq_some_iff.mp done
    obtain ⟨rest, later, -⟩ := Option.map_eq_some_iff.mp done
    rw [demandAll, idle_of_value call value first, idle_of_values calls rest later]

end

/-- What a step does to the requests for a task: none is made once the cache holds its
projection, and until then the requests made and still possible, beyond those that are
waited for, do not grow; they stay the same unless a call is rejected. -/
structure Account (sourceTaskIds : List (String × Int)) (taskId : Int) (call : Pending)
    (s : Shared) (call' : Pending) (s' : Shared) : Prop where
  held : s'.cache.lookup taskId ≠ none →
    s'.requests.count taskId = s.requests.count taskId
  missing : s'.cache.lookup taskId = none → s.cache.lookup taskId = none
  most : s'.cache.lookup taskId = none →
    s'.requests.count taskId + demand sourceTaskIds taskId call' + waiting taskId call ≤
      s.requests.count taskId + demand sourceTaskIds taskId call + waiting taskId call'
  running : call'.failed = false → call.failed = false
  all : s'.cache.lookup taskId = none → call'.failed = false →
    demand sourceTaskIds taskId call' = demand sourceTaskIds taskId call ∧
      s'.requests.count taskId + waiting taskId call =
        s.requests.count taskId + waiting taskId call'

theorem account_answered (other : Int) (path : String) (s : Shared) :
    Account sourceTaskIds taskId (.fetching other path) s
      (settle (selectPath (projections other) path))
      { s with cache := (other, projections other) :: s.cache } := by
  have idle : waiting taskId (settle (selectPath (projections other) path)) = 0 ∧
      demand sourceTaskIds taskId (settle (selectPath (projections other) path)) = 0 := by
    cases selectPath (projections other) path with
    | ok value =>
      rw [settle, waiting, demand]
      exact ⟨rfl, rfl⟩
    | error error =>
      rw [settle, waiting, demand]
      exact ⟨rfl, rfl⟩
  have differ : List.lookup taskId ((other, projections other) :: s.cache) = none →
      other ≠ taskId ∧ s.cache.lookup taskId = none := by
    rw [List.lookup_cons]
    intro missing
    split at missing
    · cases missing
    · rename_i h
      exact ⟨fun same => (beq_eq_false_iff_ne.mp h) same.symm, missing⟩
  refine ⟨fun _ => rfl, fun missing => (differ missing).2, fun missing => ?_, fun _ => rfl,
    fun missing _ => ?_⟩
  · rw [idle.1, idle.2, waiting, demand, if_neg (differ missing).1]
  · rw [idle.1, idle.2, waiting, demand, if_neg (differ missing).1]
    exact ⟨rfl, rfl⟩

theorem account_assigned {output : Fields} {key : String} {call : Pending} {rest : Fields}
    {depth : Nat} {s : Shared} {value : Json} (done : call.value? = some value) :
    Account sourceTaskIds taskId (.assigning output key call rest depth) s
      (resolveFields sourceTaskIds depth (assign output key value) rest s).1
      (resolveFields sourceTaskIds depth (assign output key value) rest s).2 := by
  have idle : demand sourceTaskIds taskId call = 0 := idle_of_value call value done
  have resting : waiting taskId call = 0 := by
    have below := waiting_le_demand sourceTaskIds taskId call
    omega
  have running : call.failed = false :=
    (@outcome_value sourceTaskIds (fun _ => []) call value done).1
  have counted := @resolveFields_count sourceTaskIds taskId depth (assign output key value) rest s
  have before : demand sourceTaskIds taskId (.assigning output key call rest depth) =
      firstReadsFields sourceTaskIds taskId rest := by
    rw [demand, if_neg (not_not.mpr idle), running, if_neg Bool.false_ne_true]
  have each : ∀ field ∈ rest, ∀ depth (s : Shared), s.cache.lookup taskId = none →
      Demands sourceTaskIds taskId (resolve sourceTaskIds depth field.2 s).1
        (firstReads sourceTaskIds taskId field.2) := fun field _ => demands_resolve field.2
  constructor
  · intro held
    rw [resolveFields_cache] at held
    rw [counted, resolveFields_cached held, Nat.add_zero]
  · intro missing
    rwa [resolveFields_cache] at missing
  · intro missing
    rw [resolveFields_cache] at missing
    have demands := @demands_resolveFields _ _ _ depth (assign output key value) s each missing
    have most := demands.1
    rw [counted, before, waiting, resting]
    omega
  · intro _
    rw [Pending.failed, running]
  · intro missing running'
    rw [resolveFields_cache] at missing
    have demands := @demands_resolveFields _ _ _ depth (assign output key value) s each missing
    rw [counted, before, waiting, resting, demands.2 running']
    exact ⟨rfl, rfl⟩

theorem step_account {call call' : Pending} {s s' : Shared}
    (step : Step sourceTaskIds projections call s call' s') :
    Account sourceTaskIds taskId call s call' s' := by
  induction step with
  | answered other path s => exact account_answered other path s
  | unanswered other path message s =>
    refine ⟨fun _ => rfl, fun missing => missing, fun _ => ?_, fun running => (nomatch running),
      fun _ running => (nomatch running)⟩
    rw [waiting, demand, waiting, demand]
    omega
  | assigned done => exact account_assigned done
  | @element before after call call' s s' step ih =>
    refine ⟨ih.held, ih.missing, fun missing => ?_, fun running => ?_, fun missing running => ?_⟩
    · have most := ih.most missing
      rw [waiting, demand, waiting, demand, waitingAll_append, waitingAll_append, demandAll_append,
        demandAll_append]
      omega
    · rw [Pending.failed, anyFailed_append, Bool.or_eq_false_iff] at running
      rw [Pending.failed, anyFailed_append, ih.running running.1, running.2]
      rfl
    · rw [Pending.failed, anyFailed_append, Bool.or_eq_false_iff] at running
      obtain ⟨same, count⟩ := ih.all missing running.1
      rw [waiting, demand, waiting, demand, waitingAll_append, waitingAll_append, demandAll_append,
        demandAll_append]
      omega
  | @entry output key call call' rest depth s s' step ih =>
    refine ⟨ih.held, ih.missing, fun missing => ?_, fun running => ?_, fun missing running => ?_⟩
    · have most := ih.most missing
      rw [waiting, demand, waiting, demand]
      cases failed : call'.failed with
      | false =>
        obtain ⟨same, count⟩ := ih.all missing failed
        rw [same, ih.running failed]
        omega
      | true =>
        -- a rejected call has no more to demand than its own requests, and had at least those
        have now : (if demand sourceTaskIds taskId call' ≠ 0 then demand sourceTaskIds taskId call'
            else if true = true then 0 else firstReadsFields sourceTaskIds taskId rest) =
            demand sourceTaskIds taskId call' := by
          rw [if_pos rfl]
          split <;> omega
        have before : demand sourceTaskIds taskId call ≤
            if demand sourceTaskIds taskId call ≠ 0 then demand sourceTaskIds taskId call
            else if call.failed = true then 0 else firstReadsFields sourceTaskIds taskId rest := by
          split <;> omega
        rw [now]
        omega
    · rw [Pending.failed] at running ⊢
      exact ih.running running
    · rw [Pending.failed] at running
      obtain ⟨same, count⟩ := ih.all missing running
      rw [waiting, demand, waiting, demand, same, running, ih.running running]
      exact ⟨rfl, count⟩

/-- Of a task that is not read twice at first, at most one request was made. -/
def Bounded (sourceTaskIds : List (String × Int)) (taskId : Int) (state : Pending × Shared) :
    Prop :=
  state.2.requests.count taskId ≤ 1 ∧ (state.2.cache.lookup taskId = none →
    state.2.requests.count taskId + demand sourceTaskIds taskId state.1 ≤
      1 + waiting taskId state.1)

theorem bounded_start {payload : Json} (once : firstReads sourceTaskIds taskId payload ≤ 1) :
    Bounded sourceTaskIds taskId (resolve sourceTaskIds 0 payload { }) := by
  have counted := @resolve_count sourceTaskIds taskId payload 0 { }
  have most := (@demands_resolve sourceTaskIds taskId payload 0 { } rfl).1
  have below := waiting_le_demand sourceTaskIds taskId (resolve sourceTaskIds 0 payload { }).1
  have zero : List.count taskId (Shared.requests { }) = 0 := rfl
  exact ⟨by omega, fun _ => by omega⟩

theorem bounded_step {state state' : Pending × Shared}
    (step : Step sourceTaskIds projections state.1 state.2 state'.1 state'.2)
    (bounded : Bounded sourceTaskIds taskId state) : Bounded sourceTaskIds taskId state' := by
  have account : Account sourceTaskIds taskId state.1 state.2 state'.1 state'.2 := step_account step
  have below := waiting_le_demand sourceTaskIds taskId state'.1
  by_cases missing : state'.2.cache.lookup taskId = none
  · have most := account.most missing
    have before := bounded.2 (account.missing missing)
    exact ⟨by omega, fun _ => by omega⟩
  · refine ⟨?_, fun held => absurd held missing⟩
    rw [account.held missing]
    exact bounded.1

theorem bounded_steps {first last : Pending × Shared}
    (steps : Steps sourceTaskIds projections first last)
    (bounded : Bounded sourceTaskIds taskId first) : Bounded sourceTaskIds taskId last := by
  induction steps with
  | refl => exact bounded
  | tail _ step ih => exact bounded_step step ih

/-- A run that reads no projection of the task and rejects nothing keeps the account. -/
theorem steps_all {first last : Pending × Shared}
    (steps : Steps sourceTaskIds projections first last)
    (missing : last.2.cache.lookup taskId = none) (running : last.1.failed = false) :
    first.1.failed = false ∧
      demand sourceTaskIds taskId last.1 = demand sourceTaskIds taskId first.1 ∧
      last.2.requests.count taskId + waiting taskId first.1 =
        first.2.requests.count taskId + waiting taskId last.1 := by
  induction steps with
  | refl => exact ⟨running, rfl, rfl⟩
  | tail _ step ih =>
    have account := @step_account sourceTaskIds projections taskId _ _ _ _ step
    obtain ⟨same, count⟩ := account.all missing running
    obtain ⟨first, same', count'⟩ := ih (account.missing missing) (account.running running)
    exact ⟨first, same.trans same', by omega⟩

end Runs

/-! ### The references left -/

mutual

/-- The references a call has not come to yet. -/
def remaining : Pending → Nat
  | .all calls => remainingAll calls
  | .assigning _ _ call rest _ => remaining call + (referencesOfFields rest).length
  | .settled _ | .rejected _ | .fetching _ _ => 0

def remainingAll : List Pending → Nat
  | [] => 0
  | call :: calls => remaining call + remainingAll calls

end

theorem remainingAll_append (before : List Pending) (call : Pending) (after : List Pending) :
    remainingAll (before ++ call :: after) = remaining call + remainingAll (before ++ after) := by
  induction before with
  | nil => rfl
  | cons first before ih =>
    rw [List.cons_append, List.cons_append, remainingAll, remainingAll, ih]
    omega

section Remaining
variable {sourceTaskIds : List (String × Int)} {projections : Int → Fields}

/-- A start comes to no more references than the value has, and counts those it came to. -/
def Counts (sourceTaskIds : List (String × Int)) (value : Json) : Prop :=
  ∀ depth s, (resolve sourceTaskIds depth value s).2.references +
    remaining (resolve sourceTaskIds depth value s).1 ≤ s.references + (referencesOf value).length

theorem remaining_settle (result : Except ResolutionError Json) :
    remaining (settle result) = 0 := by
  cases result <;> rw [settle, remaining]

theorem counts_resolveFields {fields : Fields}
    (each : ∀ field ∈ fields, Counts sourceTaskIds field.2) (depth : Nat) (output : Fields)
    (s : Shared) :
    (resolveFields sourceTaskIds depth output fields s).2.references +
        remaining (resolveFields sourceTaskIds depth output fields s).1 ≤
      s.references + (referencesOfFields fields).length := by
  cases fields with
  | nil =>
    rw [resolveFields, remaining]
    exact Nat.le_add_right _ _
  | cons field rest =>
    have counted := each field List.mem_cons_self depth s
    rw [resolveFields, remaining, referencesOfFields, List.length_append]
    dsimp only
    omega

theorem counts_resolve (value : Json) : Counts sourceTaskIds value := by
  refine json_induction (P := Counts sourceTaskIds)
    (Q := fun items => ∀ depth s, (resolveItems sourceTaskIds depth items s).2.references +
      remainingAll (resolveItems sourceTaskIds depth items s).1 ≤
        s.references + (referencesOfItems items).length)
    (R := fun fields => ∀ field ∈ fields, Counts sourceTaskIds field.2)
    ?_ ?_ ?_ ?_ ?_ ?_ ?_ value
  · intro value flat depth s
    rcases resolve_scalar sourceTaskIds depth s flat with ⟨⟨error, same⟩, -⟩ | same <;>
      rw [same, remaining] <;> exact Nat.le_add_right _ _
  · intro items ih depth s
    rcases resolve_arr sourceTaskIds depth s items with ⟨⟨error, same⟩, -⟩ | same <;>
      rw [same, remaining]
    · exact Nat.le_add_right _ _
    · rw [referencesOf]
      exact ih (depth + 1) s
  · intro fields ih depth s
    rcases resolve_obj sourceTaskIds depth s fields with
      ⟨⟨error, same⟩, -⟩ | ⟨reference, parsed, same⟩ | ⟨parsed, same⟩ <;> rw [same]
    · rw [remaining]
      exact Nat.le_add_right _ _
    · rw [referencesOf, parsed]
      rcases resolveReference_cases sourceTaskIds s reference with
        ⟨⟨error, same⟩, -⟩ | ⟨other, -, ⟨projection, -, same⟩ | ⟨-, same⟩⟩ <;> rw [same]
      · rw [remaining]
        rfl
      · rw [remaining_settle]
        rfl
      · rw [remaining]
        rfl
    · rw [referencesOf, parsed]
      exact counts_resolveFields ih (depth + 1) [] s
  · intro depth s
    rw [resolveItems, remainingAll]
    exact Nat.le_add_right _ _
  · intro item items head tail depth s
    have first := head depth s
    have later := tail depth (resolve sourceTaskIds depth item s).2
    rw [resolveItems, remainingAll, referencesOfItems, List.length_append]
    dsimp only
    omega
  · exact List.forall_mem_nil _
  · intro key entry rest head tail
    exact List.forall_mem_cons.mpr ⟨head, tail⟩

/-- The references counted and left do not grow. -/
theorem step_remaining {call call' : Pending} {s s' : Shared}
    (step : Step sourceTaskIds projections call s call' s') :
    s'.references + remaining call' ≤ s.references + remaining call := by
  induction step with
  | answered taskId path s => rw [remaining_settle, remaining]
  | unanswered taskId path message s => rw [remaining, remaining]
  | @assigned output key call rest depth s value done =>
    have counted := counts_resolveFields
      (fun field (_ : field ∈ rest) => @counts_resolve sourceTaskIds field.2) depth
      (assign output key value) s
    rw [remaining]
    omega
  | element _ ih =>
    rw [remaining, remaining, remainingAll_append, remainingAll_append]
    omega
  | entry _ ih =>
    rw [remaining, remaining]
    omega

theorem steps_remaining {first last : Pending × Shared}
    (steps : Steps sourceTaskIds projections first last) :
    last.2.references + remaining last.1 ≤ first.2.references + remaining first.1 := by
  induction steps with
  | refl => exact Nat.le_refl _
  | tail _ step ih => exact (step_remaining step).trans ih

end Remaining

/-! ### Runs that leave one task unanswered -/

section Runs
variable {sourceTaskIds : List (String × Int)} {projections : Int → Fields}

theorem steps_element {first last : Pending × Shared} (before after : List Pending)
    (steps : Steps sourceTaskIds projections first last) :
    Steps sourceTaskIds projections (.all (before ++ first.1 :: after), first.2)
      (.all (before ++ last.1 :: after), last.2) := by
  induction steps with
  | refl => exact Relation.ReflTransGen.refl
  | tail _ step ih => exact ih.tail (Step.element step)

theorem steps_entry {first last : Pending × Shared} (output : Fields) (key : String)
    (rest : Fields) (depth : Nat) (steps : Steps sourceTaskIds projections first last) :
    Steps sourceTaskIds projections (.assigning output key first.1 rest depth, first.2)
      (.assigning output key last.1 rest depth, last.2) := by
  induction steps with
  | refl => exact Relation.ReflTransGen.refl
  | tail _ step ih => exact ih.tail (Step.entry step)

variable (sourceTaskIds projections) (taskId : Int)

/-- A reference to a source the step has, with a path its projection has. -/
def Selectable (reference : WorkflowResultReference) : Prop :=
  ∃ source, sourceTaskIds.lookup reference.source = some source ∧
    ∃ value, selectPath (projections source) reference.path = .ok value

/-- The task's projection was not read. -/
def Unread (s : Shared) : Prop :=
  s.cache.lookup taskId = none ∧ Kept projections s

/-- All a call waits for, and all it can still do, is to be answered for the task. -/
structure Blocked (call : Pending) : Prop where
  running : call.failed = false
  waits : demand sourceTaskIds taskId call = waiting taskId call
  done : demand sourceTaskIds taskId call = 0 → ∃ value, call.value? = some value

/-- A call of the value can be run until it is blocked on the task. -/
def Blocks (value : Json) : Prop :=
  ∀ depth s₀ s, Readable depth value →
    (∀ reference ∈ referencesOf value, Selectable sourceTaskIds projections reference) →
    Unread projections taskId s₀ → Unread projections taskId s →
    s₀.references + (referencesOf value).length ≤ MAX_WORKFLOW_RESULT_REFERENCES →
    s.references + remaining (resolve sourceTaskIds depth value s₀).1 ≤
      MAX_WORKFLOW_RESULT_REFERENCES →
    ∃ call s', Steps sourceTaskIds projections ((resolve sourceTaskIds depth value s₀).1, s)
        (call, s') ∧ Unread projections taskId s' ∧ Blocked sourceTaskIds taskId call

variable {sourceTaskIds projections taskId}

theorem blocked_settled (value : Json) : Blocked sourceTaskIds taskId (.settled value) := by
  refine ⟨rfl, ?_, fun _ => ⟨value, rfl⟩⟩
  rw [demand, waiting]

theorem blocks_reference {reference : WorkflowResultReference} {s₀ s : Shared}
    (selectable : Selectable sourceTaskIds projections reference)
    (unread₀ : Unread projections taskId s₀) (unread : Unread projections taskId s)
    (few : s₀.references + 1 ≤ MAX_WORKFLOW_RESULT_REFERENCES) :
    ∃ call s', Steps sourceTaskIds projections
        ((resolveReference sourceTaskIds reference s₀).1, s) (call, s') ∧
      Unread projections taskId s' ∧ Blocked sourceTaskIds taskId call := by
  obtain ⟨source, known, value, selected⟩ := selectable
  rcases resolveReference_cases sourceTaskIds s₀ reference with
    ⟨-, many | missing⟩ | ⟨other, found, ⟨projection, held, same⟩ | ⟨-, same⟩⟩
  · omega
  · rw [known] at missing
    cases missing
  · rw [known] at found
    cases found
    rw [same, unread₀.2 source projection held, selected]
    exact ⟨.settled value, s, Relation.ReflTransGen.refl, unread, blocked_settled value⟩
  · rw [known] at found
    cases found
    rw [same]
    by_cases here : source = taskId
    · refine ⟨_, s, Relation.ReflTransGen.refl, unread, rfl, ?_, fun idle => ?_⟩
      · rw [demand, waiting]
      · rw [demand, if_pos here] at idle
        cases idle
    · have step := @Step.answered sourceTaskIds projections source reference.path s
      rw [selected] at step
      refine ⟨_, _, Steps.of_step step, ⟨?_, kept_answer unread.2 source⟩, blocked_settled value⟩
      rw [List.lookup_cons, beq_false_of_ne (Ne.symm here)]
      exact unread.1

/-- A run over the entries of an object, one after another, up to the first that waits. -/
theorem blocks_fields {fields : Fields}
    (each : ∀ field ∈ fields, Blocks sourceTaskIds projections taskId field.2) :
    ∀ depth output s₀ s, ReadableFields depth fields →
      (∀ reference ∈ referencesOfFields fields, Selectable sourceTaskIds projections reference) →
      Unread projections taskId s₀ → Unread projections taskId s →
      s₀.references + (referencesOfFields fields).length ≤ MAX_WORKFLOW_RESULT_REFERENCES →
      s.references + remaining (resolveFields sourceTaskIds depth output fields s₀).1 ≤
        MAX_WORKFLOW_RESULT_REFERENCES →
      ∃ call s', Steps sourceTaskIds projections
          ((resolveFields sourceTaskIds depth output fields s₀).1, s) (call, s') ∧
        Unread projections taskId s' ∧ Blocked sourceTaskIds taskId call := by
  induction fields with
  | nil =>
    intro depth output s₀ s _ _ _ unread _ _
    rw [resolveFields]
    exact ⟨_, s, Relation.ReflTransGen.refl, unread, blocked_settled _⟩
  | cons field rest ih =>
    obtain ⟨key, entry⟩ := field
    intro depth output s₀ s readable selectable unread₀ unread few room
    rw [ReadableFields] at readable
    rw [referencesOfFields] at selectable few
    rw [List.length_append] at few
    rw [resolveFields, remaining] at room
    rw [resolveFields]
    obtain ⟨first, later⟩ := List.forall_mem_cons.mp each
    dsimp only at first room
    obtain ⟨call, s₁, steps, unread₁, blocked⟩ := first depth s₀ s readable.1
      (fun reference mem => selectable reference (List.mem_append_left _ mem)) unread₀ unread
      (by omega) (by omega)
    have outer : Steps sourceTaskIds projections
        (.assigning output key (resolve sourceTaskIds depth entry s₀).1 rest depth, s)
        (.assigning output key call rest depth, s₁) := steps_entry output key rest depth steps
    by_cases idle : demand sourceTaskIds taskId call = 0
    · obtain ⟨value, done⟩ := blocked.done idle
      have step := @Step.assigned sourceTaskIds projections output key call rest depth s₁ value done
      have left := steps_remaining steps
      have next := counts_resolveFields
        (fun field (_ : field ∈ rest) => @counts_resolve sourceTaskIds field.2) depth
        (assign output key value) s₁
      dsimp only at left
      have unread₂ : Unread projections taskId
          (resolveFields sourceTaskIds depth (assign output key value) rest s₁).2 := by
        unfold Unread Kept
        rw [resolveFields_cache]
        exact unread₁
      obtain ⟨last, s₂, later, unread₃, blocked'⟩ := ih later depth (assign output key value) s₁
        (resolveFields sourceTaskIds depth (assign output key value) rest s₁).2 readable.2
        (fun reference mem => selectable reference (List.mem_append_right _ mem)) unread₁ unread₂
        (by omega) (by omega)
      exact ⟨last, s₂, (outer.trans (Steps.of_step step)).trans later, unread₃, blocked'⟩
    · refine ⟨_, s₁, outer, unread₁, blocked.running, ?_, fun zero => ?_⟩
      · rw [demand, waiting, if_pos idle]
        exact blocked.waits
      · rw [demand, if_pos idle] at zero
        exact absurd zero idle

/-- All calls of an array are blocked, or done together. -/
structure AllBlocked (sourceTaskIds : List (String × Int)) (taskId : Int) (calls : List Pending) :
    Prop where
  running : Pending.anyFailed calls = false
  waits : demandAll sourceTaskIds taskId calls = waitingAll taskId calls
  done : demandAll sourceTaskIds taskId calls = 0 → ∃ values, Pending.values? calls = some values

theorem AllBlocked.cons {call : Pending} {calls : List Pending}
    (first : Blocked sourceTaskIds taskId call) (rest : AllBlocked sourceTaskIds taskId calls) :
    AllBlocked sourceTaskIds taskId (call :: calls) := by
  refine ⟨?_, ?_, fun idle => ?_⟩
  · rw [Pending.anyFailed, first.running, rest.running]
    rfl
  · rw [demandAll, waitingAll, first.waits, rest.waits]
  · rw [demandAll] at idle
    obtain ⟨value, done⟩ := first.done (by omega)
    obtain ⟨values, done'⟩ := rest.done (by omega)
    rw [Pending.values?, done, done']
    exact ⟨value :: values, rfl⟩

theorem AllBlocked.all {calls : List Pending} (each : AllBlocked sourceTaskIds taskId calls) :
    Blocked sourceTaskIds taskId (.all calls) := by
  refine ⟨each.running, ?_, fun idle => ?_⟩
  · rw [demand, waiting]
    exact each.waits
  · rw [demand] at idle
    obtain ⟨values, done⟩ := each.done idle
    rw [Pending.value?, done]
    exact ⟨.arr values, rfl⟩

/-- Every value can be run until it is blocked on the task: by induction on it, its
entries in turn, each from the state the one before left. -/
theorem blocks (value : Json) : Blocks sourceTaskIds projections taskId value := by
  refine json_induction (P := Blocks sourceTaskIds projections taskId)
    (Q := fun items => ∀ depth s₀ s before, ReadableItems depth items →
      (∀ reference ∈ referencesOfItems items, Selectable sourceTaskIds projections reference) →
      Unread projections taskId s₀ → Unread projections taskId s →
      s₀.references + (referencesOfItems items).length ≤ MAX_WORKFLOW_RESULT_REFERENCES →
      s.references + remainingAll (resolveItems sourceTaskIds depth items s₀).1 ≤
        MAX_WORKFLOW_RESULT_REFERENCES →
      ∃ calls s', Steps sourceTaskIds projections
          (.all (before ++ (resolveItems sourceTaskIds depth items s₀).1), s)
          (.all (before ++ calls), s') ∧
        Unread projections taskId s' ∧ AllBlocked sourceTaskIds taskId calls)
    (R := fun fields => ∀ field ∈ fields, Blocks sourceTaskIds projections taskId field.2)
    ?_ ?_ ?_ ?_ ?_ ?_ ?_ value
  · intro value flat depth s₀ s readable _ _ unread _ _
    rcases resolve_scalar sourceTaskIds depth s₀ flat with ⟨-, unreadable⟩ | same
    · exact absurd readable unreadable
    · rw [same]
      exact ⟨_, s, Relation.ReflTransGen.refl, unread, blocked_settled value⟩
  · intro items ih depth s₀ s readable selectable unread₀ unread few room
    rcases resolve_arr sourceTaskIds depth s₀ items with ⟨-, unreadable⟩ | same
    · exact absurd readable unreadable
    · rw [Readable] at readable
      rw [referencesOf] at selectable few
      rw [same, remaining] at room
      rw [same]
      obtain ⟨calls, s', steps, unread', blocked⟩ :=
        ih (depth + 1) s₀ s [] readable.2 selectable unread₀ unread few room
      exact ⟨.all calls, s', steps, unread', blocked.all⟩
  · intro fields ih depth s₀ s readable selectable unread₀ unread few room
    rcases resolve_obj sourceTaskIds depth s₀ fields with
      ⟨-, unreadable⟩ | ⟨reference, parsed, same⟩ | ⟨parsed, same⟩
    · exact absurd readable unreadable
    · rw [referencesOf, parsed] at selectable few
      rw [same]
      exact blocks_reference (selectable reference List.mem_cons_self) unread₀ unread few
    · rw [Readable, parsed] at readable
      rw [referencesOf, parsed] at selectable few
      rw [same] at room ⊢
      exact blocks_fields ih (depth + 1) [] s₀ s readable.2 selectable unread₀ unread few room
  · intro depth s₀ s before _ _ _ unread _ _
    rw [resolveItems]
    refine ⟨[], s, Relation.ReflTransGen.refl, unread, rfl, ?_, fun _ => ⟨[], rfl⟩⟩
    rw [demandAll, waitingAll]
  · intro item items head tail depth s₀ s before readable selectable unread₀ unread few room
    rw [ReadableItems] at readable
    rw [referencesOfItems] at selectable few
    rw [List.length_append] at few
    rw [resolveItems, remainingAll] at room
    rw [resolveItems]
    have counted := @counts_resolve sourceTaskIds item depth s₀
    have unread₁ : Unread projections taskId (resolve sourceTaskIds depth item s₀).2 := by
      unfold Unread Kept
      rw [resolve_cache]
      exact unread₀
    dsimp only at room ⊢
    obtain ⟨call, s₁, steps, unread₂, blocked⟩ := head depth s₀ s readable.1
      (fun reference mem => selectable reference (List.mem_append_left _ mem)) unread₀ unread
      (by omega) (by omega)
    have left := steps_remaining steps
    dsimp only at left
    obtain ⟨calls, s₂, later, unread₃, blocked'⟩ := tail depth
      (resolve sourceTaskIds depth item s₀).2 s₁ (before ++ [call]) readable.2
      (fun reference mem => selectable reference (List.mem_append_right _ mem)) unread₁ unread₂
      (by omega) (by omega)
    rw [List.append_assoc, List.append_assoc, List.singleton_append, List.singleton_append] at later
    exact ⟨call :: calls, s₂, (steps_element before _ steps).trans later, unread₃,
      AllBlocked.cons blocked blocked'⟩
  · exact List.forall_mem_nil _
  · intro key entry rest head tail
    exact List.forall_mem_cons.mpr ⟨head, tail⟩

end Runs

/-! ### Projections that have every path -/

/-- A projection with a path added to it. -/
def graft : List String → Fields → Fields
  | [], fields => fields
  | segment :: rest, fields =>
    match fields.lookup segment with
    | some (.obj inner) => put segment (.obj (graft rest inner)) fields
    | _ => put segment (.obj (graft rest [])) fields

/-- A path leads through objects. -/
def Leads : Json → List String → Prop
  | _, [] => True
  | .obj fields, segment :: rest => ∃ value, fields.lookup segment = some value ∧ Leads value rest
  | _, _ :: _ => False

theorem lookup_head (key : String) (value : Json) (fields : Fields) (name : String) :
    List.lookup name ((key, value) :: fields) =
      if name = key then some value else fields.lookup name := by
  rw [List.lookup_cons]
  by_cases same : name = key
  · rw [if_pos same, beq_iff_eq.mpr same]
  · rw [if_neg same, beq_false_of_ne same]

theorem lookup_put (key : String) (value : Json) (fields : Fields) (name : String) :
    (put key value fields).lookup name = if name = key then some value else fields.lookup name := by
  induction fields with
  | nil => rw [put, lookup_head]
  | cons field rest ih =>
    obtain ⟨present, old⟩ := field
    rw [put]
    split
    · rename_i same
      rw [lookup_head, lookup_head, same]
      by_cases here : name = key
      · rw [if_pos here, if_pos here]
      · rw [if_neg here, if_neg here, if_neg here]
    · rename_i differ
      split
      · rw [lookup_head]
      · rw [lookup_head, lookup_head, ih]
        by_cases here : name = key
        · rw [if_pos here, if_pos here, if_neg fun same => differ (same.symm.trans here)]
        · rw [if_neg here, if_neg here]

theorem leads_graft (segments : List String) (fields : Fields) :
    Leads (.obj (graft segments fields)) segments := by
  induction segments generalizing fields with
  | nil => trivial
  | cons segment rest ih =>
    rw [graft]
    split
    · exact ⟨_, by rw [lookup_put, if_pos rfl], ih _⟩
    · exact ⟨_, by rw [lookup_put, if_pos rfl], ih []⟩

/-- Adding a path keeps the others. -/
theorem leads_of_leads {fields : Fields} {path : List String} (leads : Leads (.obj fields) path)
    (segments : List String) : Leads (.obj (graft segments fields)) path := by
  induction segments generalizing fields path with
  | nil => exact leads
  | cons segment rest ih =>
    cases path with
    | nil => trivial
    | cons name later =>
      obtain ⟨value, found, onward⟩ := leads
      rw [graft]
      by_cases here : name = segment
      · rw [← here, found]
        cases value with
        | obj inner => exact ⟨_, by rw [lookup_put, if_pos rfl], ih onward⟩
        | null | bool _ | num _ | str _ | arr _ =>
          cases later with
          | nil => exact ⟨_, by rw [lookup_put, if_pos rfl], trivial⟩
          | cons _ _ => cases onward
      · split
        · exact ⟨value, by rw [lookup_put, if_neg here, found], onward⟩
        · exact ⟨value, by rw [lookup_put, if_neg here, found], onward⟩

/-- A projection that has all of some paths. -/
def holding (paths : List (List String)) : Fields := paths.foldr graft []

theorem leads_holding {paths : List (List String)} {path : List String} (mem : path ∈ paths) :
    Leads (.obj (holding paths)) path := by
  induction paths with
  | nil => cases mem
  | cons first rest ih =>
    rcases List.mem_cons.mp mem with rfl | mem
    · exact leads_graft path (holding rest)
    · exact leads_of_leads (ih mem) first

theorem descend_of_leads (path : List String) (value : Json) (leads : Leads value path) :
    ∃ selected, descend value path = .ok selected := by
  induction path generalizing value with
  | nil => exact ⟨value, by rw [descend]⟩
  | cons segment rest ih =>
    cases value with
    | obj fields =>
      obtain ⟨value, found, onward⟩ := leads
      rw [descend, found]
      exact ih value onward
    | null | bool _ | num _ | str _ | arr _ => cases leads

/-- A reference that was read has a path. -/
theorem path_of_parsed {fields : Fields} {reference : WorkflowResultReference}
    (parsed : parseReference fields = .ok (some reference)) :
    ∃ segments, parseResultPath reference.path = .ok segments := by
  unfold parseReference at parsed
  split at parsed
  · cases parsed
  split at parsed
  · cases parsed
  split at parsed
  · cases parsed
  split at parsed
  · split at parsed
    · cases parsed
    split at parsed
    · split at parsed
      · cases parsed
      · rename_i segments found
        cases parsed
        exact ⟨segments, found⟩
    · cases parsed
  · cases parsed

theorem path_of_mem (value : Json) : ∀ reference ∈ referencesOf value,
    ∃ segments, parseResultPath reference.path = .ok segments := by
  refine json_induction
    (P := fun value => ∀ reference ∈ referencesOf value,
      ∃ segments, parseResultPath reference.path = .ok segments)
    (Q := fun items => ∀ reference ∈ referencesOfItems items,
      ∃ segments, parseResultPath reference.path = .ok segments)
    (R := fun fields => ∀ reference ∈ referencesOfFields fields,
      ∃ segments, parseResultPath reference.path = .ok segments)
    ?_ ?_ ?_ ?_ ?_ ?_ ?_ value
  · intro value flat reference mem
    cases value with
    | null | bool _ | num _ | str _ =>
      rw [referencesOf] at mem
      cases mem
    | arr _ | obj _ => cases flat
  · intro items ih reference mem
    rw [referencesOf] at mem
    exact ih reference mem
  · intro fields ih reference mem
    rw [referencesOf] at mem
    rcases parsed : parseReference fields with message | _ | found <;> rw [parsed] at mem
    · cases mem
    · exact ih reference mem
    · rw [List.mem_singleton.mp mem]
      exact path_of_parsed parsed
  · intro reference mem
    rw [referencesOfItems] at mem
    cases mem
  · intro item items head tail reference mem
    rw [referencesOfItems] at mem
    exact (List.mem_append.mp mem).elim (head reference) (tail reference)
  · intro reference mem
    rw [referencesOfFields] at mem
    cases mem
  · intro key entry rest head tail reference mem
    rw [referencesOfFields] at mem
    exact (List.mem_append.mp mem).elim (head reference) (tail reference)

/-- The segments of a path; none of one that is not in order. -/
def segmentsOf (reference : WorkflowResultReference) : List String :=
  match parseResultPath reference.path with
  | .ok segments => segments
  | .error _ => []

/-- Some projections have every path of a payload. -/
theorem selectable_holding {sourceTaskIds : List (String × Int)} {payload : Json}
    (known : ∀ reference ∈ referencesOf payload, reference.source ∈ sourceTaskIds.map Prod.fst)
    (reference : WorkflowResultReference) (mem : reference ∈ referencesOf payload) :
    Selectable sourceTaskIds (fun _ => holding ((referencesOf payload).map segmentsOf))
      reference := by
  obtain ⟨segments, path⟩ := path_of_mem payload reference mem
  have own : segmentsOf reference = segments := by
    rw [segmentsOf, path]
  have leads : Leads (.obj (holding ((referencesOf payload).map segmentsOf))) segments :=
    leads_holding (own ▸ List.mem_map_of_mem mem)
  obtain ⟨value, selected⟩ := descend_of_leads segments _ leads
  have isSome : (sourceTaskIds.lookup reference.source).isSome = true := by
    rw [List.lookup_isSome_iff]
    obtain ⟨entry, mem', same⟩ := List.mem_map.mp (known reference mem)
    exact ⟨entry, mem', beq_iff_eq.mpr same.symm⟩
  obtain ⟨source, found⟩ := Option.isSome_iff_exists.mp isSome
  refine ⟨source, found, value, ?_⟩
  rw [selectPath, path]
  exact selected

/-! ### One read for each source -/

/-- No run requests a projection twice exactly if no task has two references that can
start before either was answered. -/
theorem one_read_iff {platform : Platform} {config : ResultReferenceConfig}
    {sourceTaskIds : List (String × Int)} {payload : Json} {first : Pending × Shared}
    (started : start platform config sourceTaskIds payload = .ok first) :
    (∀ (projections : Int → Fields) (last : Pending × Shared),
        Steps sourceTaskIds projections first last → last.2.requests.Nodup) ↔
      ∀ taskId, firstReads sourceTaskIds taskId payload ≤ 1 := by
  obtain ⟨⟨n, accepted⟩, rfl⟩ := start_ok started
  constructor
  · intro once taskId
    obtain ⟨readable, same, few, known⟩ := validate_ok.mp accepted
    have unread : Unread (fun _ => holding ((referencesOf payload).map segmentsOf)) taskId { } :=
      ⟨rfl, fun _ _ held => (nomatch held)⟩
    have unread' : Unread (fun _ => holding ((referencesOf payload).map segmentsOf)) taskId
        (resolve sourceTaskIds 0 payload { }).2 := by
      unfold Unread Kept
      rw [resolve_cache]
      exact unread
    have counted := @counts_resolve sourceTaskIds payload 0 { }
    have uncounted : Shared.references { } = 0 := rfl
    obtain ⟨call, s', steps, unread'', blocked⟩ := blocks payload 0 { }
      (resolve sourceTaskIds 0 payload { }).2 readable (selectable_holding known) unread unread'
      (by omega) (by omega)
    obtain ⟨running, demanded, count⟩ := steps_all steps unread''.1 blocked.running
    have all := (@demands_resolve sourceTaskIds taskId payload 0 { } rfl).2 running
    have made := @resolve_count sourceTaskIds taskId payload 0 { }
    have zero : List.count taskId (Shared.requests { }) = 0 := rfl
    have most := List.nodup_iff_count_le_one.mp (once _ _ steps) taskId
    have waits := blocked.waits
    dsimp only at count demanded most
    omega
  · intro once projections last steps
    refine List.nodup_iff_count_le_one.mpr fun taskId => ?_
    exact (bounded_steps steps (bounded_start (once taskId))).1

/-- Two references of one object to one source, as in the test. -/
def repeatedPayload : Json :=
  .obj [("first", .obj [("$from", .str "source"), ("path", .str "digest")]),
    ("second", .obj [("$from", .str "source"), ("path", .str "result.items.0.id")])]

theorem one_read_iff_repeated :
    (∀ (projections : Int → Fields) (last : Pending × Shared),
        Steps [("source", 41)] projections (resolve [("source", 41)] 0 repeatedPayload { }) last →
          last.2.requests.Nodup) ↔
      ∀ taskId, firstReads [("source", 41)] taskId repeatedPayload ≤ 1 :=
  one_read_iff (start_local ⟨2, rfl⟩)

/-- The same reference twice in an array. -/
def crowdedPayload : Json :=
  .arr [.obj [("$from", .str "source"), ("path", .str "digest")],
    .obj [("$from", .str "source"), ("path", .str "digest")]]

/-- Both of its entries request the projection before either is answered. -/
theorem array_reads_twice :
    ¬ ∀ (platform : Platform) (config : ResultReferenceConfig) (sourceTaskIds : List (String × Int))
      (payload : Json) (first : Pending × Shared),
      start platform config sourceTaskIds payload = .ok first →
        ∀ (projections : Int → Fields) (last : Pending × Shared),
          Steps sourceTaskIds projections first last → last.2.requests.Nodup := by
  intro claim
  have started := @start_local [("source", 41)] crowdedPayload ⟨2, rfl⟩
  have once := claim _ _ _ _ _ started digestProjections _ Relation.ReflTransGen.refl
  have both : (resolve [("source", 41)] 0 crowdedPayload { }).2.requests = [41, 41] := rfl
  rw [both] at once
  exact absurd once (by decide)

end ProjectionReads
