import TaskQueQue.AcceptedDefinitions
import TaskQueQue.AcceptedReferences

/-!
# Runs of a workflow

A step is looked at alone before it is submitted: the steps it depends on are
completed. That all its ancestors are, and that each of them has the child its results
are read from, is an invariant of the runtime. From it the safety of a run follows,
whatever the gateway and the result API answer.
-/

namespace WorkflowRuns

open GatewayValues WorkflowDefinition WorkflowDags WorkflowExecution Relation
open ResultReferences (Pending Shared Fields Platform)
open AcceptedDefinitions AcceptedReferences
open LabelledRuns
open UrlValues (guard_ok)

/-! ### Entries -/

section Entries
variable {runtime : RuntimeMap} {steps : List WorkflowStep}

theorem entryOf_some {id : String} {entry : RuntimeStep} (found : entryOf runtime id = some entry) :
    entry ∈ runtime ∧ entry.step.id = id := by
  unfold entryOf at found
  exact ⟨List.mem_of_find?_eq_some found, of_decide_eq_true (List.find?_some found :)⟩

/-- The entry of a step, among entries of steps with different ids. -/
theorem entryOf_mem (same : runtime.map RuntimeStep.step = steps)
    (unique : (steps.map WorkflowStep.id).Nodup) {step : WorkflowStep} (mem : step ∈ steps) :
    ∃ entry ∈ runtime, entry.step = step ∧ entryOf runtime step.id = some entry := by
  rw [← same] at mem
  obtain ⟨entry, inside, rfl⟩ := List.mem_map.mp mem
  refine ⟨entry, inside, rfl, ?_⟩
  rw [← same, List.map_map] at unique
  cases found : entryOf runtime entry.step.id with
  | none =>
    have none := List.find?_eq_none.mp found entry inside
    exact absurd (decide_eq_true rfl) none
  | some other =>
    obtain ⟨inside', id⟩ := entryOf_some found
    rw [List.inj_on_of_nodup_map unique inside' inside id]

theorem steps_setEntry (id : String) (taskId : Option Int) (status : StepStatus) :
    (setEntry runtime id taskId status).map RuntimeStep.step = runtime.map RuntimeStep.step := by
  rw [setEntry, List.map_map]
  refine List.map_congr_left fun entry _ => ?_
  dsimp only [Function.comp_apply]
  split
  · rfl
  · rfl

theorem entryOf_setEntry (id other : String) (taskId : Option Int) (status : StepStatus) :
    entryOf (setEntry runtime id taskId status) other =
      (entryOf runtime other).map fun entry =>
        if entry.step.id = id then { entry with taskId, status } else entry := by
  have keeps : (fun entry : RuntimeStep => decide (entry.step.id = other)) ∘ (fun entry =>
      if entry.step.id = id then { entry with taskId, status } else entry) =
      fun entry => decide (entry.step.id = other) := by
    funext entry
    dsimp only [Function.comp_apply]
    split
    · rfl
    · rfl
  rw [entryOf, setEntry, List.find?_map, keeps, entryOf]

theorem mem_setEntry {id : String} {taskId : Option Int} {status : StepStatus}
    {entry : RuntimeStep} (mem : entry ∈ setEntry runtime id taskId status) :
    ∃ old ∈ runtime, entry = if old.step.id = id then { old with taskId, status } else old := by
  obtain ⟨old, inside, same⟩ := List.mem_map.mp mem
  exact ⟨old, inside, same.symm⟩

theorem completedIn_iff {id : String} : completedIn runtime id = true ↔
    ∃ entry, entryOf runtime id = some entry ∧ entry.status = .completed := by
  rw [completedIn, Option.any_eq_true]
  simp only [decide_eq_true_eq]

end Entries

/-! ### Histories -/

def submittedId : Event → Option String
  | .submitted stepId _ => some stepId
  | .clock _ | .polled _ _ _ | .resolving | .answered _ _ => none

def submittedIds (history : List Event) : List String := history.filterMap submittedId

theorem submittedIds_snoc (history : List Event) (event : Event) :
    submittedIds (history ++ [event]) = submittedIds history ++ (submittedId event).toList := by
  rw [submittedIds, List.filterMap_append, submittedIds]
  rfl

/-- The gateway took the step's submission, as this task. -/
def ChildOf (platform : Platform) (history : List Event) (step : WorkflowStep) (taskId : Int) :
    Prop :=
  ∃ answer replayed, Event.answered step.id answer ∈ history ∧
    enqueueChild platform step answer = .ok (taskId, replayed)

/-- The step's child was seen completed. -/
def ObservedCompleted (platform : Platform) (history : List Event) (step : WorkflowStep) : Prop :=
  ∃ taskId answer, ChildOf platform history step taskId ∧
    Event.polled step.id taskId answer ∈ history ∧
    getChild platform taskId step.type answer = .ok .completed

theorem ChildOf.later {platform : Platform} {history : List Event} {step : WorkflowStep}
    {taskId : Int} (child : ChildOf platform history step taskId) (event : Event) :
    ChildOf platform (history ++ [event]) step taskId := by
  obtain ⟨answer, replayed, mem, taken⟩ := child
  exact ⟨answer, replayed, List.mem_append_left _ mem, taken⟩

theorem ObservedCompleted.later {platform : Platform} {history : List Event} {step : WorkflowStep}
    (observed : ObservedCompleted platform history step) (event : Event) :
    ObservedCompleted platform (history ++ [event]) step := by
  obtain ⟨taskId, answer, child, mem, seen⟩ := observed
  exact ⟨taskId, answer, child.later event, List.mem_append_left _ mem, seen⟩

/-! ### The invariant of the runtime -/

section Invariant
variable (platform : Platform) (w : Workflow)

/-- What an entry says of the past, and of the entries its step depends on. -/
structure EntrySound (history : List Event) (runtime : RuntimeMap) (entry : RuntimeStep) :
    Prop where
  created : ∀ taskId, entry.taskId = some taskId → ChildOf platform history entry.step taskId
  completed : entry.status = .completed →
    entry.taskId ≠ none ∧ ObservedCompleted platform history entry.step
  ready : entry.taskId ≠ none → ∀ id ∈ entry.step.dependsOn, completedIn runtime id = true

structure RuntimeSound (history : List Event) (runtime : RuntimeMap) : Prop where
  steps : runtime.map RuntimeStep.step = w.steps
  entries : ∀ entry ∈ runtime, EntrySound platform history runtime entry

/-- A fault the checks of the runtime are not for. -/
def Foreseen : ExecutionFault → Prop
  | .notDurable _ | .lostChild | .badReference _ _ => False
  | _ => True

/-- What is known while an execution waits. -/
def Waits (runtime : RuntimeMap) : Await → Prop
  | .round => True
  | .child current taskId _ => ∃ status, status ≠ .completed ∧
      entryOf runtime current.id = some ⟨current, some taskId, status⟩
  | .payload current sources call s _ =>
      (∃ status, entryOf runtime current.id = some ⟨current, none, status⟩) ∧
        (∀ id ∈ current.dependsOn, completedIn runtime id = true) ∧
        availableAncestorTaskIds current w.steps runtime = .ok sources ∧ Resolving sources call s
  | .submission current _ =>
      (∃ status, entryOf runtime current.id = some ⟨current, none, status⟩) ∧
        ∀ id ∈ current.dependsOn, completedIn runtime id = true
  | .returned result => result.workflowTaskId = w.taskId ∧
      (∀ entry ∈ runtime, entry.status = .completed) ∧
        completedSteps runtime w.steps = .ok result.steps
  | .thrown fault => Foreseen fault

def Submitting : Await → String → Prop
  | .submission current _, id => current.id = id
  | .thrown _, _ => True
  | .round, _ | .child _ _ _, _ | .payload _ _ _ _ _, _ | .returned _, _ => False

/-- Each step was submitted once, if its entry has a task or its submission is awaited. -/
structure Accounted (history : List Event) (m : Machine) : Prop where
  once : (submittedIds history).Nodup
  each : ∀ id ∈ submittedIds history, (∃ entry taskId, entryOf m.runtime id = some entry ∧
    entry.taskId = some taskId) ∨ Submitting m.await id

structure Inv (history : List Event) (m : Machine) : Prop where
  sound : RuntimeSound platform w history m.runtime
  waits : Waits w m.runtime m.await
  accounted : Accounted history m

/-- The state within a round, when nothing is awaited. -/
structure Between (history : List Event) (runtime : RuntimeMap) : Prop where
  sound : RuntimeSound platform w history runtime
  once : (submittedIds history).Nodup
  each : ∀ id ∈ submittedIds history, ∃ entry taskId, entryOf runtime id = some entry ∧
    entry.taskId = some taskId

end Invariant

/-! ### Within a round -/

section Rounds
variable {platform : Platform} {w : Workflow} {history : List Event} {runtime : RuntimeMap}

theorem RuntimeSound.entry_of (sound : RuntimeSound platform w history runtime)
    (accepted : Accepted w.steps) {step : WorkflowStep} (mem : step ∈ w.steps) :
    ∃ entry ∈ runtime, entry.step = step ∧ entryOf runtime step.id = some entry :=
  entryOf_mem sound.steps accepted.wellFormed.unique mem

theorem RuntimeSound.step_mem (sound : RuntimeSound platform w history runtime)
    {entry : RuntimeStep} (mem : entry ∈ runtime) : entry.step ∈ w.steps := by
  rw [← sound.steps]
  exact List.mem_map_of_mem mem

/-- A completed entry has its child. -/
theorem RuntimeSound.task_of (sound : RuntimeSound platform w history runtime) {id : String}
    (done : completedIn runtime id = true) :
    ∃ step taskId, entryOf runtime id = some ⟨step, some taskId, .completed⟩ := by
  obtain ⟨⟨step, taskId, status⟩, found, completed⟩ := completedIn_iff.mp done
  cases completed
  have has := ((sound.entries _ (entryOf_some found).1).completed rfl).1
  obtain ⟨taskId, rfl⟩ := Option.ne_none_iff_exists'.mp has
  exact ⟨step, taskId, found⟩

/-- With its dependencies all ancestors of a step are completed: an entry has a task only
where its own dependencies are. -/
theorem ancestors_completed (accepted : Accepted w.steps)
    (sound : RuntimeSound platform w history runtime) {step : WorkflowStep}
    (mem : step ∈ w.steps) (ready : ∀ id ∈ step.dependsOn, completedIn runtime id = true)
    {ancestor : String} (path : TransGen (DependsOn w.steps) step.id ancestor) :
    completedIn runtime ancestor = true := by
  have unique := accepted.wellFormed.unique
  induction path with
  | single edge =>
    obtain ⟨other, inside, same, own⟩ := edge
    rw [List.inj_on_of_nodup_map unique inside mem same] at own
    exact ready _ own
  | tail _ edge ih =>
    obtain ⟨other, inside, rfl, own⟩ := edge
    obtain ⟨entry, held, rfl, found⟩ := sound.entry_of accepted inside
    obtain ⟨_, taskId, found'⟩ := sound.task_of ih
    rw [found] at found'
    refine (sound.entries entry held).ready ?_ _ own
    rw [Option.some.inj found']
    exact Option.some_ne_none taskId

theorem ancestorTaskIds_ok (sound : RuntimeSound platform w history runtime) {ids : List String}
    (done : ∀ id ∈ ids, completedIn runtime id = true) :
    ∃ sources, ancestorTaskIds runtime ids = .ok sources ∧ sources.map Prod.fst = ids := by
  induction ids with
  | nil => exact ⟨[], rfl, rfl⟩
  | cons id rest ih =>
    obtain ⟨first, later⟩ := List.forall_mem_cons.mp done
    obtain ⟨sources, listed, names⟩ := ih later
    obtain ⟨step, taskId, found⟩ := sound.task_of first
    rw [ancestorTaskIds, found]
    dsimp only
    rw [listed]
    exact ⟨(id, taskId) :: sources, rfl, by rw [List.map_cons, names]⟩

theorem completedSteps_ok (sound : RuntimeSound platform w history runtime)
    {steps : List WorkflowStep} (done : ∀ step ∈ steps, completedIn runtime step.id = true) :
    ∃ completed, completedSteps runtime steps = .ok completed := by
  induction steps with
  | nil => exact ⟨[], rfl⟩
  | cons step rest ih =>
    obtain ⟨first, later⟩ := List.forall_mem_cons.mp done
    obtain ⟨completed, listed⟩ := ih later
    obtain ⟨_, taskId, found⟩ := sound.task_of first
    rw [completedSteps, found]
    dsimp only
    rw [listed]
    exact ⟨_, rfl⟩

theorem Between.accounted (between : Between platform w history runtime) (await : Await) :
    Accounted history ⟨runtime, await⟩ :=
  ⟨between.once, fun id mem => Or.inl (between.each id mem)⟩

theorem conclude_inv (accepted : Accepted w.steps) (between : Between platform w history runtime) :
    Inv platform w history (conclude w runtime) := by
  unfold conclude
  split
  · rename_i all
    have done : ∀ entry ∈ runtime, entry.status = .completed := fun entry mem =>
      of_decide_eq_true (List.all_eq_true.mp all entry mem)
    have completed : ∀ step ∈ w.steps, completedIn runtime step.id = true := by
      intro step mem
      obtain ⟨entry, held, _, found⟩ := between.sound.entry_of accepted mem
      exact completedIn_iff.mpr ⟨entry, found, done entry held⟩
    obtain ⟨steps, listed⟩ := completedSteps_ok between.sound completed
    rw [listed]
    exact ⟨between.sound, ⟨rfl, done, listed⟩, between.accounted _⟩
  · exact ⟨between.sound, trivial, between.accounted _⟩

/-- A ready step's payload starts to be resolved, unless the configuration is refused. -/
theorem resolveStepPayload_cases (accepted : Accepted w.steps)
    (sound : RuntimeSound platform w history runtime) {step : WorkflowStep}
    (mem : step ∈ w.steps) (ready : ∀ id ∈ step.dependsOn, completedIn runtime id = true) :
    (∃ message, resolveStepPayload platform w runtime step = .error (.configuration message)) ∨
      ∃ sources call s, resolveStepPayload platform w runtime step = .ok (sources, call, s) ∧
        availableAncestorTaskIds step w.steps runtime = .ok sources ∧ Resolving sources call s := by
  have wellFormed := accepted.wellFormed
  have done : ∀ id ∈ ancestorsOf step.id w.steps, completedIn runtime id = true := by
    intro id listed
    rw [mem_ancestorsOf_iff wellFormed.unique wellFormed.known] at listed
    exact ancestors_completed accepted sound mem ready listed
  obtain ⟨sources, listed, names⟩ := ancestorTaskIds_ok sound done
  obtain ⟨n, validated⟩ := accepted.validated step mem
  rw [← names] at validated
  rw [resolveStepPayload, availableAncestorTaskIds, listed]
  dsimp only
  rcases start_cases platform ⟨w.config.resultOrigin, w.config.requestTimeoutMs⟩ validated with
    ⟨message, failed⟩ | ⟨started, resolving⟩
  · rw [failed]
    exact Or.inl ⟨message, rfl⟩
  · rw [started]
    exact Or.inr ⟨_, _, _, rfl, rfl, resolving⟩

theorem submitFrom_inv (accepted : Accepted w.steps) (between : Between platform w history runtime)
    (rest : List WorkflowStep) : Inv platform w history (submitFrom platform w runtime rest) := by
  induction rest with
  | nil => exact conclude_inv accepted between
  | cons current rest ih =>
    unfold submitFrom
    split
    · rename_i step status found
      obtain ⟨held, same⟩ := entryOf_some found
      split
      · exact ih
      rename_i ready
      rw [Bool.not_eq_true, Bool.not_eq_false', List.all_eq_true] at ready
      have mem := between.sound.step_mem held
      rcases resolveStepPayload_cases accepted between.sound mem ready with
        ⟨message, failed⟩ | ⟨sources, call, s, started, listed, resolving⟩
      · rw [failed]
        exact ⟨between.sound, trivial, between.accounted _⟩
      · rw [started]
        rw [← same] at found
        exact ⟨between.sound, ⟨⟨status, found⟩, ready, listed, resolving⟩, between.accounted _⟩
    · exact ih
    · exact ih

theorem pollFrom_inv (accepted : Accepted w.steps) (between : Between platform w history runtime)
    (rest : List WorkflowStep) : Inv platform w history (pollFrom platform w runtime rest) := by
  induction rest with
  | nil => exact submitFrom_inv accepted between w.steps
  | cons current rest ih =>
    unfold pollFrom
    split
    · rename_i step taskId status found
      split
      · exact ih
      · rename_i open'
        rw [← (entryOf_some found).2] at found
        exact ⟨between.sound, ⟨status, open', found⟩, between.accounted _⟩
    · exact ih
    · exact ih

theorem beginRound_inv (accepted : Accepted w.steps) (between : Between platform w history runtime)
    (elapsedMs : ℚ) : Inv platform w history (beginRound platform w runtime elapsedMs) := by
  unfold beginRound
  split
  · exact ⟨between.sound, trivial, between.accounted _⟩
  · exact pollFrom_inv accepted between w.steps

end Rounds

/-! ### What an answer changes -/

section Changes
variable {platform : Platform} {w : Workflow} {history : List Event} {runtime : RuntimeMap}

theorem RuntimeSound.later (sound : RuntimeSound platform w history runtime) (event : Event) :
    RuntimeSound platform w (history ++ [event]) runtime := by
  refine ⟨sound.steps, fun entry mem => ?_⟩
  have held := sound.entries entry mem
  refine ⟨fun taskId has => (held.created taskId has).later event, fun done => ?_, held.ready⟩
  exact ⟨(held.completed done).1, (held.completed done).2.later event⟩

/-- An entry that was not completed can be set, and the others stay completed. -/
theorem completedIn_setEntry {id : String} {old : RuntimeStep} (found : entryOf runtime id = some old)
    (unfinished : old.status ≠ .completed) (taskId : Option Int) (status : StepStatus)
    {other : String} (done : completedIn runtime other = true) :
    completedIn (setEntry runtime id taskId status) other = true := by
  obtain ⟨entry, found', completed⟩ := completedIn_iff.mp done
  have apart : entry.step.id ≠ id := by
    rintro rfl
    rw [(entryOf_some found').2] at found
    rw [found'] at found
    cases found
    exact unfinished completed
  refine completedIn_iff.mpr ⟨entry, ?_, completed⟩
  rw [entryOf_setEntry, found', Option.map_some, if_neg apart]

theorem sound_setEntry (sound : RuntimeSound platform w history runtime) {current : WorkflowStep}
    {before : Option Int} {old status : StepStatus} {taskId : Int}
    (found : entryOf runtime current.id = some ⟨current, before, old⟩) (unfinished : old ≠ .completed)
    (child : ChildOf platform history current taskId)
    (seen : status = .completed → ObservedCompleted platform history current)
    (ready : ∀ id ∈ current.dependsOn, completedIn runtime id = true)
    (unique : (w.steps.map WorkflowStep.id).Nodup) :
    RuntimeSound platform w history (setEntry runtime current.id (some taskId) status) := by
  have keeps : ∀ id, completedIn runtime id = true →
      completedIn (setEntry runtime current.id (some taskId) status) id = true :=
    fun id done => completedIn_setEntry found unfinished (some taskId) status done
  refine ⟨(steps_setEntry _ _ _).trans sound.steps, fun entry mem => ?_⟩
  obtain ⟨kept, held, rfl⟩ := mem_setEntry mem
  have past := sound.entries kept held
  by_cases same : kept.step.id = current.id
  · rw [if_pos same]
    have mine := sound.step_mem (entryOf_some found).1
    have step : kept.step = current :=
      List.inj_on_of_nodup_map unique (sound.step_mem held) mine same
    constructor
    · intro other has
      cases has
      rw [step]
      exact child
    · intro done
      rw [step]
      exact ⟨Option.some_ne_none taskId, seen done⟩
    · intro _ id own
      rw [step] at own
      exact keeps id (ready id own)
  · rw [if_neg same]
    exact ⟨past.created, past.completed, fun has id own => keeps id (past.ready has id own)⟩

theorem each_setEntry {id : String} {old : RuntimeStep} (found : entryOf runtime id = some old)
    (taskId : Int) (status : StepStatus) {other : String}
    (has : (∃ entry taskId, entryOf runtime other = some entry ∧ entry.taskId = some taskId) ∨
      id = other) :
    ∃ entry taskId', entryOf (setEntry runtime id (some taskId) status) other = some entry ∧
      entry.taskId = some taskId' := by
  rw [entryOf_setEntry]
  by_cases same : id = other
  · subst same
    rw [found, Option.map_some, if_pos (entryOf_some found).2]
    exact ⟨_, taskId, rfl, rfl⟩
  · obtain ⟨entry, taskId', found', task⟩ := has.resolve_right same
    rw [found', Option.map_some, if_neg]
    · exact ⟨entry, taskId', rfl, task⟩
    · rw [(entryOf_some found').2]
      exact fun equal => same equal.symm

theorem gatewayJson_error {answer : Answer} {fault : ExecutionFault}
    (h : gatewayJson platform answer = .error fault) : Foreseen fault := by
  unfold gatewayJson at h
  repeat' split at h
  all_goals cases h
  all_goals trivial

theorem getChild_error {taskId : Int} {name : String} {answer : Answer} {fault : ExecutionFault}
    (h : getChild platform taskId name answer = .error fault) : Foreseen fault := by
  unfold getChild at h
  split at h
  · rename_i failed
    cases h
    exact gatewayJson_error failed
  · repeat' split at h
    all_goals cases h
    all_goals trivial

theorem enqueueChild_error {step : WorkflowStep} {answer : Answer} {fault : ExecutionFault}
    (h : enqueueChild platform step answer = .error fault) : Foreseen fault := by
  unfold enqueueChild at h
  split at h
  · rename_i failed
    cases h
    exact gatewayJson_error failed
  · repeat' split at h
    all_goals cases h
    all_goals trivial

theorem foreseen_read {stepId : String} {error : ResultReferences.ResolutionError}
    (read : ∃ message, error = .read message) : Foreseen (referenceFault stepId error) := by
  obtain ⟨message, rfl⟩ := read
  trivial

theorem Accounted.quiet {m m' : Machine} {event : Event} (accounted : Accounted history m)
    (silent : submittedId event = none) (same : m'.runtime = m.runtime)
    (kept : ∀ id, Submitting m.await id → Submitting m'.await id) :
    Accounted (history ++ [event]) m' := by
  have ids : submittedIds (history ++ [event]) = submittedIds history := by
    rw [submittedIds_snoc, silent]
    exact List.append_nil _
  constructor
  · rw [ids]
    exact accounted.once
  · intro id mem
    rw [ids] at mem
    rw [same]
    exact (accounted.each id mem).imp_right (kept id)

theorem Accounted.between {m : Machine} {event : Event} (accounted : Accounted history m)
    (silent : submittedId event = none) (idle : ∀ id, ¬ Submitting m.await id)
    (sound : RuntimeSound platform w (history ++ [event]) m.runtime) :
    Between platform w (history ++ [event]) m.runtime := by
  have later : Accounted (history ++ [event]) m := accounted.quiet silent rfl fun _ h => h
  exact ⟨sound, later.once, fun id mem => (later.each id mem).resolve_right (idle id)⟩

end Changes

/-! ### A step keeps the invariant -/

section Steps
variable {platform : Platform} {w : Workflow} {shown : (Int → Fields) → Prop}
variable {history : List Event}

theorem inv_polled (accepted : Accepted w.steps) {runtime : RuntimeMap} {current : WorkflowStep}
    {taskId : Int} {rest : List WorkflowStep} (answer : Answer)
    (inv : Inv platform w history ⟨runtime, .child current taskId rest⟩) :
    Inv platform w (history ++ [.polled current.id taskId answer])
      (afterPoll platform w runtime current taskId rest answer) := by
  obtain ⟨sound, ⟨old, unfinished, found⟩, accounted⟩ := inv
  have past := sound.entries _ (entryOf_some found).1
  have later := sound.later (.polled current.id taskId answer)
  have between := accounted.between rfl (fun _ h => h) later
  unfold afterPoll
  split
  · rename_i fault failed
    exact ⟨later, getChild_error failed, between.accounted _⟩
  rename_i status snapshot
  have child := (past.created taskId rfl).later (.polled current.id taskId answer)
  have changed : RuntimeSound platform w (history ++ [.polled current.id taskId answer])
      (setEntry runtime current.id (some taskId) status) := by
    refine sound_setEntry later found unfinished child ?_ (past.ready (Option.some_ne_none _))
      accepted.wellFormed.unique
    rintro rfl
    exact ⟨taskId, answer, child, List.mem_append_right _ (List.mem_singleton_self _), snapshot⟩
  have between' : Between platform w (history ++ [.polled current.id taskId answer])
      (setEntry runtime current.id (some taskId) status) :=
    ⟨changed, between.once, fun id mem => each_setEntry found taskId status
      (Or.inl (between.each id mem))⟩
  dsimp only
  split
  · exact ⟨changed, trivial, between'.accounted _⟩
  · exact pollFrom_inv accepted between' rest

theorem inv_answered (accepted : Accepted w.steps) {runtime : RuntimeMap} {current : WorkflowStep}
    {rest : List WorkflowStep} (answer : Answer)
    (inv : Inv platform w history ⟨runtime, .submission current rest⟩) :
    Inv platform w (history ++ [.answered current.id answer])
      (afterSubmission platform w runtime current rest answer) := by
  obtain ⟨sound, ⟨⟨old, found⟩, ready⟩, accounted⟩ := inv
  have past := sound.entries _ (entryOf_some found).1
  have later := sound.later (.answered current.id answer)
  have quiet : ∀ await, (∀ id, Submitting (.submission current rest) id → Submitting await id) →
      Accounted (history ++ [.answered current.id answer]) ⟨runtime, await⟩ :=
    fun await kept => accounted.quiet rfl rfl kept
  unfold afterSubmission
  split
  · rename_i fault failed
    exact ⟨later, enqueueChild_error failed, quiet (.thrown fault) fun _ _ => trivial⟩
  rename_i taskId replayed taken
  have unfinished : old ≠ .completed := fun done => (past.completed done).1 rfl
  have changed : RuntimeSound platform w (history ++ [.answered current.id answer])
      (setEntry runtime current.id (some taskId) .pending) :=
    sound_setEntry later found unfinished
      ⟨answer, replayed, List.mem_append_right _ (List.mem_singleton_self _), taken⟩
      (fun done => nomatch done) ready accepted.wellFormed.unique
  have same := quiet (.submission current rest) fun _ h => h
  exact submitFrom_inv accepted ⟨changed, same.once, fun id mem =>
    each_setEntry found taskId .pending (same.each id mem)⟩ rest

/-- The submission of a step is its first. -/
theorem inv_submitted {runtime : RuntimeMap} {current : WorkflowStep}
    {sources : List (String × Int)} {call : Pending} {s : Shared} {rest : List WorkflowStep}
    (submission : Submission)
    (inv : Inv platform w history ⟨runtime, .payload current sources call s rest⟩) :
    Inv platform w (history ++ [.submitted current.id submission])
      ⟨runtime, .submission current rest⟩ := by
  obtain ⟨sound, ⟨⟨old, found⟩, ready, _, _⟩, accounted⟩ := inv
  have fresh : current.id ∉ submittedIds history := by
    intro mem
    rcases accounted.each _ mem with ⟨entry, taskId, found', has⟩ | submitting
    · dsimp only at found'
      rw [found] at found'
      cases found'
      cases has
    · exact submitting
  have ids : submittedIds (history ++ [.submitted current.id submission]) =
      submittedIds history ++ [current.id] := submittedIds_snoc _ _
  refine ⟨sound.later _, ⟨⟨old, found⟩, ready⟩, ?_, ?_⟩
  · rw [ids, List.nodup_append]
    refine ⟨accounted.once, List.nodup_singleton _, ?_⟩
    rintro id mem _ last rfl
    rw [List.mem_singleton.mp last] at mem
    exact fresh mem
  · intro id mem
    rw [ids] at mem
    rcases List.mem_append.mp mem with mem | last
    · exact Or.inl ((accounted.each id mem).resolve_right fun h => h)
    · exact Or.inr (List.mem_singleton.mp last).symm

theorem inv_step (accepted : Accepted w.steps) {m m' : Machine} {event : Event}
    (inv : Inv platform w history m) (step : Step platform w shown m event m') :
    Inv platform w (history ++ [event]) m' := by
  cases step with
  | clock runtime elapsedMs =>
    exact beginRound_inv accepted
      (inv.accounted.between rfl (fun _ h => h) (inv.sound.later _)) elapsedMs
  | polled runtime current taskId rest answer => exact inv_polled accepted answer inv
  | resolving _ step =>
    obtain ⟨sound, ⟨entry, ready, listed, resolving⟩, accounted⟩ := inv
    exact ⟨sound.later _, ⟨entry, ready, listed, resolving.step step⟩,
      accounted.quiet rfl rfl fun _ h => h⟩
  | rejected mem =>
    obtain ⟨sound, ⟨_, _, _, resolving⟩, accounted⟩ := inv
    exact ⟨sound.later _, foreseen_read (errors_safe _ resolving.safe _ mem),
      accounted.quiet rfl rfl fun _ _ => trivial⟩
  | oversized _ refused =>
    obtain ⟨sound, _, accounted⟩ := inv
    exact ⟨sound.later _, foreseen_read (finish_error refused),
      accounted.quiet rfl rfl fun _ _ => trivial⟩
  | submitted done fits => exact inv_submitted _ inv
  | answered runtime current rest answer => exact inv_answered accepted answer inv

theorem initial_sound (steps : List WorkflowStep) :
    (initialRuntime steps).map RuntimeStep.step = steps := by
  rw [initialRuntime, List.map_map]
  exact List.map_id steps

theorem inv_initial : Inv platform w [] ⟨initialRuntime w.steps, .round⟩ := by
  refine ⟨⟨initial_sound w.steps, fun entry mem => ?_⟩, trivial, List.nodup_nil,
    List.forall_mem_nil _⟩
  obtain ⟨step, _, rfl⟩ := List.mem_map.mp mem
  constructor
  · rintro taskId ⟨⟩
  · rintro ⟨⟩
  · intro has
    exact absurd rfl has

theorem inv_run (accepted : Accepted w.steps) {m : Machine} (run : Run platform w shown history m) :
    Inv platform w history m :=
  run.invariant inv_initial fun _ _ _ _ inv step => inv_step accepted inv step

end Steps

/-! ### What a run guarantees -/

/-- The reply names this status. -/
def Reports (platform : Platform) (answer : Answer) (status : String) : Prop :=
  ∃ reply fields, answer = .ok reply ∧ platform.parse reply.text = some (.obj fields) ∧
    (Json.obj fields).field "status" = some (.str status)

section Guarantees
variable {platform : Platform} {w : Workflow} {shown : (Int → Fields) → Prop}
variable {history : List Event} {m : Machine}

theorem Reports.unique {answer : Answer} {status other : String}
    (reports : Reports platform answer status) (reports' : Reports platform answer other) :
    status = other := by
  obtain ⟨reply, fields, rfl, parsed, named⟩ := reports
  obtain ⟨_, fields', ⟨⟩, parsed', named'⟩ := reports'
  rw [parsed] at parsed'
  cases parsed'
  rw [named] at named'
  cases named'
  rfl

theorem getChild_ok {taskId : Int} {name : String} {answer : Answer} {status : StepStatus}
    (h : getChild platform taskId name answer = .ok status) :
    ∃ reported, Reports platform answer reported ∧
      SNAPSHOT_STATUSES.lookup reported = some status := by
  unfold getChild gatewayJson at h
  split at h
  · cases h
  rename_i httpStatus body replied
  split at replied
  · cases replied
  rename_i reply
  split at replied
  · cases replied
  · rename_i fields parsed
    cases replied
    obtain ⟨_, h⟩ := guard_ok h
    split at h
    · rename_i reported _ named
      obtain ⟨_, h⟩ := guard_ok h
      split at h
      · rename_i known
        cases h
        exact ⟨reported, ⟨reply, fields, rfl, parsed, named⟩, known⟩
      · cases h
    · cases h
  · cases replied

/-- A child that is reported as failed or cancelled ends the run. -/
theorem afterPoll_thrown {runtime : RuntimeMap} {current : WorkflowStep} {taskId : Int}
    {rest : List WorkflowStep} {answer : Answer}
    (ended : Reports platform answer "FAILED" ∨ Reports platform answer "CANCELLED") :
    ∃ fault, (afterPoll platform w runtime current taskId rest answer).await = .thrown fault := by
  unfold afterPoll
  split
  · rename_i fault _
    exact ⟨fault, rfl⟩
  rename_i status snapshot
  obtain ⟨reported, reports, known⟩ := getChild_ok snapshot
  have failed : status = .failed := by
    rcases ended with ended | ended
    · rw [reports.unique ended] at known
      cases known
      rfl
    · rw [reports.unique ended] at known
      cases known
  dsimp only
  rw [if_pos failed]
  exact ⟨_, rfl⟩

theorem thrown_stuck {runtime : RuntimeMap} {fault : ExecutionFault} (event : Event) (m' : Machine) :
    ¬ Step platform w shown ⟨runtime, .thrown fault⟩ event m' := by
  rintro ⟨⟩

theorem observed_of_completed (sound : RuntimeSound platform w history m.runtime) {id : String}
    (done : completedIn m.runtime id = true) :
    ∃ step ∈ w.steps, step.id = id ∧ ObservedCompleted platform history step := by
  obtain ⟨entry, found, completed⟩ := completedIn_iff.mp done
  obtain ⟨held, rfl⟩ := entryOf_some found
  exact ⟨entry.step, sound.step_mem held, rfl, ((sound.entries entry held).completed completed).2⟩

theorem submitted_after_ancestors (accepted : Accepted w.steps) {before after : List Event}
    {stepId : String} {submission : Submission}
    (run : Run platform w shown (before ++ .submitted stepId submission :: after) m)
    {ancestor : String} (path : TransGen (DependsOn w.steps) stepId ancestor) :
    ∃ step ∈ w.steps, step.id = ancestor ∧ ObservedCompleted platform before step := by
  obtain ⟨s, s', reached, step, _⟩ := run.split
  have inv := inv_run accepted reached
  cases step with
  | submitted done fits =>
    obtain ⟨sound, ⟨⟨_, found⟩, ready, _, _⟩, _⟩ := inv
    have mem := sound.step_mem (entryOf_some found).1
    exact observed_of_completed (m := ⟨_, .round⟩) sound
      (ancestors_completed accepted sound mem ready path)

theorem stops_at_failure {before after : List Event} {stepId : String} {taskId : Int}
    {answer : Answer} (run : Run platform w shown (before ++ .polled stepId taskId answer :: after) m)
    (ended : Reports platform answer "FAILED" ∨ Reports platform answer "CANCELLED") :
    after = [] ∧ ∃ fault, m.await = .thrown fault := by
  obtain ⟨s, s', _, step, later⟩ := run.split
  cases step with
  | polled runtime current taskId rest answer =>
    obtain ⟨fault, thrown⟩ := @afterPoll_thrown _ w runtime current taskId rest _ ended
    generalize afterPoll platform w runtime current taskId rest answer = ending at thrown later
    obtain ⟨runtime', await⟩ := ending
    cases thrown
    obtain ⟨rfl, rfl⟩ := later.stuck thrown_stuck
    exact ⟨rfl, fault, rfl⟩

theorem completedSteps_each {runtime : RuntimeMap} {steps : List WorkflowStep}
    {completed : List CompletedStep} (h : completedSteps runtime steps = .ok completed) :
    List.Forall₂ (fun step done => done.id = step.id ∧ done.type = step.type ∧
      ∃ entry, entryOf runtime step.id = some entry ∧ entry.taskId = some done.taskId)
      steps completed := by
  induction steps generalizing completed with
  | nil =>
    cases h
    exact .nil
  | cons step rest ih =>
    unfold completedSteps at h
    split at h
    · rename_i found
      split at h
      · cases h
      · rename_i listed
        cases h
        exact .cons ⟨rfl, rfl, _, found, rfl⟩ (ih listed)
    · cases h

theorem returned_lists (accepted : Accepted w.steps) (inv : Inv platform w history m)
    {result : WorkflowResult} (returned : m.await = .returned result) :
    (∀ step ∈ w.steps, ObservedCompleted platform history step) ∧
      result.workflowTaskId = w.taskId ∧
      List.Forall₂ (fun step done => done.id = step.id ∧ done.type = step.type ∧
        ChildOf platform history step done.taskId) w.steps result.steps := by
  obtain ⟨runtime, await⟩ := m
  cases returned
  obtain ⟨sound, ⟨same, done, listed⟩, _⟩ := inv
  refine ⟨?_, same, ?_⟩
  · intro step mem
    obtain ⟨entry, held, rfl, _⟩ := sound.entry_of accepted mem
    exact ((sound.entries entry held).completed (done entry held)).2
  · have each := (List.forall₂_and_left _ _).mpr ⟨fun step mem => mem, completedSteps_each listed⟩
    refine each.imp ?_
    rintro step completed ⟨mem, id, type, entry, found, has⟩
    obtain ⟨own, held, rfl, found'⟩ := sound.entry_of accepted mem
    rw [found] at found'
    cases found'
    exact ⟨id, type, (sound.entries entry held).created completed.taskId has⟩

end Guarantees

theorem executeWorkflow_ok {platform : Platform} {workflowTaskId : Int} {rawPayload : String}
    {rawConfig : WorkflowGatewayConfig} {w : Workflow} {first : Machine}
    (started : executeWorkflow platform workflowTaskId rawPayload rawConfig = .ok (w, first)) :
    Accepted w.steps ∧ w.taskId = workflowTaskId ∧ first = ⟨initialRuntime w.steps, .round⟩ := by
  unfold executeWorkflow at started
  obtain ⟨_, started⟩ := guard_ok started
  split at started
  · cases started
  rename_i definition parsed
  split at started
  · cases started
  · cases started
    exact ⟨accepted_of_parsed parsed, rfl, rfl⟩

/-- Whatever the gateway, the result API and the clock do: a step is submitted only after all
its ancestors were seen completed, and at most once; a run that returns has seen every step
completed and lists them in order with their children; one that sees a child failed or
cancelled does nothing more; and the checks of the runtime never fail. -/
theorem workflow_execution_safe {platform : Platform} {workflowTaskId : Int} {rawPayload : String}
    {rawConfig : WorkflowGatewayConfig} {w : Workflow} {first m : Machine}
    {shown : (Int → Fields) → Prop} {history : List Event}
    (started : executeWorkflow platform workflowTaskId rawPayload rawConfig = .ok (w, first))
    (run : Runs (Step platform w shown) first history m) :
    (∀ before stepId submission after, history = before ++ .submitted stepId submission :: after →
      ∀ ancestor, TransGen (DependsOn w.steps) stepId ancestor →
        ∃ step ∈ w.steps, step.id = ancestor ∧ ObservedCompleted platform before step) ∧
    (submittedIds history).Nodup ∧
    (∀ result, m.await = .returned result →
      (∀ step ∈ w.steps, ObservedCompleted platform history step) ∧
      result.workflowTaskId = workflowTaskId ∧ (w.steps.map WorkflowStep.id).Nodup ∧
      List.Forall₂ (fun step done => done.id = step.id ∧ done.type = step.type ∧
        ChildOf platform history step done.taskId) w.steps result.steps) ∧
    (∀ before stepId taskId answer after,
      history = before ++ .polled stepId taskId answer :: after →
      (Reports platform answer "FAILED" ∨ Reports platform answer "CANCELLED") →
        after = [] ∧ ∃ fault, m.await = .thrown fault) ∧
    ∀ fault, m.await = .thrown fault → (∀ id, fault ≠ .notDurable id) ∧ fault ≠ .lostChild ∧
      ∀ id message, fault ≠ .badReference id message := by
  obtain ⟨accepted, rfl, rfl⟩ := executeWorkflow_ok started
  have inv := inv_run accepted run
  refine ⟨?_, inv.accounted.once, ?_, ?_, ?_⟩
  · rintro before stepId submission after rfl ancestor path
    exact submitted_after_ancestors accepted run path
  · intro result returned
    obtain ⟨observed, same, each⟩ := returned_lists accepted inv returned
    exact ⟨observed, same, accepted.wellFormed.unique, each⟩
  · rintro before stepId taskId answer after rfl ended
    exact stops_at_failure run ended
  · intro fault thrown
    obtain ⟨runtime, await⟩ := m
    cases thrown
    have foreseen := inv.waits
    refine ⟨?_, ?_, ?_⟩
    · rintro id rfl
      exact foreseen
    · rintro rfl
      exact foreseen
    · rintro id message rfl
      exact foreseen

/-! ### A run of two steps -/

def createdReply (taskId : ℚ) : Json :=
  .obj [("task_id", .num taskId), ("status", .str "PENDING"), ("replayed", .bool false)]

def completedReply (taskId : ℚ) : Json :=
  .obj [("id", .num taskId), ("task_name", .str "t"), ("status", .str "COMPLETED")]

/-- A platform that knows the texts of the run. -/
def joinPlatform : Platform where
  toRuntime := Runtime.reading [("workflow", .obj [("steps", .arr rawJoin)]),
    ("created 41", createdReply 41), ("completed 41", completedReply 41),
    ("created 42", createdReply 42), ("completed 42", completedReply 42)]
  newUrl _ :=
    some ⟨⟨"http:", "", "", "127.0.0.1", "7331", "", "", []⟩, "/", "http://127.0.0.1:7331"⟩

def joinConfig : WorkflowGatewayConfig where
  origin := "http://127.0.0.1:7331"
  bearerToken := "root-token"
  requestTimeoutMs := 2000
  pollMs := 1000
  maxRunMs := 60000

def joinWorkflow : Workflow :=
  ⟨7, join, ⟨"http://127.0.0.1:7331", "root-token", 2000, 1000, 60000, "http://127.0.0.1:7331"⟩⟩

theorem join_started : executeWorkflow joinPlatform 7 "workflow" joinConfig =
    .ok (joinWorkflow, ⟨initialRuntime join, .round⟩) := rfl

def firstStep : WorkflowStep := { id := "a", type := "t", payload := .null, dependsOn := [] }

def secondStep : WorkflowStep where
  id := "b"
  type := "t"
  payload := .obj [("$from", .str "a"), ("path", .str "x.0")]
  dependsOn := ["a"]

def joinProjections (_ : Int) : Fields := [("x", .arr [.str "abc"])]

def joinHistory : List Event := [
  .clock 0,
  .submitted "a" (childSubmission joinPlatform 7 firstStep .null),
  .answered "a" (.ok ⟨202, "created 41"⟩),
  .clock 1000,
  .polled "a" 41 (.ok ⟨200, "completed 41"⟩),
  .resolving,
  .submitted "b" (childSubmission joinPlatform 7 secondStep (.str "abc")),
  .answered "b" (.ok ⟨202, "created 42"⟩),
  .clock 2000,
  .polled "b" 42 (.ok ⟨200, "completed 42"⟩)]

/-- The entries of the two steps. -/
def joinRuntime (first : Option Int) (status : StepStatus) (second : Option Int)
    (status' : StepStatus) : RuntimeMap :=
  [⟨firstStep, first, status⟩, ⟨secondStep, second, status'⟩]

def joinResult : WorkflowResult := ⟨7, [⟨"a", "t", 41⟩, ⟨"b", "t", 42⟩]⟩

theorem join_run : Run joinPlatform joinWorkflow (fun _ => True) joinHistory
    ⟨joinRuntime (some 41) .completed (some 42) .completed, .returned joinResult⟩ := by
  have first : Run joinPlatform joinWorkflow (fun _ => True) (joinHistory.take 3)
      ⟨joinRuntime (some 41) .pending none .waiting, .round⟩ :=
    ((Runs.start.step (Step.clock _ 0)).step
      (@Step.submitted _ _ _ _ firstStep _ (.settled .null) _ _ _ _ rfl rfl)).step
      (Step.answered _ firstStep [secondStep] _)
  have second : Run joinPlatform joinWorkflow (fun _ => True) (joinHistory.take 6)
      ⟨joinRuntime (some 41) .completed none .waiting,
        .payload secondStep [("a", 41)] (.settled (.str "abc"))
          ⟨[(41, joinProjections 41)], 1, [41]⟩ []⟩ :=
    ((first.step (Step.clock _ 1000)).step (Step.polled _ firstStep 41 [secondStep] _)).step
      (@Step.resolving _ _ _ _ _ _ _ _ _ _ _ joinProjections trivial
        (ResultReferences.Step.answered 41 "x.0" ⟨[], 1, [41]⟩))
  exact (((second.step (Step.submitted rfl rfl)).step (Step.answered _ secondStep [] _)).step
    (Step.clock _ 2000)).step (Step.polled _ secondStep 42 [] _)

theorem workflow_execution_safe_join :
    (submittedIds joinHistory).Nodup ∧
      ∀ step ∈ join, ObservedCompleted joinPlatform joinHistory step := by
  obtain ⟨_, once, returned, _⟩ := workflow_execution_safe join_started join_run
  exact ⟨once, (returned joinResult rfl).1⟩

end WorkflowRuns
