import TaskQueQue.WorkflowWorlds

/-!
# Replay of workflows

What the executions of a workflow know and have sent stays with what the gateway has
recorded, whatever step a world takes, as long as no other client uses a key of theirs.
A submission that is made again, by the same execution or by another, is then the
submission that was made before, and is answered with the task it created.
-/

namespace WorkflowReplay

open QueueValues QueueTables GatewayValues TaskFacade LocalApi KeyedSubmissions
open WorkflowDefinition WorkflowDags WorkflowExecution WorkflowRuns AcceptedDefinitions
open WorkflowWorlds
open ResultReferences (Fields)
open LabelledRuns

/-! ### A step of an execution -/

section Executions
variable {d : Deployment} {db : Db} {w : Workflow} {awaited : Option Post}

/-- The tasks of the entries are the recorded ones. -/
def EntriesRecorded (db : Db) (w : Workflow) (runtime : RuntimeMap) : Prop :=
  ∀ entry ∈ runtime, ∀ taskId, entry.taskId = some taskId →
    Recorded db (childIdempotencyKey w.taskId entry.step.id) taskId

theorem EntriesRecorded.setEntry {runtime : RuntimeMap} (recorded : EntriesRecorded db w runtime)
    {id : String} {taskId : Int} (status : StepStatus)
    (made : Recorded db (childIdempotencyKey w.taskId id) taskId) :
    EntriesRecorded db w (setEntry runtime id (some taskId) status) := by
  intro entry mem other has
  obtain ⟨old, inside, rfl⟩ := mem_setEntry mem
  by_cases same : old.step.id = id
  · rw [if_pos same] at has ⊢
    cases has
    rw [same]
    exact made
  · rw [if_neg same] at has ⊢
    exact recorded old inside other has

/-- The sources of a payload are entries with their tasks. -/
theorem ancestorTaskIds_sources {runtime : RuntimeMap} {ids : List String}
    {sources : List (String × Int)} (listed : ancestorTaskIds runtime ids = .ok sources) :
    sources.map Prod.fst = ids ∧ ∀ source ∈ sources,
      ∃ entry ∈ runtime, entry.step.id = source.1 ∧ entry.taskId = some source.2 := by
  induction ids generalizing sources with
  | nil =>
    cases listed
    exact ⟨rfl, List.forall_mem_nil _⟩
  | cons id rest ih =>
    rw [ancestorTaskIds] at listed
    split at listed
    · rename_i step taskId found
      split at listed
      · cases listed
      rename_i later more
      cases listed
      obtain ⟨names, each⟩ := ih more
      obtain ⟨inside, same⟩ := entryOf_some found
      refine ⟨by rw [List.map_cons, names], List.forall_mem_cons.mpr ⟨?_, each⟩⟩
      exact ⟨_, inside, same, rfl⟩
    · cases listed

theorem enqueueChild_error_answer (platform : ResultReferences.Platform) (step : WorkflowStep)
    (reason : String) : ∃ fault, enqueueChild platform step (.error reason) = .error fault :=
  ⟨_, rfl⟩

/-- What a step leaves in the entries is recorded, if the answers of the gateway are. -/
theorem entries_step {m m' : Machine} {event : Event}
    (sound : ExecutionSound d db ⟨w, m, awaited⟩)
    (step : Step d.worker w (fun shown => shown = d.projections) m event m')
    (answered : ∀ stepId reply, event = .answered stepId (.ok reply) →
      ∀ current taskId replayed, enqueueChild d.worker current (.ok reply) = .ok (taskId, replayed) →
        ∀ post, awaited = some post → Recorded db post.key taskId) :
    EntriesRecorded db w m'.runtime := by
  have recorded : EntriesRecorded db w m.runtime := sound.recorded
  cases step with
  | clock runtime elapsedMs =>
    rw [(@beginRound_settles d.worker w d.projections runtime elapsedMs).runtime]
    exact recorded
  | polled runtime current taskId rest answer =>
    obtain ⟨history, run⟩ := sound.ran
    obtain ⟨_, _, found⟩ := (inv_run sound.started.accepted run).waits
    have made := recorded _ (entryOf_some found).1 taskId rfl
    obtain ⟨_, settles, changed⟩ :=
      @afterPoll_settles d.worker w d.projections runtime current taskId rest answer
    rw [settles.runtime]
    rcases changed with rfl | ⟨status, rfl⟩
    · exact recorded
    · exact recorded.setEntry status made
  | resolving _ _ => exact recorded
  | rejected _ => exact recorded
  | oversized _ _ => exact recorded
  | submitted _ _ => exact recorded
  | answered runtime current rest answer =>
    obtain ⟨_, settles, changed⟩ :=
      @afterSubmission_settles d.worker w d.projections runtime current rest answer
    rw [settles.runtime]
    rcases changed with rfl | ⟨taskId, replayed, taken, rfl⟩
    · exact recorded
    · refine recorded.setEntry _ ?_
      obtain ⟨post, waits, key⟩ := sound.awaited current rest rfl
      rw [← key]
      cases answer with
      | error reason =>
        obtain ⟨_, failed⟩ := enqueueChild_error_answer d.worker current reason
        rw [failed] at taken
        cases taken
      | ok reply => exact answered current.id reply rfl current taskId replayed taken post waits

/-- A submission is awaited only after it was made. -/
theorem awaited_step {m m' : Machine} {event : Event} (e : Execution) (same : e.workflow = w)
    (step : Step d.worker w (fun shown => shown = d.projections) m event m')
    {current : WorkflowStep} {rest : List WorkflowStep} (waits : m'.await = .submission current rest) :
    ∃ post, (e.after event m').awaited = some post ∧
      post.key = childIdempotencyKey w.taskId current.id := by
  subst same
  cases step with
  | clock runtime elapsedMs =>
    exact absurd waits ((@beginRound_settles d.worker _ d.projections runtime elapsedMs).unsent _ _)
  | polled runtime current taskId rest answer =>
    obtain ⟨_, settles, _⟩ :=
      @afterPoll_settles d.worker e.workflow d.projections runtime current taskId rest answer
    exact absurd waits (settles.unsent _ _)
  | resolving _ _ => cases waits
  | rejected _ => cases waits
  | oversized _ _ => cases waits
  | submitted _ _ =>
    cases waits
    exact ⟨_, rfl, rfl⟩
  | answered runtime current rest answer =>
    obtain ⟨_, settles, _⟩ :=
      @afterSubmission_settles d.worker e.workflow d.projections runtime current rest answer
    exact absurd waits (settles.unsent _ _)

theorem acted_sound {e : Execution} {m' : Machine} {event : Event}
    (sound : ExecutionSound d db e)
    (step : Step d.worker e.workflow (fun shown => shown = d.projections) e.machine event m')
    (answered : ∀ stepId reply, event = .answered stepId (.ok reply) →
      ∀ current taskId replayed, enqueueChild d.worker current (.ok reply) = .ok (taskId, replayed) →
        ∀ post, e.awaited = some post → Recorded db post.key taskId) :
    ExecutionSound d db (e.after event m') where
  started := sound.started
  ran := by
    obtain ⟨history, run⟩ := sound.ran
    exact ⟨_, run.step step⟩
  recorded := entries_step sound step answered
  awaited _ _ waits := awaited_step e rfl step waits

/-- What is submitted for a step comes from the recorded tasks of its ancestors. -/
theorem originates_submitted {e : Execution} {m' : Machine} {stepId : String}
    {submission : Submission} (sound : ExecutionSound d db e)
    (step : Step d.worker e.workflow (fun shown => shown = d.projections) e.machine
      (.submitted stepId submission) m') (bearerToken : String) :
    Originates d db ⟨bearerToken, submission⟩ ∧
      submission.idempotencyKey = childIdempotencyKey e.workflow.taskId stepId := by
  obtain ⟨w, m, awaited⟩ := e
  obtain ⟨history, run⟩ := sound.ran
  obtain ⟨definition, parsed, same⟩ := sound.started.parsed
  have inv := inv_run sound.started.accepted run
  have resolves := run_resolves run
  cases step with
  | @submitted runtime current sources call s rest value payload done fits =>
    refine ⟨?_, rfl⟩
    obtain ⟨⟨_, found⟩, _, listed, _⟩ := inv.waits
    obtain ⟨names, each⟩ := ancestorTaskIds_sources listed
    obtain ⟨first, started, steps⟩ := resolves _ _ _ _ _ rfl
    have mem := inv.sound.step_mem (entryOf_some found).1
    dsimp only at same mem names
    rw [same] at mem names
    refine ⟨w.taskId, definition, current, sources, payload, sound.started.positive, parsed, mem,
      names, ?_, ?_, rfl⟩
    · intro source inside
      obtain ⟨entry, held, id, has⟩ := each source inside
      rw [← id]
      exact sound.recorded entry held _ has
    · exact ResultReferences.returns_rebuilt ⟨first, _, value, started, steps, done, fits⟩

end Executions

/-! ### What the gateway does -/

section Gateway
variable {d : Deployment} {db db' : Db} {r : EnqueueRequest}

theorem admission_extends (admission : Admission r db db') : Extends d db db' := by
  intro key row _ found
  rcases admission.records with same | ⟨row', absent, _, records⟩
  · rw [same, found]
  · rw [records, if_neg, found]
    rintro rfl
    rw [absent] at found
    cases found

theorem parseIdempotencyKey_post {post : Post} {key : String}
    (parsed : parseIdempotencyKey post.request = .ok key) : key = post.key := by
  have header : post.request.header "idempotency-key" = some post.key := rfl
  unfold parseIdempotencyKey at parsed
  split at parsed
  · cases parsed
  · rename_i value found
    rw [header, Option.filter_eq_some_iff] at found
    split at parsed
    · cases parsed
    · cases parsed
      exact (Option.some.inj found.1).symm

theorem admissible_key {config : CapabilityAuth.GatewayConfig} {web : WebRuntime} {post : Post}
    (admitted : admissible web TASK_REGISTRY config post.request = .ok r) :
    r.idempotencyKey = post.key := by
  obtain ⟨_, _, asked, _⟩ := AdmissionLanguage.admissible_asRequested admitted
  exact parseIdempotencyKey_post asked.key

/-- A delivery keeps what was recorded, and shows what it recorded. -/
theorem newTask_recorded {key : String} {taskId : Int} (shows : newTask db db' key = some taskId) :
    db.idempotency.find? key = none ∧ Recorded db' key taskId := by
  unfold newTask at shows
  split at shows
  · cases shows
  · rename_i absent
    obtain ⟨row, found, same⟩ := Option.map_eq_some_iff.mp shows
    exact ⟨absent, row, found, same⟩

/-- A client's request leaves the records of children alone. -/
theorem foreign_same {request : Request} (foreign : Foreign d request) (conditions : Conditions)
    (s : FacadeState) : SameRecords d s.db
      (handleRequest d.web TASK_REGISTRY d.config request conditions s).2.db := by
  intro key child
  rcases @handleRequest_records d.web TASK_REGISTRY d.config request conditions s with
    same | ⟨r, admitted, admission⟩
  · rw [same]
  rcases admission.records with same | ⟨_, _, _, records⟩
  · rw [same]
  · obtain ⟨_, _, asked, _⟩ := AdmissionLanguage.admissible_asRequested admitted
    rw [records, if_neg]
    rintro rfl
    exact foreign _ asked.key child

end Gateway

/-! ### A step of a world -/

section Steps
variable {d : Deployment} {history : List Happening} {world : World}

theorem extends_refl (db : Db) : Extends d db db := fun _ _ _ found => found

/-- A reply of the gateway names the task that it recorded. -/
theorem accepts_of_taken {reply : Reply} {response : Response}
    (carried : Carries d.worker reply response) {current : WorkflowStep} {taskId : Int}
    {replayed : Bool} (taken : enqueueChild d.worker current (.ok reply) = .ok (taskId, replayed)) :
    Accepts response taskId replayed := by
  obtain ⟨status, body⟩ := carried
  unfold enqueueChild gatewayJson at taken
  split at taken
  · cases taken
  rename_i code value read
  dsimp only at read
  split at read
  · cases read
  · rename_i fields parsed
    cases read
    split at taken
    · cases taken
    split at taken
    · cases taken
    rename_i accepted
    split at taken
    · rename_i n name flag number _ flagged
      split at taken
      · cases taken
      · cases taken
        refine ⟨status ▸ not_ne_iff.mp accepted, _, body ▸ parsed, ?_, flagged⟩
        unfold Json.safeInteger? at number
        exact (Option.filter_eq_some_iff.mp number).1
    · cases taken
  · cases read

/-- What a step leaves of a world: records, posts, and the workflow of each execution. -/
structure Keeps (d : Deployment) (world world' : World) : Prop where
  records : Extends d world.gateway.db world'.gateway.db
  sent : ∀ post ∈ world.sent, post ∈ world'.sent
  workflows : ∀ i e, world.executions i = some e →
    ∃ e', world'.executions i = some e' ∧ e'.workflow = e.workflow

/-- What is known of the past is known after such a step. -/
theorem submitted_later {world' : World} (sound : WorldSound d history world)
    (keeps : Keeps d world world') {i : Nat} {stepId : String} {submission : Submission}
    (mem : Happening.acted i (.submitted stepId submission) ∈ history) :
    ∃ e, world'.executions i = some e ∧
      submission.idempotencyKey = childIdempotencyKey e.workflow.taskId stepId ∧
      ∃ post ∈ world'.sent, post.submission = submission := by
  obtain ⟨e, running, key, post, sent, same⟩ := sound.submitted i stepId submission mem
  obtain ⟨e', running', workflow⟩ := keeps.workflows i e running
  exact ⟨e', running', by rw [workflow, key], post, keeps.sent post sent, same⟩

theorem created_later {world' : World} (sound : WorldSound d history world)
    (keeps : Keeps d world world') {post : Post} {response : Response} {taskId : Int}
    (mem : Happening.delivered post response (some taskId) ∈ history) :
    post ∈ world'.sent ∧ Recorded world'.gateway.db post.key taskId := by
  obtain ⟨sent, recorded⟩ := sound.created post response taskId mem
  exact ⟨keeps.sent post sent, keeps.records.recorded (sound.posts post sent).childKey recorded⟩

theorem createdBy_later {sent sent' : List Post} {key : String} {row : IdempotencyRow}
    (created : CreatedBy d history sent key row) (more : ∀ post ∈ sent, post ∈ sent')
    (happening : Happening) : CreatedBy d (history ++ [happening]) sent' key row := by
  obtain ⟨post, r, response, mem, same, admitted, fingerprint, delivered⟩ := created
  exact ⟨post, r, response, more post mem, same, admitted, fingerprint,
    List.mem_append_left _ delivered⟩

theorem sound_begun (sound : WorldSound d history world) {i : Nat} {workflowTaskId : Int}
    {rawConfig : WorkflowGatewayConfig} {workflow : Workflow} {machine : Machine}
    (free : world.executions i = none)
    (started : executeWorkflow d.worker workflowTaskId (d.payloadOf workflowTaskId) rawConfig =
      .ok (workflow, machine)) :
    WorldSound d (history ++ [.begun i])
      { world with
          executions := Function.update world.executions i (some { workflow, machine }) } := by
  have keeps : Keeps d world { world with
      executions := Function.update world.executions i (some { workflow, machine }) } := by
    refine ⟨extends_refl _, fun _ mem => mem, fun j e running => ⟨e, ?_, rfl⟩⟩
    have apart : j ≠ i := by
      rintro rfl
      rw [free] at running
      cases running
    dsimp only
    rw [Function.update_of_ne apart, running]
  constructor
  · intro j e running
    dsimp only at running ⊢
    by_cases same : j = i
    · subst same
      rw [Function.update_self, Option.some.injEq] at running
      subst running
      obtain ⟨begun, rfl⟩ := started_of_execute started
      refine ⟨begun, ⟨[], .start⟩, ?_, ?_⟩
      · intro entry mem taskId has
        obtain ⟨_, _, rfl⟩ := List.mem_map.mp mem
        cases has
      · rintro _ _ ⟨⟩
    · rw [Function.update_of_ne same] at running
      exact sound.executions j e running
  · exact sound.posts
  · intro j stepId submission mem
    rcases List.mem_append.mp mem with old | new
    · exact submitted_later sound keeps old
    · cases List.mem_singleton.mp new
  · intro post response taskId mem
    rcases List.mem_append.mp mem with old | new
    · exact created_later sound keeps old
    · cases List.mem_singleton.mp new
  · exact fun key row child found =>
      createdBy_later (sound.records key row child found) (fun _ mem => mem) _
  · exact sound.replies

/-- The records of children are as they were, and nothing was submitted or created. -/
theorem sound_quiet (sound : WorldSound d history world) {gateway : FacadeState}
    (same : SameRecords d world.gateway.db gateway.db) {happening : Happening}
    (unsubmitted : ∀ i stepId submission, happening ≠ .acted i (.submitted stepId submission))
    (uncreated : ∀ post response taskId, happening ≠ .delivered post response (some taskId)) :
    WorldSound d (history ++ [happening]) { world with gateway } := by
  have kept := same.extends
  have keeps : Keeps d world { world with gateway } :=
    ⟨kept, fun _ mem => mem, fun _ e running => ⟨e, running, rfl⟩⟩
  constructor
  · exact fun i e running => (sound.executions i e running).later kept
  · exact fun post mem => (sound.posts post mem).later kept
  · intro j stepId submission mem
    rcases List.mem_append.mp mem with old | new
    · exact submitted_later sound keeps old
    · exact absurd (List.mem_singleton.mp new).symm (unsubmitted _ _ _)
  · intro post response taskId mem
    rcases List.mem_append.mp mem with old | new
    · exact created_later sound keeps old
    · exact absurd (List.mem_singleton.mp new).symm (uncreated _ _ _)
  · intro key row child found
    dsimp only at found
    rw [same key child] at found
    exact createdBy_later (sound.records key row child found) (fun _ mem => mem) _
  · intro post response mem
    obtain ⟨sent, accepted⟩ := sound.replies post response mem
    exact ⟨sent, fun taskId replayed accepts =>
      kept.recorded (sound.posts post sent).childKey (accepted taskId replayed accepts)⟩

theorem posted_some {e : Execution} {event : Event} {post : Post}
    (made : posted e event = some post) : ∃ stepId,
      event = .submitted stepId post.submission ∧ post.bearerToken = e.workflow.config.bearerToken := by
  cases event with
  | submitted stepId submission =>
    cases made
    exact ⟨stepId, rfl, rfl⟩
  | clock _ => cases made
  | polled _ _ _ => cases made
  | resolving => cases made
  | answered _ _ => cases made

theorem sound_acted (sound : WorldSound d history world) {i : Nat} {e : Execution} {event : Event}
    {machine : Machine} (running : world.executions i = some e)
    (step : Step d.worker e.workflow (fun shown => shown = d.projections) e.machine event machine)
    (answerable : Answerable d.worker world e event) :
    WorldSound d (history ++ [.acted i event])
      { world with
          executions := Function.update world.executions i (some (e.after event machine))
          sent := (posted e event).toList ++ world.sent } := by
  have held := sound.executions i e running
  have more : ∀ post ∈ world.sent, post ∈ (posted e event).toList ++ world.sent :=
    fun post mem => List.mem_append_right _ mem
  have keeps : Keeps d world { world with
      executions := Function.update world.executions i (some (e.after event machine))
      sent := (posted e event).toList ++ world.sent } := by
    refine ⟨extends_refl _, more, fun j other found => ?_⟩
    dsimp only
    by_cases same : j = i
    · subst same
      rw [running] at found
      cases found
      exact ⟨_, Function.update_self _ _ _, rfl⟩
    · exact ⟨other, by rw [Function.update_of_ne same, found], rfl⟩
  constructor
  · intro j other found
    dsimp only at found ⊢
    by_cases same : j = i
    · subst same
      rw [Function.update_self, Option.some.injEq] at found
      subst found
      refine acted_sound held step ?_
      rintro stepId reply rfl current taskId replayed taken post waits
      obtain ⟨post', response, waits', replied, carried⟩ := answerable
      rw [waits] at waits'
      cases waits'
      exact (sound.replies post response replied).2 taskId replayed (accepts_of_taken carried taken)
    · rw [Function.update_of_ne same] at found
      exact sound.executions j other found
  · intro post mem
    rcases List.mem_append.mp mem with made | old
    · obtain ⟨stepId, rfl, _⟩ := posted_some (Option.mem_toList.mp made)
      exact (originates_submitted held step post.bearerToken).1
    · exact sound.posts post old
  · intro j stepId submission mem
    rcases List.mem_append.mp mem with old | new
    · exact submitted_later sound keeps old
    · cases List.mem_singleton.mp new
      exact ⟨_, Function.update_self _ _ _, (originates_submitted held step "").2, _,
        List.mem_append_left _ (Option.mem_toList.mpr rfl), rfl⟩
  · intro post response taskId mem
    rcases List.mem_append.mp mem with old | new
    · exact created_later sound keeps old
    · cases List.mem_singleton.mp new
  · exact fun key row child found =>
      createdBy_later (sound.records key row child found) more _
  · intro post response mem
    obtain ⟨sent, accepted⟩ := sound.replies post response mem
    exact ⟨more post sent, accepted⟩

/-- What the gateway makes of a post: no record, or one under the post's key. -/
theorem delivery_cases (post : Post) (conditions : Conditions) (s : FacadeState) :
    ((handleRequest d.web TASK_REGISTRY d.config post.request conditions s).2.db = s.db ∧
      (handleRequest d.web TASK_REGISTRY d.config post.request conditions s).1.status ≠ 202 ∧
      (handleRequest d.web TASK_REGISTRY d.config post.request conditions s).1.status ≠ 409) ∨
    ∃ r, admissible d.web TASK_REGISTRY d.config post.request = .ok r ∧ r.idempotencyKey = post.key ∧
      Admission r s.db (handleRequest d.web TASK_REGISTRY d.config post.request conditions s).2.db ∧
      Answers r s.db (handleRequest d.web TASK_REGISTRY d.config post.request conditions s).2.db
        (handleRequest d.web TASK_REGISTRY d.config post.request conditions s).1 := by
  have routed : handleRequest d.web TASK_REGISTRY d.config post.request conditions s =
      handleCreateTask d.web TASK_REGISTRY d.config post.request conditions s := rfl
  rw [routed]
  rcases handleCreateTask_answers conditions s with refused | ⟨r, admitted, admission, answers⟩
  · exact Or.inl refused
  · exact Or.inr ⟨r, admitted, admissible_key admitted, admission, answers⟩

theorem newTask_same (db : Db) (key : String) : newTask db db key = none := by
  unfold newTask
  split
  · rfl
  · rename_i absent
    rw [absent]
    rfl

theorem sound_delivered (sound : WorldSound d history world) {post : Post}
    (mem : post ∈ world.sent) (conditions : Conditions) {answer : Response × FacadeState}
    (handled : answer =
      handleRequest d.web TASK_REGISTRY d.config post.request conditions world.gateway) :
    WorldSound d
      (history ++ [.delivered post answer.1 (newTask world.gateway.db answer.2.db post.key)])
      { world with gateway := answer.2, replies := (post, answer.1) :: world.replies } := by
  have cases' := @delivery_cases d post conditions world.gateway
  rw [← handled] at cases'
  have kept : Extends d world.gateway.db answer.2.db := by
    rcases cases' with ⟨same, _⟩ | ⟨r, _, _, admission, _⟩
    · rw [same]
      exact extends_refl _
    · exact admission_extends admission
  have keeps : Keeps d world
      { world with gateway := answer.2, replies := (post, answer.1) :: world.replies } :=
    ⟨kept, fun _ inside => inside, fun _ e running => ⟨e, running, rfl⟩⟩
  constructor
  · exact fun i e running => (sound.executions i e running).later kept
  · exact fun other inside => (sound.posts other inside).later kept
  · intro j stepId submission inside
    rcases List.mem_append.mp inside with old | new
    · exact submitted_later sound keeps old
    · cases List.mem_singleton.mp new
  · intro other response taskId inside
    rcases List.mem_append.mp inside with old | new
    · exact created_later sound keeps old
    · have shown := List.mem_singleton.mp new
      injection shown with same _ shows
      subst same
      exact ⟨mem, (newTask_recorded shows.symm).2⟩
  · intro key row child found
    dsimp only at found
    have later := fun held => createdBy_later (sound.records key row child held) (fun _ h => h)
      (.delivered post answer.1 (newTask world.gateway.db answer.2.db post.key))
    rcases cases' with ⟨same, _⟩ | ⟨r, admitted, named, admission, _⟩
    · rw [same] at found
      exact later found
    rcases admission.records with same | ⟨row', absent, fingerprint, records⟩
    · rw [same] at found
      exact later found
    rw [records] at found
    split at found
    · rename_i same
      cases found
      have shown : newTask world.gateway.db answer.2.db post.key = some row.taskId := by
        unfold newTask
        rw [← named, absent]
        dsimp only
        rw [records, if_pos rfl, Option.map_some]
      refine ⟨post, r, answer.1, mem, named.symm.trans same, admitted, fingerprint, ?_⟩
      rw [← shown]
      exact List.mem_append_right _ (List.mem_singleton_self _)
    · exact later found
  · intro other response inside
    rcases List.mem_cons.mp inside with new | old
    · cases new
      refine ⟨mem, fun taskId replayed accepts => ?_⟩
      rcases cases' with ⟨_, refused, _⟩ | ⟨r, _, named, _, answers⟩
      · exact absurd accepts (not_accepts refused)
      · rw [← named]
        exact (answers.accepted taskId replayed accepts).1
    · obtain ⟨sent, accepted⟩ := sound.replies other response old
      exact ⟨sent, fun taskId replayed accepts =>
        kept.recorded (sound.posts other sent).childKey (accepted taskId replayed accepts)⟩

theorem sound_step {world' : World} {happening : Happening} (sound : WorldSound d history world)
    (step : WorldStep d (Foreign d) world happening world') :
    WorldSound d (history ++ [happening]) world' := by
  cases step with
  | begun free started => exact sound_begun sound free started
  | acted running step answerable => exact sound_acted sound running step answerable
  | delivered mem conditions handled => exact sound_delivered sound mem conditions handled
  | requested fits conditions handled =>
    subst handled
    refine sound_quiet sound (foreign_same fits conditions _) ?_ ?_
    · rintro _ _ _ ⟨⟩
    · rintro _ _ _ ⟨⟩
  | queue keeps =>
    refine sound_quiet sound keeps ?_ ?_
    · rintro _ _ _ ⟨⟩
    · rintro _ _ _ ⟨⟩

theorem sound_initial (initial : Initial d world) : WorldSound d [] world := by
  obtain ⟨executions, sent, replies, records⟩ := initial
  constructor
  · intro i e running
    rw [executions] at running
    cases running
  · intro post mem
    rw [sent] at mem
    cases mem
  · rintro _ _ _ ⟨⟩
  · rintro _ _ _ ⟨⟩
  · intro key row child found
    rw [records key child] at found
    cases found
  · intro post response mem
    rw [replies] at mem
    cases mem

/-- Whatever happened to a world, it is sound. -/
theorem sound_run {first : World} (initial : Initial d first)
    (run : Runs (WorldStep d (Foreign d)) first history world) : WorldSound d history world :=
  run.invariant (sound_initial initial) fun _ _ _ _ sound step => sound_step sound step

end Steps

end WorkflowReplay
