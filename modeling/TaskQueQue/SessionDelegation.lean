import TaskQueQue.RequestFingerprints
import TaskQueQue.TaskOrigins
import TaskQueQue.WorkflowReplay

/-!
# What a session sets in motion

A session's token goes on as the root token once its grant has been checked, and the
worker of a workflow submits the steps under the root token too. A task is enqueued on
behalf of the session if one of its own requests enqueued it, or if it was submitted for
a workflow that is on behalf of the session itself.

The world holds the gateway behind its router, the executions of workflow tasks and their
submissions. Other clients, the agents and the queue's own work go on in between.
-/

namespace SessionDelegation

open QueueTables KeyedTable GatewayValues Capabilities CapabilityAuth CapabilityAccess TaskFacade
open GatewayRouter TaskOrigins LabelledRuns
open WorkflowDefinition WorkflowRuns AcceptedDefinitions
open WorkflowExecution hiding Reply
open WorkflowWorlds (Post Execution posted Answerable)
open ResultReferences (Platform Fields)

variable {P : Type}

/-! ### One request -/

section Requests
variable (deps : GatewayDependencies P) (grant : CapabilityGrant)

/-- The grant allows the surface of this name. -/
def MayUse (surfaceName : String) : Prop :=
  ∃ surface, getCapability deps.capabilities surfaceName = some surface ∧ Allows grant surface

/-- What the grant allows, for a request under it to enqueue the task. -/
inductive Entitled (request : Request) (t : Task) : Prop
  | task (names : Names deps.web request t) (surface : MayUse deps grant "task.submit")
      (task : ∀ descriptor, getCapability deps.capabilities t.taskName = some descriptor →
        descriptor.kind = .task → Allows grant descriptor)
  | workflow (composes : Composes deps.web request t)
      (surface : MayUse deps grant "workflow.submit")

variable {deps} {grant}

theorem requiredSurface_tasks : requiredSurface "/v1/tasks" "POST" = some "task.submit" := rfl

theorem requiredSurface_workflows :
    requiredSurface "/v1/workflows" "POST" = some "workflow.submit" := by
  decide

theorem Names.forwarded {web : WebRuntime} {request enforced : Request} {t : Task}
    (forwarded : Forwarded request enforced) (names : Names web enforced t) :
    Names web request t :=
  ⟨forwarded.pathname ▸ names.path, forwarded.method ▸ names.method, forwarded.body ▸ names.body⟩

theorem Composes.forwarded {web : WebRuntime} {request enforced : Request} {t : Task}
    (forwarded : Forwarded request enforced) (composes : Composes web enforced t) :
    Composes web request t :=
  ⟨forwarded.pathname ▸ composes.path, forwarded.method ▸ composes.method,
    forwarded.body ▸ composes.body⟩

/-- The check reads the type the facade enqueues. -/
theorem descriptor_of_names {request : Request} {t : Task} {descriptor : CapabilityDescriptor}
    (names : Names deps.web request t)
    (registered : getCapability deps.capabilities t.taskName = some descriptor)
    (kind : descriptor.kind = .task) :
    taskDescriptorFromRequest deps.web deps.capabilities request = some descriptor := by
  obtain ⟨fields, _, read, type, _⟩ := names.body
  rw [taskDescriptorFromRequest, read]
  dsimp only
  rw [type]
  dsimp only
  rw [registered, Option.filter_some, if_pos (decide_eq_true kind)]

theorem entitled_of_passed {request : Request} {auth : AuthorizationContext} {t : Task}
    (passed : ∀ surfaceName, requiredSurface request.pathname request.method = some surfaceName →
      Passed deps.web deps.capabilities request surfaceName auth.grant)
    (submits : Names deps.web request t ∨ Composes deps.web request t) :
    Entitled deps auth.grant request t := by
  rcases submits with names | composes
  · have here := passed "task.submit" (by rw [names.path, names.method, requiredSurface_tasks])
    refine .task names here.surface fun descriptor registered kind => ?_
    exact here.task names.path names.method descriptor (descriptor_of_names names registered kind)
  · have here := passed "workflow.submit"
      (by rw [composes.path, composes.method, requiredSurface_workflows])
    exact .workflow composes here.surface

/-- Whoever sends a request, it enqueues a task only on the authority of a grant. -/
theorem route_adds {format : JsonText.NumberFormat}
    (keeps : CanonicalJson.KeepsJson deps.web format) (arrival : Arrival) (g : Gateway P) :
    Adds (fun t => ∃ auth, resolveAuthorizationContext deps.web arrival.request deps.config
        arrival.conditions.nowMs = some auth ∧ Entitled deps auth.grant arrival.request t)
      g.facade.db (routeGatewayRequest deps arrival g).2.facade.db := by
  refine adds_getD (capabilitySession_adds _ _) ?_
  refine adds_getD (consentOperator_adds _ _) ?_
  refine adds_getD (metadata_adds _ _) ?_
  refine adds_getD (authorization_adds _ _) ?_
  refine adds_getD (token_adds _ _) ?_
  refine adds_getD (capability_adds _ _ _) ?_
  rw [routeChecked]
  split
  · exact Adds.refl _
  rename_i enforced checked
  obtain ⟨forwarded, passed⟩ := enforceCapabilityAccess_ok checked
  refine (routeEnforced_adds enforced keeps arrival).mono fun t submits => ?_
  have own : Names deps.web arrival.request t ∨ Composes deps.web arrival.request t :=
    submits.imp (Names.forwarded forwarded) (Composes.forwarded forwarded)
  have listed : ∃ surfaceName,
      requiredSurface arrival.request.pathname arrival.request.method = some surfaceName := by
    rcases own with names | composes
    · exact ⟨_, by rw [names.path, names.method, requiredSurface_tasks]⟩
    · exact ⟨_, by rw [composes.path, composes.method, requiredSurface_workflows]⟩
  obtain ⟨surfaceName, required⟩ := listed
  obtain ⟨auth, resolved, _⟩ := passed surfaceName required
  refine ⟨auth, resolved, entitled_of_passed (fun name named => ?_) own⟩
  obtain ⟨auth', resolved', here⟩ := passed name named
  cases resolved.symm.trans resolved'
  exact here

end Requests

/-! ### Worlds -/

/-- The gateway's dependencies, the workers' platform and the projections the result API
may show them. -/
structure System (P : Type) where
  deps : GatewayDependencies P
  worker : Platform
  shown : (Int → Fields) → Prop

/-- A submission stands with the workflow it was made for. -/
structure World (P : Type) where
  gateway : Gateway P
  executions : Nat → Option Execution := fun _ => none
  sent : List (Int × Post) := []
  replies : List (Post × Response) := []

def World.db (w : World P) : Db := w.gateway.facade.db

/-- What the executions see of the world. -/
def World.workers (w : World P) : WorkflowWorlds.World where
  gateway := w.gateway.facade
  executions := w.executions
  sent := w.sent.map Prod.snd
  replies := w.replies

/-- The tasks that were added meanwhile. -/
def newTasks (before after : Db) : List Task :=
  after.tasks.rows.filter fun t => (before.tasks.find? t.id).isNone

/-- Requests and deliveries show the tasks they enqueued. -/
inductive Happening
  | requested (arrival : Arrival) (enqueued : List Task)
  | begun (i : Nat)
  | acted (i : Nat) (event : Event)
  | delivered (workflowTaskId : Int) (post : Post) (enqueued : List Task)
  | queue (op : QueueRuns.Op)

def Happening.enqueued : Happening → List Task
  | .requested _ enqueued | .delivered _ _ enqueued => enqueued
  | .begun _ | .acted _ _ | .queue _ => []

/-- A step of a world. An execution starts with a workflow task of the queue. -/
inductive WorldStep (d : System P) : World P → Happening → World P → Prop
  | requested {w : World P} (arrival : Arrival) {answer : Reply × Gateway P}
      (routed : answer = routeGatewayRequest d.deps arrival w.gateway) :
      WorldStep d w (.requested arrival (newTasks w.db answer.2.facade.db))
        { w with gateway := answer.2 }
  | begun {w : World P} {i : Nat} {t : Task} {rawConfig : WorkflowGatewayConfig}
      {workflow : Workflow} {machine : Machine} (free : w.executions i = none)
      (queued : w.db.tasks.find? t.id = some t) (kind : t.taskName = "workflow.run")
      (started : executeWorkflow d.worker t.id t.payload rawConfig = .ok (workflow, machine)) :
      WorldStep d w (.begun i)
        { w with executions := Function.update w.executions i (some { workflow, machine }) }
  | acted {w : World P} {i : Nat} {e : Execution} {event : Event} {machine : Machine}
      (running : w.executions i = some e)
      (step : Step d.worker e.workflow d.shown e.machine event machine)
      (answerable : Answerable d.worker w.workers e event) :
      WorldStep d w (.acted i event)
        { w with
            executions := Function.update w.executions i (some (e.after event machine))
            sent := (posted e event).toList.map (fun post => (e.workflow.taskId, post)) ++ w.sent }
  | delivered {w : World P} {workflowTaskId : Int} {post : Post}
      (mem : (workflowTaskId, post) ∈ w.sent) (arrival : Arrival)
      (carries : arrival.request = post.request) {answer : Reply × Gateway P}
      (routed : answer = routeGatewayRequest d.deps arrival w.gateway) :
      WorldStep d w (.delivered workflowTaskId post (newTasks w.db answer.2.facade.db))
        { w with
            gateway := answer.2
            replies := answer.1.toList.map (fun response => (post, response)) ++ w.replies }
  | queue {w : World P} (op : QueueRuns.Op) :
      WorldStep d w (.queue op)
        { w with gateway.facade.db := QueueRuns.step op w.db }

/-- No workflow is executed yet, and the id counter has counted every task. -/
structure Initial (w : World P) : Prop where
  executions : w.executions = fun _ => none
  sent : w.sent = []
  counted : ∀ id t, w.db.tasks.find? id = some t → id ≤ w.db.taskSeq

/-- The tasks enqueued on behalf of whoever holds the token. -/
inductive OnBehalf (token : String) (history : List Happening) : Task → Prop
  | own {arrival : Arrival} {enqueued : List Task} {t : Task}
      (mem : .requested arrival enqueued ∈ history)
      (bearer : bearerToken arrival.request = some token) (new : t ∈ enqueued) :
      OnBehalf token history t
  | child {workflow : Task} {post : Post} {enqueued : List Task} {t : Task}
      (parent : OnBehalf token history workflow)
      (mem : .delivered workflow.id post enqueued ∈ history) (new : t ∈ enqueued) :
      OnBehalf token history t

/-- The token is not the root's, and carries a session's grant. -/
structure Session (deps : GatewayDependencies P) (token : String) (grant : CapabilityGrant) :
    Prop where
  configured : ∃ apiToken, deps.config.token? = some apiToken ∧ token ≠ apiToken
  claims : ∃ claims, tokenClaims deps.web token = some claims ∧ claims.grant = grant

/-- A submission of a step of the workflow that the task's payload defines. -/
structure StepOf (worker : Platform) (workflow : Task) (post : Post) : Prop where
  kind : workflow.taskName = "workflow.run"
  step : ∃ definition step payload,
    parseWorkflowDefinition worker.toRuntime workflow.payload = .ok definition ∧
    step ∈ definition.steps ∧ step.type ≠ "workflow.run" ∧
    post.submission = childSubmission worker workflow.id step payload

/-- A session's own requests enqueue what its grant entitles it to, and all else on its
behalf are steps of workflows that are. -/
inductive Delegated (d : System P) (grant : CapabilityGrant) (history : List Happening) :
    Task → Prop
  | own {arrival : Arrival} {enqueued : List Task} {t : Task}
      (mem : .requested arrival enqueued ∈ history) (new : t ∈ enqueued)
      (entitled : Entitled d.deps grant arrival.request t) : Delegated d grant history t
  | step {workflow : Task} {post : Post} {enqueued : List Task} {t : Task}
      (parent : Delegated d grant history workflow) (step : StepOf d.worker workflow post)
      (mem : .delivered workflow.id post enqueued ∈ history) (new : t ∈ enqueued) :
      Delegated d grant history t

/-! ### The invariant of a run -/

section Runs
variable {d : System P} {history : List Happening} {w : World P}

/-- A task some request or delivery enqueued. -/
def Enqueued (history : List Happening) (t : Task) : Prop :=
  ∃ happening ∈ history, t ∈ happening.enqueued

/-- Tasks enqueued under an id that was counted have the contents held under it. -/
structure Settled (history : List Happening) (w : World P) (id : Int)
    (held : String × String) : Prop where
  counted : id ≤ w.db.taskSeq
  same : ∀ t, Enqueued history t → t.id = id → content t = held

/-- An execution is of a workflow task, and has come this far by its own steps. -/
structure Started (d : System P) (history : List Happening) (w : World P) (e : Execution) :
    Prop where
  accepted : Accepted e.workflow.steps
  ran : ∃ past, Run d.worker e.workflow d.shown past e.machine
  task : ∃ t, t.id = e.workflow.taskId ∧ t.taskName = "workflow.run" ∧
    Settled history w t.id (content t) ∧ ∃ definition,
      parseWorkflowDefinition d.worker.toRuntime t.payload = .ok definition ∧
        definition.steps = e.workflow.steps

/-- A submission is of a step of the workflow that is held under this id. -/
def Submitted (d : System P) (history : List Happening) (w : World P) (n : Int) (post : Post) :
    Prop :=
  ∃ t, t.id = n ∧ Settled history w n (content t) ∧ StepOf d.worker t post

structure Sound (d : System P) (history : List Happening) (w : World P) : Prop where
  counted : ∀ t, Enqueued history t → t.id ≤ w.db.taskSeq
  rows : ∀ id t, w.db.tasks.find? id = some t → Settled history w id (content t)
  executions : ∀ i e, w.executions i = some e → Started d history w e
  sent : ∀ n post, (n, post) ∈ w.sent → Submitted d history w n post
  requests : ∀ arrival enqueued, .requested arrival enqueued ∈ history → ∀ t ∈ enqueued,
    ∃ auth, resolveAuthorizationContext d.deps.web arrival.request d.deps.config
      arrival.conditions.nowMs = some auth ∧ Entitled d.deps auth.grant arrival.request t
  deliveries : ∀ n post enqueued, .delivered n post enqueued ∈ history →
    Submitted d history w n post

theorem mem_newTasks {before after : Db} {t : Task} : t ∈ newTasks before after ↔
    after.tasks.find? t.id = some t ∧ before.tasks.find? t.id = none := by
  rw [newTasks, List.mem_filter, Option.isNone_iff_eq_none]
  constructor
  · exact fun ⟨mem, absent⟩ => ⟨Table.find?_of_mem mem, absent⟩
  · exact fun ⟨found, absent⟩ => ⟨Table.mem_of_find? found, absent⟩

theorem newTasks_added {added : Task → Prop} {before after : Db} (adds : Adds added before after)
    {t : Task} (new : t ∈ newTasks before after) :
    before.taskSeq < t.id ∧ t.id ≤ after.taskSeq ∧ added t := by
  obtain ⟨found, absent⟩ := mem_newTasks.mp new
  rcases adds.rows t.id t found with ⟨_, held, _⟩ | ⟨_, fresh, counted, kind⟩
  · rw [absent] at held
    cases held
  · exact ⟨fresh, counted, kind⟩

/-- What a step adds to the history, and does to the queue. -/
structure Extends (history history' : List Happening) (w w' : World P) : Prop where
  adds : ∃ added, Adds added w.db w'.db
  enqueued : ∀ t, Enqueued history' t → Enqueued history t ∨ t ∈ newTasks w.db w'.db

variable {history' : List Happening} {w' : World P}

theorem Extends.fresh (more : Extends history history' w w') {t : Task}
    (enqueued : Enqueued history' t) : Enqueued history t ∨
      (w.db.taskSeq < t.id ∧ t.id ≤ w'.db.taskSeq ∧ w'.db.tasks.find? t.id = some t) := by
  obtain ⟨added, adds⟩ := more.adds
  refine (more.enqueued t enqueued).imp id fun new => ?_
  obtain ⟨fresh, counted, _⟩ := newTasks_added adds new
  exact ⟨fresh, counted, (mem_newTasks.mp new).1⟩

theorem Settled.later {id : Int} {held : String × String} (settled : Settled history w id held)
    (more : Extends history history' w w') : Settled history' w' id held := by
  obtain ⟨_, adds⟩ := more.adds
  refine ⟨settled.counted.trans adds.seq, fun t enqueued same => ?_⟩
  rcases more.fresh enqueued with old | ⟨fresh, _⟩
  · exact settled.same t old same
  · have counted := settled.counted
    omega

theorem Started.later {e : Execution} (started : Started d history w e)
    (more : Extends history history' w w') : Started d history' w' e := by
  obtain ⟨t, named, kind, settled, parsed⟩ := started.task
  exact ⟨started.accepted, started.ran, t, named, kind, settled.later more, parsed⟩

theorem Submitted.later {n : Int} {post : Post} (submitted : Submitted d history w n post)
    (more : Extends history history' w w') : Submitted d history' w' n post := by
  obtain ⟨t, named, settled, step⟩ := submitted
  exact ⟨t, named, settled.later more, step⟩

theorem counted_later (sound : Sound d history w) (more : Extends history history' w w')
    {t : Task} (enqueued : Enqueued history' t) : t.id ≤ w'.db.taskSeq := by
  obtain ⟨_, adds⟩ := more.adds
  rcases more.fresh enqueued with old | ⟨_, counted, _⟩
  · exact (sound.counted t old).trans adds.seq
  · exact counted

theorem rows_later (sound : Sound d history w) (more : Extends history history' w w') {id : Int}
    {t : Task} (found : w'.db.tasks.find? id = some t) : Settled history' w' id (content t) := by
  obtain ⟨_, adds⟩ := more.adds
  rcases adds.rows id t found with ⟨old, held, same⟩ | ⟨_, fresh, counted, _⟩
  · rw [same]
    exact (sound.rows id old held).later more
  · refine ⟨counted, fun t' enqueued named => ?_⟩
    rcases more.fresh enqueued with old | ⟨_, _, found'⟩
    · have counted' := sound.counted t' old
      omega
    · rw [named, found] at found'
      cases found'
      rfl

theorem enqueued_snoc {happening : Happening} {t : Task}
    (enqueued : Enqueued (history ++ [happening]) t) :
    Enqueued history t ∨ t ∈ happening.enqueued := by
  obtain ⟨other, mem, new⟩ := enqueued
  rcases List.mem_append.mp mem with old | last
  · exact Or.inl ⟨other, old, new⟩
  · rw [List.mem_singleton.mp last] at new
    exact Or.inr new

theorem extends_of {happening : Happening} {added : Task → Prop} (adds : Adds added w.db w'.db)
    (enqueued : happening.enqueued = [] ∨ happening.enqueued = newTasks w.db w'.db) :
    Extends history (history ++ [happening]) w w' := by
  refine ⟨⟨added, adds⟩, fun t new => ?_⟩
  refine (enqueued_snoc new).imp id fun shown => ?_
  rcases enqueued with none | these
  · rw [none] at shown
    exact absurd shown List.not_mem_nil
  · rw [← these]
    exact shown

/-- What the invariant says of the past, apart from the last label. -/
theorem sound_later (sound : Sound d history w) {happening : Happening}
    (more : Extends history (history ++ [happening]) w w')
    (executions : ∀ i e, w'.executions i = some e → w.executions i = some e ∨
      Started d (history ++ [happening]) w' e)
    (sent : ∀ n post, (n, post) ∈ w'.sent → (n, post) ∈ w.sent ∨
      Submitted d (history ++ [happening]) w' n post)
    (requests : ∀ arrival enqueued, happening = .requested arrival enqueued → ∀ t ∈ enqueued,
      ∃ auth, resolveAuthorizationContext d.deps.web arrival.request d.deps.config
        arrival.conditions.nowMs = some auth ∧ Entitled d.deps auth.grant arrival.request t)
    (deliveries : ∀ n post enqueued, happening = .delivered n post enqueued →
      (n, post) ∈ w.sent) : Sound d (history ++ [happening]) w' where
  counted t enqueued := counted_later sound more enqueued
  rows id t found := rows_later sound more found
  executions i e running := by
    rcases executions i e running with old | new
    · exact (sound.executions i e old).later more
    · exact new
  sent n post mem := by
    rcases sent n post mem with old | new
    · exact (sound.sent n post old).later more
    · exact new
  requests arrival enqueued mem := by
    rcases List.mem_append.mp mem with old | last
    · exact sound.requests arrival enqueued old
    · exact requests arrival enqueued (List.mem_singleton.mp last).symm
  deliveries n post enqueued mem := by
    rcases List.mem_append.mp mem with old | last
    · exact (sound.deliveries n post enqueued old).later more
    · exact (sound.sent n post (deliveries n post enqueued (List.mem_singleton.mp last).symm)).later
        more

/-- What is submitted is a step of the workflow. -/
theorem stepOf_submitted {e : Execution} {stepId : String} {submission : Submission}
    {machine : Machine} (started : Started d history w e)
    (step : Step d.worker e.workflow d.shown e.machine (.submitted stepId submission) machine)
    (bearerToken : String) :
    Submitted d history w e.workflow.taskId ⟨bearerToken, submission⟩ := by
  obtain ⟨workflow, m, awaited⟩ := e
  obtain ⟨accepted, ⟨past, ran⟩, t, named, kind, settled, definition, parsed, same⟩ := started
  have inv := inv_run accepted ran
  cases step with
  | @submitted runtime current sources call s rest value payload done fits =>
    obtain ⟨⟨_, found⟩, _⟩ := inv.waits
    have mem := inv.sound.step_mem (entryOf_some found).1
    dsimp only at same mem named
    rw [← same] at mem
    refine ⟨t, named, named ▸ settled, kind, definition, current, payload, parsed, mem, ?_, ?_⟩
    · exact ((accepted_of_parsed parsed).parsed current mem).type.2
    · rw [named]

theorem sound_acted (sound : Sound d history w) {i : Nat} {e : Execution} {event : Event}
    {machine : Machine} (running : w.executions i = some e)
    (step : Step d.worker e.workflow d.shown e.machine event machine) :
    Sound d (history ++ [.acted i event])
      { w with
          executions := Function.update w.executions i (some (e.after event machine))
          sent := (posted e event).toList.map (fun post => (e.workflow.taskId, post)) ++ w.sent } := by
  have held := sound.executions i e running
  have more : Extends history (history ++ [.acted i event]) w
      { w with
          executions := Function.update w.executions i (some (e.after event machine))
          sent := (posted e event).toList.map (fun post => (e.workflow.taskId, post)) ++ w.sent } :=
    extends_of (show Keeps w.db w.db from Adds.refl _) (Or.inl rfl)
  refine sound_later sound more ?_ ?_ ?_ ?_
  · intro j other found
    by_cases same : j = i
    · subst same
      dsimp only at found
      rw [Function.update_self, Option.some.injEq] at found
      subst found
      obtain ⟨accepted, ⟨past, ran⟩, task⟩ := held.later more
      exact Or.inr ⟨accepted, ⟨_, ran.step step⟩, task⟩
    · exact Or.inl ((Function.update_of_ne same _ _).symm.trans found)
  · intro n post mem
    rcases List.mem_append.mp mem with made | old
    · obtain ⟨post', posted', same⟩ := List.mem_map.mp made
      cases same
      obtain ⟨stepId, rfl, _⟩ := WorkflowReplay.posted_some (Option.mem_toList.mp posted')
      exact Or.inr ((stepOf_submitted held step post.bearerToken).later more)
    · exact Or.inl old
  · rintro _ _ ⟨⟩
  · rintro _ _ _ ⟨⟩

theorem executeWorkflow_parsed {workflowTaskId : Int} {rawPayload : String}
    {rawConfig : WorkflowGatewayConfig} {workflow : Workflow} {machine : Machine}
    (started : executeWorkflow d.worker workflowTaskId rawPayload rawConfig =
      .ok (workflow, machine)) : ∃ definition,
    parseWorkflowDefinition d.worker.toRuntime rawPayload = .ok definition ∧
      definition.steps = workflow.steps := by
  rw [executeWorkflow] at started
  obtain ⟨_, started⟩ := UrlValues.guard_ok started
  split at started
  · cases started
  rename_i definition parsed
  split at started
  · cases started
  · cases started
    exact ⟨definition, parsed, rfl⟩

theorem sound_begun (sound : Sound d history w) {i : Nat} {t : Task}
    {rawConfig : WorkflowGatewayConfig} {workflow : Workflow} {machine : Machine}
    (queued : w.db.tasks.find? t.id = some t) (kind : t.taskName = "workflow.run")
    (started : executeWorkflow d.worker t.id t.payload rawConfig = .ok (workflow, machine)) :
    Sound d (history ++ [.begun i])
      { w with executions := Function.update w.executions i (some { workflow, machine }) } := by
  have more : Extends history (history ++ [.begun i]) w
      { w with executions := Function.update w.executions i (some { workflow, machine }) } :=
    extends_of (show Keeps w.db w.db from Adds.refl _) (Or.inl rfl)
  obtain ⟨accepted, named, first⟩ := executeWorkflow_ok started
  obtain ⟨definition, parsed, same⟩ := executeWorkflow_parsed started
  refine sound_later sound more ?_ (fun _ _ => Or.inl) ?_ ?_
  · intro j other found
    by_cases here : j = i
    · subst here
      dsimp only at found
      rw [Function.update_self, Option.some.injEq] at found
      subst found
      refine Or.inr ⟨accepted, ⟨[], ?_⟩, t, named.symm, kind, ?_, definition, parsed, same⟩
      · rw [first]
        exact .start
      · exact (sound.rows t.id t queued).later more
    · exact Or.inl ((Function.update_of_ne here _ _).symm.trans found)
  · rintro _ _ ⟨⟩
  · rintro _ _ _ ⟨⟩

theorem sound_queue (sound : Sound d history w) (op : QueueRuns.Op) :
    Sound d (history ++ [.queue op])
      { w with gateway.facade.db := QueueRuns.step op w.db } := by
  have more : Extends history (history ++ [.queue op]) w
      { w with gateway.facade.db := QueueRuns.step op w.db } :=
    extends_of (queue_adds op w.db) (Or.inl rfl)
  refine sound_later sound more (fun _ _ => Or.inl) (fun _ _ => Or.inl) ?_ ?_
  · rintro _ _ ⟨⟩
  · rintro _ _ _ ⟨⟩

section Routed
variable {format : JsonText.NumberFormat} (keeps : CanonicalJson.KeepsJson d.deps.web format)
  {arrival : Arrival} {answer : Reply × Gateway P}
  (routed : answer = routeGatewayRequest d.deps arrival w.gateway)

include keeps routed

theorem sound_requested (sound : Sound d history w) :
    Sound d (history ++ [.requested arrival (newTasks w.db answer.2.facade.db)])
      { w with gateway := answer.2 } := by
  have adds := route_adds keeps arrival w.gateway
  rw [← routed] at adds
  refine sound_later sound (extends_of adds (Or.inr rfl)) (fun _ _ => Or.inl) (fun _ _ => Or.inl)
    ?_ ?_
  · rintro _ _ ⟨⟩ t new
    exact (newTasks_added adds new).2.2
  · rintro _ _ _ ⟨⟩

theorem sound_delivered (sound : Sound d history w) {n : Int} {post : Post}
    (mem : (n, post) ∈ w.sent) :
    Sound d (history ++ [.delivered n post (newTasks w.db answer.2.facade.db)])
      { w with
          gateway := answer.2
          replies := answer.1.toList.map (fun response => (post, response)) ++ w.replies } := by
  have adds := route_adds keeps arrival w.gateway
  rw [← routed] at adds
  refine sound_later sound (extends_of adds (Or.inr rfl)) (fun _ _ => Or.inl) (fun _ _ => Or.inl)
    ?_ ?_
  · rintro _ _ ⟨⟩
  · rintro _ _ _ ⟨⟩
    exact mem

end Routed

theorem sound_step {format : JsonText.NumberFormat}
    (keeps : CanonicalJson.KeepsJson d.deps.web format) {happening : Happening}
    (sound : Sound d history w) (step : WorldStep d w happening w') :
    Sound d (history ++ [happening]) w' := by
  cases step with
  | requested arrival routed => exact sound_requested keeps routed sound
  | begun _ queued kind started => exact sound_begun sound queued kind started
  | acted running step _ => exact sound_acted sound running step
  | delivered mem arrival _ routed => exact sound_delivered keeps routed sound mem
  | queue op => exact sound_queue sound op

theorem sound_initial (initial : Initial w) : Sound d [] w where
  counted := by
    rintro t ⟨_, mem, _⟩
    cases mem
  rows id t found := by
    refine ⟨initial.counted id t found, ?_⟩
    rintro t' ⟨_, mem, _⟩
    cases mem
  executions i e running := by
    rw [initial.executions] at running
    cases running
  sent n post mem := by
    rw [initial.sent] at mem
    cases mem
  requests arrival enqueued mem := by cases mem
  deliveries n post enqueued mem := by cases mem

theorem sound_run {format : JsonText.NumberFormat}
    (keeps : CanonicalJson.KeepsJson d.deps.web format) {first : World P} (initial : Initial first)
    (run : Runs (WorldStep d) first history w) : Sound d history w :=
  run.invariant (sound_initial initial) fun _ _ _ _ sound step => sound_step keeps sound step

/-! ### Tasks on behalf of a session -/

theorem StepOf.same {worker : Platform} {workflow workflow' : Task} {post : Post}
    (step : StepOf worker workflow post) (id : workflow'.id = workflow.id)
    (contents : content workflow' = content workflow) : StepOf worker workflow' post := by
  obtain ⟨kind, definition, current, payload, parsed, mem, other, submission⟩ := step
  obtain ⟨named, filled⟩ := Prod.mk.inj contents
  refine ⟨named.trans kind, definition, current, payload, ?_, mem, other, ?_⟩
  · rw [filled, parsed]
  · rw [id, submission]

theorem enqueued_of_behalf {token : String} {t : Task} (behalf : OnBehalf token history t) :
    Enqueued history t := by
  cases behalf with
  | own mem _ new => exact ⟨_, mem, new⟩
  | child _ mem new => exact ⟨_, mem, new⟩

theorem Session.grant_eq {token : String} {grant : CapabilityGrant}
    (session : Session d.deps token grant) {request : Request} {nowMs : Int}
    {auth : AuthorizationContext} (carried : bearerToken request = some token)
    (resolved : resolveAuthorizationContext d.deps.web request d.deps.config nowMs = some auth) :
    auth.grant = grant := by
  obtain ⟨apiToken, configured, other⟩ := session.configured
  obtain ⟨claims, held, rfl⟩ := session.claims
  obtain ⟨claims', held', rfl⟩ := resolve_session configured carried other resolved
  cases held.symm.trans held'
  rfl

/-- In every run, what a session has enqueued it may enqueue by its grant, or is a step of a
workflow that it has enqueued so. -/
theorem composition_stays_delegated (d : System P) {format : JsonText.NumberFormat}
    (keeps : CanonicalJson.KeepsJson d.deps.web format) {first w : World P}
    {history : List Happening} (initial : Initial first)
    (run : Runs (WorldStep d) first history w) {token : String} {grant : CapabilityGrant}
    (session : Session d.deps token grant) {t : Task} (behalf : OnBehalf token history t) :
    Delegated d grant history t := by
  have sound := sound_run keeps initial run
  induction behalf with
  | own mem bearer new =>
    obtain ⟨auth, resolved, entitled⟩ := sound.requests _ _ mem _ new
    rw [session.grant_eq bearer resolved] at entitled
    exact .own mem new entitled
  | child parent mem new ih =>
    obtain ⟨t', named, settled, step⟩ := sound.deliveries _ _ _ mem
    have contents := settled.same _ (enqueued_of_behalf parent) rfl
    exact .step ih (step.same named.symm contents) mem new

end Runs

/-! ### A workflow beyond its session's grant -/

section Samples

/-- The claims of a session that may compose workflows, and do nothing else. -/
def composingClaims : Json :=
  .obj [("v", .num 1), ("sid", .str "session-1"), ("iat", .num 0), ("exp", .num 60),
    ("depth", .num 4), ("authority", .num 2), ("scopes", .arr [.str "workflow.compose"])]

def composing : CapabilityGrant :=
  ⟨CapabilityDepth.ORCHESTRATE, CapabilityAuthority.COMPOSE, ["workflow.compose"]⟩

def sessionToken : String := "tqq1.AA.AA"

/-- Every signature is a zero byte, and every payload holds the session's claims. -/
def composingWeb : WebRuntime :=
  { RequestFingerprints.orderedWeb with
    number := fun _ => some 0
    hmac := fun _ _ => [0]
    parseBytes := fun _ => some composingClaims }

def composingDeps : GatewayDependencies Unit where
  web := composingWeb
  capabilities := CAPABILITY_REGISTRY
  registry := TASK_REGISTRY
  config := { apiToken := some "root-token" }
  serve := fun _ _ providers => (none, providers)

def composingSystem : System Unit where
  deps := composingDeps
  worker :=
    { composingWeb.toRuntime with
      newUrl := fun _ =>
        some ⟨⟨"http:", "", "", "127.0.0.1", "7331", "", "", []⟩, "/", "http://127.0.0.1:7331"⟩ }
  shown _ := True

def composingFirst : World Unit where
  gateway := ⟨⟨.empty, ⟨10, 10, 10, 0⟩⟩, .empty, [], ()⟩

def definitionText : String :=
  "\x7b\"steps\":[\x7b\"id\":\"a\",\"type\":\"agent.invoke\",\"payload\":null\x7d]\x7d"

def composed : Arrival where
  request :=
    { method := "POST"
      pathname := "/v1/workflows"
      header := fun name =>
        if name = "authorization" then some ("Bearer " ++ sessionToken)
        else if name = "content-type" then some "application/json"
        else if name = "idempotency-key" then some "workflow-1"
        else none
      body := definitionText }

def composedAnswer : Reply × Gateway Unit :=
  routeGatewayRequest composingDeps composed composingFirst.gateway

theorem composingWeb_keeps : CanonicalJson.KeepsJson composingWeb JsonText.integers :=
  ⟨RequestFingerprints.orderedWeb_keeps.stringify, RequestFingerprints.orderedWeb_keeps.parsed,
    RequestFingerprints.orderedWeb_keeps.back⟩

theorem composing_initial : Initial composingFirst := by
  refine ⟨rfl, rfl, fun id t found => ?_⟩
  cases found

theorem composing_session : Session composingDeps sessionToken composing := by
  refine ⟨⟨"root-token", rfl, by decide⟩, ?_⟩
  have held : (tokenClaims composingWeb sessionToken).map CapabilitySessionClaims.grant =
      some composing := by
    decide +kernel
  exact Option.map_eq_some_iff.mp held

theorem composed_enqueues : (newTasks composingFirst.db composedAnswer.2.facade.db).map
    (fun t => (t.id, t.taskName, t.payload)) = [(1, "workflow.run", definitionText)] := by
  decide +kernel

theorem composed_task : ∃ t ∈ newTasks composingFirst.db composedAnswer.2.facade.db,
    t.id = 1 ∧ t.taskName = "workflow.run" ∧ t.payload = definitionText := by
  have mem : (1, "workflow.run", definitionText) ∈
      (newTasks composingFirst.db composedAnswer.2.facade.db).map
        (fun t => (t.id, t.taskName, t.payload)) := by
    rw [composed_enqueues]
    exact List.mem_singleton_self _
  obtain ⟨t, new, same⟩ := List.mem_map.mp mem
  obtain ⟨id, rest⟩ := Prod.mk.inj same
  obtain ⟨named, filled⟩ := Prod.mk.inj rest
  exact ⟨t, new, id, named, filled⟩

def composedRun : List Happening :=
  [.requested composed (newTasks composingFirst.db composedAnswer.2.facade.db)]

theorem composed_run :
    Runs (WorldStep composingSystem) composingFirst composedRun
      { composingFirst with gateway := composedAnswer.2 } :=
  Runs.start.step (.requested composed rfl)

/-- The session's workflow is its own by its grant. -/
theorem composition_stays_delegated_sample : ∃ t, t.taskName = "workflow.run" ∧
    Delegated composingSystem composing composedRun t := by
  obtain ⟨t, new, _, named, _⟩ := composed_task
  have bearer : bearerToken composed.request = some sessionToken := by
    decide +kernel
  exact ⟨t, named, composition_stays_delegated composingSystem composingWeb_keeps composing_initial
    composed_run composing_session (.own (List.mem_singleton_self _) bearer new)⟩

end Samples

end SessionDelegation
