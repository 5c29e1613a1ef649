import TaskQueQue.CanonicalJson
import TaskQueQue.GatewayRouter
import TaskQueQue.SharedDatabase

/-!
# Where tasks come from

Nothing changes the name or the payload of a task. The queue's operations add tasks under
new ids only, an agent's statements add none, and a request to the gateway adds those of
its two submission routes.
-/

namespace TaskOrigins

open QueueValues QueueTables TaskLife KeyedTable SyncQueue SharedDatabase
open QueueRuns hiding Reply
open GatewayValues CapabilityAuth CapabilityAccess LocalApi TaskFacade GatewayRouter
open AgentDirect (Job Outcome putBack claimFor withStatus)

/-- What a task is to do. -/
def content (t : Task) : String × String := (t.taskName, t.payload)

/-- Tasks keep their contents, and what is added is new and of one kind. -/
structure Adds (added : Task → Prop) (db db' : Db) : Prop where
  seq : db.taskSeq ≤ db'.taskSeq
  rows : ∀ id t', db'.tasks.find? id = some t' →
    (∃ t, db.tasks.find? id = some t ∧ content t' = content t) ∨
    (db.tasks.find? id = none ∧ db.taskSeq < id ∧ id ≤ db'.taskSeq ∧ added t')

abbrev Keeps : Db → Db → Prop := Adds fun _ => False

theorem Adds.refl {added : Task → Prop} (db : Db) : Adds added db db :=
  ⟨le_refl _, fun _ t' found => Or.inl ⟨t', found, rfl⟩⟩

theorem Adds.mono {added added' : Task → Prop} {db db' : Db} (adds : Adds added db db')
    (weaker : ∀ t, added t → added' t) : Adds added' db db' := by
  refine ⟨adds.seq, fun id t' found => ?_⟩
  rcases adds.rows id t' found with old | ⟨absent, fresh, counted, new⟩
  · exact Or.inl old
  · exact Or.inr ⟨absent, fresh, counted, weaker t' new⟩

theorem Adds.of_keeps {added : Task → Prop} {db db' : Db} (keeps : Keeps db db') :
    Adds added db db' :=
  keeps.mono fun _ => False.elim

theorem Keeps.trans {db db' db'' : Db} (first : Keeps db db') (second : Keeps db' db'') :
    Keeps db db'' := by
  refine ⟨first.seq.trans second.seq, fun id t'' found => ?_⟩
  rcases second.rows id t'' found with ⟨t', found', same⟩ | ⟨_, _, _, new⟩
  · rcases first.rows id t' found' with ⟨t, held, same'⟩ | ⟨_, _, _, new⟩
    · exact Or.inl ⟨t, held, same.trans same'⟩
    · exact new.elim
  · exact new.elim

/-! ### The database -/

section Database
variable {id seq seq' : Int} {v v' : TaskView}

theorem move_content {c : Change} {t' : Task} (move : Move id seq seq' v c v')
    (row' : v'.task = some t') : (∃ t, v.task = some t ∧ content t' = content t) ∨
      (c = .created ∧ v.task = none ∧ seq < id ∧ id ≤ seq') := by
  cases move with
  | stay => exact Or.inl ⟨t', row', rfl⟩
  | create fresh counted => exact Or.inr ⟨rfl, rfl, fresh, counted⟩
  | assign _ _ _ row | release _ row | claim _ row | cancel _ row =>
    cases row'
    exact Or.inl ⟨_, row, rfl⟩
  | extend _ holds | complete holds | project holds | retry _ _ holds | exhaust _ holds =>
    cases row'
    exact Or.inl ⟨_, holds.row, rfl⟩
  | prune => cases row'

theorem queue_adds (op : Op) (db : Db) : Adds (fun _ => True) db (QueueRuns.step op db) := by
  refine ⟨(queue_effect op db 0).1, fun id t' found => ?_⟩
  rcases (queue_effect op db id).2 with move | ⟨_, admitted⟩
  · rcases move_content move found with old | ⟨_, absent, fresh, counted⟩
    · exact Or.inl old
    · exact Or.inr ⟨absent, fresh, counted, trivial⟩
  · exact Or.inr ⟨admitted.absent, admitted.fresh, admitted.counted, trivial⟩

/-- All but the admissions add nothing. -/
theorem queue_keeps {op : Op} (plain : admits op = false) (db : Db) :
    Keeps db (QueueRuns.step op db) := by
  have advances : Advances db (QueueRuns.step op db) fun id => change id op db :=
    exec_advances_of op fun admitted => absurd admitted (by rw [plain]; exact Bool.false_ne_true)
  refine ⟨advances.seq, fun id t' found => ?_⟩
  rcases move_content (advances.move id) found with old | ⟨created, _⟩
  · exact Or.inl old
  · have behind := noted_of_change created Change.noConfusion
    generalize (exec op db).1 = reply at behind
    cases behind <;> cases plain

theorem agentMove_content {n : Nat} {clock : Seconds} {job : Job} {event : ClaimEvent} {t' : Task}
    (move : AgentMove id n clock job v event v') (row' : v'.task = some t') :
    ∃ t, v.task = some t ∧ content t' = content t := by
  cases move with
  | stay => exact ⟨t', row', rfl⟩
  | release _ row | claim _ _ row | giveBack _ row | submit _ _ _ row =>
    cases row'
    exact ⟨_, row, rfl⟩
  | store => exact ⟨t', row', rfl⟩

theorem statement_keeps (rt : Runtime) (clock clock' : Seconds) (job : Job) (db : Db) :
    Keeps db (job.statement rt clock clock' db).2 :=
  ⟨le_of_eq (statement_taskSeq rt clock clock' job db).symm, fun id _ found =>
    Or.inl (agentMove_content (statement_effect rt 0 clock clock' job db id) found)⟩

theorem settle_keeps (rt : Runtime) (clock : Nat → Seconds) (n : Nat) (outcome : Outcome) (db : Db) :
    Keeps db (settle rt clock n outcome db).2 := by
  induction n generalizing clock outcome db with
  | zero => cases outcome <;> exact Adds.refl db
  | succ n ih =>
    cases outcome with
    | next job => exact (statement_keeps rt (clock 0) (clock 1) job db).trans (ih _ _ _)
    | reply | thrown => exact Adds.refl db

/-- An admission adds the task it is given. -/
theorem admission_adds (r : EnqueueRequest) (now : Seconds) (db : Db) :
    Adds (fun t => content t = (r.taskName, r.body)) db (QueueRuns.step (r.op now) db) := by
  rw [QueueRuns.step, EnqueueRequest.op, exec]
  rcases answer_cases .admission (Idempotency.enqueueBounded now r.idempotencyKey
    r.requestFingerprint r.taskName r.taskType r.body r.priority r.maxRetries r.maxActiveTasks) db
    with ⟨reply, db', admitted, answered⟩ | ⟨_, _, answered⟩
  · rw [answered]
    rcases Idempotency.enqueueBounded_cases admitted with
      ⟨rfl, _⟩ | ⟨taskId, _, _, _, next, tasks, idempotency, inserted, _, rfl⟩
    · exact Adds.refl db'
    refine ⟨by dsimp only; omega, fun id t' found => ?_⟩
    rw [Table.find?_of_insert? inserted] at found
    split at found
    · rename_i named
      cases found
      have absent : db.tasks.find? taskId = none := (Table.rows_of_insert? inserted).2
      have here : taskId = id := named
      subst here
      exact Or.inr ⟨absent, by omega, le_refl _, rfl⟩
    · exact Or.inl ⟨t', found, rfl⟩
  · rw [answered]
    exact Adds.refl db

end Database

/-! ### The two facades -/

section Facades
variable {web : WebRuntime} {registry : TaskRegistry} {config : GatewayConfig}

/-- A request to the task route names the task in its body. -/
structure Names (web : WebRuntime) (request : Request) (t : Task) : Prop where
  path : request.pathname = "/v1/tasks"
  method : request.method = "POST"
  body : ∃ fields payload, web.parse request.body = some (.obj fields) ∧
    (Json.obj fields).field "type" = some (.str t.taskName) ∧
    (Json.obj fields).field "payload" = some payload ∧ t.payload = web.stringify payload

/-- A request to the workflow route has the definition for its body. -/
structure Composes (web : WebRuntime) (request : Request) (t : Task) : Prop where
  path : request.pathname = "/v1/workflows"
  method : request.method = "POST"
  body : ∃ workflow, web.parse request.body = some workflow ∧
    content t = ("workflow.run", web.stringify workflow)

theorem names_of_admissible {request : Request} {r : EnqueueRequest} {t : Task}
    (path : request.pathname = "/v1/tasks") (method : request.method = "POST")
    (admitted : admissible web registry config request = .ok r)
    (added : content t = (r.taskName, r.body)) : Names web request t := by
  obtain ⟨_, parsed, _, submission⟩ := admissible_ok admitted
  obtain ⟨fields, read, type, payload, _⟩ := parsePublicTaskRequest_ok submission.reads
  obtain ⟨named, filled⟩ := Prod.mk.inj added
  refine ⟨path, method, fields, parsed.payload, read, ?_, payload, ?_⟩
  · rw [named, submission.taskName, type]
  · rw [filled, submission.body]

theorem handleRequest_adds (request : Request) (conditions : Conditions) (s : FacadeState) :
    Adds (Names web request) s.db
      (handleRequest web registry config request conditions s).2.db := by
  rcases handleRequest_db web registry config request conditions s with
    same | ⟨path, method, r, admitted, stepped⟩
  · rw [same]
    exact Adds.refl s.db
  · rw [stepped]
    exact (admission_adds r conditions.daemonClock s.db).mono fun t added =>
      names_of_admissible path method admitted added

theorem parseWorkflowBody_ok {request : Request} {workflow : Json}
    (h : WorkflowFacade.parseWorkflowBody web request = .ok workflow) :
    web.parse request.body = some workflow := by
  rw [WorkflowFacade.parseWorkflowBody] at h
  split at h
  · cases h
  rename_i raw bounded
  rw [boundedBody_ok bounded] at h
  split at h
  · cases h
  · rename_i fields read
    cases h
    exact read
  · cases h

theorem normal_workflowTask {format : JsonText.NumberFormat} {workflow : Json}
    (normal : JsonText.Normal format workflow) :
    JsonText.Normal format (WorkflowFacade.workflowTask workflow) := by
  have keys : ["type", "payload"].Pairwise JsonText.Precedes := by decide
  rw [WorkflowFacade.workflowTask, JsonText.Normal, JsonText.NormalFields, JsonText.NormalFields,
    JsonText.NormalFields]
  exact ⟨keys, trivial, normal, trivial⟩

variable {format : JsonText.NumberFormat}

theorem handleCreateWorkflow_adds (keeps : CanonicalJson.KeepsJson web format) {request : Request}
    (path : request.pathname = "/v1/workflows") (method : request.method = "POST")
    (conditions : Conditions) (s : FacadeState) : Adds (Composes web request) s.db
      (WorkflowFacade.handleCreateWorkflow web registry config request conditions s).2.db := by
  rw [WorkflowFacade.handleCreateWorkflow]
  split
  · exact Adds.refl s.db
  rename_i workflow body
  have read := parseWorkflowBody_ok body
  have adds : Adds (Composes web request) s.db (handleRequest web registry config
      (WorkflowFacade.taskFacadeRequest request "/v1/tasks" "POST"
        (web.stringify (WorkflowFacade.workflowTask workflow))) conditions s).2.db := by
    refine (handleRequest_adds _ conditions s).mono fun t names => ?_
    obtain ⟨_, _, fields, payload, back, type, held, filled⟩ := names
    have written := keeps.back _ (normal_workflowTask (keeps.parsed _ _ read))
    cases back.symm.trans written
    have named : t.taskName = "workflow.run" := (Json.str.inj (Option.some.inj type)).symm
    have same : payload = workflow := (Option.some.inj held).symm
    exact ⟨path, method, workflow, read, Prod.ext named (same ▸ filled)⟩
  dsimp only
  repeat' split
  all_goals exact adds

theorem cancelTask_keeps (now : Seconds) (idText : String) (db : Db) :
    Keeps db (routeCancelTask now idText db).2 := by
  rcases routeCancelTask_db now idText db with same | ⟨taskId, stepped⟩
  · rw [same]
    exact Adds.refl db
  · rw [stepped]
    exact queue_keeps rfl db

theorem fetchWithTimeout_keeps (delivery : Delivery) (now : Seconds) (idText : String) (db : Db) :
    Keeps db (fetchWithTimeout delivery (routeCancelTask now idText) db).2 := by
  cases delivery with
  | answered | unanswered => exact cancelTask_keeps now idText db
  | failed | unreachable => exact Adds.refl db

theorem handleCancelWorkflow_keeps (request : Request) (workflowIdText : String)
    (conditions : Conditions) (s : FacadeState) : Keeps s.db
      (WorkflowFacade.handleCancelWorkflow web registry config request workflowIdText conditions
        s).2.db := by
  rw [WorkflowFacade.handleCancelWorkflow]
  split
  · exact Adds.refl s.db
  split
  · exact Adds.refl s.db
  split
  · exact Adds.refl s.db
  · exact fetchWithTimeout_keeps _ _ _ _

theorem handlePublicWorkflowRequest_adds (keeps : CanonicalJson.KeepsJson web format)
    {request : Request} {conditions : Conditions} {s : FacadeState}
    {result : Response × FacadeState}
    (h : WorkflowFacade.handlePublicWorkflowRequest web registry config request conditions s =
      some result) : Adds (Composes web request) s.db result.2.db := by
  rw [WorkflowFacade.handlePublicWorkflowRequest] at h
  split at h
  · rename_i path
    cases h
    split
    · rename_i method
      exact handleCreateWorkflow_adds keeps path method conditions s
    · exact Adds.refl s.db
  split at h
  · cases h
    split
    · exact .of_keeps (handleCancelWorkflow_keeps _ _ _ _)
    · exact Adds.refl s.db
  · obtain ⟨workflowIdText, _, rfl⟩ := Option.map_eq_some_iff.mp h
    exact Adds.refl s.db

end Facades

/-! ### The router -/

section Router
variable {P : Type} {deps : GatewayDependencies P} {g : Gateway P}

/-- What a handler that may decline does to the queue. -/
def HandlerAdds (added : Task → Prop) (g : Gateway P) (handled : Handled P) : Prop :=
  ∀ answer, handled = some answer → Adds added g.facade.db answer.2.facade.db

theorem adds_none (added : Task → Prop) (g : Gateway P) : HandlerAdds added g none := by
  intro _ h
  cases h

theorem adds_reply (added : Task → Prop) (response : Response) (g : Gateway P) :
    HandlerAdds added g (reply response g) := by
  intro _ h
  cases h
  exact Adds.refl _

theorem adds_provide (added : Task → Prop) (provider : Provider) (request : Request)
    (g : Gateway P) : HandlerAdds added g (some (provide deps provider request g)) := by
  intro _ h
  cases h
  exact Adds.refl _

theorem adds_ite {c : Prop} [Decidable c] {added : Task → Prop} {handled handled' : Handled P}
    (yes : HandlerAdds added g handled) (no : HandlerAdds added g handled') :
    HandlerAdds added g (if c then handled else handled') := by
  split
  · exact yes
  · exact no

theorem adds_getD {added : Task → Prop} {handled : Handled P} {rest : Reply × Gateway P}
    (first : HandlerAdds added g handled) (later : Adds added g.facade.db rest.2.facade.db) :
    Adds added g.facade.db (handled.getD rest).2.facade.db := by
  cases found : handled with
  | none => exact later
  | some answer => exact first answer found

variable (added : Task → Prop) (request : Request)

theorem capabilitySession_adds :
    HandlerAdds added g (handleCapabilitySessionRequest deps request g) := by
  refine adds_ite (adds_none _ _) (adds_ite (adds_reply _ _ _) (adds_ite (adds_reply _ _ _) ?_))
  exact adds_ite (adds_reply _ _ _) (adds_provide _ _ _ _)

theorem consentOperator_adds :
    HandlerAdds added g (handleOAuthConsentOperatorRequest deps request g) := by
  refine adds_ite (adds_none _ _) (adds_ite (adds_reply _ _ _) ?_)
  exact adds_ite (adds_reply _ _ _) (adds_provide _ _ _ _)

theorem metadata_adds :
    HandlerAdds added g (handleOAuthAuthorizationServerMetadataRequest deps request g) :=
  adds_ite (adds_none _ _) (adds_ite (adds_reply _ _ _) (adds_provide _ _ _ _))

theorem authorization_adds :
    HandlerAdds added g (handleOAuthAuthorizationRequest deps request g) :=
  adds_ite (adds_none _ _) (adds_ite (adds_reply _ _ _) (adds_provide _ _ _ _))

theorem token_adds : HandlerAdds added g (handleOAuthTokenRequest deps request g) :=
  adds_ite (adds_none _ _) (adds_ite (adds_reply _ _ _) (adds_provide _ _ _ _))

theorem capability_adds (nowMs : Int) :
    HandlerAdds added g (handleCapabilityRequest deps request nowMs g) := by
  refine adds_ite (adds_none _ _) (adds_ite (adds_reply _ _ _) ?_)
  split
  · exact adds_reply _ _ _
  split
  · exact adds_reply _ _ _
  · refine adds_ite (adds_reply _ _ _) ?_
    intro _ h
    cases h
    exact Adds.refl _

theorem process_adds (nowMs : Int) :
    HandlerAdds added g (handleRegisteredProcessRequest deps request nowMs g) := by
  refine adds_ite (adds_none _ _) (adds_ite (adds_reply _ _ _) (adds_ite (adds_reply _ _ _) ?_))
  refine adds_ite (adds_reply _ _ _) ?_
  split
  · exact adds_reply _ _ _
  · exact adds_provide _ _ _ _

theorem delegated_adds (provider : Provider) (paths : List String) (method : String) :
    HandlerAdds added g (delegated deps provider paths method request g) :=
  adds_ite (adds_none _ _) (adds_ite (adds_reply _ _ _) (adds_provide _ _ _ _))

theorem declaredResult_adds (conditions : Conditions) :
    HandlerAdds added g (handleDeclaredWorkflowResultRequest deps request conditions g) := by
  intro answer h
  obtain ⟨_, _, rfl⟩ := Option.map_eq_some_iff.mp h
  exact Adds.refl _

theorem agentDirect_adds (arrival : Arrival) :
    HandlerAdds added g (handleAgentDirectRequest deps arrival request g) := by
  intro answer h
  obtain ⟨result, _, rfl⟩ := Option.map_eq_some_iff.mp h
  exact .of_keeps (settle_keeps _ _ _ _ _)

theorem agentProxy_adds (arrival : Arrival) :
    HandlerAdds added g (handleAgentProxyRequest arrival g) := by
  rw [handleAgentProxyRequest]
  split
  · exact adds_none _ _
  · refine adds_ite (adds_none _ _) ?_
    intro _ h
    cases h
    exact Adds.refl _

/-- A request that got past the check adds a task by one of the two routes. -/
theorem routeEnforced_adds {format : JsonText.NumberFormat}
    (keeps : CanonicalJson.KeepsJson deps.web format) (arrival : Arrival) :
    Adds (fun t => Names deps.web request t ∨ Composes deps.web request t) g.facade.db
      (routeEnforced deps arrival request g).2.facade.db := by
  refine adds_getD (process_adds _ _ _) ?_
  refine adds_getD (delegated_adds _ _ _ _ _) ?_
  refine adds_getD (delegated_adds _ _ _ _ _) ?_
  refine adds_getD (delegated_adds _ _ _ _ _) ?_
  refine adds_getD (declaredResult_adds _ _ _) ?_
  refine adds_getD (agentDirect_adds _ _ _) ?_
  refine adds_getD (agentProxy_adds _ _) ?_
  refine adds_getD ?_ ?_
  · intro answer h
    obtain ⟨result, handled, rfl⟩ := Option.map_eq_some_iff.mp h
    exact (handlePublicWorkflowRequest_adds keeps handled).mono fun _ => Or.inr
  · rw [handlePublicSurfaceRequest]
    split
    · exact Adds.refl _
    · exact (handleRequest_adds request _ _).mono fun _ => Or.inl

end Router

end TaskOrigins
