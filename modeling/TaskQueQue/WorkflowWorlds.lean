import TaskQueQue.KeyedSubmissions
import TaskQueQue.WorkflowRuns

/-!
# Workflows that are executed again

A workflow task can be executed twice: its worker lost its lease, or crashed, and
another started over. All executions submit a step under one key. That they also submit
one and the same request is not seen from one execution: its payload is made of results
of the children of other steps, which the executions share because they submitted them
under one key each.

A world holds the gateway with its queue, any number of executions of any workflows,
what they have sent and what the gateway has answered. Requests arrive late, more than
once or never, and answers are lost; other clients and the queue's own work go on in
between.
-/

namespace WorkflowWorlds

open QueueTables GatewayValues TaskFacade LocalApi KeyedSubmissions
open WorkflowDefinition WorkflowDags WorkflowExecution WorkflowRuns AcceptedDefinitions
open ResultReferences (Pending Shared Fields Platform rebuild start Steps)
open CapabilityAuth (GatewayConfig)
open LabelledRuns
open UrlValues (guard_ok)

/-! ### Keys -/

theorem toList_toString_pos {n : Int} (positive : 0 < n) :
    (toString n).toList = Nat.toDigits 10 n.toNat := by
  obtain ⟨m, rfl⟩ := Int.eq_ofNat_of_zero_le (Int.le_of_lt positive)
  exact Nat.toList_repr

/-- Digits before a dash are all digits up to it. -/
theorem digits_of_append (n : Nat) (rest : List Char) :
    (Nat.toDigits 10 n ++ '-' :: rest).takeWhile Char.isDigit = Nat.toDigits 10 n ∧
      (Nat.toDigits 10 n ++ '-' :: rest).dropWhile Char.isDigit = '-' :: rest := by
  have digits : ∀ c ∈ Nat.toDigits 10 n, c.isDigit = true :=
    fun c mem => Nat.isDigit_of_mem_toDigits (by decide) (by decide) mem
  have dash : ¬ '-'.isDigit = true := by decide
  rw [List.takeWhile_append_of_pos digits, List.dropWhile_append_of_pos digits,
    List.takeWhile_cons_of_neg dash, List.dropWhile_cons_of_neg dash, List.append_nil]
  exact ⟨rfl, rfl⟩

/-- The key of a child names its workflow and its step. -/
theorem childIdempotencyKey_inj {n m : Int} {stepId stepId' : String} (positive : 0 < n)
    (positive' : 0 < m)
    (same : childIdempotencyKey n stepId = childIdempotencyKey m stepId') :
    n = m ∧ stepId = stepId' := by
  have lists := congrArg String.toList same
  rw [childIdempotencyKey, childIdempotencyKey] at lists
  simp only [String.toList_append, toList_toString_pos positive, toList_toString_pos positive',
    List.append_assoc] at lists
  have rest := List.append_cancel_left lists
  have split : Nat.toDigits 10 n.toNat ++ '-' :: stepId.toList =
      Nat.toDigits 10 m.toNat ++ '-' :: stepId'.toList := rest
  have digits := congrArg (List.takeWhile Char.isDigit) split
  have after := congrArg (List.dropWhile Char.isDigit) split
  rw [(digits_of_append _ _).1, (digits_of_append _ _).1] at digits
  rw [(digits_of_append _ _).2, (digits_of_append _ _).2] at after
  refine ⟨?_, String.toList_inj.mp (List.cons.inj after).2⟩
  have number := congrArg decimal? digits
  rw [decimal?_toDigits, decimal?_toDigits, Option.some.injEq] at number
  omega

/-- A character of a key. -/
def keyChar (c : Char) : Bool := asciiAlphanumeric c || "._:-".toList.contains c

theorem keyChar_small {c : Char} (key : keyChar c = true) : ¬ 65536 ≤ c.toNat := by
  have shown : RequestRendering.visible c = true := by
    rcases Bool.or_eq_true_iff.mp key with alphanumeric | mark
    · exact AdmissionLanguage.visible_of_alphanumeric alphanumeric
    · rw [List.contains_iff_mem] at mark
      exact List.all_eq_true.mp (by decide : "._:-".toList.all RequestRendering.visible = true) c
        mark
  have upper : c.toNat ≤ '~'.toNat := (of_decide_eq_true shown).2
  have tilde : '~'.toNat = 126 := rfl
  omega

theorem keyChar_digit {c : Char} (digit : c.isDigit = true) : keyChar c = true := by
  rw [Char.isDigit, Bool.and_eq_true, decide_eq_true_eq, decide_eq_true_eq] at digit
  have within : '0' ≤ c ∧ c ≤ '9' := digit
  rw [keyChar, asciiAlphanumeric, decide_eq_true within, Bool.or_true, Bool.true_or]

/-- The key of a child is short, and of the characters a key may have. -/
theorem childIdempotencyKey_safe {n : Int} {stepId : String} (positive : 0 < n)
    (safe : n ≤ 9007199254740991) (named : WorkflowFacade.safeName 64 stepId = true) :
    childIdempotencyKey n stepId ≠ "" ∧ utf16Length (childIdempotencyKey n stepId) ≤ 128 ∧
      (childIdempotencyKey n stepId).toList.all keyChar = true := by
  rw [WorkflowFacade.safeName, Bool.and_eq_true, decide_eq_true_eq] at named
  obtain ⟨⟨_, short⟩, chars⟩ := named
  have list : (childIdempotencyKey n stepId).toList =
      "wf-".toList ++ (toString n).toList ++ "-".toList ++ stepId.toList := by
    rw [childIdempotencyKey]
    simp only [String.toList_append]
  have digits : (toString n).toList.all keyChar = true := by
    rw [toList_toString_pos positive, List.all_eq_true]
    exact fun c mem => keyChar_digit (Nat.isDigit_of_mem_toDigits (by decide) (by decide) mem)
  have few : (toString n).toList.length ≤ 16 := by
    rw [toList_toString_pos positive]
    exact (Nat.length_toDigits_le_iff (by decide) (by decide)).mpr (by omega)
  have all : (childIdempotencyKey n stepId).toList.all keyChar = true := by
    rw [list, List.all_append, List.all_append, List.all_append, digits, Bool.and_true]
    exact chars
  refine ⟨?_, ?_, all⟩
  · intro empty
    rw [empty] at list
    exact absurd (congrArg List.length list) (by simp)
  · have plain : (childIdempotencyKey n stepId).toList.countP
        (fun c => decide (65536 ≤ c.toNat)) = 0 := by
      rw [List.countP_eq_zero]
      intro c mem large
      exact keyChar_small (List.all_eq_true.mp all c mem) (of_decide_eq_true large)
    have size := congrArg List.length list
    simp only [List.length_append] at size
    have start : "wf-".toList.length = 3 := rfl
    have dash : "-".toList.length = 1 := rfl
    rw [utf16Length, plain]
    omega

/-! ### Worlds -/

/-- What all executions and clients of a deployment share: the two runtimes, the gateway's
configuration, the payloads of workflow tasks and the projections of completed tasks. -/
structure Deployment where
  worker : Platform
  web : WebRuntime
  config : GatewayConfig
  payloadOf : Int → String
  projections : Int → Fields

/-- A submission with the token it is sent under. -/
structure Post where
  bearerToken : String
  submission : Submission

def Post.key (post : Post) : String := post.submission.idempotencyKey

def Post.request (post : Post) : Request where
  method := "POST"
  pathname := "/v1/tasks"
  header name :=
    if name = "authorization" then some ("Bearer " ++ post.bearerToken)
    else if name = "content-type" then some "application/json"
    else if name = "content-length" then some (toString post.submission.body.utf8ByteSize)
    else if name = "idempotency-key" then some post.submission.idempotencyKey
    else none
  body := post.submission.body

/-- An execution, and the post whose answer it awaits. -/
structure Execution where
  workflow : Workflow
  machine : Machine
  awaited : Option Post := none

structure World where
  gateway : FacadeState
  executions : Nat → Option Execution := fun _ => none
  sent : List Post := []
  replies : List (Post × Response) := []

def posted (e : Execution) : Event → Option Post
  | .submitted _ submission => some ⟨e.workflow.config.bearerToken, submission⟩
  | .clock _ | .polled _ _ _ | .resolving | .answered _ _ => none

def Execution.after (e : Execution) (event : Event) (machine : Machine) : Execution :=
  { e with machine, awaited := (posted e event).or e.awaited }

/-- The reply has the status of the response, and its body's text. -/
def Carries (platform : Platform) (reply : Reply) (response : Response) : Prop :=
  reply.status = response.status ∧ platform.parse reply.text = response.body

/-- A submission is answered by the gateway, or by a failure of the call. -/
def Answerable (platform : Platform) (world : World) (e : Execution) : Event → Prop
  | .answered _ (.ok reply) => ∃ post response, e.awaited = some post ∧
      (post, response) ∈ world.replies ∧ Carries platform reply response
  | .answered _ (.error _) | .clock _ | .polled _ _ _ | .resolving | .submitted _ _ => True

/-- The task that was recorded for a key meanwhile. -/
def newTask (before after : Db) (key : String) : Option Int :=
  match before.idempotency.find? key with
  | some _ => none
  | none => (after.idempotency.find? key).map IdempotencyRow.taskId

section Worlds
variable (d : Deployment)

/-- The key of a step's child, in some workflow. -/
def ChildKey (key : String) : Prop :=
  ∃ workflowTaskId definition step, 0 < workflowTaskId ∧
    parseWorkflowDefinition d.worker.toRuntime (d.payloadOf workflowTaskId) = .ok definition ∧
    step ∈ definition.steps ∧ key = childIdempotencyKey workflowTaskId step.id

/-- A request that uses no such key. -/
def Foreign (request : Request) : Prop :=
  ∀ key, parseIdempotencyKey request = .ok key → ¬ ChildKey d key

/-- What happens in a world. A delivery shows the task that was created, if one was. -/
inductive Happening
  | begun (i : Nat)
  | acted (i : Nat) (event : Event)
  | delivered (post : Post) (response : Response) (created : Option Int)
  | requested (request : Request) (response : Response)
  | queue (op : QueueRuns.Op)

/-- The records of these keys are the same. -/
def SameRecords (db db' : Db) : Prop :=
  ∀ key, ChildKey d key → db'.idempotency.find? key = db.idempotency.find? key

/-- A step of a world. The clients' requests are of an allowed kind, and whatever else the
queue does, the records of children are not pruned. -/
inductive WorldStep (allowed : Request → Prop) : World → Happening → World → Prop
  | begun {world : World} {i : Nat} {workflowTaskId : Int} {rawConfig : WorkflowGatewayConfig}
      {workflow : Workflow} {machine : Machine} (free : world.executions i = none)
      (started : executeWorkflow d.worker workflowTaskId (d.payloadOf workflowTaskId) rawConfig =
        .ok (workflow, machine)) :
      WorldStep allowed world (.begun i)
        { world with executions :=
            Function.update world.executions i (some { workflow, machine }) }
  | acted {world : World} {i : Nat} {e : Execution} {event : Event} {machine : Machine}
      (running : world.executions i = some e)
      (step : Step d.worker e.workflow (fun shown => shown = d.projections) e.machine event machine)
      (answerable : Answerable d.worker world e event) :
      WorldStep allowed world (.acted i event)
        { world with
            executions := Function.update world.executions i (some (e.after event machine))
            sent := (posted e event).toList ++ world.sent }
  | delivered {world : World} {post : Post} (mem : post ∈ world.sent) (conditions : Conditions)
      {answer : Response × FacadeState} (handled : answer =
        handleRequest d.web TASK_REGISTRY d.config post.request conditions world.gateway) :
      WorldStep allowed world
        (.delivered post answer.1 (newTask world.gateway.db answer.2.db post.key))
        { world with gateway := answer.2, replies := (post, answer.1) :: world.replies }
  | requested {world : World} {request : Request} (fits : allowed request)
      (conditions : Conditions) {answer : Response × FacadeState} (handled : answer =
        handleRequest d.web TASK_REGISTRY d.config request conditions world.gateway) :
      WorldStep allowed world (.requested request answer.1) { world with gateway := answer.2 }
  | queue {world : World} {op : QueueRuns.Op}
      (keeps : SameRecords d world.gateway.db (QueueRuns.step op world.gateway.db)) :
      WorldStep allowed world (.queue op)
        { world with gateway.db := QueueRuns.step op world.gateway.db }

/-- Nothing was submitted for a workflow yet. -/
structure Initial (world : World) : Prop where
  executions : world.executions = fun _ => none
  sent : world.sent = []
  replies : world.replies = []
  records : ∀ key, ChildKey d key → world.gateway.db.idempotency.find? key = none

end Worlds

/-! ### One execution -/

section Execution
variable (platform : Platform) (w : Workflow) (projections : Int → Fields)

/-- A payload is resolved from the start of its resolution on. -/
def Resolves (m : Machine) : Prop :=
  ∀ current sources call s rest, m.await = .payload current sources call s rest →
    ∃ first, start platform ⟨w.config.resultOrigin, w.config.requestTimeoutMs⟩ sources
        current.payload = .ok first ∧ Steps sources projections first (call, s)

/-- What a round leaves as it is, up to its next `await`. -/
structure Settles (runtime : RuntimeMap) (m : Machine) : Prop where
  runtime : m.runtime = runtime
  resolves : Resolves platform w projections m
  unsent : ∀ current rest, m.await ≠ .submission current rest

variable {platform w projections}

/-- A wait for neither a payload nor a submission. -/
theorem Settles.idle {runtime : RuntimeMap} {await : Await}
    (unresolved : ∀ current sources call s rest, await ≠ .payload current sources call s rest)
    (unsent : ∀ current rest, await ≠ .submission current rest) :
    Settles platform w projections runtime ⟨runtime, await⟩ :=
  ⟨rfl, fun current sources call s rest same => absurd same (unresolved current sources call s rest),
    unsent⟩

theorem Settles.thrown (runtime : RuntimeMap) (fault : ExecutionFault) :
    Settles platform w projections runtime ⟨runtime, .thrown fault⟩ := by
  refine .idle ?_ ?_
  · rintro _ _ _ _ _ ⟨⟩
  · rintro _ _ ⟨⟩

theorem conclude_settles (runtime : RuntimeMap) :
    Settles platform w projections runtime (conclude w runtime) := by
  unfold conclude
  split
  · split
    · exact .thrown runtime _
    · refine .idle ?_ ?_
      · rintro _ _ _ _ _ ⟨⟩
      · rintro _ _ ⟨⟩
  · refine .idle ?_ ?_
    · rintro _ _ _ _ _ ⟨⟩
    · rintro _ _ ⟨⟩

theorem submitFrom_settles (runtime : RuntimeMap) (rest : List WorkflowStep) :
    Settles platform w projections runtime (submitFrom platform w runtime rest) := by
  induction rest with
  | nil => exact conclude_settles runtime
  | cons current rest ih =>
    unfold submitFrom
    split
    · split
      · exact ih
      split
      · exact .thrown runtime _
      · rename_i sources call s resolving
        refine ⟨rfl, ?_, ?_⟩
        · rintro _ _ _ _ _ ⟨⟩
          unfold resolveStepPayload at resolving
          split at resolving
          · cases resolving
          split at resolving
          · cases resolving
          · rename_i started
            cases resolving
            exact ⟨_, started, .refl⟩
        · rintro _ _ ⟨⟩
    · exact ih
    · exact ih

theorem pollFrom_settles (runtime : RuntimeMap) (rest : List WorkflowStep) :
    Settles platform w projections runtime (pollFrom platform w runtime rest) := by
  induction rest with
  | nil => exact submitFrom_settles runtime w.steps
  | cons current rest ih =>
    unfold pollFrom
    split
    · split
      · exact ih
      · refine .idle ?_ ?_
        · rintro _ _ _ _ _ ⟨⟩
        · rintro _ _ ⟨⟩
    · exact ih
    · exact ih

theorem beginRound_settles (runtime : RuntimeMap) (elapsedMs : ℚ) :
    Settles platform w projections runtime (beginRound platform w runtime elapsedMs) := by
  unfold beginRound
  split
  · exact .thrown runtime _
  · exact pollFrom_settles runtime w.steps

theorem afterPoll_settles (runtime : RuntimeMap) (current : WorkflowStep) (taskId : Int)
    (rest : List WorkflowStep) (answer : Answer) :
    ∃ runtime', Settles platform w projections runtime'
        (afterPoll platform w runtime current taskId rest answer) ∧
      (runtime' = runtime ∨
        ∃ status, runtime' = setEntry runtime current.id (some taskId) status) := by
  unfold afterPoll
  split
  · exact ⟨runtime, .thrown runtime _, Or.inl rfl⟩
  dsimp only
  split
  · exact ⟨_, .thrown _ _, Or.inr ⟨_, rfl⟩⟩
  · exact ⟨_, pollFrom_settles _ rest, Or.inr ⟨_, rfl⟩⟩

theorem afterSubmission_settles (runtime : RuntimeMap) (current : WorkflowStep)
    (rest : List WorkflowStep) (answer : Answer) :
    ∃ runtime', Settles platform w projections runtime'
        (afterSubmission platform w runtime current rest answer) ∧
      (runtime' = runtime ∨ ∃ taskId replayed,
        enqueueChild platform current answer = .ok (taskId, replayed) ∧
        runtime' = setEntry runtime current.id (some taskId) .pending) := by
  unfold afterSubmission
  split
  · exact ⟨runtime, .thrown runtime _, Or.inl rfl⟩
  · rename_i taskId replayed taken
    exact ⟨_, submitFrom_settles _ rest, Or.inr ⟨taskId, replayed, taken, rfl⟩⟩

/-- A step keeps to the resolutions that were started, and a submission is awaited only
after it was made. -/
theorem step_resolves {m m' : Machine} {event : Event}
    (step : Step platform w (fun shown => shown = projections) m event m')
    (resolves : Resolves platform w projections m) : Resolves platform w projections m' := by
  cases step with
  | clock runtime elapsedMs => exact (beginRound_settles runtime elapsedMs).resolves
  | polled runtime current taskId rest answer =>
    obtain ⟨_, settles, _⟩ := @afterPoll_settles platform w projections runtime current taskId rest
      answer
    exact settles.resolves
  | resolving shown step =>
    subst shown
    rintro _ _ _ _ _ ⟨⟩
    obtain ⟨first, started, steps⟩ := resolves _ _ _ _ _ rfl
    exact ⟨first, started, steps.tail step⟩
  | rejected _ => exact (Settles.thrown _ _).resolves
  | oversized _ _ => exact (Settles.thrown _ _).resolves
  | submitted _ _ => rintro _ _ _ _ _ ⟨⟩
  | answered runtime current rest answer =>
    obtain ⟨_, settles, _⟩ := @afterSubmission_settles platform w projections runtime current rest
      answer
    exact settles.resolves

theorem run_resolves {history : List Event} {m : Machine}
    (run : Run platform w (fun shown => shown = projections) history m) :
    Resolves platform w projections m := by
  refine run.invariant (R := fun _ m => Resolves platform w projections m) ?_ ?_
  · rintro _ _ _ _ _ ⟨⟩
  · exact fun _ _ _ _ resolves step => step_resolves step resolves

end Execution

/-! ### Where things come from -/

section Sound
variable (d : Deployment)

/-- The workflow is that of a task of the deployment. -/
structure Started (w : Workflow) : Prop where
  positive : 0 < w.taskId
  parsed : ∃ definition, parseWorkflowDefinition d.worker.toRuntime (d.payloadOf w.taskId) =
    .ok definition ∧ w.steps = definition.steps

/-- The tasks an execution knows are those recorded for their steps. -/
structure ExecutionSound (db : Db) (e : Execution) : Prop where
  started : Started d e.workflow
  ran : ∃ history, Run d.worker e.workflow (fun shown => shown = d.projections) history e.machine
  recorded : ∀ entry ∈ e.machine.runtime, ∀ taskId, entry.taskId = some taskId →
    Recorded db (childIdempotencyKey e.workflow.taskId entry.step.id) taskId
  awaited : ∀ current rest, e.machine.await = .submission current rest → ∃ post,
    e.awaited = some post ∧ post.key = childIdempotencyKey e.workflow.taskId current.id

/-- A post is the submission of a step, made of the recorded tasks of its ancestors. -/
structure Origin (db : Db) (post : Post) (workflowTaskId : Int) (definition : Definition)
    (step : WorkflowStep) (sources : List (String × Int)) (value : Json) : Prop where
  positive : 0 < workflowTaskId
  parsed : parseWorkflowDefinition d.worker.toRuntime (d.payloadOf workflowTaskId) = .ok definition
  mem : step ∈ definition.steps
  names : sources.map Prod.fst = ancestorsOf step.id definition.steps
  recorded : ∀ source ∈ sources,
    Recorded db (childIdempotencyKey workflowTaskId source.1) source.2
  rebuilt : rebuild sources d.projections step.payload = some value
  submission : post.submission = childSubmission d.worker workflowTaskId step value

def Originates (db : Db) (post : Post) : Prop :=
  ∃ workflowTaskId definition step sources value,
    Origin d db post workflowTaskId definition step sources value

/-- A row of a world is that of a task created by the delivery of a post. -/
def CreatedBy (history : List Happening) (sent : List Post) (key : String)
    (row : IdempotencyRow) : Prop :=
  ∃ post r response, post ∈ sent ∧ post.key = key ∧
    admissible d.web TASK_REGISTRY d.config post.request = .ok r ∧
    row.requestFingerprint = r.requestFingerprint ∧
    Happening.delivered post response (some row.taskId) ∈ history

/-- What the history of a world says of its state. -/
structure WorldSound (history : List Happening) (world : World) : Prop where
  executions : ∀ i e, world.executions i = some e → ExecutionSound d world.gateway.db e
  posts : ∀ post ∈ world.sent, Originates d world.gateway.db post
  submitted : ∀ i stepId submission, Happening.acted i (.submitted stepId submission) ∈ history →
    ∃ e, world.executions i = some e ∧
      submission.idempotencyKey = childIdempotencyKey e.workflow.taskId stepId ∧
      ∃ post ∈ world.sent, post.submission = submission
  created : ∀ post response taskId, Happening.delivered post response (some taskId) ∈ history →
    post ∈ world.sent ∧ Recorded world.gateway.db post.key taskId
  records : ∀ key row, ChildKey d key → world.gateway.db.idempotency.find? key = some row →
    CreatedBy d history world.sent key row
  replies : ∀ post response, (post, response) ∈ world.replies → post ∈ world.sent ∧
    ∀ taskId replayed, Accepts response taskId replayed →
      Recorded world.gateway.db post.key taskId

variable {d}

theorem Started.childKey {w : Workflow} (started : Started d w) {step : WorkflowStep}
    (mem : step ∈ w.steps) : ChildKey d (childIdempotencyKey w.taskId step.id) := by
  obtain ⟨definition, parsed, same⟩ := started.parsed
  exact ⟨w.taskId, definition, step, started.positive, parsed, same ▸ mem, rfl⟩

theorem started_of_execute {workflowTaskId : Int} {rawConfig : WorkflowGatewayConfig}
    {w : Workflow} {machine : Machine} (h : executeWorkflow d.worker workflowTaskId
      (d.payloadOf workflowTaskId) rawConfig = .ok (w, machine)) :
    Started d w ∧ machine = ⟨initialRuntime w.steps, .round⟩ := by
  unfold executeWorkflow at h
  obtain ⟨positive, h⟩ := guard_ok h
  split at h
  · cases h
  rename_i definition parsed
  split at h
  · cases h
  · cases h
    exact ⟨⟨by dsimp only; omega, definition, parsed, rfl⟩, rfl⟩

theorem Started.accepted {w : Workflow} (started : Started d w) : Accepted w.steps := by
  obtain ⟨definition, parsed, same⟩ := started.parsed
  rw [same]
  exact accepted_of_parsed parsed

section Origins
variable {db db' : Db} {post post' : Post} {workflowTaskId : Int} {definition : Definition}
variable {step : WorkflowStep} {sources : List (String × Int)} {value : Json}

theorem Origin.key (origin : Origin d db post workflowTaskId definition step sources value) :
    post.key = childIdempotencyKey workflowTaskId step.id := by
  rw [Post.key, origin.submission]
  rfl

theorem Origin.childKey (origin : Origin d db post workflowTaskId definition step sources value) :
    ChildKey d post.key :=
  ⟨workflowTaskId, definition, step, origin.positive, origin.parsed, origin.mem, origin.key⟩

theorem Originates.childKey (originates : Originates d db post) : ChildKey d post.key := by
  obtain ⟨_, _, _, _, _, origin⟩ := originates
  exact origin.childKey

/-- The records of children are kept. -/
def Extends (d : Deployment) (db db' : Db) : Prop :=
  ∀ key row, ChildKey d key → db.idempotency.find? key = some row →
    db'.idempotency.find? key = some row

theorem SameRecords.extends (same : SameRecords d db db') : Extends d db db' := by
  intro key row child found
  rw [same key child, found]

theorem Extends.recorded (kept : Extends d db db') {key : String} (child : ChildKey d key)
    {taskId : Int} (recorded : Recorded db key taskId) : Recorded db' key taskId := by
  obtain ⟨row, found, same⟩ := recorded
  exact ⟨row, kept key row child found, same⟩

theorem Origin.source_key
    (origin : Origin d db post workflowTaskId definition step sources value)
    {source : String × Int} (mem : source ∈ sources) :
    ChildKey d (childIdempotencyKey workflowTaskId source.1) := by
  have wellFormed := (accepted_of_parsed origin.parsed).wellFormed
  have ancestor : source.1 ∈ ancestorsOf step.id definition.steps := by
    rw [← origin.names]
    exact List.mem_map_of_mem mem
  rw [mem_ancestorsOf_iff wellFormed.unique wellFormed.known] at ancestor
  obtain ⟨_, _, other, inside, _, own⟩ := Relation.TransGen.tail'_iff.mp ancestor
  obtain ⟨step', inside', same⟩ := List.mem_map.mp (wellFormed.known other inside source.1 own)
  exact ⟨workflowTaskId, definition, step', origin.positive, origin.parsed, inside',
    by rw [same]⟩

theorem Originates.later (originates : Originates d db post) (kept : Extends d db db') :
    Originates d db' post := by
  obtain ⟨workflowTaskId, definition, step, sources, value, origin⟩ := originates
  refine ⟨workflowTaskId, definition, step, sources, value, { origin with recorded := ?_ }⟩
  exact fun source mem => kept.recorded (origin.source_key mem) (origin.recorded source mem)

theorem ExecutionSound.later {e : Execution} (sound : ExecutionSound d db e)
    (kept : Extends d db db') : ExecutionSound d db' e := by
  refine { sound with recorded := fun entry mem taskId has => ?_ }
  obtain ⟨history, run⟩ := sound.ran
  have inside := (inv_run sound.started.accepted run).sound.step_mem mem
  exact kept.recorded (sound.started.childKey inside) (sound.recorded entry mem taskId has)

/-- Lists of sources with the same names and recorded tasks are the same. -/
theorem sources_unique {sources' : List (String × Int)}
    (recorded : ∀ source ∈ sources, Recorded db (childIdempotencyKey workflowTaskId source.1) source.2)
    (recorded' : ∀ source ∈ sources',
      Recorded db (childIdempotencyKey workflowTaskId source.1) source.2)
    (names : sources.map Prod.fst = sources'.map Prod.fst) : sources = sources' := by
  induction sources generalizing sources' with
  | nil => exact (List.map_eq_nil_iff.mp names.symm).symm
  | cons source rest ih =>
    cases sources' with
    | nil => cases names
    | cons source' rest' =>
      rw [List.map_cons, List.map_cons, List.cons.injEq] at names
      obtain ⟨first, later⟩ := List.forall_mem_cons.mp recorded
      obtain ⟨first', later'⟩ := List.forall_mem_cons.mp recorded'
      rw [names.1] at first
      rw [ih later later' names.2, Prod.ext names.1 (first.unique first')]

/-- Two posts under one key are one submission. -/
theorem submission_unique (originates : Originates d db post) (originates' : Originates d db post')
    (same : post.key = post'.key) : post.submission = post'.submission := by
  obtain ⟨n, definition, step, sources, value, origin⟩ := originates
  obtain ⟨m, definition', step', sources', value', origin'⟩ := originates'
  rw [origin.key, origin'.key] at same
  obtain ⟨rfl, id⟩ := childIdempotencyKey_inj origin.positive origin'.positive same
  have definitions := origin.parsed.symm.trans origin'.parsed
  cases definitions
  have unique := (accepted_of_parsed origin.parsed).wellFormed.unique
  cases List.inj_on_of_nodup_map unique origin.mem origin'.mem id
  cases sources_unique origin.recorded origin'.recorded (origin.names.trans origin'.names.symm)
  cases origin.rebuilt.symm.trans origin'.rebuilt
  rw [origin.submission, origin'.submission]

end Origins

end Sound

end WorkflowWorlds
