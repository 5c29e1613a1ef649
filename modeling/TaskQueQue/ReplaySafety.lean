import TaskQueQue.WorkflowReplay

/-!
# Children of workflows under their keys

Executions of one workflow task agree on the children of its steps, in whatever order they
submit them and however often they start over. This holds as long as the keys of the
children are theirs alone. Nothing keeps them so: a public client may choose any key.
-/

namespace ReplaySafety

open QueueTables QueueRuns GatewayValues TaskFacade LocalApi KeyedSubmissions Idempotency
open WorkflowDefinition WorkflowExecution WorkflowRuns AcceptedDefinitions
open WorkflowWorlds WorkflowReplay
open LabelledRuns

section Posts
variable {d : Deployment} {post post' : Post}

/-- What the gateway asks the daemon for does not depend on the token. -/
theorem admissible_same {r r' : EnqueueRequest} (same : post.submission = post'.submission)
    (admitted : admissible d.web TASK_REGISTRY d.config post.request = .ok r)
    (admitted' : admissible d.web TASK_REGISTRY d.config post'.request = .ok r') : r = r' := by
  obtain ⟨token, submission⟩ := post
  obtain ⟨token', submission'⟩ := post'
  cases same
  have keys : parseIdempotencyKey (Post.request ⟨token', submission⟩) =
      parseIdempotencyKey (Post.request ⟨token, submission⟩) := rfl
  have bodies : parsePublicTaskRequest d.web (Post.request ⟨token', submission⟩) =
      parsePublicTaskRequest d.web (Post.request ⟨token, submission⟩) := rfl
  unfold admissible at admitted admitted'
  rw [keys, bodies] at admitted'
  split at admitted
  · cases admitted
  split at admitted'
  · cases admitted'
  rw [admitted] at admitted'
  cases admitted'
  rfl

/-- The gateway accepts the key of every child. -/
theorem parseIdempotencyKey_child {n : Int} {stepId : String} (positive : 0 < n)
    (safe : n ≤ 9007199254740991) (named : WorkflowFacade.safeName 64 stepId = true)
    (key : post.key = childIdempotencyKey n stepId) :
    parseIdempotencyKey post.request = .ok (childIdempotencyKey n stepId) := by
  obtain ⟨nonempty, short, chars⟩ := childIdempotencyKey_safe positive safe named
  have header : post.request.header "idempotency-key" = some (childIdempotencyKey n stepId) := by
    rw [← key]
    rfl
  have good : ((childIdempotencyKey n stepId).toList.all fun c =>
      asciiAlphanumeric c || "._:-".toList.contains c) = true := chars
  rw [parseIdempotencyKey, header, Option.filter_some, if_pos (decide_eq_true nonempty)]
  dsimp only
  rw [if_neg]
  rw [good, Bool.not_true]
  rintro (long | wrong)
  · omega
  · cases wrong

end Posts

/-! ### Deliveries in a sound world -/

section Deliveries
variable {d : Deployment} {history : List Happening} {world : World} {post : Post}

/-- The recorded fingerprint is that of any post under the key. -/
theorem fingerprint_recorded (sound : WorldSound d history world) (mem : post ∈ world.sent)
    {r : EnqueueRequest} (admitted : admissible d.web TASK_REGISTRY d.config post.request = .ok r)
    {row : IdempotencyRow} (found : world.gateway.db.idempotency.find? post.key = some row) :
    row.requestFingerprint = r.requestFingerprint := by
  have origin := sound.posts post mem
  obtain ⟨post', r', _, mem', same, admitted', fingerprint, _⟩ :=
    sound.records post.key row origin.childKey found
  have submissions := submission_unique (sound.posts post' mem') origin same
  rw [fingerprint, admissible_same submissions admitted' admitted]

/-- A submission whose task was created is a replay for the queue. -/
theorem queue_replays (sound : WorldSound d history world) (mem : post ∈ world.sent)
    {taskId : Int} (recorded : Recorded world.gateway.db post.key taskId)
    {r : EnqueueRequest} (admitted : admissible d.web TASK_REGISTRY d.config post.request = .ok r)
    (open' : 0 < r.maxActiveTasks) (now : QueueValues.Seconds) :
    exec (r.op now) world.gateway.db = (.admission (.replayed taskId), world.gateway.db) := by
  obtain ⟨row, found, rfl⟩ := recorded
  have fingerprint := fingerprint_recorded sound mem admitted found
  rw [← admissible_key admitted] at found
  have replayed : enqueueBounded now r.idempotencyKey r.requestFingerprint r.taskName r.taskType
      r.body r.priority r.maxRetries r.maxActiveTasks world.gateway.db =
        .ok (.replayed row.taskId, world.gateway.db) := by
    rw [enqueueBounded, if_neg (by omega), found]
    dsimp only
    rw [if_pos fingerprint]
  rw [EnqueueRequest.op, exec, answer, executeWithRetry_ok replayed]

theorem never_conflicts (sound : WorldSound d history world) (mem : post ∈ world.sent)
    (conditions : Conditions) :
    (handleRequest d.web TASK_REGISTRY d.config post.request conditions world.gateway).1.status ≠
      409 := by
  intro conflict
  rcases @delivery_cases d post conditions world.gateway with ⟨_, _, other⟩ |
    ⟨r, admitted, named, _, answers⟩
  · exact other conflict
  · obtain ⟨row, found, differs⟩ := answers.conflict conflict
    rw [named] at found
    exact differs (fingerprint_recorded sound mem admitted found)

/-- An accepted submission is new, or answers with the recorded task. -/
theorem accepted_delivery (conditions : Conditions) {taskId : Int}
    {replayed : Bool} (accepts : Accepts (handleRequest d.web TASK_REGISTRY d.config post.request
      conditions world.gateway).1 taskId replayed) :
    if replayed then Recorded world.gateway.db post.key taskId
      else world.gateway.db.idempotency.find? post.key = none := by
  rcases @delivery_cases d post conditions world.gateway with ⟨_, refused, _⟩ |
    ⟨r, _, named, _, answers⟩
  · exact absurd accepts (not_accepts refused)
  · rw [← named]
    exact (answers.accepted taskId replayed accepts).2

/-- What comes of delivering a post whose task was created: the queue replays the task, and
an acceptance names it. -/
structure Replays (d : Deployment) (world : World) (post : Post) (taskId : Int) : Prop where
  queue : ∀ r now, admissible d.web TASK_REGISTRY d.config post.request = .ok r →
    0 < r.maxActiveTasks →
    exec (r.op now) world.gateway.db = (.admission (.replayed taskId), world.gateway.db)
  accepted : ∀ conditions other replayed, Accepts (handleRequest d.web TASK_REGISTRY d.config
      post.request conditions world.gateway).1 other replayed → other = taskId ∧ replayed = true

theorem replays_of_recorded (sound : WorldSound d history world) (mem : post ∈ world.sent)
    {taskId : Int} (recorded : Recorded world.gateway.db post.key taskId) :
    Replays d world post taskId := by
  constructor
  · exact fun r now admitted open' => queue_replays sound mem recorded admitted open' now
  · intro conditions other replayed accepts
    have told := accepted_delivery conditions accepts
    cases replayed with
    | true =>
      rw [if_pos rfl] at told
      exact ⟨told.unique recorded, rfl⟩
    | false =>
      rw [if_neg Bool.false_ne_true] at told
      obtain ⟨row, found, _⟩ := recorded
      rw [told] at found
      cases found

end Deliveries

/-! ### Executions of one task -/

section Runs
variable {d : Deployment} {first world : World} {history : List Happening}

/-- The gateway takes two submissions for one and the same request. -/
def SameRequest (d : Deployment) (submission submission' : Submission) : Prop :=
  ∀ token token' r r',
    admissible d.web TASK_REGISTRY d.config (Post.request ⟨token, submission⟩) = .ok r →
    admissible d.web TASK_REGISTRY d.config (Post.request ⟨token', submission'⟩) = .ok r' →
    r.requestFingerprint = r'.requestFingerprint

/-- Executions of one workflow task submit a step under one key and as one request. -/
theorem resubmitted (sound : WorldSound d history world) {i j : Nat} {e e' : Execution}
    (running : world.executions i = some e) (running' : world.executions j = some e')
    (task : e.workflow.taskId = e'.workflow.taskId) {stepId : String}
    {submission submission' : Submission}
    (mem : Happening.acted i (.submitted stepId submission) ∈ history)
    (mem' : Happening.acted j (.submitted stepId submission') ∈ history) :
    submission' = submission := by
  obtain ⟨_, found, key, post, sent, rfl⟩ := sound.submitted i stepId submission mem
  obtain ⟨_, found', key', post', sent', rfl⟩ := sound.submitted j stepId submission' mem'
  rw [running] at found
  rw [running'] at found'
  cases found
  cases found'
  refine submission_unique (sound.posts post' sent') (sound.posts post sent) ?_
  rw [Post.key, Post.key, key, key', task]

theorem sameRequest_refl (submission : Submission) : SameRequest d submission submission := by
  intro token token' r r' admitted admitted'
  have posts : (Post.mk token submission).submission = (Post.mk token' submission).submission := rfl
  rw [admissible_same posts admitted admitted']

theorem workflow_replay_conflict_free (d : Deployment) {first world : World}
    {history : List Happening} (initial : Initial d first)
    (run : Runs (WorldStep d (Foreign d)) first history world) :
    (∀ i j e e' stepId submission submission', world.executions i = some e →
      world.executions j = some e' → e.workflow.taskId = e'.workflow.taskId →
      Happening.acted i (.submitted stepId submission) ∈ history →
      Happening.acted j (.submitted stepId submission') ∈ history →
      submission'.idempotencyKey = submission.idempotencyKey ∧
        submission'.body = submission.body ∧ SameRequest d submission submission') ∧
    (∀ post ∈ world.sent,
      (∀ conditions, (handleRequest d.web TASK_REGISTRY d.config post.request conditions
        world.gateway).1.status ≠ 409) ∧
      ∀ post' response taskId, Happening.delivered post' response (some taskId) ∈ history →
        post'.key = post.key → Replays d world post taskId) ∧
    (∀ n m stepId stepId', 0 < n → 0 < m →
      childIdempotencyKey n stepId = childIdempotencyKey m stepId' → n = m ∧ stepId = stepId') ∧
    ∀ n definition, 0 < n → n ≤ 9007199254740991 →
      parseWorkflowDefinition d.worker.toRuntime (d.payloadOf n) = .ok definition →
      ∀ step ∈ definition.steps, ∀ post : Post, post.key = childIdempotencyKey n step.id →
        parseIdempotencyKey post.request = .ok (childIdempotencyKey n step.id) := by
  have sound := sound_run initial run
  refine ⟨?_, ?_, ?_, ?_⟩
  · intro i j e e' stepId submission submission' running running' task mem mem'
    rw [resubmitted sound running running' task mem mem']
    exact ⟨rfl, rfl, sameRequest_refl submission⟩
  · intro post mem
    refine ⟨never_conflicts sound mem, fun post' response taskId created same => ?_⟩
    have recorded := (sound.created post' response taskId created).2
    rw [same] at recorded
    exact replays_of_recorded sound mem recorded
  · exact fun n m stepId stepId' positive positive' same =>
      childIdempotencyKey_inj positive positive' same
  · intro n definition positive safe parsed step mem post key
    have named := (accepted_of_parsed parsed).parsed step mem
    exact parseIdempotencyKey_child positive safe named.id key

/-! ### Separate keys -/

/-- The children of workflows are their own: no submission of one is answered with a conflict,
each acceptance is of a task that it created or that was created by an earlier submission
under its key, and each task an execution has for a step was created so. -/
structure Separate (history : List Happening) (world : World) : Prop where
  unconflicted : ∀ post response created, Happening.delivered post response created ∈ history →
    response.status ≠ 409
  own : ∀ before post response created after,
    history = before ++ .delivered post response created :: after →
    ∀ taskId replayed, Accepts response taskId replayed → created = some taskId ∨
      ∃ post' response', Happening.delivered post' response' (some taskId) ∈ before ∧
        post'.key = post.key
  adopted : ∀ i e, world.executions i = some e → ∀ entry ∈ e.machine.runtime, ∀ taskId,
    entry.taskId = some taskId → ∃ post response,
      Happening.delivered post response (some taskId) ∈ history ∧
        post.key = childIdempotencyKey e.workflow.taskId entry.step.id

theorem accepted_own {sent : World} {before : List Happening} {post : Post}
    (sound : WorldSound d before sent) (mem : post ∈ sent.sent) (conditions : Conditions)
    {answer : Response × FacadeState} (handled : answer =
      handleRequest d.web TASK_REGISTRY d.config post.request conditions sent.gateway)
    {taskId : Int} {replayed : Bool} (accepts : Accepts answer.1 taskId replayed) :
    newTask sent.gateway.db answer.2.db post.key = some taskId ∨
      ∃ post' response', Happening.delivered post' response' (some taskId) ∈ before ∧
        post'.key = post.key := by
  rcases @delivery_cases d post conditions sent.gateway with ⟨_, refused, _⟩ |
    ⟨r, _, named, _, answers⟩
  · rw [handled] at accepts
    exact absurd accepts (not_accepts refused)
  rw [← handled] at answers
  obtain ⟨⟨row, found, same⟩, told⟩ := answers.accepted taskId replayed accepts
  rw [named] at found told
  cases replayed with
  | true =>
    rw [if_pos rfl] at told
    obtain ⟨old, held, rfl⟩ := told
    obtain ⟨post', _, response', _, key, _, _, created⟩ :=
      sound.records post.key old (sound.posts post mem).childKey held
    exact Or.inr ⟨post', response', created, key⟩
  | false =>
    rw [if_neg Bool.false_ne_true] at told
    refine Or.inl ?_
    unfold newTask
    rw [told]
    dsimp only
    rw [found, Option.map_some, same]

/-- As long as no public client uses the key of a child, workflows have their children to
themselves. -/
theorem idempotency_namespaces_separate (d : Deployment) {first world : World}
    {history : List Happening} (initial : Initial d first)
    (run : Runs (WorldStep d (Foreign d)) first history world) : Separate history world := by
  constructor
  · intro post response created mem
    obtain ⟨before, after, rfl⟩ := List.append_of_mem mem
    obtain ⟨sent, _, reached, step, _⟩ := run.split
    have sound := sound_run initial reached
    cases step with
    | delivered inside conditions handled =>
      subst handled
      exact never_conflicts sound inside conditions
  · rintro before post response created after rfl taskId replayed accepts
    obtain ⟨sent, _, reached, step, _⟩ := run.split
    have sound := sound_run initial reached
    cases step with
    | delivered inside conditions handled =>
      exact accepted_own sound inside conditions handled accepts
  · intro i e running entry mem taskId has
    have sound := sound_run initial run
    have held := sound.executions i e running
    obtain ⟨past, ran⟩ := held.ran
    have child := held.started.childKey ((inv_run held.started.accepted ran).sound.step_mem mem)
    obtain ⟨row, found, rfl⟩ := held.recorded entry mem taskId has
    obtain ⟨post, _, response, _, key, _, _, created⟩ := sound.records _ row child found
    exact ⟨post, response, created, key⟩

end Runs

/-! ### Two executions of one step -/

def bodyText : String := "\x7b\"type\":\"hash.compute\",\"payload\":null\x7d"

def definitionText : String :=
  "\x7b\"steps\":[\x7b\"id\":\"a\",\"type\":\"hash.compute\",\"payload\":null\x7d]\x7d"

def bodyJson : Json := .obj [("type", .str "hash.compute"), ("payload", .null)]

def onlyStep : WorkflowStep :=
  { id := "a", type := "hash.compute", payload := .null, dependsOn := [] }

def sampleRuntime : Runtime :=
  { Runtime.reading [(bodyText, bodyJson), (definitionText, .obj [("steps", .arr [.obj
      [("id", .str "a"), ("type", .str "hash.compute"), ("payload", .null)]])])] with
    stringify := fun
      | .obj _ => bodyText
      | _ => "null" }

def sample : Deployment where
  worker :=
    { sampleRuntime with
      newUrl := fun _ =>
        some ⟨⟨"http:", "", "", "127.0.0.1", "7331", "", "", []⟩, "/", "http://127.0.0.1:7331"⟩ }
  web :=
    { sampleRuntime with
      number := fun _ => some 38
      sha256Hex := fun _ => AdmissionLanguage.sampleDigest
      hmac := fun _ _ => []
      parseBytes := fun _ => none }
  config := AdmissionLanguage.sampleConfig
  payloadOf _ := definitionText
  projections _ := []

def sampleFirst : World := { gateway := ⟨.empty, ⟨10, 10, 10, 0⟩⟩ }

def sampleWorkflow : Workflow :=
  ⟨7, [onlyStep], ⟨"http://127.0.0.1:7331", "root-token", 2000, 1000, 60000,
    "http://127.0.0.1:7331"⟩⟩

theorem sample_started : executeWorkflow sample.worker 7 (sample.payloadOf 7) joinConfig =
    .ok (sampleWorkflow, ⟨initialRuntime [onlyStep], .round⟩) := rfl

theorem sample_initial : Initial sample sampleFirst := ⟨rfl, rfl, rfl, fun _ _ => rfl⟩

def childPost : Post := ⟨"root-token", childSubmission sample.worker 7 onlyStep .null⟩

example : childPost.submission = ⟨"wf-7-a", bodyText⟩ := rfl

/-- The answer to the child's submission, and the state after it. -/
def firstAnswer : Response × FacadeState :=
  handleRequest sample.web TASK_REGISTRY sample.config childPost.request {} sampleFirst.gateway

/-- Two executions submit the step of one task, and the first submission is delivered. -/
def overlapping : List Happening := [.begun 0, .begun 1, .acted 0 (.clock 0),
  .acted 0 (.submitted "a" childPost.submission), .acted 1 (.clock 0),
  .acted 1 (.submitted "a" childPost.submission),
  .delivered childPost firstAnswer.1
    (newTask sampleFirst.gateway.db firstAnswer.2.db childPost.key)]

theorem firstAnswer_creates :
    newTask sampleFirst.gateway.db firstAnswer.2.db childPost.key = some 1 := by
  decide +kernel

theorem overlapping_run : ∃ world,
    Runs (WorldStep sample (Foreign sample)) sampleFirst overlapping world ∧
      childPost ∈ world.sent := by
  have begun := (Runs.start.step (@WorldStep.begun sample (Foreign sample) sampleFirst 0 7
    joinConfig _ _ rfl sample_started)).step
    (@WorldStep.begun _ _ _ 1 7 joinConfig _ _ rfl sample_started)
  have first := (begun.step (@WorldStep.acted _ _ _ 0 _ _ _ rfl (Step.clock _ 0) trivial)).step
    (@WorldStep.acted _ _ _ 0 _ _ _ rfl
      (@Step.submitted _ _ _ _ onlyStep _ (.settled .null) _ _ _ _ rfl rfl) trivial)
  have second := (first.step (@WorldStep.acted _ _ _ 1 _ _ _ rfl (Step.clock _ 0) trivial)).step
    (@WorldStep.acted _ _ _ 1 _ _ _ rfl
      (@Step.submitted _ _ _ _ onlyStep _ (.settled .null) _ _ _ _ rfl rfl) trivial)
  exact ⟨_, second.step (WorldStep.delivered (List.mem_cons_self ..) {} rfl), List.mem_cons_self ..⟩

theorem workflow_replay_conflict_free_overlapping : ∃ world,
    Runs (WorldStep sample (Foreign sample)) sampleFirst overlapping world ∧
      Replays sample world childPost 1 := by
  obtain ⟨world, run, mem⟩ := overlapping_run
  have created : Happening.delivered childPost firstAnswer.1 (some 1) ∈ overlapping := by
    rw [← firstAnswer_creates]
    simp only [overlapping, List.mem_cons, true_or, or_true]
  exact ⟨world, run,
    ((workflow_replay_conflict_free sample sample_initial run).2.1 childPost mem).2 childPost
      firstAnswer.1 1 created rfl⟩

theorem idempotency_namespaces_separate_overlapping : ∃ world,
    Runs (WorldStep sample (Foreign sample)) sampleFirst overlapping world ∧
      Separate overlapping world := by
  obtain ⟨world, run, _⟩ := overlapping_run
  exact ⟨world, run, idempotency_namespaces_separate sample sample_initial run⟩

/-- A public client's request under the key of the child. -/
def squatting : Request where
  method := "POST"
  pathname := "/v1/tasks"
  header name :=
    if name = "content-type" then some "application/json"
    else if name = "idempotency-key" then some "wf-7-a"
    else none
  body := bodyText

def squatted : Response × FacadeState :=
  handleRequest sample.web TASK_REGISTRY sample.config squatting {} sampleFirst.gateway

def childAnswer : Response × FacadeState :=
  handleRequest sample.web TASK_REGISTRY sample.config childPost.request {} squatted.2

def squattedHistory : List Happening := [.begun 0, .requested squatting squatted.1,
  .acted 0 (.clock 0), .acted 0 (.submitted "a" childPost.submission),
  .delivered childPost childAnswer.1 (newTask squatted.2.db childAnswer.2.db childPost.key)]

theorem squatted_run : ∃ world,
    Runs (WorldStep sample fun _ => True) sampleFirst squattedHistory world := by
  have begun := (Runs.start.step (@WorldStep.begun sample (fun _ => True) sampleFirst 0 7
    joinConfig _ _ rfl sample_started)).step (@WorldStep.requested _ _ _ squatting trivial {} _ rfl)
  have submitted := (begun.step (@WorldStep.acted _ _ _ 0 _ _ _ rfl (Step.clock _ 0) trivial)).step
    (@WorldStep.acted _ _ _ 0 _ _ _ rfl
      (@Step.submitted _ _ _ _ onlyStep _ (.settled .null) _ _ _ _ rfl rfl) trivial)
  exact ⟨_, submitted.step (WorldStep.delivered (List.mem_cons_self ..) {} rfl)⟩

/-- The child's submission is answered with the client's task. -/
theorem childAnswer_adopts : Accepts childAnswer.1 1 true ∧
    newTask squatted.2.db childAnswer.2.db childPost.key = none := by
  have replayed : childAnswer.1.status = 202 ∧ (childAnswer.1.body.any fun body =>
      decide (Json.integer? (body.field "task_id") = some 1) &&
        (match body.field "replayed" with
        | some (.bool replayed) => replayed
        | none | some .null | some (.num _) | some (.str _) | some (.arr _) | some (.obj _) =>
          false)) = true := by
    decide +kernel
  refine ⟨⟨replayed.1, ?_⟩, by decide +kernel⟩
  obtain ⟨body, found, good⟩ := (Option.any_eq_true _ _).mp replayed.2
  rw [Bool.and_eq_true, decide_eq_true_eq] at good
  refine ⟨body, found, good.1, ?_⟩
  have flag := good.2
  split at flag
  · rename_i value shown
    rw [shown, flag]
  all_goals cases flag

theorem public_key_adopted : ¬ ∀ (d : Deployment) (first world : World)
    (history : List Happening), Initial d first →
    Runs (WorldStep d fun _ => True) first history world → Separate history world := by
  intro separate
  obtain ⟨world, run⟩ := squatted_run
  obtain ⟨accepts, created⟩ := childAnswer_adopts
  rcases (separate sample sampleFirst world squattedHistory sample_initial run).own _ _ _ _ []
    (show squattedHistory = squattedHistory.take 4 ++ [_] from rfl) 1 true accepts with
    same | ⟨post, response, mem, _⟩
  · rw [created] at same
    cases same
  · simp [squattedHistory] at mem

end ReplaySafety
