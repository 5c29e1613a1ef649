import TaskQueQue.EscapedTexts
import TaskQueQue.McpAgreement
import TaskQueQue.PresentableResults
import TaskQueQue.TerminalStates

/-!
# Results as the gateway presents them

The daemon keeps the text of a result with the task that was completed with it, and answers
a query with a document it puts together around this text. The gateway reads the document,
then the text in it, and holds both to bounds of its own. A presentable result passes all
of them, for as long as the task is kept.
-/

namespace PresentedResults

open QueueValues QueueTables TaskLife GatewayValues TaskFacade
open DeclaredOutputs PresentableResults EscapedTexts SerializedResults
open JsonText (NumberFormat NormalFields Precedes)
open CanonicalJson (KeepsJson)
open FormattedJson (Written written_number written_object)
open WorkerApi (numberMember textMember textMember_written)
open WorkflowFacade (safeName publicStep validateOutputs publicProjection publicResult)
open WorkflowExecution (CompletedStep)

/-- A platform that reads the texts of others like its own. -/
structure ReadsJson (web : WebRuntime) (format : NumberFormat) : Prop extends
    KeepsJson web format where
  reads : ∀ text value, JsonText.read format text.toList = some value →
    JsonText.Normal format value → web.parse text = some value

/-- What is presented of a result. -/
def publicJson (result : WorkflowResultWithOutputs) : Json :=
  .obj [("schema_version", .num 1), ("workflow_id", .num result.workflowTaskId),
    ("status", .str "COMPLETED"), ("steps", .arr (result.steps.map stepJson)),
    ("outputs", .obj result.outputs)]

/-! ### Numbers -/

theorem integer?_intCast (n : Int) : Json.integer? (some (.num (n : ℚ))) = some n := by
  rw [Json.integer?, if_pos (Rat.den_intCast n), Rat.num_intCast]

theorem safeInteger?_intCast {n : Int} (small : n.natAbs ≤ 9007199254740991) :
    Json.safeInteger? (some (.num (n : ℚ))) = some n := by
  rw [Json.safeInteger?, integer?_intCast]
  exact Option.filter_eq_some_iff.mpr ⟨rfl, decide_eq_true small⟩

theorem i64_of_safe {n : Int} (bounds : 0 < n ∧ n ≤ 9007199254740991) :
    i64Min ≤ n ∧ n ≤ i64Max := by
  rw [i64Min, i64Max]
  omega

theorem positiveId_toString {n : Int} (bounds : 0 < n ∧ n ≤ 9007199254740991) :
    LocalApi.positiveId (toString n) = some n := by
  obtain ⟨lower, upper⟩ := i64_of_safe bounds
  rw [LocalApi.positiveId, LocalApi.parseI64_toString lower upper]
  exact Option.filter_eq_some_iff.mpr ⟨rfl, decide_eq_true bounds.1⟩

theorem toList_toString {n : Int} (positive : 0 < n) :
    (toString n).toList = Nat.toDigits 10 n.toNat := by
  obtain ⟨m, rfl⟩ := Int.eq_ofNat_of_zero_le positive.le
  exact Nat.toList_repr

theorem numberOf_toString {n : Int} (positive : 0 < n) :
    WorkflowFacade.numberOf (toString n) = some n := by
  rw [WorkflowFacade.numberOf, toList_toString positive, LocalApi.decimal?_toDigits]
  exact congrArg some (Int.toNat_of_nonneg positive.le)

theorem digitChar_digit : ∀ n : Fin 10, '0' ≤ Nat.digitChar n ∧ Nat.digitChar n ≤ '9' := by
  decide

theorem digitChar_positive :
    ∀ n : Fin 10, n ≠ 0 → '1' ≤ Nat.digitChar n ∧ Nat.digitChar n ≤ '9' := by
  decide

theorem digits_of_positive {m : Nat} (positive : 0 < m) : ∃ first rest,
    Nat.toDigits 10 m = first :: rest ∧ ('1' ≤ first ∧ first ≤ '9') ∧
      ∀ c ∈ rest, '0' ≤ c ∧ c ≤ '9' := by
  induction m using Nat.strongRecOn with
  | ind m ih =>
    by_cases small : m < 10
    · rw [Nat.toDigits_of_lt_base small]
      refine ⟨_, [], rfl, digitChar_positive ⟨m, small⟩ fun zero => ?_, List.forall_mem_nil _⟩
      exact absurd (congrArg Fin.val zero) (Nat.ne_of_gt positive)
    · have large : 10 ≤ m := Nat.not_lt.mp small
      obtain ⟨first, rest, digits, leading, later⟩ :=
        ih (m / 10) (Nat.div_lt_self positive (by decide)) (Nat.div_pos large (by decide))
      refine ⟨first, rest ++ [Nat.digitChar (m % 10)], ?_, leading, ?_⟩
      · rw [Nat.toDigits_of_base_le (by decide) large, digits, List.cons_append]
      · refine List.forall_mem_append.mpr ⟨later, List.forall_mem_singleton.mpr ?_⟩
        exact digitChar_digit ⟨m % 10, Nat.mod_lt m (by decide)⟩

theorem positiveDigits_toString {n : Int} (positive : 0 < n) :
    positiveDigits (toString n) = true := by
  obtain ⟨first, rest, digits, leading, later⟩ := digits_of_positive (m := n.toNat) (by omega)
  rw [positiveDigits, toList_toString positive, digits]
  dsimp only
  rw [decide_eq_true leading, Bool.true_and, List.all_eq_true]
  exact fun c mem => decide_eq_true (later c mem)

/-! ### The document -/

section Documents
variable {format : NumberFormat}

theorem numberMember_held (key : String) {n : Int} (small : n.natAbs ≤ JsonText.MAX_SAFE_INTEGER) :
    Written format (numberMember key n).text (numberMember key n).value := by
  obtain ⟨held, text⟩ := format.integer n small
  have written := written_number held
  rw [text] at written
  exact written

theorem integer_normal {n : Int} (small : n.natAbs ≤ JsonText.MAX_SAFE_INTEGER) :
    JsonText.Normal format (.num n) := by
  rw [JsonText.Normal]
  exact (format.integer n small).1

/-- What the gateway reads of the daemon's answer. -/
def wrapperJson (stored : ResultProjection.TaskResultProjection) : Json :=
  .obj [("task_id", .num stored.taskId), ("result_json", .str stored.resultJson),
    ("result_bytes", .num stored.resultBytes)]

theorem wrapper_read {stored : ResultProjection.TaskResultProjection}
    (id : stored.taskId.natAbs ≤ JsonText.MAX_SAFE_INTEGER)
    (bytes : stored.resultBytes.natAbs ≤ JsonText.MAX_SAFE_INTEGER) :
    JsonText.read format (LocalApi.resultProjectionJson stored).toList =
      some (wrapperJson stored) := by
  rw [WorkerApi.resultProjectionJson_object]
  refine (written_object (List.cons_ne_nil _ _) ?_).read
  intro field mem
  simp only [List.mem_cons, List.not_mem_nil, or_false] at mem
  rcases mem with rfl | rfl | rfl
  · exact numberMember_held _ id
  · exact textMember_written _ _
  · exact numberMember_held _ bytes

theorem wrapper_normal {stored : ResultProjection.TaskResultProjection}
    (id : stored.taskId.natAbs ≤ JsonText.MAX_SAFE_INTEGER)
    (bytes : stored.resultBytes.natAbs ≤ JsonText.MAX_SAFE_INTEGER) :
    JsonText.Normal format (wrapperJson stored) := by
  have keys : ["task_id", "result_json", "result_bytes"].Pairwise Precedes := by decide
  rw [wrapperJson, JsonText.Normal]
  exact ⟨keys, integer_normal id, trivial, integer_normal bytes, trivial⟩

theorem size_le_length (text : List Char) : byteSize text ≤ 4 * text.length := by
  induction text with
  | nil => exact Nat.zero_le _
  | cons c text ih =>
    have one : byteSize [c] ≤ 4 := by
      rw [byteSize, ← String.singleton_eq_ofList, String.utf8ByteSize_singleton]
      exact Char.utf8Size_le_four c
    rw [← List.singleton_append, byteSize_append, List.length_append, List.length_singleton]
    omega

theorem size_toString {n : Int} (lower : i64Min ≤ n) (upper : n ≤ i64Max) :
    (toString n).utf8ByteSize ≤ 80 := by
  have long := AdmissionLanguage.length_toString lower upper
  have size := size_le_length (toString n).toList
  rw [byteSize, String.ofList_toList, String.length_toList] at size
  omega

/-- The document stays below the bound the gateway holds it to. -/
theorem wrapper_size {value : Json} (normal : JsonText.Normal format value)
    {stored : ResultProjection.TaskResultProjection}
    (text : stored.resultJson = String.ofList (JsonText.render format value))
    (small : stored.resultJson.utf8ByteSize ≤ 256 * 1024)
    (id : i64Min ≤ stored.taskId ∧ stored.taskId ≤ i64Max)
    (bytes : i64Min ≤ stored.resultBytes ∧ stored.resultBytes ≤ i64Max) :
    ¬ MAX_PUBLIC_REQUEST_BYTES < (LocalApi.resultProjectionJson stored).utf8ByteSize := by
  have escaped := escaped_size normal
  rw [← text] at escaped
  have first := size_toString id.1 id.2
  have last := size_toString bytes.1 bytes.2
  have opening : "\x7b\"task_id\":".utf8ByteSize ≤ 20 := by decide
  have middle : ",\"result_json\":\"".utf8ByteSize ≤ 20 := by decide
  have size : "\",\"result_bytes\":".utf8ByteSize ≤ 20 := by decide
  have closing : "\x7d".utf8ByteSize ≤ 20 := by decide
  rw [LocalApi.resultProjectionJson, MAX_PUBLIC_REQUEST_BYTES]
  simp only [String.utf8ByteSize_append]
  omega

end Documents

/-! ### The projection -/

section Projections
variable {worker web : WebRuntime} {format : NumberFormat} {result : WorkflowResultWithOutputs}

theorem publicStep_stepJson {step : CompletedStep} (presentable : PresentableStep step) :
    publicStep (stepJson step) = some (stepJson step) := by
  obtain ⟨id, type, task⟩ := presentable
  have taskId : (stepJson step).field "task_id" = some (.num step.taskId) := rfl
  have named : (stepJson step).field "id" = some (.str step.id) := rfl
  have kind : (stepJson step).field "type" = some (.str step.type) := rfl
  have status : (stepJson step).field "status" = some (.str "COMPLETED") := rfl
  have keys : CapabilityAuth.exactKeys (stepJson step) ["id", "type", "task_id", "status"] =
      true := by
    have shown : (stepJson step).keys = some ["id", "type", "task_id", "status"] := rfl
    rw [CapabilityAuth.exactKeys, shown]
    decide
  rw [publicStep, named, kind, taskId, status, safeInteger?_intCast (by omega)]
  refine if_pos ?_
  rw [keys, id, type, decide_eq_true task.1]
  rfl

theorem mapM_publicStep {steps : List CompletedStep}
    (each : ∀ step ∈ steps, PresentableStep step) :
    (steps.map stepJson).mapM publicStep = some (steps.map stepJson) := by
  induction steps with
  | nil => rfl
  | cons step rest ih =>
    obtain ⟨first, later⟩ := List.forall_mem_cons.mp each
    rw [List.map_cons, List.mapM_cons, publicStep_stepJson first, ih later]
    rfl

theorem validateOutputs_kept (keeps : KeepsJson worker format) (reads : ReadsJson web format)
    (presentable : Presentable worker format result) :
    validateOutputs web (some (.obj result.outputs)) = some (.obj result.outputs) := by
  have names : (result.outputs.all fun entry => safeName 64 entry.1 &&
      !WorkflowFacade.FORBIDDEN_OUTPUT_NAMES.contains entry.1) = true := by
    rw [List.all_eq_true]
    intro entry mem
    obtain ⟨safe, plain⟩ := presentable.names entry mem
    rw [safe, Bool.true_and, Bool.not_eq_true', ← Bool.not_eq_true, List.contains_iff_mem]
    exact plain
  have size := presentable.outputsSize
  rw [keeps.stringify _ presentable.held, ← reads.stringify _ presentable.held] at size
  exact if_pos ⟨presentable.few, names, size⟩

/-- What the gateway makes of a document with a presentable result. -/
theorem publicProjection_presentable (keeps : KeepsJson worker format)
    (reads : ReadsJson web format) (presentable : Presentable worker format result)
    {stored : ResultProjection.TaskResultProjection}
    (id : stored.taskId = result.workflowTaskId)
    (text : stored.resultJson = worker.stringify (resultJson result))
    (bytes : stored.resultBytes = stored.resultJson.utf8ByteSize) :
    publicProjection web result.workflowTaskId (wrapperJson stored) = some (publicJson result) := by
  have normal := resultJson_normal presentable
  have size := presentable.size
  have back : web.parse stored.resultJson = some (resultJson result) := by
    rw [text, keeps.stringify _ normal, ← reads.stringify _ normal]
    exact reads.back _ normal
  rw [← text, ResultReferences.MAX_RESOLVED_STEP_PAYLOAD_BYTES] at size
  have taskId : Json.integer? ((wrapperJson stored).field "task_id") =
      some result.workflowTaskId := by
    rw [← id]
    exact integer?_intCast _
  have content : (wrapperJson stored).field "result_json" = some (.str stored.resultJson) := rfl
  have length : Json.safeInteger? ((wrapperJson stored).field "result_bytes") =
      some (stored.resultJson.utf8ByteSize : Int) := by
    rw [← bytes]
    exact safeInteger?_intCast (by omega)
  have outputs : (resultJson result).field "outputs" = some (.obj result.outputs) := rfl
  have status : (resultJson result).field "status" = some (.str "COMPLETED") := rfl
  have steps : (resultJson result).field "steps" = some (.arr (result.steps.map stepJson)) := rfl
  have version : Json.integer? ((resultJson result).field "schema_version") = some 1 := rfl
  have task : Json.integer? ((resultJson result).field "workflow_task_id") =
      some result.workflowTaskId := integer?_intCast _
  have keys : CapabilityAuth.exactKeys (resultJson result) (WorkflowFacade.projectionKeys true) =
      true := by
    have shown : (resultJson result).keys =
        some ["schema_version", "workflow_task_id", "status", "steps", "outputs"] := rfl
    rw [CapabilityAuth.exactKeys, shown]
    decide
  have filled : (result.steps.map stepJson).isEmpty = false := by
    rw [List.isEmpty_eq_false_iff]
    exact fun empty => presentable.filled.1 (List.map_eq_nil_iff.mp empty)
  have few : ¬ WorkflowFacade.MAX_WORKFLOW_STEPS < (result.steps.map stepJson).length := by
    rw [List.length_map]
    exact Nat.not_lt.mpr presentable.filled.2
  have bounded : ¬(result.workflowTaskId ≠ result.workflowTaskId ∨
      (stored.resultJson.utf8ByteSize : Int) < 0 ∨
      WorkflowFacade.MAX_WORKFLOW_RESULT_BYTES < (stored.resultJson.utf8ByteSize : Int) ∨
      (stored.resultJson.utf8ByteSize : Int) ≠ stored.resultJson.utf8ByteSize) := by
    rw [WorkflowFacade.MAX_WORKFLOW_RESULT_BYTES]
    omega
  rw [publicProjection, taskId, content, length]
  dsimp only
  rw [if_neg bounded, back]
  dsimp only
  rw [outputs, status, steps, Option.isSome_some]
  refine (if_neg ?_).trans ?_
  · rw [keys, version, task, filled, decide_eq_false few]
    simp
  · rw [mapM_publicStep presentable.steps, if_pos rfl,
      validateOutputs_kept keeps reads presentable]
    rfl

/-- The gateway's answer to the daemon's document, once the task is known to be completed. -/
theorem publicResult_presentable (keeps : KeepsJson worker format) (reads : ReadsJson web format)
    (presentable : Presentable worker format result)
    {stored : ResultProjection.TaskResultProjection}
    (id : stored.taskId = result.workflowTaskId)
    (text : stored.resultJson = worker.stringify (resultJson result))
    (bytes : stored.resultBytes = stored.resultJson.utf8ByteSize) :
    publicResult web result.workflowTaskId (200, LocalApi.resultProjectionJson stored) =
      ⟨200, some (publicJson result)⟩ := by
  have normal := resultJson_normal presentable
  have size := presentable.size
  rw [← text, ResultReferences.MAX_RESOLVED_STEP_PAYLOAD_BYTES] at size
  have bounds := presentable.id
  have idSmall : stored.taskId.natAbs ≤ JsonText.MAX_SAFE_INTEGER := by
    rw [JsonText.MAX_SAFE_INTEGER]
    omega
  have bytesSmall : stored.resultBytes.natAbs ≤ JsonText.MAX_SAFE_INTEGER := by
    rw [JsonText.MAX_SAFE_INTEGER]
    omega
  have small : ¬ MAX_PUBLIC_REQUEST_BYTES <
      (LocalApi.resultProjectionJson stored).utf8ByteSize := by
    refine wrapper_size normal (text.trans (keeps.stringify _ normal)) size ?_ ?_
    · rw [id]
      exact i64_of_safe bounds
    · rw [i64Min, i64Max]
      omega
  have read : web.parse (LocalApi.resultProjectionJson stored) = some (wrapperJson stored) :=
    reads.reads _ _ (wrapper_read idSmall bytesSmall) (wrapper_normal idSmall bytesSmall)
  have present : ¬(200 : Nat) = 404 := by decide
  have answered : ¬(200 : Nat) ≠ 200 := not_not.mpr rfl
  rw [publicResult, if_neg present, if_neg answered, if_neg small, read]
  dsimp only
  rw [publicProjection_presentable keeps reads presentable id text bytes]

end Projections

/-! ### The task -/

/-- A request for the result of a workflow that the gateway lets through, while the daemon
can be reached. -/
structure AsksFor (config : CapabilityAuth.GatewayConfig) (request : Request)
    (conditions : Conditions) (workflowId : Int) : Prop where
  method : request.method = "GET"
  path : request.pathname = "/v1/workflows/" ++ toString workflowId ++ "/result"
  authorized : isAuthorized request config = true
  delivered : ∀ call, conditions.delivery call = .answered

/-- The task is a workflow's. -/
structure RunsWorkflow (t : Task) : Prop where
  name : t.taskName = "workflow.run"
  type : t.taskType = "workflow"

/-- A completed workflow with the text of its result. -/
structure Kept (v : TaskView) (workflowId : Int) (text : String) (t : Task) (r : ResultRow) :
    Prop where
  task : v.task = some t
  id : t.id = workflowId
  completed : t.status = "COMPLETED"
  workflow : RunsWorkflow t
  result : v.result = some r
  decoded : ResultProjection.decode r = .ok ⟨workflowId, text, text.utf8ByteSize⟩

section Answers
variable {web : WebRuntime} {registry : TaskRegistry} {config : CapabilityAuth.GatewayConfig}
variable {request : Request} {conditions : Conditions} {s : FacadeState} {workflowId : Int}

/-- The task route is none of the fixed ones. -/
theorem task_path_apart {id path : String} (short : path.toList.length ≤ 9) :
    "/v1/tasks/" ++ id ≠ path := by
  rintro rfl
  rw [String.toList_append, List.length_append] at short
  have long : "/v1/tasks/".toList.length = 10 := rfl
  omega

theorem handleRequest_task {task : Request} {id : String} (method : task.method = "GET")
    (path : task.pathname = "/v1/tasks/" ++ id) (segment : McpAgreement.Segment id) :
    (handleRequest web registry config task conditions s).1 =
      handleGetTask config task id conditions s := by
  have here : segmentBetween "/v1/tasks/" "" ("/v1/tasks/" ++ id ++ "") = some id :=
    McpAgreement.segmentBetween_of segment.filled segment.whole
  rw [String.append_empty] at here
  rw [handleRequest, path, if_neg (task_path_apart (by decide)),
    if_neg (task_path_apart (by decide)), if_neg (task_path_apart (by decide)), here]
  dsimp only
  rw [if_pos method]

theorem routeGetTask_found {db : Db} {t : Task}
    (bounds : 0 < workflowId ∧ workflowId ≤ 9007199254740991)
    (found : db.tasks.find? workflowId = some t) :
    LocalApi.routeGetTask (toString workflowId) db = ⟨200, some (LocalApi.snapshotJson db t)⟩ := by
  simp only [LocalApi.routeGetTask, positiveId_toString bounds, found]

theorem routeGetTask_absent {db : Db} (bounds : 0 < workflowId ∧ workflowId ≤ 9007199254740991)
    (absent : db.tasks.find? workflowId = none) :
    LocalApi.routeGetTask (toString workflowId) db = .error 404 "task not found" := by
  simp only [LocalApi.routeGetTask, positiveId_toString bounds, absent]

theorem routeGetTaskResult_found {db : Db} {stored : ResultProjection.TaskResultProjection}
    (bounds : 0 < workflowId ∧ workflowId ≤ 9007199254740991)
    (found : ResultProjection.get db workflowId = .ok (some stored)) :
    LocalApi.routeGetTaskResult (toString workflowId) db =
      (200, LocalApi.resultProjectionJson stored) := by
  simp only [LocalApi.routeGetTaskResult, positiveId_toString bounds, found]

/-- The public snapshot of a task. -/
def snapshot (db : Db) (t : Task) : Json :=
  .obj (SNAPSHOT_KEYS.map fun key => (key, ((LocalApi.snapshotJson db t).field key).getD .null))

theorem handleGetTask_found {task : Request} {t : Task}
    (bounds : 0 < workflowId ∧ workflowId ≤ 9007199254740991)
    (authorized : isAuthorized task config = true) (delivered : conditions.delivery 0 = .answered)
    (found : s.db.tasks.find? workflowId = some t) (id : t.id = workflowId) :
    handleGetTask config task (toString workflowId) conditions s =
      ⟨200, some (snapshot s.db t)⟩ := by
  have named : Json.integer? ((LocalApi.snapshotJson s.db t).field "id") = some t.id :=
    integer?_intCast _
  have real : ¬ t.id ≤ 0 := by omega
  rw [handleGetTask, authorized, positiveDigits_toString bounds.1, delivered, fetchWithTimeout]
  dsimp only
  rw [routeGetTask_found bounds found]
  dsimp only
  rw [publicTaskSnapshot, named]
  dsimp only
  rw [if_neg real]
  rfl

theorem handleGetTask_absent {task : Request}
    (bounds : 0 < workflowId ∧ workflowId ≤ 9007199254740991)
    (authorized : isAuthorized task config = true) (delivered : conditions.delivery 0 = .answered)
    (absent : s.db.tasks.find? workflowId = none) :
    handleGetTask config task (toString workflowId) conditions s =
      .coded 404 "task_not_found" "task not found" := by
  rw [handleGetTask, authorized, positiveDigits_toString bounds.1, delivered, fetchWithTimeout]
  dsimp only
  rw [routeGetTask_absent bounds absent]
  rfl

/-- The gateway asks its own task facade first, with the authorization it was sent. -/
theorem delegated_found {t : Task} (bounds : 0 < workflowId ∧ workflowId ≤ 9007199254740991)
    (asks : AsksFor config request conditions workflowId)
    (found : s.db.tasks.find? workflowId = some t) (id : t.id = workflowId) :
    (handleRequest web registry config (WorkflowFacade.taskFacadeRequest request
      ("/v1/tasks/" ++ toString workflowId) "GET" "") conditions s).1 =
      ⟨200, some (snapshot s.db t)⟩ := by
  rw [handleRequest_task rfl rfl (McpAgreement.segment_toString workflowId)]
  exact handleGetTask_found bounds asks.authorized (asks.delivered 0) found id

theorem delegated_absent (bounds : 0 < workflowId ∧ workflowId ≤ 9007199254740991)
    (asks : AsksFor config request conditions workflowId)
    (absent : s.db.tasks.find? workflowId = none) :
    (handleRequest web registry config (WorkflowFacade.taskFacadeRequest request
      ("/v1/tasks/" ++ toString workflowId) "GET" "") conditions s).1 =
      .coded 404 "task_not_found" "task not found" := by
  rw [handleRequest_task rfl rfl (McpAgreement.segment_toString workflowId)]
  exact handleGetTask_absent bounds asks.authorized (asks.delivered 0) absent

theorem asked_result (asks : AsksFor config request conditions workflowId) :
    WorkflowFacade.handleDeclaredWorkflowResultRequest web registry config request conditions s =
      some (WorkflowFacade.handleResult web registry config request (toString workflowId)
        conditions s) := by
  have segment := McpAgreement.segment_toString workflowId
  rw [WorkflowFacade.handleDeclaredWorkflowResultRequest, asks.path,
    McpAgreement.segmentBetween_of segment.filled segment.whole, Option.map_some,
    if_pos asks.method]

theorem get_kept {db : Db} {text : String} {t : Task} {r : ResultRow}
    (kept : Kept (view db workflowId) workflowId text t r) :
    ResultProjection.get db workflowId = .ok (some ⟨workflowId, text, text.utf8ByteSize⟩) := by
  have task : db.tasks.find? workflowId = some t := kept.task
  have result : db.results.find? workflowId = some r := kept.result
  rw [ResultProjection.get, result, task]
  dsimp only
  rw [if_pos kept.completed, kept.decoded]
  rfl

theorem handleResult_kept {text : String} {t : Task} {r : ResultRow}
    (bounds : 0 < workflowId ∧ workflowId ≤ 9007199254740991)
    (asks : AsksFor config request conditions workflowId)
    (kept : Kept (view s.db workflowId) workflowId text t r) :
    WorkflowFacade.handleResult web registry config request (toString workflowId) conditions s =
      publicResult web workflowId
        (200, LocalApi.resultProjectionJson ⟨workflowId, text, text.utf8ByteSize⟩) := by
  have name : (snapshot s.db t).field "task_name" = some (.str "workflow.run") :=
    congrArg (fun name : String => some (Json.str name)) kept.workflow.name
  have type : (snapshot s.db t).field "task_type" = some (.str "workflow") :=
    congrArg (fun type : String => some (Json.str type)) kept.workflow.type
  have status : (snapshot s.db t).field "status" = some (.str "COMPLETED") :=
    congrArg (fun status : String => some (Json.str status)) kept.completed
  have id : Json.integer? ((snapshot s.db t).field "id") = some workflowId := by
    rw [← kept.id]
    exact integer?_intCast _
  rw [WorkflowFacade.handleResult, positiveDigits_toString bounds.1, numberOf_toString bounds.1]
  dsimp only
  rw [delegated_found bounds asks kept.task kept.id]
  dsimp only
  rw [name, type, id, status, asks.delivered 1, routeGetTaskResult_found bounds (get_kept kept)]
  have own : ¬ workflowId ≠ workflowId := not_not.mpr rfl
  exact if_neg own

theorem handleResult_absent (bounds : 0 < workflowId ∧ workflowId ≤ 9007199254740991)
    (asks : AsksFor config request conditions workflowId)
    (absent : view s.db workflowId = .absent) :
    WorkflowFacade.handleResult web registry config request (toString workflowId) conditions s =
      .coded 404 "workflow_not_found" "workflow not found" := by
  have gone : s.db.tasks.find? workflowId = none := congrArg TaskView.task absent
  rw [WorkflowFacade.handleResult, positiveDigits_toString bounds.1, numberOf_toString bounds.1]
  dsimp only
  rw [delegated_absent bounds asks gone]
  rfl

end Answers

/-! ### The database -/

section Databases
variable {worker web : WebRuntime} {format : NumberFormat}
variable {newUrl : String → Option ResultReferences.OriginUrl}
variable {gateway : WorkflowExecution.WorkflowGatewayConfig} {registry : TaskRegistry}
variable {config : CapabilityAuth.GatewayConfig} {request : Request} {conditions : Conditions}
variable {s : FacadeState} {workflowTaskId generation : Int} {workerId text : String}
variable {now : Seconds} {db : Db} {result : WorkflowResultWithOutputs}

theorem kept_of_completed {start : Db}
    (completed : QueueRuns.exec
      (.completeWithProjection now workflowTaskId workerId generation text) start =
        (.mutation .applied, db))
    (workflow : ∀ t, (view start workflowTaskId).task = some t → RunsWorkflow t) :
    ∃ t r, Kept (view db workflowTaskId) workflowTaskId text t r := by
  rw [QueueRuns.exec] at completed
  rcases QueueRuns.answer_cases QueueRuns.Reply.mutation (ResultProjection.completeWithProjection
      now workflowTaskId workerId generation text) start with
    ⟨mutation, db', done, same⟩ | ⟨_, _, same⟩
  · rw [same] at completed
    cases completed
    rcases ResultProjection.completeWithProjection_cases done with
      ⟨stale, _⟩ | ⟨_, _, _, t, holds, stored, _⟩
    · cases stale
    · have own : t.id = workflowTaskId := id_of_view holds.row
      obtain ⟨name, type⟩ := workflow t holds.row
      exact ⟨_, _, congrArg TaskView.task stored, own, rfl, ⟨name, type⟩,
        congrArg TaskView.result stored, rfl⟩
  · rw [same] at completed
    cases completed

theorem answer_of_kept {t : Task} {r : ResultRow} (keeps : KeepsJson worker format)
    (reads : ReadsJson web format) (presentable : Presentable worker format result)
    (asks : AsksFor config request conditions result.workflowTaskId)
    (kept : Kept (view s.db result.workflowTaskId) result.workflowTaskId
      (worker.stringify (resultJson result)) t r) :
    WorkflowFacade.handleDeclaredWorkflowResultRequest web registry config request conditions s =
      some ⟨200, some (publicJson result)⟩ := by
  rw [asked_result asks, handleResult_kept presentable.id asks kept,
    publicResult_presentable keeps reads presentable rfl rfl rfl]

/-- The result of a workflow that was executed can be stored and is what the gateway answers
with until the task is pruned. -/
theorem workflow_results_presented (keeps : KeepsJson worker format) (reads : ReadsJson web format)
    {rawPayload : String} {history : List WorkflowExecution.Event}
    (executes : Executes (AcceptedOutputs.platformOf worker newUrl) (Stored worker) workflowTaskId
      rawPayload gateway history (.ok result))
    {before later : List QueueRuns.Op}
    (completed : QueueRuns.exec (.completeWithProjection now workflowTaskId workerId generation
      (worker.stringify (resultJson result))) (QueueRuns.run before) = (.mutation .applied, db))
    (workflow : ∀ t, (view (QueueRuns.run before) workflowTaskId).task = some t → RunsWorkflow t)
    (asks : AsksFor config request conditions workflowTaskId)
    (reached : s.db = Histories.run QueueRuns.step db later) :
    serializeResultProjection worker (some (resultJson result)) =
      .ok (some (worker.stringify (resultJson result))) ∧
    (WorkflowFacade.handleDeclaredWorkflowResultRequest web registry config request conditions s =
        some ⟨200, some (publicJson result)⟩ ∨
      (WorkflowFacade.handleDeclaredWorkflowResultRequest web registry config request conditions s =
        some (.coded 404 "workflow_not_found" "workflow not found") ∧
          ∃ n, .pruneToMax n ∈ later)) ∧
    ∃ declared references projections,
      Explains worker rawPayload result declared references projections := by
  obtain ⟨presentable, rfl, explained⟩ := presentable_of_executes keeps executes
  refine ⟨serialized_of_presentable keeps presentable, ?_, explained⟩
  obtain ⟨t, r, kept⟩ := kept_of_completed completed workflow
  have fresh : Fresh db := by
    have stepped := QueueRuns.step_fresh (.completeWithProjection now result.workflowTaskId workerId
      generation (worker.stringify (resultJson result))) _ (QueueRuns.run_fresh before)
    rwa [QueueRuns.step, completed] at stepped
  have terminal : Retention.terminalTask t = true := by
    rw [Retention.terminalTask, Task.statusIn, kept.completed]
    decide
  rcases TerminalStates.run_of_terminal fresh kept.task terminal later with same | ⟨gone, pruned⟩
  · rw [← reached] at same
    exact Or.inl (answer_of_kept keeps reads presentable asks (same ▸ kept))
  · rw [← reached] at gone
    refine Or.inr ⟨?_, pruned⟩
    rw [asked_result asks, handleResult_absent presentable.id asks gone]

end Databases

/-! ### A workflow with an output -/

section Samples
open WorkflowExecution AcceptedOutputs
open ResultReferences (Platform Fields)
open RequestFingerprints (orderedWeb orderedWeb_keeps)
open WorkflowRuns (firstStep joinConfig createdReply completedReply)

theorem orderedWeb_reads : ReadsJson orderedWeb JsonText.integers where
  toKeepsJson := orderedWeb_keeps
  reads _ value read normal :=
    Option.filter_eq_some_iff.mpr
      ⟨read, @decide_eq_true _ (RequestFingerprints.decidableNormal value) normal⟩

def samplePlatform : Platform := platformOf orderedWeb sampleUrl

def sampleHistory : List Event := [
  .clock 0,
  .submitted "a" (childSubmission samplePlatform 7 firstStep .null),
  .answered "a" (.ok ⟨202, orderedWeb.stringify (createdReply 41)⟩),
  .clock 1000,
  .polled "a" 41 (.ok ⟨200, orderedWeb.stringify (completedReply 41)⟩)]

def sampleBase : WorkflowResult := ⟨7, [⟨"a", "t", 41⟩]⟩

def sampleProjections (_ : Int) : Fields := [("v", .str "abc")]

def sampleResult : WorkflowResultWithOutputs := { sampleBase with outputs := [("x", .str "abc")] }

theorem sample_created : enqueueChild samplePlatform firstStep
    (.ok ⟨202, orderedWeb.stringify (createdReply 41)⟩) = .ok (41, false) := by
  have keys : ["task_id", "status", "replayed"].Pairwise Precedes := by decide
  have normal : JsonText.Normal JsonText.integers (createdReply 41) :=
    ⟨keys, rfl, trivial, trivial, trivial⟩
  have read : samplePlatform.parse (orderedWeb.stringify (createdReply 41)) =
      some (createdReply 41) := orderedWeb_keeps.back _ normal
  rw [enqueueChild, gatewayJson]
  dsimp only
  rw [read]
  rfl

theorem sample_completed : getChild samplePlatform 41 "t"
    (.ok ⟨200, orderedWeb.stringify (completedReply 41)⟩) = .ok .completed := by
  have keys : ["id", "task_name", "status"].Pairwise Precedes := by decide
  have normal : JsonText.Normal JsonText.integers (completedReply 41) :=
    ⟨keys, rfl, trivial, trivial, trivial⟩
  have read : samplePlatform.parse (orderedWeb.stringify (completedReply 41)) =
      some (completedReply 41) := orderedWeb_keeps.back _ normal
  rw [getChild, gatewayJson]
  dsimp only
  rw [read]
  rfl

theorem sample_run : LabelledRuns.Runs (Step samplePlatform sampleWorkflow (Stored orderedWeb))
    ⟨initialRuntime [firstStep], .round⟩ sampleHistory
    ⟨sampleRuntime (some 41) .completed, .returned sampleBase⟩ := by
  have answered : Step samplePlatform sampleWorkflow (Stored orderedWeb)
      ⟨sampleRuntime none .waiting, .submission firstStep []⟩ (.answered "a" _) _ :=
    Step.answered _ firstStep [] (.ok ⟨202, orderedWeb.stringify (createdReply 41)⟩)
  rw [afterSubmission, sample_created] at answered
  have polled : Step samplePlatform sampleWorkflow (Stored orderedWeb)
      ⟨sampleRuntime (some 41) .pending, .child firstStep 41 []⟩ (.polled "a" 41 _) _ :=
    Step.polled _ firstStep 41 [] (.ok ⟨200, orderedWeb.stringify (completedReply 41)⟩)
  rw [afterPoll, show firstStep.type = "t" from rfl, sample_completed] at polled
  have waiting := ((sample_submitted (Stored orderedWeb)).step answered).step (Step.clock _ 1000)
  exact waiting.step polled

theorem sample_stored : Stored orderedWeb sampleProjections := by
  have normal : JsonText.Normal JsonText.integers (.obj [("v", .str "abc")]) :=
    ⟨List.pairwise_singleton _ _, trivial, trivial⟩
  exact fun _ => ⟨_, orderedWeb_keeps.back _ normal⟩

theorem sample_resolved : Resolves samplePlatform (outputConfig joinConfig)
    (completedStepTaskIds sampleBase) sampleProjections sampleDeclared.outputs
      (.ok sampleResult.outputs) := by
  have first : ResultReferences.Step [("a", 41)] sampleProjections
      (.assigning [] "x" (.fetching 41 "v") [] 1) ⟨[], 1, [41]⟩
      (.assigning [] "x" (.settled (.str "abc")) [] 1) ⟨[(41, sampleProjections 41)], 1, [41]⟩ :=
    .entry (.answered 41 "v" ⟨[], 1, [41]⟩)
  have second : ResultReferences.Step [("a", 41)] sampleProjections
      (.assigning [] "x" (.settled (.str "abc")) [] 1) ⟨[(41, sampleProjections 41)], 1, [41]⟩
      (.settled (.obj sampleResult.outputs)) ⟨[(41, sampleProjections 41)], 1, [41]⟩ :=
    .assigned rfl
  have small : ¬ ResultReferences.MAX_RESOLVED_STEP_PAYLOAD_BYTES <
      (samplePlatform.stringify (.obj sampleResult.outputs)).utf8ByteSize := by
    decide +kernel
  have bounded : ¬ MAX_WORKFLOW_OUTPUT_BYTES <
      (samplePlatform.stringify (.obj sampleResult.outputs)).utf8ByteSize := by
    decide +kernel
  have resolved : resolvedOutputs samplePlatform (.obj sampleResult.outputs) =
      .ok sampleResult.outputs := by
    rw [resolvedOutputs, ResultReferences.finish, if_neg small]
    exact if_neg bounded
  have fulfilled := @Resolves.fulfilled samplePlatform (outputConfig joinConfig) [("a", 41)]
    sampleProjections sampleDeclared.outputs _ _ _ (List.cons_ne_nil _ _) rfl
    ((ResultReferences.Steps.of_step first).trans (ResultReferences.Steps.of_step second)) rfl
  rwa [resolved] at fulfilled

theorem sample_executes : Executes samplePlatform (Stored orderedWeb) 7
    (orderedWeb.stringify rawWorkflow) joinConfig sampleHistory (.ok sampleResult) := by
  have executing : Executing samplePlatform (Stored orderedWeb) 7
      (orderedWeb.stringify rawWorkflow) joinConfig sampleDeclared sampleWorkflow sampleHistory _ :=
    ⟨sample_parsed, _, sample_started, sample_run⟩
  have small : ¬ ResultReferences.MAX_RESOLVED_STEP_PAYLOAD_BYTES <
      (samplePlatform.stringify (resultJson sampleResult)).utf8ByteSize := by
    decide +kernel
  have outputs : withOutputs samplePlatform sampleBase sampleResult.outputs = .ok sampleResult := by
    rw [withOutputs]
    exact if_neg small
  rw [← outputs]
  exact .resolved executing rfl sample_stored sample_resolved

/-- The seventh task is the workflow's. -/
def sampleOps : List QueueRuns.Op :=
  List.replicate 6 (.enqueue 0 "t" "cpu" "" 0 3) ++
    [.enqueue 0 "workflow.run" "workflow" "" 9 3,
      .dispatchBatch 1 [⟨"w", "workflow", 1, 1⟩] (.finite 10) fun _ _ => .finite 1,
      .claimTask 2 "w"]

def sampleStore : QueueRuns.Op :=
  .completeWithProjection 3 7 "w" 1 (orderedWeb.stringify (resultJson sampleResult))

def sampleStored : QueueRuns.Reply × Db := QueueRuns.exec sampleStore (QueueRuns.run sampleOps)

def askingFor : Request where
  method := "GET"
  pathname := "/v1/workflows/7/result"
  header := fun _ => none

def openGateway : CapabilityAuth.GatewayConfig := { apiToken := none, allowUnauthenticated := true }

def sampleState : FacadeState := ⟨sampleStored.2, ⟨1, 1, 1, 0⟩⟩

theorem workflow_results_presented_sample :
    WorkflowFacade.handleDeclaredWorkflowResultRequest orderedWeb TASK_REGISTRY openGateway
      askingFor { } sampleState = some ⟨200, some (publicJson sampleResult)⟩ := by
  have applied : sampleStored.1 = .mutation .applied := by decide +kernel
  have completed : QueueRuns.exec sampleStore (QueueRuns.run sampleOps) =
      (.mutation .applied, sampleStored.2) := by
    rw [← applied, sampleStored]
  have named : ((view (QueueRuns.run sampleOps) 7).task.all fun t =>
      decide (t.taskName = "workflow.run" ∧ t.taskType = "workflow")) = true := by
    decide +kernel
  have workflow : ∀ t, (view (QueueRuns.run sampleOps) 7).task = some t → RunsWorkflow t := by
    intro t row
    rw [row, Option.all_some, decide_eq_true_eq] at named
    exact ⟨named.1, named.2⟩
  have asks : AsksFor openGateway askingFor { } 7 := ⟨rfl, by decide, rfl, fun _ => rfl⟩
  have reached : sampleState.db = Histories.run QueueRuns.step sampleStored.2 [] := by
    rw [sampleState, Histories.run_nil]
  rw [sampleStore] at completed
  obtain ⟨_, answered | ⟨_, _, pruned⟩, _⟩ := workflow_results_presented orderedWeb_keeps
    orderedWeb_reads sample_executes completed workflow asks reached
  · exact answered
  · cases pruned

end Samples

end PresentedResults
