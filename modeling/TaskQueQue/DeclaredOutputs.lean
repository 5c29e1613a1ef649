import TaskQueQue.WorkflowExecution

/-!
# Declared outputs

A workflow may declare outputs: names, each with a reference to a result of one of its
steps. They are checked before the steps are executed and resolved after all of them are
completed, from the projections of the tasks that completed them. The result of the
workflow is the list of these tasks together with the values of the outputs.
-/

namespace DeclaredOutputs

open GatewayValues WorkflowDefinition ResultReferences WorkflowExecution
open WorkflowFacade (safeName)

def MAX_WORKFLOW_OUTPUTS : Nat := 32
def MAX_WORKFLOW_OUTPUT_BYTES : Nat := 128 * 1024
def FORBIDDEN_OUTPUT_NAMES : List String := ["__proto__", "prototype", "constructor"]

/-- Each output with its reference, as an object of `$from` and `path`. -/
structure DeclaredWorkflowDefinition where
  steps : Option Json
  outputs : Fields

/-! ### Declarations -/

def parseOutputReference (name : String) (raw : Json) (stepIds : List String) :
    Except WorkflowError Json :=
  match raw with
  | .obj fields =>
    match validateResultReferencePayload raw stepIds with
    | .error message => .error (.payload ("workflow output " ++ name ++ ": " ++ message))
    | .ok count =>
      match fields.lookup "$from", fields.lookup "path" with
      | some source, some path =>
        if count ≠ 1 ∨ fields.length ≠ 2 then
          .error (.payload ("workflow output " ++ name ++
            " must contain exactly one $from/path reference"))
        else .ok (.obj [("$from", source), ("path", path)])
      | _, _ =>
        .error (.payload ("workflow output " ++ name ++
          " must contain exactly one $from/path reference"))
  | _ =>
    .error (.payload ("workflow output " ++ name ++ " must be an exact result reference object"))

/-- The loop over the declared outputs, into an object without a prototype. -/
def parseOutputs (stepIds : List String) (outputs : Fields) : Fields → Except WorkflowError Fields
  | [] => .ok outputs
  | (name, reference) :: rest =>
    if !safeName 64 name ∨ FORBIDDEN_OUTPUT_NAMES.contains name then
      .error (.payload ("workflow output name " ++ name ++ " is invalid"))
    else
      match parseOutputReference name reference stepIds with
      | .error error => .error error
      | .ok reference => parseOutputs stepIds (put name reference outputs) rest

/-- The ids of the steps that have one. -/
def declaredStepIds (steps : Option Json) : List String :=
  (Json.items steps).filterMap fun step => (step.field "id").bind asString

/-- `value.outputs ?? \x7b\x7d`, if it is an object. -/
def outputsRaw (fields : Fields) : Option Fields :=
  match fields.lookup "outputs" with
  | none | some .null => some []
  | some (.obj outputs) => some outputs
  | some _ => none

def parseDeclaredWorkflow (rt : Runtime) (rawPayload : String) :
    Except WorkflowError DeclaredWorkflowDefinition :=
  match rt.parse rawPayload with
  | none => .error (.payload "workflow payload must be valid JSON")
  | some (.obj fields) =>
    match (fields.map Prod.fst).find? fun key => decide (key ≠ "steps" ∧ key ≠ "outputs") with
    | some key => .error (.payload ("unsupported workflow field: " ++ key))
    | none =>
      match outputsRaw fields with
      | none => .error (.payload "workflow.outputs must be a JSON object")
      | some entries =>
        if MAX_WORKFLOW_OUTPUTS < entries.length then
          .error (.payload ("workflow supports at most " ++ toString MAX_WORKFLOW_OUTPUTS ++
            " declared outputs"))
        else
          match parseOutputs (declaredStepIds (fields.lookup "steps")) [] entries with
          | .error error => .error error
          | .ok outputs => .ok ⟨fields.lookup "steps", outputs⟩
  | some _ => .error (.payload "workflow payload must be a JSON object")

/-! ### Resolution -/

def completedStepTaskIds (result : WorkflowResult) : List (String × Int) :=
  result.steps.map fun step => (step.id, step.taskId)

def outputConfig (config : WorkflowGatewayConfig) : ResultReferenceConfig :=
  ⟨config.resultOrigin.getD "http://127.0.0.1:7331", config.requestTimeoutMs⟩

def outputFault : ResolutionError → ExecutionFault
  | .reference message => .definition (.payload ("workflow output declaration: " ++ message))
  | .read message => .definition (.execution ("workflow output resolution: " ++ message))
  | .configuration message => .configuration message

/-- What is made of the value the declarations were resolved to. -/
def resolvedOutputs (platform : Platform) (resolved : Json) : Except ExecutionFault Fields :=
  match finish platform resolved with
  | .error error => .error (outputFault error)
  | .ok (.obj outputs) =>
    if MAX_WORKFLOW_OUTPUT_BYTES < (platform.stringify (.obj outputs)).utf8ByteSize then
      .error (.definition (.execution "resolved workflow outputs exceed 128 KiB"))
    else .ok outputs
  | .ok _ => .error (.definition (.execution "resolved workflow outputs must be a JSON object"))

/-- What `resolveDeclaredOutputs` can come to, by the order of the answers it gets. -/
inductive Resolves (platform : Platform) (config : ResultReferenceConfig)
    (sourceTaskIds : List (String × Int)) (projections : Int → Fields) (declarations : Fields) :
    Except ExecutionFault Fields → Prop
  | undeclared (empty : declarations = []) :
      Resolves platform config sourceTaskIds projections declarations (.ok [])
  | refused {error : ResolutionError} (filled : declarations ≠ [])
      (failed : start platform config sourceTaskIds (.obj declarations) = .error error) :
      Resolves platform config sourceTaskIds projections declarations (.error (outputFault error))
  | rejected {first last : Pending × Shared} {error : ResolutionError} (filled : declarations ≠ [])
      (started : start platform config sourceTaskIds (.obj declarations) = .ok first)
      (steps : Steps sourceTaskIds projections first last) (mem : error ∈ errors last.1) :
      Resolves platform config sourceTaskIds projections declarations (.error (outputFault error))
  | fulfilled {first last : Pending × Shared} {resolved : Json} (filled : declarations ≠ [])
      (started : start platform config sourceTaskIds (.obj declarations) = .ok first)
      (steps : Steps sourceTaskIds projections first last)
      (done : last.1.value? = some resolved) :
      Resolves platform config sourceTaskIds projections declarations
        (resolvedOutputs platform resolved)

/-! ### Results -/

structure WorkflowResultWithOutputs extends WorkflowResult where
  outputs : Fields

def stepJson (step : CompletedStep) : Json :=
  .obj [("id", .str step.id), ("type", .str step.type), ("task_id", .num step.taskId),
    ("status", .str "COMPLETED")]

def resultJson (result : WorkflowResultWithOutputs) : Json :=
  .obj [("schema_version", .num 1), ("workflow_task_id", .num result.workflowTaskId),
    ("status", .str "COMPLETED"), ("steps", .arr (result.steps.map stepJson)),
    ("outputs", .obj result.outputs)]

/-- The result of the completed steps with their outputs. -/
def withOutputs (platform : Platform) (base : WorkflowResult) (outputs : Fields) :
    Except ExecutionFault WorkflowResultWithOutputs :=
  let result : WorkflowResultWithOutputs := { base with outputs }
  if MAX_RESOLVED_STEP_PAYLOAD_BYTES < (platform.stringify (resultJson result)).utf8ByteSize then
    .error (.definition (.execution "workflow result projection exceeds 256 KiB"))
  else .ok result

def stepsPayload (platform : Platform) (declared : DeclaredWorkflowDefinition) : String :=
  platform.stringify (.obj (declared.steps.toList.map fun steps => ("steps", steps)))

/-- The execution of the steps of a declared workflow, up to where the history leads. -/
structure Executing (platform : Platform) (shown : (Int → Fields) → Prop) (workflowTaskId : Int)
    (rawPayload : String) (config : WorkflowGatewayConfig)
    (declared : DeclaredWorkflowDefinition) (w : Workflow) (history : List Event) (m : Machine) :
    Prop where
  parsed : parseDeclaredWorkflow platform.toRuntime rawPayload = .ok declared
  run : ∃ first, executeWorkflow platform workflowTaskId (stepsPayload platform declared) config =
    .ok (w, first) ∧ LabelledRuns.Runs (Step platform w shown) first history m

/-- How `executeWorkflowWithDeclaredOutputs` can end, with what the execution of its steps
met. The projections that are read are those the result API may show. -/
inductive Executes (platform : Platform) (shown : (Int → Fields) → Prop) (workflowTaskId : Int)
    (rawPayload : String) (config : WorkflowGatewayConfig) :
    List Event → Except ExecutionFault WorkflowResultWithOutputs → Prop
  | undeclared {error : WorkflowError}
      (refused : parseDeclaredWorkflow platform.toRuntime rawPayload = .error error) :
      Executes platform shown workflowTaskId rawPayload config [] (.error (.definition error))
  | unstarted {declared : DeclaredWorkflowDefinition} {fault : ExecutionFault}
      (parsed : parseDeclaredWorkflow platform.toRuntime rawPayload = .ok declared)
      (failed : executeWorkflow platform workflowTaskId (stepsPayload platform declared) config =
        .error fault) :
      Executes platform shown workflowTaskId rawPayload config [] (.error fault)
  | thrown {declared : DeclaredWorkflowDefinition} {w : Workflow} {history : List Event}
      {m : Machine} {fault : ExecutionFault}
      (executing : Executing platform shown workflowTaskId rawPayload config declared w history m)
      (thrown : m.await = .thrown fault) :
      Executes platform shown workflowTaskId rawPayload config history (.error fault)
  | unresolved {declared : DeclaredWorkflowDefinition} {w : Workflow} {history : List Event}
      {m : Machine} {base : WorkflowResult} {projections : Int → Fields} {fault : ExecutionFault}
      (executing : Executing platform shown workflowTaskId rawPayload config declared w history m)
      (returned : m.await = .returned base) (stored : shown projections)
      (failed : Resolves platform (outputConfig config) (completedStepTaskIds base) projections
        declared.outputs (.error fault)) :
      Executes platform shown workflowTaskId rawPayload config history (.error fault)
  | resolved {declared : DeclaredWorkflowDefinition} {w : Workflow} {history : List Event}
      {m : Machine} {base : WorkflowResult} {projections : Int → Fields} {outputs : Fields}
      (executing : Executing platform shown workflowTaskId rawPayload config declared w history m)
      (returned : m.await = .returned base) (stored : shown projections)
      (resolved : Resolves platform (outputConfig config) (completedStepTaskIds base) projections
        declared.outputs (.ok outputs)) :
      Executes platform shown workflowTaskId rawPayload config history
        (withOutputs platform base outputs)

end DeclaredOutputs
