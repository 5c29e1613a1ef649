import TaskQueQue.DepthFirstSearch
import TaskQueQue.WorkflowFacade

/-!
# Workflow definitions

The workflow worker reads a definition from the payload of its task: a list of
steps, each with the steps it depends on and a payload that may refer to results
of its ancestors. Every refusal is a payload error with its message.

The two walks over the dependencies recur to the depth of the graph. They are given
one more than the number of steps as their budget; a walk that used it up would be
`unfinished`.
-/

namespace WorkflowDefinition

open GatewayValues DepthFirstSearch
open WorkflowFacade (safeName)

def MAX_WORKFLOW_PAYLOAD_BYTES : Nat := 256 * 1024
def MAX_WORKFLOW_STEPS : Nat := 32

def MAX_WORKFLOW_RESULT_REFERENCES : Nat := 64
def MAX_RESULT_PATH_SEGMENTS : Nat := 8
def MAX_RESULT_PATH_BYTES : Nat := 256
def MAX_REFERENCE_PAYLOAD_DEPTH : Nat := 32
def FORBIDDEN_PATH_SEGMENTS : List String := ["__proto__", "prototype", "constructor"]

structure WorkflowStep where
  id : String
  type : String
  payload : Json
  dependsOn : List String
  priority : Option Int := none
  maxRetries : Option Int := none

structure Definition where
  steps : List WorkflowStep

inductive WorkflowError
  | payload (message : String)
  | execution (message : String)
  | unfinished

/-! ### Result references -/

/-- `$from` and `path`. -/
structure WorkflowResultReference where
  source : String
  path : String
deriving DecidableEq

def safePathSegment (segment : String) : Bool :=
  let chars := segment.toList
  decide (1 ≤ chars.length ∧ chars.length ≤ 64) &&
    chars.all fun c => asciiAlphanumeric c || c == '_' || c == '-'

/-- `/^(0|[1-9][0-9]{0,5})$/`. -/
def safeArrayIndex (segment : String) : Bool :=
  match segment.toList with
  | ['0'] => true
  | c :: rest => decide ('1' ≤ c ∧ c ≤ '9') && decide (rest.length ≤ 5) && rest.all Char.isDigit
  | [] => false

/-- `raw.split(".")`. -/
def splitDots (raw : String) : List String := (raw.toList.splitOn '.').map String.ofList

def badSegment (segment : String) : Bool :=
  FORBIDDEN_PATH_SEGMENTS.contains segment ||
    (!safePathSegment segment && !safeArrayIndex segment)

def parseResultPath (raw : String) : Except String (List String) :=
  if raw = "" ∨ MAX_RESULT_PATH_BYTES < raw.utf8ByteSize then
    .error "result reference path must contain 1-256 bytes"
  else if MAX_RESULT_PATH_SEGMENTS < (splitDots raw).length then
    .error ("result reference path supports at most " ++ toString MAX_RESULT_PATH_SEGMENTS ++
      " segments")
  else
    match (splitDots raw).find? badSegment with
    | some segment => .error ("invalid result reference path segment: " ++ segment)
    | none => .ok (splitDots raw)

def parseReference (record : List (String × Json)) :
    Except String (Option WorkflowResultReference) :=
  match record.lookup "$from" with
  | none => .ok none
  | some source =>
    match record.lookup "path" with
    | none => .error "result reference objects must contain exactly $from and path"
    | some path =>
      if record.length ≠ 2 then
        .error "result reference objects must contain exactly $from and path"
      else
        match source with
        | .str source =>
          if !safeName 64 source then .error "result reference $from must be a safe step id"
          else
            match path with
            | .str path =>
              match parseResultPath path with
              | .error message => .error message
              | .ok _ => .ok (some ⟨source, path⟩)
            | _ => .error "result reference path must be a string"
        | _ => .error "result reference $from must be a safe step id"

section Walk
variable {State : Type} (onReference : WorkflowResultReference → State → Except String State)

mutual

def walkReferences (depth : Nat) : Json → State → Except String State
  | value, s =>
    if MAX_REFERENCE_PAYLOAD_DEPTH < depth then
      .error ("workflow payload nesting exceeds " ++ toString MAX_REFERENCE_PAYLOAD_DEPTH)
    else
      match value with
      | .arr items => walkItems (depth + 1) items s
      | .obj fields =>
        match parseReference fields with
        | .error message => .error message
        | .ok (some reference) => onReference reference s
        | .ok none => walkFields (depth + 1) fields s
      | .null | .bool _ | .num _ | .str _ => .ok s

def walkItems (depth : Nat) : List Json → State → Except String State
  | [], s => .ok s
  | item :: items, s =>
    match walkReferences depth item s with
    | .error message => .error message
    | .ok s => walkItems depth items s

def walkFields (depth : Nat) : List (String × Json) → State → Except String State
  | [], s => .ok s
  | (_, value) :: fields, s =>
    match walkReferences depth value s with
    | .error message => .error message
    | .ok s => walkFields depth fields s

end

end Walk

/-- Each reference counts, and its source must be allowed. -/
def countReference (allowed : List String) (reference : WorkflowResultReference)
    (references : Nat) : Except String Nat :=
  if MAX_WORKFLOW_RESULT_REFERENCES < references + 1 then
    .error ("workflow supports at most " ++ toString MAX_WORKFLOW_RESULT_REFERENCES ++
      " result references per step")
  else if reference.source ∉ allowed then
    .error ("result reference source " ++ reference.source ++ " is not an ancestor dependency")
  else .ok (references + 1)

def validateResultReferencePayload (payload : Json) (allowedSourceStepIds : List String) :
    Except String Nat :=
  walkReferences (countReference allowedSourceStepIds) 0 payload 0

/-! ### Steps -/

def stepKeys : List String := ["id", "type", "payload", "depends_on", "priority", "max_retries"]

def parseDependencies (id : String) : List Json → List String → Except WorkflowError (List String)
  | [], dependsOn => .ok dependsOn
  | dependency :: rest, dependsOn =>
    match dependency with
    | .str dependency =>
      if !safeName 64 dependency then
        .error (.payload ("workflow step " ++ id ++ " has an invalid dependency id"))
      else if dependency = id then
        .error (.payload ("workflow step " ++ id ++ " cannot depend on itself"))
      else if dependency ∈ dependsOn then
        .error (.payload ("workflow step " ++ id ++ " repeats dependency " ++ dependency))
      else parseDependencies id rest (dependsOn ++ [dependency])
    | _ => .error (.payload ("workflow step " ++ id ++ " has an invalid dependency id"))

/-- `rawStep.depends_on ?? []`, if it is a list of at most as many entries as there are steps. -/
def dependsOnRaw (rawStep : Json) : Option (List Json) :=
  match rawStep.field "depends_on" with
  | none | some .null => some []
  | some (.arr items) => if MAX_WORKFLOW_STEPS < items.length then none else some items
  | some _ => none

def asString : Json → Option String
  | .str value => some value
  | _ => none

/-- An optional safe integer: absent, or one. -/
def optionalInteger (value : Option Json) : Option (Option Int) :=
  match value with
  | none => some none
  | some value => (Json.safeInteger? (some value)).map some

def parseStep (index : Nat) (rawStep : Json) (ids : List String) :
    Except WorkflowError WorkflowStep :=
  match rawStep with
  | .obj fields =>
    match (fields.map Prod.fst).find? fun key => !stepKeys.contains key with
    | some key => .error (.payload ("unsupported workflow step field: " ++ key))
    | none =>
      match (rawStep.field "id").bind asString with
      | none => .error (.payload ("workflow step " ++ toString index ++ " has an invalid id"))
      | some id =>
        if !safeName 64 id then
          .error (.payload ("workflow step " ++ toString index ++ " has an invalid id"))
        else if id ∈ ids then .error (.payload ("duplicate workflow step id: " ++ id))
        else
          match (rawStep.field "type").bind asString with
          | none => .error (.payload ("workflow step " ++ id ++ " has an invalid task type"))
          | some type =>
            if !safeName 128 type then
              .error (.payload ("workflow step " ++ id ++ " has an invalid task type"))
            else if type = "workflow.run" then
              .error (.payload "recursive workflow.run steps are not supported in v1")
            else
              match rawStep.field "payload" with
              | none => .error (.payload ("workflow step " ++ id ++ " is missing payload"))
              | some payload =>
                match dependsOnRaw rawStep with
                | none => .error (.payload ("workflow step " ++ id ++ " has invalid depends_on"))
                | some dependencies =>
                  match parseDependencies id dependencies [] with
                  | .error error => .error error
                  | .ok dependsOn =>
                    match optionalInteger (rawStep.field "priority") with
                    | none =>
                      .error (.payload ("workflow step " ++ id ++ " priority must be an integer"))
                    | some priority =>
                      match (optionalInteger (rawStep.field "max_retries")).filter
                          fun value => value.all fun n => decide (0 ≤ n) with
                      | none => .error (.payload ("workflow step " ++ id ++
                          " max_retries must be a non-negative integer"))
                      | some maxRetries =>
                        .ok { id, type, payload, dependsOn, priority, maxRetries }
  | _ => .error (.payload ("workflow step " ++ toString index ++ " must be a JSON object"))

def parseSteps (index : Nat) : List Json → List String → Except WorkflowError (List WorkflowStep)
  | [], _ => .ok []
  | rawStep :: rest, ids =>
    match parseStep index rawStep ids with
    | .error error => .error error
    | .ok step =>
      match parseSteps (index + 1) rest (ids ++ [step.id]) with
      | .error error => .error error
      | .ok steps => .ok (step :: steps)

/-! ### The graph -/

/-- `byId.get(id)?.depends_on`. -/
def dependenciesOf (steps : List WorkflowStep) (id : String) : Option (List String) :=
  (steps.find? fun step => decide (step.id = id)).map WorkflowStep.dependsOn

def ancestorsOf (stepId : String) (steps : List WorkflowStep) : List String :=
  collect (successors (dependenciesOf steps)) (steps.length + 1) stepId []

/-- The first dependency that is no step, with the step that names it. -/
def unknownDependency (steps : List WorkflowStep) : Option (String × String) :=
  (steps.flatMap fun step => step.dependsOn.map fun dependency => (step.id, dependency)).find?
    fun named => (dependenciesOf steps named.2).isNone

def faultError : Fault String → WorkflowError
  | .cycle => .payload "workflow dependency graph contains a cycle"
  | .unknown stepId => .payload ("unknown workflow step " ++ stepId)
  | .budget => .unfinished

/-- The references of every step, in order, each against the ancestors of its step. -/
def checkReferences (steps : List WorkflowStep) : List WorkflowStep → Except WorkflowError Unit
  | [] => .ok ()
  | step :: rest =>
    match validateResultReferencePayload step.payload (ancestorsOf step.id steps) with
    | .error message => .error (.payload ("workflow step " ++ step.id ++ ": " ++ message))
    | .ok _ => checkReferences steps rest

def checkGraph (steps : List WorkflowStep) : Except WorkflowError Unit :=
  match unknownDependency steps with
  | some (stepId, dependency) =>
    .error (.payload ("workflow step " ++ stepId ++ " depends on unknown step " ++ dependency))
  | none =>
    match visitAll (explore (dependenciesOf steps) (steps.length + 1))
        (steps.map WorkflowStep.id) ⟨[], []⟩ with
    | .error fault => .error (faultError fault)
    | .ok _ => checkReferences steps steps

def parseWorkflowDefinition (rt : Runtime) (raw : String) : Except WorkflowError Definition :=
  if MAX_WORKFLOW_PAYLOAD_BYTES < raw.utf8ByteSize then
    .error (.payload "workflow payload exceeds 256 KiB")
  else
    match rt.parse raw with
    | none => .error (.payload "workflow payload must be valid JSON")
    | some (.obj fields) =>
      match (fields.map Prod.fst).find? fun key => decide (key ≠ "steps") with
      | some key => .error (.payload ("unsupported workflow field: " ++ key))
      | none =>
        match fields.lookup "steps" with
        | some (.arr (first :: rest)) =>
          if MAX_WORKFLOW_STEPS < (first :: rest).length then
            .error (.payload ("workflow supports at most " ++ toString MAX_WORKFLOW_STEPS ++
              " steps"))
          else
            match parseSteps 0 (first :: rest) [] with
            | .error error => .error error
            | .ok steps =>
              match checkGraph steps with
              | .error error => .error error
              | .ok _ => .ok ⟨steps⟩
        | _ => .error (.payload "workflow.steps must contain at least one step")
    | some _ => .error (.payload "workflow payload must be a JSON object")

end WorkflowDefinition
