import TaskQueQue.GatewayRouter
import TaskQueQue.ProcessRegistry

/-!
# Tools over MCP

The MCP endpoint lists what a grant may use as tools, and turns a call of a tool
into a request to the gateway's own routes, under the caller's authorization. The
processes the operator registered are tools as well.

The registry is a parameter, as it is of the capability check; the gateway's own is
`CAPABILITY_REGISTRY`. Tools are listed in the platform's order of names. What is
left out of a tool is text only: its description and the schemas' comments.
-/

namespace McpTools

open GatewayValues CapabilityAuth CapabilityAccess ProcessRegistry
open Capabilities hiding CAPABILITY_REGISTRY
open GatewayRouter (processName)
open WorkflowFacade (safeName)

structure ToolDescriptor extends CapabilityDescriptor where
  provider : String
  publiclyDiscoverable : Bool
  route : Option String
  method : Option String

abbrev ToolRegistry := List (String × ToolDescriptor)

/-- The registry as the capability check reads it. -/
def capabilities (registry : ToolRegistry) : CapabilityRegistry :=
  registry.map fun entry => (entry.1, entry.2.toCapabilityDescriptor)

/-- A descriptor of the gateway's own: it can be discovered, and has a route unless it is a task. -/
def described (provider : String) (descriptor : CapabilityDescriptor)
    (route method : Option String) : String × ToolDescriptor :=
  (descriptor.name, ⟨descriptor, provider, true, route, method⟩)

open CapabilityDepth CapabilityAuthority in
def CAPABILITY_REGISTRY : ToolRegistry := [
  described "bun-gateway" ⟨"system.health", .surface, DISCOVER, OBSERVE, []⟩
    (some "/healthz") (some "GET"),
  described "bun-gateway" ⟨"system.readiness", .surface, DISCOVER, OBSERVE, []⟩
    (some "/readyz") (some "GET"),
  described "bun-gateway" ⟨"system.capabilities", .surface, DISCOVER, OBSERVE, ["capability.read"]⟩
    (some "/v1/capabilities") (some "GET"),
  described "bun-gateway" ⟨"task.inspect", .surface, INSPECT, OBSERVE, ["task.read"]⟩
    (some "/v1/tasks/:id") (some "GET"),
  described "bun-gateway" ⟨"task.submit", .surface, EXECUTE, INVOKE, ["task.invoke"]⟩
    (some "/v1/tasks") (some "POST"),
  described "bun-gateway" ⟨"workflow.inspect", .workflow, INSPECT, OBSERVE, ["workflow.read"]⟩
    (some "/v1/workflows/:id") (some "GET"),
  described "bun-gateway" ⟨"workflow.result", .workflow, INSPECT, OBSERVE, ["workflow.read"]⟩
    (some "/v1/workflows/:id/result") (some "GET"),
  described "bun-gateway" ⟨"workflow.cancel", .workflow, EXECUTE, INVOKE, ["workflow.cancel"]⟩
    (some "/v1/workflows/:id/cancel") (some "POST"),
  described "bun-gateway" ⟨"workflow.submit", .workflow, ORCHESTRATE, COMPOSE,
    ["workflow.compose"]⟩ (some "/v1/workflows") (some "POST"),
  described "bun-filesystem" ⟨"filesystem.list", .surface, DELEGATED_SYSTEM, OBSERVE,
    ["filesystem.inspect"]⟩ (some "/v1/filesystem/list") (some "POST"),
  described "bun-filesystem" ⟨"filesystem.stat", .surface, DELEGATED_SYSTEM, OBSERVE,
    ["filesystem.inspect"]⟩ (some "/v1/filesystem/stat") (some "POST"),
  described "bun-filesystem" ⟨"filesystem.read", .surface, DELEGATED_SYSTEM, OBSERVE,
    ["filesystem.read"]⟩ (some "/v1/filesystem/read") (some "POST"),
  described "rust-fs-mutator" ⟨"filesystem.write", .surface, DELEGATED_SYSTEM, MUTATE_SCOPED,
    ["filesystem.write"]⟩ (some "/v1/filesystem/write") (some "POST"),
  described "rust-fs-mutator" ⟨"filesystem.mkdir", .surface, DELEGATED_SYSTEM, MUTATE_SCOPED,
    ["filesystem.mkdir"]⟩ (some "/v1/filesystem/mkdir") (some "POST"),
  described "git-cli-metadata" ⟨"git.head", .surface, DELEGATED_SYSTEM, OBSERVE, ["git.inspect"]⟩
    (some "/v1/git/head") (some "GET"),
  described "git-cli-metadata" ⟨"git.log", .surface, DELEGATED_SYSTEM, OBSERVE, ["git.inspect"]⟩
    (some "/v1/git/log") (some "GET"),
  described "git-cli-metadata" ⟨"git.refs", .surface, DELEGATED_SYSTEM, OBSERVE, ["git.inspect"]⟩
    (some "/v1/git/refs") (some "GET"),
  described "worker:cpu" ⟨"document.process", .task, EXECUTE, INVOKE,
    ["task:document.process"]⟩ none none,
  described "worker:cpu" ⟨"hash.compute", .task, EXECUTE, INVOKE, ["task:hash.compute"]⟩ none none,
  described "worker:vector" ⟨"vector.dot", .task, EXECUTE, INVOKE, ["task:vector.dot"]⟩ none none,
  described "worker:remote-agent" ⟨"agent.invoke", .task, DELEGATED_SYSTEM, MUTATE_SCOPED,
    ["task:agent.invoke"]⟩ none none,
  described "worker:workflow" ⟨"workflow.run", .task, ORCHESTRATE, COMPOSE,
    ["task:workflow.run"]⟩ none none]

theorem capabilities_own : capabilities CAPABILITY_REGISTRY = Capabilities.CAPABILITY_REGISTRY := rfl

/-! ### Availability -/

structure CapabilityAvailabilitySnapshot where
  providerReachable : Bool
  filesystemReachable : Bool
  filesystemMutationReachable : Bool
  gitMetadataReachable : Bool
  activeTaskNames : List String

def isCapabilityAvailable (descriptor : ToolDescriptor)
    (snapshot : CapabilityAvailabilitySnapshot) : Bool :=
  if descriptor.provider = "bun-filesystem" then snapshot.filesystemReachable
  else if descriptor.provider = "rust-fs-mutator" then snapshot.filesystemMutationReachable
  else if descriptor.provider = "git-cli-metadata" then snapshot.gitMetadataReachable
  else if descriptor.kind = .task then
    snapshot.providerReachable && snapshot.activeTaskNames.contains descriptor.name
  else if descriptor.name = "workflow.submit" then
    snapshot.providerReachable && snapshot.activeTaskNames.contains "workflow.run"
  else true

/-! ### Listing -/

inductive InputSchema
  | empty
  | positiveId (name : String)
  | filesystemPath
  | filesystemWrite
  | taskEnvelope (taskNames : Option (List String))
  | workflowSubmit
deriving DecidableEq

structure McpTool where
  name : String
  inputSchema : InputSchema
  descriptor : ToolDescriptor

def getTool (registry : ToolRegistry) (name : String) : Option ToolDescriptor :=
  registry.lookup name

def capabilityAllowed (grant : CapabilityGrant) (descriptor : ToolDescriptor) : Bool :=
  (evaluateCapabilityGrant grant descriptor.toCapabilityDescriptor).allowed

section Tools
variable (registry : ToolRegistry) (collate : String → String → Bool)
variable (grant : CapabilityGrant) (availability : CapabilityAvailabilitySnapshot)

def capabilityExecutable (descriptor : ToolDescriptor) : Bool :=
  capabilityAllowed grant descriptor && isCapabilityAvailable descriptor availability

def taskSubmitSurface : Option ToolDescriptor := getTool registry "task.submit"

def toolPrerequisites (descriptor : ToolDescriptor) : List ToolDescriptor :=
  if descriptor.kind ≠ .task then [descriptor]
  else
    match taskSubmitSurface registry with
    | some submit => [submit, descriptor]
    | none => []

def executableTaskNames : List String :=
  match taskSubmitSurface registry with
  | none => []
  | some submit =>
    if !capabilityAllowed grant submit then []
    else
      ((((registry.map Prod.snd).filter fun descriptor =>
        decide (descriptor.kind = .task) && descriptor.publiclyDiscoverable).filter
          (capabilityExecutable grant availability)).map fun descriptor =>
            descriptor.name).mergeSort collate

def toolSchema (descriptor : ToolDescriptor) : Option InputSchema :=
  if descriptor.provider = "bun-filesystem" then some .filesystemPath
  else if descriptor.provider = "rust-fs-mutator" then
    if descriptor.name = "filesystem.write" then some .filesystemWrite
    else if descriptor.name = "filesystem.mkdir" then some .filesystemPath
    else none
  else if descriptor.provider = "git-cli-metadata" then some .empty
  else
    match descriptor.name with
    | "system.health" | "system.readiness" | "system.capabilities" => some .empty
    | "task.inspect" => some (.positiveId "task_id")
    | "task.submit" =>
      let taskNames := executableTaskNames registry collate grant availability
      if taskNames = [] then none else some (.taskEnvelope (some taskNames))
    | "workflow.inspect" | "workflow.result" | "workflow.cancel" => some (.positiveId "workflow_id")
    | "workflow.submit" => some .workflowSubmit
    | _ => if descriptor.kind = .task then some (.taskEnvelope none) else none

def mcpTool (descriptor : ToolDescriptor) : Option McpTool :=
  let prerequisites := toolPrerequisites registry descriptor
  if prerequisites = [] ∨ (prerequisites.any fun item => !capabilityAllowed grant item) ∨
      !isCapabilityAvailable descriptor availability then none
  else
    (toolSchema registry collate grant availability descriptor).map fun inputSchema =>
      ⟨descriptor.name, inputSchema, descriptor⟩

def listTools : List McpTool :=
  (((registry.map Prod.snd).filter fun descriptor => descriptor.publiclyDiscoverable).mergeSort
    fun left right => collate left.name right.name).filterMap
      (mcpTool registry collate grant availability)

/-! ### Arguments -/

def exactKeysSubset (record : Json) (allowed : List String) : Bool :=
  record.keys.any fun keys => keys.all fun key => allowed.contains key

def validIdempotencyKey (value : Option Json) : Option String :=
  (value.bind textOf).filter (safeName 128)

def MAX_FILESYSTEM_PATH_CHARS : Nat := 4096

def validFilesystemPath (value : Option Json) : Option String :=
  (value.bind textOf).filter fun path => decide (path ≠ "") &&
    decide (utf16Length path ≤ MAX_FILESYSTEM_PATH_CHARS) &&
    !path.toList.contains (Char.ofNat 0)

def positiveInteger (value : Option Json) : Option Int :=
  (Json.safeInteger? value).filter fun n => decide (0 < n)

/-- An integer of either kind may be left out. -/
def optionalInteger (value : Option Json) (valid : Int → Bool) : Bool :=
  value.isNone || (Json.integer? value).any valid

/-- An argument that was given, as a field of the body. -/
def given (args : Json) (name : String) : List (String × Json) :=
  ((args.field name).map fun value => (name, value)).toList

def taskArguments (args : Json) (includeType : Bool) : Option (List (String × Json) × String) :=
  let allowed := (if includeType then ["type"] else []) ++
    ["payload", "priority", "max_retries", "idempotency_key"]
  if !exactKeysSubset args allowed then none
  else
    match args.field "payload", validIdempotencyKey (args.field "idempotency_key") with
    | some payload, some idempotencyKey =>
      if includeType && ((((args.field "type").bind textOf).filter fun type =>
          decide (type ≠ "")).isNone) then none
      else if !optionalInteger (args.field "priority") fun _ => true then none
      else if !optionalInteger (args.field "max_retries") fun n => decide (0 ≤ n) then none
      else
        some ((if includeType then given args "type" else []) ++ [("payload", payload)] ++
          given args "priority" ++ given args "max_retries", idempotencyKey)
    | _, _ => none

end Tools

/-! ### Calls -/

/-- The request carries the caller's authorization, and nothing else of its headers. -/
def gatewayRequest (web : WebRuntime) (source : Request) (path method : String)
    (body : Option Json) (idempotencyKey : Option String) : Request where
  method := method
  pathname := path
  header := fun name =>
    if name = "authorization" then source.header "authorization"
    else if name = "content-type" then body.map fun _ => "application/json"
    else if name = "idempotency-key" then idempotencyKey.filter fun key => key ≠ ""
    else none
  body := (body.map web.stringify).getD ""

section Calls
variable (web : WebRuntime) (registry : ToolRegistry) (collate : String → String → Bool)
variable (source : Request) (grant : CapabilityGrant)
variable (availability : CapabilityAvailabilitySnapshot)

/-- A request to the descriptor's own route, if it has one of this method. -/
def routed (descriptor : ToolDescriptor) (method : String) (body : Option Json) : Option Request :=
  if descriptor.method ≠ some method then none
  else
    (descriptor.route.filter fun route => route ≠ "").map fun route =>
      gatewayRequest web source route method body none

def invocationForTool (descriptor : ToolDescriptor) (args : Json) : Option Request :=
  let path := (validFilesystemPath (args.field "path")).map Json.str
  let idOf := fun name => if exactKeys args [name] then positiveInteger (args.field name) else none
  let fixed := fun route =>
    if exactKeys args [] then some (gatewayRequest web source route "GET" none none) else none
  if descriptor.provider = "bun-filesystem" then
    if !exactKeys args ["path"] then none
    else path.bind fun path => routed web source descriptor "POST" (some (.obj [("path", path)]))
  else if descriptor.provider = "rust-fs-mutator" then
    if descriptor.name = "filesystem.write" then
      if !exactKeys args ["path", "content"] then none
      else
        match path, ((args.field "content").bind textOf).filter fun content =>
            decide (content.utf8ByteSize ≤ TaskFacade.MAX_PUBLIC_REQUEST_BYTES) with
        | some path, some content =>
          routed web source descriptor "POST" (some (.obj [("path", path), ("content", .str content)]))
        | _, _ => none
    else if descriptor.name = "filesystem.mkdir" then
      if !exactKeys args ["path"] then none
      else path.bind fun path => routed web source descriptor "POST" (some (.obj [("path", path)]))
    else none
  else if descriptor.provider = "git-cli-metadata" then
    if !exactKeys args [] then none else routed web source descriptor "GET" none
  else
    match descriptor.name with
    | "system.health" => fixed "/healthz"
    | "system.readiness" => fixed "/readyz"
    | "system.capabilities" => fixed "/v1/capabilities"
    | "task.inspect" =>
      (idOf "task_id").map fun id =>
        gatewayRequest web source ("/v1/tasks/" ++ toString id) "GET" none none
    | "task.submit" =>
      match taskArguments args true with
      | none => none
      | some (body, idempotencyKey) =>
        match ((args.field "type").bind textOf).bind (getTool registry) with
        | none => none
        | some target =>
          if target.kind ≠ .task ∨ !capabilityExecutable grant availability target then none
          else
            some (gatewayRequest web source "/v1/tasks" "POST" (some (.obj body))
              (some idempotencyKey))
    | "workflow.inspect" =>
      (idOf "workflow_id").map fun id =>
        gatewayRequest web source ("/v1/workflows/" ++ toString id) "GET" none none
    | "workflow.result" =>
      (idOf "workflow_id").map fun id =>
        gatewayRequest web source ("/v1/workflows/" ++ toString id ++ "/result") "GET" none none
    | "workflow.cancel" =>
      (idOf "workflow_id").map fun id =>
        gatewayRequest web source ("/v1/workflows/" ++ toString id ++ "/cancel") "POST" none none
    | "workflow.submit" =>
      if !exactKeys args ["workflow", "idempotency_key"] then none
      else
        match (args.field "workflow").filter fun workflow => workflow.keys.isSome,
            validIdempotencyKey (args.field "idempotency_key") with
        | some workflow, some idempotencyKey =>
          some (gatewayRequest web source "/v1/workflows" "POST" (some workflow)
            (some idempotencyKey))
        | _, _ => none
    | _ =>
      if descriptor.kind ≠ .task then none
      else
        (taskArguments args false).map fun parsed =>
          gatewayRequest web source "/v1/tasks" "POST"
            (some (.obj (("type", .str descriptor.name) :: parsed.1))) (some parsed.2)

inductive CallOutcome
  | rpcError (code : Int) (message : String)
  | invoke (request : Request)

/-- What makes the endpoint look for a process of that name. -/
def CallOutcome.unknown : CallOutcome → Bool
  | .rpcError code message =>
    decide (code = -32602) && decide (message = "unknown or unavailable tool")
  | .invoke _ => false

def unknownTool : CallOutcome := .rpcError (-32602) "unknown or unavailable tool"

def invalidArguments : CallOutcome :=
  .rpcError (-32602) "tool arguments do not satisfy the advertised input schema"

/-- `rpc.params.arguments ?? {}`. -/
def argumentsOf (arguments : Option Json) : Json :=
  match arguments with
  | none | some .null => .obj []
  | some args => args

def handleToolsCall (name arguments : Option Json) : CallOutcome :=
  match name, argumentsOf arguments with
  | some (.str name), .obj fields =>
    match (getTool registry name).filter fun descriptor => descriptor.publiclyDiscoverable with
    | none => unknownTool
    | some descriptor =>
      if (mcpTool registry collate grant availability descriptor).isNone then unknownTool
      else
        match invocationForTool web registry source grant availability descriptor (.obj fields) with
        | none => invalidArguments
        | some invocation => .invoke invocation
  | _, _ => .rpcError (-32602) "invalid tools/call parameters"

end Calls

/-! ### Processes -/

def registeredProcessCapability (descriptor : RegisteredProcessDescriptor) : ToolDescriptor where
  name := descriptor.requiredScope
  kind := .surface
  provider := "rust-process-exec"
  minDepth := CapabilityDepth.DELEGATED_SYSTEM
  minAuthority :=
    match descriptor.authority with
    | .invoke => CapabilityAuthority.INVOKE
    | .mutateScoped => CapabilityAuthority.MUTATE_SCOPED
  requiredScopes := [descriptor.requiredScope]
  publiclyDiscoverable := true
  route := some ("/v1/process/" ++ descriptor.name)
  method := some "POST"

/-- The requirement the runner checks once more. -/
def evaluateRegisteredProcessGrant (descriptor : RegisteredProcessDescriptor)
    (grant : CapabilityGrant) : CapabilityDecision :=
  evaluateCapabilityGrant grant
    { (registeredProcessCapability descriptor).toCapabilityDescriptor with
      name := "process:" ++ descriptor.name }

section Processes
variable (collate : String → String → Bool) (provider : Option RegisteredProcessProvider)

def registeredProcessCapabilities : List ToolDescriptor :=
  match provider with
  | none => []
  | some provider =>
    (provider.registry.commands.mergeSort fun left right => collate left.name right.name).map
      registeredProcessCapability

def processTool (descriptor : ToolDescriptor) : McpTool := ⟨descriptor.name, .empty, descriptor⟩

def processToolsForRequest (grant : CapabilityGrant) : List McpTool :=
  ((registeredProcessCapabilities collate provider).filter (capabilityAllowed grant)).map processTool

def processDescriptorForCall (grant : CapabilityGrant) (name : String) : Option ToolDescriptor :=
  ((registeredProcessCapabilities collate provider).find? fun candidate =>
    decide (candidate.name = name)).filter (capabilityAllowed grant)

variable (web : WebRuntime) (registry : ToolRegistry) (source : Request) (grant : CapabilityGrant)
variable (availability : CapabilityAvailabilitySnapshot)

/-- The tools of the gateway and of the processes, by name. -/
def toolsList : List McpTool :=
  let base := listTools registry collate grant availability
  let extra := processToolsForRequest collate provider grant
  if extra = [] then base
  else (base ++ extra).mergeSort fun left right => collate left.name right.name

/-- A process is called with no arguments, where the gateway knows no such tool. -/
def toolsCall (name arguments : Option Json) : CallOutcome :=
  let base := handleToolsCall web registry collate source grant availability name arguments
  if !base.unknown then base
  else
    match (name.bind textOf).bind (processDescriptorForCall collate provider grant) with
    | none => base
    | some descriptor =>
      if exactKeys (argumentsOf arguments) [] then
        .invoke (gatewayRequest web source (descriptor.route.getD "") "POST" none none)
      else invalidArguments

end Processes

/-- The checks of the process API, up to the start of the process. -/
def processApi (web : WebRuntime) (config : GatewayConfig)
    (provider : Option RegisteredProcessProvider) (request : Request) (nowMs : Int) :
    Option (Except Response RegisteredProcessDescriptor) :=
  (processName request.pathname).map fun name =>
    if request.method ≠ "POST" then .error (.coded 405 "method_not_allowed" "POST required")
    else if request.search ≠ "" then
      .error (.coded 400 "process_arguments_forbidden" "query parameters are not accepted")
    else if request.body ≠ "" then
      .error (.coded 400 "process_arguments_forbidden"
        "registered process commands accept no caller body or arguments")
    else
      match resolveAuthorizationContext web request config nowMs with
      | none =>
        .error (.coded 401 "unauthorized" "valid root or capability-session bearer token required")
      | some auth =>
        match provider with
        | none =>
          .error (.coded 503 "process_provider_unavailable"
            "registered process provider is unavailable")
        | some provider =>
          match provider.registry.commands.find? fun command => decide (command.name = name) with
          | none =>
            .error (.coded 404 "process_command_not_found"
              "registered process command is not available")
          | some descriptor =>
            if !capabilityAllowed auth.grant (registeredProcessCapability descriptor) then
              .error (.coded 403 "capability_denied"
                "registered process command is not authorized")
            else if !(evaluateRegisteredProcessGrant descriptor auth.grant).allowed then
              .error ⟨403, some (.obj [("ok", .bool false), ("error", .str "process_unauthorized")])⟩
            else .ok descriptor

end McpTools
