import TaskQueQue.AgentDirect
import TaskQueQue.CapabilityAccess
import TaskQueQue.WorkflowFacade

/-!
# The gateway's router

A request is offered to one handler after another until one of them answers. The
handlers before the capability check have their own rules on who may ask; so do
the agents' handlers after it.

The OAuth stages, the catalogue, processes, files and Git keep their data to
themselves: they reach neither the queue's database, nor the agents' tables, nor
the broker. What they answer is a parameter, behind the tests their handlers make
of path, method and authorization. The broker is another process; forwarding to it
adds to what it has received, and its reply is an input.
-/

namespace GatewayRouter

open QueueValues QueueTables GatewayValues Capabilities CapabilityAuth CapabilityAccess TaskFacade
open AgentDirect (Agents Outcome)

/-- `none` is a handler that throws. -/
abbrev Reply := Option Response

structure BrokerRequest where
  method : String
  path : String
  headers : List (String × String)
  body : String
deriving DecidableEq

inductive Provider
  | capabilitySessions
  | pendingConsents
  | authorizationServerMetadata
  | oauthAuthorization
  | oauthToken
  | capabilities
  | process
  | filesystem
  | filesystemMutation
  | gitMetadata
  | protectedResourceMetadata

section

variable {P : Type}

structure Gateway (P : Type) where
  facade : FacadeState
  agents : Agents
  broker : List BrokerRequest
  providers : P

structure GatewayDependencies (P : Type) where
  web : WebRuntime
  capabilities : CapabilityRegistry
  registry : TaskRegistry
  config : GatewayConfig
  serve : Provider → Request → P → Reply × P

/-- A request with what its handling reads from outside: the clocks, the fate of
its calls, the token a registration draws and the broker's reply. -/
structure Arrival where
  request : Request
  conditions : Conditions := {}
  clock : Nat → Seconds := fun _ => 0
  agentToken : String := ""
  brokerReply : Reply := none

abbrev Handled (P : Type) := Option (Reply × Gateway P)

def reply (response : Response) (g : Gateway P) : Handled P := some (some response, g)

def provide (deps : GatewayDependencies P) (provider : Provider) (request : Request)
    (g : Gateway P) : Reply × Gateway P :=
  let (answer, providers) := deps.serve provider request g.providers
  (answer, { g with providers })

def rootRequired : Response :=
  .coded 401 "root_authorization_required" "root bearer token required"

def bearerRequired : Response :=
  .coded 401 "unauthorized" "valid root or capability-session bearer token required"

/-! ### Before the capability check -/

def handleCapabilitySessionRequest (deps : GatewayDependencies P) (request : Request)
    (g : Gateway P) : Handled P :=
  if request.pathname ≠ "/v1/capability-sessions" then none
  else if request.method ≠ "POST" then reply (methodNotAllowed "POST") g
  else if !isRootAuthorization request deps.config then reply rootRequired g
  else if deps.config.token? = none then
    reply (.coded 503 "session_signing_unavailable" "capability session signing is unavailable") g
  else some (provide deps .capabilitySessions request g)

def handleOAuthConsentOperatorRequest (deps : GatewayDependencies P) (request : Request)
    (g : Gateway P) : Handled P :=
  if request.pathname ≠ "/v1/oauth/pending-consents" ∧
      segmentBetween "/v1/oauth/pending-consents/" "/decision" request.pathname = none then none
  else if !isRootAuthorization request deps.config then reply rootRequired g
  else if request.search ≠ "" then
    reply (.coded 400 "query_forbidden"
      "operator consent routes do not accept query parameters") g
  else some (provide deps .pendingConsents request g)

def handleOAuthAuthorizationServerMetadataRequest (deps : GatewayDependencies P)
    (request : Request) (g : Gateway P) : Handled P :=
  if request.pathname ≠ "/.well-known/oauth-authorization-server" then none
  else if request.method ≠ "GET" then reply (.error 405 "method_not_allowed") g
  else some (provide deps .authorizationServerMetadata request g)

def handleOAuthAuthorizationRequest (deps : GatewayDependencies P) (request : Request)
    (g : Gateway P) : Handled P :=
  if request.pathname ≠ "/oauth/authorize" then none
  else if request.method ≠ "GET" then reply (methodNotAllowed "GET") g
  else some (provide deps .oauthAuthorization request g)

def handleOAuthTokenRequest (deps : GatewayDependencies P) (request : Request) (g : Gateway P) :
    Handled P :=
  if request.pathname ≠ "/oauth/token" then none
  else if request.method ≠ "POST" then
    reply ⟨405, some (.obj [("error", .str "invalid_request"),
      ("error_description", .str "POST required")])⟩ g
  else some (provide deps .oauthToken request g)

/-- The catalogue asks the broker which providers are up. -/
def handleCapabilityRequest (deps : GatewayDependencies P) (request : Request) (nowMs : Int)
    (g : Gateway P) : Handled P :=
  if request.pathname ≠ "/v1/capabilities" then none
  else if request.method ≠ "GET" then reply (methodNotAllowed "GET") g
  else
    match resolveAuthorizationContext deps.web request deps.config nowMs with
    | none => reply bearerRequired g
    | some auth =>
      match getCapability deps.capabilities "system.capabilities" with
      | none =>
        reply (.coded 500 "capability_registry_invalid"
          "capability discovery descriptor is missing") g
      | some discovery =>
        let decision := evaluateCapabilityGrant auth.grant discovery
        if !decision.allowed then
          reply (.coded 403 "capability_denied"
            ("capability discovery denied by " ++ blockedText decision)) g
        else some (provide deps .capabilities request
          { g with broker := g.broker ++ [⟨"GET", "/v1/providers", [("accept", "application/json")], ""⟩] })

/-! ### After the capability check -/

/-- `/^\/v1\/process\/([a-z][a-z0-9._-]{0,63})$/`. -/
def processName (path : String) : Option String :=
  (segmentBetween "/v1/process/" "" path).filter fun name =>
    match name.toList with
    | [] => false
    | first :: rest =>
      decide ('a' ≤ first ∧ first ≤ 'z') && decide (rest.length ≤ 63) && rest.all fun c =>
        decide ('a' ≤ c ∧ c ≤ 'z') || decide ('0' ≤ c ∧ c ≤ '9') || "._-".toList.contains c

def handleRegisteredProcessRequest (deps : GatewayDependencies P) (request : Request) (nowMs : Int)
    (g : Gateway P) : Handled P :=
  if processName request.pathname = none then none
  else if request.method ≠ "POST" then reply (methodNotAllowed "POST") g
  else if request.search ≠ "" then
    reply (.coded 400 "process_arguments_forbidden" "query parameters are not accepted") g
  else if request.body ≠ "" then
    reply (.coded 400 "process_arguments_forbidden"
      "registered process commands accept no caller body or arguments") g
  else
    match resolveAuthorizationContext deps.web request deps.config nowMs with
    | none => reply bearerRequired g
    | some _ => some (provide deps .process request g)

/-- The delegated providers differ in their paths and method; the capability check
has been made. -/
def delegated (deps : GatewayDependencies P) (provider : Provider) (paths : List String)
    (method : String) (request : Request) (g : Gateway P) : Handled P :=
  if !paths.contains request.pathname then none
  else if request.method ≠ method then reply (methodNotAllowed method) g
  else some (provide deps provider request g)

def handleFilesystemRequest (deps : GatewayDependencies P) : Request → Gateway P → Handled P :=
  delegated deps .filesystem ["/v1/filesystem/list", "/v1/filesystem/stat", "/v1/filesystem/read"]
    "POST"

def handleFilesystemMutationRequest (deps : GatewayDependencies P) :
    Request → Gateway P → Handled P :=
  delegated deps .filesystemMutation ["/v1/filesystem/write", "/v1/filesystem/mkdir"] "POST"

/-- The provider refuses a query. -/
def handleGitMetadataRequest (deps : GatewayDependencies P) : Request → Gateway P → Handled P :=
  delegated deps .gitMetadata ["/v1/git/head", "/v1/git/log", "/v1/git/refs"] "GET"

def handleDeclaredWorkflowResultRequest (deps : GatewayDependencies P) (request : Request)
    (conditions : Conditions) (g : Gateway P) : Handled P :=
  (WorkflowFacade.handleDeclaredWorkflowResultRequest deps.web deps.registry deps.config request
    conditions g.facade).map fun response => (some response, g)

/-- The statements of an agent's request, one after the other. -/
def settle (rt : Runtime) (clock : Nat → Seconds) : Nat → Outcome → Db → Reply × Db
  | _, .reply response, db => (some response, db)
  | _, .thrown, db => (none, db)
  | 0, .next _, db => (none, db)
  | n + 1, .next job, db =>
    let result := job.statement rt (clock 0) (clock 1) db
    settle rt (fun reading => clock (reading + 2)) n result.1 result.2

/-- How many statements may still follow; a request has three at most. -/
def statementsLeft : Outcome → Nat
  | .next (.autoRelease _) => 3
  | .next (.claim _) | .next (.setStatus ..) => 2
  | .next (.giveBack ..) | .next (.storeResult ..) => 1
  | .reply _ | .thrown => 0

theorem statement_left (rt : Runtime) (clock clock' : Seconds) (job : AgentDirect.Job) (db : Db) :
    statementsLeft (job.statement rt clock clock' db).1 < statementsLeft (.next job) := by
  cases job with
  | claim agentId =>
    simp only [AgentDirect.Job.statement]
    split
    · simp only [statementsLeft]
      omega
    · split <;> (simp only [statementsLeft]; omega)
  | setStatus agentId taskId status resultStr =>
    cases resultStr <;> (simp only [AgentDirect.Job.statement, statementsLeft]; omega)
  | autoRelease | giveBack | storeResult =>
    simp only [AgentDirect.Job.statement, statementsLeft]
    omega

theorem settle_enough (rt : Runtime) {n : Nat} {outcome : Outcome} (enough : statementsLeft outcome ≤ n)
    (clock : Nat → Seconds) (more : Nat) (db : Db) :
    settle rt clock (n + more) outcome db = settle rt clock n outcome db := by
  induction n generalizing outcome clock db with
  | zero =>
    cases outcome with
    | next job => cases job <;> simp [statementsLeft] at enough
    | reply | thrown => simp only [settle]
  | succ n ih =>
    cases outcome with
    | next job =>
      have less := statement_left rt (clock 0) (clock 1) job db
      rw [Nat.succ_add]
      simp only [settle]
      exact ih (by omega) _ _
    | reply | thrown => simp only [settle]

def handleAgentDirectRequest (deps : GatewayDependencies P) (arrival : Arrival)
    (request : Request) (g : Gateway P) : Handled P :=
  (AgentDirect.handleAgentDirectRequest deps.web.toRuntime request (arrival.clock 0)
    arrival.agentToken g.agents).map fun result =>
      let (answer, db) := settle deps.web.toRuntime (fun reading => arrival.clock (reading + 1)) 3
        result.1 g.facade.db
      (answer, { g with facade := { g.facade with db }, agents := result.2 })

def AGENT_ROUTES : List (String × String) := [
  ("/v1/agent/register", "/v1/register"),
  ("/v1/agent/claim", "/v1/claim"),
  ("/v1/agent/heartbeat", "/v1/task/heartbeat"),
  ("/v1/agent/complete", "/v1/task/complete"),
  ("/v1/agent/fail", "/v1/task/fail"),
  ("/v1/agent/session/heartbeat", "/v1/session/heartbeat")]

def FORWARDED_HEADERS : List String :=
  ["x-worker-id", "x-worker-type", "x-worker-capacity", "x-worker-tasks", "x-worker-session",
    "x-worker-token", "x-task-id", "x-lease-generation", "x-worker-error-code", "content-type"]

def forwardHeaders (request : Request) : List (String × String) :=
  FORWARDED_HEADERS.filterMap fun name => (request.header name).map fun value => (name, value)

def brokerUnavailable : Response := .coded 503 "broker_unavailable" "worker broker unreachable"

def handleAgentProxyRequest (arrival : Arrival) (g : Gateway P) : Handled P :=
  match AGENT_ROUTES.lookup arrival.request.pathname with
  | none => none
  | some brokerPath =>
    if arrival.request.method ≠ "POST" then none
    else some (some (arrival.brokerReply.getD brokerUnavailable),
      { g with
        broker := g.broker ++
          [⟨"POST", brokerPath, forwardHeaders arrival.request, arrival.request.body⟩] })

def onFacade (g : Gateway P) (result : Response × FacadeState) : Reply × Gateway P :=
  (some result.1, { g with facade := result.2 })

def handlePublicWorkflowRequest (deps : GatewayDependencies P) (request : Request)
    (conditions : Conditions) (g : Gateway P) : Handled P :=
  (WorkflowFacade.handlePublicWorkflowRequest deps.web deps.registry deps.config request conditions
    g.facade).map (onFacade g)

def handlePublicSurfaceRequest (deps : GatewayDependencies P) (request : Request)
    (conditions : Conditions) (g : Gateway P) : Reply × Gateway P :=
  if request.pathname = "/.well-known/oauth-protected-resource" ∨
      request.pathname = "/.well-known/oauth-protected-resource/mcp" then
    provide deps .protectedResourceMetadata request g
  else onFacade g (handleRequest deps.web deps.registry deps.config request conditions g.facade)

/-- The handlers that get the request the check let through. -/
def routeEnforced (deps : GatewayDependencies P) (arrival : Arrival) (enforced : Request)
    (g : Gateway P) : Reply × Gateway P :=
  (handleRegisteredProcessRequest deps enforced arrival.conditions.nowMs g).getD <|
  (handleFilesystemRequest deps enforced g).getD <|
  (handleFilesystemMutationRequest deps enforced g).getD <|
  (handleGitMetadataRequest deps enforced g).getD <|
  (handleDeclaredWorkflowResultRequest deps enforced arrival.conditions g).getD <|
  (handleAgentDirectRequest deps arrival enforced g).getD <|
  (handleAgentProxyRequest arrival g).getD <|
  (handlePublicWorkflowRequest deps enforced arrival.conditions g).getD <|
  handlePublicSurfaceRequest deps enforced arrival.conditions g

def routeChecked (deps : GatewayDependencies P) (arrival : Arrival) (g : Gateway P) :
    Reply × Gateway P :=
  match enforceCapabilityAccess deps.web deps.capabilities deps.config arrival.request
      arrival.conditions.nowMs with
  | .error response => (some response, g)
  | .ok enforced => routeEnforced deps arrival enforced g

def routeGatewayRequest (deps : GatewayDependencies P) (arrival : Arrival) (g : Gateway P) :
    Reply × Gateway P :=
  (handleCapabilitySessionRequest deps arrival.request g).getD <|
  (handleOAuthConsentOperatorRequest deps arrival.request g).getD <|
  (handleOAuthAuthorizationServerMetadataRequest deps arrival.request g).getD <|
  (handleOAuthAuthorizationRequest deps arrival.request g).getD <|
  (handleOAuthTokenRequest deps arrival.request g).getD <|
  (handleCapabilityRequest deps arrival.request arrival.conditions.nowMs g).getD <|
  routeChecked deps arrival g

end

end GatewayRouter
