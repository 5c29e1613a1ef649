import TaskQueQue.GatewayRouter
import TaskQueQue.HiddenState

/-!
# Requests without a credential

A request is unauthenticated when it resolves to nobody at any time. Such a
request gets past the capability check only where no surface is named, and there
the agents' routes decide on their own: the proxy forwards without asking, and the
direct handler asks for a token that anyone may have drawn by registering. Every
other route is confined away from the queue's database and the broker.
-/

namespace UnauthenticatedRequests

open QueueTables GatewayValues CapabilityAuth CapabilityAccess TaskFacade GatewayRouter HiddenState
open AgentDirect (Agents AgentToken Outcome verifyAgentToken)

section

variable {P : Type}

/-- The queue's database, and what the broker has received. -/
def queueAndBroker : Part (Gateway P) (Db × List BrokerRequest) where
  get g := (g.facade.db, g.broker)
  put h g := { g with facade := { g.facade with db := h.1 }, broker := h.2 }
  get_put := fun _ _ => rfl
  put_get := fun _ => rfl

/-- Who is registered, and under which token. -/
def registrations (g : Gateway P) : KeyedTable.Table AgentToken String AgentToken.agentId :=
  g.agents.agentTokens

def Unauthenticated (deps : GatewayDependencies P) (request : Request) : Prop :=
  ∀ nowMs, resolveAuthorizationContext deps.web request deps.config nowMs = none

/-! ### What an agent's route does without being asked for a credential -/

/-- The proxy forwards it: the paths the direct handler answers never get there. -/
def proxied (request : Request) : Bool :=
  decide (request.method = "POST") && (AGENT_ROUTES.lookup request.pathname).isSome &&
    decide (request.pathname ∉ ["/v1/agent/register", "/v1/agent/heartbeat"])

/-- A registration that the direct handler accepts. -/
def registers (rt : Runtime) (request : Request) : Bool :=
  decide (request.pathname = "/v1/agent/register" ∧ request.method = "POST") &&
    match rt.bodyOrEmpty request with
    | .null => false
    | body =>
      match body.field "agent_id" with
      | some (.str agentId) => !decide (agentId = "" ∨ 64 < utf16Length agentId)
      | _ => false

/-- A poll or a submission under the token of a registered agent. -/
def actsAsAgent (rt : Runtime) (agents : Agents) (request : Request) : Bool :=
  (decide (request.pathname = "/v1/agent/poll" ∧ request.method = "POST") &&
    verifyAgentToken agents request ((rt.bodyOrEmpty request).field "agent_id")) ||
  (decide (request.pathname = "/v1/agent/result" ∧ request.method = "POST") &&
    verifyAgentToken agents request (some (.str ((request.header "x-agent-id").getD ""))))

/-- None of the three. -/
structure Shielded (rt : Runtime) (agents : Agents) (request : Request) : Prop where
  unproxied : proxied request = false
  unregistering : registers rt request = false
  stranger : actsAsAgent rt agents request = false

theorem shielded_of_registrations {rt : Runtime} {agents agents' : Agents} {request : Request}
    (same : agents'.agentTokens = agents.agentTokens) (shielded : Shielded rt agents request) :
    Shielded rt agents' request := by
  have verified : ∀ agentId, verifyAgentToken agents' request agentId =
      verifyAgentToken agents request agentId := by
    intro agentId
    simp only [verifyAgentToken, same]
  refine ⟨shielded.unproxied, shielded.unregistering, ?_⟩
  rw [← shielded.stranger, actsAsAgent, actsAsAgent, verified, verified]

/-! ### One handler after another -/

theorem confined_reply' (response : Response) (g : Gateway P) :
    ConfinedHandler queueAndBroker registrations (fun g => reply response g) g :=
  (confined_reply (some response) g).answers fun _ => rfl

theorem provide_confined (deps : GatewayDependencies P) (provider : Provider) (request : Request)
    (g : Gateway P) : Confined queueAndBroker registrations (provide deps provider request) g :=
  ⟨fun _ => rfl, rfl⟩

theorem provided (deps : GatewayDependencies P) (provider : Provider) (request : Request)
    (g : Gateway P) : ConfinedHandler queueAndBroker registrations
      (fun g => some (provide deps provider request g)) g :=
  (provide_confined deps provider request g).answers fun _ => rfl

theorem confined_ite {c : Prop} [Decidable c] {f f' : Gateway P → Handled P} {g : Gateway P}
    (yes : c → ConfinedHandler queueAndBroker registrations f g)
    (no : ¬ c → ConfinedHandler queueAndBroker registrations f' g) :
    ConfinedHandler queueAndBroker registrations (fun g => if c then f g else f' g) g := by
  by_cases h : c
  · simpa only [if_pos h] using yes h
  · simpa only [if_neg h] using no h

theorem confined_none (g : Gateway P) :
    ConfinedHandler queueAndBroker registrations (fun _ : Gateway P => (none : Handled P)) g :=
  .declines (fun _ => rfl) g

variable {deps : GatewayDependencies P} {request : Request}

theorem capabilitySession_confined (unknown : Unauthenticated deps request) (g : Gateway P) :
    ConfinedHandler queueAndBroker registrations (handleCapabilitySessionRequest deps request) g := by
  refine confined_ite (fun _ => confined_none g) fun _ => ?_
  refine confined_ite (fun _ => confined_reply' _ g) fun _ => ?_
  refine confined_ite (fun _ => confined_reply' _ g) fun root => ?_
  exact absurd (by rw [not_root_of_unresolved (unknown 0)]; rfl) root

theorem consentOperator_confined (unknown : Unauthenticated deps request) (g : Gateway P) :
    ConfinedHandler queueAndBroker registrations (handleOAuthConsentOperatorRequest deps request) g := by
  refine confined_ite (fun _ => confined_none g) fun _ => ?_
  refine confined_ite (fun _ => confined_reply' _ g) fun root => ?_
  exact absurd (by rw [not_root_of_unresolved (unknown 0)]; rfl) root

theorem metadata_confined (g : Gateway P) : ConfinedHandler queueAndBroker registrations
    (handleOAuthAuthorizationServerMetadataRequest deps request) g := by
  refine confined_ite (fun _ => confined_none g) fun _ => ?_
  exact confined_ite (fun _ => confined_reply' _ g) fun _ => provided _ _ _ g

theorem authorization_confined (g : Gateway P) : ConfinedHandler queueAndBroker registrations
    (handleOAuthAuthorizationRequest deps request) g := by
  refine confined_ite (fun _ => confined_none g) fun _ => ?_
  exact confined_ite (fun _ => confined_reply' _ g) fun _ => provided _ _ _ g

theorem token_confined (g : Gateway P) : ConfinedHandler queueAndBroker registrations
    (handleOAuthTokenRequest deps request) g := by
  refine confined_ite (fun _ => confined_none g) fun _ => ?_
  exact confined_ite (fun _ => confined_reply' _ g) fun _ => provided _ _ _ g

theorem capability_confined (unknown : Unauthenticated deps request) (nowMs : Int) (g : Gateway P) :
    ConfinedHandler queueAndBroker registrations (handleCapabilityRequest deps request nowMs) g := by
  refine confined_ite (fun _ => confined_none g) fun _ => ?_
  refine confined_ite (fun _ => confined_reply' _ g) fun _ => ?_
  simpa only [unknown nowMs] using confined_reply' bearerRequired g

theorem process_confined (unknown : Unauthenticated deps request) (nowMs : Int) (g : Gateway P) :
    ConfinedHandler queueAndBroker registrations
      (handleRegisteredProcessRequest deps request nowMs) g := by
  refine confined_ite (fun _ => confined_none g) fun _ => ?_
  refine confined_ite (fun _ => confined_reply' _ g) fun _ => ?_
  refine confined_ite (fun _ => confined_reply' _ g) fun _ => ?_
  refine confined_ite (fun _ => confined_reply' _ g) fun _ => ?_
  simpa only [unknown nowMs] using confined_reply' bearerRequired g

theorem delegated_confined (provider : Provider) (paths : List String) (method : String)
    (g : Gateway P) : ConfinedHandler queueAndBroker registrations
      (delegated deps provider paths method request) g := by
  refine confined_ite (fun _ => confined_none g) fun _ => ?_
  exact confined_ite (fun _ => confined_reply' _ g) fun _ => provided _ _ _ g

/-! ### The agents' routes -/

theorem handlePoll_idle {rt : Runtime} {agents : Agents}
    (stranger : verifyAgentToken agents request ((rt.bodyOrEmpty request).field "agent_id") = false) :
    (AgentDirect.handlePoll rt agents request).job? = none := by
  rw [AgentDirect.handlePoll]
  split
  · rfl
  · split
    · rename_i agentId hagent
      rw [hagent] at stranger
      simp only [stranger, Bool.false_eq_true, if_false]
      rfl
    · rfl

theorem handleRegister_refuses {rt : Runtime} {agents : Agents} {now : QueueValues.Seconds}
    {token : String} (path : request.pathname = "/v1/agent/register" ∧ request.method = "POST")
    (refused : registers rt request = false) :
    (AgentDirect.handleRegister rt agents request now token).1.job? = none ∧
      (AgentDirect.handleRegister rt agents request now token).2 = agents := by
  rw [registers, decide_eq_true path, Bool.true_and] at refused
  rw [AgentDirect.handleRegister]
  generalize rt.bodyOrEmpty request = body at refused ⊢
  cases body with
  | obj fields =>
    dsimp only at refused ⊢
    generalize (Json.obj fields).field "agent_id" = named at refused ⊢
    match named with
    | some (.str agentId) =>
      rw [Bool.not_eq_false', decide_eq_true_eq] at refused
      simp only [if_pos refused]
      exact ⟨rfl, trivial⟩
    | none | some .null | some (.bool _) | some (.num _) | some (.arr _) | some (.obj _) =>
      exact ⟨rfl, rfl⟩
  | null | bool | num | str | arr => exact ⟨rfl, rfl⟩

theorem handleHeartbeat_keeps (rt : Runtime) (agents : Agents) (now : QueueValues.Seconds) :
    (AgentDirect.handleHeartbeat rt agents request now).1.job? = none ∧
      (AgentDirect.handleHeartbeat rt agents request now).2.agentTokens = agents.agentTokens := by
  rw [AgentDirect.handleHeartbeat]
  split
  · exact ⟨rfl, rfl⟩
  · split
    · split
      · exact ⟨rfl, rfl⟩
      · exact ⟨rfl, rfl⟩
    · exact ⟨rfl, rfl⟩

/-- Without a registration and without the token of an agent, no statement is run
and nobody is registered. -/
theorem agent_outcome {rt : Runtime} {agents agents' : Agents} {outcome : Outcome}
    {now : QueueValues.Seconds} {token : String} (shielded : Shielded rt agents request)
    (h : AgentDirect.handleAgentDirectRequest rt request now token agents = some (outcome, agents')) :
    outcome.job? = none ∧ agents'.agentTokens = agents.agentTokens := by
  have stranger := shielded.stranger
  rw [actsAsAgent, Bool.or_eq_false_iff] at stranger
  rw [AgentDirect.handleAgentDirectRequest] at h
  split at h
  · rename_i path
    rw [decide_eq_true path, Bool.true_and] at stranger
    cases h
    exact ⟨handlePoll_idle stranger.1, rfl⟩
  split at h
  · rename_i path
    rw [decide_eq_true path, Bool.true_and] at stranger
    cases h
    simp only [AgentDirect.handleResult, stranger.2, Bool.not_false, if_true]
    exact ⟨rfl, trivial⟩
  split at h
  · rename_i path
    have refused := @handleRegister_refuses request rt agents now token path shielded.unregistering
    rw [Option.some.injEq] at h
    rw [h] at refused
    exact ⟨refused.1, congrArg Agents.agentTokens refused.2⟩
  split at h
  · have kept := @handleHeartbeat_keeps request rt agents now
    rw [Option.some.injEq] at h
    rwa [h] at kept
  split at h
  · cases h
    exact ⟨rfl, rfl⟩
  · cases h

theorem settle_idle {rt : Runtime} {outcome : Outcome} (idle : outcome.job? = none)
    (clock : Nat → QueueValues.Seconds) (n : Nat) (db : Db) :
    (settle rt clock n outcome db).2 = db ∧
      ∀ db', (settle rt clock n outcome db').1 = (settle rt clock n outcome db).1 := by
  cases outcome with
  | next job => cases idle
  | reply response => cases n <;> exact ⟨rfl, fun _ => rfl⟩
  | thrown => cases n <;> exact ⟨rfl, fun _ => rfl⟩

theorem agentDirect_confined {arrival : Arrival} {g : Gateway P}
    (shielded : Shielded deps.web.toRuntime g.agents request) :
    ConfinedHandler queueAndBroker registrations
      (handleAgentDirectRequest deps arrival request) g := by
  cases h : AgentDirect.handleAgentDirectRequest deps.web.toRuntime request (arrival.clock 0)
      arrival.agentToken g.agents with
  | none =>
    constructor
    · intro hidden
      simp only [handleAgentDirectRequest, queueAndBroker, h, Option.map_none]
    · intro result hresult
      simp only [handleAgentDirectRequest, h, Option.map_none, reduceCtorEq] at hresult
  | some result =>
    obtain ⟨outcome, agents⟩ := result
    obtain ⟨idle, tokens⟩ := agent_outcome shielded h
    have settled := @settle_idle deps.web.toRuntime outcome idle
      (fun reading => arrival.clock (reading + 1)) 3
    constructor
    · intro hidden
      simp only [handleAgentDirectRequest, queueAndBroker, h, Option.map_some, (settled _).1,
        (settled g.facade.db).2 hidden.1]
    · intro result hresult
      simp only [handleAgentDirectRequest, h, Option.map_some, Option.some.injEq] at hresult
      rw [← hresult]
      exact tokens

/-- What the direct handler leaves to the proxy and the proxy takes is forwarded. -/
theorem proxy_declines {arrival : Arrival} {g : Gateway P}
    (unproxied : proxied arrival.request = false)
    (left : handleAgentDirectRequest deps arrival arrival.request g = none) (g' : Gateway P) :
    handleAgentProxyRequest arrival g' = none := by
  rw [handleAgentProxyRequest]
  split
  · rfl
  · rename_i brokerPath route
    split
    · rfl
    · rename_i method
      rw [ne_eq, not_not] at method
      rw [proxied, decide_eq_true method, route] at unproxied
      simp only [Option.isSome_some, Bool.and_true, Bool.true_and, decide_eq_false_iff_not, not_not,
        List.mem_cons, List.not_mem_nil, or_false] at unproxied
      rw [handleAgentDirectRequest, Option.map_eq_none_iff, AgentDirect.handleAgentDirectRequest] at left
      rcases unproxied with path | path
      · simp [path, method] at left
      · simp [path, method] at left

/-! ### The facade's routes, where no surface is named -/

theorem declaredResult_confined (unlisted : Unlisted request.pathname request.method)
    (conditions : Conditions) (g : Gateway P) : ConfinedHandler queueAndBroker registrations
      (handleDeclaredWorkflowResultRequest deps request conditions) g := by
  cases named : segmentBetween "/v1/workflows/" "/result" request.pathname with
  | none =>
    refine .declines (fun g => ?_) g
    rw [handleDeclaredWorkflowResultRequest, WorkflowFacade.handleDeclaredWorkflowResultRequest,
      named]
    rfl
  | some workflowIdText =>
    have other : request.method ≠ "GET" := fun get => unlisted.result ⟨by rw [named]; rfl, get⟩
    refine (confined_reply (some (methodNotAllowed "GET")) g).answers fun g => ?_
    rw [handleDeclaredWorkflowResultRequest, WorkflowFacade.handleDeclaredWorkflowResultRequest,
      named, Option.map_some, if_neg other]
    rfl

/-- Where no surface is named, the facade answers out of hand. -/
theorem handlePublicWorkflowRequest_unlisted
    (unlisted : Unlisted request.pathname request.method) (conditions : Conditions) :
    ∃ answer : Option Response, ∀ s, WorkflowFacade.handlePublicWorkflowRequest deps.web
      deps.registry deps.config request conditions s = answer.map fun response => (response, s) := by
  simp only [WorkflowFacade.handlePublicWorkflowRequest]
  by_cases workflows : request.pathname = "/v1/workflows"
  · have other : request.method ≠ "POST" := fun post => unlisted.workflow ⟨workflows, post⟩
    refine ⟨some (methodNotAllowed "POST"), fun s => ?_⟩
    rw [if_pos workflows, if_neg other, Option.map_some]
  · simp only [if_neg workflows]
    cases cancelled : segmentBetween "/v1/workflows/" "/cancel" request.pathname with
    | some workflowIdText =>
      have other : request.method ≠ "POST" := fun post =>
        unlisted.cancellation ⟨by rw [cancelled]; rfl, post⟩
      refine ⟨some (methodNotAllowed "POST"), fun s => ?_⟩
      simp only [if_neg other, Option.map_some]
    | none =>
      cases named : segmentBetween "/v1/workflows/" "" request.pathname with
      | none => exact ⟨none, fun s => rfl⟩
      | some workflowIdText =>
        have other : request.method ≠ "GET" := fun get =>
          unlisted.snapshot ⟨by rw [named]; rfl, get⟩
        refine ⟨some (methodNotAllowed "GET"), fun s => ?_⟩
        simp only [if_neg other, Option.map_some]

theorem handleRequest_unlisted (unlisted : Unlisted request.pathname request.method)
    (conditions : Conditions) :
    ∃ answer : Response, ∀ s, handleRequest deps.web deps.registry deps.config request conditions s =
      (answer, s) := by
  simp only [handleRequest]
  by_cases health : request.pathname = "/healthz"
  · exact ⟨_, fun s => if_pos health⟩
  by_cases ready : request.pathname = "/readyz"
  · exact ⟨_, fun s => (if_neg health).trans (if_pos ready)⟩
  by_cases tasks : request.pathname = "/v1/tasks"
  · have other : request.method ≠ "POST" := fun post => unlisted.submission ⟨tasks, post⟩
    refine ⟨methodNotAllowed "POST", fun s => ?_⟩
    rw [if_neg health, if_neg ready, if_pos tasks, if_neg other]
  · simp only [if_neg health, if_neg ready, if_neg tasks]
    cases named : segmentBetween "/v1/tasks/" "" request.pathname with
    | none => exact ⟨_, fun s => rfl⟩
    | some taskIdText =>
      have other : request.method ≠ "GET" := fun get => unlisted.task ⟨by rw [named]; rfl, get⟩
      refine ⟨methodNotAllowed "GET", fun s => ?_⟩
      simp only [if_neg other]

theorem publicWorkflow_confined (unlisted : Unlisted request.pathname request.method)
    (conditions : Conditions) (g : Gateway P) : ConfinedHandler queueAndBroker registrations
      (handlePublicWorkflowRequest deps request conditions) g := by
  obtain ⟨answer, answers⟩ := @handlePublicWorkflowRequest_unlisted P deps request unlisted conditions
  cases answer with
  | none =>
    refine .declines (fun g => ?_) g
    rw [handlePublicWorkflowRequest, answers]
    rfl
  | some response =>
    refine (confined_reply (some response) g).answers fun g => ?_
    rw [handlePublicWorkflowRequest, answers]
    rfl

theorem publicSurface_confined (unlisted : Unlisted request.pathname request.method)
    (conditions : Conditions) (g : Gateway P) : Confined queueAndBroker registrations
      (handlePublicSurfaceRequest deps request conditions) g := by
  obtain ⟨answer, answers⟩ := @handleRequest_unlisted P deps request unlisted conditions
  constructor
  · intro hidden
    simp only [handlePublicSurfaceRequest, answers]
    split <;> rfl
  · simp only [handlePublicSurfaceRequest, answers]
    split <;> rfl

/-! ### The router -/

variable {arrival : Arrival} {g : Gateway P}

theorem routeEnforced_confined (unknown : Unauthenticated deps arrival.request)
    (unlisted : Unlisted arrival.request.pathname arrival.request.method)
    (shielded : Shielded deps.web.toRuntime g.agents arrival.request) :
    Confined queueAndBroker registrations (routeEnforced deps arrival arrival.request) g := by
  refine (process_confined unknown _ g).getD fun _ => ?_
  refine (delegated_confined _ _ _ g).getD fun _ => ?_
  refine (delegated_confined _ _ _ g).getD fun _ => ?_
  refine (delegated_confined _ _ _ g).getD fun _ => ?_
  refine (declaredResult_confined unlisted _ g).getD fun _ => ?_
  refine (agentDirect_confined shielded).getD fun left => ?_
  refine (ConfinedHandler.declines (proxy_declines shielded.unproxied left) g).getD fun _ => ?_
  refine (publicWorkflow_confined unlisted _ g).getD fun _ => ?_
  exact publicSurface_confined unlisted _ g

theorem routeChecked_confined (unknown : Unauthenticated deps arrival.request)
    (shielded : Shielded deps.web.toRuntime g.agents arrival.request) :
    Confined queueAndBroker registrations (routeChecked deps arrival) g := by
  cases checked : enforceCapabilityAccess deps.web deps.capabilities deps.config arrival.request
      arrival.conditions.nowMs with
  | error response =>
    have same : routeChecked deps arrival = fun g => (some response, g) := by
      funext g
      simp only [routeChecked, checked]
    rw [same]
    exact confined_reply (some response) g
  | ok enforced =>
    obtain ⟨rfl, unnamed⟩ := enforceCapabilityAccess_unresolved (unknown _) checked
    have same : routeChecked deps arrival = routeEnforced deps arrival arrival.request := by
      funext g
      simp only [routeChecked, checked]
    rw [same]
    exact routeEnforced_confined unknown (unlisted_of_requiredSurface unnamed) shielded

theorem routeGatewayRequest_confined (unknown : Unauthenticated deps arrival.request)
    (shielded : Shielded deps.web.toRuntime g.agents arrival.request) :
    Confined queueAndBroker registrations (routeGatewayRequest deps arrival) g := by
  refine (capabilitySession_confined unknown g).getD fun _ => ?_
  refine (consentOperator_confined unknown g).getD fun _ => ?_
  refine (metadata_confined g).getD fun _ => ?_
  refine (authorization_confined g).getD fun _ => ?_
  refine (token_confined g).getD fun _ => ?_
  refine (capability_confined unknown _ g).getD fun _ => ?_
  exact routeChecked_confined unknown shielded

/-! ### Runs -/

def run (deps : GatewayDependencies P) (arrivals : List Arrival) (start : Gateway P) :
    List Reply × Gateway P :=
  serve (routeGatewayRequest deps) arrivals start

/-- At no point of the run has the database, what the broker received or who is
registered changed, and the replies are the same over any other database. -/
structure Unaffected (deps : GatewayDependencies P) (arrivals : List Arrival) (start : Gateway P) :
    Prop where
  hidden : ∀ before, before <+: arrivals →
    queueAndBroker.get (run deps before start).2 = queueAndBroker.get start
  registered : ∀ before, before <+: arrivals →
    registrations (run deps before start).2 = registrations start
  replies : ∀ other, (run deps arrivals (queueAndBroker.put other start)).1 =
    (run deps arrivals start).1

theorem run_confined {arrivals : List Arrival}
    (unknown : ∀ arrival ∈ arrivals, Unauthenticated deps arrival.request) {start : Gateway P}
    (shielded : ∀ arrival ∈ arrivals, Shielded deps.web.toRuntime start.agents arrival.request) :
    Confined queueAndBroker registrations (run deps arrivals) start :=
  serve_confined (fun arrival mem _ same => routeGatewayRequest_confined (unknown arrival mem)
    (shielded_of_registrations same (shielded arrival mem))) rfl

theorem unaffected_of_shielded {arrivals : List Arrival}
    (unknown : ∀ arrival ∈ arrivals, Unauthenticated deps arrival.request) {start : Gateway P}
    (shielded : ∀ arrival ∈ arrivals, Shielded deps.web.toRuntime start.agents arrival.request) :
    Unaffected deps arrivals start := by
  have confined : ∀ before, before <+: arrivals →
      Confined queueAndBroker registrations (run deps before) start := fun before stem =>
    run_confined (fun arrival mem => unknown arrival (stem.subset mem))
      fun arrival mem => shielded arrival (stem.subset mem)
  refine ⟨fun before stem => (confined before stem).hidden,
    fun before stem => (confined before stem).keeps, fun other => ?_⟩
  rw [(confined arrivals (List.prefix_refl _)).blind other]

/-! ### What an unshielded request does -/

/-- The paths of the agents' routes on which something comes of it. -/
def agentPaths : List String :=
  ["/v1/agent/register", "/v1/agent/claim", "/v1/agent/complete", "/v1/agent/fail",
    "/v1/agent/session/heartbeat"]

/-- No handler before the agents' has a say on them. -/
structure Unclaimed (path : String) : Prop where
  capabilitySessions : path ≠ "/v1/capability-sessions"
  consents : path ≠ "/v1/oauth/pending-consents"
  decision : segmentBetween "/v1/oauth/pending-consents/" "/decision" path = none
  metadata : path ≠ "/.well-known/oauth-authorization-server"
  authorize : path ≠ "/oauth/authorize"
  token : path ≠ "/oauth/token"
  capabilities : path ≠ "/v1/capabilities"
  surface : requiredSurface path "POST" = none
  process : processName path = none
  filesystem : ["/v1/filesystem/list", "/v1/filesystem/stat", "/v1/filesystem/read"].contains path
    = false
  mutation : ["/v1/filesystem/write", "/v1/filesystem/mkdir"].contains path = false
  git : ["/v1/git/head", "/v1/git/log", "/v1/git/refs"].contains path = false
  result : segmentBetween "/v1/workflows/" "/result" path = none

theorem unclaimed_of_agentPath {path : String} (h : path ∈ agentPaths) : Unclaimed path := by
  simp only [agentPaths, List.mem_cons, List.not_mem_nil, or_false] at h
  rcases h with rfl | rfl | rfl | rfl | rfl
  all_goals constructor <;> decide +kernel

/-- What is left to the agents' handlers. -/
theorem reaches_agents (method : arrival.request.method = "POST")
    (path : arrival.request.pathname ∈ agentPaths) (g : Gateway P) :
    routeGatewayRequest deps arrival g =
      (handleAgentDirectRequest deps arrival arrival.request g).getD
        ((handleAgentProxyRequest arrival g).getD
          ((handlePublicWorkflowRequest deps arrival.request arrival.conditions g).getD
            (handlePublicSurfaceRequest deps arrival.request arrival.conditions g))) := by
  have unclaimed := unclaimed_of_agentPath path
  have surface : requiredSurface arrival.request.pathname arrival.request.method = none := by
    rw [method]
    exact unclaimed.surface
  have checked : routeChecked deps arrival g =
      routeEnforced deps arrival arrival.request g := by
    simp only [routeChecked, enforceCapabilityAccess, surface]
  have result : handleDeclaredWorkflowResultRequest deps arrival.request arrival.conditions g =
      none := by
    simp only [handleDeclaredWorkflowResultRequest,
      WorkflowFacade.handleDeclaredWorkflowResultRequest, unclaimed.result, Option.map_none]
  simp only [routeGatewayRequest, handleCapabilitySessionRequest,
    handleOAuthConsentOperatorRequest, handleOAuthAuthorizationServerMetadataRequest,
    handleOAuthAuthorizationRequest, handleOAuthTokenRequest, handleCapabilityRequest,
    if_pos unclaimed.capabilitySessions, if_pos unclaimed.metadata, if_pos unclaimed.authorize,
    if_pos unclaimed.token, if_pos unclaimed.capabilities,
    if_pos (And.intro unclaimed.consents unclaimed.decision), Option.getD_none, checked,
    routeEnforced, handleRegisteredProcessRequest, if_pos unclaimed.process,
    handleFilesystemRequest, handleFilesystemMutationRequest, handleGitMetadataRequest, delegated,
    unclaimed.filesystem, unclaimed.mutation, unclaimed.git, Bool.not_false, if_true, result]

theorem agentPath_of_proxied (forward : proxied request = true) :
    request.method = "POST" ∧ request.pathname ∈ agentPaths ∧
      request.pathname ≠ "/v1/agent/register" := by
  rw [proxied, Bool.and_eq_true, Bool.and_eq_true, decide_eq_true_eq, decide_eq_true_eq] at forward
  obtain ⟨⟨method, routed⟩, other⟩ := forward
  rw [List.lookup_isSome_iff] at routed
  obtain ⟨route, mem, path⟩ := routed
  rw [beq_iff_eq] at path
  rw [path] at other ⊢
  refine ⟨method, ?_⟩
  have listed : ∀ route ∈ AGENT_ROUTES,
      route.1 ∉ ["/v1/agent/register", "/v1/agent/heartbeat"] →
        route.1 ∈ agentPaths ∧ route.1 ≠ "/v1/agent/register" := by
    decide +kernel
  exact listed route mem other

theorem proxied_forwarded (forward : proxied arrival.request = true) (g : Gateway P) :
    (routeGatewayRequest deps arrival g).2.broker ≠ g.broker := by
  obtain ⟨method, path, other⟩ := agentPath_of_proxied forward
  have declines : handleAgentDirectRequest deps arrival arrival.request g = none := by
    simp only [agentPaths, List.mem_cons, List.not_mem_nil, or_false] at path
    rw [handleAgentDirectRequest, AgentDirect.handleAgentDirectRequest]
    rcases path with path | path | path | path | path
    · exact absurd path other
    all_goals simp [path, method]
  rw [proxied, Bool.and_eq_true, Bool.and_eq_true] at forward
  obtain ⟨brokerPath, route⟩ := Option.isSome_iff_exists.mp forward.1.2
  have forwarded : handleAgentProxyRequest arrival g =
      some (some (arrival.brokerReply.getD brokerUnavailable),
        { g with
          broker := g.broker ++
            [⟨"POST", brokerPath, forwardHeaders arrival.request, arrival.request.body⟩] }) := by
    rw [handleAgentProxyRequest, route]
    exact if_neg (not_not_intro method)
  rw [reaches_agents method path, declines, forwarded]
  simp only [Option.getD_none, Option.getD_some, ne_eq, List.append_right_eq_self,
    List.cons_ne_nil, not_false_eq_true]

theorem registers_registered (joins : registers deps.web.toRuntime arrival.request = true)
    {g : Gateway P} (fresh : registrations g = .empty) :
    registrations (routeGatewayRequest deps arrival g).2 ≠ registrations g := by
  rw [registers, Bool.and_eq_true, decide_eq_true_eq] at joins
  obtain ⟨⟨path, method⟩, accepted⟩ := joins
  have agentPath : arrival.request.pathname ∈ agentPaths := by
    rw [path]
    exact List.mem_cons_self
  obtain ⟨response, agents, registered, agentId, found⟩ : ∃ response agents,
      AgentDirect.handleRegister deps.web.toRuntime g.agents arrival.request (arrival.clock 0)
        arrival.agentToken = (.reply response, agents) ∧
      ∃ agentId, (agents.agentTokens.find? agentId).isSome := by
    rw [AgentDirect.handleRegister]
    generalize deps.web.bodyOrEmpty arrival.request = body at accepted ⊢
    cases body with
    | obj fields =>
      dsimp only at accepted ⊢
      generalize (Json.obj fields).field "agent_id" = named at accepted ⊢
      match named with
      | some (.str agentId) =>
        rw [Bool.not_eq_true', decide_eq_false_iff_not] at accepted
        simp only [if_neg accepted]
        refine ⟨_, _, rfl, agentId, ?_⟩
        simp only [KeyedTable.Table.find?_upsert, if_true, Option.isSome_some]
      | none | some .null | some (.bool _) | some (.num _) | some (.arr _) | some (.obj _) =>
        cases accepted
    | null | bool | num | str | arr => cases accepted
  have answered : handleAgentDirectRequest deps arrival arrival.request g =
      some (some response, { g with agents := agents }) := by
    rw [handleAgentDirectRequest, AgentDirect.handleAgentDirectRequest]
    simp [path, method, registered, settle]
  rw [reaches_agents method agentPath, answered, Option.getD_some, fresh]
  intro same
  have none_found : (agents.agentTokens.find? agentId).isSome = false := by
    rw [show agents.agentTokens = .empty from same, KeyedTable.Table.find?_empty]
    rfl
  rw [none_found] at found
  cases found

/-! ### When nothing comes of unauthenticated requests -/

theorem shielded_of_fresh {agents : Agents} {rt : Runtime} (fresh : agents.agentTokens = .empty)
    (unproxied : proxied request = false) (unregistering : registers rt request = false) :
    Shielded rt agents request := by
  have stranger : ∀ agentId, verifyAgentToken agents request agentId = false := by
    intro agentId
    unfold verifyAgentToken
    split
    · simp only [fresh, KeyedTable.Table.find?_empty, Option.any_none, Bool.and_false]
    · rfl
  refine ⟨unproxied, unregistering, ?_⟩
  rw [actsAsAgent, stranger, stranger, Bool.and_false, Bool.and_false, Bool.or_false]

theorem inert_of_unaffected {arrivals : List Arrival} {start : Gateway P}
    (fresh : registrations start = .empty) (unaffected : Unaffected deps arrivals start) :
    ∀ arrival ∈ arrivals, proxied arrival.request = false ∧
      registers deps.web.toRuntime arrival.request = false := by
  intro arrival mem
  obtain ⟨before, after, rfl⟩ := List.append_of_mem mem
  have stem : before <+: before ++ arrival :: after := List.prefix_append _ _
  have next : before ++ [arrival] <+: before ++ arrival :: after := ⟨after, by simp⟩
  have hidden := (unaffected.hidden _ next).trans (unaffected.hidden _ stem).symm
  have registered := (unaffected.registered _ next).trans (unaffected.registered _ stem).symm
  rw [run, serve_concat] at hidden registered
  constructor
  · by_contra forward
    rw [Bool.not_eq_false] at forward
    exact proxied_forwarded forward _ (congrArg Prod.snd hidden)
  · by_contra joins
    rw [Bool.not_eq_false] at joins
    exact registers_registered joins ((unaffected.registered _ stem).trans fresh) registered

/-- Nothing comes of requests that are neither forwarded, nor register an agent, nor
act as one registered before; and on a gateway just started, where no agent is
registered, of no others. -/
theorem unaffected_iff_shielded (deps : GatewayDependencies P) (arrivals : List Arrival)
    (unknown : ∀ arrival ∈ arrivals, Unauthenticated deps arrival.request) (start : Gateway P) :
    ((∀ arrival ∈ arrivals, Shielded deps.web.toRuntime start.agents arrival.request) →
      Unaffected deps arrivals start) ∧
    (registrations start = .empty →
      (Unaffected deps arrivals start ↔ ∀ arrival ∈ arrivals, proxied arrival.request = false ∧
        registers deps.web.toRuntime arrival.request = false)) :=
  ⟨unaffected_of_shielded unknown, fun fresh => ⟨inert_of_unaffected fresh, fun inert =>
    unaffected_of_shielded unknown fun arrival mem =>
      shielded_of_fresh fresh (inert arrival mem).1 (inert arrival mem).2⟩⟩

end

/-! ### A stranger's run -/

/-- A gateway that reads the bodies of the run below and knows one credential. -/
def strangerDeps : GatewayDependencies Unit where
  web :=
    { Runtime.reading [
        ("register", .obj [("agent_id", .str "mallory")]),
        ("poll", .obj [("agent_id", .str "mallory")]),
        ("work", .obj [("agent", .str "mallory")])] with
      number := fun _ => none
      sha256Hex := fun _ => ""
      hmac := fun _ _ => []
      parseBytes := fun _ => none }
  capabilities := Capabilities.CAPABILITY_REGISTRY
  registry := TASK_REGISTRY
  config := { apiToken := some "root" }
  serve := fun _ _ providers => (none, providers)

def strangerGateway : Gateway Unit where
  facade :=
    { db := (QueueRuns.exec (.enqueue 0 "agent.invoke" "remote-agent" "work" 0 3) .empty).2
      bucket := ⟨1, 1, 1, 0⟩ }
  agents := .empty
  broker := []
  providers := ()

def strangerArrivals : List Arrival := [
  { request := { method := "POST", pathname := "/v1/agent/register", body := "register" }
    agentToken := "drawn" },
  { request :=
      { method := "POST", pathname := "/v1/agent/poll", body := "poll"
        header := fun name => if name = "x-agent-token" then some "drawn" else none } }]

/-- A stranger registers, and the poll under its token claims a task. -/
theorem stranger_is_affecting :
    ¬ ∀ (deps : GatewayDependencies Unit) (arrivals : List Arrival) (start : Gateway Unit),
      (∃ token, deps.config.token? = some token) →
      (∀ arrival ∈ arrivals, Unauthenticated deps arrival.request) →
        Unaffected deps arrivals start := by
  intro h
  have unknown : ∀ arrival ∈ strangerArrivals, Unauthenticated strangerDeps arrival.request := by
    intro arrival mem nowMs
    simp only [strangerArrivals, List.mem_cons, List.not_mem_nil, or_false] at mem
    rcases mem with rfl | rfl <;> rfl
  have unaffected := h strangerDeps strangerArrivals strangerGateway ⟨"root", rfl⟩ unknown
  have same := congrArg Prod.fst (unaffected.hidden _ (List.prefix_refl _))
  have pending : (strangerGateway.facade.db.tasks.find? 1).map Task.status = some "PENDING" := by
    decide +kernel
  have claimed : ((run strangerDeps strangerArrivals strangerGateway).2.facade.db.tasks.find? 1).map
      Task.status = some "CLAIMED" := by
    decide +kernel
  rw [show (run strangerDeps strangerArrivals strangerGateway).2.facade.db =
    strangerGateway.facade.db from same, pending] at claimed
  exact absurd claimed (by decide)

/-- A probe of the gateway's health, and a submission without a credential. -/
def harmlessArrivals : List Arrival := [
  { request := { method := "GET", pathname := "/healthz" } },
  { request := { method := "POST", pathname := "/v1/tasks", body := "work" } }]

theorem harmless_unaffected : Unaffected strangerDeps harmlessArrivals strangerGateway := by
  have unknown : ∀ arrival ∈ harmlessArrivals, Unauthenticated strangerDeps arrival.request := by
    intro arrival mem nowMs
    simp only [harmlessArrivals, List.mem_cons, List.not_mem_nil, or_false] at mem
    rcases mem with rfl | rfl <;> rfl
  refine ((unaffected_iff_shielded strangerDeps harmlessArrivals unknown strangerGateway).2 rfl).mpr
    fun arrival mem => ?_
  simp only [harmlessArrivals, List.mem_cons, List.not_mem_nil, or_false] at mem
  rcases mem with rfl | rfl <;> decide +kernel

end UnauthenticatedRequests
