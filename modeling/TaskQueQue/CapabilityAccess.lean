import TaskQueQue.CapabilityAuth

/-!
# Capability checks at the router

A request for a known surface is checked against the grant of whoever sends it,
once for the surface and, for a task submission, once more for the task's own
descriptor. A session's request that passes goes on under the root token.

The registry is a parameter; the gateway's own is `CAPABILITY_REGISTRY`.
-/

namespace CapabilityAccess

open GatewayValues Capabilities CapabilityAuth

def requiredSurface (path method : String) : Option String :=
  if path = "/v1/tasks" ∧ method = "POST" then some "task.submit"
  else if (segmentBetween "/v1/tasks/" "" path).isSome ∧ method = "GET" then some "task.inspect"
  else if path = "/v1/workflows" ∧ method = "POST" then some "workflow.submit"
  else if (segmentBetween "/v1/workflows/" "" path).isSome ∧ method = "GET" then
    some "workflow.inspect"
  else if (segmentBetween "/v1/workflows/" "/result" path).isSome ∧ method = "GET" then
    some "workflow.result"
  else if (segmentBetween "/v1/workflows/" "/cancel" path).isSome ∧ method = "POST" then
    some "workflow.cancel"
  else if path = "/v1/filesystem/list" ∧ method = "POST" then some "filesystem.list"
  else if path = "/v1/filesystem/stat" ∧ method = "POST" then some "filesystem.stat"
  else if path = "/v1/filesystem/read" ∧ method = "POST" then some "filesystem.read"
  else if path = "/v1/filesystem/write" ∧ method = "POST" then some "filesystem.write"
  else if path = "/v1/filesystem/mkdir" ∧ method = "POST" then some "filesystem.mkdir"
  else if path = "/v1/git/head" ∧ method = "GET" then some "git.head"
  else if path = "/v1/git/log" ∧ method = "GET" then some "git.log"
  else if path = "/v1/git/refs" ∧ method = "GET" then some "git.refs"
  else none

/-- `decision.blockedBy.join(",") || "policy"`. -/
def blockedText (decision : CapabilityDecision) : String :=
  let joined := ",".intercalate (decision.blockedBy.map CapabilityBlocker.asStr)
  if joined = "" then "policy" else joined

def authorizeDescriptor (auth : AuthorizationContext) (descriptor : CapabilityDescriptor) :
    Option Response :=
  let decision := evaluateCapabilityGrant auth.grant descriptor
  if decision.allowed then none
  else some (.coded 403 "capability_denied"
    (descriptor.name ++ " denied by " ++ blockedText decision))

def taskDescriptorFromRequest (web : WebRuntime) (registry : CapabilityRegistry)
    (request : Request) : Option CapabilityDescriptor :=
  match web.parse request.body with
  | some (.obj fields) =>
    match (Json.obj fields).field "type" with
    | some (.str type) =>
      (getCapability registry type).filter fun descriptor => decide (descriptor.kind = .task)
    | _ => none
  | _ => none

def withAuthorization (request : Request) (token : String) : Request :=
  { request with
    header := fun name =>
      if name = "authorization" then some ("Bearer " ++ token) else request.header name }

def internalizeAuthorization (request : Request) (config : GatewayConfig)
    (auth : AuthorizationContext) : Request :=
  match config.token? with
  | some apiToken =>
    if auth.kind = .session then withAuthorization request apiToken else request
  | none => request

/-- The request to go on with, or the answer to give. -/
def enforceCapabilityAccess (web : WebRuntime) (registry : CapabilityRegistry)
    (config : GatewayConfig) (request : Request) (nowMs : Int) : Except Response Request :=
  match requiredSurface request.pathname request.method with
  | none => .ok request
  | some surfaceName =>
    match resolveAuthorizationContext web request config nowMs with
    | none =>
      .error (.coded 401 "unauthorized" "valid root or capability-session bearer token required")
    | some auth =>
      match getCapability registry surfaceName with
      | none =>
        .error (.coded 500 "capability_registry_invalid" (surfaceName ++ " descriptor is missing"))
      | some surface =>
        match authorizeDescriptor auth surface with
        | some denied => .error denied
        | none =>
          let taskDenied :=
            if request.pathname = "/v1/tasks" ∧ request.method = "POST" then
              (taskDescriptorFromRequest web registry request).bind (authorizeDescriptor auth)
            else none
          match taskDenied with
          | some denied => .error denied
          | none => .ok (internalizeAuthorization request config auth)

/-! ### What passes -/

theorem authorizeDescriptor_none {auth : AuthorizationContext} {descriptor : CapabilityDescriptor} :
    authorizeDescriptor auth descriptor = none ↔ Allows auth.grant descriptor := by
  rw [← allowed_iff]
  simp only [authorizeDescriptor, ite_eq_left_iff, reduceCtorEq, imp_false, Bool.not_eq_true,
    Bool.not_eq_false]

/-- Where no surface is named, the queue is not asked for anything. -/
structure Unlisted (path method : String) : Prop where
  submission : ¬ (path = "/v1/tasks" ∧ method = "POST")
  task : ¬ ((segmentBetween "/v1/tasks/" "" path).isSome ∧ method = "GET")
  workflow : ¬ (path = "/v1/workflows" ∧ method = "POST")
  snapshot : ¬ ((segmentBetween "/v1/workflows/" "" path).isSome ∧ method = "GET")
  result : ¬ ((segmentBetween "/v1/workflows/" "/result" path).isSome ∧ method = "GET")
  cancellation : ¬ ((segmentBetween "/v1/workflows/" "/cancel" path).isSome ∧ method = "POST")

theorem ite_some_eq_none {α : Type} {c : Prop} [Decidable c] {a : α} {rest : Option α}
    (h : (if c then some a else rest) = none) : ¬ c ∧ rest = none := by
  by_cases hc : c
  · rw [if_pos hc] at h
    cases h
  · exact ⟨hc, (if_neg hc).symm.trans h⟩

theorem unlisted_of_requiredSurface {path method : String}
    (h : requiredSurface path method = none) : Unlisted path method := by
  rw [requiredSurface] at h
  obtain ⟨submission, h⟩ := ite_some_eq_none h
  obtain ⟨task, h⟩ := ite_some_eq_none h
  obtain ⟨workflow, h⟩ := ite_some_eq_none h
  obtain ⟨snapshot, h⟩ := ite_some_eq_none h
  obtain ⟨result, h⟩ := ite_some_eq_none h
  obtain ⟨cancellation, h⟩ := ite_some_eq_none h
  exact ⟨submission, task, workflow, snapshot, result, cancellation⟩

/-- Passing the check changes at most the authorization header. -/
structure Forwarded (request enforced : Request) : Prop where
  method : enforced.method = request.method
  pathname : enforced.pathname = request.pathname
  search : enforced.search = request.search
  body : enforced.body = request.body
  header : ∀ name, name ≠ "authorization" → enforced.header name = request.header name

theorem forwarded_internalize (request : Request) (config : GatewayConfig)
    (auth : AuthorizationContext) :
    Forwarded request (internalizeAuthorization request config auth) := by
  rw [internalizeAuthorization]
  split
  · split
    · exact ⟨rfl, rfl, rfl, rfl, fun name other => if_neg other⟩
    · exact ⟨rfl, rfl, rfl, rfl, fun _ _ => rfl⟩
  · exact ⟨rfl, rfl, rfl, rfl, fun _ _ => rfl⟩

/-- A request for a surface passes on the authority of a grant that allows the
surface and, for a submission, the task. -/
structure Passed (web : WebRuntime) (registry : CapabilityRegistry) (request : Request)
    (surfaceName : String) (grant : CapabilityGrant) : Prop where
  surface : ∃ surface, getCapability registry surfaceName = some surface ∧ Allows grant surface
  task : request.pathname = "/v1/tasks" → request.method = "POST" →
    ∀ descriptor, taskDescriptorFromRequest web registry request = some descriptor →
      Allows grant descriptor

theorem enforceCapabilityAccess_ok {web : WebRuntime} {registry : CapabilityRegistry}
    {config : GatewayConfig} {request enforced : Request} {nowMs : Int}
    (h : enforceCapabilityAccess web registry config request nowMs = .ok enforced) :
    Forwarded request enforced ∧
    ∀ surfaceName, requiredSurface request.pathname request.method = some surfaceName →
      ∃ auth, resolveAuthorizationContext web request config nowMs = some auth ∧
        Passed web registry request surfaceName auth.grant := by
  rw [enforceCapabilityAccess] at h
  split at h
  · rename_i unlisted
    cases h
    refine ⟨⟨rfl, rfl, rfl, rfl, fun _ _ => rfl⟩, fun surfaceName listed => ?_⟩
    rw [unlisted] at listed
    cases listed
  · rename_i surfaceName listed
    split at h
    · cases h
    split at h
    · cases h
    split at h
    · cases h
    rename_i auth resolved _ surface registered _ allowed
    dsimp only at h
    split at h
    · cases h
    · rename_i taskAllowed
      cases h
      refine ⟨forwarded_internalize _ _ _, fun name hname => ⟨auth, resolved, ?_⟩⟩
      rw [listed] at hname
      cases hname
      refine ⟨⟨surface, registered, authorizeDescriptor_none.mp allowed⟩, ?_⟩
      intro path method descriptor hdescriptor
      rw [if_pos ⟨path, method⟩, hdescriptor, Option.bind_some] at taskAllowed
      exact authorizeDescriptor_none.mp taskAllowed

theorem enforceCapabilityAccess_unlisted {web : WebRuntime} {registry : CapabilityRegistry}
    {config : GatewayConfig} {request : Request} {nowMs : Int}
    (unlisted : requiredSurface request.pathname request.method = none) :
    enforceCapabilityAccess web registry config request nowMs = .ok request := by
  rw [enforceCapabilityAccess, unlisted]

/-- Whoever may use the surface and submit the task gets past the check. -/
theorem enforceCapabilityAccess_of_passed {web : WebRuntime} {registry : CapabilityRegistry}
    {config : GatewayConfig} {request : Request} {nowMs : Int} {auth : AuthorizationContext}
    (resolved : resolveAuthorizationContext web request config nowMs = some auth)
    (passed : ∀ surfaceName, requiredSurface request.pathname request.method = some surfaceName →
      Passed web registry request surfaceName auth.grant) :
    ∃ enforced, enforceCapabilityAccess web registry config request nowMs = .ok enforced := by
  cases listed : requiredSurface request.pathname request.method with
  | none => exact ⟨_, enforceCapabilityAccess_unlisted listed⟩
  | some surfaceName =>
    obtain ⟨⟨surface, registered, allowed⟩, task⟩ := passed surfaceName listed
    have taskAllowed : (if request.pathname = "/v1/tasks" ∧ request.method = "POST" then
        (taskDescriptorFromRequest web registry request).bind (authorizeDescriptor auth)
        else none) = none := by
      split
      · rename_i submission
        rw [Option.bind_eq_none_iff]
        exact fun descriptor named =>
          authorizeDescriptor_none.mpr (task submission.1 submission.2 descriptor named)
      · rfl
    rw [enforceCapabilityAccess, listed]
    simp only [resolved, registered, authorizeDescriptor_none.mpr allowed, taskAllowed]
    exact ⟨_, rfl⟩

/-- Whoever cannot be told gets past the check only where no surface is named. -/
theorem enforceCapabilityAccess_unresolved {web : WebRuntime} {registry : CapabilityRegistry}
    {config : GatewayConfig} {request enforced : Request} {nowMs : Int}
    (unresolved : resolveAuthorizationContext web request config nowMs = none)
    (h : enforceCapabilityAccess web registry config request nowMs = .ok enforced) :
    enforced = request ∧ requiredSurface request.pathname request.method = none := by
  rw [enforceCapabilityAccess, unresolved] at h
  split at h
  · rename_i unlisted
    cases h
    exact ⟨rfl, unlisted⟩
  · cases h

end CapabilityAccess
