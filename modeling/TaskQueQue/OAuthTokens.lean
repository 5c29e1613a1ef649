import TaskQueQue.CapabilitySessions
import TaskQueQue.ClientPolicies

/-!
# What a token request is checked for

A code that was consumed says which client, redirect URI and resource it is bound
to, and which scopes were approved. The request has to name them again and to
prove, by the verifier of its challenge, that it began the authorization. The
scopes are then mapped to the least grant that covers them.
-/

namespace OAuthTokens

open UrlValues GatewayValues Capabilities OAuthRequests AuthorizationCodes ClientPolicies
open CapabilityAuth (encode base64UrlEncode)
open CimdNetwork (IsIP)
open CimdClientId (validateCimdClientId)

inductive OAuthTokenValidationErrorCode
  | invalid_request
  | invalid_client
  | invalid_grant
  | invalid_target
deriving DecidableEq

def OAuthTokenValidationErrorCode.asStr : OAuthTokenValidationErrorCode → String
  | .invalid_request => "invalid_request"
  | .invalid_client => "invalid_client"
  | .invalid_grant => "invalid_grant"
  | .invalid_target => "invalid_target"

abbrev Params := List (String × String)

def Params.getAll (params : Params) (name : String) : List String :=
  (params.filter fun param => param.1 == name).map Prod.snd

def TOKEN_PARAMS : List String :=
  ["grant_type", "code", "client_id", "redirect_uri", "resource", "code_verifier"]

/-! ### The challenge -/

/-- `/^[A-Za-z0-9\-._~]{43,128}$/`. -/
def pkceVerifier (value : String) : Bool :=
  decide (43 ≤ value.toList.length ∧ value.toList.length ≤ 128) &&
    value.toList.all fun c => asciiAlphanumeric c || "-._~".toList.contains c

def pkceS256Challenge (sha256 : List UInt8 → List UInt8) (verifier : String) : Option String :=
  if pkceVerifier verifier = false then none else some (base64UrlEncode (sha256 (encode verifier)))

/-! ### The request against the code's binding -/

def validateOAuthTokenRequest (sha256 : List UInt8 → List UInt8) (params : Params)
    (binding : OAuthAuthorizationCodeBinding) :
    Except (OAuthTokenValidationErrorCode × String) Unit :=
  if binding.code = "" ∨ binding.clientId = "" ∨ binding.redirectUri = "" ∨ binding.resource = "" ∨
      pkceS256Challenge? binding.codeChallenge = false then
    .error (.invalid_grant, "authorization-code binding is invalid")
  else
    let value := exactSingleValue params.getAll
    match TOKEN_PARAMS.find? fun name => value name == some "duplicate" with
    | some name => .error (.invalid_request, "duplicate " ++ name ++ " parameter")
    | none =>
      if value "grant_type" ≠ some "authorization_code" then
        .error (.invalid_request, "grant_type must be authorization_code")
      else if value "client_id" ≠ some binding.clientId then
        .error (.invalid_client, "client_id does not match the authorization code")
      else if value "redirect_uri" ≠ some binding.redirectUri then
        .error (.invalid_grant, "redirect_uri does not match the authorization code")
      else if value "resource" ≠ some binding.resource then
        .error (.invalid_target, "resource does not match the authorization code")
      else if value "code" ≠ some binding.code then
        .error (.invalid_grant, "authorization code is invalid")
      else
        match value "code_verifier" with
        | none => .error (.invalid_grant, "PKCE code_verifier is invalid")
        | some codeVerifier =>
          if pkceVerifier codeVerifier = false then
            .error (.invalid_grant, "PKCE code_verifier is invalid")
          else if pkceS256Challenge sha256 codeVerifier ≠ some binding.codeChallenge then
            .error (.invalid_grant, "PKCE verification failed")
          else .ok ()

/-- What a request that passed has named and proved. -/
structure Proved (sha256 : List UInt8 → List UInt8) (params : Params)
    (binding : OAuthAuthorizationCodeBinding) : Prop where
  clientId : params.getAll "client_id" = [binding.clientId]
  redirectUri : params.getAll "redirect_uri" = [binding.redirectUri]
  resource : params.getAll "resource" = [binding.resource]
  code : params.getAll "code" = [binding.code]
  verifier : ∃ verifier, params.getAll "code_verifier" = [verifier] ∧
    pkceS256Challenge sha256 verifier = some binding.codeChallenge

/-- A parameter whose value is not the mark of several has one value. -/
theorem getAll_of_exact {getAll : String → List String} {name value : String}
    (h : exactSingleValue getAll name = some value) (single : value ≠ "duplicate") :
    getAll name = [value] := by
  unfold exactSingleValue at h
  split at h
  · cases h
  · rename_i own found
    cases h
    exact found
  · cases h
    exact absurd rfl single

theorem validateOAuthTokenRequest_ok {sha256 : List UInt8 → List UInt8} {params : Params}
    {binding : OAuthAuthorizationCodeBinding}
    (h : validateOAuthTokenRequest sha256 params binding = .ok ()) : Proved sha256 params binding := by
  unfold validateOAuthTokenRequest at h
  obtain ⟨_, h⟩ := guard_ok h
  dsimp only at h
  split at h
  · cases h
  rename_i unmarked
  have single : ∀ name ∈ TOKEN_PARAMS, ∀ value, exactSingleValue params.getAll name = some value →
      params.getAll name = [value] := by
    intro name mem value found
    refine getAll_of_exact found fun marked => ?_
    have clear := List.find?_eq_none.mp unmarked name mem
    rw [found, marked] at clear
    exact clear rfl
  obtain ⟨_, h⟩ := guard_ok h
  obtain ⟨clientId, h⟩ := guard_ok h
  obtain ⟨redirectUri, h⟩ := guard_ok h
  obtain ⟨resource, h⟩ := guard_ok h
  obtain ⟨code, h⟩ := guard_ok h
  split at h
  · cases h
  rename_i verifier found
  obtain ⟨_, h⟩ := guard_ok h
  obtain ⟨proved, h⟩ := guard_ok h
  exact ⟨single _ (by decide) _ (not_not.mp clientId), single _ (by decide) _ (not_not.mp redirectUri),
    single _ (by decide) _ (not_not.mp resource), single _ (by decide) _ (not_not.mp code),
    verifier, single _ (by decide) _ found, not_not.mp proved⟩

/-! ### The grant of approved scopes -/

inductive OAuthScopeGrantError
  | empty_scope
  | wildcard_scope
  | unmapped_scope
deriving DecidableEq

/-- The levels after the scopes that follow those already seen. -/
def raiseLevels (registry : CapabilityRegistry) (seen : List String) (depth : CapabilityDepth)
    (authority : CapabilityAuthority) :
    List String → Except OAuthScopeGrantError (CapabilityDepth × CapabilityAuthority)
  | [] => .ok (depth, authority)
  | scope :: rest =>
    if scope ∈ seen then .error .unmapped_scope
    else if scope = "*" ∨ endsWith scope ".*" then .error .wildcard_scope
    else
      let matching := (registry.map Prod.snd).filter fun descriptor =>
        descriptor.requiredScopes.contains scope
      if matching.isEmpty then .error .unmapped_scope
      else
        raiseLevels registry (scope :: seen)
          (matching.foldl (fun depth descriptor => max depth descriptor.minDepth) depth)
          (matching.foldl (fun authority descriptor => max authority descriptor.minAuthority) authority)
          rest

def deriveOAuthCapabilityGrant (scopes : List String) (registry : CapabilityRegistry) :
    Except OAuthScopeGrantError CapabilityGrant :=
  if scopes = [] then .error .empty_scope
  else
    (raiseLevels registry [] CapabilityDepth.DISCOVER CapabilityAuthority.OBSERVE scopes).map
      fun levels => ⟨levels.1, levels.2, scopes⟩

theorem deriveOAuthCapabilityGrant_scopes {scopes : List String} {registry : CapabilityRegistry}
    {grant : CapabilityGrant} (h : deriveOAuthCapabilityGrant scopes registry = .ok grant) :
    grant.scopes = scopes := by
  unfold deriveOAuthCapabilityGrant at h
  obtain ⟨_, h⟩ := guard_ok h
  cases levels : raiseLevels registry [] CapabilityDepth.DISCOVER CapabilityAuthority.OBSERVE scopes with
  | error error =>
    rw [levels] at h
    cases h
  | ok levels' =>
    rw [levels] at h
    cases h
    rfl

/-! ### The policy behind a code -/

/-- Whether a consumed code is bound to the registered client or to one that could have
named its own metadata. -/
def bindingMatchesConfiguredAuthority (parseUrl : UrlParser) (isIP : IsIP)
    (publicOrigin : Option String) (policy : Option OAuthPublicClientPolicy) (cimdEnabled : Bool)
    (consumed : ConsumedOAuthAuthorizationCode) : Bool :=
  let binding := consumed.binding
  match policy.filter fun policy => binding.clientId == policy.clientId &&
      binding.redirectUri == policy.redirectUri && binding.resource == policy.resource with
  | some policy => consumed.scopes.all fun scope => policy.scopes.contains scope
  | none =>
    cimdEnabled &&
      (publicOrigin.filter fun origin => origin ≠ "").any (fun origin =>
        binding.resource == origin ++ "/mcp") &&
      (validateCimdClientId parseUrl isIP binding.clientId).toOption.isSome &&
      (parseUrl binding.redirectUri).any CimdDocument.plainHttps &&
      consumed.scopes == CIMD_DYNAMIC_SCOPES

end OAuthTokens
