import TaskQueQue.UrlValues

/-!
# Authorization requests

A request to authorize is a URL whose parameters are compared with a client's
policy. Every parameter the validator reads must occur at most once; the client,
the redirect URI and the resource must be the policy's, the scopes a part of the
policy's, and the challenge one of S256.

The response type and the challenge method of a validated request are literals.
-/

namespace OAuthRequests

open UrlValues GatewayValues

structure OAuthPublicClientPolicy where
  clientId : String
  redirectUri : String
  resource : String
  scopes : List String
deriving DecidableEq

structure ValidatedOAuthAuthorizationRequest where
  clientId : String
  redirectUri : String
  resource : String
  scopes : List String
  state : Option String
  codeChallenge : String
deriving DecidableEq

inductive OAuthAuthorizationValidationErrorCode
  | invalid_request
  | unauthorized_client
  | unsupported_response_type
  | invalid_redirect_uri
  | invalid_target
  | invalid_scope
  | invalid_code_challenge
deriving DecidableEq

def OAuthAuthorizationValidationErrorCode.asStr : OAuthAuthorizationValidationErrorCode → String
  | .invalid_request => "invalid_request"
  | .unauthorized_client => "unauthorized_client"
  | .unsupported_response_type => "unsupported_response_type"
  | .invalid_redirect_uri => "invalid_redirect_uri"
  | .invalid_target => "invalid_target"
  | .invalid_scope => "invalid_scope"
  | .invalid_code_challenge => "invalid_code_challenge"

structure OAuthAuthorizationFailure where
  error : OAuthAuthorizationValidationErrorCode
  description : String
  redirectAllowed : Bool := false
deriving DecidableEq

def SINGLE_VALUE_PARAMS : List String :=
  ["response_type", "client_id", "redirect_uri", "resource", "scope", "state", "code_challenge",
    "code_challenge_method"]

/-! ### Patterns -/

def base64UrlChar (c : Char) : Bool := asciiAlphanumeric c || c == '_' || c == '-'

/-- `/^[A-Za-z0-9_-]{least,most}$/`. -/
def base64UrlText (least most : Nat) (value : String) : Bool :=
  decide (least ≤ value.toList.length ∧ value.toList.length ≤ most) &&
    value.toList.all base64UrlChar

def pkceS256Challenge? (value : String) : Bool := base64UrlText 43 43 value

/-- `/^[\x21\x23-\x5B\x5D-\x7E]+$/`. -/
def scopeToken (value : String) : Bool :=
  value ≠ "" && value.toList.all fun c =>
    decide (33 ≤ c.toNat ∧ c.toNat ≤ 126 ∧ c.toNat ≠ 34 ∧ c.toNat ≠ 92)

/-! ### The validator -/

/-- The value of a parameter, `some "duplicate"` if it has several. -/
def exactSingleValue (getAll : String → List String) (name : String) : Option String :=
  match getAll name with
  | [] => none
  | [value] => some value
  | _ => some "duplicate"

def policyIsValid (policy : OAuthPublicClientPolicy) : Bool :=
  policy.clientId ≠ "" && policy.redirectUri ≠ "" && policy.resource ≠ "" &&
    !policy.scopes.isEmpty && decide policy.scopes.Nodup && policy.scopes.all scopeToken

def splitSpaces (value : String) : List String := (value.toList.splitOn ' ').map String.ofList

def doubleSpace : List Char → Bool
  | ' ' :: ' ' :: _ => true
  | _ :: rest => doubleSpace rest
  | [] => false

/-- The scopes a parameter asks for, or why it may not. -/
def requestedScopes (policy : OAuthPublicClientPolicy) (rawScope : Option String) :
    Except String (List String) :=
  match rawScope with
  | none => .error "scope must be non-empty"
  | some raw =>
    if trim raw = "" then .error "scope must be non-empty"
    else if raw ≠ trim raw ∨ doubleSpace raw.toList then
      .error "scope must use single ASCII-space separators"
    else
      let scopes := splitSpaces raw
      if ¬ scopes.Nodup ∨ scopes.any (fun scope => !scopeToken scope) ∨
          scopes.any (fun scope => !policy.scopes.contains scope) then
        .error "requested scopes must be a unique subset of the registered client scopes"
      else .ok scopes

def validateOAuthAuthorizationRequest (url : Url) (policy : OAuthPublicClientPolicy) :
    Except OAuthAuthorizationFailure ValidatedOAuthAuthorizationRequest :=
  if policyIsValid policy = false then
    .error ⟨.invalid_request, "OAuth client policy is invalid", false⟩
  else
    let value := exactSingleValue url.getAll
    match SINGLE_VALUE_PARAMS.find? fun name => value name == some "duplicate" with
    | some name => .error ⟨.invalid_request, "duplicate " ++ name ++ " parameter", false⟩
    | none =>
      if value "client_id" ≠ some policy.clientId then
        .error ⟨.unauthorized_client, "client_id is not registered", false⟩
      else if value "redirect_uri" ≠ some policy.redirectUri then
        .error ⟨.invalid_redirect_uri, "redirect_uri does not exactly match the registered URI", false⟩
      else if value "response_type" ≠ some "code" then
        .error ⟨.unsupported_response_type, "response_type must be code", true⟩
      else if value "resource" ≠ some policy.resource then
        .error ⟨.invalid_target, "resource does not exactly match the configured MCP resource", true⟩
      else
        match requestedScopes policy (value "scope") with
        | .error description => .error ⟨.invalid_scope, description, true⟩
        | .ok scopes =>
          match value "code_challenge" with
          | some codeChallenge =>
            if value "code_challenge_method" ≠ some "S256" ∨
                pkceS256Challenge? codeChallenge = false then
              .error ⟨.invalid_code_challenge,
                "PKCE S256 with a 43-character base64url challenge is required", true⟩
            else if value "state" = some "" then
              .error ⟨.invalid_request, "state must not be empty when present", true⟩
            else
              .ok ⟨policy.clientId, policy.redirectUri, policy.resource, scopes, value "state",
                codeChallenge⟩
          | none =>
            .error ⟨.invalid_code_challenge,
              "PKCE S256 with a 43-character base64url challenge is required", true⟩

/-! ### What an accepted request is -/

/-- An accepted request is a part of its policy, with a challenge of the right shape. -/
structure Granted (url : Url) (policy : OAuthPublicClientPolicy)
    (request : ValidatedOAuthAuthorizationRequest) : Prop where
  valid : policyIsValid policy = true
  clientId : request.clientId = policy.clientId
  redirectUri : request.redirectUri = policy.redirectUri
  resource : request.resource = policy.resource
  distinct : request.scopes.Nodup
  tokens : ∀ scope ∈ request.scopes, scopeToken scope = true
  registered : ∀ scope ∈ request.scopes, scope ∈ policy.scopes
  scopes : request.scopes ≠ []
  state : request.state = exactSingleValue url.getAll "state"
  filled : request.state ≠ some ""
  challenge : pkceS256Challenge? request.codeChallenge = true

theorem splitSpaces_ne_nil (value : String) : splitSpaces value ≠ [] := by
  rw [splitSpaces]
  exact fun h => List.splitOn_ne_nil _ _ (List.map_eq_nil_iff.mp h)

theorem requestedScopes_ok {policy : OAuthPublicClientPolicy} {rawScope : Option String}
    {scopes : List String} (h : requestedScopes policy rawScope = .ok scopes) :
    scopes ≠ [] ∧ scopes.Nodup ∧ (∀ scope ∈ scopes, scopeToken scope = true) ∧
      ∀ scope ∈ scopes, scope ∈ policy.scopes := by
  unfold requestedScopes at h
  split at h
  · cases h
  obtain ⟨_, h⟩ := guard_ok h
  obtain ⟨_, h⟩ := guard_ok h
  obtain ⟨subset, h⟩ := guard_ok h
  cases h
  rw [not_or, not_or, not_not, List.any_eq_true, List.any_eq_true] at subset
  obtain ⟨distinct, tokens, registered⟩ := subset
  refine ⟨splitSpaces_ne_nil _, distinct, fun scope mem => ?_, fun scope mem => ?_⟩
  · cases token : scopeToken scope with
    | true => rfl
    | false => exact absurd ⟨scope, mem, by rw [token]; rfl⟩ tokens
  · cases listed : policy.scopes.contains scope with
    | true => exact List.contains_iff_mem.mp listed
    | false => exact absurd ⟨scope, mem, by rw [listed]; rfl⟩ registered

theorem validate_granted {url : Url} {policy : OAuthPublicClientPolicy}
    {request : ValidatedOAuthAuthorizationRequest}
    (h : validateOAuthAuthorizationRequest url policy = .ok request) : Granted url policy request := by
  rw [validateOAuthAuthorizationRequest] at h
  obtain ⟨valid, h⟩ := guard_ok h
  rw [Bool.not_eq_false] at valid
  dsimp only at h
  split at h
  · cases h
  obtain ⟨_, h⟩ := guard_ok h
  obtain ⟨_, h⟩ := guard_ok h
  obtain ⟨_, h⟩ := guard_ok h
  obtain ⟨_, h⟩ := guard_ok h
  split at h
  · cases h
  rename_i scopes asked
  split at h
  · obtain ⟨challenge, h⟩ := guard_ok h
    obtain ⟨filled, h⟩ := guard_ok h
    cases h
    rw [not_or, Bool.not_eq_false] at challenge
    obtain ⟨filledScopes, distinct, tokens, registered⟩ := requestedScopes_ok asked
    exact ⟨valid, rfl, rfl, rfl, distinct, tokens, registered, filledScopes, rfl, filled,
      challenge.2⟩
  · cases h

end OAuthRequests
