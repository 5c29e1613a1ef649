import TaskQueQue.AuthorizationCodes
import TaskQueQue.CimdDiscovery

/-!
# Where a client's policy comes from

A client is registered by the operator, in the environment, or names its own
metadata document. The policy an authorization request is validated against is
resolved from its client identifier.
-/

namespace ClientPolicies

open UrlValues GatewayValues OAuthRequests CimdDiscovery
open CapabilityAuth (safeScope)
open CimdDocument (plainHttps)

/-- A parsed URL with its path and its origin. -/
structure Location extends Url where
  pathname : String
  origin : String

/-- `new URL(text)` with these parts; `none` where it throws. -/
abbrev Locator := String → Option Location

def Locator.parseUrl (locate : Locator) : UrlParser := fun text => (locate text).map Location.toUrl

/-- What is assumed of the platform: an origin is the text of an HTTPS URL, and stays
one with a path. -/
def SerializesOrigins (locate : Locator) : Prop :=
  ∀ text location, locate text = some location → location.protocol = "https:" →
    location.origin ≠ "" ∧ ∀ path ∈ ["", "/mcp"], ∃ again,
      locate (location.origin ++ path) = some again ∧ plainHttps again.toUrl = true ∧
      again.search = "" ∧ again.origin = location.origin

/-! ### The origin -/

def originOnly (location : Location) : Bool :=
  location.protocol == "https:" && location.username == "" && location.password == "" &&
    location.pathname == "/" && location.search == "" && location.hash == ""

def parsePublicHttpsOrigin (locate : Locator) (raw : Option String) (name : String) :
    Except String (Option String) :=
  match (raw.map trim).filter fun value => value ≠ "" with
  | none => .ok none
  | some value =>
    match locate value with
    | none => .error (name ++ " must be a valid absolute HTTPS origin")
    | some location =>
      if location.protocol ≠ "https:" then .error (name ++ " must use HTTPS")
      else if location.username ≠ "" ∨ location.password ≠ "" then
        .error (name ++ " must not contain credentials")
      else if location.pathname ≠ "/" ∨ location.search ≠ "" ∨ location.hash ≠ "" then
        .error (name ++ " must be an origin without path, query, or fragment")
      else .ok (some location.origin)

def validatePublicOrigin (locate : Locator) (publicOrigin : Option String) : Except String String :=
  match publicOrigin.filter fun value => value ≠ "" with
  | none =>
    .error "GATEWAY_PUBLIC_ORIGIN is required when a pre-registered OAuth client is configured"
  | some value =>
    match locate value with
    | none => .error "publicOrigin must be a valid absolute HTTPS origin"
    | some location =>
      if originOnly location = false then .error "publicOrigin must be an absolute HTTPS origin"
      else .ok location.origin

/-! ### Registered clients -/

structure OAuthPublicClientEnv where
  GATEWAY_OAUTH_CLIENT_ID : Option String := none
  GATEWAY_OAUTH_REDIRECT_URI : Option String := none
  GATEWAY_OAUTH_CLIENT_SCOPES : Option String := none

def MAX_SCOPES : Nat := 64
def MAX_SCOPE_BYTES : Nat := 128

def exactConfiguredValue (raw : Option String) (name : String) : Except String (Option String) :=
  match raw.filter fun value => value ≠ "" with
  | none => .ok none
  | some value =>
    if value ≠ trim value then
      .error (name ++ " must not contain leading or trailing whitespace")
    else .ok (some value)

/-- A configured value, or what its parser says of it. -/
def configured {α : Type} (raw : Option String) (name : String) (parse : String → Except String α) :
    Except String (Option α) :=
  match exactConfiguredValue raw name with
  | .error message => .error message
  | .ok none => .ok none
  | .ok (some value) => (parse value).map some

def parseClientId (value : String) : Except String String :=
  if PendingConsents.clientIdPattern value = false then
    .error "GATEWAY_OAUTH_CLIENT_ID must be 1..512 visible ASCII characters without spaces"
  else .ok value

def parseRedirectUri (parseUrl : UrlParser) (value : String) : Except String String :=
  match parseUrl value with
  | none => .error "GATEWAY_OAUTH_REDIRECT_URI must be a valid absolute HTTPS URL"
  | some url =>
    if url.protocol ≠ "https:" then .error "GATEWAY_OAUTH_REDIRECT_URI must use HTTPS"
    else if url.username ≠ "" ∨ url.password ≠ "" then
      .error "GATEWAY_OAUTH_REDIRECT_URI must not contain credentials"
    else if url.hash ≠ "" then .error "GATEWAY_OAUTH_REDIRECT_URI must not contain a fragment"
    else .ok value

/-- The scopes that follow those already seen. -/
def checkScopes (seen : List String) : List String → Except String (List String)
  | [] => .ok seen
  | scope :: rest =>
    if safeScope scope = false ∨ MAX_SCOPE_BYTES < scope.utf8ByteSize then
      .error "GATEWAY_OAUTH_CLIENT_SCOPES contains a scope that cannot map to capability authority"
    else if scope ∈ seen then
      .error "GATEWAY_OAUTH_CLIENT_SCOPES must not contain duplicate scopes"
    else checkScopes (seen ++ [scope]) rest

def parseScopes (value : String) : Except String (List String) :=
  if doubleSpace value.toList then
    .error "GATEWAY_OAUTH_CLIENT_SCOPES must use single ASCII-space separators"
  else if MAX_SCOPES < (splitSpaces value).length then
    .error "GATEWAY_OAUTH_CLIENT_SCOPES must contain 1..64 scopes"
  else checkScopes [] (splitSpaces value)

/-- The registered client; an error where the program does not start. -/
def loadOAuthPublicClientPolicy (locate : Locator) (env : OAuthPublicClientEnv)
    (publicOrigin : Option String) : Except String (Option OAuthPublicClientPolicy) :=
  match configured env.GATEWAY_OAUTH_CLIENT_ID "GATEWAY_OAUTH_CLIENT_ID" parseClientId,
      configured env.GATEWAY_OAUTH_REDIRECT_URI "GATEWAY_OAUTH_REDIRECT_URI"
        (parseRedirectUri locate.parseUrl),
      configured env.GATEWAY_OAUTH_CLIENT_SCOPES "GATEWAY_OAUTH_CLIENT_SCOPES" parseScopes with
  | .error message, _, _ => .error message
  | .ok _, .error message, _ => .error message
  | .ok _, .ok _, .error message => .error message
  | .ok none, .ok none, .ok none => .ok none
  | .ok (some clientId), .ok (some redirectUri), .ok (some scopes) =>
    match validatePublicOrigin locate publicOrigin with
    | .error message => .error message
    | .ok origin => .ok (some ⟨clientId, redirectUri, origin ++ "/mcp", scopes⟩)
  | .ok _, .ok _, .ok _ =>
    .error "GATEWAY_OAUTH_CLIENT_ID, GATEWAY_OAUTH_REDIRECT_URI, and GATEWAY_OAUTH_CLIENT_SCOPES must be configured together"

/-! ### Resolution -/

def CIMD_DYNAMIC_SCOPES : List String := ["capability.read"]

/-- The discovery a gateway is configured with, and its timeout. -/
structure CimdDiscoveryDependencies where
  environment : Environment
  timeoutMs : Option Int := none

structure PolicyRefusal where
  error : String
  description : String
  status : Nat
deriving DecidableEq

/-- Exactly one non-empty value of a parameter. -/
def requiredParameter (url : Url) (name : String) : Except PolicyRefusal String :=
  match exactSingleValue url.getAll name with
  | none | some "duplicate" | some "" =>
    .error ⟨"invalid_request",
      "authorization request must contain exactly one non-empty " ++ name, 400⟩
  | some value => .ok value

def discoveryRefusal (error : CimdDiscoveryError) : PolicyRefusal :=
  if error = .resolution_failed ∨ error = .fetch_failed then
    ⟨"cimd_discovery_unavailable", "client metadata could not be retrieved safely", 503⟩
  else
    ⟨"unauthorized_client", "client metadata is invalid or does not satisfy server policy", 400⟩

def resolveOAuthAuthorizationClientPolicy (url : Url) (publicOrigin : String)
    (staticPolicy : Option OAuthPublicClientPolicy) (cimd : Option CimdDiscoveryDependencies) :
    Except PolicyRefusal OAuthPublicClientPolicy :=
  match requiredParameter url "client_id" with
  | .error refusal => .error refusal
  | .ok clientId =>
    match requiredParameter url "redirect_uri" with
    | .error refusal => .error refusal
    | .ok redirectUri =>
      match staticPolicy.filter fun policy => policy.clientId == clientId with
      | some policy => .ok policy
      | none =>
        match cimd with
        | none =>
          .error ⟨"unauthorized_client",
            "client_id is not pre-registered and CIMD discovery is not configured", 400⟩
        | some cimd =>
          match (discoverCimdClient cimd.environment cimd.timeoutMs clientId).1 with
          | .error error => .error (discoveryRefusal error)
          | .ok discovered =>
            if redirectUri ∉ discovered.metadata.redirectUris then
              .error ⟨"invalid_redirect_uri",
                "redirect_uri does not exactly match a CIMD-registered URI", 400⟩
            else .ok ⟨clientId, redirectUri, publicOrigin ++ "/mcp", CIMD_DYNAMIC_SCOPES⟩

theorem resolve_discovered {url : Url} {publicOrigin clientId redirectUri : String}
    {staticPolicy : Option OAuthPublicClientPolicy} {cimd : CimdDiscoveryDependencies}
    {client : DiscoveredCimdClient} (named : requiredParameter url "client_id" = .ok clientId)
    (redirected : requiredParameter url "redirect_uri" = .ok redirectUri)
    (other : (staticPolicy.filter fun policy => policy.clientId == clientId) = none)
    (found : (discoverCimdClient cimd.environment cimd.timeoutMs clientId).1 = .ok client)
    (listed : redirectUri ∈ client.metadata.redirectUris) :
    resolveOAuthAuthorizationClientPolicy url publicOrigin staticPolicy (some cimd) =
      .ok ⟨clientId, redirectUri, publicOrigin ++ "/mcp", CIMD_DYNAMIC_SCOPES⟩ := by
  rw [resolveOAuthAuthorizationClientPolicy, named]
  dsimp only
  rw [redirected]
  dsimp only
  rw [other]
  dsimp only
  rw [found]
  dsimp only
  rw [if_neg (not_not.mpr listed)]

end ClientPolicies
