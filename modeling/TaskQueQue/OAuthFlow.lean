import TaskQueQue.Histories
import TaskQueQue.OAuthTokens

/-!
# The authorization-code flow

Browsers start and continue authorizations, an operator decides on them, clients
redeem codes. What one request does between two awaits is one step on the two
stores; between a token request's redemption and its answer any other step may
happen. Clocks, identifiers, codes and resolved policies are whatever they are.

Beside the stores the world keeps a log of what was done to them, newest first. No
step reads it.
-/

namespace OAuthFlow

open UrlValues GatewayValues Capabilities CapabilityAuth OAuthRequests OAuthRedirects ClientPolicies
open AuthorizationCodes OAuthTokens CapabilitySessions
open PendingConsents (StoreOptions PendingOAuthConsentStore OAuthConsentDecision currentTime
  requestIdText PendingOAuthConsentProjection)
open CimdNetwork (IsIP)

def AUTHORIZATION_PATH : String := "/oauth/authorize"
def OAUTH_ACCESS_TOKEN_TTL_SECONDS : ℚ := 15 * 60
def MAX_TOKEN_REQUEST_BYTES : Nat := 16 * 1024
def MAX_DECISION_BODY_BYTES : Nat := 4 * 1024
def PREFLIGHT_CODE : String := "AAAAAAAAAAAAAAAAAAAAAAAAAAAAAAAAAAAAAAAAAAA"

/-- A clock's answers within one step, in the order they are read. -/
abbrev Readings := Nat → Option ℚ

structure OAuthConfig extends GatewayConfig where
  oauthAuthorizationServer : Option String

/-- The gateway's configuration and the platform it runs on. -/
structure Gateway where
  web : WebRuntime
  parseUrl : UrlParser
  isIP : IsIP
  /-- `new URLSearchParams(text)`. -/
  parseForm : String → Params
  sha256 : List UInt8 → List UInt8
  localeCompare : String → String → Int
  config : OAuthConfig
  registry : CapabilityRegistry
  staticPolicy : Option OAuthPublicClientPolicy
  cimdEnabled : Bool
  pendingOptions : StoreOptions
  codeOptions : StoreOptions

namespace Gateway

def digestCode (env : Gateway) (code : String) : String := env.web.sha256Hex code

def selfHostedIssuer (env : Gateway) : Option String :=
  match env.config.publicOrigin.filter (fun origin => origin ≠ ""),
      env.config.oauthAuthorizationServer.filter (fun server => server ≠ "") with
  | some origin, some server => if server = origin then some server else none
  | _, _ => none

end Gateway

/-! ### The world -/

/-- A token request whose code has been consumed and whose answer is awaited. -/
structure Redemption where
  params : Params
  consumed : ConsumedOAuthAuthorizationCode

inductive Note
  | consentClock (now : Nat)
  | created (requestId : String) (request : ValidatedOAuthAuthorizationRequest) (expiresAtMs : Nat)
  | decided (requestId : String) (decision : OAuthConsentDecision) (operator : Request)
  | consumed (requestId : String) (decision : OAuthConsentDecision)
  | codeClock (now : Nat)
  | issued (requestId digest : String) (request : ValidatedOAuthAuthorizationRequest)
      (expiresAtMs : Nat)
  | revoked (digest : String)
  | redeemed (consumed : ConsumedOAuthAuthorizationCode)
  | token (params : Params) (consumed : ConsumedOAuthAuthorizationCode)
      (session : CapabilitySessionIssue)

structure World (env : Gateway) where
  pending : PendingOAuthConsentStore env.pendingOptions
  codes : OAuthAuthorizationCodeStore env.codeOptions
  inFlight : List Redemption
  log : List Note

/-- What a handler answers; redirects carry their location. -/
inductive Answer
  | json (response : Response)
  | redirect (location : String)

variable {env : Gateway}

namespace World

def initial : World env := ⟨ExpiringStores.Store.empty, ExpiringStores.Store.empty, [], []⟩

/-- An operation of the pending store at a reading of its clock, with the note it leaves. -/
def consents {α : Type} (w : World env) (reading : Option ℚ)
    (operation : PendingOAuthConsentStore env.pendingOptions → Nat →
      α × PendingOAuthConsentStore env.pendingOptions)
    (note : α → Option Note) : Option α × World env :=
  match currentTime reading with
  | none => (none, w)
  | some now =>
    let (result, pending) := operation w.pending now
    (some result,
      { w with pending, log := (note result).toList ++ .consentClock now :: w.log })

/-- The same for the code store. -/
def codesAt {α : Type} (w : World env) (reading : Option ℚ)
    (operation : OAuthAuthorizationCodeStore env.codeOptions → Nat →
      α × OAuthAuthorizationCodeStore env.codeOptions)
    (note : α → Option Note) : Option α × World env :=
  match currentTime reading with
  | none => (none, w)
  | some now =>
    let (result, codes) := operation w.codes now
    (some result, { w with codes, log := (note result).toList ++ .codeClock now :: w.log })

def createConsent (w : World env) (reading : Option ℚ) (ids : Nat → String)
    (request : ValidatedOAuthAuthorizationRequest) :=
  w.consents reading (fun store now => PendingConsents.create env.parseUrl store now ids request)
    fun result =>
      match result with
      | .ok value => some (.created value.requestId request value.expiresAtMs)
      | .error _ => none

def getConsent (w : World env) (reading : Option ℚ) (requestId : String) :=
  w.consents reading (fun store now => PendingConsents.get store now requestId) fun _ => none

def listConsents (w : World env) (reading : Option ℚ) :=
  w.consents reading (fun store now => PendingConsents.list env.localeCompare store now) fun _ => none

def decideConsent (w : World env) (reading : Option ℚ) (requestId : String)
    (decision : OAuthConsentDecision) (operator : Request) :=
  w.consents reading (fun store now => PendingConsents.decideRequest store now requestId decision)
    fun result =>
      match result with
      | .ok _ => some (.decided requestId decision operator)
      | .error _ => none

def consumeConsent (w : World env) (reading : Option ℚ) (requestId : String) :=
  w.consents reading (fun store now => PendingConsents.consumeDecision store now requestId)
    fun result =>
      match result with
      | .ok (decision, _) => some (.consumed requestId decision)
      | .error _ => none

def issueCode (w : World env) (reading : Option ℚ) (codes : Nat → String) (requestId : String)
    (request : ValidatedOAuthAuthorizationRequest) :=
  w.codesAt reading
    (fun store now => AuthorizationCodes.issue env.parseUrl env.digestCode store now codes request)
    fun result =>
      match result with
      | .ok value => some (.issued requestId (env.digestCode value.code) request value.expiresAtMs)
      | .error _ => none

/-- Consumption of a code whose redirect could not be built. -/
def revokeCode (w : World env) (reading : Option ℚ) (code : String) :=
  w.codesAt reading (fun store now => AuthorizationCodes.consume env.digestCode store now code)
    fun _ => some (.revoked (env.digestCode code))

/-- Consumption of a code by a token request. -/
def redeemCode (w : World env) (reading : Option ℚ) (code : String) :=
  w.codesAt reading (fun store now => AuthorizationCodes.consume env.digestCode store now code)
    fun result => result.map Note.redeemed

end World

/-! ### `GET /oauth/authorize` -/

def safeReflectedState (url : Url) : Option String :=
  match url.getAll "state" with
  | [value] => if value ≠ "" ∧ value.utf8ByteSize ≤ MAX_STATE_BYTES then some value else none
  | _ => none

def redirectContext (policy : OAuthPublicClientPolicy) (url : Url) :
    ValidatedOAuthAuthorizationRequest :=
  ⟨policy.clientId, policy.redirectUri, policy.resource, policy.scopes, safeReflectedState url,
    PREFLIGHT_CODE⟩

def oauthErrorCode (error : String) : String :=
  if error = "invalid_code_challenge" then "invalid_request" else error

def pendingResponse (requestId : String) (expiresAtMs : Nat) (issuer : String) : Answer :=
  .json ⟨202, some (.obj [("schema_version", .num 1), ("status", .str "pending_operator_consent"),
    ("request_id", .str requestId), ("expires_at_ms", .num expiresAtMs),
    ("continue_uri", .str (issuer ++ AUTHORIZATION_PATH ++ "?request_id=" ++ formText requestId))])⟩

/-- The continuation a URL asks for, if it asks for one. -/
def exactRequestId (url : Url) : Except Answer (Option String) :=
  match url.getAll "request_id" with
  | [] => .ok none
  | [value] =>
    if requestIdText value = false then
      .error (.json (.coded 400 "invalid_request_id" "request_id is invalid"))
    else if url.searchParams.any fun param => param.1 ≠ "request_id" then
      .error (.json (.coded 400 "ambiguous_authorization_request"
        "request_id continuation cannot be combined with authorization parameters"))
    else .ok (some value)
  | _ => .error (.json (.coded 400 "invalid_request_id" "request_id is invalid"))

/-- What one step of the authorization endpoint takes from outside. -/
structure Sources where
  consentClock : Readings
  codeClock : Readings
  ids : Nat → String
  codes : Nat → String

/-- An answer, `none` where the handler throws. -/
abbrev Handled (env : Gateway) := Option Answer × World env

def startAuthorization (w : World env) (sources : Sources) (url : Url) (issuer : String)
    (policy : OAuthPublicClientPolicy) : Handled env :=
  match validateOAuthAuthorizationRequest url policy with
  | .error failure =>
    if failure.redirectAllowed = false then
      (some (.json (.coded 400 failure.error.asStr failure.description)), w)
    else
      match buildOAuthAuthorizationErrorRedirect env.parseUrl (redirectContext policy url) issuer
          (oauthErrorCode failure.error.asStr) (some failure.description) with
      | .error _ =>
        (some (.json (.coded 400 "invalid_authorization_request"
          "authorization request could not be redirected safely")), w)
      | .ok location => (some (.redirect location), w)
  | .ok request =>
    match w.createConsent (sources.consentClock 0) sources.ids request with
    | (none, w) => (none, w)
    | (some (.error .capacity), w) =>
      (some (.json (.coded 503 "oauth_consent_capacity"
        "OAuth consent capacity is temporarily exhausted")), w)
    | (some (.error _), w) =>
      (some (.json (.coded 500 "oauth_consent_unavailable"
        "OAuth consent request could not be created")), w)
    | (some (.ok created), w) => (some (pendingResponse created.requestId created.expiresAtMs issuer), w)

/-- What follows once an approval has been consumed. -/
def answerApproval (w : World env) (sources : Sources) (requestId issuer : String)
    (request : ValidatedOAuthAuthorizationRequest) : Handled env :=
  let redirectFailure : Answer := .json (.coded 500 "oauth_redirect_failure"
    "OAuth success response could not be built safely")
  match buildOAuthAuthorizationSuccessRedirect env.parseUrl request issuer PREFLIGHT_CODE with
  | .error _ => (some redirectFailure, w)
  | .ok _ =>
    match w.issueCode (sources.codeClock 0) sources.codes requestId request with
    | (none, w) => (none, w)
    | (some (.error error), w) =>
      (some (.json (.coded (if error = .capacity then 503 else 500)
        "oauth_authorization_code_unavailable" "OAuth authorization code could not be issued")), w)
    | (some (.ok issued), w) =>
      match buildOAuthAuthorizationSuccessRedirect env.parseUrl request issuer issued.code with
      | .ok location => (some (.redirect location), w)
      | .error _ =>
        match w.revokeCode (sources.codeClock 1) issued.code with
        | (none, w) => (none, w)
        | (some _, w) => (some redirectFailure, w)

def answerDenial (request : ValidatedOAuthAuthorizationRequest) (issuer : String) (env : Gateway) :
    Answer :=
  match buildOAuthAuthorizationErrorRedirect env.parseUrl request issuer "access_denied"
      (some "resource owner denied the authorization request") with
  | .error _ =>
    .json (.coded 500 "oauth_redirect_failure" "OAuth denial response could not be built safely")
  | .ok location => .redirect location

def continueAuthorization (w : World env) (sources : Sources) (requestId issuer : String) :
    Handled env :=
  match w.getConsent (sources.consentClock 0) requestId with
  | (none, w) => (none, w)
  | (some none, w) =>
    (some (.json (.coded 404 "pending_consent_not_found"
      "pending consent request was not found or has expired")), w)
  | (some (some projection), w) =>
    if projection.status = .pending then
      (some (pendingResponse projection.requestId projection.expiresAtMs issuer), w)
    else
      match w.consumeConsent (sources.consentClock 1) requestId with
      | (none, w) => (none, w)
      | (some (.error _), w) =>
        (some (.json (.coded 409 "pending_consent_unavailable"
          "pending consent decision could not be consumed")), w)
      | (some (.ok (.denied, request)), w) => (some (answerDenial request issuer env), w)
      | (some (.ok (.approved, request)), w) => answerApproval w sources requestId issuer request

/-- `resolved` is what the client's policy was resolved to before this step. -/
def handleOAuthAuthorizationRequest (w : World env) (sources : Sources) (method : String) (url : Url)
    (resolved : Except PolicyRefusal OAuthPublicClientPolicy) : Handled env :=
  if method ≠ "GET" then (some (.json (.coded 405 "method_not_allowed" "GET required")), w)
  else
    match env.selfHostedIssuer with
    | none =>
      (some (.json (.coded 404 "oauth_authorization_unavailable"
        "local OAuth authorization is not configured")), w)
    | some issuer =>
      if env.staticPolicy.isNone ∧ env.cimdEnabled = false then
        (some (.json (.coded 404 "oauth_authorization_unavailable"
          "local OAuth authorization is not configured")), w)
      else
        match exactRequestId url with
        | .error answer => (some answer, w)
        | .ok (some requestId) => continueAuthorization w sources requestId issuer
        | .ok none =>
          match resolved with
          | .error refusal =>
            (some (.json (.coded refusal.status refusal.error refusal.description)), w)
          | .ok policy => startAuthorization w sources url issuer policy

/-! ### The operator's routes -/

/-- The decision in a body, or the answer that refuses it. -/
def parseDecision (web : WebRuntime) (request : Request) : Except Response OAuthConsentDecision :=
  let contentType := ((request.header "content-type").getD "").map Char.toLower
  let declared := (request.header "content-length").map web.number
  if startsWith contentType "application/json" = false then
    .error (.coded 415 "unsupported_media_type" "content-type must be application/json")
  else if declared.any fun length => length.all fun n => n.den ≠ 1 || decide (n < 0) then
    .error (.coded 400 "invalid_content_length" "invalid content-length")
  else if declared.any fun length => length.any fun n => decide ((MAX_DECISION_BODY_BYTES : ℚ) < n) then
    .error (.coded 413 "request_too_large" "decision body exceeds 4 KiB")
  else if MAX_DECISION_BODY_BYTES < request.body.utf8ByteSize then
    .error (.coded 413 "request_too_large" "decision body exceeds 4 KiB")
  else
    match web.parse request.body with
    | none => .error (.coded 400 "invalid_json" "decision body must contain valid JSON")
    | some parsed =>
      match parsed.keys with
      | none => .error (.coded 400 "invalid_decision" "decision body must be a JSON object")
      | some keys =>
        match keys.find? fun key => key ≠ "decision" with
        | some key => .error (.coded 400 "unknown_field" ("unknown decision field: " ++ key))
        | none =>
          if keys.length ≠ 1 then
            .error (.coded 400 "invalid_decision" "decision field is required")
          else
            match parsed.field "decision" with
            | some (.str "approved") => .ok .approved
            | some (.str "denied") => .ok .denied
            | _ => .error (.coded 400 "invalid_decision" "decision must be approved or denied")

def statusText : PendingConsents.PendingOAuthConsentStatus → String
  | .pending => "pending"
  | .decided .approved => "approved"
  | .decided .denied => "denied"

def projectionJson (value : PendingOAuthConsentProjection) : Json :=
  .obj [("requestId", .str value.requestId), ("clientId", .str value.clientId),
    ("redirectUri", .str value.redirectUri), ("resource", .str value.resource),
    ("scopes", .arr (value.scopes.map .str)), ("status", .str (statusText value.status)),
    ("createdAtMs", .num value.createdAtMs), ("expiresAtMs", .num value.expiresAtMs)]

def consentsPath : String := "/v1/oauth/pending-consents"

/-- The list and the decisions. Paths that are not theirs are another handler's. -/
def handleOAuthConsentOperatorRequest (w : World env) (reading : Option ℚ) (request : Request) :
    Handled env :=
  let collection := request.pathname == consentsPath
  let decided := segmentBetween (consentsPath ++ "/") "/decision" request.pathname
  if collection = false ∧ decided = none then (none, w)
  else if isRootAuthorization request env.config.toGatewayConfig = false then
    (some (.json (.coded 401 "root_authorization_required" "root bearer token required")), w)
  else if request.search ≠ "" then
    (some (.json (.coded 400 "query_forbidden"
      "operator consent routes do not accept query parameters")), w)
  else
    match decided with
    | none =>
      if request.method ≠ "GET" then (some (.json (.coded 405 "method_not_allowed" "GET required")), w)
      else
        match w.listConsents reading with
        | (none, w) => (none, w)
        | (some values, w) =>
          (some (.json ⟨200, some (.obj [("schema_version", .num 1),
            ("pending_consents", .arr (values.map projectionJson))])⟩), w)
    | some requestId =>
      if request.method ≠ "POST" then
        (some (.json (.coded 405 "method_not_allowed" "POST required")), w)
      else if requestIdText requestId = false then
        (some (.json (.coded 400 "invalid_request_id" "pending consent request id is invalid")), w)
      else
        match parseDecision env.web request with
        | .error response => (some (.json response), w)
        | .ok decision =>
          match w.decideConsent reading requestId decision request with
          | (none, w) => (none, w)
          | (some (.error .not_found), w) =>
            (some (.json (.coded 404 "pending_consent_not_found"
              "pending consent request was not found or has expired")), w)
          | (some (.error .already_decided), w) =>
            (some (.json (.coded 409 "pending_consent_already_decided"
              "pending consent request has already been decided")), w)
          | (some (.ok value), w) =>
            (some (.json ⟨200, some (.obj [("schema_version", .num 1),
              ("pending_consent", projectionJson value)])⟩), w)

/-! ### `POST /oauth/token` -/

def oauthError (error description : String) (status : Nat) : Answer :=
  .json ⟨status, some (.obj [("error", .str error), ("error_description", .str description)])⟩

/-- The parameters of a form, or the answer that refuses it. -/
def parseTokenForm (env : Gateway) (request : Request) : Except Answer Params :=
  let contentType := ((request.header "content-type").getD "").map Char.toLower
  let declared := (request.header "content-length").map env.web.number
  if request.search ≠ "" then
    .error (oauthError "invalid_request" "token endpoint does not accept query parameters" 400)
  else if (request.header "authorization").isSome then
    .error (oauthError "invalid_client"
      "this public client uses token_endpoint_auth_method=none" 401)
  else if startsWith contentType "application/x-www-form-urlencoded" = false then
    .error (oauthError "invalid_request"
      "content-type must be application/x-www-form-urlencoded" 415)
  else if declared.any fun length => length.all fun n => n.den ≠ 1 || decide (n < 0) then
    .error (oauthError "invalid_request" "invalid content-length" 400)
  else if declared.any fun length => length.any fun n => decide ((MAX_TOKEN_REQUEST_BYTES : ℚ) < n) then
    .error (oauthError "invalid_request" "token request is too large" 413)
  else if MAX_TOKEN_REQUEST_BYTES < request.body.utf8ByteSize then
    .error (oauthError "invalid_request" "token request is too large" 413)
  else .ok (env.parseForm request.body)

def exactCode (params : Params) : Option String :=
  match params.getAll "code" with
  | [code] => if authorizationCode code then some code else none
  | _ => none

/-- Up to the code store: the parameters and the code they present. -/
def presentedCode (env : Gateway) (request : Request) : Except Answer (Params × String) :=
  if request.method ≠ "POST" then .error (oauthError "invalid_request" "POST required" 405)
  else if env.selfHostedIssuer.isNone ∨ (env.staticPolicy.isNone ∧ env.cimdEnabled = false) ∨
      env.config.token?.isNone then
    .error (oauthError "temporarily_unavailable" "local OAuth token exchange is not configured" 404)
  else
    match parseTokenForm env request with
    | .error answer => .error answer
    | .ok params =>
      match exactCode params with
      | none => .error (oauthError "invalid_grant" "authorization code is invalid" 400)
      | some code => .ok (params, code)

/-- The part of the handler before it awaits the verification; `none` where it throws,
or goes on to `finishTokenRequest`. -/
def handleOAuthTokenRequest (w : World env) (reading : Option ℚ) (request : Request) : Handled env :=
  match presentedCode env request with
  | .error answer => (some answer, w)
  | .ok (params, code) =>
    match w.redeemCode reading code with
    | (none, w) => (none, w)
    | (some none, w) =>
      (some (oauthError "invalid_grant" "authorization code is invalid, expired, or already used" 400),
        w)
    | (some (some consumed), w) =>
      if bindingMatchesConfiguredAuthority env.parseUrl env.isIP env.config.publicOrigin
          env.staticPolicy env.cimdEnabled consumed = false then
        (some (oauthError "invalid_grant"
          "authorization code is not bound to an accepted OAuth client policy" 400), w)
      else (none, { w with inFlight := w.inFlight ++ [⟨params, consumed⟩] })

/-- The session for a redemption that proves itself, or the answer that refuses it. -/
def exchange (env : Gateway) (sid : String) (nowMs : Int) (redemption : Redemption) :
    Except Answer CapabilitySessionIssue :=
  match validateOAuthTokenRequest env.sha256 redemption.params redemption.consumed.binding with
  | .error (error, description) => .error (oauthError error.asStr description 400)
  | .ok () =>
    match deriveOAuthCapabilityGrant redemption.consumed.scopes env.registry with
    | .error _ =>
      .error (oauthError "invalid_scope"
        "approved OAuth scopes cannot be mapped to bounded capability authority" 400)
    | .ok grant =>
      match issueCapabilitySession env.web sid
          (deriveOAuthResourceSessionSecret env.web (env.config.token?.getD "")
            redemption.consumed.binding.resource) grant OAUTH_ACCESS_TOKEN_TTL_SECONDS nowMs with
      | .error _ =>
        .error (oauthError "temporarily_unavailable" "capability-session issuance failed" 503)
      | .ok issued => .ok issued

def tokenResponse (issued : CapabilitySessionIssue) : Answer :=
  .json ⟨200, some (.obj [("access_token", .str issued.token), ("token_type", .str "Bearer"),
    ("expires_in", .num OAUTH_ACCESS_TOKEN_TTL_SECONDS),
    ("scope", .str (" ".intercalate issued.claims.scopes))])⟩

/-- The rest of the handler, for one of the requests that await it. -/
def finishTokenRequest (w : World env) (index : Nat) (sid : String) (nowMs : Int) : Handled env :=
  match w.inFlight[index]? with
  | none => (none, w)
  | some redemption =>
    let w := { w with inFlight := w.inFlight.eraseIdx index }
    match exchange env sid nowMs redemption with
    | .error answer => (some answer, w)
    | .ok issued =>
      (some (tokenResponse issued),
        { w with log := .token redemption.params redemption.consumed issued :: w.log })

/-! ### Runs -/

/-- One step of some request. -/
inductive Action
  | authorize (sources : Sources) (method : String) (url : Url)
      (resolved : Except PolicyRefusal OAuthPublicClientPolicy)
  | operate (reading : Option ℚ) (request : Request)
  | redeem (reading : Option ℚ) (request : Request)
  | finish (index : Nat) (sid : String) (nowMs : Int)

def handle (w : World env) : Action → Handled env
  | .authorize sources method url resolved =>
    handleOAuthAuthorizationRequest w sources method url resolved
  | .operate reading request => handleOAuthConsentOperatorRequest w reading request
  | .redeem reading request => handleOAuthTokenRequest w reading request
  | .finish index sid nowMs => finishTokenRequest w index sid nowMs

def step (action : Action) (w : World env) : World env := (handle w action).2

/-- The world after some steps, in any order and of any requests. -/
def after (env : Gateway) (actions : List Action) : World env :=
  Histories.run step World.initial actions

end OAuthFlow
