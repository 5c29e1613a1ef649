import TaskQueQue.AdmissionLanguage
import TaskQueQue.ClientPolicies

/-!
# The bounds of the authorization stages

An authorization request is validated against its client's policy, kept until an
operator decides on it, turned into a code, and answered by a redirect. Each stage
checks it again. The stages nest for a request when none after the validator
refuses it as malformed.
-/

namespace OAuthStages

open UrlValues OAuthRequests OAuthRedirects ExpiringStores
open ClientPolicies hiding parseRedirectUri
open PendingConsents (StoreOptions PendingOAuthConsentStore boundedRequest scopesAreBounded
  isBoundedHttpsUri)
open AuthorizationCodes (OAuthAuthorizationCodeStore authorizationCode)
open CimdDocument (plainHttps)
open CimdClientId (validateCimdClientId)
open CimdNetwork (grammarIsIP)

/-- A gateway that serves authorizations under its own origin. -/
structure Deployment where
  locate : Locator
  rawOrigin : String
  publicOrigin : String
  origin : parsePublicHttpsOrigin locate (some rawOrigin) "GATEWAY_PUBLIC_ORIGIN" =
    .ok (some publicOrigin)
  clientEnv : OAuthPublicClientEnv
  staticPolicy : Option OAuthPublicClientPolicy
  loaded : loadOAuthPublicClientPolicy locate clientEnv (some publicOrigin) = .ok staticPolicy
  cimd : Option CimdDiscoveryDependencies
  oneParser : ∀ deps, cimd = some deps → deps.environment.parseUrl = locate.parseUrl

/-- No later stage refuses the request as malformed: it may be created, and once it is
held and approved, a code may be issued and the redirect built. -/
def Nests (d : Deployment) (request : ValidatedOAuthAuthorizationRequest) : Prop :=
  (∀ (options : StoreOptions) (store : PendingOAuthConsentStore options) (now : Nat)
    (ids : Nat → String),
    (PendingConsents.create d.locate.parseUrl store now ids request).1 ≠ .error .invalid_request) ∧
  ∀ (options : StoreOptions) (store : PendingOAuthConsentStore options) (id : String)
    (entry : PendingConsents.PendingEntry),
    PendingConsents.Reached d.locate.parseUrl store → store.find? id = some entry →
    entry.request = request → entry.status = .decided .approved →
    (∀ (options : StoreOptions) (codes : OAuthAuthorizationCodeStore options)
      (digestCode : String → String) (now : Nat) (factory : Nat → String),
      (AuthorizationCodes.issue d.locate.parseUrl digestCode codes now factory request).1 ≠
        .error .invalid_grant) ∧
    ∀ code, authorizationCode code = true → ∃ location,
      buildOAuthAuthorizationSuccessRedirect d.locate.parseUrl request d.publicOrigin code =
        .ok location

/-- What the later stages ask beyond the validator, whatever the policy was. -/
structure Fits (d : Deployment) (request : ValidatedOAuthAuthorizationRequest) : Prop where
  client : visibleText request.clientId = true
  clientSize : request.clientId.utf8ByteSize ≤ 512
  redirect : ∃ url, d.locate.parseUrl request.redirectUri = some url ∧ plainHttps url = true ∧
    redirectHasReservedResponseParams url = false
  redirectSize : request.redirectUri.utf8ByteSize ≤ 4096
  resource : ∃ url, d.locate.parseUrl request.resource = some url ∧ plainHttps url = true ∧
    url.search = ""
  resourceSize : request.resource.utf8ByteSize ≤ 4096
  scopes : request.scopes.length ≤ 64
  scopeSizes : ∀ scope ∈ request.scopes, scope.utf8ByteSize ≤ 128
  state : ∀ state, request.state = some state → state.utf8ByteSize ≤ 1024
  issuer : d.publicOrigin.utf8ByteSize ≤ 4096

/-- What they ask when the policy is one the gateway resolves. -/
structure WithinBounds (d : Deployment) (request : ValidatedOAuthAuthorizationRequest) : Prop where
  clientSize : request.clientId.utf8ByteSize ≤ 512
  redirectSize : request.redirectUri.utf8ByteSize ≤ 4096
  unreserved : ∀ url, d.locate.parseUrl request.redirectUri = some url →
    redirectHasReservedResponseParams url = false
  state : ∀ state, request.state = some state → state.utf8ByteSize ≤ 1024
  origin : (d.publicOrigin ++ "/mcp").utf8ByteSize ≤ 4096

/-! ### The checks of the stores -/

theorem length_of_visible {value : String} (visible : visibleText value = true) :
    value.toList.length = value.utf8ByteSize := by
  rw [visibleText, Bool.and_eq_true, List.all_eq_true] at visible
  have plain : ∀ c ∈ value.toList, RequestRendering.ascii c = true := by
    intro c mem
    have range := of_decide_eq_true (visible.2 c mem)
    exact decide_eq_true (by omega)
  rw [AdmissionLanguage.utf8ByteSize_of_ascii plain, String.length_toList]

theorem pending_client_iff {value : String} : PendingConsents.clientIdPattern value = true ↔
    visibleText value = true ∧ value.utf8ByteSize ≤ 512 := by
  rw [PendingConsents.clientIdPattern, Bool.and_eq_true, decide_eq_true_eq]
  constructor
  · rintro ⟨visible, size⟩
    rw [length_of_visible visible] at size
    exact ⟨visible, size⟩
  · rintro ⟨visible, size⟩
    rw [← length_of_visible visible] at size
    exact ⟨visible, size⟩

theorem code_client_of_pending {value : String}
    (h : PendingConsents.clientIdPattern value = true) :
    AuthorizationCodes.clientIdPattern value = true := by
  obtain ⟨visible, size⟩ := pending_client_iff.mp h
  rw [AuthorizationCodes.clientIdPattern, visible, Bool.true_and]
  exact decide_eq_true (Nat.le_trans size (by decide))

/-- What the pending store takes, the code store takes: it differs only in a wider bound
on the client. -/
theorem code_bounded_of_pending {parseUrl : UrlParser}
    {request : ValidatedOAuthAuthorizationRequest}
    (h : PendingConsents.requestIsBounded parseUrl request = true) :
    AuthorizationCodes.requestIsBounded parseUrl request = true := by
  simp only [PendingConsents.requestIsBounded, boundedRequest, Bool.and_eq_true] at h
  obtain ⟨⟨⟨⟨⟨client, redirect⟩, resource⟩, scopes⟩, state⟩, challenge⟩ := h
  simp only [AuthorizationCodes.requestIsBounded, boundedRequest, Bool.and_eq_true]
  exact ⟨⟨⟨⟨⟨code_client_of_pending client, redirect⟩, resource⟩, scopes⟩, state⟩, challenge⟩

theorem isBoundedHttpsUri_iff {parseUrl : UrlParser} {allowQuery : Bool} {value : String} :
    isBoundedHttpsUri parseUrl allowQuery value = true ↔
      value ≠ "" ∧ value.utf8ByteSize ≤ 4096 ∧ ∃ url, parseUrl value = some url ∧
        plainHttps url = true ∧ (allowQuery = true ∨ url.search = "") := by
  rw [isBoundedHttpsUri]
  by_cases refused : value = "" ∨ MAX_URI_BYTES < value.utf8ByteSize
  · rw [if_pos refused]
    constructor
    · intro h
      cases h
    · rintro ⟨filled, size, _⟩
      rcases refused with empty | large
      · exact absurd empty filled
      · exact absurd size (Nat.not_le.mpr large)
  · rw [if_neg refused]
    rw [not_or, Nat.not_lt] at refused
    cases parsed : parseUrl value with
    | none =>
      constructor
      · intro h
        cases h
      · rintro ⟨_, _, _, h, _⟩
        cases h
    | some url =>
      rw [Option.any_some, Bool.and_eq_true, Bool.or_eq_true, beq_iff_eq]
      constructor
      · exact fun h => ⟨refused.1, refused.2, url, rfl, h⟩
      · rintro ⟨_, _, url', same, h⟩
        cases same
        exact h

theorem scopesAreBounded_iff {scopes : List String} (filled : scopes ≠ [])
    (distinct : scopes.Nodup) (tokens : ∀ scope ∈ scopes, scopeToken scope = true) :
    scopesAreBounded scopes = true ↔
      scopes.length ≤ 64 ∧ ∀ scope ∈ scopes, scope.utf8ByteSize ≤ 128 := by
  have some : 1 ≤ scopes.length := List.length_pos_iff.mpr filled
  simp only [scopesAreBounded, Bool.and_eq_true, decide_eq_true_eq, List.all_eq_true]
  constructor
  · rintro ⟨⟨⟨_, few⟩, _⟩, sizes⟩
    exact ⟨few, fun scope mem => (sizes scope mem).2⟩
  · rintro ⟨few, sizes⟩
    exact ⟨⟨⟨some, few⟩, distinct⟩, fun scope mem => ⟨tokens scope mem, sizes scope mem⟩⟩

theorem stateIsBounded_iff {state : Option String} (filled : state ≠ some "") :
    stateIsBounded state = true ↔ ∀ value, state = some value → value.utf8ByteSize ≤ 1024 := by
  cases state with
  | none => exact ⟨fun _ _ h => (by cases h), fun _ => rfl⟩
  | some value =>
    have nonempty : value ≠ "" := fun empty => filled (congrArg some empty)
    rw [stateIsBounded, Option.all_some, Bool.and_eq_true, decide_eq_true_eq, decide_eq_true_eq]
    constructor
    · rintro ⟨_, size⟩ value' same
      cases same
      exact size
    · exact fun size => ⟨nonempty, size value rfl⟩

/-- What the pending store asks of a request that the validator accepted. -/
theorem pending_bounded_iff {url : Url} {policy : OAuthPublicClientPolicy} {parseUrl : UrlParser}
    {request : ValidatedOAuthAuthorizationRequest} (granted : Granted url policy request) :
    PendingConsents.requestIsBounded parseUrl request = true ↔
      (visibleText request.clientId = true ∧ request.clientId.utf8ByteSize ≤ 512) ∧
      (request.redirectUri.utf8ByteSize ≤ 4096 ∧
        ∃ url, parseUrl request.redirectUri = some url ∧ plainHttps url = true) ∧
      (request.resource.utf8ByteSize ≤ 4096 ∧
        ∃ url, parseUrl request.resource = some url ∧ plainHttps url = true ∧ url.search = "") ∧
      (request.scopes.length ≤ 64 ∧ ∀ scope ∈ request.scopes, scope.utf8ByteSize ≤ 128) ∧
      ∀ state, request.state = some state → state.utf8ByteSize ≤ 1024 := by
  have valid := granted.valid
  simp only [policyIsValid, Bool.and_eq_true, decide_eq_true_eq] at valid
  obtain ⟨⟨⟨⟨⟨_, redirectFilled⟩, resourceFilled⟩, _⟩, _⟩, _⟩ := valid
  rw [← granted.redirectUri] at redirectFilled
  rw [← granted.resource] at resourceFilled
  simp only [PendingConsents.requestIsBounded, boundedRequest, Bool.and_eq_true, granted.challenge,
    and_true, pending_client_iff, isBoundedHttpsUri_iff,
    scopesAreBounded_iff granted.scopes granted.distinct granted.tokens,
    stateIsBounded_iff granted.filled]
  constructor
  · rintro ⟨⟨⟨⟨client, _, redirectSize, url, parsed, plain, _⟩, _, resourceSize, target, named, own,
      query⟩, scopes⟩, state⟩
    exact ⟨client, ⟨redirectSize, url, parsed, plain⟩,
      ⟨resourceSize, target, named, own, query.resolve_left Bool.false_ne_true⟩, scopes, state⟩
  · rintro ⟨client, ⟨redirectSize, url, parsed, plain⟩, ⟨resourceSize, target, named, own, query⟩,
      scopes, state⟩
    exact ⟨⟨⟨⟨client, redirectFilled, redirectSize, url, parsed, plain, Or.inl trivial⟩, resourceFilled,
      resourceSize, target, named, own, Or.inr query⟩, scopes⟩, state⟩

/-- A request the store takes is held, and approved, in some store. -/
theorem held_of_bounded {parseUrl : UrlParser} {request : ValidatedOAuthAuthorizationRequest}
    (bounded : PendingConsents.requestIsBounded parseUrl request = true) :
    ∃ (options : StoreOptions) (store : PendingOAuthConsentStore options) (id : String)
      (entry : PendingConsents.PendingEntry),
      PendingConsents.Reached parseUrl store ∧ store.find? id = some entry ∧
      entry.request = request ∧ entry.status = .decided .approved := by
  let options : StoreOptions := ⟨1, 1000, by decide, by decide⟩
  let id := "AAAAAAAAAAAAAAAA"
  let start : PendingOAuthConsentStore options := Store.empty
  obtain ⟨value, created, accepted, named⟩ := @PendingConsents.create_succeeds _ _ start 0
    (fun _ => id) _ bounded Nat.zero_lt_one (by decide) rfl
  obtain ⟨_, entry, shown, same, pending, expires, _, rows⟩ := PendingConsents.create_ok accepted
  have own : entry.requestId = id := by
    rw [shown] at named
    exact named
  have held : (created.purgeAt 0).find? id = some entry := by
    rw [Store.find?_purgeAt, rows, if_pos own, Option.filter_eq_some_iff]
    exact ⟨rfl, decide_eq_true (by rw [expires]; decide)⟩
  obtain ⟨_, store, decided⟩ := PendingConsents.decideRequest_succeeds held pending .approved
  obtain ⟨entry', held', _, _, rows'⟩ := PendingConsents.decideRequest_ok decided
  rw [held] at held'
  cases held'
  have reached : PendingConsents.Reached parseUrl store := by
    have first : PendingConsents.Reached parseUrl created := by
      have none : PendingConsents.Reached parseUrl start := .empty
      have step := none.create 0 (fun _ => id) request
      rwa [show PendingConsents.create parseUrl Store.empty 0 (fun _ => id) request = _ from accepted]
        at step
    have step := first.decide 0 id .approved
    rwa [decided] at step
  exact ⟨options, store, id, _, reached, (rows' id).trans (if_pos rfl), same, rfl⟩

/-! ### Origins -/

theorem parsePublicHttpsOrigin_some {locate : Locator} {raw : Option String} {name origin : String}
    (h : parsePublicHttpsOrigin locate raw name = .ok (some origin)) :
    ∃ text location, locate text = some location ∧ location.protocol = "https:" ∧
      origin = location.origin := by
  unfold parsePublicHttpsOrigin at h
  split at h
  · cases h
  rename_i value _
  split at h
  · cases h
  rename_i location found
  obtain ⟨https, h⟩ := guard_ok h
  obtain ⟨_, h⟩ := guard_ok h
  obtain ⟨_, h⟩ := guard_ok h
  cases h
  exact ⟨value, location, found, not_not.mp https, rfl⟩

/-- The origin and the resource of a deployment are plain HTTPS. -/
theorem origin_plain (d : Deployment) (law : SerializesOrigins d.locate) :
    d.publicOrigin ≠ "" ∧ ∀ path ∈ ["", "/mcp"], ∃ location,
      d.locate (d.publicOrigin ++ path) = some location ∧ plainHttps location.toUrl = true ∧
      location.search = "" ∧ location.origin = d.publicOrigin := by
  obtain ⟨text, location, found, https, same⟩ := parsePublicHttpsOrigin_some d.origin
  rw [same]
  exact law text location found https

theorem normalizeIssuer_isSome_iff {parseUrl : UrlParser} {issuer : String} :
    (normalizeIssuer parseUrl issuer).isSome ↔ issuer ≠ "" ∧ issuer.utf8ByteSize ≤ 4096 ∧
      ∃ url, parseUrl issuer = some url ∧ plainHttps url = true ∧ url.search = "" := by
  rw [normalizeIssuer]
  by_cases refused : issuer = "" ∨ MAX_URI_BYTES < issuer.utf8ByteSize
  · rw [if_pos refused]
    constructor
    · intro h
      cases h
    · rintro ⟨filled, size, _⟩
      rcases refused with empty | large
      · exact absurd empty filled
      · exact absurd size (Nat.not_le.mpr large)
  · rw [if_neg refused, Option.isSome_map, Option.isSome_iff_exists]
    rw [not_or, Nat.not_lt] at refused
    simp only [Option.filter_eq_some_iff, Bool.and_eq_true, beq_iff_eq]
    constructor
    · rintro ⟨url, h⟩
      exact ⟨refused.1, refused.2, url, h⟩
    · rintro ⟨_, _, url, h⟩
      exact ⟨url, h⟩

theorem issuer_accepted (d : Deployment) (law : SerializesOrigins d.locate)
    (size : d.publicOrigin.utf8ByteSize ≤ 4096) :
    (normalizeIssuer d.locate.parseUrl d.publicOrigin).isSome := by
  obtain ⟨filled, plain⟩ := origin_plain d law
  obtain ⟨location, found, own, query, _⟩ := plain "" (by decide)
  rw [String.append_empty] at found
  refine normalizeIssuer_isSome_iff.mpr ⟨filled, size, location.toUrl, ?_, own, query⟩
  rw [Locator.parseUrl, found]
  rfl

/-! ### When the stages nest -/

theorem parseRedirectUri_iff {parseUrl : UrlParser} {redirectUri : String} {url : Url} :
    parseRedirectUri parseUrl redirectUri = some url ↔ redirectUri ≠ "" ∧
      redirectUri.utf8ByteSize ≤ 4096 ∧ parseUrl redirectUri = some url ∧ plainHttps url = true := by
  rw [parseRedirectUri]
  by_cases refused : redirectUri = "" ∨ MAX_URI_BYTES < redirectUri.utf8ByteSize
  · rw [if_pos refused]
    constructor
    · intro h
      cases h
    · rintro ⟨filled, size, _⟩
      rcases refused with empty | large
      · exact absurd empty filled
      · exact absurd size (Nat.not_le.mpr large)
  · rw [if_neg refused, Option.filter_eq_some_iff]
    rw [not_or, Nat.not_lt] at refused
    exact ⟨fun h => ⟨refused.1, refused.2, h⟩, fun h => h.2.2⟩

theorem response_code {code : String} (h : authorizationCode code = true) :
    base64UrlText 32 128 code = true := by
  simp only [authorizationCode, base64UrlText, Bool.and_eq_true, decide_eq_true_eq] at h ⊢
  exact ⟨⟨by omega, by omega⟩, h.2⟩

theorem nests_of_fits {d : Deployment} (law : SerializesOrigins d.locate) {url : Url}
    {policy : OAuthPublicClientPolicy} {request : ValidatedOAuthAuthorizationRequest}
    (granted : Granted url policy request) (fits : Fits d request) : Nests d request := by
  obtain ⟨target, parsed, plain, unreserved⟩ := fits.redirect
  have bounded : PendingConsents.requestIsBounded d.locate.parseUrl request = true :=
    (pending_bounded_iff granted).mpr ⟨⟨fits.client, fits.clientSize⟩,
      ⟨fits.redirectSize, target, parsed, plain⟩, ⟨fits.resourceSize, fits.resource⟩,
      ⟨fits.scopes, fits.scopeSizes⟩, fits.state⟩
  have filled : request.redirectUri ≠ "" := by
    have valid := granted.valid
    simp only [policyIsValid, Bool.and_eq_true, decide_eq_true_eq] at valid
    rw [granted.redirectUri]
    exact valid.1.1.1.1.2
  refine ⟨fun options store now ids refused => ?_, fun _ _ _ _ _ _ _ _ => ⟨?_, fun code shape => ?_⟩⟩
  · rw [PendingConsents.create_invalid_iff, bounded] at refused
    cases refused
  · intro options codes digestCode now factory refused
    rw [AuthorizationCodes.issue_invalid_iff, code_bounded_of_pending bounded] at refused
    cases refused
  · exact (success_built_iff (response_code shape)).mpr
      ⟨⟨target, parseRedirectUri_iff.mpr ⟨filled, fits.redirectSize, parsed, plain⟩, unreserved⟩,
        (stateIsBounded_iff granted.filled).mpr fits.state, issuer_accepted d law fits.issuer⟩

theorem fits_of_nests {d : Deployment} {url : Url} {policy : OAuthPublicClientPolicy}
    {request : ValidatedOAuthAuthorizationRequest} (granted : Granted url policy request)
    (nests : Nests d request) : Fits d request := by
  have bounded : PendingConsents.requestIsBounded d.locate.parseUrl request = true := by
    cases checked : PendingConsents.requestIsBounded d.locate.parseUrl request with
    | true => rfl
    | false =>
      exact absurd (PendingConsents.create_invalid_iff.mpr checked)
        (nests.1 ⟨1, 1000, by decide, by decide⟩ Store.empty 0 fun _ => "")
  obtain ⟨⟨client, clientSize⟩, ⟨redirectSize, _⟩, ⟨resourceSize, resource⟩, ⟨scopes, scopeSizes⟩,
    state⟩ := (pending_bounded_iff granted).mp bounded
  obtain ⟨options, store, id, entry, reached, found, same, approved⟩ := held_of_bounded bounded
  have code : authorizationCode "AAAAAAAAAAAAAAAAAAAAAAAAAAAAAAAAAAAAAAAAAAA" = true := by decide
  have built := (nests.2 options store id entry reached found same approved).2 _ code
  obtain ⟨⟨target, prepared, unreserved⟩, _, issuer⟩ :=
    (success_built_iff (response_code code)).mp built
  obtain ⟨_, _, parsed, plain⟩ := parseRedirectUri_iff.mp prepared
  exact ⟨client, clientSize, ⟨target, parsed, plain, unreserved⟩, redirectSize, resource,
    resourceSize, scopes, scopeSizes, state, (normalizeIssuer_isSome_iff.mp issuer).2.1⟩

/-! ### The policies a gateway resolves -/

/-- What every policy the gateway resolves has already been checked for. -/
structure Resolved (d : Deployment) (policy : OAuthPublicClientPolicy) : Prop where
  client : visibleText policy.clientId = true
  redirect : ∃ url, d.locate.parseUrl policy.redirectUri = some url ∧ plainHttps url = true
  resource : policy.resource = d.publicOrigin ++ "/mcp"
  scopes : policy.scopes.length ≤ 64
  scopeSizes : ∀ scope ∈ policy.scopes, scope.utf8ByteSize ≤ 128

theorem checkScopes_ok {seen scopes checked : List String}
    (sizes : ∀ scope ∈ seen, scope.utf8ByteSize ≤ 128) (h : checkScopes seen scopes = .ok checked) :
    checked = seen ++ scopes ∧ ∀ scope ∈ checked, scope.utf8ByteSize ≤ 128 := by
  induction scopes generalizing seen with
  | nil =>
    cases h
    exact ⟨(List.append_nil _).symm, sizes⟩
  | cons scope rest ih =>
    rw [checkScopes] at h
    obtain ⟨mapped, h⟩ := guard_ok h
    obtain ⟨_, h⟩ := guard_ok h
    rw [not_or, Nat.not_lt] at mapped
    have sizes' : ∀ other ∈ seen ++ [scope], other.utf8ByteSize ≤ 128 := by
      intro other mem
      rcases List.mem_append.mp mem with before | own
      · exact sizes other before
      · rw [List.mem_singleton.mp own]
        exact mapped.2
    obtain ⟨all, bounded⟩ := ih sizes' h
    rw [List.append_assoc] at all
    exact ⟨all, bounded⟩

theorem configured_some {α : Type} {raw : Option String} {name : String}
    {parse : String → Except String α} {result : α} (h : configured raw name parse = .ok (some result)) :
    ∃ value, parse value = .ok result := by
  unfold configured at h
  split at h
  · cases h
  · cases h
  · rename_i value _
    cases parsed : parse value with
    | error message =>
      rw [parsed] at h
      cases h
    | ok result' =>
      rw [parsed] at h
      cases h
      exact ⟨value, parsed⟩

theorem loaded_policy {locate : Locator} {env : OAuthPublicClientEnv} {publicOrigin : Option String}
    {policy : OAuthPublicClientPolicy}
    (h : loadOAuthPublicClientPolicy locate env publicOrigin = .ok (some policy)) :
    (∃ value, parseClientId value = .ok policy.clientId) ∧
    (∃ value, ClientPolicies.parseRedirectUri locate.parseUrl value = .ok policy.redirectUri) ∧
    (∃ value, parseScopes value = .ok policy.scopes) ∧
    ∃ origin, validatePublicOrigin locate publicOrigin = .ok origin ∧
      policy.resource = origin ++ "/mcp" := by
  unfold loadOAuthPublicClientPolicy at h
  split at h
  · cases h
  · cases h
  · cases h
  · cases h
  · rename_i clientId redirectUri scopes named redirected listed
    split at h
    · cases h
    · rename_i origin valid
      cases h
      exact ⟨configured_some named, configured_some redirected, configured_some listed, origin, valid,
        rfl⟩
  · cases h

theorem static_resolved {d : Deployment} (law : SerializesOrigins d.locate)
    {policy : OAuthPublicClientPolicy} (own : d.staticPolicy = some policy) : Resolved d policy := by
  have loaded := d.loaded
  rw [own] at loaded
  obtain ⟨⟨_, client⟩, ⟨redirectUri, redirect⟩, ⟨_, scopes⟩, origin, valid, resource⟩ :=
    loaded_policy loaded
  have visible : visibleText policy.clientId = true := by
    unfold parseClientId at client
    obtain ⟨pattern, same⟩ := guard_ok client
    cases same
    rw [Bool.not_eq_false] at pattern
    exact (pending_client_iff.mp pattern).1
  have target : ∃ url, d.locate.parseUrl policy.redirectUri = some url ∧ plainHttps url = true := by
    unfold ClientPolicies.parseRedirectUri at redirect
    split at redirect
    · cases redirect
    rename_i url parsed
    obtain ⟨https, redirect⟩ := guard_ok redirect
    obtain ⟨credentials, redirect⟩ := guard_ok redirect
    obtain ⟨hash, redirect⟩ := guard_ok redirect
    cases redirect
    rw [not_or, not_not, not_not] at credentials
    refine ⟨url, parsed, ?_⟩
    simp only [plainHttps, Bool.and_eq_true, beq_iff_eq]
    exact ⟨⟨⟨not_not.mp https, credentials.1⟩, credentials.2⟩, not_not.mp hash⟩
  have sameOrigin : origin = d.publicOrigin := by
    obtain ⟨filled, plain⟩ := origin_plain d law
    obtain ⟨again, found, _, _, same⟩ := plain "" (by decide)
    rw [String.append_empty] at found
    unfold validatePublicOrigin at valid
    rw [Option.filter_some_pos (by exact decide_eq_true filled)] at valid
    dsimp only at valid
    rw [found] at valid
    obtain ⟨_, valid⟩ := guard_ok valid
    cases valid
    exact same
  obtain ⟨few, checked⟩ : policy.scopes.length ≤ 64 ∧
      ∀ scope ∈ policy.scopes, scope.utf8ByteSize ≤ 128 := by
    unfold parseScopes at scopes
    obtain ⟨_, scopes⟩ := guard_ok scopes
    obtain ⟨few, scopes⟩ := guard_ok scopes
    obtain ⟨same, sizes⟩ := checkScopes_ok (fun _ mem => absurd mem List.not_mem_nil) scopes
    rw [same]
    exact ⟨Nat.not_lt.mp few, same ▸ sizes⟩
  exact ⟨visible, target, sameOrigin ▸ resource, few, checked⟩

theorem requiredParameter_ok {url : Url} {name value : String}
    (h : requiredParameter url name = .ok value) : exactSingleValue url.getAll name = some value := by
  unfold requiredParameter at h
  split at h
  · cases h
  · cases h
  · cases h
  · rename_i value' _ _ found
    cases h
    exact found

theorem policy_resolved {d : Deployment} (law : SerializesOrigins d.locate) {url : Url}
    {policy : OAuthPublicClientPolicy}
    (h : resolveOAuthAuthorizationClientPolicy url d.publicOrigin d.staticPolicy d.cimd =
      .ok policy) : Resolved d policy := by
  unfold resolveOAuthAuthorizationClientPolicy at h
  split at h
  · cases h
  split at h
  · cases h
  rename_i clientId _ _ redirectUri _
  split at h
  · rename_i own
    cases h
    exact static_resolved law (Option.filter_eq_some_iff.mp own).1
  split at h
  · cases h
  rename_i deps configured
  split at h
  · cases h
  rename_i discovered found
  obtain ⟨listed, h⟩ := guard_ok h
  cases h
  obtain ⟨⟨validated, valid⟩, redirects⟩ := CimdDiscovery.discovered_metadata found
  obtain ⟨_, accepted, _, _⟩ := CimdClientId.validateCimdClientId_ok valid
  have target : ∃ url, d.locate.parseUrl redirectUri = some url ∧ plainHttps url = true := by
    have redirect := redirects redirectUri (not_not.mp listed)
    rw [d.oneParser deps configured, CimdDocument.validRedirectUri] at redirect
    split at redirect
    · cases redirect
    · cases parsed : d.locate.parseUrl redirectUri with
      | none =>
        rw [parsed] at redirect
        cases redirect
      | some url =>
        rw [parsed] at redirect
        exact ⟨url, rfl, redirect⟩
  exact ⟨accepted.visible, target, rfl, show CIMD_DYNAMIC_SCOPES.length ≤ 64 by decide,
    show ∀ scope ∈ CIMD_DYNAMIC_SCOPES, scope.utf8ByteSize ≤ 128 by decide⟩

theorem fits_iff_bounds {d : Deployment} {url : Url} {policy : OAuthPublicClientPolicy}
    {request : ValidatedOAuthAuthorizationRequest} (law : SerializesOrigins d.locate)
    (granted : Granted url policy request) (resolved : Resolved d policy) :
    Fits d request ↔ WithinBounds d request := by
  constructor
  · intro fits
    obtain ⟨target, parsed, _, unreserved⟩ := fits.redirect
    refine ⟨fits.clientSize, fits.redirectSize, fun url found => ?_, fits.state, ?_⟩
    · rw [parsed] at found
      cases found
      exact unreserved
    · rw [← resolved.resource, ← granted.resource]
      exact fits.resourceSize
  · intro bounds
    obtain ⟨target, parsed, plain⟩ := resolved.redirect
    rw [← granted.redirectUri] at parsed
    obtain ⟨_, origins⟩ := origin_plain d law
    obtain ⟨location, found, own, query, _⟩ := origins "/mcp" (by decide)
    have resource : request.resource = d.publicOrigin ++ "/mcp" :=
      granted.resource.trans resolved.resource
    have few : request.scopes.length ≤ policy.scopes.length :=
      (List.subperm_of_subset granted.distinct granted.registered).length_le
    refine ⟨granted.clientId ▸ resolved.client, bounds.clientSize,
      ⟨target, parsed, plain, bounds.unreserved target parsed⟩, bounds.redirectSize,
      ⟨location.toUrl, ?_, own, query⟩, resource ▸ bounds.origin, Nat.le_trans few resolved.scopes,
      fun scope mem => resolved.scopeSizes scope (granted.registered scope mem), bounds.state, ?_⟩
    · rw [resource, Locator.parseUrl, found]
      rfl
    · have size := bounds.origin
      rw [String.utf8ByteSize_append] at size
      omega

/-- Exactly when no stage refuses an accepted request as malformed: for any policy, and
for those the gateway resolves. -/
theorem stages_nest_iff (d : Deployment) (law : SerializesOrigins d.locate) {url : Url}
    {policy : OAuthPublicClientPolicy} {request : ValidatedOAuthAuthorizationRequest}
    (accepted : validateOAuthAuthorizationRequest url policy = .ok request) :
    (Nests d request ↔ Fits d request) ∧
    (resolveOAuthAuthorizationClientPolicy url d.publicOrigin d.staticPolicy d.cimd = .ok policy →
      (Nests d request ↔ WithinBounds d request)) := by
  have granted := validate_granted accepted
  have general : Nests d request ↔ Fits d request :=
    ⟨fits_of_nests granted, nests_of_fits law granted⟩
  exact ⟨general, fun resolved =>
    general.trans (fits_iff_bounds law granted (policy_resolved law resolved))⟩

/-! ### A gateway and a client with a long identifier -/

def site (host path : String) : String × Location :=
  ("https://" ++ host ++ path,
    { protocol := "https:", hostname := host, pathname := if path = "" then "/" else path,
      origin := "https://" ++ host })

@[irreducible]
def longChars : List Char :=
  "https://client.example".toList ++ (List.replicate 60 "/documents".toList).flatten

def longId : String := String.ofList longChars

def sites : List (String × Location) :=
  [site "client.example" "", site "client.example" "/mcp", site "client.example" "/back",
    site "gateway.example" "", site "gateway.example" "/mcp"]

/-- These sites and the long identifier, whose path is what follows the host. -/
def sampleLocate : Locator := fun text =>
  if text = longId then
    some { protocol := "https:", hostname := "client.example",
           pathname := String.ofList (longChars.drop 22), origin := "https://client.example" }
  else sites.lookup text

noncomputable def sampleDiscovery : CimdDiscovery.Environment :=
  { CimdDiscovery.sampleEnvironment with
    parseUrl := sampleLocate.parseUrl
    web :=
      { CimdDiscovery.sampleEnvironment.web with
        parse := fun _ => some (.obj [("client_id", .str longId), ("client_name", .str "c"),
          ("redirect_uris", .arr [.str "https://client.example/back"]),
          ("token_endpoint_auth_method", .str "none")]) } }

def clientEnv : OAuthPublicClientEnv where
  GATEWAY_OAUTH_CLIENT_ID := some "registered"
  GATEWAY_OAUTH_REDIRECT_URI := some "https://client.example/back"
  GATEWAY_OAUTH_CLIENT_SCOPES := some "capability.read"

def policyOf (clientId : String) : OAuthPublicClientPolicy :=
  ⟨clientId, "https://client.example/back", "https://gateway.example/mcp", ["capability.read"]⟩

noncomputable def sampleDeployment : Deployment where
  locate := sampleLocate
  rawOrigin := "https://gateway.example"
  publicOrigin := "https://gateway.example"
  origin := by decide +kernel
  clientEnv := clientEnv
  staticPolicy := some (policyOf "registered")
  loaded := by decide +kernel
  cimd := some ⟨sampleDiscovery, none⟩
  oneParser := fun deps h => by
    cases h
    rfl

def challenge : String := "AAAAAAAAAAAAAAAAAAAAAAAAAAAAAAAAAAAAAAAAAAA"

/-- What a browser asks for. -/
def asking (clientId : String) : Url where
  protocol := "https:"
  hostname := "gateway.example"
  searchParams := [("response_type", "code"), ("client_id", clientId),
    ("redirect_uri", "https://client.example/back"), ("resource", "https://gateway.example/mcp"),
    ("scope", "capability.read"), ("state", "s"), ("code_challenge", challenge),
    ("code_challenge_method", "S256")]

def asked (clientId : String) : ValidatedOAuthAuthorizationRequest :=
  ⟨clientId, "https://client.example/back", "https://gateway.example/mcp", ["capability.read"],
    some "s", challenge⟩

theorem sites_origins : ∀ entry ∈ sites, entry.2.origin ≠ "" ∧ ∀ path ∈ ["", "/mcp"],
    (sampleLocate (entry.2.origin ++ path)).any (fun again => plainHttps again.toUrl &&
      again.search == "" && again.origin == entry.2.origin) = true := by
  decide +kernel

theorem sampleLocate_origins : SerializesOrigins sampleLocate := by
  intro text location found _
  have known : ∃ entry ∈ sites, entry.2.origin = location.origin := by
    rw [sampleLocate] at found
    split at found
    · cases found
      exact ⟨site "client.example" "", List.mem_cons_self, rfl⟩
    · obtain ⟨before, after, split, _⟩ := List.lookup_eq_some_iff.mp found
      exact ⟨(text, location), split ▸ List.mem_append_right _ List.mem_cons_self, rfl⟩
  obtain ⟨entry, listed, same⟩ := known
  obtain ⟨filled, again⟩ := sites_origins entry listed
  rw [same] at filled again
  refine ⟨filled, fun path mem => ?_⟩
  have plain := again path mem
  cases located : sampleLocate (location.origin ++ path) with
  | none =>
    rw [located] at plain
    cases plain
  | some other =>
    rw [located, Option.any_some, Bool.and_eq_true, Bool.and_eq_true, beq_iff_eq, beq_iff_eq] at plain
    exact ⟨other, rfl, plain.1.1, plain.1.2, plain.2⟩

/-- A request of the registered client passes every stage. -/
theorem registered_nests : Nests sampleDeployment (asked "registered") := by
  have accepted : validateOAuthAuthorizationRequest (asking "registered") (policyOf "registered") =
      .ok (asked "registered") := by decide +kernel
  have resolved : resolveOAuthAuthorizationClientPolicy (asking "registered")
      sampleDeployment.publicOrigin sampleDeployment.staticPolicy sampleDeployment.cimd =
      .ok (policyOf "registered") := by decide +kernel
  refine ((stages_nest_iff sampleDeployment sampleLocate_origins accepted).2 resolved).mpr ?_
  refine ⟨by decide, by decide, fun url found => ?_, fun state h => ?_, by decide⟩
  · have free : (sampleDeployment.locate.parseUrl (asked "registered").redirectUri).all
        (fun url => !redirectHasReservedResponseParams url) = true := by decide +kernel
    rw [found, Option.all_some, Bool.not_eq_true'] at free
    exact free
  · cases h
    decide

theorem toList_longId : longId.toList = longChars := String.toList_ofList

theorem visible_longId : visibleText longId = true := by
  rw [visibleText, toList_longId, Bool.and_eq_true]
  refine ⟨decide_eq_true fun empty => ?_, by decide +kernel⟩
  have none : longChars = [] := by rw [← toList_longId, empty]; rfl
  exact absurd none (by decide +kernel)

theorem size_longId : longId.utf8ByteSize = 622 := by
  rw [← length_of_visible visible_longId, toList_longId]
  decide +kernel

theorem long_accepted : validateCimdClientId sampleLocate.parseUrl grammarIsIP longId =
    .ok ⟨longId, "client.example", none⟩ := by
  have trimmed : trim longId = longId := by
    rw [trim, toList_longId, show trimChars longChars = longChars by decide +kernel]
    rfl
  have filled : longId ≠ "" := fun empty => by
    have none : longChars = [] := by rw [← toList_longId, empty]; rfl
    exact absurd none (by decide +kernel)
  have parsed : sampleLocate.parseUrl longId =
      some { protocol := "https:", hostname := "client.example" } := by
    rw [Locator.parseUrl, sampleLocate, if_pos rfl]
    rfl
  have path : CimdClientId.rawPath longId = some (longChars.drop 22) := by
    rw [CimdClientId.rawPath, toList_longId]
    decide +kernel
  rw [validateCimdClientId, if_neg, if_neg, parsed]
  · dsimp only
    rw [path]
    dsimp only
    rw [if_neg (by decide), if_neg (by decide), if_neg (by decide), if_neg (by decide),
      if_neg (by decide +kernel), if_neg (by decide +kernel), if_neg (by decide +kernel),
      if_neg (by decide +kernel), if_pos rfl]
    rfl
  · rw [size_longId]
    decide
  · rw [trimmed, toList_longId, visible_longId]
    rintro (empty | same | slash | hidden)
    · exact filled empty
    · exact same rfl
    · exact absurd slash (by decide +kernel)
    · cases hidden


theorem long_parsed : sampleDiscovery.parseUrl longId =
    some { protocol := "https:", hostname := "client.example" } := by
  show sampleLocate.parseUrl longId = _
  rw [Locator.parseUrl, sampleLocate, if_pos rfl]
  rfl

theorem long_fetched :
    (CimdDiscovery.fetchPinned sampleDiscovery ⟨longId, ["93.184.216.34"], CimdDocument.MAX_CIMD_DOCUMENT_BYTES,
      Option.getD none CimdDiscovery.DEFAULT_CIMD_FETCH_TIMEOUT_MS⟩).1 =
      some ⟨200, some "application/json", "\x7b\x7d", "93.184.216.34"⟩ := by
  have valid : CimdDiscovery.validatedRequest sampleDiscovery
      ⟨longId, ["93.184.216.34"], CimdDocument.MAX_CIMD_DOCUMENT_BYTES,
      Option.getD none CimdDiscovery.DEFAULT_CIMD_FETCH_TIMEOUT_MS⟩ =
      some ({ protocol := "https:", hostname := "client.example" }, ["93.184.216.34"]) := by
    rw [CimdDiscovery.validatedRequest, if_neg (by decide), long_parsed]
    dsimp only
    rw [toList_longId, if_neg (by decide +kernel), if_neg (by decide +kernel)]
    rfl
  have preferred : CimdDiscovery.preferredAddresses sampleDiscovery ["93.184.216.34"] =
      ["93.184.216.34"] := by decide +kernel
  have built : ∃ command, CimdDiscovery.buildPortableCimdCurlInvocation sampleDiscovery []
      ⟨longId, ["93.184.216.34"], CimdDocument.MAX_CIMD_DOCUMENT_BYTES,
      Option.getD none CimdDiscovery.DEFAULT_CIMD_FETCH_TIMEOUT_MS⟩ "93.184.216.34" 3000 = some command := by
    rw [CimdDiscovery.buildPortableCimdCurlInvocation, valid]
    exact ⟨_, if_neg (by decide)⟩
  obtain ⟨command, built⟩ := built
  rw [CimdDiscovery.fetchPinned, valid]
  dsimp only
  rw [preferred, show max CimdDiscovery.MIN_ATTEMPT_TIMEOUT_MS
    (Option.getD none CimdDiscovery.DEFAULT_CIMD_FETCH_TIMEOUT_MS / (["93.184.216.34"].length : Int)) =
    3000 by decide, CimdDiscovery.attempt, built]
  dsimp only
  rw [show sampleDiscovery.run ([] ++ [command]) =
    CimdDiscovery.sampleEnvironment.run ([] : List CimdDiscovery.CimdCurlInvocation) from rfl]
  have metadata : ∀ out err, CimdDiscovery.sampleEnvironment.run [] = .ok out err →
      CimdDiscovery.parseMetadata sampleDiscovery err =
        some (200, some "application/json", "93.184.216.34") ∧
      String.fromUTF8? ⟨out.toArray⟩ = some "\x7b\x7d" := by
    intro out err h
    cases h
    exact ⟨by decide +kernel, by decide +kernel⟩
  cases ran : CimdDiscovery.sampleEnvironment.run [] with
  | failed => cases ran
  | ok out err =>
    obtain ⟨known, body⟩ := metadata out err ran
    dsimp only
    rw [known]
    dsimp only
    rw [if_neg (by decide), body]

theorem long_discovered : ∃ client,
    (CimdDiscovery.discoverCimdClient sampleDiscovery none longId).1 = .ok client ∧
      client.metadata.redirectUris = ["https://client.example/back"] := by
  have accepted : validateCimdClientId sampleDiscovery.parseUrl sampleDiscovery.isIP longId =
    .ok ⟨longId, "client.example", none⟩ := long_accepted
  have answered : CimdDiscovery.answers sampleDiscovery "client.example" = some ["93.184.216.34"] := by
    decide +kernel
  have checked : CimdNetwork.validateCimdResolvedAddresses sampleDiscovery.isIP ["93.184.216.34"] =
      .ok ["93.184.216.34"] := by rfl
  have document : CimdDocument.validateCimdDocument sampleDiscovery.web.toRuntime
      sampleDiscovery.parseUrl sampleDiscovery.isIP longId "\x7b\x7d" =
      .ok ⟨longId, "c", ["https://client.example/back"]⟩ := by
    rw [CimdDocument.validateCimdDocument, accepted]
    decide +kernel
  have read : CimdDiscovery.readResponse sampleDiscovery ⟨longId, "client.example", none⟩
      ["93.184.216.34"] ⟨200, some "application/json", "\x7b\x7d", "93.184.216.34"⟩ =
      .ok ⟨⟨longId, "client.example", none⟩, ⟨longId, "c", ["https://client.example/back"]⟩⟩ :=
    CimdDiscovery.readResponse_of (by decide +kernel) rfl (by decide +kernel) document
  exact ⟨_, CimdDiscovery.discoverCimdClient_ok accepted answered checked (by decide) long_fetched read,
    rfl⟩

theorem long_unbounded :
    PendingConsents.requestIsBounded sampleDeployment.locate.parseUrl (asked longId) = false := by
  have client : PendingConsents.clientIdPattern (asked longId).clientId = false := by
    apply Bool.eq_false_iff.mpr
    intro pattern
    have size : longId.utf8ByteSize ≤ 512 := (pending_client_iff.mp pattern).2
    rw [size_longId] at size
    exact absurd size (by decide)
  simp only [PendingConsents.requestIsBounded, boundedRequest, client, Bool.false_and]

/-- A client identifier of 622 bytes is discovered, and its request accepted by the validator,
but the pending store refuses it as malformed. -/
theorem long_client_refused :
    (validateCimdClientId sampleDeployment.locate.parseUrl grammarIsIP longId).isOk = true ∧
    resolveOAuthAuthorizationClientPolicy (asking longId) sampleDeployment.publicOrigin
      sampleDeployment.staticPolicy sampleDeployment.cimd = .ok (policyOf longId) ∧
    validateOAuthAuthorizationRequest (asking longId) (policyOf longId) = .ok (asked longId) ∧
    ¬ Nests sampleDeployment (asked longId) := by
  have accepted : (validateCimdClientId sampleLocate.parseUrl grammarIsIP longId).isOk = true := by
    rw [long_accepted]
    rfl
  obtain ⟨client, found, redirects⟩ := long_discovered
  have resolved : resolveOAuthAuthorizationClientPolicy (asking longId) "https://gateway.example"
      (some (policyOf "registered")) (some ⟨sampleDiscovery, none⟩) =
      .ok ⟨longId, "https://client.example/back", "https://gateway.example" ++ "/mcp",
        CIMD_DYNAMIC_SCOPES⟩ := by
    refine resolve_discovered ?_ ?_ ?_ found ?_
    · decide +kernel
    · decide +kernel
    · decide +kernel
    · rw [redirects]
      exact List.mem_cons_self
  refine ⟨accepted, resolved, ?_, fun nests => ?_⟩
  · decide +kernel
  · exact nests.1 ⟨1, 1000, by decide, by decide⟩ Store.empty 0 (fun _ => "")
      (PendingConsents.create_invalid_iff.mpr long_unbounded)

end OAuthStages
