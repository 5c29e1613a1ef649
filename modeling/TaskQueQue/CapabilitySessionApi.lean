import TaskQueQue.CapabilitySessions
import TaskQueQue.GatewayRouter

/-!
# Asking for a capability session

The route reads a grant and a lifetime out of a request, refusing what the issuer
would throw on, and answers with the token. The checks come in the order of the
source: media type and length, the object and its field names, then each field.

What a request asks for is stated apart from the parser; the two agree. A session
answered for it is worth the grant asked for, to whoever presents the token, from
its issue to its expiry, and not a session of its own making.
-/

namespace CapabilitySessionApi

open GatewayValues Capabilities CapabilityAuth CapabilitySessions
open GatewayRouter (Reply Gateway GatewayDependencies rootRequired provide)

def SESSION_REQUEST_KEYS : List String := ["depth", "authority", "scopes", "ttl_seconds"]

structure SessionRequest where
  grant : CapabilityGrant
  ttlSeconds : Int

def invalidScopes : Response :=
  .coded 400 "invalid_scopes" "scopes must be an array with at most 64 entries"

def sessionLifetime (value : Option Json) : Option Int :=
  (Json.integer? value).filter fun ttl =>
    decide (MIN_CAPABILITY_SESSION_TTL_SECONDS ≤ ttl ∧ ttl ≤ MAX_CAPABILITY_SESSION_TTL_SECONDS)

/-- The fields, once the object is known to hold no others. -/
def parseSessionFields (parsed : Json) : Except Response SessionRequest :=
  match isDepth (parsed.field "depth") with
  | none =>
    .error (.coded 400 "invalid_depth" "depth must be an integer capability level D0..D6")
  | some depth =>
    match isAuthority (parsed.field "authority") with
    | none =>
      .error (.coded 400 "invalid_authority" "authority must be an integer capability level A0..A4")
    | some authority =>
      match parsed.field "scopes" with
      | some (.arr scopes) =>
        if MAX_CAPABILITY_SESSION_SCOPES < scopes.length then .error invalidScopes
        else
          match sessionLifetime (parsed.field "ttl_seconds") with
          | none => .error (.coded 400 "invalid_ttl" "ttl_seconds must be between 60 and 86400")
          | some ttlSeconds =>
            if validateCapabilityGrant (parsed.field "depth") (parsed.field "authority")
                (some (.arr scopes)) ≠ [] then
              .error (.coded 400 "invalid_grant"
                "session grant contains invalid or duplicate scopes")
            else .ok ⟨⟨depth, authority, scopeTexts scopes⟩, ttlSeconds⟩
      | _ => .error invalidScopes

def parseSessionRequest (web : WebRuntime) (request : Request) : Except Response SessionRequest :=
  match TaskFacade.boundedBody web request (request.header "content-length") with
  | .error response => .error response
  | .ok raw =>
    match web.parse raw with
    | none => .error (.coded 400 "invalid_json" "request body must contain valid JSON")
    | some (.obj fields) =>
      match (fields.map Prod.fst).find? fun key => !SESSION_REQUEST_KEYS.contains key with
      | some key => .error (.coded 400 "unknown_field" ("unknown session request field: " ++ key))
      | none => parseSessionFields (.obj fields)
    | some _ =>
      .error (.coded 400 "invalid_session_request" "session request must be a JSON object")

def sessionJson (issued : CapabilitySessionIssue) : Json :=
  .obj [("schema_version", .num 1), ("token_type", .str "Bearer"),
    ("session_token", .str issued.token), ("session_id", .str issued.claims.sid),
    ("issued_at", .num issued.claims.iat), ("expires_at", .num issued.claims.exp),
    ("grant", .obj [("depth", .num (issued.claims.depth : Int)),
      ("authority", .num (issued.claims.authority : Int)),
      ("scopes", .arr (issued.claims.scopes.map .str))])]

/-- `sid` is what `crypto.randomUUID` answers, should a session be issued. -/
def handleCapabilitySessionRequest (web : WebRuntime) (config : GatewayConfig) (request : Request)
    (sid : String) (nowMs : Int) : Option Reply :=
  if request.pathname ≠ "/v1/capability-sessions" then none
  else if request.method ≠ "POST" then some (TaskFacade.methodNotAllowed "POST")
  else if !isRootAuthorization request config then some rootRequired
  else
    match config.token? with
    | none =>
      some (Response.coded 503 "session_signing_unavailable"
        "capability session signing is unavailable")
    | some apiToken =>
      match parseSessionRequest web request with
      | .error response => some response
      | .ok parsed =>
        match issueCapabilitySession web sid apiToken parsed.grant parsed.ttlSeconds nowMs with
        | .error _ => some none
        | .ok issued => some (some ⟨201, some (sessionJson issued)⟩)

/-- The router's stage before it hands the request on is this handler's. -/
theorem routed {P : Type} {deps : GatewayDependencies P} {request : Request} {g : Gateway P}
    {sid : String} {nowMs : Int}
    (served : deps.serve .capabilitySessions request g.providers =
      ((handleCapabilitySessionRequest deps.web deps.config request sid nowMs).getD none,
        g.providers)) :
    GatewayRouter.handleCapabilitySessionRequest deps request g =
      (handleCapabilitySessionRequest deps.web deps.config request sid nowMs).map fun answer =>
        (answer, g) := by
  rw [GatewayRouter.handleCapabilitySessionRequest]
  by_cases elsewhere : request.pathname ≠ "/v1/capability-sessions"
  · rw [if_pos elsewhere, handleCapabilitySessionRequest, if_pos elsewhere]
    exact rfl
  rw [if_neg elsewhere]
  by_cases other : request.method ≠ "POST"
  · rw [if_pos other, handleCapabilitySessionRequest, if_neg elsewhere, if_pos other]
    exact rfl
  rw [if_neg other]
  by_cases root : (!isRootAuthorization request deps.config) = true
  · rw [if_pos root, handleCapabilitySessionRequest, if_neg elsewhere, if_neg other, if_pos root]
    exact rfl
  rw [if_neg root]
  cases token : deps.config.token? with
  | none =>
    rw [if_pos rfl, handleCapabilitySessionRequest, if_neg elsewhere, if_neg other, if_neg root,
      token]
    exact rfl
  | some apiToken =>
    have handled : ∃ answer,
        handleCapabilitySessionRequest deps.web deps.config request sid nowMs = some answer := by
      rw [handleCapabilitySessionRequest, if_neg elsewhere, if_neg other, if_neg root, token]
      dsimp only
      split
      · exact ⟨_, rfl⟩
      · split
        · exact ⟨_, rfl⟩
        · exact ⟨_, rfl⟩
    obtain ⟨answer, handled⟩ := handled
    rw [if_neg (Option.some_ne_none apiToken), provide, served, handled]
    exact rfl

/-! ### What a request asks for -/

/-- Scopes a session may carry: few, each safe and short, none twice. -/
structure ScopesAllowed (scopes : List String) : Prop where
  few : scopes.length ≤ MAX_CAPABILITY_SESSION_SCOPES
  each : ∀ scope ∈ scopes, safeScope scope = true ∧ scope.utf8ByteSize ≤ MAX_SCOPE_BYTES
  once : scopes.Nodup

/-- An object of these four fields, in any order. -/
structure Fields (parsed : Json) (asked : SessionRequest) : Prop where
  depth : parsed.field "depth" = some (.num (asked.grant.depth : Int))
  authority : parsed.field "authority" = some (.num (asked.grant.authority : Int))
  scopes : parsed.field "scopes" = some (.arr (asked.grant.scopes.map .str))
  ttlSeconds : parsed.field "ttl_seconds" = some (.num asked.ttlSeconds)
  allowed : ScopesAllowed asked.grant.scopes
  atLeast : MIN_CAPABILITY_SESSION_TTL_SECONDS ≤ asked.ttlSeconds
  atMost : asked.ttlSeconds ≤ MAX_CAPABILITY_SESSION_TTL_SECONDS

/-- A body within its bounds that asks for the grant and the lifetime. -/
def Asks (web : WebRuntime) (request : Request) (asked : SessionRequest) : Prop :=
  TaskFacade.boundedBody web request (request.header "content-length") = .ok request.body ∧
    ∃ fields, web.parse request.body = some (.obj fields) ∧
      (∀ key ∈ fields.map Prod.fst, key ∈ SESSION_REQUEST_KEYS) ∧ Fields (.obj fields) asked

theorem safeScope_filled {scope : String} (safe : safeScope scope = true) :
    scope.utf8ByteSize ≠ 0 := by
  intro empty
  rw [String.utf8ByteSize_eq_zero_iff.mp empty] at safe
  cases safe

theorem scopeErrors_eq_nil {scopes seen : List String} :
    scopeErrors seen (scopes.map .str) = [] ↔
      (∀ scope ∈ scopes, safeScope scope = true ∧ scope.utf8ByteSize ≤ MAX_SCOPE_BYTES) ∧
        scopes.Nodup ∧ ∀ scope ∈ scopes, scope ∉ seen := by
  induction scopes generalizing seen with
  | nil => simp [scopeErrors]
  | cons scope scopes ih =>
    rw [List.map_cons, scopeErrors, List.forall_mem_cons, List.forall_mem_cons, List.nodup_cons]
    by_cases fits : safeScope scope = true ∧ scope.utf8ByteSize ≤ MAX_SCOPE_BYTES
    · rw [if_neg, List.append_eq_nil_iff, ih]
      · constructor
        · rintro ⟨fresh, each, once, apart⟩
          refine ⟨⟨fits, each⟩, ⟨fun again => ?_, once⟩, fun known => ?_, fun other mem known => ?_⟩
          · exact apart scope again List.mem_cons_self
          · rw [if_pos known] at fresh
            cases fresh
          · exact apart other mem (List.mem_cons_of_mem _ known)
        · rintro ⟨⟨_, each⟩, ⟨fresh, once⟩, unseen, apart⟩
          refine ⟨if_neg unseen, each, once, fun other mem known => ?_⟩
          rcases List.mem_cons.mp known with rfl | known
          · exact fresh mem
          · exact apart other mem known
      · rw [not_or, not_or]
        refine ⟨safeScope_filled fits.1, Nat.not_lt.mpr fits.2, ?_⟩
        rw [fits.1]
        exact Bool.false_ne_true.symm
    · constructor
      · intro accepted
        rw [if_pos] at accepted
        · cases accepted
        · by_cases safe : safeScope scope = true
          · exact .inr (.inl (Nat.lt_of_not_le fun short => fits ⟨safe, short⟩))
          · exact .inr (.inr (Bool.eq_false_iff.mpr safe))
      · rintro ⟨⟨here, _⟩, _⟩
        exact absurd here fits

theorem grantErrors_eq_nil {grant : CapabilityGrant} :
    grantErrors grant = [] ↔ ScopesAllowed grant.scopes := by
  rw [grantErrors, validateCapabilityGrant, isDepth_own, isAuthority_own]
  simp only [Option.isNone_some, Bool.false_eq_true, if_false, List.nil_append,
    List.append_eq_nil_iff, List.length_map, scopeErrors_eq_nil]
  constructor
  · rintro ⟨few, each, once, _⟩
    refine ⟨?_, each, once⟩
    split at few
    · cases few
    · omega
  · intro allowed
    exact ⟨if_neg (Nat.not_lt.mpr allowed.few), allowed.each, allowed.once,
      fun _ _ => List.not_mem_nil⟩

theorem sessionLifetime_own {ttl : Int} (atLeast : MIN_CAPABILITY_SESSION_TTL_SECONDS ≤ ttl)
    (atMost : ttl ≤ MAX_CAPABILITY_SESSION_TTL_SECONDS) :
    sessionLifetime (some (.num ttl)) = some ttl :=
  Option.filter_eq_some_iff.mpr ⟨rfl, decide_eq_true ⟨atLeast, atMost⟩⟩

theorem parseSessionFields_ok {parsed : Json} {asked : SessionRequest}
    (h : parseSessionFields parsed = .ok asked) : Fields parsed asked := by
  rw [parseSessionFields] at h
  split at h
  · cases h
  rename_i depth hdepth
  split at h
  · cases h
  rename_i authority hauthority
  split at h
  · rename_i scopes hscopes
    split at h
    · cases h
    split at h
    · cases h
    rename_i ttl httl
    split at h
    · cases h
    rename_i accepted
    cases h
    obtain ⟨whole, bounds⟩ := Option.filter_eq_some_iff.mp httl
    have bounds := of_decide_eq_true bounds
    have own : validateCapabilityGrant (parsed.field "depth") (parsed.field "authority")
        (some (.arr scopes)) = [] := not_not.mp accepted
    have texts : scopes = (scopeTexts scopes).map .str := by
      rw [validateCapabilityGrant] at own
      simp only [List.append_eq_nil_iff] at own
      exact scopeTexts_map own.2.2
    rw [level_eq hdepth, level_eq hauthority, texts] at own
    exact ⟨level_eq hdepth, level_eq hauthority, hscopes.trans (congrArg (some ∘ Json.arr) texts),
      integer?_eq whole, grantErrors_eq_nil.mp own, bounds.1, bounds.2⟩
  · cases h

theorem Fields.parsed {parsed : Json} {asked : SessionRequest} (h : Fields parsed asked) :
    parseSessionFields parsed = .ok asked := by
  have accepted := grantErrors_eq_nil.mpr h.allowed
  rw [grantErrors] at accepted
  rw [parseSessionFields, h.depth, h.authority, h.scopes, h.ttlSeconds, isDepth_own,
    isAuthority_own]
  dsimp only
  rw [sessionLifetime_own h.atLeast h.atMost, if_neg, accepted]
  · dsimp only
    rw [if_neg (fun absent => absent rfl), scopeTexts_own]
  · rw [List.length_map]
    exact Nat.not_lt.mpr h.allowed.few

theorem parseSessionRequest_iff {web : WebRuntime} {request : Request} {asked : SessionRequest} :
    parseSessionRequest web request = .ok asked ↔ Asks web request asked := by
  constructor
  · intro h
    rw [parseSessionRequest] at h
    split at h
    · cases h
    rename_i raw bounded
    have same := TaskFacade.boundedBody_ok bounded
    subst same
    split at h
    · cases h
    · rename_i fields parsed
      split at h
      · cases h
      rename_i known
      refine ⟨bounded, fields, parsed, fun key mem => ?_, parseSessionFields_ok h⟩
      have listed := List.find?_eq_none.mp known key mem
      rw [Bool.not_eq_true, Bool.not_eq_false'] at listed
      exact List.contains_iff_mem.mp listed
    · cases h
  · rintro ⟨bounded, fields, parsed, known, asks⟩
    have none_other : (fields.map Prod.fst).find?
        (fun key => !SESSION_REQUEST_KEYS.contains key) = none := by
      refine List.find?_eq_none.mpr fun key mem => ?_
      rw [List.contains_iff_mem.mpr (known key mem)]
      exact Bool.false_ne_true
    rw [parseSessionRequest, bounded]
    dsimp only
    rw [parsed]
    dsimp only
    rw [none_other]
    exact asks.parsed

/-! ### What the answer is worth -/

theorem parseSessionFields_error {parsed : Json} {response : Response}
    (h : parseSessionFields parsed = .error response) : response.status = 400 := by
  rw [parseSessionFields] at h
  repeat' split at h
  all_goals cases h
  all_goals exact rfl

theorem coded_uncreated {status : Nat} {code message : String} (other : status ≠ 201) :
    (Response.coded status code message).status ≠ 201 := other

theorem parseSessionRequest_error {web : WebRuntime} {request : Request} {response : Response}
    (h : parseSessionRequest web request = .error response) : response.status ≠ 201 := by
  rw [parseSessionRequest] at h
  split at h
  · rename_i unbounded
    cases h
    simp only [TaskFacade.boundedBody] at unbounded
    repeat' split at unbounded
    all_goals cases unbounded
    all_goals exact coded_uncreated (by decide)
  split at h
  · cases h
    exact coded_uncreated (by decide)
  · split at h
    · cases h
      exact coded_uncreated (by decide)
    · rw [parseSessionFields_error h]
      decide
  · cases h
    exact coded_uncreated (by decide)

/-- The time between a session's issue, with a minute's leeway, and its expiry. -/
def Live (claims : CapabilitySessionClaims) (nowMs : Int) : Prop :=
  claims.iat ≤ nowMs / 1000 + 60 ∧ nowMs / 1000 < claims.exp

instance (claims : CapabilitySessionClaims) (nowMs : Int) : Decidable (Live claims nowMs) :=
  inferInstanceAs (Decidable (_ ∧ _))

section Presented

variable {web : WebRuntime} {token : String} {nowMs : Int}

theorem verify_live {secret : String} {auth : AuthorizationContext}
    (h : verifyCapabilitySession web token secret nowMs = some auth) :
    ∃ claims, tokenClaims web token = some claims ∧ Live claims nowMs := by
  rw [verifyCapabilitySession] at h
  split at h
  · cases h
  split at h
  · rename_i version payload signature hparts
    split at h
    · cases h
    split at h
    · rename_i tag payloadBytes hsignature hpayload
      split at h
      · cases h
      split at h
      · cases h
      · rename_i claims hclaims
        dsimp only at h
        split at h
        · cases h
        · rename_i inTime
          refine ⟨claims, ?_, by omega, by omega⟩
          rw [tokenClaims, hparts]
          simp only [hpayload, Option.bind_some, hclaims]
    · cases h
  · cases h

theorem wellFormed_claims {secret : String} {claims : CapabilitySessionClaims}
    (h : WellFormed web secret token claims) : tokenClaims web token = some claims := by
  obtain ⟨payload, signature, bytes, parts, _, decoded, parsed⟩ := h.parts
  rw [tokenClaims, parts]
  simp only [decoded, Option.bind_some, parsed]

/-- Out of its time a session is nothing, under the root token's secret or another. -/
theorem resolve_presented {config : GatewayConfig} {request : Request} {apiToken : String}
    {claims : CapabilitySessionClaims} (configured : config.token? = some apiToken)
    (wellFormed : WellFormed web apiToken token claims) (lifetime : Lifetime claims)
    (carried : bearerToken request = some token) (other : token ≠ apiToken) :
    resolveAuthorizationContext web request config nowMs =
      if Live claims nowMs then some claims.context else none := by
  have verified := verify_wellFormed wellFormed lifetime nowMs
  rw [resolveAuthorizationContext, configured, carried]
  simp only [reduceCtorEq, and_false, if_false, constantTimeEqual_iff, if_neg other]
  by_cases live : Live claims nowMs
  · rw [if_pos live]
    rw [show verifyCapabilitySession web token apiToken nowMs = some claims.context from
      verified.trans (if_pos live)]
  · have never : ∀ secret, verifyCapabilitySession web token secret nowMs = none := by
      intro secret
      cases accepted : verifyCapabilitySession web token secret nowMs with
      | none => rfl
      | some auth =>
        obtain ⟨held, read, inTime⟩ := verify_live accepted
        rw [wellFormed_claims wellFormed] at read
        cases read
        exact absurd inTime live
    rw [if_neg live, never]
    dsimp only
    cases config.publicOrigin with
    | none => rfl
    | some publicOrigin => exact never _

theorem not_root_of_other {config : GatewayConfig} {request : Request}
    (carried : bearerToken request = some token) (other : config.token? ≠ some token) :
    isRootAuthorization request config = false := by
  rw [isRootAuthorization, carried]
  cases configured : config.token? with
  | none => rfl
  | some apiToken =>
    dsimp only
    rw [Bool.eq_false_iff, ne_eq, constantTimeEqual_iff]
    rintro rfl
    exact other configured

end Presented

section Handled

variable {web : WebRuntime} {config : GatewayConfig} {request : Request} {sid : String}
  {nowMs : Int} {reply : Reply}

theorem root_configured (root : isRootAuthorization request config = true) :
    ∃ apiToken, config.token? = some apiToken ∧ apiToken ≠ "" := by
  rw [isRootAuthorization] at root
  cases configured : config.token? with
  | none =>
    rw [configured] at root
    cases root
  | some apiToken =>
    exact ⟨apiToken, rfl, of_decide_eq_true (Option.filter_eq_some_iff.mp configured).2⟩

/-- What a request asks for the issuer does not throw on. -/
theorem issues {apiToken : String} {asked : SessionRequest} (given : apiToken ≠ "")
    (asks : Asks web request asked) (sid : String) (nowMs : Int) :
    ∃ issued, issueCapabilitySession web sid apiToken asked.grant asked.ttlSeconds nowMs =
      .ok issued := by
  obtain ⟨_, fields, _, _, fieldsAsked⟩ := asks
  have accepted := grantErrors_eq_nil.mpr fieldsAsked.allowed
  have atLeast := fieldsAsked.atLeast
  have atMost := fieldsAsked.atMost
  have bounded : ¬((asked.ttlSeconds : ℚ).den ≠ 1 ∨
      (asked.ttlSeconds : ℚ).num < MIN_CAPABILITY_SESSION_TTL_SECONDS ∨
      MAX_CAPABILITY_SESSION_TTL_SECONDS < (asked.ttlSeconds : ℚ).num) := by
    rw [Rat.den_intCast, Rat.num_intCast]
    omega
  cases made : issueCapabilitySession web sid apiToken asked.grant asked.ttlSeconds nowMs with
  | ok issued => exact ⟨issued, rfl⟩
  | error thrown =>
    rw [issueCapabilitySession, if_neg given, if_neg (not_not.mpr accepted), if_neg bounded] at made
    cases made

theorem asks_unique {asked other : SessionRequest} (left : Asks web request asked)
    (right : Asks web request other) : asked = other := by
  have same := (parseSessionRequest_iff.mpr left).symm.trans (parseSessionRequest_iff.mpr right)
  exact Except.ok.inj same

/-- A session is created for the root's well-formed request, and for no other. -/
theorem handled_created
    (handled : handleCapabilitySessionRequest web config request sid nowMs = some reply) :
    ∃ response, reply = some response ∧
      (response.status = 201 ↔ request.method = "POST" ∧
        isRootAuthorization request config = true ∧ ∃ asked, Asks web request asked) ∧
      ∀ asked apiToken, response.status = 201 → Asks web request asked →
        config.token? = some apiToken → ∃ issued,
          issueCapabilitySession web sid apiToken asked.grant asked.ttlSeconds nowMs = .ok issued ∧
          response.body = some (sessionJson issued) := by
  rw [handleCapabilitySessionRequest] at handled
  split at handled
  · cases handled
  split at handled
  · rename_i method
    cases handled
    refine ⟨_, rfl, ⟨fun created => absurd created (by decide), fun h => absurd h.1 method⟩, ?_⟩
    exact fun _ _ created => absurd created (by decide)
  rename_i method
  split at handled
  · rename_i root
    cases handled
    rw [Bool.not_eq_true'] at root
    refine ⟨_, rfl, ⟨fun created => absurd created (by decide), fun h => ?_⟩, ?_⟩
    · rw [root] at h
      exact absurd h.2.1 Bool.false_ne_true
    · exact fun _ _ created => absurd created (by decide)
  rename_i root
  rw [Bool.not_eq_true', Bool.not_eq_false] at root
  obtain ⟨apiToken, configured, given⟩ := root_configured root
  rw [configured] at handled
  dsimp only at handled
  split at handled
  · rename_i response failed
    cases handled
    have status := parseSessionRequest_error failed
    refine ⟨response, rfl, ⟨fun created => absurd created status, fun ⟨_, _, asked, asks⟩ => ?_⟩,
      fun _ _ created => absurd created status⟩
    rw [parseSessionRequest_iff.mpr asks] at failed
    cases failed
  · rename_i parsed read
    have asks := parseSessionRequest_iff.mp read
    obtain ⟨issued, made⟩ := issues given asks sid nowMs
    rw [made] at handled
    cases handled
    refine ⟨_, rfl, ⟨fun _ => ⟨not_not.mp method, root, parsed, asks⟩, fun _ => rfl⟩, ?_⟩
    intro asked secret _ asksToo secretToo
    cases asks_unique asks asksToo
    rw [configured] at secretToo
    cases secretToo
    exact ⟨issued, made, rfl⟩

end Handled

/-- The route never throws, creates a session for the root's well-formed request
alone, and the session it answers with is worth what was asked, for as long as was
asked: whoever presents the token is given that grant, is not the root, and is
given no further session. -/
theorem session_worth_what_was_asked {web : WebRuntime} {format : JsonText.NumberFormat}
    {config : GatewayConfig} {request : Request} {sid : String} {nowMs : Int} {reply : Reply}
    (json : WritesJson web format) (tags : ∀ key message, (web.hmac key message).length = 32)
    (uuid : Uuid sid) (time : nowMs.natAbs ≤ MAX_TIME_VALUE)
    (handled : handleCapabilitySessionRequest web config request sid nowMs = some reply) :
    ∃ response, reply = some response ∧
      (response.status = 201 ↔ request.method = "POST" ∧
        isRootAuthorization request config = true ∧ ∃ asked, Asks web request asked) ∧
      ∀ asked, response.status = 201 → Asks web request asked → ∃ issued : CapabilitySessionIssue,
        response.body = some (sessionJson issued) ∧
        issued.claims = ⟨sid, nowMs / 1000, nowMs / 1000 + asked.ttlSeconds, asked.grant.depth,
          asked.grant.authority, asked.grant.scopes⟩ ∧
        ∀ later, bearerToken later = some issued.token → config.token? ≠ some issued.token →
          (∀ laterMs, resolveAuthorizationContext web later config laterMs =
            if nowMs / 1000 ≤ laterMs / 1000 + 60 ∧
              laterMs / 1000 < nowMs / 1000 + asked.ttlSeconds then
              some ⟨.session, asked.grant, some sid, some (nowMs / 1000 + asked.ttlSeconds)⟩
            else none) ∧
          ∀ otherSid laterMs answer,
            handleCapabilitySessionRequest web config later otherSid laterMs = some (some answer) →
              answer.status ≠ 201 := by
  obtain ⟨response, rfl, created, minted⟩ := handled_created handled
  refine ⟨response, rfl, created, fun asked status asks => ?_⟩
  obtain ⟨apiToken, configured, _⟩ := root_configured (created.mp status).2.1
  obtain ⟨issued, made, body⟩ := minted asked apiToken status asks configured
  have claims := (issueCapabilitySession_ok made).2.2.2.2.2.1
  rw [Rat.num_intCast] at claims
  obtain ⟨wellFormed, lifetime⟩ := issued_wellFormed json tags uuid time made
  refine ⟨issued, body, claims, fun later carried other => ⟨fun laterMs => ?_, ?_⟩⟩
  · have distinct : issued.token ≠ apiToken := by
      rintro rfl
      exact other configured
    rw [resolve_presented configured wellFormed lifetime carried distinct]
    have live : Live issued.claims laterMs ↔ nowMs / 1000 ≤ laterMs / 1000 + 60 ∧
        laterMs / 1000 < nowMs / 1000 + asked.ttlSeconds := by
      rw [Live, claims]
    rw [claims] at live ⊢
    exact if_congr live rfl rfl
  · intro otherSid laterMs answer again
    obtain ⟨_, same, createdAgain, _⟩ := handled_created again
    cases same
    intro status
    have root := (createdAgain.mp status).2.1
    rw [not_root_of_other carried other] at root
    cases root

/-! ### A session asked for by the root -/

def sampleFields : List (String × Json) :=
  [("depth", .num (2 : Int)), ("authority", .num (0 : Int)),
    ("scopes", .arr [.str "capability.read"]), ("ttl_seconds", .num (900 : Int))]

def sampleRequest : Request where
  method := "POST"
  pathname := "/v1/capability-sessions"
  header := fun name =>
    if name = "content-type" then some "application/json"
    else if name = "authorization" then some "Bearer root-token"
    else none
  body := String.ofList (JsonText.render JsonText.integers (.obj sampleFields))

def sampleConfig : GatewayConfig where
  apiToken := some "root-token"

def sampleAsked : SessionRequest := ⟨sampleGrant, 900⟩

theorem sample_parse (value : Json) :
    sampleWeb.parse (String.ofList (JsonText.render JsonText.integers value)) =
      JsonText.read JsonText.integers (JsonText.render JsonText.integers value) := by
  change JsonText.read _ (String.ofList (JsonText.render _ value)).toList = _
  rw [String.toList_ofList]

theorem sample_asks : Asks sampleWeb sampleRequest sampleAsked := by
  have media : "application/json".toList.isPrefixOf
      (((some "application/json").map String.toLower).getD "").toList = true := by decide +kernel
  have header : sampleRequest.header "content-type" = some "application/json" := rfl
  have length : sampleRequest.header "content-length" = none := rfl
  have short : sampleRequest.body.utf8ByteSize ≤ 1024 := by decide +kernel
  have normal : JsonText.Normal JsonText.integers (.obj sampleFields) := by
    have whole : ∀ n : Int, n.natAbs ≤ JsonText.MAX_SAFE_INTEGER →
        JsonText.Normal JsonText.integers (.num n) := fun n safe =>
      (JsonText.integers.integer n safe).1
    exact ⟨by decide, whole 2 (by decide), whole 0 (by decide), ⟨trivial, trivial⟩,
      whole 900 (by decide), trivial⟩
  refine ⟨?_, sampleFields, ?_, by decide, ?_⟩
  · rw [TaskFacade.boundedBody, header, media, length, if_neg (by decide), if_neg (by decide),
      if_neg]
    rintro (declared | long)
    · cases declared
    · exact absurd short (Nat.not_le.mpr (lt_trans (by decide) long))
  · have body : sampleRequest.body =
        String.ofList (JsonText.render JsonText.integers (.obj sampleFields)) := rfl
    rw [body, sample_parse]
    exact JsonText.read_render normal
  · exact ⟨rfl, rfl, rfl, rfl, ⟨by decide, by decide +kernel, by decide⟩, by decide, by decide⟩

/-- The sample grant asked for by the root is the session's for fifteen minutes. -/
theorem session_worth_what_was_asked_sample :
    ∃ issued, handleCapabilitySessionRequest sampleWeb sampleConfig sampleRequest sampleSid
        1760000000123 = some (some ⟨201, some (sessionJson issued)⟩) ∧
      ∀ later, bearerToken later = some issued.token → issued.token ≠ "root-token" →
        resolveAuthorizationContext sampleWeb later sampleConfig 1760000899999 =
          some ⟨.session, sampleGrant, some sampleSid, some 1760000900⟩ ∧
        resolveAuthorizationContext sampleWeb later sampleConfig 1760000900000 = none := by
  have root : isRootAuthorization sampleRequest sampleConfig = true := by decide +kernel
  obtain ⟨reply, handled⟩ : ∃ reply, handleCapabilitySessionRequest sampleWeb sampleConfig
      sampleRequest sampleSid 1760000000123 = some reply := by
    rw [handleCapabilitySessionRequest, if_neg (fun h => h rfl), if_neg (fun h => h rfl), root]
    simp only [Bool.not_true, Bool.false_eq_true, if_false]
    split
    · exact ⟨_, rfl⟩
    split
    · exact ⟨_, rfl⟩
    split
    · exact ⟨_, rfl⟩
    · exact ⟨_, rfl⟩
  obtain ⟨response, rfl, created, worth⟩ := session_worth_what_was_asked sampleWeb_writesJson
    sampleWeb_tags sampleSid_uuid (by decide) handled
  have status := created.mpr ⟨rfl, root, sampleAsked, sample_asks⟩
  obtain ⟨issued, body, _, presented⟩ := worth sampleAsked status sample_asks
  refine ⟨issued, ?_, fun later carried other => ?_⟩
  · rw [handled, ← body, ← status]
  have resolved := (presented later carried fun same => other (Option.some.inj same).symm).1
  exact ⟨(resolved _).trans (if_pos (by decide)), (resolved _).trans (if_neg (by decide))⟩

end CapabilitySessionApi
