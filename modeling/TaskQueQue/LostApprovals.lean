import TaskQueQue.OAuthSafety
import TaskQueQue.OAuthStages

/-!
# Decisions that a failed continuation loses

A continuation takes the operator's decision out of the pending store before it
builds the redirect and draws the code. If one of these fails, the answer is a
server error and the decision is gone: no later continuation of the transaction can
be answered with a redirect. So a decision survives its continuations exactly if none
of them fails there.
-/

namespace LostApprovals

open GatewayValues OAuthRequests OAuthRedirects OAuthFlow ExpiringStores
open AuthorizationCodes (authorizationCode)
open PendingConsents (OAuthConsentDecision currentTime)

variable {env : Gateway}

/-- A continuation that answers with a server error leaves a world in which some later
continuation, at clocks and with codes as fortunate as can be, still redirects. -/
def KeepsDecision (w : World env) (sources : Sources) (requestId issuer : String) : Prop :=
  ∀ response, (continueAuthorization w sources requestId issuer).1 = some (.json response) →
    500 ≤ response.status →
      ∃ later location, (continueAuthorization (continueAuthorization w sources requestId issuer).2
        later requestId issuer).1 = some (.redirect location)

/-- The continuation finds a decision on the request, unexpired at both of its readings. -/
def Decided (w : World env) (sources : Sources) (requestId : String)
    (decision : OAuthConsentDecision) (request : ValidatedOAuthAuthorizationRequest) : Prop :=
  ∃ now now' entry, currentTime (sources.consentClock 0) = some now ∧
    currentTime (sources.consentClock 1) = some now' ∧ w.pending.find? requestId = some entry ∧
    now < entry.expiresAtMs ∧ now' < entry.expiresAtMs ∧ entry.status = .decided decision ∧
    entry.request = request

/-- What it takes to answer a decision: its redirect can be built and, for an approval,
the code store takes the request, has room, and is offered a code that is free. -/
def Answerable (w : World env) (sources : Sources) (issuer : String) :
    OAuthConsentDecision → ValidatedOAuthAuthorizationRequest → Prop
  | .denied, request =>
    ∃ location, buildOAuthAuthorizationErrorRedirect env.parseUrl request issuer "access_denied"
      (some "resource owner denied the authorization request") = .ok location
  | .approved, request =>
    (∃ location, buildOAuthAuthorizationSuccessRedirect env.parseUrl request issuer
      PREFLIGHT_CODE = .ok location) ∧
    ∀ now, currentTime (sources.codeClock 0) = some now →
      AuthorizationCodes.requestIsBounded env.parseUrl request = true ∧
      (w.codes.purgeAt now).size < env.codeOptions.maxEntries ∧
      ∃ code, firstFree authorizationCode
        (fun code => ((w.codes.purgeAt now).find? (env.digestCode code)).isSome) sources.codes 4 0 =
          some code

def CanFinish (w : World env) (sources : Sources) (requestId issuer : String) : Prop :=
  ∀ decision request, Decided w sources requestId decision request →
    Answerable w sources issuer decision request

/-! ### Reading the pending store -/

theorem getConsent_eq (w : World env) (reading : Option ℚ) (requestId : String) :
    currentTime reading = none ∧ w.getConsent reading requestId = (none, w) ∨
      ∃ now log, currentTime reading = some now ∧ w.getConsent reading requestId =
        (some (((w.pending.purgeAt now).find? requestId).map PendingConsents.projection),
          { w with pending := w.pending.purgeAt now, log := log }) := by
  rw [World.getConsent, World.consents]
  cases currentTime reading with
  | none => exact Or.inl ⟨rfl, rfl⟩
  | some now => exact Or.inr ⟨now, _, rfl, rfl⟩

theorem consumeConsent_eq (w : World env) (reading : Option ℚ) (requestId : String) :
    currentTime reading = none ∧ w.consumeConsent reading requestId = (none, w) ∨
      ∃ now log, currentTime reading = some now ∧ w.consumeConsent reading requestId =
        (some (PendingConsents.consumeDecision w.pending now requestId).1,
          { w with pending := (PendingConsents.consumeDecision w.pending now requestId).2,
                   log := log }) := by
  rw [World.consumeConsent, World.consents]
  cases currentTime reading with
  | none => exact Or.inl ⟨rfl, rfl⟩
  | some now => exact Or.inr ⟨now, _, rfl, rfl⟩

/-- The entry a continuation finds at both readings is the one the store had. -/
theorem find?_purges {w : World env} {requestId : String} {now now' : Nat}
    {entry : PendingConsents.PendingEntry} (found : w.pending.find? requestId = some entry)
    (early : now < entry.expiresAtMs) (early' : now' < entry.expiresAtMs) :
    (w.pending.purgeAt now).find? requestId = some entry ∧
      ((w.pending.purgeAt now).purgeAt now').find? requestId = some entry := by
  have first : (w.pending.purgeAt now).find? requestId = some entry := by
    rw [Store.find?_purgeAt, found, Option.filter_some, if_pos (decide_eq_true early)]
  refine ⟨first, ?_⟩
  rw [Store.find?_purgeAt, first, Option.filter_some, if_pos (decide_eq_true early')]

theorem decided_unique {w : World env} {sources : Sources} {requestId : String}
    {decision decision' : OAuthConsentDecision} {request request' : ValidatedOAuthAuthorizationRequest}
    (one : Decided w sources requestId decision request)
    (other : Decided w sources requestId decision' request') :
    decision = decision' ∧ request = request' := by
  obtain ⟨_, _, entry, _, _, found, _, _, status, same⟩ := one
  obtain ⟨_, _, entry', _, _, found', _, _, status', same'⟩ := other
  rw [found] at found'
  cases found'
  rw [status] at status'
  cases status'
  exact ⟨rfl, same.symm.trans same'⟩

/-- What follows once a decision was consumed. -/
def answerDecision (w : World env) (sources : Sources) (requestId issuer : String) :
    OAuthConsentDecision → ValidatedOAuthAuthorizationRequest → Handled env
  | .denied, request => (some (answerDenial request issuer env), w)
  | .approved, request => answerApproval w sources requestId issuer request

/-- A continuation finds no decision, and answers without a server error or not at all,
or it consumes the decision and answers it. -/
theorem continue_cases (w : World env) (sources : Sources) (requestId issuer : String) :
    ((∀ decision request, ¬ Decided w sources requestId decision request) ∧
      ∀ answer, (continueAuthorization w sources requestId issuer).1 = some answer →
        ∃ response, answer = .json response ∧ response.status < 500) ∨
    ∃ decision request w', Decided w sources requestId decision request ∧
      w'.pending.find? requestId = none ∧ w'.codes = w.codes ∧
      continueAuthorization w sources requestId issuer =
        answerDecision w' sources requestId issuer decision request := by
  unfold continueAuthorization
  rcases getConsent_eq w (sources.consentClock 0) requestId with
    ⟨silent, same⟩ | ⟨now, log, read, same⟩
  · rw [same]
    refine Or.inl ⟨?_, fun answer h => (nomatch h)⟩
    rintro decision request ⟨now, now', entry, read, -⟩
    rw [silent] at read
    cases read
  rw [same]
  cases found : (w.pending.purgeAt now).find? requestId with
  | none =>
    refine Or.inl ⟨?_, ?_⟩
    · rintro decision request ⟨now₁, now', entry, read₁, -, held, early, early', -⟩
      rw [read] at read₁
      cases read₁
      rw [(find?_purges held early early').1] at found
      cases found
    · rintro answer ⟨⟩
      exact ⟨_, rfl, by decide⟩
  | some entry =>
    obtain ⟨held, early⟩ := Store.find?_purgeAt_some found
    rw [Option.map_some]
    dsimp only
    by_cases waits : entry.status = .pending
    · rw [if_pos (show (PendingConsents.projection entry).status = .pending from waits)]
      refine Or.inl ⟨?_, ?_⟩
      · rintro decision request ⟨_, _, other, -, -, held', -, -, status, -⟩
        rw [held] at held'
        cases held'
        rw [waits] at status
        cases status
      · rintro answer ⟨⟩
        exact ⟨_, rfl, show 202 < 500 by decide⟩
    rw [if_neg (show ¬ (PendingConsents.projection entry).status = .pending from waits)]
    rcases consumeConsent_eq { w with pending := w.pending.purgeAt now, log := log }
        (sources.consentClock 1) requestId with ⟨silent, same'⟩ | ⟨now', log', read', same'⟩
    · rw [same']
      refine Or.inl ⟨?_, fun answer h => (nomatch h)⟩
      rintro decision request ⟨_, now', _, -, read', -⟩
      rw [silent] at read'
      cases read'
    rw [same', PendingConsents.consumeDecision]
    dsimp only
    cases found' : ((w.pending.purgeAt now).purgeAt now').find? requestId with
    | none =>
      refine Or.inl ⟨?_, ?_⟩
      · rintro decision request ⟨now₁, now₂, other, read₁, read₂, held', early₁, early₂, -⟩
        rw [read] at read₁
        rw [read'] at read₂
        cases read₁
        cases read₂
        rw [(find?_purges held' early₁ early₂).2] at found'
        cases found'
      · rintro answer ⟨⟩
        exact ⟨_, rfl, by decide⟩
    | some entry' =>
      obtain ⟨again, early'⟩ := Store.find?_purgeAt_some found'
      rw [found] at again
      cases again
      dsimp only
      cases status : entry.status with
      | pending => exact absurd status waits
      | decided decision =>
        refine Or.inr ⟨decision, entry.request,
          { w with pending := ((w.pending.purgeAt now).purgeAt now').remove requestId,
                   log := log' },
          ⟨now, now', entry, read, read', held, early, early', status, rfl⟩, ?_, rfl, ?_⟩
        · exact (Store.find?_remove _ _ _).trans (if_pos rfl)
        · cases decision <;> rfl

/-- Without the consent there is no redirect. -/
theorem no_redirect_of_absent {w : World env} {requestId : String}
    (absent : w.pending.find? requestId = none) (sources : Sources) (issuer location : String) :
    (continueAuthorization w sources requestId issuer).1 ≠ some (.redirect location) := by
  intro redirected
  rcases continue_cases w sources requestId issuer with ⟨-, answers⟩ | ⟨_, _, _, ⟨_, _, entry, _, _,
    found, -⟩, -⟩
  · obtain ⟨response, same, -⟩ := answers _ redirected
    cases same
  · rw [absent] at found
    cases found

/-! ### Answering a decision -/

theorem issueCode_eq (w : World env) (reading : Option ℚ) (codes : Nat → String)
    (requestId : String) (request : ValidatedOAuthAuthorizationRequest) :
    currentTime reading = none ∧ w.issueCode reading codes requestId request = (none, w) ∨
      ∃ now log, currentTime reading = some now ∧ w.issueCode reading codes requestId request =
        (some (AuthorizationCodes.issue env.parseUrl env.digestCode w.codes now codes request).1,
          { w with codes := (AuthorizationCodes.issue env.parseUrl env.digestCode w.codes now codes
                      request).2,
                   log := log }) := by
  rw [World.issueCode, World.codesAt]
  cases currentTime reading with
  | none => exact Or.inl ⟨rfl, rfl⟩
  | some now => exact Or.inr ⟨now, _, rfl, rfl⟩

/-- A code is issued exactly if the request is in bounds, there is room, and one of the
codes on offer is free. -/
theorem issue_ok_iff {w : World env} {now : Nat} {codes : Nat → String}
    {request : ValidatedOAuthAuthorizationRequest} :
    (∃ issued, (AuthorizationCodes.issue env.parseUrl env.digestCode w.codes now codes request).1 =
        .ok issued ∧ authorizationCode issued.code = true) ↔
      AuthorizationCodes.requestIsBounded env.parseUrl request = true ∧
      (w.codes.purgeAt now).size < env.codeOptions.maxEntries ∧
      ∃ code, firstFree authorizationCode
        (fun code => ((w.codes.purgeAt now).find? (env.digestCode code)).isSome) codes 4 0 =
          some code := by
  unfold AuthorizationCodes.issue
  dsimp only
  by_cases bounded : AuthorizationCodes.requestIsBounded env.parseUrl request = false
  · rw [if_pos bounded, bounded]
    constructor
    · rintro ⟨issued, h, -⟩
      cases h
    · exact fun h => absurd h.1 Bool.false_ne_true
  rw [if_neg bounded]
  by_cases full : env.codeOptions.maxEntries ≤ (w.codes.purgeAt now).size
  · rw [if_pos full]
    constructor
    · rintro ⟨issued, h, -⟩
      cases h
    · exact fun h => absurd h.2.1 (Nat.not_lt.mpr full)
  rw [if_neg full]
  rw [Bool.not_eq_false] at bounded
  cases free : firstFree authorizationCode
      (fun code => ((w.codes.purgeAt now).find? (env.digestCode code)).isSome) codes 4 0 with
  | none =>
    constructor
    · rintro ⟨issued, h, -⟩
      cases h
    · rintro ⟨-, -, code, h⟩
      cases h
  | some code =>
    obtain ⟨shape, absent⟩ := firstFree_some free
    rw [Option.isSome_eq_false_iff, Option.isNone_iff_eq_none] at absent
    obtain ⟨store, inserted⟩ := Store.insert?_of_room (Nat.not_le.mp full)
      (show (w.codes.purgeAt now).find? (AuthorizationCodes.entryOf env.codeOptions
        (env.digestCode code) now request).digest = none from absent)
    dsimp only
    rw [inserted]
    exact ⟨fun _ => ⟨bounded, Nat.not_le.mp full, code, rfl⟩, fun _ => ⟨_, rfl, shape⟩⟩

/-- A server error. -/
def ServerError (handled : Handled env) : Prop :=
  ∃ response, handled.1 = some (.json response) ∧ 500 ≤ response.status

theorem serverError_coded {status : Nat} (error : 500 ≤ status) (code message : String)
    (w : World env) : ServerError (some (.json (.coded status code message)), w) :=
  ⟨_, rfl, error⟩

theorem not_serverError_redirect (location : String) (w : World env) :
    ¬ ServerError (some (.redirect location), w) := by
  rintro ⟨response, same, -⟩
  cases same

theorem answerApproval_fails_iff (w : World env) (sources : Sources) (requestId issuer : String)
    (request : ValidatedOAuthAuthorizationRequest) :
    ServerError (answerApproval w sources requestId issuer request) ↔
      ¬ Answerable w sources issuer .approved request := by
  rw [answerApproval, Answerable]
  cases preflight : buildOAuthAuthorizationSuccessRedirect env.parseUrl request issuer
      PREFLIGHT_CODE with
  | error error =>
    refine iff_of_true (serverError_coded (by decide) _ _ w) ?_
    rintro ⟨⟨location, h⟩, -⟩
    cases h
  | ok location =>
    dsimp only
    have buildable := (success_built_iff (by decide)).mp ⟨location, preflight⟩
    rcases issueCode_eq w (sources.codeClock 0) sources.codes requestId request with
      ⟨silent, same⟩ | ⟨now, log, read, same⟩
    · rw [same]
      refine iff_of_false ?_ (not_not.mpr ⟨⟨location, rfl⟩, fun now read => ?_⟩)
      · rintro ⟨response, h, -⟩
        cases h
      · rw [silent] at read
        cases read
    rw [same]
    have issuable := @issue_ok_iff env w now sources.codes request
    cases result : (AuthorizationCodes.issue env.parseUrl env.digestCode w.codes now sources.codes
        request).1 with
    | error error =>
      rw [result] at issuable
      refine iff_of_true ?_ ?_
      · refine serverError_coded ?_ _ _ _
        split <;> decide
      · rintro ⟨-, ready⟩
        obtain ⟨issued, h, -⟩ := issuable.mpr (ready now read)
        cases h
    | ok issued =>
      rw [result] at issuable
      have shape : authorizationCode issued.code = true := by
        obtain ⟨store', made⟩ : ∃ store', AuthorizationCodes.issue env.parseUrl env.digestCode
            w.codes now sources.codes request = (.ok issued, store') := ⟨_, Prod.ext result rfl⟩
        exact (AuthorizationCodes.issue_ok made).1
      obtain ⟨success, built⟩ :=
        (success_built_iff (OAuthStages.response_code shape)).mpr buildable
      dsimp only
      rw [built]
      refine iff_of_false (not_serverError_redirect success _)
        (not_not.mpr ⟨⟨location, rfl⟩, fun now' read' => ?_⟩)
      rw [read] at read'
      cases read'
      exact issuable.mp ⟨issued, rfl, shape⟩

theorem answerDecision_fails_iff (w : World env) (sources : Sources) (requestId issuer : String)
    (decision : OAuthConsentDecision) (request : ValidatedOAuthAuthorizationRequest) :
    ServerError (answerDecision w sources requestId issuer decision request) ↔
      ¬ Answerable w sources issuer decision request := by
  cases decision with
  | approved => exact answerApproval_fails_iff w sources requestId issuer request
  | denied =>
    rw [answerDecision, answerDenial, Answerable]
    cases buildOAuthAuthorizationErrorRedirect env.parseUrl request issuer "access_denied"
        (some "resource owner denied the authorization request") with
    | error error =>
      refine iff_of_true (serverError_coded (by decide) _ _ w) ?_
      rintro ⟨location, h⟩
      cases h
    | ok location =>
      exact iff_of_false (not_serverError_redirect location w) (not_not.mpr ⟨location, rfl⟩)

theorem revokeCode_pending (w : World env) (reading : Option ℚ) (code : String) :
    (w.revokeCode reading code).2.pending = w.pending := by
  rw [World.revokeCode, World.codesAt]
  cases currentTime reading <;> rfl

/-- Answering a decision does not touch the pending store. -/
theorem answerDecision_pending (w : World env) (sources : Sources) (requestId issuer : String)
    (decision : OAuthConsentDecision) (request : ValidatedOAuthAuthorizationRequest) :
    (answerDecision w sources requestId issuer decision request).2.pending = w.pending := by
  cases decision with
  | denied => rfl
  | approved =>
    rw [answerDecision, answerApproval]
    split
    · rfl
    rcases issueCode_eq w (sources.codeClock 0) sources.codes requestId request with
      ⟨-, same⟩ | ⟨now, log, -, same⟩ <;> rw [same]
    cases (AuthorizationCodes.issue env.parseUrl env.digestCode w.codes now sources.codes request).1
      with
    | error error => rfl
    | ok issued =>
      dsimp only
      split
      · rfl
      have kept := revokeCode_pending { w with
        codes := (AuthorizationCodes.issue env.parseUrl env.digestCode w.codes now sources.codes
          request).2
        log := log } (sources.codeClock 1) issued.code
      split <;> rename_i revoked <;> rw [revoked] at kept <;> exact kept

/-- A continuation keeps the decision exactly if it finds none, or can answer the one it
finds. -/
theorem keeps_iff (w : World env) (sources : Sources) (requestId issuer : String) :
    KeepsDecision w sources requestId issuer ↔ CanFinish w sources requestId issuer := by
  rcases continue_cases w sources requestId issuer with
    ⟨undecided, answers⟩ | ⟨decision, request, w', decided, gone, codes, same⟩
  · refine iff_of_true ?_ ?_
    · intro response answered error
      obtain ⟨response', same, below⟩ := answers _ answered
      cases same
      omega
    · intro decision request decided
      exact absurd decided (undecided decision request)
  have finishes : CanFinish w sources requestId issuer ↔
      Answerable w sources issuer decision request := by
    refine ⟨fun all => all decision request decided, fun answerable other request' decided' => ?_⟩
    obtain ⟨rfl, rfl⟩ := decided_unique decided decided'
    exact answerable
  have moved : Answerable w' sources issuer decision request ↔
      Answerable w sources issuer decision request := by
    cases decision <;> rw [Answerable, Answerable]
    rw [codes]
  have lost : ∀ later location, (continueAuthorization
      (continueAuthorization w sources requestId issuer).2 later requestId issuer).1 ≠
        some (.redirect location) := by
    intro later location
    refine no_redirect_of_absent ?_ later issuer location
    rw [same, answerDecision_pending]
    exact gone
  have fails := answerDecision_fails_iff w' sources requestId issuer decision request
  rw [finishes, ← moved, ← not_iff_not, ← fails, ← same]
  constructor
  · intro breaks
    by_contra fine
    refine breaks fun response answered error => absurd ⟨response, answered, error⟩ fine
  · rintro ⟨response, answered, error⟩ keeps
    obtain ⟨later, location, redirected⟩ := keeps response answered error
    exact lost later location redirected

/-- In every world that some requests lead to, a continuation that fails leaves the
operator's decision for a later one exactly if it does not fail after it has taken the
decision out. -/
theorem keeps_decision_iff (env : Gateway) (actions : List Action) (sources : Sources)
    (requestId issuer : String) :
    KeepsDecision (after env actions) sources requestId issuer ↔
      CanFinish (after env actions) sources requestId issuer :=
  keeps_iff (after env actions) sources requestId issuer

/-! ### A code store that is full -/

/-- A gateway that holds one code at a time. -/
def crowdedGateway : Gateway where
  web := CapabilitySessions.sampleWeb
  parseUrl text := (OAuthStages.sites.lookup text).map fun location => location.toUrl
  isIP _ := none
  parseForm _ := []
  sha256 := id
  localeCompare _ _ := 0
  config :=
    { apiToken := some "root-token", publicOrigin := some "https://gateway.example"
      oauthAuthorizationServer := some "https://gateway.example" }
  registry := []
  staticPolicy := some (OAuthStages.policyOf "registered")
  cimdEnabled := false
  pendingOptions := ⟨64, 300000, by decide, by decide⟩
  codeOptions := ⟨1, 60000, by decide, by decide⟩

/-- Clocks that read one second, and one identifier for all that is drawn. -/
def steady (id : String) : Sources where
  consentClock _ := some 1000
  codeClock _ := some 1000
  ids _ := id
  codes _ := OAuthStages.challenge

def firstId : String := "first-request-id"
def secondId : String := "second-request-id"

/-- The operator approves a request. -/
def approving (id : String) : Request where
  method := "POST"
  pathname := consentsPath ++ "/" ++ id ++ "/decision"
  header name :=
    if name = "authorization" then some "Bearer root-token"
    else if name = "content-type" then some "application/json" else none
  body := "\x7b\"decision\":\"approved\"\x7d"

def continuing (id : String) : UrlValues.Url where
  protocol := "https:"
  hostname := "gateway.example"
  searchParams := [("request_id", id)]

/-- Two requests are approved, and the first is continued. -/
def crowding : List Action :=
  [.authorize (steady firstId) "GET" (OAuthStages.asking "registered")
      (.ok (OAuthStages.policyOf "registered")),
    .authorize (steady secondId) "GET" (OAuthStages.asking "registered")
      (.ok (OAuthStages.policyOf "registered")),
    .operate (some 1000) (approving firstId), .operate (some 1000) (approving secondId),
    .authorize (steady firstId) "GET" (continuing firstId)
      (.ok (OAuthStages.policyOf "registered"))]

theorem crowded : ((after crowdedGateway crowding).pending.find? secondId).any (fun entry =>
      decide (entry.status = .decided .approved ∧ 1000 < entry.expiresAtMs)) = true ∧
    ((after crowdedGateway crowding).codes.purgeAt 1000).size = 1 := by
  decide +kernel

/-- The second continuation finds the code store full, and its approval is gone. -/
theorem approval_lost :
    ¬ ∀ (env : Gateway) (actions : List Action) (sources : Sources) (requestId issuer : String),
      KeepsDecision (after env actions) sources requestId issuer := by
  intro claim
  have finishes := (keeps_iff _ _ _ _).mp
    (claim crowdedGateway crowding (steady secondId) secondId "https://gateway.example")
  obtain ⟨held, full⟩ := crowded
  rw [Option.any_eq_true] at held
  obtain ⟨entry, found, approved⟩ := held
  rw [decide_eq_true_eq] at approved
  have clock : currentTime (some 1000) = some 1000 := by decide
  have answerable := finishes .approved entry.request
    ⟨1000, 1000, entry, clock, clock, found, approved.2, approved.2, approved.1, rfl⟩
  obtain ⟨-, room, -⟩ := answerable.2 1000 clock
  rw [full] at room
  exact absurd room (by decide)

end LostApprovals
