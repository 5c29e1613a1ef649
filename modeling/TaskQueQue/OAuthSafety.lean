import TaskQueQue.OAuthLog

/-!
# The authorization-code flow is safe

The stores hold what the log says, the log is justified, and every request in
flight has redeemed a code no token was issued for. Each operation keeps this, so
each step does, and every run.
-/

namespace OAuthSafety

open UrlValues GatewayValues OAuthRequests AuthorizationCodes OAuthTokens OAuthFlow OAuthLog
open CapabilitySessions ExpiringStores ClientPolicies
open PendingConsents (PendingEntry PendingOAuthConsentStore OAuthConsentDecision currentTime)

variable {env : Gateway}

def entryView (entry : PendingEntry) :
    PendingConsents.PendingOAuthConsentStatus × ValidatedOAuthAuthorizationRequest × Nat :=
  (entry.status, entry.request, entry.expiresAtMs)

/-- What an entry of the code store holds, but for its digest and its birth. -/
def codeView (entry : AuthorizationCodeEntry) :
    String × String × String × List String × String × Nat :=
  (entry.clientId, entry.redirectUri, entry.resource, entry.scopes, entry.codeChallenge,
    entry.expiresAtMs)

def requestView (live : ValidatedOAuthAuthorizationRequest × Nat) :
    String × String × String × List String × String × Nat :=
  (live.1.clientId, live.1.redirectUri, live.1.resource, live.1.scopes, live.1.codeChallenge, live.2)

/-- Requests in flight that redeemed a digest. -/
def awaiting (env : Gateway) (digest : String) (inFlight : List Redemption) : Nat :=
  inFlight.countP fun redemption => env.digestCode redemption.consumed.binding.code == digest

structure Sound (w : World env) : Prop where
  justified : Justified env w.log
  consents : ∀ id, (w.pending.find? id).map entryView = (standing id w.log).live
  codes : ∀ digest,
    (w.codes.find? digest).map codeView = (codeStanding env digest w.log).map requestView
  flights : ∀ redemption ∈ w.inFlight, Note.redeemed redemption.consumed ∈ w.log
  counted : ∀ digest,
    tokens env digest w.log + awaiting env digest w.inFlight ≤ redemptions env digest w.log

theorem initial_sound : Sound (World.initial : World env) where
  justified := trivial
  consents := fun _ => rfl
  codes := fun _ => rfl
  flights := fun _ mem => absurd mem List.not_mem_nil
  counted := fun _ => Nat.le_refl _

/-! ### The pending store -/

/-- Notes on requests alone. -/
def onRequests : Note → Bool
  | .consentClock _ | .created _ _ _ | .decided _ _ _ | .consumed _ _ => true
  | _ => false

theorem codeStanding_onRequests {note : Note} (h : onRequests note = true) (digest : String)
    (older : List Note) : codeStanding env digest (note :: older) = codeStanding env digest older := by
  cases note with
  | consentClock | created | decided | consumed => rfl
  | _ => cases h

theorem counted_onRequests {note : Note} (h : onRequests note = true) {inFlight : List Redemption}
    {older : List Note} {digest : String}
    (counted : tokens env digest older + awaiting env digest inFlight ≤ redemptions env digest older) :
    tokens env digest (note :: older) + awaiting env digest inFlight ≤
      redemptions env digest (note :: older) := by
  rw [tokens, redemptions] at counted ⊢
  rw [List.countP_cons, List.countP_cons]
  cases note with
  | consentClock | created | decided | consumed => exact counted
  | _ => cases h

/-- A note on requests that the pending store follows keeps the world sound. -/
theorem Sound.on_requests {w : World env} (sound : Sound w) {note : Note}
    {pending : PendingOAuthConsentStore env.pendingOptions} (kind : onRequests note = true)
    (allowed : Allowed env w.log note)
    (rows : ∀ id, (pending.find? id).map entryView = (standing id (note :: w.log)).live) :
    Sound { w with pending, log := note :: w.log } where
  justified := ⟨allowed, sound.justified⟩
  consents := rows
  codes := fun digest => by
    rw [codeStanding_onRequests kind]
    exact sound.codes digest
  flights := fun redemption mem => List.mem_cons_of_mem _ (sound.flights redemption mem)
  counted := fun digest => counted_onRequests kind (sound.counted digest)

theorem live_atTime (now : Nat) (standing : Standing) :
    (standing.atTime now).live = standing.live.filter fun entry => decide (now < entry.2.2) := by
  cases standing with
  | absent => rfl
  | consumed => rfl
  | waiting request expires | decided decision request expires =>
    rw [Standing.atTime, Standing.live]
    by_cases gone : expires ≤ now
    · rw [if_pos gone, Option.filter_some_neg]
      · rfl
      · simpa using gone
    · rw [if_neg gone, Option.filter_some_pos]
      · rfl
      · simpa using gone

/-- The purge that every operation of the pending store begins with. -/
theorem Sound.purged {w : World env} (sound : Sound w) (now : Nat) :
    Sound { w with pending := w.pending.purgeAt now, log := .consentClock now :: w.log } := by
  refine sound.on_requests rfl trivial fun id => ?_
  rw [standing, live_atTime, ← sound.consents id, Store.find?_purgeAt, Option.filter_map]
  rfl

theorem Sound.createConsent {w : World env} (sound : Sound w) (reading : Option ℚ)
    (ids : Nat → String) {request : ValidatedOAuthAuthorizationRequest}
    (validated : ∃ url policy, validateOAuthAuthorizationRequest url policy = .ok request) :
    Sound (w.createConsent reading ids request).2 := by
  rw [World.createConsent, World.consents]
  cases currentTime reading with
  | none => exact sound
  | some now =>
    dsimp only
    cases made : PendingConsents.create env.parseUrl w.pending now ids request with
    | mk result store =>
      have purged := sound.purged now
      cases result with
      | error error =>
        rw [PendingConsents.create_error made]
        exact purged
      | ok value =>
        obtain ⟨_, entry, shown, same, pending, expires, _, rows⟩ := PendingConsents.create_ok made
        refine purged.on_requests rfl validated fun id => ?_
        rw [rows, standing, shown]
        by_cases own : entry.requestId = id
        · rw [if_pos own, if_pos (show (PendingConsents.projection entry).requestId = id from own)]
          rw [Option.map_some, entryView, pending, same]
          rfl
        · rw [if_neg own, if_neg (show ¬ (PendingConsents.projection entry).requestId = id from own)]
          exact purged.consents id

theorem Sound.getConsent {w : World env} (sound : Sound w) (reading : Option ℚ) (requestId : String) :
    Sound (w.getConsent reading requestId).2 := by
  rw [World.getConsent, World.consents]
  cases currentTime reading with
  | none => exact sound
  | some now => exact sound.purged now

theorem Sound.listConsents {w : World env} (sound : Sound w) (reading : Option ℚ) :
    Sound (w.listConsents reading).2 := by
  rw [World.listConsents, World.consents]
  cases currentTime reading with
  | none => exact sound
  | some now => exact sound.purged now

theorem Standing.live_pending {standing : Standing} {request : ValidatedOAuthAuthorizationRequest}
    {expires : Nat} (h : some (.pending, request, expires) = standing.live) :
    standing = .waiting request expires := by
  cases standing <;> cases h
  rfl

theorem Standing.live_decided {standing : Standing} {decision : OAuthConsentDecision}
    {request : ValidatedOAuthAuthorizationRequest} {expires : Nat}
    (h : some (.decided decision, request, expires) = standing.live) :
    standing = .decided decision request expires := by
  cases standing <;> cases h
  rfl

theorem Sound.decideConsent {w : World env} (sound : Sound w) (reading : Option ℚ)
    (requestId : String) (decision : OAuthConsentDecision) {operator : Request}
    (root : CapabilityAuth.isRootAuthorization operator env.config.toGatewayConfig = true) :
    Sound (w.decideConsent reading requestId decision operator).2 := by
  rw [World.decideConsent, World.consents]
  cases currentTime reading with
  | none => exact sound
  | some now =>
    dsimp only
    cases made : PendingConsents.decideRequest w.pending now requestId decision with
    | mk result store =>
      have purged := sound.purged now
      cases result with
      | error error =>
        rw [PendingConsents.decideRequest_error made]
        exact purged
      | ok value =>
        obtain ⟨entry, held, pending, _, rows⟩ := PendingConsents.decideRequest_ok made
        have waiting : standing requestId (.consentClock now :: w.log) =
            .waiting entry.request entry.expiresAtMs := by
          apply Standing.live_pending
          rw [← purged.consents requestId, held, Option.map_some, entryView, pending]
        refine purged.on_requests rfl ⟨root, _, _, waiting⟩ fun id => ?_
        rw [rows, standing]
        by_cases own : requestId = id
        · subst own
          rw [if_pos rfl, if_pos rfl, waiting]
          rfl
        · rw [if_neg own, if_neg own]
          exact purged.consents id

/-- What is consumed was decided so. -/
theorem Sound.consumeConsent {w : World env} (sound : Sound w) (reading : Option ℚ)
    (requestId : String) :
    Sound (w.consumeConsent reading requestId).2 ∧
      ∀ decision request, (w.consumeConsent reading requestId).1 = some (.ok (decision, request)) →
        ∃ expires, standing requestId (w.consumeConsent reading requestId).2.log =
          .consumed decision request expires := by
  rw [World.consumeConsent, World.consents]
  cases currentTime reading with
  | none => exact ⟨sound, fun _ _ h => by cases h⟩
  | some now =>
    dsimp only
    cases made : PendingConsents.consumeDecision w.pending now requestId with
    | mk result store =>
      have purged := sound.purged now
      cases result with
      | error error =>
        rw [PendingConsents.consumeDecision_error made]
        exact ⟨purged, fun _ _ h => by cases h⟩
      | ok value =>
        obtain ⟨decision, request⟩ := value
        obtain ⟨entry, held, status, same, rows⟩ := PendingConsents.consumeDecision_ok made
        have decided : standing requestId (.consentClock now :: w.log) =
            .decided decision request entry.expiresAtMs := by
          apply Standing.live_decided
          rw [← purged.consents requestId, held, Option.map_some, entryView, status, same]
        have consumed : standing requestId
            (.consumed requestId decision :: .consentClock now :: w.log) =
            .consumed decision request entry.expiresAtMs := by
          rw [standing, if_pos rfl, decided]
          rfl
        refine ⟨purged.on_requests rfl ⟨_, _, decided⟩ fun id => ?_, fun decision' request' h => ?_⟩
        · rw [rows]
          by_cases own : id = requestId
          · rw [if_pos own, own, consumed]
            rfl
          · rw [if_neg own, standing, if_neg fun h => own h.symm]
            exact purged.consents id
        · cases h
          exact ⟨_, consumed⟩

/-! ### The code store -/

/-- A note on codes that the code store follows keeps the world sound. -/
theorem Sound.on_codes {w : World env} (sound : Sound w) {note : Note}
    {codes : OAuthAuthorizationCodeStore env.codeOptions} (allowed : Allowed env w.log note)
    (requests : ∀ id, (standing id (note :: w.log)).live = (standing id w.log).live)
    (rows : ∀ digest, (codes.find? digest).map codeView =
      (codeStanding env digest (note :: w.log)).map requestView)
    (counted : ∀ digest, tokens env digest (note :: w.log) + awaiting env digest w.inFlight ≤
      redemptions env digest (note :: w.log)) :
    Sound { w with codes, log := note :: w.log } where
  justified := ⟨allowed, sound.justified⟩
  consents := fun id => by
    rw [requests]
    exact sound.consents id
  codes := rows
  flights := fun redemption mem => List.mem_cons_of_mem _ (sound.flights redemption mem)
  counted := counted

theorem Sound.codesPurged {w : World env} (sound : Sound w) (now : Nat) :
    Sound { w with codes := w.codes.purgeAt now, log := .codeClock now :: w.log } := by
  refine sound.on_codes trivial (fun _ => rfl) (fun digest => ?_) sound.counted
  rw [codeStanding, Store.find?_purgeAt]
  have same := sound.codes digest
  cases held : w.codes.find? digest with
  | none =>
    rw [held] at same
    cases live : codeStanding env digest w.log with
    | none => rfl
    | some _ =>
      rw [live] at same
      cases same
  | some entry =>
    rw [held] at same
    cases live : codeStanding env digest w.log with
    | none =>
      rw [live] at same
      cases same
    | some request =>
      rw [live] at same
      have views : codeView entry = requestView request := Option.some.inj same
      have expiry : entry.expiresAtMs = request.2 := congrArg (fun view => view.2.2.2.2.2) views
      rw [Option.filter, Option.filter, expiry]
      split
      · exact same
      · rfl

/-- A code is issued for the approval that has just been consumed. -/
theorem Sound.issueCode {w : World env} (sound : Sound w) (reading : Option ℚ) (codes : Nat → String)
    {requestId : String} {request : ValidatedOAuthAuthorizationRequest}
    (approved : ∃ expires, standing requestId w.log = .consumed .approved request expires) :
    Sound (w.issueCode reading codes requestId request).2 ∧
      ∀ issued, (w.issueCode reading codes requestId request).1 = some (.ok issued) →
        authorizationCode issued.code = true := by
  rw [World.issueCode, World.codesAt]
  cases currentTime reading with
  | none => exact ⟨sound, fun _ h => by cases h⟩
  | some now =>
    dsimp only
    cases made : AuthorizationCodes.issue env.parseUrl env.digestCode w.codes now codes request with
    | mk result store =>
      have purged := sound.codesPurged now
      cases result with
      | error error =>
        rw [AuthorizationCodes.issue_error made]
        exact ⟨purged, fun _ h => by cases h⟩
      | ok issued =>
        obtain ⟨shape, expires, _, rows⟩ := AuthorizationCodes.issue_ok made
        refine ⟨purged.on_codes approved (fun id => ?_) (fun digest => ?_) purged.counted, ?_⟩
        · rw [standing]
          by_cases own : requestId = id
          · obtain ⟨_, consumed⟩ := approved
            have spent : standing id (.codeClock now :: w.log) = standing id w.log := rfl
            rw [if_pos own, spent, ← own, consumed]
            rfl
          · rw [if_neg own]
        · rw [rows, codeStanding]
          by_cases own : env.digestCode issued.code = digest
          · rw [if_pos own, if_pos own, expires]
            rfl
          · rw [if_neg own, if_neg own]
            exact purged.codes digest
        · intro issued' h
          cases h
          exact shape

theorem Sound.revokeCode {w : World env} (sound : Sound w) (reading : Option ℚ) {code : String}
    (shape : authorizationCode code = true) : Sound (w.revokeCode reading code).2 := by
  rw [World.revokeCode, World.codesAt]
  cases currentTime reading with
  | none => exact sound
  | some now =>
    dsimp only
    cases made : AuthorizationCodes.consume env.digestCode w.codes now code with
    | mk result store =>
      have purged := sound.codesPurged now
      have rows : ∀ digest, store.find? digest =
          if digest = env.digestCode code then none else (w.codes.purgeAt now).find? digest := by
        cases result with
        | none =>
          obtain ⟨rfl, absent⟩ := AuthorizationCodes.consume_none made
          intro digest
          by_cases own : digest = env.digestCode code
          · rw [if_pos own, own]
            exact absent shape
          · rw [if_neg own]
        | some consumed =>
          obtain ⟨_, _, _, rows⟩ := AuthorizationCodes.consume_some made
          exact rows
      refine purged.on_codes trivial (fun _ => rfl) (fun digest => ?_) purged.counted
      rw [rows, codeStanding]
      by_cases own : digest = env.digestCode code
      · rw [if_pos own, if_pos own.symm]
        rfl
      · rw [if_neg own, if_neg fun h => own h.symm]
        exact purged.codes digest

theorem tokens_redeemed (digest : String) (consumed : ConsumedOAuthAuthorizationCode)
    (older : List Note) :
    tokens env digest (.redeemed consumed :: older) = tokens env digest older := rfl

theorem redemptions_redeemed (digest : String) (consumed : ConsumedOAuthAuthorizationCode)
    (older : List Note) : redemptions env digest (.redeemed consumed :: older) =
      redemptions env digest older +
        if env.digestCode consumed.binding.code == digest then 1 else 0 :=
  List.countP_cons

theorem awaiting_snoc (digest : String) (inFlight : List Redemption) (redemption : Redemption) :
    awaiting env digest (inFlight ++ [redemption]) = awaiting env digest inFlight +
      if env.digestCode redemption.consumed.binding.code == digest then 1 else 0 := by
  rw [awaiting, List.countP_append, List.countP_singleton]
  rfl

/-- A redeemed code carries what its request was approved for, and is gone. -/
theorem Sound.redeemCode {w : World env} (sound : Sound w) (reading : Option ℚ) (code : String) :
    Sound (w.redeemCode reading code).2 ∧
      (∀ consumed, (w.redeemCode reading code).1 = some (some consumed) →
        Note.redeemed consumed ∈ (w.redeemCode reading code).2.log ∧
        (w.redeemCode reading code).2.inFlight = w.inFlight ∧
        ∀ digest, tokens env digest (w.redeemCode reading code).2.log +
          awaiting env digest (w.inFlight ++ [⟨[], consumed⟩]) ≤
          redemptions env digest (w.redeemCode reading code).2.log) ∧
      ((currentTime reading).isSome → authorizationCode code = true →
        (w.redeemCode reading code).2.codes.find? (env.digestCode code) = none) := by
  rw [World.redeemCode, World.codesAt]
  cases currentTime reading with
  | none => exact ⟨sound, fun _ h => (by cases h), fun h => (by cases h)⟩
  | some now =>
    dsimp only
    cases made : AuthorizationCodes.consume env.digestCode w.codes now code with
    | mk result store =>
      have purged := sound.codesPurged now
      cases result with
      | none =>
        obtain ⟨rfl, absent⟩ := AuthorizationCodes.consume_none made
        exact ⟨purged, fun _ h => (by cases h), fun _ shape => absent shape⟩
      | some consumed =>
        obtain ⟨entry, held, shown, rows⟩ := AuthorizationCodes.consume_some made
        have own : env.digestCode consumed.binding.code = env.digestCode code := by rw [shown]
        have live := purged.codes (env.digestCode code)
        rw [held, Option.map_some] at live
        obtain ⟨request, stands, views⟩ := Option.map_eq_some_iff.mp live.symm
        have carries : Carries consumed request.1 ∧ request.2 = consumed.expiresAtMs := by
          simp only [requestView, codeView, Prod.mk.injEq] at views
          obtain ⟨client, redirect, resource, scopes, challenge, expires⟩ := views
          rw [shown]
          exact ⟨⟨client.symm, redirect.symm, resource.symm, challenge.symm, scopes.symm⟩, expires⟩
        have allowed : Allowed env (.codeClock now :: w.log) (.redeemed consumed) := by
          refine ⟨request.1, ?_, carries.1⟩
          rw [own, ← carries.2]
          exact stands
        have more : ∀ digest, tokens env digest (.redeemed consumed :: .codeClock now :: w.log) +
            awaiting env digest (w.inFlight ++ [⟨[], consumed⟩]) ≤
            redemptions env digest (.redeemed consumed :: .codeClock now :: w.log) := by
          intro digest
          have before := purged.counted digest
          rw [tokens_redeemed, redemptions_redeemed, awaiting_snoc]
          dsimp only at before ⊢
          omega
        have fewer : ∀ digest, awaiting env digest w.inFlight ≤
            awaiting env digest (w.inFlight ++ [⟨[], consumed⟩]) := by
          intro digest
          rw [awaiting, awaiting, List.countP_append]
          exact Nat.le_add_right _ _
        refine ⟨purged.on_codes allowed (fun _ => rfl) (fun digest => ?_) fun digest =>
          Nat.le_trans (Nat.add_le_add_left (fewer digest) _) (more digest), ?_, ?_⟩
        · rw [rows, codeStanding, own]
          by_cases same : digest = env.digestCode code
          · rw [if_pos same, if_pos same.symm]
            rfl
          · rw [if_neg same, if_neg fun h => same h.symm]
            exact purged.codes digest
        · intro consumed' h
          cases h
          exact ⟨List.mem_cons_self, rfl, more⟩
        · intro _ _
          rw [rows, if_pos rfl]

/-! ### The handlers -/

theorem startAuthorization_sound {w : World env} (sound : Sound w) (sources : Sources) (url : Url)
    (issuer : String) (policy : OAuthPublicClientPolicy) :
    Sound (startAuthorization w sources url issuer policy).2 := by
  unfold startAuthorization
  split
  · split
    · exact sound
    · split
      · exact sound
      · exact sound
  · rename_i request validated
    have next := sound.createConsent (sources.consentClock 0) sources.ids ⟨url, policy, validated⟩
    split <;> (rename_i made; rw [made] at next; exact next)

theorem answerApproval_sound {w : World env} (sound : Sound w) (sources : Sources)
    {requestId issuer : String} {request : ValidatedOAuthAuthorizationRequest}
    (approved : ∃ expires, standing requestId w.log = .consumed .approved request expires) :
    Sound (answerApproval w sources requestId issuer request).2 := by
  unfold answerApproval
  dsimp only
  split
  · exact sound
  · obtain ⟨next, shape⟩ := sound.issueCode (sources.codeClock 0) sources.codes approved
    split
    · rename_i made
      rw [made] at next
      exact next
    · rename_i made
      rw [made] at next
      exact next
    · rename_i issued w' made
      rw [made] at next shape
      split
      · exact next
      · have last := next.revokeCode (sources.codeClock 1) (shape issued rfl)
        split
        · rename_i revoked
          rw [revoked] at last
          exact last
        · rename_i revoked
          rw [revoked] at last
          exact last

theorem continueAuthorization_sound {w : World env} (sound : Sound w) (sources : Sources)
    (requestId issuer : String) :
    Sound (continueAuthorization w sources requestId issuer).2 := by
  unfold continueAuthorization
  have got := sound.getConsent (sources.consentClock 0) requestId
  split
  · rename_i made
    rw [made] at got
    exact got
  · rename_i made
    rw [made] at got
    exact got
  · rename_i projection w' made
    rw [made] at got
    split
    · exact got
    · obtain ⟨consumed, stands⟩ := got.consumeConsent (sources.consentClock 1) requestId
      split
      · rename_i taken
        rw [taken] at consumed
        exact consumed
      · rename_i taken
        rw [taken] at consumed
        exact consumed
      · rename_i taken
        rw [taken] at consumed
        exact consumed
      · rename_i request w'' taken
        rw [taken] at consumed stands
        exact answerApproval_sound consumed sources (stands .approved request rfl)

theorem authorize_sound {w : World env} (sound : Sound w) (sources : Sources) (method : String)
    (url : Url) (resolved : Except PolicyRefusal OAuthPublicClientPolicy) :
    Sound (handleOAuthAuthorizationRequest w sources method url resolved).2 := by
  unfold handleOAuthAuthorizationRequest
  split
  · exact sound
  split
  · exact sound
  split
  · exact sound
  split
  · exact sound
  · exact continueAuthorization_sound sound sources _ _
  · split
    · exact sound
    · exact startAuthorization_sound sound sources url _ _

theorem operate_sound {w : World env} (sound : Sound w) (reading : Option ℚ) (request : Request) :
    Sound (handleOAuthConsentOperatorRequest w reading request).2 := by
  unfold handleOAuthConsentOperatorRequest
  dsimp only
  split
  · exact sound
  split
  · exact sound
  rename_i root
  rw [Bool.not_eq_false] at root
  split
  · exact sound
  split
  · split
    · exact sound
    · have listed := sound.listConsents reading
      split <;> (rename_i made; rw [made] at listed; exact listed)
  · split
    · exact sound
    split
    · exact sound
    split
    · exact sound
    · rename_i decision _
      have next := sound.decideConsent reading ‹String› decision root
      split <;> (rename_i made; rw [made] at next; exact next)

theorem redeem_sound {w : World env} (sound : Sound w) (reading : Option ℚ) (request : Request) :
    Sound (handleOAuthTokenRequest w reading request).2 := by
  unfold handleOAuthTokenRequest
  split
  · exact sound
  · rename_i params code presented
    obtain ⟨next, redeemed, _⟩ := sound.redeemCode reading code
    split
    · rename_i made
      rw [made] at next
      exact next
    · rename_i made
      rw [made] at next
      exact next
    · rename_i consumed w' made
      rw [made] at next redeemed
      obtain ⟨logged, same, counted⟩ := redeemed consumed rfl
      split
      · exact next
      · refine { next with flights := fun redemption mem => ?_, counted := fun digest => ?_ }
        · rcases List.mem_append.mp mem with before | own
          · exact next.flights redemption before
          · rw [List.mem_singleton.mp own]
            exact logged
        · have before := counted digest
          rw [awaiting_snoc] at before ⊢
          rw [same]
          exact before

theorem awaiting_eraseIdx {inFlight : List Redemption} {index : Nat} {redemption : Redemption}
    (found : inFlight[index]? = some redemption) (digest : String) :
    awaiting env digest inFlight = awaiting env digest (inFlight.eraseIdx index) +
      if env.digestCode redemption.consumed.binding.code == digest then 1 else 0 := by
  obtain ⟨inside, same⟩ := List.getElem?_eq_some_iff.mp found
  have perm := List.getElem_cons_eraseIdx_perm inside
  rw [same] at perm
  rw [awaiting, ← perm.countP_eq, List.countP_cons]
  rfl

/-- A session is issued only to a request that proves itself, with the scopes that were
consumed. -/
theorem exchange_ok {sid : String} {nowMs : Int} {redemption : Redemption}
    {issued : CapabilitySessionIssue} (h : exchange env sid nowMs redemption = .ok issued) :
    Proved env.sha256 redemption.params redemption.consumed.binding ∧
      issued.claims.scopes = redemption.consumed.scopes := by
  unfold exchange at h
  split at h
  · cases h
  rename_i valid
  split at h
  · cases h
  rename_i grant derived
  split at h
  · cases h
  rename_i issued' session
  cases h
  refine ⟨validateOAuthTokenRequest_ok valid, ?_⟩
  rw [← deriveOAuthCapabilityGrant_scopes derived]
  unfold issueCapabilitySession at session
  obtain ⟨_, session⟩ := guard_ok session
  obtain ⟨_, session⟩ := guard_ok session
  obtain ⟨_, session⟩ := guard_ok session
  cases session
  rfl

theorem tokens_token (digest : String) (params : Params) (consumed : ConsumedOAuthAuthorizationCode)
    (session : CapabilitySessionIssue) (older : List Note) :
    tokens env digest (.token params consumed session :: older) = tokens env digest older +
      if env.digestCode consumed.binding.code == digest then 1 else 0 :=
  List.countP_cons

theorem redemptions_token (digest : String) (params : Params)
    (consumed : ConsumedOAuthAuthorizationCode) (session : CapabilitySessionIssue)
    (older : List Note) : redemptions env digest (.token params consumed session :: older) =
      redemptions env digest older := rfl

theorem finish_sound {w : World env} (sound : Sound w) (index : Nat) (sid : String) (nowMs : Int) :
    Sound (finishTokenRequest w index sid nowMs).2 := by
  unfold finishTokenRequest
  split
  · exact sound
  rename_i redemption found
  have listed : redemption ∈ w.inFlight := List.mem_of_getElem? found
  have erased : ∀ digest, tokens env digest w.log +
      awaiting env digest (w.inFlight.eraseIdx index) +
      (if env.digestCode redemption.consumed.binding.code == digest then 1 else 0) ≤
      redemptions env digest w.log := by
    intro digest
    have before := sound.counted digest
    rw [awaiting_eraseIdx found] at before
    omega
  dsimp only
  split
  · exact { sound with
      flights := fun other mem => sound.flights other (List.mem_of_mem_eraseIdx mem)
      counted := fun digest => Nat.le_trans (Nat.le_add_right _ _) (erased digest) }
  · rename_i issued exchanged
    obtain ⟨proved, scopes⟩ := exchange_ok exchanged
    exact {
      justified := ⟨⟨sound.flights redemption listed, proved, scopes⟩, sound.justified⟩
      consents := sound.consents
      codes := sound.codes
      flights := fun other mem =>
        List.mem_cons_of_mem _ (sound.flights other (List.mem_of_mem_eraseIdx mem))
      counted := fun digest => by
        have before := erased digest
        rw [tokens_token, redemptions_token]
        dsimp only
        omega }

theorem step_sound (action : Action) (w : World env) (sound : Sound w) : Sound (step action w) := by
  cases action with
  | authorize sources method url resolved => exact authorize_sound sound sources method url resolved
  | operate reading request => exact operate_sound sound reading request
  | redeem reading request => exact redeem_sound sound reading request
  | finish index sid nowMs => exact finish_sound sound index sid nowMs

theorem after_sound (env : Gateway) (actions : List Action) : Sound (after env actions) :=
  Histories.run_preserves step_sound initial_sound actions

/-! ### What the runs never do -/

theorem presentedCode_shape {request : Request} {params : Params} {code : String}
    (h : presentedCode env request = .ok (params, code)) : authorizationCode code = true := by
  unfold presentedCode at h
  obtain ⟨_, h⟩ := guard_ok h
  obtain ⟨_, h⟩ := guard_ok h
  split at h
  · cases h
  split at h
  · cases h
  rename_i exact
  cases h
  unfold exactCode at exact
  split at exact
  · split at exact
    · cases exact
      assumption
    · cases exact
  · cases exact

/-- A code that a token request presents is gone from the store after its step, whatever it
answers. -/
theorem Sound.spent {w : World env} (sound : Sound w) {reading : Option ℚ} {request : Request}
    {params : Params} {code : String} (presents : presentedCode env request = .ok (params, code))
    (readable : (currentTime reading).isSome) :
    (step (.redeem reading request) w).codes.find? (env.digestCode code) = none := by
  have shape : authorizationCode code = true := presentedCode_shape presents
  obtain ⟨_, _, gone⟩ := sound.redeemCode reading code
  have gone := gone readable shape
  show (handleOAuthTokenRequest w reading request).2.codes.find? (env.digestCode code) = none
  unfold handleOAuthTokenRequest
  rw [presents]
  dsimp only
  split
  · rename_i made
    rw [made] at gone
    exact gone
  · rename_i made
    rw [made] at gone
    exact gone
  · rename_i made
    rw [made] at gone
    split
    · exact gone
    · exact gone

/-- What a token was issued on: an approved request whose code was live when it was
redeemed, and the same client's proof that it began that authorization. -/
structure Entitled (env : Gateway) (older : List Note) (params : Params)
    (consumed : ConsumedOAuthAuthorizationCode) (session : CapabilitySessionIssue)
    (request : ValidatedOAuthAuthorizationRequest) : Prop where
  redeemed : ∃ since start, older = since ++ .redeemed consumed :: start ∧
    LiveCode env (env.digestCode consumed.binding.code) start request consumed.expiresAtMs
  approved : ∃ since id start, older = since ++
    .issued id (env.digestCode consumed.binding.code) request consumed.expiresAtMs :: start ∧
    Approved env start id request
  code : params.getAll "code" = [consumed.binding.code]
  clientId : params.getAll "client_id" = [request.clientId]
  redirectUri : params.getAll "redirect_uri" = [request.redirectUri]
  resource : params.getAll "resource" = [request.resource]
  verifier : ∃ verifier, params.getAll "code_verifier" = [verifier] ∧
    pkceS256Challenge env.sha256 verifier = some request.codeChallenge
  scopes : session.claims.scopes = request.scopes

theorem entitled_of_justified {older : List Note} {params : Params}
    {consumed : ConsumedOAuthAuthorizationCode} {session : CapabilitySessionIssue}
    (allowed : Allowed env older (.token params consumed session)) (justified : Justified env older) :
    ∃ request, Entitled env older params consumed session request := by
  obtain ⟨redeemed, proved, scopes⟩ := allowed
  obtain ⟨since, start, rfl⟩ := List.append_of_mem redeemed
  obtain ⟨⟨request, live, carries⟩, justified⟩ := justified.at
  have story := liveCode_of_standing live
  obtain ⟨since', id, start', rfl, _, _⟩ := story.story
  obtain ⟨⟨_, decided⟩, justified⟩ := justified.at
  exact ⟨request, {
    redeemed := ⟨since, _, rfl, story⟩
    approved := ⟨since ++ .redeemed consumed :: since', id, start',
      by rw [List.append_assoc, List.cons_append], approved_of_consumed justified decided⟩
    code := proved.code
    clientId := carries.clientId ▸ proved.clientId
    redirectUri := carries.redirectUri ▸ proved.redirectUri
    resource := carries.resource ▸ proved.resource
    verifier := carries.codeChallenge ▸ proved.verifier
    scopes := scopes.trans carries.scopes }⟩

/-- Both stores are bounded, and at a time they return nothing that has expired by then. -/
structure Bounded (w : World env) : Prop where
  consents : w.pending.size ≤ env.pendingOptions.maxEntries
  codes : w.codes.size ≤ env.codeOptions.maxEntries
  got : ∀ now id value, (PendingConsents.get w.pending now id).1 = some value →
    now < value.expiresAtMs
  listed : ∀ now, ∀ value ∈ (PendingConsents.list env.localeCompare w.pending now).1,
    now < value.expiresAtMs
  decided : ∀ now id decision value,
    (PendingConsents.decideRequest w.pending now id decision).1 = .ok value → now < value.expiresAtMs
  consumed : ∀ now id decision request,
    (PendingConsents.consumeDecision w.pending now id).1 = .ok (decision, request) →
    ∃ entry, w.pending.find? id = some entry ∧ entry.request = request ∧
      entry.status = .decided decision ∧ now < entry.expiresAtMs
  redeemed : ∀ now code value, (AuthorizationCodes.consume env.digestCode w.codes now code).1 =
    some value → now < value.expiresAtMs

theorem bounded (w : World env) : Bounded w where
  consents := w.pending.bounded
  codes := w.codes.bounded
  got := fun _ _ _ => PendingConsents.get_live
  listed := fun _ _ => PendingConsents.list_live
  decided := fun _ _ _ _ => PendingConsents.decideRequest_live
  consumed := fun _ _ _ _ => PendingConsents.consumeDecision_live
  redeemed := fun _ _ _ => AuthorizationCodes.consume_live

/-- After any steps of any requests: codes are issued on approvals, once for each; the first
token request that presents a code spends it, so it yields one token at most; tokens are
issued to those entitled to them; the stores are bounded. -/
theorem code_flow_safe (env : Gateway) (actions : List Action) :
    (∀ newer id digest request expires older,
      (after env actions).log = newer ++ .issued id digest request expires :: older →
      Approved env older id request) ∧
    (∀ id, codesFor id (after env actions).log ≤ approvals id (after env actions).log) ∧
    (∀ reading request params code, presentedCode env request = .ok (params, code) →
      (currentTime reading).isSome →
      (step (.redeem reading request) (after env actions)).codes.find? (env.digestCode code) = none) ∧
    (∀ digest, tokens env digest (after env actions).log ≤ redemptions env digest (after env actions).log ∧
      redemptions env digest (after env actions).log ≤ issues digest (after env actions).log) ∧
    (∀ newer params consumed session older,
      (after env actions).log = newer ++ .token params consumed session :: older →
      ∃ request, Entitled env older params consumed session request) ∧
    Bounded (after env actions) := by
  have sound := after_sound env actions
  refine ⟨?_, ?_, ?_, ?_, ?_, bounded _⟩
  · intro newer id digest request expires older split
    have justified := sound.justified
    rw [split] at justified
    obtain ⟨⟨_, consumed⟩, justified⟩ := justified.at
    exact approved_of_consumed justified consumed
  · intro id
    exact Nat.le_trans (Nat.le_add_right _ _) (codesFor_le sound.justified id)
  · intro reading request params code presents readable
    exact sound.spent presents readable
  · intro digest
    constructor
    · exact Nat.le_trans (Nat.le_add_right _ _) (sound.counted digest)
    · exact Nat.le_trans (Nat.le_add_right _ _) (redemptions_le sound.justified digest)
  · intro newer params consumed session older split
    have justified := sound.justified
    rw [split] at justified
    obtain ⟨allowed, justified⟩ := justified.at
    exact entitled_of_justified allowed justified

end OAuthSafety
