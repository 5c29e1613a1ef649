import TaskQueQue.ExpiringStores
import TaskQueQue.OAuthRedirects

/-!
# Authorization requests that wait for an operator

The store holds requests from their creation until an operator's decision on them
is consumed, or until they expire. It checks what it is given again, in bounds of
its own. The clock and the identifiers are the caller's.
-/

namespace PendingConsents

open UrlValues OAuthRequests ExpiringStores
open OAuthRedirects (MAX_URI_BYTES stateIsBounded)
open CimdDocument (plainHttps)

def HARD_MAX_ENTRIES : Nat := 64
def MIN_TTL_MS : Nat := 1000
def MAX_TTL_MS : Nat := 5 * 60 * 1000
def MAX_SCOPES : Nat := 64
def MAX_SCOPE_BYTES : Nat := 128
def MAX_CLIENT_ID_CHARS : Nat := 512

inductive OAuthConsentDecision
  | approved
  | denied
deriving DecidableEq

inductive PendingOAuthConsentStatus
  | pending
  | decided (decision : OAuthConsentDecision)
deriving DecidableEq

/-- What a store is constructed with, after its checks. -/
structure StoreOptions where
  maxEntries : Nat
  ttlMs : Nat
  entries : 1 ≤ maxEntries ∧ maxEntries ≤ HARD_MAX_ENTRIES
  ttl : MIN_TTL_MS ≤ ttlMs ∧ ttlMs ≤ MAX_TTL_MS

structure PendingEntry where
  requestId : String
  request : ValidatedOAuthAuthorizationRequest
  status : PendingOAuthConsentStatus
  createdAtMs : Nat
  expiresAtMs : Nat

abbrev PendingOAuthConsentStore (options : StoreOptions) :=
  Store PendingEntry String PendingEntry.requestId PendingEntry.expiresAtMs options.maxEntries

structure PendingOAuthConsentProjection where
  requestId : String
  clientId : String
  redirectUri : String
  resource : String
  scopes : List String
  status : PendingOAuthConsentStatus
  createdAtMs : Nat
  expiresAtMs : Nat

inductive PendingOAuthConsentCreateError
  | invalid_request
  | capacity
  | id_generation_failed
deriving DecidableEq

inductive PendingOAuthConsentDecisionError
  | not_found
  | already_decided
deriving DecidableEq

inductive PendingOAuthConsentConsumeError
  | not_found
  | pending
deriving DecidableEq

/-- A reading of a store's clock; `none` where it throws. -/
def currentTime (reading : Option ℚ) : Option Nat :=
  match reading with
  | none => none
  | some value => if value.den ≠ 1 ∨ value < 0 then none else some value.num.toNat

/-! ### The checks on a request -/

def isBoundedHttpsUri (parseUrl : UrlParser) (allowQuery : Bool) (value : String) : Bool :=
  if value = "" ∨ MAX_URI_BYTES < value.utf8ByteSize then false
  else (parseUrl value).any fun url => plainHttps url && (allowQuery || url.search == "")

def scopesAreBounded (scopes : List String) : Bool :=
  decide (1 ≤ scopes.length ∧ scopes.length ≤ MAX_SCOPES) && decide scopes.Nodup &&
    scopes.all fun scope => scopeToken scope && decide (scope.utf8ByteSize ≤ MAX_SCOPE_BYTES)

/-- The checks of both stores, which differ in what they take for a client. -/
def boundedRequest (parseUrl : UrlParser) (clientId : String → Bool)
    (request : ValidatedOAuthAuthorizationRequest) : Bool :=
  clientId request.clientId && isBoundedHttpsUri parseUrl true request.redirectUri &&
    isBoundedHttpsUri parseUrl false request.resource && scopesAreBounded request.scopes &&
    stateIsBounded request.state && pkceS256Challenge? request.codeChallenge

/-- `/^[\x21-\x7E]{1,512}$/`. -/
def clientIdPattern (value : String) : Bool :=
  visibleText value && decide (value.toList.length ≤ MAX_CLIENT_ID_CHARS)

def requestIsBounded (parseUrl : UrlParser) (request : ValidatedOAuthAuthorizationRequest) : Bool :=
  boundedRequest parseUrl clientIdPattern request

def requestIdText (value : String) : Bool := base64UrlText 16 128 value

/-! ### The operations -/

section Operations

variable {options : StoreOptions}

def projection (entry : PendingEntry) : PendingOAuthConsentProjection :=
  { requestId := entry.requestId, clientId := entry.request.clientId,
    redirectUri := entry.request.redirectUri, resource := entry.request.resource,
    scopes := entry.request.scopes, status := entry.status, createdAtMs := entry.createdAtMs,
    expiresAtMs := entry.expiresAtMs }

/-- `ids` is what the identifier factory answers, one call after the other. -/
def create (parseUrl : UrlParser) (store : PendingOAuthConsentStore options) (now : Nat)
    (ids : Nat → String) (request : ValidatedOAuthAuthorizationRequest) :
    Except PendingOAuthConsentCreateError PendingOAuthConsentProjection ×
      PendingOAuthConsentStore options :=
  let store := store.purgeAt now
  if requestIsBounded parseUrl request = false then (.error .invalid_request, store)
  else if options.maxEntries ≤ store.size then (.error .capacity, store)
  else
    match firstFree requestIdText (fun id => (store.find? id).isSome) ids 4 0 with
    | none => (.error .id_generation_failed, store)
    | some requestId =>
      let entry : PendingEntry := ⟨requestId, request, .pending, now, now + options.ttlMs⟩
      -- there is room, and the identifier is free
      match store.insert? entry with
      | none => (.error .capacity, store)
      | some store => (.ok (projection entry), store)

def get (store : PendingOAuthConsentStore options) (now : Nat) (requestId : String) :
    Option PendingOAuthConsentProjection × PendingOAuthConsentStore options :=
  let store := store.purgeAt now
  ((store.find? requestId).map projection, store)

/-- Oldest first; `localeCompare` orders those of one moment. -/
def list (localeCompare : String → String → Int) (store : PendingOAuthConsentStore options)
    (now : Nat) : List PendingOAuthConsentProjection × PendingOAuthConsentStore options :=
  let store := store.purgeAt now
  let sorted := store.table.rows.mergeSort fun left right =>
    decide (left.createdAtMs < right.createdAtMs ∨ left.createdAtMs = right.createdAtMs ∧
      localeCompare left.requestId right.requestId ≤ 0)
  (sorted.map projection, store)

def decideRequest (store : PendingOAuthConsentStore options) (now : Nat) (requestId : String)
    (decision : OAuthConsentDecision) :
    Except PendingOAuthConsentDecisionError PendingOAuthConsentProjection ×
      PendingOAuthConsentStore options :=
  let store := store.purgeAt now
  match store.find? requestId with
  | none => (.error .not_found, store)
  | some entry =>
    if entry.status ≠ .pending then (.error .already_decided, store)
    else
      (.ok (projection { entry with status := .decided decision }),
        store.rewrite (fun entry => decide (entry.requestId = requestId))
          (fun entry => { entry with status := .decided decision }) fun _ => rfl)

def consumeDecision (store : PendingOAuthConsentStore options) (now : Nat) (requestId : String) :
    Except PendingOAuthConsentConsumeError
      (OAuthConsentDecision × ValidatedOAuthAuthorizationRequest) ×
      PendingOAuthConsentStore options :=
  let store := store.purgeAt now
  match store.find? requestId with
  | none => (.error .not_found, store)
  | some entry =>
    match entry.status with
    | .pending => (.error .pending, store)
    | .decided decision => (.ok (decision, entry.request), store.remove requestId)

/-! ### What the operations do to the store -/

theorem create_ok {parseUrl : UrlParser} {store store' : PendingOAuthConsentStore options} {now : Nat}
    {ids : Nat → String} {request : ValidatedOAuthAuthorizationRequest}
    {value : PendingOAuthConsentProjection}
    (h : create parseUrl store now ids request = (.ok value, store')) :
    requestIsBounded parseUrl request = true ∧ ∃ entry : PendingEntry,
      value = projection entry ∧ entry.request = request ∧ entry.status = .pending ∧
      entry.expiresAtMs = now + options.ttlMs ∧
      (store.purgeAt now).find? entry.requestId = none ∧
      ∀ k, store'.find? k =
        if entry.requestId = k then some entry else (store.purgeAt now).find? k := by
  unfold create at h
  dsimp only at h
  split at h
  · cases h
  rename_i bounded
  split at h
  · cases h
  split at h
  · cases h
  rename_i requestId free
  split at h
  · cases h
  rename_i store'' inserted
  cases h
  have absent := (firstFree_some free).2
  rw [Option.isSome_eq_false_iff, Option.isNone_iff_eq_none] at absent
  rw [Bool.not_eq_false] at bounded
  exact ⟨bounded, _, rfl, rfl, rfl, rfl, absent, Store.find?_insert? inserted⟩

theorem create_error {parseUrl : UrlParser} {store store' : PendingOAuthConsentStore options}
    {now : Nat} {ids : Nat → String} {request : ValidatedOAuthAuthorizationRequest}
    {error : PendingOAuthConsentCreateError}
    (h : create parseUrl store now ids request = (.error error, store')) :
    store' = store.purgeAt now := by
  unfold create at h
  dsimp only at h
  split at h
  · cases h
    rfl
  split at h
  · cases h
    rfl
  split at h
  · cases h
    rfl
  split at h
  · cases h
    rfl
  · cases h

/-- A request is refused as malformed when the store's own checks fail, and only then. -/
theorem create_invalid_iff {parseUrl : UrlParser} {store : PendingOAuthConsentStore options}
    {now : Nat} {ids : Nat → String} {request : ValidatedOAuthAuthorizationRequest} :
    (create parseUrl store now ids request).1 = .error .invalid_request ↔
      requestIsBounded parseUrl request = false := by
  unfold create
  dsimp only
  constructor
  · intro h
    split at h
    · assumption
    split at h
    · cases h
    split at h
    · cases h
    split at h
    · cases h
    · cases h
  · intro refused
    rw [if_pos refused]

theorem create_succeeds {parseUrl : UrlParser} {store : PendingOAuthConsentStore options} {now : Nat}
    {ids : Nat → String} {request : ValidatedOAuthAuthorizationRequest}
    (bounded : requestIsBounded parseUrl request = true)
    (room : (store.purgeAt now).size < options.maxEntries) (shape : requestIdText (ids 0) = true)
    (absent : (store.purgeAt now).find? (ids 0) = none) :
    ∃ value store', create parseUrl store now ids request = (.ok value, store') ∧
      value.requestId = ids 0 := by
  have first : firstFree requestIdText (fun id => ((store.purgeAt now).find? id).isSome) ids 4 0 =
      some (ids 0) := by
    rw [firstFree, shape, absent]
    rfl
  obtain ⟨store', inserted⟩ := Store.insert?_of_room room
    (show (store.purgeAt now).find?
      (PendingEntry.mk (ids 0) request .pending now (now + options.ttlMs)).requestId = none from absent)
  unfold create
  dsimp only
  rw [if_neg (by rw [bounded]; decide), if_neg (Nat.not_le.mpr room), first]
  dsimp only
  rw [inserted]
  exact ⟨_, _, rfl, rfl⟩

theorem decideRequest_succeeds {store : PendingOAuthConsentStore options} {now : Nat}
    {requestId : String} {entry : PendingEntry}
    (found : (store.purgeAt now).find? requestId = some entry) (pending : entry.status = .pending)
    (decision : OAuthConsentDecision) :
    ∃ value store', decideRequest store now requestId decision = (.ok value, store') := by
  unfold decideRequest
  dsimp only
  rw [found]
  dsimp only
  rw [if_neg (not_not.mpr pending)]
  exact ⟨_, _, rfl⟩

theorem decideRequest_ok {store store' : PendingOAuthConsentStore options} {now : Nat}
    {requestId : String} {decision : OAuthConsentDecision} {value : PendingOAuthConsentProjection}
    (h : decideRequest store now requestId decision = (.ok value, store')) :
    ∃ entry, (store.purgeAt now).find? requestId = some entry ∧ entry.status = .pending ∧
      value = projection { entry with status := .decided decision } ∧
      ∀ k, store'.find? k = if requestId = k then some { entry with status := .decided decision }
        else (store.purgeAt now).find? k := by
  unfold decideRequest at h
  dsimp only at h
  split at h
  · cases h
  rename_i entry found
  split at h
  · cases h
  rename_i pending
  cases h
  refine ⟨entry, found, not_not.mp pending, rfl, fun k => ?_⟩
  rw [Store.find?_rewrite]
  by_cases same : requestId = k
  · subst same
    have named : entry.requestId = requestId := KeyedTable.Table.key_of_find? found
    rw [found, if_pos rfl, Option.map_some, if_pos (decide_eq_true named)]
  · rw [if_neg same]
    cases other : (store.purgeAt now).find? k with
    | none => rfl
    | some row =>
      have named : row.requestId = k := KeyedTable.Table.key_of_find? other
      rw [Option.map_some, if_neg]
      rw [decide_eq_true_eq, named]
      exact fun h => same h.symm

theorem decideRequest_error {store store' : PendingOAuthConsentStore options} {now : Nat}
    {requestId : String} {decision : OAuthConsentDecision}
    {error : PendingOAuthConsentDecisionError}
    (h : decideRequest store now requestId decision = (.error error, store')) :
    store' = store.purgeAt now := by
  unfold decideRequest at h
  dsimp only at h
  split at h
  · cases h
    rfl
  split at h
  · cases h
    rfl
  · cases h

theorem consumeDecision_ok {store store' : PendingOAuthConsentStore options} {now : Nat}
    {requestId : String} {decision : OAuthConsentDecision}
    {request : ValidatedOAuthAuthorizationRequest}
    (h : consumeDecision store now requestId = (.ok (decision, request), store')) :
    ∃ entry, (store.purgeAt now).find? requestId = some entry ∧ entry.status = .decided decision ∧
      entry.request = request ∧
      ∀ k, store'.find? k = if k = requestId then none else (store.purgeAt now).find? k := by
  unfold consumeDecision at h
  dsimp only at h
  split at h
  · cases h
  rename_i entry found
  split at h
  · cases h
  rename_i decision' status
  cases h
  exact ⟨entry, found, status, rfl, Store.find?_remove _ _⟩

theorem consumeDecision_error {store store' : PendingOAuthConsentStore options} {now : Nat}
    {requestId : String} {error : PendingOAuthConsentConsumeError}
    (h : consumeDecision store now requestId = (.error error, store')) :
    store' = store.purgeAt now := by
  unfold consumeDecision at h
  dsimp only at h
  split at h
  · cases h
    rfl
  split at h
  · cases h
    rfl
  · cases h

/-! ### What the operations return has not expired -/

theorem get_live {store : PendingOAuthConsentStore options} {now : Nat} {requestId : String}
    {value : PendingOAuthConsentProjection} (h : (get store now requestId).1 = some value) :
    now < value.expiresAtMs := by
  obtain ⟨entry, found, rfl⟩ := Option.map_eq_some_iff.mp h
  exact (Store.find?_purgeAt_some found).2

theorem list_live {localeCompare : String → String → Int} {store : PendingOAuthConsentStore options}
    {now : Nat} {value : PendingOAuthConsentProjection}
    (h : value ∈ (list localeCompare store now).1) : now < value.expiresAtMs := by
  obtain ⟨entry, mem, rfl⟩ := List.mem_map.mp h
  have kept := List.mem_mergeSort.mp mem
  have early := (List.mem_filter.mp kept).2
  rw [Bool.not_eq_true', decide_eq_false_iff_not, Nat.not_le] at early
  exact early

theorem decideRequest_live {store : PendingOAuthConsentStore options} {now : Nat}
    {requestId : String} {decision : OAuthConsentDecision} {value : PendingOAuthConsentProjection}
    (h : (decideRequest store now requestId decision).1 = .ok value) : now < value.expiresAtMs := by
  obtain ⟨entry, found, _, rfl, _⟩ := decideRequest_ok (Prod.ext h rfl)
  exact (Store.find?_purgeAt_some found).2

theorem consumeDecision_live {store : PendingOAuthConsentStore options} {now : Nat}
    {requestId : String} {decision : OAuthConsentDecision}
    {request : ValidatedOAuthAuthorizationRequest}
    (h : (consumeDecision store now requestId).1 = .ok (decision, request)) :
    ∃ entry, store.find? requestId = some entry ∧ entry.request = request ∧
      entry.status = .decided decision ∧ now < entry.expiresAtMs := by
  obtain ⟨entry, found, status, same, _⟩ := consumeDecision_ok (Prod.ext h rfl)
  have kept := Store.find?_purgeAt_some found
  exact ⟨entry, kept.1, same, status, kept.2⟩

/-- The stores that the operations build from the empty one. -/
inductive Reached (parseUrl : UrlParser) : PendingOAuthConsentStore options → Prop
  | empty : Reached parseUrl Store.empty
  | create {store} (now : Nat) (ids : Nat → String) (request : ValidatedOAuthAuthorizationRequest) :
    Reached parseUrl store → Reached parseUrl (create parseUrl store now ids request).2
  | purge {store} (now : Nat) : Reached parseUrl store → Reached parseUrl (store.purgeAt now)
  | decide {store} (now : Nat) (requestId : String) (decision : OAuthConsentDecision) :
    Reached parseUrl store → Reached parseUrl (decideRequest store now requestId decision).2
  | consume {store} (now : Nat) (requestId : String) :
    Reached parseUrl store → Reached parseUrl (consumeDecision store now requestId).2

/-- Every request that is held has passed the store's checks. -/
theorem Reached.bounded {parseUrl : UrlParser} {store : PendingOAuthConsentStore options}
    (h : Reached parseUrl store) :
    ∀ id entry, store.find? id = some entry → requestIsBounded parseUrl entry.request = true := by
  induction h with
  | empty => exact fun id entry found => by cases found
  | purge now _ ih => exact fun id entry found => ih id entry (Store.find?_purgeAt_some found).1
  | @create store now ids request _ ih =>
    intro id entry found
    cases created : PendingConsents.create parseUrl store now ids request with
    | mk result store' =>
      rw [created] at found
      cases result with
      | error error =>
        rw [create_error created] at found
        exact ih id entry (Store.find?_purgeAt_some found).1
      | ok value =>
        obtain ⟨bounded, entry', _, same, _, _, _, rows⟩ := create_ok created
        rw [rows] at found
        split at found
        · cases found
          rw [same]
          exact bounded
        · exact ih id entry (Store.find?_purgeAt_some found).1
  | @decide store now requestId decision _ ih =>
    intro id entry found
    cases decided : decideRequest store now requestId decision with
    | mk result store' =>
      rw [decided] at found
      cases result with
      | error error =>
        rw [decideRequest_error decided] at found
        exact ih id entry (Store.find?_purgeAt_some found).1
      | ok value =>
        obtain ⟨entry', held, _, _, rows⟩ := decideRequest_ok decided
        rw [rows] at found
        split at found
        · cases found
          exact ih requestId entry' (Store.find?_purgeAt_some held).1
        · exact ih id entry (Store.find?_purgeAt_some found).1
  | @consume store now requestId _ ih =>
    intro id entry found
    cases consumed : consumeDecision store now requestId with
    | mk result store' =>
      rw [consumed] at found
      cases result with
      | error error =>
        rw [consumeDecision_error consumed] at found
        exact ih id entry (Store.find?_purgeAt_some found).1
      | ok value =>
        obtain ⟨_, _⟩ := value
        obtain ⟨_, _, _, _, rows⟩ := consumeDecision_ok consumed
        rw [rows] at found
        split at found
        · cases found
        · exact ih id entry (Store.find?_purgeAt_some found).1

end Operations

end PendingConsents
