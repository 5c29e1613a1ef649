import TaskQueQue.PendingConsents

/-!
# Authorization codes

A code stands for an approved request until it is presented or expires. The store
keeps only the code's digest, and an entry is gone before what it holds is given
out. The clock, the codes and the digest are the caller's.
-/

namespace AuthorizationCodes

open UrlValues OAuthRequests ExpiringStores
open PendingConsents (StoreOptions boundedRequest)

def MAX_CLIENT_ID_BYTES : Nat := 2048

structure AuthorizationCodeEntry where
  digest : String
  clientId : String
  redirectUri : String
  resource : String
  scopes : List String
  codeChallenge : String
  createdAtMs : Nat
  expiresAtMs : Nat
deriving DecidableEq

abbrev OAuthAuthorizationCodeStore (options : StoreOptions) :=
  Store AuthorizationCodeEntry String AuthorizationCodeEntry.digest
    AuthorizationCodeEntry.expiresAtMs options.maxEntries

structure OAuthAuthorizationCodeBinding where
  code : String
  clientId : String
  redirectUri : String
  resource : String
  codeChallenge : String
deriving DecidableEq

structure IssuedOAuthAuthorizationCode where
  code : String
  expiresAtMs : Nat

structure ConsumedOAuthAuthorizationCode where
  binding : OAuthAuthorizationCodeBinding
  scopes : List String
  expiresAtMs : Nat
deriving DecidableEq

inductive OAuthAuthorizationCodeIssueError
  | invalid_grant
  | capacity
  | code_generation_failed
deriving DecidableEq

def authorizationCode (value : String) : Bool := base64UrlText 43 43 value

def clientIdPattern (value : String) : Bool :=
  visibleText value && decide (value.utf8ByteSize ≤ MAX_CLIENT_ID_BYTES)

def requestIsBounded (parseUrl : UrlParser) (request : ValidatedOAuthAuthorizationRequest) : Bool :=
  boundedRequest parseUrl clientIdPattern request

section Operations

variable {options : StoreOptions}

/-- The entry for a request, under the digest of its code. -/
def entryOf (options : StoreOptions) (digest : String) (now : Nat)
    (request : ValidatedOAuthAuthorizationRequest) : AuthorizationCodeEntry :=
  { digest, clientId := request.clientId, redirectUri := request.redirectUri,
    resource := request.resource, scopes := request.scopes, codeChallenge := request.codeChallenge,
    createdAtMs := now, expiresAtMs := now + options.ttlMs }

/-- `codes` is what the code factory answers, one call after the other. -/
def issue (parseUrl : UrlParser) (digestCode : String → String)
    (store : OAuthAuthorizationCodeStore options) (now : Nat) (codes : Nat → String)
    (request : ValidatedOAuthAuthorizationRequest) :
    Except OAuthAuthorizationCodeIssueError IssuedOAuthAuthorizationCode ×
      OAuthAuthorizationCodeStore options :=
  let store := store.purgeAt now
  if requestIsBounded parseUrl request = false then (.error .invalid_grant, store)
  else if options.maxEntries ≤ store.size then (.error .capacity, store)
  else
    match firstFree authorizationCode (fun code => (store.find? (digestCode code)).isSome) codes 4 0
      with
    | none => (.error .code_generation_failed, store)
    | some code =>
      let entry := entryOf options (digestCode code) now request
      -- there is room, and the digest is free
      match store.insert? entry with
      | none => (.error .capacity, store)
      | some store => (.ok ⟨code, entry.expiresAtMs⟩, store)

/-- `none` is the only error, `invalid_grant`. -/
def consume (digestCode : String → String) (store : OAuthAuthorizationCodeStore options) (now : Nat)
    (presentedCode : String) :
    Option ConsumedOAuthAuthorizationCode × OAuthAuthorizationCodeStore options :=
  let store := store.purgeAt now
  if authorizationCode presentedCode = false then (none, store)
  else
    match store.find? (digestCode presentedCode) with
    | none => (none, store)
    | some entry =>
      (some ⟨⟨presentedCode, entry.clientId, entry.redirectUri, entry.resource,
        entry.codeChallenge⟩, entry.scopes, entry.expiresAtMs⟩, store.remove (digestCode presentedCode))

/-! ### What the operations do to the store -/

variable {parseUrl : UrlParser} {digestCode : String → String}
variable {store store' : OAuthAuthorizationCodeStore options} {now : Nat}

theorem issue_ok {codes : Nat → String} {request : ValidatedOAuthAuthorizationRequest}
    {issued : IssuedOAuthAuthorizationCode}
    (h : issue parseUrl digestCode store now codes request = (.ok issued, store')) :
    authorizationCode issued.code = true ∧ issued.expiresAtMs = now + options.ttlMs ∧
      (store.purgeAt now).find? (digestCode issued.code) = none ∧
      ∀ k, store'.find? k =
        if digestCode issued.code = k then some (entryOf options (digestCode issued.code) now request)
        else (store.purgeAt now).find? k := by
  unfold issue at h
  dsimp only at h
  split at h
  · cases h
  split at h
  · cases h
  split at h
  · cases h
  rename_i code free
  split at h
  · cases h
  rename_i store'' inserted
  cases h
  obtain ⟨shape, absent⟩ := firstFree_some free
  rw [Option.isSome_eq_false_iff, Option.isNone_iff_eq_none] at absent
  exact ⟨shape, rfl, absent, Store.find?_insert? inserted⟩

theorem issue_error {codes : Nat → String} {request : ValidatedOAuthAuthorizationRequest}
    {error : OAuthAuthorizationCodeIssueError}
    (h : issue parseUrl digestCode store now codes request = (.error error, store')) :
    store' = store.purgeAt now := by
  unfold issue at h
  dsimp only at h
  split at h
  · cases h
    rfl
  split at h
  · cases h
    rfl
  split at h
  · cases h
    rfl
  split at h
  · cases h
    rfl
  · cases h

theorem issue_invalid_iff {codes : Nat → String} {request : ValidatedOAuthAuthorizationRequest} :
    (issue parseUrl digestCode store now codes request).1 = .error .invalid_grant ↔
      requestIsBounded parseUrl request = false := by
  unfold issue
  dsimp only
  constructor
  · intro h
    split at h
    · assumption
    split at h
    · cases h
    split at h
    · cases h
    split at h
    · cases h
    · cases h
  · intro refused
    rw [if_pos refused]

theorem consume_some {presentedCode : String} {consumed : ConsumedOAuthAuthorizationCode}
    (h : consume digestCode store now presentedCode = (some consumed, store')) :
    ∃ entry, (store.purgeAt now).find? (digestCode presentedCode) = some entry ∧
      consumed = ⟨⟨presentedCode, entry.clientId, entry.redirectUri, entry.resource,
        entry.codeChallenge⟩, entry.scopes, entry.expiresAtMs⟩ ∧
      ∀ k, store'.find? k =
        if k = digestCode presentedCode then none else (store.purgeAt now).find? k := by
  unfold consume at h
  dsimp only at h
  split at h
  · cases h
  split at h
  · cases h
  · rename_i entry found
    cases h
    exact ⟨entry, found, rfl, Store.find?_remove _ _⟩

theorem consume_live {presentedCode : String} {consumed : ConsumedOAuthAuthorizationCode}
    (h : (consume digestCode store now presentedCode).1 = some consumed) :
    now < consumed.expiresAtMs := by
  obtain ⟨entry, found, rfl, _⟩ := consume_some (Prod.ext h rfl)
  exact (Store.find?_purgeAt_some found).2

theorem consume_none {presentedCode : String}
    (h : consume digestCode store now presentedCode = (none, store')) :
    store' = store.purgeAt now ∧ (authorizationCode presentedCode = true →
      (store.purgeAt now).find? (digestCode presentedCode) = none) := by
  unfold consume at h
  dsimp only at h
  split at h
  · rename_i shape
    cases h
    refine ⟨rfl, fun other => ?_⟩
    rw [shape] at other
    cases other
  split at h
  · rename_i absent
    cases h
    exact ⟨rfl, fun _ => absent⟩
  · cases h

end Operations

end AuthorizationCodes
