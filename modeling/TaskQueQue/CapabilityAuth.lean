import TaskQueQue.Capabilities
import TaskQueQue.GatewayValues
import Mathlib.Data.Nat.Bitwise

/-!
# Who is asking

A request is authorized by the root token or by a capability session: a token of
three parts whose middle holds the session's claims and whose last is their
signature under the root token, or under a secret derived from it for the OAuth
resource. A gateway with no token may be opened to everyone for development.

The public origin of a configuration has already been parsed as an HTTPS origin.
-/

namespace CapabilityAuth

open GatewayValues Capabilities

def SESSION_TOKEN_PREFIX : String := "tqq1"
def SIGNING_DOMAIN : String := "task-que-que-capability-session-v1"
def OAUTH_RESOURCE_SIGNING_DOMAIN : String := "task-que-que-oauth-resource-session-v1"
def MAX_CAPABILITY_SESSION_TTL_SECONDS : Int := 24 * 60 * 60
def MAX_CAPABILITY_SESSION_SCOPES : Nat := 64
def MAX_TOKEN_BYTES : Nat := 16 * 1024
def MAX_SCOPE_BYTES : Nat := 128

structure GatewayConfig where
  apiToken : Option String
  allowUnauthenticated : Bool := false
  publicOrigin : Option String := none
  maxActiveTasks : Int := 256

/-- The token a truthiness test finds. -/
def GatewayConfig.token? (config : GatewayConfig) : Option String :=
  config.apiToken.filter fun token => decide (token ≠ "")

structure CapabilitySessionClaims where
  sid : String
  iat : Int
  exp : Int
  depth : CapabilityDepth
  authority : CapabilityAuthority
  scopes : List String

def CapabilitySessionClaims.grant (claims : CapabilitySessionClaims) : CapabilityGrant :=
  ⟨claims.depth, claims.authority, claims.scopes⟩

inductive AuthorizationKind
  | root
  | session
  | development
deriving DecidableEq

structure AuthorizationContext where
  kind : AuthorizationKind
  grant : CapabilityGrant
  sessionId : Option String := none
  expiresAt : Option Int := none
deriving DecidableEq

/-! ### Grants and claims as JSON -/

def isDepth (value : Option Json) : Option CapabilityDepth :=
  (Json.integer? value).bind fun n => (List.finRange 7).find? fun depth => decide ((depth : Int) = n)

def isAuthority (value : Option Json) : Option CapabilityAuthority :=
  (Json.integer? value).bind fun n =>
    (List.finRange 5).find? fun authority => decide ((authority : Int) = n)

/-- `/^[A-Za-z0-9*][A-Za-z0-9._:/*-]*$/`. -/
def safeScope (scope : String) : Bool :=
  match scope.toList with
  | [] => false
  | first :: rest =>
    (asciiAlphanumeric first || first == '*') &&
      rest.all fun c => asciiAlphanumeric c || "._:/*-".toList.contains c

/-- `/^[A-Za-z0-9-]{8,64}$/`. -/
def safeSessionId (sid : String) : Bool :=
  let chars := sid.toList
  decide (8 ≤ chars.length ∧ chars.length ≤ 64) &&
    chars.all fun c => asciiAlphanumeric c || c == '-'

def scopeErrors (seen : List String) : List Json → List String
  | [] => []
  | .str scope :: rest =>
    if scope.utf8ByteSize = 0 ∨ MAX_SCOPE_BYTES < scope.utf8ByteSize ∨ safeScope scope = false then
      "invalid scope" :: scopeErrors seen rest
    else (if scope ∈ seen then ["duplicate scope"] else []) ++ scopeErrors (scope :: seen) rest
  | _ :: rest => "invalid scope" :: scopeErrors seen rest

def validateCapabilityGrant (depth authority scopes : Option Json) : List String :=
  (if (isDepth depth).isNone then ["invalid depth"] else []) ++
  (if (isAuthority authority).isNone then ["invalid authority"] else []) ++
  match scopes with
  | some (.arr values) =>
    (if MAX_CAPABILITY_SESSION_SCOPES < values.length then
      ["too many scopes (max 64)"] else []) ++ scopeErrors [] values
  | _ => ["scopes must be an array"]

def exactKeys (value : Json) (allowed : List String) : Bool :=
  value.keys.any fun keys =>
    decide (keys.length = allowed.length) && keys.all fun key => allowed.contains key

def scopeTexts (values : List Json) : List String :=
  values.filterMap fun value =>
    match value with
    | .str scope => some scope
    | _ => none

def parseClaims (web : WebRuntime) (bytes : List UInt8) : Option CapabilitySessionClaims :=
  match web.parseBytes bytes with
  | none => none
  | some claims =>
    if !exactKeys claims ["v", "sid", "iat", "exp", "depth", "authority", "scopes"] ||
        decide (Json.integer? (claims.field "v") ≠ some 1) then none
    else
      match claims.field "sid", Json.safeInteger? (claims.field "iat"),
          Json.safeInteger? (claims.field "exp"), isDepth (claims.field "depth"),
          isAuthority (claims.field "authority"), claims.field "scopes" with
      | some (.str sid), some iat, some exp, some depth, some authority, some (.arr values) =>
        if !safeSessionId sid || !(validateCapabilityGrant (claims.field "depth")
            (claims.field "authority") (claims.field "scopes")).isEmpty then none
        else some { sid, iat, exp, depth, authority, scopes := scopeTexts values }
      | _, _, _, _, _, _ => none

/-! ### Texts and bytes -/

/-- `TextEncoder.encode`. -/
def encode (value : String) : List UInt8 := value.toUTF8.data.toList

def constantTimeEqual (left right : String) : Bool :=
  let a := (encode left).map UInt8.toNat
  let b := (encode right).map UInt8.toNat
  let diff := (List.range (max a.length b.length)).foldl
    (fun diff index => diff ||| (a.getD index 0 ^^^ b.getD index 0)) (a.length ^^^ b.length)
  decide (diff = 0)

def sextet? (c : Char) : Option Nat :=
  if 'A' ≤ c ∧ c ≤ 'Z' then some (c.toNat - 'A'.toNat)
  else if 'a' ≤ c ∧ c ≤ 'z' then some (c.toNat - 'a'.toNat + 26)
  else if '0' ≤ c ∧ c ≤ '9' then some (c.toNat - '0'.toNat + 52)
  else if c = '-' then some 62
  else if c = '_' then some 63
  else none

/-- Four characters to three bytes; a last group of two or three drops its spare
bits, and a group of one is refused. -/
def decodeSextets : List Nat → Option (List UInt8)
  | [] => some []
  | [_] => none
  | [a, b] => some [UInt8.ofNat (a * 4 + b / 16)]
  | [a, b, c] => some [UInt8.ofNat (a * 4 + b / 16), UInt8.ofNat (b % 16 * 16 + c / 4)]
  | a :: b :: c :: d :: rest =>
    (decodeSextets rest).map fun bytes => UInt8.ofNat (a * 4 + b / 16) ::
      UInt8.ofNat (b % 16 * 16 + c / 4) :: UInt8.ofNat (c % 4 * 64 + d) :: bytes

def base64UrlDecode (value : String) : Option (List UInt8) :=
  if value = "" then none else (value.toList.mapM sextet?).bind decodeSextets

def base64UrlAlphabet : List Char :=
  "ABCDEFGHIJKLMNOPQRSTUVWXYZabcdefghijklmnopqrstuvwxyz0123456789-_".toList

def encodeSextets : List Nat → List Nat
  | [] => []
  | [a] => [a / 4, a % 4 * 16]
  | [a, b] => [a / 4, a % 4 * 16 + b / 16, b % 16 * 4]
  | a :: b :: c :: rest =>
    a / 4 :: (a % 4 * 16 + b / 16) :: (b % 16 * 4 + c / 64) :: c % 64 :: encodeSextets rest

def base64UrlEncode (bytes : List UInt8) : String :=
  String.ofList ((encodeSextets (bytes.map UInt8.toNat)).map fun n => base64UrlAlphabet.getD n 'A')

/-! ### Authorization -/

def deriveOAuthResourceSessionSecret (web : WebRuntime) (rootSecret resource : String) : String :=
  "oauth1." ++
    base64UrlEncode (web.hmac rootSecret (OAUTH_RESOURCE_SIGNING_DOMAIN ++ "." ++ resource))

def tokenParts (token : String) : List String := (token.toList.splitOn '.').map String.ofList

def CapabilitySessionClaims.context (claims : CapabilitySessionClaims) : AuthorizationContext :=
  ⟨.session, claims.grant, some claims.sid, some claims.exp⟩

def verifyCapabilitySession (web : WebRuntime) (token secret : String) (nowMs : Int) :
    Option AuthorizationContext :=
  if secret = "" ∨ MAX_TOKEN_BYTES < token.utf8ByteSize then none
  else
    match tokenParts token with
    | [version, payload, signature] =>
      if version ≠ SESSION_TOKEN_PREFIX then none
      else
        match base64UrlDecode signature, base64UrlDecode payload with
        | some signature, some payloadBytes =>
          if web.hmac secret (SIGNING_DOMAIN ++ "." ++ payload) ≠ signature then none
          else
            match parseClaims web payloadBytes with
            | none => none
            | some claims =>
              let nowSeconds := nowMs / 1000
              if nowSeconds + 60 < claims.iat ∨ claims.exp ≤ claims.iat ∨
                  MAX_CAPABILITY_SESSION_TTL_SECONDS < claims.exp - claims.iat ∨
                  claims.exp ≤ nowSeconds then none
              else some claims.context
        | _, _ => none
    | _ => none

/-- What follows `Bearer ` in the authorization header. -/
def bearerText (request : Request) : Option String :=
  (request.header "authorization").bind fun authorization =>
    if "Bearer ".toList.isPrefixOf authorization.toList then
      some (String.ofList (authorization.toList.drop 7))
    else none

def bearerToken (request : Request) : Option String :=
  (bearerText request).filter fun token => decide (token ≠ "")

def isRootAuthorization (request : Request) (config : GatewayConfig) : Bool :=
  match config.token?, bearerToken request with
  | some apiToken, some token => constantTimeEqual token apiToken
  | _, _ => false

def resolveAuthorizationContext (web : WebRuntime) (request : Request) (config : GatewayConfig)
    (nowMs : Int) : Option AuthorizationContext :=
  if config.allowUnauthenticated ∧ config.token? = none then
    some ⟨.development, LEGACY_COMPAT_GRANT, none, none⟩
  else
    match bearerToken request, config.token? with
    | some token, some apiToken =>
      if constantTimeEqual token apiToken then some ⟨.root, LEGACY_COMPAT_GRANT, none, none⟩
      else
        match verifyCapabilitySession web token apiToken nowMs with
        | some rootSession => some rootSession
        | none =>
          match config.publicOrigin with
          | none => none
          | some publicOrigin =>
            verifyCapabilitySession web token
              (deriveOAuthResourceSessionSecret web apiToken (publicOrigin ++ "/mcp")) nowMs
    | _, _ => none

/-! ### What an authorization says of the token -/

theorem foldl_or_eq_zero {α : Type} (f : α → Nat) (items : List α) (start : Nat) :
    items.foldl (fun diff item => diff ||| f item) start = 0 ↔
      start = 0 ∧ ∀ item ∈ items, f item = 0 := by
  induction items generalizing start with
  | nil => simp
  | cons item rest ih =>
    rw [List.foldl_cons, ih, Nat.or_eq_zero_iff, List.forall_mem_cons, and_assoc]

theorem encode_injective : Function.Injective encode := by
  intro left right h
  have bytes : left.toUTF8 = right.toUTF8 := ByteArray.ext (Array.toList_inj.mp h)
  exact String.toByteArray_inj.mp bytes

theorem constantTimeEqual_iff {left right : String} :
    constantTimeEqual left right = true ↔ left = right := by
  rw [constantTimeEqual, decide_eq_true_eq, foldl_or_eq_zero, Nat.xor_eq_zero_iff]
  constructor
  · rintro ⟨lengths, entries⟩
    apply encode_injective
    refine (List.map_inj_right fun _ _ => UInt8.toNat_inj.mp).mp ?_
    refine List.ext_getElem lengths fun index hleft hright => ?_
    have entry := entries index (List.mem_range.mpr
      (Nat.lt_of_lt_of_le hleft (Nat.le_max_left _ _)))
    rw [Nat.xor_eq_zero_iff, List.getD_eq_getElem _ _ hleft, List.getD_eq_getElem _ _ hright] at entry
    exact entry
  · rintro rfl
    exact ⟨rfl, fun index _ => Nat.xor_self _⟩

/-- The claims a session token holds, whoever signed them. -/
def tokenClaims (web : WebRuntime) (token : String) : Option CapabilitySessionClaims :=
  match tokenParts token with
  | [_, payload, _] => (base64UrlDecode payload).bind (parseClaims web)
  | _ => none

/-- A session's authority is what its token says, under either secret and at any time. -/
theorem verifyCapabilitySession_claims {web : WebRuntime} {token secret : String} {nowMs : Int}
    {auth : AuthorizationContext}
    (h : verifyCapabilitySession web token secret nowMs = some auth) :
    ∃ claims, tokenClaims web token = some claims ∧ auth = claims.context := by
  rw [verifyCapabilitySession] at h
  split at h
  · cases h
  split at h
  · rename_i version payload signature hparts
    split at h
    · cases h
    split at h
    · rename_i signature payloadBytes hsignature hpayload
      split at h
      · cases h
      split at h
      · cases h
      · rename_i claims hclaims
        dsimp only at h
        split at h
        · cases h
        · cases h
          refine ⟨claims, ?_, rfl⟩
          rw [tokenClaims, hparts]
          simp only [hpayload, Option.bind_some, hclaims]
    · cases h
  · cases h

theorem resolve_session {web : WebRuntime} {request : Request} {config : GatewayConfig}
    {apiToken token : String} {nowMs : Int} {auth : AuthorizationContext}
    (configured : config.token? = some apiToken) (carried : bearerToken request = some token)
    (other : token ≠ apiToken)
    (h : resolveAuthorizationContext web request config nowMs = some auth) :
    ∃ claims, tokenClaims web token = some claims ∧ auth = claims.context := by
  rw [resolveAuthorizationContext, configured, carried] at h
  simp only [reduceCtorEq, and_false, if_false, constantTimeEqual_iff, if_neg other] at h
  split at h
  · rename_i rootSession hroot
    cases h
    exact verifyCapabilitySession_claims hroot
  · split at h
    · cases h
    · exact verifyCapabilitySession_claims h

theorem resolve_root {web : WebRuntime} {request : Request} {config : GatewayConfig}
    {apiToken : String} (configured : config.token? = some apiToken)
    (carried : bearerToken request = some apiToken) (nowMs : Int) :
    resolveAuthorizationContext web request config nowMs =
      some ⟨.root, LEGACY_COMPAT_GRANT, none, none⟩ := by
  rw [resolveAuthorizationContext, configured, carried]
  simp only [reduceCtorEq, and_false, if_false, constantTimeEqual_iff, if_true]

theorem not_root_of_unresolved {web : WebRuntime} {request : Request} {config : GatewayConfig}
    {nowMs : Int} (h : resolveAuthorizationContext web request config nowMs = none) :
    isRootAuthorization request config = false := by
  rw [resolveAuthorizationContext] at h
  rw [isRootAuthorization]
  split at h
  · cases h
  split at h
  · rename_i token apiToken carried configured
    rw [configured, carried]
    simp only [Bool.eq_false_iff]
    intro root
    rw [if_pos root] at h
    cases h
  · rename_i missing
    cases configured : config.token? with
    | none => rfl
    | some apiToken =>
      cases carried : bearerToken request with
      | none => rfl
      | some token => exact (missing token apiToken carried configured).elim

end CapabilityAuth
