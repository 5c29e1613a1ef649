import TaskQueQue.CimdDocument
import TaskQueQue.OAuthRequests

/-!
# Redirects back to a client

The answer to an authorization request is appended to the query of the client's
redirect URI. It is built only when the URI is plain HTTPS of bounded length whose
query has no parameter of the answer's names, and the issuer is plain HTTPS too.
-/

namespace OAuthRedirects

open UrlValues GatewayValues OAuthRequests
open CapabilityAuth (encode)
open CimdDocument (plainHttps)

def MAX_URI_BYTES : Nat := 4096
def MAX_ERROR_DESCRIPTION_BYTES : Nat := 512
def MAX_STATE_BYTES : Nat := 1024

def RESERVED_RESPONSE_PARAMS : List String :=
  ["code", "error", "error_description", "error_uri", "state", "iss"]

inductive OAuthAuthorizationResponseBuildError
  | invalid_redirect_uri
  | ambiguous_redirect_uri
  | invalid_issuer
  | invalid_state
  | invalid_code
  | invalid_error
deriving DecidableEq

/-! ### Form encoding -/

def upperHex (n : Nat) : Char := "0123456789ABCDEF".toList.getD n '0'

def formByte (byte : UInt8) : List Char :=
  let c := Char.ofNat byte.toNat
  if asciiAlphanumeric c || "*-._".toList.contains c then [c]
  else if byte = 32 then ['+']
  else ['%', upperHex (byte.toNat / 16), upperHex (byte.toNat % 16)]

def formText (value : String) : String := String.ofList ((encode value).flatMap formByte)

/-- `URLSearchParams.toString`. -/
def formEncode (params : List (String × String)) : String :=
  "&".intercalate (params.map fun param => formText param.1 ++ "=" ++ formText param.2)

/-! ### The builders -/

def parseRedirectUri (parseUrl : UrlParser) (redirectUri : String) : Option Url :=
  if redirectUri = "" ∨ MAX_URI_BYTES < redirectUri.utf8ByteSize then none
  else (parseUrl redirectUri).filter plainHttps

def redirectHasReservedResponseParams (redirect : Url) : Bool :=
  redirect.searchParams.any fun param => RESERVED_RESPONSE_PARAMS.contains param.1

def normalizeIssuer (parseUrl : UrlParser) (issuer : String) : Option String :=
  if issuer = "" ∨ MAX_URI_BYTES < issuer.utf8ByteSize then none
  else
    ((parseUrl issuer).filter fun url => plainHttps url && url.search == "").map fun _ => issuer

def stateIsBounded (state : Option String) : Bool :=
  state.all fun state => state ≠ "" && decide (state.utf8ByteSize ≤ MAX_STATE_BYTES)

/-- The issuer to name in the answer, if one can be given. -/
def prepareRedirect (parseUrl : UrlParser) (request : ValidatedOAuthAuthorizationRequest)
    (issuer : String) : Except OAuthAuthorizationResponseBuildError String :=
  match parseRedirectUri parseUrl request.redirectUri with
  | none => .error .invalid_redirect_uri
  | some redirect =>
    if stateIsBounded request.state = false then .error .invalid_state
    else if redirectHasReservedResponseParams redirect then .error .ambiguous_redirect_uri
    else
      match normalizeIssuer parseUrl issuer with
      | none => .error .invalid_issuer
      | some issuer => .ok issuer

def commonResponseParams (request : ValidatedOAuthAuthorizationRequest) (issuer : String) :
    List (String × String) :=
  request.state.toList.map (fun state => ("state", state)) ++ [("iss", issuer)]

def appendResponseQuery (exactRedirectUri : String) (params : List (String × String)) : String :=
  let separator :=
    if endsWith exactRedirectUri "?" || endsWith exactRedirectUri "&" then ""
    else if exactRedirectUri.toList.contains '?' then "&"
    else "?"
  exactRedirectUri ++ separator ++ formEncode params

def buildOAuthAuthorizationSuccessRedirect (parseUrl : UrlParser)
    (request : ValidatedOAuthAuthorizationRequest) (issuer code : String) :
    Except OAuthAuthorizationResponseBuildError String :=
  if base64UrlText 32 128 code = false then .error .invalid_code
  else
    match prepareRedirect parseUrl request issuer with
    | .error error => .error error
    | .ok issuer =>
      .ok (appendResponseQuery request.redirectUri
        (("code", code) :: commonResponseParams request issuer))

/-- `/^[A-Za-z_][A-Za-z0-9_.-]{0,63}$/`. -/
def oauthErrorText (error : String) : Bool :=
  match error.toList with
  | [] => false
  | first :: rest =>
    (first.isAlpha || first == '_') && decide (rest.length ≤ 63) &&
      rest.all fun c => asciiAlphanumeric c || "_.-".toList.contains c

def buildOAuthAuthorizationErrorRedirect (parseUrl : UrlParser)
    (request : ValidatedOAuthAuthorizationRequest) (issuer error : String)
    (description : Option String) : Except OAuthAuthorizationResponseBuildError String :=
  if oauthErrorText error = false ∨ description.any (fun description =>
      description = "" || decide (MAX_ERROR_DESCRIPTION_BYTES < description.utf8ByteSize) ||
        description.toList.contains '\r' || description.toList.contains '\n') then
    .error .invalid_error
  else
    match prepareRedirect parseUrl request issuer with
    | .error error => .error error
    | .ok issuer =>
      .ok (appendResponseQuery request.redirectUri
        (("error", error) :: description.toList.map (fun text => ("error_description", text)) ++
          commonResponseParams request issuer))

/-! ### When a redirect can be built -/

theorem normalizeIssuer_some {parseUrl : UrlParser} {issuer issuer' : String}
    (h : normalizeIssuer parseUrl issuer = some issuer') : issuer' = issuer := by
  rw [normalizeIssuer] at h
  split at h
  · cases h
  · obtain ⟨_, _, same⟩ := Option.map_eq_some_iff.mp h
    exact same.symm

/-- Building depends on the request and the issuer, not on the code, once the code has
the right shape. -/
theorem success_built_iff {parseUrl : UrlParser} {request : ValidatedOAuthAuthorizationRequest}
    {issuer code : String} (shape : base64UrlText 32 128 code = true) :
    (∃ location, buildOAuthAuthorizationSuccessRedirect parseUrl request issuer code = .ok location) ↔
      (∃ redirect, parseRedirectUri parseUrl request.redirectUri = some redirect ∧
        redirectHasReservedResponseParams redirect = false) ∧
      stateIsBounded request.state = true ∧ (normalizeIssuer parseUrl issuer).isSome := by
  rw [buildOAuthAuthorizationSuccessRedirect, if_neg (by rw [shape]; decide), prepareRedirect]
  cases parsed : parseRedirectUri parseUrl request.redirectUri with
  | none =>
    dsimp only
    constructor
    · rintro ⟨_, h⟩
      cases h
    · rintro ⟨⟨_, h, _⟩, _⟩
      cases h
  | some redirect =>
    dsimp only
    cases bounded : stateIsBounded request.state with
    | false =>
      rw [if_pos rfl]
      constructor
      · rintro ⟨_, h⟩
        cases h
      · rintro ⟨_, h, _⟩
        cases h
    | true =>
      rw [if_neg (by decide)]
      cases reserved : redirectHasReservedResponseParams redirect with
      | true =>
        rw [if_pos rfl]
        constructor
        · rintro ⟨_, h⟩
          cases h
        · rintro ⟨⟨_, same, none⟩, _⟩
          cases same
          rw [reserved] at none
          cases none
      | false =>
        rw [if_neg Bool.false_ne_true]
        cases named : normalizeIssuer parseUrl issuer with
        | none =>
          constructor
          · rintro ⟨_, h⟩
            cases h
          · rintro ⟨_, _, h⟩
            cases h
        | some issuer' => exact ⟨fun _ => ⟨⟨redirect, rfl, reserved⟩, rfl, rfl⟩, fun _ => ⟨_, rfl⟩⟩

end OAuthRedirects
