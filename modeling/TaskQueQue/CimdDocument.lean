import TaskQueQue.CimdClientId

/-!
# Client metadata documents

The document a client identifier names: JSON that names that identifier, with a
client name and up to sixteen HTTPS redirect URIs, for a public client that uses
authorization codes.
-/

namespace CimdDocument

open GatewayValues UrlValues CimdNetwork CimdClientId

def MAX_CIMD_DOCUMENT_BYTES : Nat := 5 * 1024
def MAX_CIMD_REDIRECT_URIS : Nat := 16
def MAX_CLIENT_NAME_BYTES : Nat := 256
def MAX_REDIRECT_URI_BYTES : Nat := 2048

structure ValidatedCimdDocument where
  clientId : String
  clientName : String
  redirectUris : List String
deriving DecidableEq

inductive CimdDocumentError
  | document_too_large
  | invalid_json
  | invalid_document
  | client_id_mismatch
  | invalid_client_name
  | invalid_redirect_uris
  | unsupported_client_authentication
  | client_secret_forbidden
  | unsupported_grant_type
  | unsupported_response_type
deriving DecidableEq

/-- A non-empty array of texts. -/
def stringArray (value : Option Json) : Option (List String) :=
  match value with
  | some (.arr (entry :: entries)) =>
    (entry :: entries).mapM fun entry =>
      match entry with
      | .str text => some text
      | _ => none
  | _ => none

def clientName? (value : Option Json) : Option String :=
  match value with
  | some (.str name) =>
    if name ≠ "" ∧ name = trim name ∧ name.utf8ByteSize ≤ MAX_CLIENT_NAME_BYTES ∧
        name.toList.all (fun c => decide (32 ≤ c.toNat ∧ c.toNat ≠ 127)) then some name
    else none
  | _ => none

/-- HTTPS without credentials or fragment. -/
def plainHttps (url : Url) : Bool :=
  url.protocol == "https:" && url.username == "" && url.password == "" && url.hash == ""

def validRedirectUri (parseUrl : UrlParser) (value : String) : Bool :=
  if value = "" ∨ value ≠ trim value ∨ MAX_REDIRECT_URI_BYTES < value.utf8ByteSize then false
  else (parseUrl value).any plainHttps

/-- The list, if it is given, holds the entry. -/
def lists (document : Json) (field entry : String) : Bool :=
  match document.field field with
  | none => true
  | some value => (stringArray (some value)).any fun entries => entries.contains entry

def validateCimdDocument (rt : Runtime) (parseUrl : UrlParser) (isIP : IsIP)
    (clientIdentifierUrl raw : String) : Except CimdDocumentError ValidatedCimdDocument :=
  if MAX_CIMD_DOCUMENT_BYTES < raw.utf8ByteSize then .error .document_too_large
  else if (validateCimdClientId parseUrl isIP clientIdentifierUrl).toOption.isNone then
    .error .invalid_document
  else
    match rt.parse raw with
    | none => .error .invalid_json
    | some document =>
      if document.keys.isNone then .error .invalid_document
      else
        match document.field "client_id" with
        | some (.str clientId) =>
          if clientId ≠ clientIdentifierUrl then .error .client_id_mismatch
          else
            match clientName? (document.field "client_name") with
            | none => .error .invalid_client_name
            | some clientName =>
              match stringArray (document.field "redirect_uris") with
              | none => .error .invalid_redirect_uris
              | some redirectUris =>
                if MAX_CIMD_REDIRECT_URIS < redirectUris.length ∨ ¬ redirectUris.Nodup ∨
                    !redirectUris.all (validRedirectUri parseUrl) then .error .invalid_redirect_uris
                else if (document.field "client_secret").isSome ∨
                    (document.field "client_secret_expires_at").isSome then
                  .error .client_secret_forbidden
                else
                  match document.field "token_endpoint_auth_method" with
                  | some (.str "none") =>
                    if !lists document "grant_types" "authorization_code" then
                      .error .unsupported_grant_type
                    else if !lists document "response_types" "code" then
                      .error .unsupported_response_type
                    else .ok ⟨clientIdentifierUrl, clientName, redirectUris⟩
                  | _ => .error .unsupported_client_authentication
        | _ => .error .client_id_mismatch

/-- An accepted document names the identifier, and its redirect URIs are bounded HTTPS. -/
theorem validateCimdDocument_ok {rt : Runtime} {parseUrl : UrlParser} {isIP : IsIP}
    {identifier raw : String} {validated : ValidatedCimdDocument}
    (h : validateCimdDocument rt parseUrl isIP identifier raw = .ok validated) :
    (∃ document, rt.parse raw = some document ∧
      document.field "client_id" = some (.str identifier)) ∧
      validated.clientId = identifier ∧
      ∀ uri ∈ validated.redirectUris, validRedirectUri parseUrl uri = true := by
  rw [validateCimdDocument] at h
  obtain ⟨_, h⟩ := guard_ok h
  obtain ⟨_, h⟩ := guard_ok h
  cases parsed : rt.parse raw with
  | none =>
    rw [parsed] at h
    cases h
  | some document =>
    rw [parsed] at h
    obtain ⟨_, h⟩ := guard_ok h
    refine ⟨⟨document, rfl, ?_⟩, ?_⟩
    · split at h
      · rename_i clientId named
        obtain ⟨same, _⟩ := guard_ok h
        rw [named, not_not.mp same]
      · cases h
    · split at h
      · obtain ⟨_, h⟩ := guard_ok h
        split at h
        · cases h
        split at h
        · cases h
        obtain ⟨bounded, h⟩ := guard_ok h
        obtain ⟨_, h⟩ := guard_ok h
        split at h
        · obtain ⟨_, h⟩ := guard_ok h
          obtain ⟨_, h⟩ := guard_ok h
          cases h
          rw [not_or, not_or, Bool.not_eq_true', Bool.not_eq_false] at bounded
          exact ⟨rfl, List.all_eq_true.mp bounded.2.2⟩
        · cases h
      · cases h

end CimdDocument
