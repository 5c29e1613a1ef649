import TaskQueQue.CimdNetwork
import TaskQueQue.UrlValues

/-!
# Client identifiers that are URLs

A client may be named by the HTTPS URL of its metadata document: visible ASCII,
without credentials, query or fragment, with a path that is not the root and has
no dot segments, and a host that is neither local nor a special-use address.
-/

namespace CimdClientId

open UrlValues CimdNetwork

def MAX_CIMD_CLIENT_ID_BYTES : Nat := 2048

structure ValidatedCimdClientId where
  value : String
  hostname : String
  port : Option String

inductive CimdClientIdError
  | invalid_url
  | too_large
  | https_required
  | userinfo_forbidden
  | query_forbidden
  | fragment_forbidden
  | path_required
  | root_path_forbidden
  | dot_segment_forbidden
  | localhost_forbidden
  | special_use_ip
deriving DecidableEq

/-- What follows `://`, if it is there. -/
def afterScheme : List Char → Option (List Char)
  | [] => none
  | c :: rest => if "://".toList.isPrefixOf (c :: rest) then some (rest.drop 2) else afterScheme rest

/-- The path as it was written, up to a query or a fragment. -/
def rawPath (value : String) : Option (List Char) :=
  (afterScheme value.toList).bind fun authority =>
    let path := (authority.takeWhile fun c => c != '?' && c != '#').dropWhile (· != '/')
    if path = [] then none else some path

def hasDotSegment (path : List Char) : Bool :=
  (path.splitOn '/').any fun segment =>
    !segment.isEmpty &&
      match decodeURIComponent segment with
      | none => true
      | some decoded => decoded == "." || decoded == ".."

/-- The host without brackets, in lower case. -/
def hostnameOf (url : Url) : String :=
  let chars := url.hostname.toList
  let opened := if chars.head? = some '[' then chars.drop 1 else chars
  let closed := if opened.getLast? = some ']' then opened.dropLast else opened
  String.ofList (closed.map Char.toLower)

def validateCimdClientId (parseUrl : UrlParser) (isIP : IsIP) (value : String) :
    Except CimdClientIdError ValidatedCimdClientId :=
  if value = "" ∨ value ≠ trim value ∨ '\\' ∈ value.toList ∨ visibleText value = false then
    .error .invalid_url
  else if MAX_CIMD_CLIENT_ID_BYTES < value.utf8ByteSize then .error .too_large
  else
    match parseUrl value with
    | none => .error .invalid_url
    | some url =>
      if url.protocol ≠ "https:" then .error .https_required
      else if url.username ≠ "" ∨ url.password ≠ "" then .error .userinfo_forbidden
      else if url.search ≠ "" then .error .query_forbidden
      else if url.hash ≠ "" then .error .fragment_forbidden
      else
        match rawPath value with
        | none => .error .path_required
        | some path =>
          if path = ['/'] then .error .root_path_forbidden
          else if hasDotSegment path then .error .dot_segment_forbidden
          else if hostnameOf url = "localhost" ∨ endsWith (hostnameOf url) ".localhost" then
            .error .localhost_forbidden
          else if isIP (hostnameOf url) ≠ none ∧ isSpecialUseIpAddress isIP (hostnameOf url) then
            .error .special_use_ip
          else .ok ⟨value, hostnameOf url, if url.port = "" then none else some url.port⟩

/-- What an accepted identifier is known to be. -/
structure Accepted (parseUrl : UrlParser) (isIP : IsIP) (value : String) (url : Url) : Prop where
  visible : visibleText value = true
  bounded : value.utf8ByteSize ≤ MAX_CIMD_CLIENT_ID_BYTES
  parsed : parseUrl value = some url
  https : url.protocol = "https:"
  username : url.username = ""
  password : url.password = ""
  search : url.search = ""
  hash : url.hash = ""
  ordinary : isIP (hostnameOf url) ≠ none → isSpecialUseIpAddress isIP (hostnameOf url) = false

theorem validateCimdClientId_ok {parseUrl : UrlParser} {isIP : IsIP} {value : String}
    {validated : ValidatedCimdClientId}
    (h : validateCimdClientId parseUrl isIP value = .ok validated) :
    ∃ url, Accepted parseUrl isIP value url ∧ validated.value = value ∧
      validated.hostname = hostnameOf url := by
  rw [validateCimdClientId] at h
  obtain ⟨shape, h⟩ := guard_ok h
  obtain ⟨size, h⟩ := guard_ok h
  cases parsed : parseUrl value with
  | none =>
    rw [parsed] at h
    cases h
  | some url =>
    rw [parsed] at h
    obtain ⟨https, h⟩ := guard_ok h
    obtain ⟨credentials, h⟩ := guard_ok h
    obtain ⟨search, h⟩ := guard_ok h
    obtain ⟨hash, h⟩ := guard_ok h
    cases path : rawPath value with
    | none =>
      rw [path] at h
      cases h
    | some path' =>
      rw [path] at h
      obtain ⟨_, h⟩ := guard_ok h
      obtain ⟨_, h⟩ := guard_ok h
      obtain ⟨_, h⟩ := guard_ok h
      obtain ⟨ordinary, h⟩ := guard_ok h
      cases h
      rw [not_or, not_or, not_or, Bool.not_eq_false] at shape
      rw [not_or, not_not, not_not] at credentials
      exact ⟨url, ⟨shape.2.2.2, Nat.not_lt.mp size, parsed, not_not.mp https, credentials.1,
        credentials.2, not_not.mp search, not_not.mp hash,
        fun address => Bool.eq_false_iff.mpr fun special => ordinary ⟨address, special⟩⟩, rfl, rfl⟩

end CimdClientId
