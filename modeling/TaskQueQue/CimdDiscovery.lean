import TaskQueQue.CimdDocument

/-!
# Fetching client metadata

A client's document is fetched from the address its identifier names: the host is
resolved once, every answer is checked, and curl is started at most twice, each
time told which one address to connect to. What curl reports of the peer is
compared with that address before anything it returned is used.

The resolver, the file system and curl are the environment. It may answer each
call as it likes, knowing every command started so far.
-/

namespace CimdDiscovery

open GatewayValues UrlValues IpAddresses CimdNetwork CimdClientId CimdDocument

def DEFAULT_CIMD_FETCH_TIMEOUT_MS : Int := 3000
def MAX_TRANSPORT_BODY_BYTES : Nat := 8 * 1024
def MAX_CURL_STDERR_BYTES : Nat := 64 * 1024
def MAX_CONNECT_ATTEMPTS : Nat := 2
def MIN_ATTEMPT_TIMEOUT_MS : Int := 100

def STATUS_MARKER : String := "__TQQ_CIMD_STATUS__"
def TYPE_MARKER : String := "__TQQ_CIMD_TYPE__"
def PEER_MARKER : String := "__TQQ_CIMD_PEER__"

structure CimdPinnedFetchRequest where
  url : String
  allowedAddresses : List String
  maxBytes : Nat
  timeoutMs : Int

structure CimdPinnedFetchResponse where
  status : Int
  contentType : Option String
  body : String
  peerAddress : String

structure CimdCurlInvocation where
  binary : String
  args : List String
  timeoutMs : Int
  maxStdoutBytes : Nat
  maxStderrBytes : Nat

inductive CimdCurlRunResult
  | ok (stdout : List UInt8) (stderr : String)
  | failed

/-- The platform, the resolver, the curl binary's validation and curl. -/
structure Environment where
  web : WebRuntime
  parseUrl : UrlParser
  isIP : IsIP
  /-- `none` where it throws. -/
  resolve : String → Option (List String)
  /-- The validated path of the binary, after so many commands; `none` where it throws. -/
  binary : List CimdCurlInvocation → Option String
  /-- How the last of these commands ended. -/
  run : List CimdCurlInvocation → CimdCurlRunResult

section Transport

variable (env : Environment)

def normalizedAddress (value : String) : String := String.ofList (unbracket value.toList)

def curlAddress (value : String) : String :=
  let normalized := normalizedAddress value
  if env.isIP normalized = some .v6 then "[" ++ normalized ++ "]" else normalized

/-- The checks of the transport; `none` where they throw. -/
def validatedRequest (request : CimdPinnedFetchRequest) : Option (Url × List String) :=
  if request.maxBytes < 1 ∨ MAX_TRANSPORT_BODY_BYTES < request.maxBytes ∨ request.timeoutMs < 100 ∨
      10000 < request.timeoutMs ∨ request.allowedAddresses.length < 1 ∨
      16 < request.allowedAddresses.length then none
  else
    match env.parseUrl request.url with
    | none => none
    | some url =>
      let addresses := request.allowedAddresses.map normalizedAddress
      if url.protocol ≠ "https:" ∨ url.username ≠ "" ∨ url.password ≠ "" ∨ url.hash ≠ "" ∨
          '\r' ∈ request.url.toList ∨ '\n' ∈ request.url.toList then none
      else if !addresses.all (fun address => (env.isIP address).isSome) ∨ ¬ addresses.Nodup then none
      else some (url, addresses)

/-- The first address of each version, else the first two. -/
def preferredAddresses (addresses : List String) : List String :=
  let preferred :=
    (addresses.find? fun address => env.isIP address = some .v4).toList ++
      (addresses.find? fun address => env.isIP address = some .v6).toList
  if preferred.isEmpty then addresses.take MAX_CONNECT_ATTEMPTS
  else preferred.take MAX_CONNECT_ATTEMPTS

/-- Milliseconds as seconds, to three places. -/
def seconds (ms : Int) : String :=
  toString (ms / 1000) ++ "." ++
    String.ofList ((Nat.toDigits 10 (ms % 1000).toNat).leftpad 3 '0')

def resolveHost (url : Url) : String :=
  let chars := url.hostname.toList
  let opened := if chars.head? = some '[' then chars.drop 1 else chars
  String.ofList (if opened.getLast? = some ']' then opened.dropLast else opened)

def resolvePort (url : Url) : String := if url.port = "" then "443" else url.port

/-- The entry that pins the URL's host and port to an address. -/
def pin (url : Url) (address : String) : String :=
  resolveHost url ++ ":" ++ resolvePort url ++ ":" ++ curlAddress env address

def curlArgs (url : Url) (request : CimdPinnedFetchRequest) (address : String) (timeoutMs : Int) :
    List String :=
  ["--disable", "--globoff", "--silent", "--show-error", "--noproxy", "*", "--proto", "=https",
    "--connect-timeout", seconds timeoutMs, "--max-time", seconds timeoutMs,
    "--max-filesize", toString request.maxBytes,
    "--header", "Accept: application/json, application/*+json",
    "--header", "User-Agent: task-que-que-cimd/1", "--resolve", pin env url address,
    "--write-out", "%\x7bstderr\x7d\n" ++ STATUS_MARKER ++ "%\x7bhttp_code\x7d\n" ++ TYPE_MARKER ++
      "%\x7bcontent_type\x7d\n" ++ PEER_MARKER ++ "%\x7bremote_ip\x7d\n",
    request.url]

def buildPortableCimdCurlInvocation (started : List CimdCurlInvocation)
    (request : CimdPinnedFetchRequest) (address : String) (attemptTimeoutMs : Int) :
    Option CimdCurlInvocation :=
  match validatedRequest env request with
  | none => none
  | some (url, addresses) =>
    let peer := normalizedAddress address
    if !addresses.contains peer || decide (attemptTimeoutMs < MIN_ATTEMPT_TIMEOUT_MS) ||
        decide (request.timeoutMs < attemptTimeoutMs) then none
    else
      (env.binary started).map fun binary =>
        { binary, args := curlArgs env url request peer attemptTimeoutMs,
          timeoutMs := attemptTimeoutMs + 500, maxStdoutBytes := request.maxBytes,
          maxStderrBytes := MAX_CURL_STDERR_BYTES }

def markerValue (stderr marker : String) : Option String :=
  ((lines stderr).find? fun line => marker.toList.isPrefixOf line).map fun line =>
    String.ofList (line.drop marker.length)

/-- Status, content type and peer; `none` where they are incomplete. -/
def parseMetadata (stderr : String) : Option (Int × Option String × String) :=
  let peerAddress := ((markerValue stderr PEER_MARKER).map normalizedAddress).getD ""
  match (markerValue stderr STATUS_MARKER).bind env.web.number with
  | none => none
  | some status =>
    if status.den ≠ 1 ∨ status.num < 100 ∨ 599 < status.num ∨ env.isIP peerAddress = none then none
    else
      some (status.num, (markerValue stderr TYPE_MARKER).filter (fun type => type ≠ ""), peerAddress)

/-- One attempt after another, with the commands started so far. -/
def attempt (request : CimdPinnedFetchRequest) (attemptTimeoutMs : Int) :
    List String → List CimdCurlInvocation → Option CimdPinnedFetchResponse × List CimdCurlInvocation
  | [], started => (none, started)
  | address :: rest, started =>
    match buildPortableCimdCurlInvocation env started request address attemptTimeoutMs with
    | none => (none, started)
    | some invocation =>
      match env.run (started ++ [invocation]) with
      | .failed => attempt request attemptTimeoutMs rest (started ++ [invocation])
      | .ok stdout stderr =>
        match parseMetadata env stderr with
        | none => (none, started ++ [invocation])
        | some (status, contentType, peerAddress) =>
          if peerAddress ≠ address then (none, started ++ [invocation])
          else
            match String.fromUTF8? ⟨stdout.toArray⟩ with
            | none => (none, started ++ [invocation])
            | some body =>
              (some ⟨status, contentType, body, peerAddress⟩, started ++ [invocation])

/-- The portable pinned transport; `none` where it throws. -/
def fetchPinned (request : CimdPinnedFetchRequest) :
    Option CimdPinnedFetchResponse × List CimdCurlInvocation :=
  match validatedRequest env request with
  | none => (none, [])
  | some (_, addresses) =>
    let attempts := preferredAddresses env addresses
    let attemptTimeoutMs := max MIN_ATTEMPT_TIMEOUT_MS (request.timeoutMs / attempts.length)
    attempt env request attemptTimeoutMs attempts []

end Transport

inductive CimdDiscoveryError
  | invalid_client_id
  | resolution_failed
  | unsafe_resolution
  | fetch_failed
  | peer_mismatch
  | http_status
  | invalid_content_type
  | invalid_document
deriving DecidableEq

structure DiscoveredCimdClient where
  identifier : ValidatedCimdClientId
  metadata : ValidatedCimdDocument

def jsonContentType (value : Option String) : Bool :=
  match value with
  | none => false
  | some value =>
    let mediaType := String.ofList ((trimChars (value.toList.takeWhile (· ≠ ';'))).map Char.toLower)
    mediaType == "application/json" ||
      (startsWith mediaType "application/" && endsWith mediaType "+json")

/-- The document behind a response, checked in this order. -/
def readResponse (env : Environment) (identifier : ValidatedCimdClientId) (addresses : List String)
    (response : CimdPinnedFetchResponse) : Except CimdDiscoveryError DiscoveredCimdClient :=
  if !addresses.contains (normalizedAddress response.peerAddress) then .error .peer_mismatch
  else if response.status ≠ 200 then .error .http_status
  else if !jsonContentType response.contentType then .error .invalid_content_type
  else
    match validateCimdDocument env.web.toRuntime env.parseUrl env.isIP identifier.value
        response.body with
    | .error _ => .error .invalid_document
    | .ok metadata => .ok ⟨identifier, metadata⟩

/-- The addresses of a host: itself, if it is one. -/
def answers (env : Environment) (hostname : String) : Option (List String) :=
  if (env.isIP hostname).isSome then some [hostname] else env.resolve hostname

/-- The outcome of a discovery and the commands it started. -/
def discoverCimdClient (env : Environment) (timeout : Option Int) (clientIdentifierUrl : String) :
    Except CimdDiscoveryError DiscoveredCimdClient × List CimdCurlInvocation :=
  match validateCimdClientId env.parseUrl env.isIP clientIdentifierUrl with
  | .error _ => (.error .invalid_client_id, [])
  | .ok validated =>
    match answers env validated.hostname with
    | none => (.error .resolution_failed, [])
    | some addresses =>
      match validateCimdResolvedAddresses env.isIP addresses with
      | .ok safe =>
        let timeoutMs := timeout.getD DEFAULT_CIMD_FETCH_TIMEOUT_MS
        if timeoutMs < 100 ∨ 10000 < timeoutMs then (.error .fetch_failed, [])
        else
          match fetchPinned env ⟨validated.value, safe, MAX_CIMD_DOCUMENT_BYTES, timeoutMs⟩ with
          | (none, started) => (.error .fetch_failed, started)
          | (some response, started) => (readResponse env validated safe response, started)
      | _ => (.error .unsafe_resolution, [])

/-! ### How curl reads its arguments -/

/-- The options of these commands that take a value, and those that name a proxy. -/
def valuedOptions : List String :=
  ["--noproxy", "--proto", "--connect-timeout", "--max-time", "--max-filesize", "--header",
    "--resolve", "--write-out", "--proxy", "-x", "--preproxy", "--proxy1.0", "--socks4",
    "--socks4a", "--socks5", "--socks5-hostname"]

def proxyOptions : List String :=
  ["--proxy", "-x", "--preproxy", "--proxy1.0", "--socks4", "--socks4a", "--socks5",
    "--socks5-hostname"]

def redirectOptions : List String := ["--location", "-L", "--location-trusted"]

/-- The options with their values, and the URLs. -/
def readArguments : List String → List (String × String) × List String
  | [] => ([], [])
  | [arg] => if startsWith arg "-" then ([(arg, "")], []) else ([], [arg])
  | arg :: next :: rest =>
    if arg ∈ valuedOptions then
      let read := readArguments rest
      ((arg, next) :: read.1, read.2)
    else
      let read := readArguments (next :: rest)
      if startsWith arg "-" then ((arg, "") :: read.1, read.2) else (read.1, arg :: read.2)

/-- A command for one URL, pinned to one address, that follows nothing and uses no proxy. -/
structure Pins (env : Environment) (command : CimdCurlInvocation) (identifier : String) (url : Url)
    (address : String) : Prop where
  urls : (readArguments command.args).2 = [identifier]
  resolves : (readArguments command.args).1.filter (fun option => option.1 = "--resolve") =
    [("--resolve", pin env url address)]
  stays : ∀ option ∈ (readArguments command.args).1,
    option.1 ∉ redirectOptions ∧ option.1 ∉ proxyOptions

/-- A command of the transport, built for one of the addresses it tries. -/
def BuiltFor (env : Environment) (request : CimdPinnedFetchRequest) (timeoutMs : Int)
    (addresses : List String) (command : CimdCurlInvocation) : Prop :=
  ∃ started, ∃ address ∈ addresses,
    buildPortableCimdCurlInvocation env started request address timeoutMs = some command

theorem BuiltFor.mono {env : Environment} {request : CimdPinnedFetchRequest} {timeoutMs : Int}
    {addresses others : List String} {command : CimdCurlInvocation}
    (h : BuiltFor env request timeoutMs addresses command)
    (sub : ∀ address ∈ addresses, address ∈ others) :
    BuiltFor env request timeoutMs others command := by
  obtain ⟨started, address, mem, built⟩ := h
  exact ⟨started, address, sub address mem, built⟩

/-- Each command of a discovery is for its identifier and pinned inside the validated set. -/
structure Confined (env : Environment) (clientId : String) (validated : ValidatedCimdClientId)
    (url : Url) (safe : List String) (commands : List CimdCurlInvocation) : Prop where
  named : validated.value = clientId
  parsed : env.parseUrl clientId = some url
  few : commands.length ≤ 2
  pinned : ∀ command ∈ commands, ∃ address ∈ safe, Pins env command clientId url address

theorem readResponse_of {env : Environment} {identifier : ValidatedCimdClientId}
    {addresses : List String} {response : CimdPinnedFetchResponse} {metadata : ValidatedCimdDocument}
    (peer : normalizedAddress response.peerAddress ∈ addresses) (status : response.status = 200)
    (type : jsonContentType response.contentType = true)
    (document : validateCimdDocument env.web.toRuntime env.parseUrl env.isIP identifier.value
      response.body = .ok metadata) :
    readResponse env identifier addresses response = .ok ⟨identifier, metadata⟩ := by
  rw [readResponse, List.contains_iff_mem.mpr peer, type, document, if_neg (by decide),
    if_neg (not_not.mpr status), if_neg (by decide)]

/-- A discovery stops before the transport, or asks it for the identifier's document. -/
theorem discoverCimdClient_cases (env : Environment) (timeout : Option Int) (clientId : String) :
    ((∃ error, (discoverCimdClient env timeout clientId).1 = .error error) ∧
      (discoverCimdClient env timeout clientId).2 = []) ∨
    ∃ validated addresses safe timeoutMs,
      validateCimdClientId env.parseUrl env.isIP clientId = .ok validated ∧
      answers env validated.hostname = some addresses ∧
      validateCimdResolvedAddresses env.isIP addresses = .ok safe ∧
      let fetched := fetchPinned env ⟨validated.value, safe, MAX_CIMD_DOCUMENT_BYTES, timeoutMs⟩
      (discoverCimdClient env timeout clientId).2 = fetched.2 ∧
      ∀ client, (discoverCimdClient env timeout clientId).1 = .ok client →
        ∃ response, fetched.1 = some response ∧
          readResponse env validated safe response = .ok client := by
  rw [discoverCimdClient]
  cases valid : validateCimdClientId env.parseUrl env.isIP clientId with
  | error error => exact Or.inl ⟨⟨_, rfl⟩, rfl⟩
  | ok validated =>
    dsimp only
    cases asked : answers env validated.hostname with
    | none => exact Or.inl ⟨⟨_, rfl⟩, rfl⟩
    | some addresses =>
      dsimp only
      cases checked : validateCimdResolvedAddresses env.isIP addresses with
      | ok safe =>
        dsimp only
        generalize timeout.getD DEFAULT_CIMD_FETCH_TIMEOUT_MS = timeoutMs
        by_cases outside : timeoutMs < 100 ∨ 10000 < timeoutMs
        · rw [if_pos outside]
          exact Or.inl ⟨⟨_, rfl⟩, rfl⟩
        · rw [if_neg outside]
          refine Or.inr ⟨validated, addresses, safe, timeoutMs, rfl, asked, checked, ?_⟩
          split
          · rename_i started fetched
            rw [fetched]
            exact ⟨rfl, fun _ h => by cases h⟩
          · rename_i response started fetched
            rw [fetched]
            exact ⟨rfl, fun _ h => ⟨response, rfl, h⟩⟩
      | _ => exact Or.inl ⟨⟨_, rfl⟩, rfl⟩

theorem discoverCimdClient_ok {env : Environment} {timeout : Option Int} {clientId : String}
    {validated : ValidatedCimdClientId} {addresses safe : List String}
    {response : CimdPinnedFetchResponse} {client : DiscoveredCimdClient}
    (valid : validateCimdClientId env.parseUrl env.isIP clientId = .ok validated)
    (asked : answers env validated.hostname = some addresses)
    (checked : validateCimdResolvedAddresses env.isIP addresses = .ok safe)
    (inTime : 100 ≤ timeout.getD DEFAULT_CIMD_FETCH_TIMEOUT_MS ∧
      timeout.getD DEFAULT_CIMD_FETCH_TIMEOUT_MS ≤ 10000)
    (fetched : (fetchPinned env ⟨validated.value, safe, MAX_CIMD_DOCUMENT_BYTES,
      timeout.getD DEFAULT_CIMD_FETCH_TIMEOUT_MS⟩).1 = some response)
    (read : readResponse env validated safe response = .ok client) :
    (discoverCimdClient env timeout clientId).1 = .ok client := by
  rw [discoverCimdClient, valid]
  dsimp only
  rw [asked]
  dsimp only
  rw [checked]
  dsimp only
  rw [if_neg (by omega)]
  split
  · rename_i started failed
    rw [failed] at fetched
    cases fetched
  · rename_i response' started answered
    rw [answered] at fetched
    cases fetched
    exact read

/-- A discovered client has a valid identifier, and redirect URIs its document may list. -/
theorem discovered_metadata {env : Environment} {timeout : Option Int} {clientId : String}
    {client : DiscoveredCimdClient} (h : (discoverCimdClient env timeout clientId).1 = .ok client) :
    (∃ validated, validateCimdClientId env.parseUrl env.isIP clientId = .ok validated) ∧
      ∀ uri ∈ client.metadata.redirectUris, validRedirectUri env.parseUrl uri = true := by
  rcases discoverCimdClient_cases env timeout clientId with
    ⟨⟨error, failed⟩, _⟩ | ⟨validated, addresses, safe, timeoutMs, valid, _, _, _, returned⟩
  · rw [failed] at h
    cases h
  · obtain ⟨response, _, read⟩ := returned client h
    refine ⟨⟨validated, valid⟩, ?_⟩
    rw [readResponse] at read
    obtain ⟨_, read⟩ := guard_ok read
    obtain ⟨_, read⟩ := guard_ok read
    obtain ⟨_, read⟩ := guard_ok read
    split at read
    · cases read
    · rename_i metadata document
      cases read
      exact (validateCimdDocument_ok document).2.2

def sampleId : String := "https://c.example/m"

def sampleDocument : Json :=
  .obj [("client_id", .str sampleId), ("client_name", .str "c"),
    ("redirect_uris", .arr [.str sampleId]), ("token_endpoint_auth_method", .str "none")]

noncomputable def sampleEnvironment : Environment where
  web :=
    { Runtime.reading [("\x7b\x7d", sampleDocument)] with
      number := fun text => if text = "200" then some 200 else none
      sha256Hex := id
      hmac := fun _ _ => []
      parseBytes := fun _ => none }
  parseUrl text :=
    if text = sampleId then some { protocol := "https:", hostname := "c.example" } else none
  isIP := grammarIsIP
  resolve _ := some ["93.184.216.34"]
  binary _ := some "/usr/bin/curl"
  run _ := .ok "\x7b\x7d".toUTF8.toList ("\n" ++ STATUS_MARKER ++ "200\n" ++ TYPE_MARKER ++
    "application/json\n" ++ PEER_MARKER ++ "93.184.216.34\n")

end CimdDiscovery
