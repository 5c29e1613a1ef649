import TaskQueQue.PosixPaths
import TaskQueQue.UrlValues

/-!
# The gateway's configuration

The gateway reads its configuration from the environment once, at start-up, and
does not start on one it refuses. `new URL(text)` and `Number(text)` are the
platform's.
-/

namespace GatewayConfig

open GatewayValues UrlValues PosixPaths

abbrev Environment := String → Option String

/-- The parts of a parsed URL that the configuration looks at. -/
structure OriginUrl extends Url where
  pathname : String
  origin : String

structure Platform where
  url : String → Option OriginUrl
  number : String → Option ℚ

structure Config where
  hostname : String
  port : Int
  queueDaemonOrigin : String
  workerBrokerOrigin : String
  filesystemRoot : Option String
  filesystemMutatorBin : Option String
  gitRepository : Option String
  gitBin : Option String
  processRegistryFile : Option String
  processExecBin : Option String
  publicOrigin : Option String
  oauthAuthorizationServer : Option String
  apiToken : Option String
  allowUnauthenticated : Bool
  upstreamTimeoutMs : Int
  enqueueRatePerSecond : Int
  enqueueBurst : Int
  maxActiveTasks : Int
deriving DecidableEq

def DEFAULT_HOST : String := "127.0.0.1"
def DEFAULT_PORT : Int := 3000
def DEFAULT_QUEUE_DAEMON : String := "http://127.0.0.1:7331"
def DEFAULT_WORKER_BROKER : String := "http://127.0.0.1:7332"
def DEFAULT_UPSTREAM_TIMEOUT_MS : Int := 3000
def DEFAULT_ENQUEUE_RATE_PER_SECOND : Int := 10
def DEFAULT_ENQUEUE_BURST : Int := 20
def DEFAULT_MAX_ACTIVE_TASKS : Int := 256

/-- `raw?.trim()`, unless nothing is left. -/
def trimmed (raw : Option String) : Option String := (raw.map trim).filter fun value => value ≠ ""

def refuse (refused : Bool) (message : String) : Except String Unit :=
  if refused then .error message else .ok ()

/-- A chain of checks that was passed, link by link. -/
theorem bind_ok {ε α β : Type} {x : Except ε α} {f : α → Except ε β} {value : β}
    (h : x >>= f = .ok value) : ∃ a, x = .ok a ∧ f a = .ok value := by
  cases x with
  | error e => cases h
  | ok a => exact ⟨a, rfl, h⟩

theorem refuse_ok {refused : Bool} {message : String} {u : Unit}
    (h : refuse refused message = .ok u) : refused = false := by
  cases refused with
  | false => rfl
  | true => cases h

/-! ### Settings -/

section Settings
variable (platform : Platform)

def parseBoundedInteger (raw : Option String) (fallback min max : Int) (name : String) :
    Except String Int :=
  match trimmed raw with
  | none => .ok fallback
  | some _ =>
    match ((raw.bind platform.number).filter fun value => value.den = 1 ∧ min ≤ value.num ∧
        value.num ≤ max) with
    | some value => .ok value.num
    | none => .error (name ++ " must be an integer between " ++ toString min ++ " and " ++
        toString max)

def assertLoopbackHostname (hostname name : String) : Except String Unit :=
  if hostname ≠ "127.0.0.1" ∧ hostname ≠ "::1" then
    .error (name ++ " must be a numeric loopback address (127.0.0.1 or ::1)")
  else .ok ()

def parseLoopbackOrigin (raw name : String) : Except String String :=
  match platform.url raw with
  | none => .error "Invalid URL"
  | some url =>
    if url.protocol ≠ "http:" then .error (name ++ " must use plain HTTP on loopback")
    else
      match assertLoopbackHostname url.hostname (name ++ " hostname") with
      | .error message => .error message
      | .ok _ =>
        if url.username ≠ "" ∨ url.password ≠ "" then
          .error (name ++ " must not contain credentials")
        else if url.pathname ≠ "/" ∨ url.search ≠ "" ∨ url.hash ≠ "" then
          .error (name ++ " must be an origin without path, query, or fragment")
        else .ok url.origin

def parsePublicHttpsOrigin (raw : Option String) (name : String) :
    Except String (Option String) :=
  match trimmed raw with
  | none => .ok none
  | some value =>
    match platform.url value with
    | none => .error (name ++ " must be a valid absolute HTTPS origin")
    | some url =>
      if url.protocol ≠ "https:" then .error (name ++ " must use HTTPS")
      else if url.username ≠ "" ∨ url.password ≠ "" then
        .error (name ++ " must not contain credentials")
      else if url.pathname ≠ "/" ∨ url.search ≠ "" ∨ url.hash ≠ "" then
        .error (name ++ " must be an origin without path, query, or fragment")
      else .ok (some url.origin)

def parseAuthorizationServerIssuer (raw : Option String) : Except String (Option String) :=
  match trimmed raw with
  | none => .ok none
  | some value =>
    match platform.url value with
    | none => .error "GATEWAY_OAUTH_AUTHORIZATION_SERVER must be a valid absolute HTTPS URL"
    | some url =>
      if url.protocol ≠ "https:" then
        .error "GATEWAY_OAUTH_AUTHORIZATION_SERVER must use HTTPS"
      else if url.username ≠ "" ∨ url.password ≠ "" ∨ url.search ≠ "" ∨ url.hash ≠ "" then
        .error ("GATEWAY_OAUTH_AUTHORIZATION_SERVER must not contain credentials, query, " ++
          "or fragment")
      else .ok (some value)

end Settings

/-! ### Providers -/

def parseAbsoluteProviderPath (raw : Option String) (name rootError : String) :
    Except String (Option String) :=
  match trimmed raw with
  | none => .ok none
  | some value =>
    if value.toList.contains (Char.ofNat 0) || decide (4096 < utf16Length value) ||
        !isAbsolute value then
      .error (name ++ " must be a bounded absolute POSIX path")
    else if normalize value = "/" then .error rootError
    else .ok (some (normalize value))

def parseFilesystemRoot (raw : Option String) : Except String (Option String) :=
  parseAbsoluteProviderPath raw "GATEWAY_FILESYSTEM_ROOT"
    "GATEWAY_FILESYSTEM_ROOT must not delegate the filesystem root /"

def parseFilesystemMutatorBin (raw : Option String) : Except String (Option String) :=
  parseAbsoluteProviderPath raw "GATEWAY_FILESYSTEM_MUTATOR_BIN"
    "GATEWAY_FILESYSTEM_MUTATOR_BIN must identify a binary, not /"

def parseGitRepository (raw : Option String) : Except String (Option String) :=
  parseAbsoluteProviderPath raw "GATEWAY_GIT_REPOSITORY"
    "GATEWAY_GIT_REPOSITORY must not delegate the filesystem root /"

def parseGitBin (raw : Option String) : Except String (Option String) :=
  parseAbsoluteProviderPath raw "GATEWAY_GIT_BIN"
    "GATEWAY_GIT_BIN must identify a binary, not /"

def parseProcessRegistryFile (raw : Option String) : Except String (Option String) :=
  parseAbsoluteProviderPath raw "GATEWAY_PROCESS_REGISTRY_FILE"
    "GATEWAY_PROCESS_REGISTRY_FILE must identify a registry file, not /"

def parseProcessExecBin (raw : Option String) : Except String (Option String) :=
  parseAbsoluteProviderPath raw "GATEWAY_PROCESS_EXEC_BIN"
    "GATEWAY_PROCESS_EXEC_BIN must identify a binary, not /"

def pathIsSameOrWithin (root candidate : String) : Bool :=
  let relative := relative root candidate
  decide (relative = "") ||
    (decide (relative ≠ "..") && !startsWith relative "../" && !isAbsolute relative)

/-- One of the provider's own paths, which must be outside the writable root. -/
def requireOutside (filesystemRoot : String) (path : Option String) (name : String) :
    Except String Unit :=
  match path with
  | none => .ok ()
  | some path =>
    if pathIsSameOrWithin filesystemRoot path then
      .error (name ++ " must be outside the delegated writable filesystem root")
    else .ok ()

def validateProviderIsolation (filesystemRoot filesystemMutatorBin gitRepository gitBin
    processRegistryFile processExecBin : Option String) : Except String Unit :=
  match filesystemRoot, filesystemMutatorBin with
  | some filesystemRoot, some filesystemMutatorBin => do
    requireOutside filesystemRoot (some filesystemMutatorBin) "GATEWAY_FILESYSTEM_MUTATOR_BIN"
    requireOutside filesystemRoot gitRepository "GATEWAY_GIT_REPOSITORY control directory"
    requireOutside filesystemRoot gitBin "GATEWAY_GIT_BIN"
    requireOutside filesystemRoot processRegistryFile "GATEWAY_PROCESS_REGISTRY_FILE"
    requireOutside filesystemRoot processExecBin "GATEWAY_PROCESS_EXEC_BIN"
  | _, _ => .ok ()

def loadGatewayConfig (platform : Platform) (env : Environment) : Except String Config := do
  let hostname := (trimmed (env "GATEWAY_HOST")).getD DEFAULT_HOST
  assertLoopbackHostname hostname "GATEWAY_HOST"
  let port ← parseBoundedInteger platform (env "GATEWAY_PORT") DEFAULT_PORT 1 65535 "GATEWAY_PORT"
  let upstreamTimeoutMs ← parseBoundedInteger platform (env "GATEWAY_UPSTREAM_TIMEOUT_MS")
    DEFAULT_UPSTREAM_TIMEOUT_MS 100 30000 "GATEWAY_UPSTREAM_TIMEOUT_MS"
  let enqueueRatePerSecond ← parseBoundedInteger platform (env "GATEWAY_ENQUEUE_RATE_PER_SECOND")
    DEFAULT_ENQUEUE_RATE_PER_SECOND 1 10000 "GATEWAY_ENQUEUE_RATE_PER_SECOND"
  let enqueueBurst ← parseBoundedInteger platform (env "GATEWAY_ENQUEUE_BURST")
    DEFAULT_ENQUEUE_BURST 1 100000 "GATEWAY_ENQUEUE_BURST"
  let maxActiveTasks ← parseBoundedInteger platform (env "GATEWAY_MAX_ACTIVE_TASKS")
    DEFAULT_MAX_ACTIVE_TASKS 1 1000000 "GATEWAY_MAX_ACTIVE_TASKS"
  let allowUnauthenticated := decide (env "GATEWAY_ALLOW_UNAUTHENTICATED" = some "1")
  let apiToken := trimmed (env "GATEWAY_API_TOKEN")
  refuse (apiToken.isNone && !allowUnauthenticated)
    ("GATEWAY_API_TOKEN is required unless GATEWAY_ALLOW_UNAUTHENTICATED=1 is set " ++
      "explicitly")
  let publicOrigin ← parsePublicHttpsOrigin platform (env "GATEWAY_PUBLIC_ORIGIN")
    "GATEWAY_PUBLIC_ORIGIN"
  let oauthAuthorizationServer ← parseAuthorizationServerIssuer platform
    (env "GATEWAY_OAUTH_AUTHORIZATION_SERVER")
  refuse (oauthAuthorizationServer.isSome && publicOrigin.isNone)
    ("GATEWAY_PUBLIC_ORIGIN is required when GATEWAY_OAUTH_AUTHORIZATION_SERVER is " ++
      "configured")
  let filesystemRoot ← parseFilesystemRoot (env "GATEWAY_FILESYSTEM_ROOT")
  let filesystemMutatorBin ← parseFilesystemMutatorBin (env "GATEWAY_FILESYSTEM_MUTATOR_BIN")
  let gitRepository ← parseGitRepository (env "GATEWAY_GIT_REPOSITORY")
  let gitBin ← parseGitBin (env "GATEWAY_GIT_BIN")
  let processRegistryFile ← parseProcessRegistryFile (env "GATEWAY_PROCESS_REGISTRY_FILE")
  let processExecBin ← parseProcessExecBin (env "GATEWAY_PROCESS_EXEC_BIN")
  validateProviderIsolation filesystemRoot filesystemMutatorBin gitRepository gitBin
    processRegistryFile processExecBin
  let queueDaemonOrigin ← parseLoopbackOrigin platform
    ((trimmed (env "QUEUE_DAEMON_URL")).getD DEFAULT_QUEUE_DAEMON) "QUEUE_DAEMON_URL"
  let workerBrokerOrigin ← parseLoopbackOrigin platform
    ((trimmed (env "WORKER_BROKER_URL")).getD DEFAULT_WORKER_BROKER) "WORKER_BROKER_URL"
  return ⟨hostname, port, queueDaemonOrigin, workerBrokerOrigin, filesystemRoot,
    filesystemMutatorBin, gitRepository, gitBin, processRegistryFile, processExecBin,
    publicOrigin, oauthAuthorizationServer, apiToken, allowUnauthenticated, upstreamTimeoutMs,
    enqueueRatePerSecond, enqueueBurst, maxActiveTasks⟩

end GatewayConfig
