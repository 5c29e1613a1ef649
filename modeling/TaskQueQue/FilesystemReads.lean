import TaskQueQue.FilesystemMutation
import TaskQueQue.ProviderIsolation
import TaskQueQue.RemoteAgents
import TaskQueQue.SymlinkTrees
import TaskQueQue.TaskFacade

/-!
# The filesystem provider

Three routes list a directory, describe a path and read a text file below the configured
root. A path is refused if it climbs by its parts, and again if the place it is resolved to
by following links lies outside of the root.

The calls of one request meet one tree. Each of them may fail with an error of its own.
-/

namespace FilesystemReads

open GatewayValues UrlValues PosixPaths SymlinkTrees

def MAX_RELATIVE_PATH_BYTES : Nat := 4096

def MAX_DIRECTORY_ENTRIES : Nat := 256

def MAX_TEXT_FILE_BYTES : Nat := 256 * 1024

/-! ### The host -/

/-- The codes that are told apart. -/
inductive Errno
  | notFound
  | denied
  | other
deriving DecidableEq

inductive Call
  | realpathRoot
  | statRoot
  | realpathTarget
  | statTarget
  | opendir
  | readFile

/-- The files of a host. `size` is what `stat` says of what is no file, and `collate` is
`localeCompare`. -/
structure Host where
  tree : Tree Part (List UInt8)
  named : ∀ place name, (tree.node (place ++ [name])).isSome → Plain name
  size : List Part → Nat
  fault : Call → Option Errno
  collate : String → String → Bool

def MAX_LINKS : Nat := 40

/-- The steps of a path; they start at the top. -/
def toStep (part : Part) : Step Part :=
  if part = [] ∨ part = ['.'] then .stay else if part = ['.', '.'] then .up else .down part

def steps (path : String) : List (Step Part) := (split path).map toStep

def pathOf (place : List Part) : String := String.ofList ('/' :: joinParts place)

def errno : Failure → Errno
  | .notFound => .notFound
  | .notDirectory | .tooManyLinks => .other

namespace Host
variable (host : Host)

def reach (call : Call) (path : String) : Except Errno (List Part) :=
  match host.fault call with
  | some error => .error error
  | none => (host.tree.walk MAX_LINKS [] (steps path)).mapError errno

def realpath (call : Call) (path : String) : Except Errno String :=
  (host.reach call path).map pathOf

/-- What lies at the end of the path. -/
def stat (call : Call) (path : String) : Except Errno (List Part × Node Part (List UInt8)) :=
  match host.reach call path with
  | .error error => .error error
  | .ok place =>
    match host.tree.node place with
    | some node => .ok (place, node)
    | none => .error .notFound

end Host

def sizeOf (host : Host) (place : List Part) : Node Part (List UInt8) → Nat
  | .file bytes => bytes.length
  | _ => host.size place

/-! ### Paths -/

structure FilesystemBoundaryError where
  status : Nat
  code : String
  message : String
deriving DecidableEq

def filesystemError : Errno → FilesystemBoundaryError
  | .notFound => ⟨404, "filesystem_not_found", "filesystem path was not found"⟩
  | .denied => ⟨403, "filesystem_forbidden", "filesystem path is not readable"⟩
  | .other => ⟨500, "filesystem_error", "filesystem provider failed"⟩

def pushRelative (stack : List Part) (part : Part) : List Part :=
  if part = [] ∨ part = ['.'] then stack
  else if part = ['.', '.'] then
    match stack.getLast? with
    | some last => if last = ['.', '.'] then stack ++ [part] else stack.dropLast
    | none => [part]
  else stack ++ [part]

/-- `posix.normalize`. -/
def posixNormalize (path : String) : String :=
  if isAbsolute path then normalize path
  else
    let parts := (split path).foldl pushRelative []
    let slash := if path.toList.getLast? = some '/' then ['/'] else []
    String.ofList ((if parts = [] then ['.'] else joinParts parts) ++ slash)

def invalidPath (message : String) : FilesystemBoundaryError := ⟨400, "invalid_path", message⟩

def escape (message : String) : FilesystemBoundaryError := ⟨403, "filesystem_escape", message⟩

def normalizeRelativePath (value : Option Json) : Except FilesystemBoundaryError String :=
  match value with
  | some (.str value) =>
    if value = "" ∨ MAX_RELATIVE_PATH_BYTES < value.utf8ByteSize then
      .error (invalidPath "path length is invalid")
    else if value.toList.contains (Char.ofNat 0) || value.toList.contains '\\' ||
        isAbsolute value then
      .error (invalidPath "path must stay relative to the configured filesystem root")
    else if (split value).contains ['.', '.'] then
      .error (escape "parent traversal is not allowed")
    else
      let normalized := posixNormalize value
      if normalized = ".." ∨ startsWith normalized "../" ∨ isAbsolute normalized then
        .error (escape "path escapes the configured filesystem root")
      else .ok normalized
  | _ => .error (invalidPath "path must be a relative string")

def containedBy (root target : String) : Bool :=
  let delta := relative root target
  decide (delta = "") || (!startsWith delta "../" && decide (delta ≠ "..") && !isAbsolute delta)

/-- `posix.resolve` of an absolute path and a relative one: no slash at its end stays. -/
def resolve (root path : String) : String := pathOf (segments (root ++ "/" ++ path))

def unavailable (message : String) : FilesystemBoundaryError :=
  ⟨503, "filesystem_unavailable", message⟩

def canonicalRoot (host : Host) (root : Option String) : Except FilesystemBoundaryError String :=
  match root.filter fun root => decide (root ≠ "") with
  | none => .error (unavailable "filesystem provider is not configured")
  | some root =>
    match host.realpath .realpathRoot root with
    | .error _ => .error (unavailable "configured filesystem root is not readable")
    | .ok canonical =>
      if canonical = "/" then
        .error (unavailable "configured filesystem root resolves to the host filesystem root")
      else
        match host.stat .statRoot canonical with
        | .error _ => .error (unavailable "configured filesystem root is not readable")
        | .ok (_, metadata) =>
          if !metadata.isDirectory then
            .error (unavailable "configured filesystem root is not a directory")
          else .ok canonical

def filesystemRootAvailable (host : Host) (root : Option String) : Bool :=
  (canonicalRoot host root).isOk

def resolveTarget (host : Host) (root requestedPath : String) :
    Except FilesystemBoundaryError String :=
  let candidate := resolve root requestedPath
  if !containedBy root candidate then
    .error (escape "path escapes the configured filesystem root")
  else
    match host.realpath .realpathTarget candidate with
    | .error error => .error (filesystemError error)
    | .ok canonical =>
      if !containedBy root canonical then
        .error (escape "symlink target escapes the configured filesystem root")
      else .ok canonical

/-! ### The operations -/

def entryType : Node Part (List UInt8) → String
  | .file _ => "file"
  | .directory => "directory"
  | .link .. => "symlink"
  | .other => "other"

def statType : Node Part (List UInt8) → String
  | .file _ => "file"
  | .directory => "directory"
  | _ => "other"

/-- The entries in the order in which they are met. -/
def dirents (host : Host) (place : List Part) : List (String × String) :=
  (host.tree.entries place).filterMap fun name =>
    (host.tree.node (place ++ [name])).map fun node => (String.ofList name, entryType node)

def entryJson (entry : String × String) : Json :=
  .obj [("name", .str entry.1), ("type", .str entry.2)]

def listing (host : Host) (requestedPath : String) (place : List Part) : Json :=
  let met := dirents host place
  let entries := (met.take MAX_DIRECTORY_ENTRIES).mergeSort fun left right =>
    host.collate left.1 right.1
  .obj [("path", .str requestedPath), ("entries", .arr (entries.map entryJson)),
    ("truncated", .bool (decide (MAX_DIRECTORY_ENTRIES < met.length))),
    ("limit", .num MAX_DIRECTORY_ENTRIES)]

def listFilesystem (host : Host) (root requestedPath : String) :
    Except FilesystemBoundaryError Json := do
  let target ← resolveTarget host root requestedPath
  let (_, metadata) ← (host.stat .statTarget target).mapError filesystemError
  if !metadata.isDirectory then
    .error ⟨400, "filesystem_not_directory", "filesystem path is not a directory"⟩
  else
    let (place, _) ← (host.stat .opendir target).mapError filesystemError
    .ok (listing host requestedPath place)

def description (host : Host) (requestedPath : String) (place : List Part)
    (metadata : Node Part (List UInt8)) : Json :=
  .obj [("path", .str requestedPath), ("type", .str (statType metadata)),
    ("size", .num (sizeOf host place metadata))]

def statFilesystem (host : Host) (root requestedPath : String) :
    Except FilesystemBoundaryError Json := do
  let target ← resolveTarget host root requestedPath
  let (place, metadata) ← (host.stat .statTarget target).mapError filesystemError
  .ok (description host requestedPath place metadata)

def tooLarge : FilesystemBoundaryError :=
  ⟨413, "filesystem_file_too_large", "filesystem file exceeds 256 KiB read limit"⟩

def notUtf8 : FilesystemBoundaryError :=
  ⟨415, "filesystem_not_utf8", "filesystem.read supports UTF-8 text files only"⟩

def contents (requestedPath : String) (bytes : List UInt8) (content : String) : Json :=
  .obj [("path", .str requestedPath), ("encoding", .str "utf-8"), ("bytes", .num bytes.length),
    ("content", .str content)]

def readText (requestedPath : String) (bytes : List UInt8) : Except FilesystemBoundaryError Json :=
  if MAX_TEXT_FILE_BYTES < bytes.length then .error tooLarge
  else
    match RemoteAgents.decodeText bytes with
    | some content => .ok (contents requestedPath bytes content)
    | none => .error notUtf8

def readFilesystem (host : Host) (root requestedPath : String) :
    Except FilesystemBoundaryError Json := do
  let target ← resolveTarget host root requestedPath
  let (place, metadata) ← (host.stat .statTarget target).mapError filesystemError
  match metadata with
  | .file _ =>
    if MAX_TEXT_FILE_BYTES < sizeOf host place metadata then .error tooLarge
    else
      match (host.stat .readFile target).mapError filesystemError with
      | .error error => .error error
      | .ok (_, .file bytes) => readText requestedPath bytes
      | .ok _ => .error (filesystemError .other)
  | _ => .error ⟨400, "filesystem_not_file", "filesystem path is not a regular file"⟩

/-! ### The routes -/

inductive Operation
  | list
  | stat
  | read
deriving DecidableEq

def operationOf (pathname : String) : Option Operation :=
  if pathname = "/v1/filesystem/list" then some .list
  else if pathname = "/v1/filesystem/stat" then some .stat
  else if pathname = "/v1/filesystem/read" then some .read
  else none

def Operation.run (host : Host) (root requestedPath : String) :
    Operation → Except FilesystemBoundaryError Json
  | .list => listFilesystem host root requestedPath
  | .stat => statFilesystem host root requestedPath
  | .read => readFilesystem host root requestedPath

def FilesystemBoundaryError.response (error : FilesystemBoundaryError) : Response :=
  .coded error.status error.code error.message

def readPathRequest (web : WebRuntime) (request : Request) : Except Response String :=
  match TaskFacade.boundedBody web request (request.header "content-length") with
  | .error response => .error response
  | .ok raw =>
    match web.parse raw with
    | none => .error (.coded 400 "invalid_json" "request body must contain valid JSON")
    | some parsed =>
      if parsed.keys ≠ some ["path"] then
        .error (.coded 400 "invalid_request" "request body must contain only path")
      else (normalizeRelativePath (parsed.field "path")).mapError FilesystemBoundaryError.response

def answer (web : WebRuntime) (host : Host) (filesystemRoot : Option String) (request : Request)
    (operation : Operation) : Except Response Json := do
  let requestedPath ← readPathRequest web request
  let root ← (canonicalRoot host filesystemRoot).mapError FilesystemBoundaryError.response
  (operation.run host root requestedPath).mapError FilesystemBoundaryError.response

def handleFilesystemRequest (web : WebRuntime) (host : Host) (filesystemRoot : Option String)
    (request : Request) : Option Response :=
  (operationOf request.pathname).map fun operation =>
    if request.method ≠ "POST" then .coded 405 "method_not_allowed" "POST required"
    else
      match answer web host filesystemRoot request operation with
      | .error response => response
      | .ok body => ⟨200, some body⟩

/-! ### Places and their paths -/

variable {host : Host} {place top : List Part}

theorem plain_of_reached (reached : host.tree.Reached place) : ∀ part ∈ place, Plain part := by
  induction place using List.reverseRecOn with
  | nil => exact fun part mem => absurd mem List.not_mem_nil
  | append_singleton place name ih =>
    obtain ⟨node, found, _⟩ := reached_iff.mp reached
    have here := host.named place name (by rw [found]; rfl)
    have above := ih (reached_of_directory (directory_of_below reached))
    intro part mem
    rcases List.mem_append.mp mem with mem | mem
    · exact above part mem
    · rw [List.mem_singleton.mp mem]
      exact here

/-- The parts of a place's path; the top has an empty one at its end, too. -/
theorem split_pathOf (plain : ∀ part ∈ place, Plain part) :
    split (pathOf place) = [] :: (if place = [] then [[]] else place) := by
  have front : ∀ rest : List Char, ('/' :: rest).splitOn '/' = [] :: rest.splitOn '/' := fun rest =>
    List.splitOn_append_cons_self [] rest
  rw [split, pathOf, String.toList_ofList, front]
  by_cases none : place = []
  · rw [if_pos none, none]
    rfl
  · rw [if_neg none, split_join place plain none]

theorem segments_pathOf (plain : ∀ part ∈ place, Plain part) : segments (pathOf place) = place := by
  rw [segments, split_pathOf plain, List.foldl_cons]
  split
  · rename_i none
    rw [none]
    rfl
  · exact foldl_push_of_plain place [] plain

theorem toStep_plain {part : Part} (plain : Plain part) : toStep part = .down part := by
  rw [toStep, if_neg, if_neg plain.dots]
  exact fun h => h.elim plain.filled plain.dot

theorem steps_pathOf (plain : ∀ part ∈ place, Plain part) :
    steps (pathOf place) =
      .stay :: (if place = [] then [.stay] else place.map Step.down) := by
  rw [steps, split_pathOf plain, List.map_cons]
  split
  · rfl
  · exact congrArg _ (List.map_congr_left fun part mem => toStep_plain (plain part mem))

theorem pathOf_ne_top (plain : ∀ part ∈ place, Plain part) (proper : pathOf place ≠ "/") :
    place ≠ [] := by
  rintro rfl
  exact proper rfl

theorem containedBy_iff (root target : String) :
    containedBy root target = true ↔ segments root <+: segments target := by
  rw [← ProviderIsolation.pathIsSameOrWithin_iff, containedBy, GatewayConfig.pathIsSameOrWithin,
    Bool.and_comm (!startsWith (relative root target) "../")]

/-! ### Calls -/

theorem reach_ok {call : Call} {path : String} (ok : host.reach call path = .ok place) :
    host.fault call = none ∧ host.tree.walk MAX_LINKS [] (steps path) = .ok place := by
  unfold Host.reach at ok
  split at ok
  · cases ok
  · rename_i calm
    cases walked : host.tree.walk MAX_LINKS [] (steps path) with
    | error failure =>
      rw [walked] at ok
      cases ok
    | ok found =>
      rw [walked] at ok
      cases ok
      exact ⟨calm, rfl⟩

theorem reach_reached {call : Call} {path : String} (ok : host.reach call path = .ok place) :
    host.tree.Reached place :=
  walk_reached (reached_top host.tree) (reach_ok ok).2

/-- The walk by the path of a place, without the stays at its start. -/
theorem walk_pathOf (links : Nat) (plain : ∀ part ∈ place, Plain part) :
    host.tree.walk links [] (steps (pathOf place)) =
      host.tree.walk links [] (place.map Step.down) := by
  rw [steps_pathOf plain]
  split
  · rename_i none
    rw [none, walk_top, walk_top]
    rfl
  · rw [walk_top]

theorem reach_pathOf (call : Call) (calm : host.fault call = none)
    (reached : host.tree.Reached place) : host.reach call (pathOf place) = .ok place := by
  have arrives := walk_down [] MAX_LINKS reached
  rw [Host.reach, calm]
  dsimp only
  rw [walk_pathOf MAX_LINKS (plain_of_reached reached), arrives]
  rfl

theorem stat_ok {call : Call} {path : String} {node : Node Part (List UInt8)}
    (ok : host.stat call path = .ok (place, node)) :
    host.reach call path = .ok place ∧ host.tree.node place = some node := by
  unfold Host.stat at ok
  split at ok
  · cases ok
  · split at ok
    · rename_i reaches _ _ found
      cases ok
      exact ⟨reaches, found⟩
    · cases ok

/-- What a call says of the path of a place that is reached is about that place. -/
theorem stat_pathOf {call : Call} {place' : List Part} {node : Node Part (List UInt8)}
    (reached : host.tree.Reached place) (ok : host.stat call (pathOf place) = .ok (place', node)) :
    place' = place ∧ host.tree.node place = some node := by
  obtain ⟨reaches, found⟩ := stat_ok ok
  have calm := (reach_ok reaches).1
  have same := (reach_pathOf call calm reached).symm.trans reaches
  cases same
  exact ⟨rfl, found⟩

/-! ### The root and what lies below it -/

/-- A canonical root is the path of a directory other than the top. -/
theorem canonicalRoot_ok {root : Option String} {canonical : String}
    (ok : canonicalRoot host root = .ok canonical) :
    ∃ top, canonical = pathOf top ∧ host.tree.node top = some .directory ∧ top ≠ [] := by
  unfold canonicalRoot at ok
  split at ok
  · cases ok
  rename_i configured _
  cases reaches : host.reach .realpathRoot configured with
  | error error =>
    rw [Host.realpath, reaches] at ok
    cases ok
  | ok top =>
    rw [Host.realpath, reaches] at ok
    dsimp only [Except.map] at ok
    split at ok
    · cases ok
    rename_i proper
    have reached := reach_reached reaches
    have plain := plain_of_reached reached
    split at ok
    · cases ok
    rename_i place metadata seen
    split at ok
    · cases ok
    rename_i directory
    cases ok
    obtain ⟨rfl, found⟩ := stat_pathOf reached seen
    refine ⟨place, rfl, ?_, pathOf_ne_top plain proper⟩
    rw [found]
    cases metadata with
    | directory => rfl
    | file | link | other => exact absurd rfl directory

theorem resolveTarget_ok {requestedPath target : String} (plain : ∀ part ∈ top, Plain part)
    (ok : resolveTarget host (pathOf top) requestedPath = .ok target) :
    ∃ place, target = pathOf place ∧
      host.reach .realpathTarget (resolve (pathOf top) requestedPath) = .ok place ∧
      top <+: place := by
  unfold resolveTarget at ok
  dsimp only at ok
  split at ok
  · cases ok
  cases reaches : host.reach .realpathTarget (resolve (pathOf top) requestedPath) with
  | error error =>
    rw [Host.realpath, reaches] at ok
    cases ok
  | ok place =>
    rw [Host.realpath, reaches] at ok
    dsimp only [Except.map] at ok
    split at ok
    · cases ok
    rename_i inside
    cases ok
    rw [Bool.not_eq_true, Bool.not_eq_false', containedBy_iff, segments_pathOf plain,
      segments_pathOf (plain_of_reached (reach_reached reaches))] at inside
    exact ⟨place, rfl, rfl, inside⟩

/-! ### What is shown -/

/-- The views of a place. -/
inductive Shows (host : Host) (path : String) (place : List Part) : Operation → Json → Prop
  | list (found : host.tree.node place = some .directory) :
      Shows host path place .list (listing host path place)
  | stat {node : Node Part (List UInt8)} (found : host.tree.node place = some node) :
      Shows host path place .stat (description host path place node)
  | read {bytes : List UInt8} {text : String}
      (found : host.tree.node place = some (.file bytes))
      (short : bytes.length ≤ MAX_TEXT_FILE_BYTES)
      (decoded : RemoteAgents.decodeText bytes = some text) :
      Shows host path place .read (contents path bytes text)

theorem readText_ok {path : String} {bytes : List UInt8} {body : Json}
    (ok : readText path bytes = .ok body) :
    bytes.length ≤ MAX_TEXT_FILE_BYTES ∧
      ∃ text, RemoteAgents.decodeText bytes = some text ∧ body = contents path bytes text := by
  unfold readText at ok
  split at ok
  · cases ok
  rename_i short
  split at ok
  · rename_i text decoded
    cases ok
    exact ⟨Nat.le_of_not_lt short, text, decoded, rfl⟩
  · cases ok

theorem listFilesystem_ok {path : String} {body : Json} (plain : ∀ part ∈ top, Plain part)
    (ok : listFilesystem host (pathOf top) path = .ok body) :
    ∃ place, host.reach .realpathTarget (resolve (pathOf top) path) = .ok place ∧
      top <+: place ∧ Shows host path place .list body := by
  obtain ⟨target, resolved, looked⟩ := GatewayConfig.bind_ok ok
  obtain ⟨place, rfl, reaches, inside⟩ := resolveTarget_ok plain resolved
  have reached := reach_reached reaches
  obtain ⟨⟨place', metadata⟩, seen, shown⟩ := GatewayConfig.bind_ok looked
  obtain ⟨rfl, found⟩ := stat_pathOf reached (RemoteAgents.mapError_ok seen)
  dsimp only at shown
  split at shown
  · cases shown
  rename_i directory
  obtain ⟨⟨opened, node⟩, again, listed⟩ := GatewayConfig.bind_ok shown
  obtain ⟨rfl, _⟩ := stat_pathOf reached (RemoteAgents.mapError_ok again)
  cases listed
  refine ⟨opened, reaches, inside, .list ?_⟩
  rw [found]
  cases metadata with
  | directory => rfl
  | file | link | other => exact absurd rfl directory

theorem statFilesystem_ok {path : String} {body : Json} (plain : ∀ part ∈ top, Plain part)
    (ok : statFilesystem host (pathOf top) path = .ok body) :
    ∃ place, host.reach .realpathTarget (resolve (pathOf top) path) = .ok place ∧
      top <+: place ∧ Shows host path place .stat body := by
  obtain ⟨target, resolved, looked⟩ := GatewayConfig.bind_ok ok
  obtain ⟨place, rfl, reaches, inside⟩ := resolveTarget_ok plain resolved
  have reached := reach_reached reaches
  obtain ⟨⟨place', metadata⟩, seen, shown⟩ := GatewayConfig.bind_ok looked
  obtain ⟨rfl, found⟩ := stat_pathOf reached (RemoteAgents.mapError_ok seen)
  cases shown
  exact ⟨place', reaches, inside, .stat found⟩

theorem readFilesystem_ok {path : String} {body : Json} (plain : ∀ part ∈ top, Plain part)
    (ok : readFilesystem host (pathOf top) path = .ok body) :
    ∃ place, host.reach .realpathTarget (resolve (pathOf top) path) = .ok place ∧
      top <+: place ∧ Shows host path place .read body := by
  obtain ⟨target, resolved, looked⟩ := GatewayConfig.bind_ok ok
  obtain ⟨place, rfl, reaches, inside⟩ := resolveTarget_ok plain resolved
  have reached := reach_reached reaches
  obtain ⟨⟨place', metadata⟩, seen, shown⟩ := GatewayConfig.bind_ok looked
  obtain ⟨rfl, found⟩ := stat_pathOf reached (RemoteAgents.mapError_ok seen)
  dsimp only at shown
  split at shown
  · split at shown
    · cases shown
    split at shown
    · cases shown
    · rename_i again
      obtain ⟨rfl, found'⟩ := stat_pathOf reached (RemoteAgents.mapError_ok again)
      obtain ⟨short, text, decoded, rfl⟩ := readText_ok shown
      exact ⟨_, reaches, inside, .read found' short decoded⟩
    · cases shown
  · cases shown

theorem run_ok {operation : Operation} {path : String} {body : Json}
    (plain : ∀ part ∈ top, Plain part)
    (ok : operation.run host (pathOf top) path = .ok body) :
    ∃ place, host.reach .realpathTarget (resolve (pathOf top) path) = .ok place ∧
      top <+: place ∧ Shows host path place operation body := by
  cases operation with
  | list => exact listFilesystem_ok plain ok
  | stat => exact statFilesystem_ok plain ok
  | read => exact readFilesystem_ok plain ok

/-! ### What is answered otherwise -/

/-- All that is said where nothing is shown. -/
def refusals : List FilesystemBoundaryError :=
  [⟨405, "method_not_allowed", "POST required"⟩,
    ⟨415, "unsupported_media_type", "content-type must be application/json"⟩,
    ⟨400, "invalid_content_length", "invalid content-length"⟩,
    ⟨413, "request_too_large", "request body exceeds 1 MiB"⟩,
    ⟨400, "invalid_json", "request body must contain valid JSON"⟩,
    ⟨400, "invalid_request", "request body must contain only path"⟩,
    invalidPath "path must be a relative string",
    invalidPath "path length is invalid",
    invalidPath "path must stay relative to the configured filesystem root",
    escape "parent traversal is not allowed",
    escape "path escapes the configured filesystem root",
    escape "symlink target escapes the configured filesystem root",
    unavailable "filesystem provider is not configured",
    unavailable "configured filesystem root is not readable",
    unavailable "configured filesystem root resolves to the host filesystem root",
    unavailable "configured filesystem root is not a directory",
    filesystemError .notFound, filesystemError .denied, filesystemError .other,
    ⟨400, "filesystem_not_directory", "filesystem path is not a directory"⟩,
    ⟨400, "filesystem_not_file", "filesystem path is not a regular file"⟩,
    tooLarge, notUtf8]

variable {error : FilesystemBoundaryError}

theorem filesystemError_refusal (code : Errno) : filesystemError code ∈ refusals := by
  cases code <;> decide +kernel

theorem call_refusal {α : Type} {call : Except Errno α}
    (failed : call.mapError filesystemError = .error error) : error ∈ refusals := by
  cases call with
  | ok value => cases failed
  | error code =>
    cases failed
    exact filesystemError_refusal code

theorem normalizeRelativePath_refusal {value : Option Json}
    (failed : normalizeRelativePath value = .error error) : error ∈ refusals := by
  unfold normalizeRelativePath at failed
  dsimp only at failed
  repeat' split at failed
  all_goals cases failed
  all_goals decide +kernel

theorem canonicalRoot_refusal {root : Option String}
    (failed : canonicalRoot host root = .error error) : error ∈ refusals := by
  unfold canonicalRoot at failed
  repeat' split at failed
  all_goals cases failed
  all_goals decide +kernel

theorem resolveTarget_refusal {root path : String}
    (failed : resolveTarget host root path = .error error) : error ∈ refusals := by
  unfold resolveTarget at failed
  dsimp only at failed
  repeat' split at failed
  all_goals cases failed
  · decide +kernel
  · exact filesystemError_refusal _
  · decide +kernel

theorem readText_refusal {path : String} {bytes : List UInt8}
    (failed : readText path bytes = .error error) : error ∈ refusals := by
  unfold readText at failed
  repeat' split at failed
  all_goals cases failed
  all_goals decide +kernel

theorem listFilesystem_refusal {root path : String}
    (failed : listFilesystem host root path = .error error) : error ∈ refusals := by
  rcases FilesystemMutation.bind_error failed with unresolved | ⟨target, _, failed⟩
  · exact resolveTarget_refusal unresolved
  rcases FilesystemMutation.bind_error failed with unseen | ⟨⟨place, metadata⟩, _, failed⟩
  · exact call_refusal unseen
  dsimp only at failed
  split at failed
  · cases failed
    decide +kernel
  rcases FilesystemMutation.bind_error failed with closed | ⟨opened, _, failed⟩
  · exact call_refusal closed
  · cases failed

theorem statFilesystem_refusal {root path : String}
    (failed : statFilesystem host root path = .error error) : error ∈ refusals := by
  rcases FilesystemMutation.bind_error failed with unresolved | ⟨target, _, failed⟩
  · exact resolveTarget_refusal unresolved
  rcases FilesystemMutation.bind_error failed with unseen | ⟨⟨place, metadata⟩, _, failed⟩
  · exact call_refusal unseen
  · cases failed

theorem readFilesystem_refusal {root path : String}
    (failed : readFilesystem host root path = .error error) : error ∈ refusals := by
  rcases FilesystemMutation.bind_error failed with unresolved | ⟨target, _, failed⟩
  · exact resolveTarget_refusal unresolved
  rcases FilesystemMutation.bind_error failed with unseen | ⟨⟨place, metadata⟩, _, failed⟩
  · exact call_refusal unseen
  dsimp only at failed
  split at failed
  · split at failed
    · cases failed
      decide +kernel
    split at failed
    · rename_i unread
      cases failed
      exact call_refusal unread
    · exact readText_refusal failed
    · cases failed
      exact filesystemError_refusal .other
  · cases failed
    decide +kernel

theorem run_refusal {operation : Operation} {root path : String}
    (failed : operation.run host root path = .error error) : error ∈ refusals := by
  cases operation with
  | list => exact listFilesystem_refusal failed
  | stat => exact statFilesystem_refusal failed
  | read => exact readFilesystem_refusal failed

/-! ### Requests -/

/-- A refusal as a response. -/
def Refused (response : Response) : Prop := ∃ error ∈ refusals, response = error.response

theorem refused_mapError {α : Type} {result : Except FilesystemBoundaryError α}
    {response : Response}
    (listed : ∀ error, result = .error error → error ∈ refusals)
    (failed : result.mapError FilesystemBoundaryError.response = .error response) :
    Refused response := by
  cases result with
  | ok value => cases failed
  | error error =>
    cases failed
    exact ⟨error, listed error rfl, rfl⟩

variable {web : WebRuntime} {request : Request}

theorem boundedBody_refused {declaredLength : Option String} {response : Response}
    (failed : TaskFacade.boundedBody web request declaredLength = .error response) :
    Refused response := by
  unfold TaskFacade.boundedBody at failed
  dsimp only at failed
  repeat' split at failed
  all_goals cases failed
  · exact ⟨⟨415, "unsupported_media_type", "content-type must be application/json"⟩,
      by decide +kernel, rfl⟩
  · exact ⟨⟨400, "invalid_content_length", "invalid content-length"⟩, by decide +kernel, rfl⟩
  · exact ⟨⟨413, "request_too_large", "request body exceeds 1 MiB"⟩, by decide +kernel, rfl⟩

theorem readPathRequest_refused {response : Response}
    (failed : readPathRequest web request = .error response) : Refused response := by
  unfold readPathRequest at failed
  split at failed
  · rename_i unbounded
    cases failed
    exact boundedBody_refused unbounded
  split at failed
  · cases failed
    exact ⟨⟨400, "invalid_json", "request body must contain valid JSON"⟩, by decide +kernel, rfl⟩
  split at failed
  · cases failed
    exact ⟨⟨400, "invalid_request", "request body must contain only path"⟩,
      by decide +kernel, rfl⟩
  · exact refused_mapError (fun _ => normalizeRelativePath_refusal) failed

theorem single_of_keys {value : Json} {name : String} (keys : value.keys = some [name]) :
    ∃ inner, value = .obj [(name, inner)] ∧ value.field name = some inner := by
  cases value with
  | obj fields =>
    have names := Option.some.inj keys
    match fields, names with
    | [(key, inner)], names =>
      cases names
      exact ⟨inner, rfl, by rw [Json.field, List.lookup_cons, beq_self_eq_true]⟩
  | null | bool | num | str | arr => cases keys

theorem readPathRequest_ok {path : String} (ok : readPathRequest web request = .ok path) :
    ∃ value, web.parse request.body = some (.obj [("path", .str value)]) ∧
      normalizeRelativePath (some (.str value)) = .ok path := by
  unfold readPathRequest at ok
  split at ok
  · cases ok
  rename_i raw bounded
  split at ok
  · cases ok
  rename_i parsed read
  split at ok
  · cases ok
  rename_i keys
  obtain ⟨inner, whole, named⟩ := single_of_keys (Decidable.not_not.mp keys)
  have normal := RemoteAgents.mapError_ok ok
  rw [named] at normal
  cases inner with
  | str value =>
    rw [TaskFacade.boundedBody_ok bounded, whole] at read
    exact ⟨value, read, normal⟩
  | null | bool | num | arr | obj => cases normal

/-- What a request is answered: nothing if it is for no route of these, a refusal, or a view
of a place at or below the canonical root. -/
inductive Answers (web : WebRuntime) (host : Host) (filesystemRoot : Option String)
    (request : Request) : Option Response → Prop
  | elsewhere (unrouted : operationOf request.pathname = none) :
      Answers web host filesystemRoot request none
  | refused {response : Response} (refused : Refused response) :
      Answers web host filesystemRoot request (some response)
  | shown {operation : Operation} {value path : String} {top place : List Part} {body : Json}
      (routed : operationOf request.pathname = some operation)
      (asked : web.parse request.body = some (.obj [("path", .str value)]))
      (normal : normalizeRelativePath (some (.str value)) = .ok path)
      (root : canonicalRoot host filesystemRoot = .ok (pathOf top))
      (directory : host.tree.node top = some .directory) (proper : top ≠ [])
      (reaches : host.reach .realpathTarget (resolve (pathOf top) path) = .ok place)
      (inside : top <+: place)
      (shows : Shows host path place operation body) :
      Answers web host filesystemRoot request (some ⟨200, some body⟩)

/-- Nothing outside of the canonical root is shown, however links and requests are made. -/
theorem reads_confined (web : WebRuntime) (host : Host) (filesystemRoot : Option String)
    (request : Request) : Answers web host filesystemRoot request
      (handleFilesystemRequest web host filesystemRoot request) := by
  unfold handleFilesystemRequest
  cases routed : operationOf request.pathname with
  | none => exact .elsewhere routed
  | some operation =>
    rw [Option.map_some]
    split
    · exact .refused ⟨⟨405, "method_not_allowed", "POST required"⟩, by decide +kernel, rfl⟩
    split
    · rename_i response failed
      refine .refused ?_
      rcases FilesystemMutation.bind_error failed with unread | ⟨path, _, failed⟩
      · exact readPathRequest_refused unread
      rcases FilesystemMutation.bind_error failed with rootless | ⟨root, _, failed⟩
      · exact refused_mapError (fun _ => canonicalRoot_refusal) rootless
      · exact refused_mapError (fun _ => run_refusal) failed
    · rename_i body ok
      obtain ⟨path, read, rooted⟩ := GatewayConfig.bind_ok ok
      obtain ⟨root, canonical, ran⟩ := GatewayConfig.bind_ok rooted
      obtain ⟨value, asked, normal⟩ := readPathRequest_ok read
      have found := RemoteAgents.mapError_ok canonical
      obtain ⟨top, rfl, directory, proper⟩ := canonicalRoot_ok found
      have plain := plain_of_reached (reached_of_directory (directory_of_node directory))
      obtain ⟨place, reaches, inside, shows⟩ := run_ok plain (RemoteAgents.mapError_ok ran)
      exact .shown routed asked normal found directory proper reaches inside shows

end FilesystemReads
