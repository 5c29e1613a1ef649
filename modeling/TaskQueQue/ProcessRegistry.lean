import TaskQueQue.GatewayConfig

/-!
# The registry of processes

The operator registers fixed commands in a file. It is read whenever the process
provider is asked for; one that is not entirely in order leaves the provider
unavailable. What the file system holds at that moment is given by its lookups.
-/

namespace ProcessRegistry

open GatewayValues UrlValues PosixPaths Capabilities
open CapabilityAuth (exactKeys)
open GatewayConfig (Config pathIsSameOrWithin refuse)

def MAX_REGISTRY_BYTES : Nat := 64 * 1024
def MAX_COMMANDS : Nat := 64
def MAX_ARGUMENTS : Nat := 16
def MAX_ARGUMENT_BYTES : Nat := 1024
def MAX_OUTPUT_BYTES_LIMIT : Int := 256 * 1024
def MIN_TIMEOUT_MS : Int := 100
def MAX_TIMEOUT_MS : Int := 30000

inductive RegisteredProcessAuthority
  | invoke
  | mutateScoped
deriving DecidableEq

structure RegisteredProcessDescriptor where
  name : String
  binary : String
  args : List String
  cwd : String
  timeoutMs : Int
  maxOutputBytes : Int
  authority : RegisteredProcessAuthority
  requiredScope : String
  mutatesState : Bool

structure RegisteredProcessRegistry where
  commands : List RegisteredProcessDescriptor
  source : String

/-- A path's kind is that of the path itself, not of what a link there leads to. -/
structure FileSystem where
  isFile : String → Bool
  isDirectory : String → Bool
  executable : String → Bool
  native : String → Bool
  size : String → Nat
  content : String → Option String
  realpath : String → Option String

/-- `/^[a-z][a-z0-9._-]{0,63}$/`. -/
def commandName (name : String) : Bool :=
  match name.toList with
  | [] => false
  | c :: rest =>
    decide ('a' ≤ c ∧ c ≤ 'z') && decide (rest.length ≤ 63) &&
      rest.all fun c => decide ('a' ≤ c ∧ c ≤ 'z') || c.isDigit || c == '.' || c == '_' || c == '-'

def validateAbsolutePath (value : Option Json) (name : String) : Except String String :=
  match value with
  | some (.str value) =>
    if value = "" ∨ 4096 < utf16Length value then
      .error (name ++ " must be a bounded absolute POSIX path")
    else if value.toList.contains (Char.ofNat 0) || !isAbsolute value then
      .error (name ++ " must be a bounded absolute POSIX path")
    else if normalize value = "/" then .error (name ++ " must not identify /")
    else .ok (normalize value)
  | _ => .error (name ++ " must be a bounded absolute POSIX path")

def canonical (files : FileSystem) (path : String) : Bool :=
  decide ((files.realpath path).map normalize = some path)

def validateCanonicalNativeExecutable (files : FileSystem) (path label : String) :
    Except String Unit :=
  if !files.isFile path then .error (label ++ " must be a regular file")
  else if !files.executable path then .error "EACCES"
  else if !canonical files path then .error (label ++ " must be canonical and non-symlink")
  else if !files.native path then .error (label ++ " must be a native ELF executable")
  else .ok ()

def validateCanonicalDirectory (files : FileSystem) (path : String) : Except String Unit :=
  if !files.isDirectory path then .error "registered process cwd must be a directory"
  else if !canonical files path then
    .error "registered process cwd must be canonical and non-symlink"
  else .ok ()

/-! ### Descriptors -/

def parseAuthority : Option Json → Option RegisteredProcessAuthority
  | some (.str "invoke") => some .invoke
  | some (.str "mutate_scoped") => some .mutateScoped
  | _ => none

def processScope (scope : String) : Bool :=
  startsWith scope "process.command." &&
    commandName (String.ofList (scope.toList.drop "process.command.".length))

def validateProcessPolicy (name : String) (authority requiredScope mutatesState : Option Json) :
    Except String (RegisteredProcessAuthority × String × Bool) :=
  match parseAuthority authority with
  | none => .error "registered process authority must be invoke or mutate_scoped"
  | some authority =>
    match mutatesState with
    | some (.bool mutatesState) =>
      if (authority = .invoke ∧ mutatesState) ∨ (authority = .mutateScoped ∧ !mutatesState) then
        .error "registered process authority and mutates_state are inconsistent"
      else
        match requiredScope with
        | some (.str scope) =>
          if processScope scope && decide (scope = "process.command." ++ name) then
            .ok (authority, scope, mutatesState)
          else .error ("registered process required_scope must be exactly process.command." ++ name)
        | _ => .error ("registered process required_scope must be exactly process.command." ++ name)
    | _ => .error "registered process mutates_state must be boolean"

def descriptorKeys : List String :=
  ["name", "binary", "args", "cwd", "timeout_ms", "max_output_bytes", "authority",
    "required_scope", "mutates_state"]

/-- A text without a NUL, of at most 1024 bytes. -/
def parseArgument : Json → Option String
  | .str argument =>
    if argument.toList.contains (Char.ofNat 0) || decide (MAX_ARGUMENT_BYTES < argument.utf8ByteSize)
    then none
    else some argument
  | _ => none

/-- A value that was read, or the error that it was not. -/
def required {α : Type} (value : Option α) (message : String) : Except String α :=
  match value with
  | some value => .ok value
  | none => .error message

def textOf : Json → Option String
  | .str value => some value
  | _ => none

def itemsOf : Json → Option (List Json)
  | .arr items => some items
  | _ => none

def integerBetween (min max : Int) (value : Option Json) : Option Int :=
  (Json.integer? value).filter fun n => decide (min ≤ n ∧ n ≤ max)

def parseDescriptor (value : Json) : Except String RegisteredProcessDescriptor := do
  refuse (!exactKeys value descriptorKeys)
    "registered process descriptor has an invalid schema"
  let name ← required (((value.field "name").bind textOf).filter commandName)
    "registered process name is invalid"
  let args ← required (((value.field "args").bind itemsOf).filter fun args =>
    decide (args.length ≤ MAX_ARGUMENTS))
    "registered process args exceed the bounded registry contract"
  let args ← required (args.mapM parseArgument) "registered process argument is invalid"
  let timeoutMs ← required
    (integerBetween MIN_TIMEOUT_MS MAX_TIMEOUT_MS (value.field "timeout_ms"))
    "registered process timeout_ms is outside the bounded range"
  let maxOutputBytes ← required
    (integerBetween 1 MAX_OUTPUT_BYTES_LIMIT (value.field "max_output_bytes"))
    "registered process max_output_bytes is outside the bounded range"
  let policy ← validateProcessPolicy name (value.field "authority") (value.field "required_scope")
    (value.field "mutates_state")
  let binary ← validateAbsolutePath (value.field "binary") "registered process binary"
  let cwd ← validateAbsolutePath (value.field "cwd") "registered process cwd"
  return ⟨name, binary, args, cwd, timeoutMs, maxOutputBytes, policy.1, policy.2.1, policy.2.2⟩

/-! ### The registry file -/

/-- One item of the list, after the commands before it. -/
def admitCommand (files : FileSystem) (writableRoot : Option String)
    (commands : List RegisteredProcessDescriptor) (item : Json) :
    Except String (List RegisteredProcessDescriptor) := do
  let descriptor ← parseDescriptor item
  refuse (commands.any fun command => decide (command.name = descriptor.name))
    ("duplicate registered process name: " ++ descriptor.name)
  refuse (writableRoot.any fun root => pathIsSameOrWithin root descriptor.binary)
    "registered process binary must be outside the writable filesystem root"
  refuse (writableRoot.any fun root => pathIsSameOrWithin root descriptor.cwd)
    "registered process cwd must be outside the writable filesystem root"
  validateCanonicalNativeExecutable files descriptor.binary "registered process binary"
  validateCanonicalDirectory files descriptor.cwd
  return commands ++ [descriptor]

/-- The commands of a registry of version 2: at least one, and at most 64. -/
def registryItems (parsed : Json) : Option (List Json) :=
  if exactKeys parsed ["version", "commands"] &&
      decide (Json.integer? (parsed.field "version") = some 2) then
    ((parsed.field "commands").bind itemsOf).filter fun items =>
      decide (items ≠ []) && decide (items.length ≤ MAX_COMMANDS)
  else none

def writableRootPath : Option String → Except String (Option String)
  | some root => (validateAbsolutePath (some (.str root)) "writable filesystem root").map some
  | none => .ok none

def loadRegisteredProcessRegistry (rt : Runtime) (files : FileSystem) (configuredPath : String)
    (writableFilesystemRoot : Option String) : Except String RegisteredProcessRegistry := do
  let registryPath ← validateAbsolutePath (some (.str configuredPath)) "registered process registry"
  let writableRoot ← writableRootPath writableFilesystemRoot
  refuse (writableRoot.any fun root => pathIsSameOrWithin root registryPath)
    "registered process registry must be outside the writable filesystem root"
  let raw ← required (files.content registryPath) "registered process registry is unavailable"
  refuse (!files.isFile registryPath || decide (files.size registryPath < 2) ||
      decide (MAX_REGISTRY_BYTES < files.size registryPath))
    "registered process registry must be a bounded regular file"
  refuse (!canonical files registryPath)
    "registered process registry must be canonical and non-symlink"
  let parsed ← required (rt.parse raw) "registered process registry must contain valid JSON"
  let items ← required (registryItems parsed) "registered process registry has an invalid schema"
  let commands ← items.foldlM (admitCommand files writableRoot) []
  return ⟨commands, registryPath⟩

/-! ### The provider -/

structure RegisteredProcessProvider where
  registry : RegisteredProcessRegistry
  helperBin : String

def helperAvailable (files : FileSystem) (path : String) : Bool :=
  files.isFile path && files.executable path && canonical files path && files.native path

/-- The root counts as writable only with a mutator. -/
def writableRootOf (config : Config) : Option String :=
  if config.filesystemMutatorBin.isSome then config.filesystemRoot else none

def loadRegisteredProcessProvider (rt : Runtime) (files : FileSystem) (config : Config) :
    Option RegisteredProcessProvider :=
  match config.processRegistryFile, config.processExecBin with
  | some registryPath, some helperBin =>
    if !helperAvailable files helperBin then none
    else
      match loadRegisteredProcessRegistry rt files registryPath (writableRootOf config) with
      | .ok registry => some ⟨registry, helperBin⟩
      | .error _ => none
  | _, _ => none

end ProcessRegistry
