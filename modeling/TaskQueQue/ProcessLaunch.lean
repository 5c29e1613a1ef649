import TaskQueQue.ProcessRegistry
import TaskQueQue.StrictPaths

/-!
# Launching registered processes

The launcher judges the executable's path, the working directory and the arguments once
more, in bytes and by rules of its own. What the registry admitted passes them unless a
path holds a backslash, which only the launcher refuses.
-/

namespace ProcessLaunch

open GatewayValues PosixPaths StrictPaths ProcessRegistry
open CapabilityAuth (encode)
open GatewayConfig (bind_ok refuse_ok)
open UrlValues (guard_ok)

inductive ProcessExecError
  | invalidPath
  | invalidExecutable
  | invalidArgument
  | io (message : String)
deriving DecidableEq

def strictAbsoluteComponents (path : List UInt8) : Except ProcessExecError (List CString) :=
  match toStr path with
  | none => .error .invalidPath
  | some raw =>
    if malformed raw || decide (raw = "/") || !isAbsolute raw then .error .invalidPath
    else
      match exactComponents (raw.toList.drop 1) with
      | some output => .ok output
      | none => .error .invalidPath

def cArgument (argument : String) : Option CString :=
  if (encode argument).contains 0 || decide (MAX_ARGUMENT_BYTES < argument.utf8ByteSize) then none
  else CString.new (encode argument)

/-- The binary's path comes before the arguments. -/
def cArguments (binary : List UInt8) (arguments : List String) :
    Except ProcessExecError (List CString) :=
  if MAX_ARGUMENTS < arguments.length then .error .invalidArgument
  else
    match (toStr binary).bind fun text => CString.new (encode text), arguments.mapM cArgument with
    | some first, some values => .ok (first :: values)
    | _, _ => .error .invalidArgument

/-- No check of the launcher refuses the descriptor for its syntax. -/
structure Launchable (descriptor : RegisteredProcessDescriptor) : Prop where
  binary : ∃ components, strictAbsoluteComponents (encode descriptor.binary) = .ok components
  cwd : ∃ components, strictAbsoluteComponents (encode descriptor.cwd) = .ok components
  args : ∃ values, cArguments (encode descriptor.binary) descriptor.args = .ok values

/-- What the kernel promises: a path that is looked up has, with the NUL behind it, at most
4096 bytes, and a resolved path has no slash at its end, the root's apart. -/
structure Posix (files : FileSystem) : Prop where
  bounded : ∀ path, files.isFile path = true ∨ files.isDirectory path = true →
    path.utf8ByteSize < 4096
  resolved : ∀ path real, files.realpath path = some real → real.toList.getLast? = some '/' →
    real = "/"

/-! ### Admitted paths -/

theorem mem_foldl_push (parts stack : List Part) :
    ∀ part ∈ parts.foldl push stack, part ∈ stack ∨ part ∈ parts := by
  induction parts generalizing stack with
  | nil => exact fun part mem => Or.inl mem
  | cons first rest ih =>
    intro part mem
    rcases ih _ part mem with inside | later
    · unfold push at inside
      split at inside
      · exact Or.inl inside
      split at inside
      · exact Or.inl (stack.dropLast_sublist.subset inside)
      · rcases List.mem_append.mp inside with before | own
        · exact Or.inl before
        · rw [List.mem_singleton.mp own]
          exact Or.inr List.mem_cons_self
    · exact Or.inr (List.mem_cons_of_mem _ later)

theorem mem_of_mem_segments {path : String} {part : Part} (mem : part ∈ segments path) :
    ∀ c ∈ part, c ∈ path.toList := by
  rcases mem_foldl_push _ _ part mem with inside | inside
  · exact absurd inside List.not_mem_nil
  · rw [split, List.splitOn_eq_splitOnP] at inside
    exact mem_of_mem_splitOnP _ part inside

/-- The parts of a path a registry may hold. -/
structure Named (path : String) (parts : List Part) : Prop where
  shape : path.toList = '/' :: joinParts parts
  present : parts ≠ []
  below : path ≠ "/"
  exact : ∀ part ∈ parts, Exact part
  bounded : path.utf8ByteSize < 4096

theorem validateAbsolutePath_ok {value : Option Json} {name path : String}
    (accepted : validateAbsolutePath value name = .ok path) :
    path ≠ "/" ∧ ∀ part ∈ segments path, Exact part := by
  unfold validateAbsolutePath at accepted
  split at accepted
  · rename_i text
    obtain ⟨_, accepted⟩ := guard_ok accepted
    obtain ⟨plain, accepted⟩ := guard_ok accepted
    obtain ⟨below, accepted⟩ := guard_ok accepted
    cases accepted
    rw [Bool.or_eq_true, not_or, List.contains_iff_mem] at plain
    refine ⟨below, fun part mem => ?_⟩
    rw [segments_normalize] at mem
    exact ⟨segments_plain _ part mem, fun nul => plain.1 (mem_of_mem_segments mem _ nul)⟩
  · exact nomatch accepted

/-- A path that is its own resolution is written as its parts are. -/
theorem named_of_canonical {files : FileSystem} (posix : Posix files) {path : String}
    (below : path ≠ "/") (exact' : ∀ part ∈ segments path, Exact part)
    (found : files.isFile path = true ∨ files.isDirectory path = true)
    (own : canonical files path = true) : Named path (segments path) := by
  obtain ⟨real, resolved, same⟩ := Option.map_eq_some_iff.mp (of_decide_eq_true own)
  have parts : segments path = segments real := by rw [← same, segments_normalize]
  have present : segments real ≠ [] := by
    intro top
    rw [PosixPaths.normalize, if_pos top] at same
    exact below same.symm
  have open' : ¬ real.toList.getLast? = some '/' := by
    intro slash
    rw [posix.resolved path real resolved slash] at present
    exact present (by decide)
  rw [PosixPaths.normalize, if_neg present, if_neg open', List.append_nil] at same
  refine ⟨?_, parts ▸ present, below, exact', posix.bounded path found⟩
  rw [parts, ← same, String.toList_ofList]

theorem Named.clear {path : String} {parts : List Part} (named : Named path parts) :
    Char.ofNat 0 ∉ path.toList := by
  rw [named.shape, List.mem_cons, not_or]
  refine ⟨by decide, ?_⟩
  have exact' := named.exact
  generalize parts = items at exact'
  unfold joinParts
  induction items with
  | nil => exact List.not_mem_nil
  | cons part rest ih =>
    obtain ⟨first, later⟩ := List.forall_mem_cons.mp exact'
    cases rest with
    | nil =>
      rw [List.intercalate_singleton]
      exact first.clear
    | cons next rest =>
      rw [List.intercalate_cons_cons, List.mem_append, List.mem_append, List.mem_singleton]
      rintro ((mem | same) | mem)
      · exact first.clear mem
      · exact absurd same (by decide)
      · exact ih later mem

theorem encode_clear {text : String} (clear : Char.ofNat 0 ∉ text.toList) : 0 ∉ encode text := by
  have bytes := mem_encode (show (0 : UInt8) < 128 by decide) text.toList
  rw [String.ofList_toList] at bytes
  exact fun mem => clear (bytes.mp mem)

/-- Such a path is taken apart by the launcher exactly if it has no backslash. -/
theorem strictAbsoluteComponents_iff {path : String} {parts : List Part}
    (named : Named path parts) :
    (∃ components, strictAbsoluteComponents (encode path) = .ok components) ↔
      '\\' ∉ path.toList := by
  have plain : ∀ part ∈ parts, Plain part := fun part mem => (named.exact part mem).toPlain
  have text : toStr (encode path) = some path := RequestRendering.fromUTF8?_encode path
  have segments : (path.toList.drop 1).splitOn '/' = parts := by
    rw [named.shape]
    exact split_join parts plain named.present
  have exact' : ∀ segment ∈ (path.toList.drop 1).splitOn '/', Exact segment := by
    rw [segments]
    exact named.exact
  obtain ⟨output, made⟩ := exists_exactComponents exact'
  have absolute : isAbsolute path = true := by
    rw [isAbsolute, named.shape]
    rfl
  have filled : path ≠ "" := by
    rintro rfl
    exact absurd named.shape.symm (List.cons_ne_nil _ _)
  have small : ¬ StrictPaths.MAX_PATH_BYTES < path.utf8ByteSize :=
    Nat.not_lt.mpr (Nat.le_of_lt named.bounded)
  have nul : (encode path).contains 0 = false := by
    rw [← Bool.not_eq_true, List.contains_iff_mem]
    exact encode_clear named.clear
  have looked : malformed path = path.toList.contains '\\' := by
    rw [malformed, decide_eq_false filled, decide_eq_false small, nul, Bool.or_false,
      Bool.false_or, Bool.false_or]
  unfold strictAbsoluteComponents
  rw [text]
  dsimp only
  rw [made, looked, absolute, decide_eq_false named.below, Bool.or_false, Bool.not_true,
    Bool.or_false]
  constructor
  · rintro ⟨components, accepted⟩ mem
    exact (guard_ok accepted).1 (List.contains_iff_mem.mpr mem)
  · intro forward
    rw [if_neg fun back => forward (List.contains_iff_mem.mp back)]
    exact ⟨output, rfl⟩

/-! ### Admitted descriptors -/

theorem required_ok {α : Type} {value : Option α} {message : String} {a : α}
    (h : required value message = .ok a) : value = some a := by
  cases value with
  | none => exact nomatch h
  | some found =>
    cases h
    rfl

theorem cArgument_parseArgument {value : Json} {argument : String}
    (parsed : parseArgument value = some argument) :
    ∃ bytes, cArgument argument = some bytes := by
  unfold parseArgument at parsed
  split at parsed
  · rename_i text
    split at parsed
    · exact nomatch parsed
    rename_i sound
    cases parsed
    rw [Bool.or_eq_true, not_or, List.contains_iff_mem] at sound
    have clear := encode_clear sound.1
    refine ⟨⟨encode argument, clear⟩, ?_⟩
    rw [cArgument, if_neg, CString.new, dif_pos clear]
    rw [Bool.or_eq_true, not_or, List.contains_iff_mem]
    exact ⟨clear, sound.2⟩
  · exact nomatch parsed

theorem mapM_cArgument {values : List Json} {args : List String}
    (parsed : values.mapM parseArgument = some args) :
    args.length = values.length ∧ ∃ bytes, args.mapM cArgument = some bytes := by
  induction values generalizing args with
  | nil =>
    cases parsed
    exact ⟨rfl, [], rfl⟩
  | cons value rest ih =>
    rw [List.mapM_cons] at parsed
    obtain ⟨argument, first, parsed⟩ := Option.bind_eq_some_iff.mp parsed
    obtain ⟨others, later, parsed⟩ := Option.bind_eq_some_iff.mp parsed
    cases parsed
    obtain ⟨bytes, own⟩ := cArgument_parseArgument first
    obtain ⟨length, rest', all⟩ := ih later
    refine ⟨congrArg (· + 1) length, bytes :: rest', ?_⟩
    rw [List.mapM_cons, own, all]
    rfl

/-- What is left to look up once a descriptor's text is in order. -/
structure Parsed (descriptor : RegisteredProcessDescriptor) : Prop where
  binary : descriptor.binary ≠ "/" ∧ ∀ part ∈ segments descriptor.binary, Exact part
  cwd : descriptor.cwd ≠ "/" ∧ ∀ part ∈ segments descriptor.cwd, Exact part
  count : descriptor.args.length ≤ MAX_ARGUMENTS
  args : ∃ bytes, descriptor.args.mapM cArgument = some bytes

theorem parseDescriptor_ok {value : Json} {descriptor : RegisteredProcessDescriptor}
    (parsed : parseDescriptor value = .ok descriptor) : Parsed descriptor := by
  unfold parseDescriptor at parsed
  obtain ⟨_, _, parsed⟩ := bind_ok parsed
  obtain ⟨_, _, parsed⟩ := bind_ok parsed
  obtain ⟨items, bounded, parsed⟩ := bind_ok parsed
  obtain ⟨args, read, parsed⟩ := bind_ok parsed
  obtain ⟨_, _, parsed⟩ := bind_ok parsed
  obtain ⟨_, _, parsed⟩ := bind_ok parsed
  obtain ⟨_, _, parsed⟩ := bind_ok parsed
  obtain ⟨binary, first, parsed⟩ := bind_ok parsed
  obtain ⟨cwd, second, parsed⟩ := bind_ok parsed
  cases parsed
  have few := of_decide_eq_true (Option.filter_eq_some_iff.mp (required_ok bounded)).2
  obtain ⟨length, bytes⟩ := mapM_cArgument (required_ok read)
  exact ⟨validateAbsolutePath_ok first, validateAbsolutePath_ok second, length ▸ few, bytes⟩

/-- A descriptor of a loaded registry. -/
structure Admitted (files : FileSystem) (descriptor : RegisteredProcessDescriptor) : Prop
    extends Parsed descriptor where
  file : files.isFile descriptor.binary = true ∧ canonical files descriptor.binary = true
  directory : files.isDirectory descriptor.cwd = true ∧ canonical files descriptor.cwd = true

theorem validateCanonicalNativeExecutable_ok {files : FileSystem} {path label : String}
    (h : validateCanonicalNativeExecutable files path label = .ok ()) :
    files.isFile path = true ∧ canonical files path = true := by
  unfold validateCanonicalNativeExecutable at h
  obtain ⟨file, h⟩ := guard_ok h
  obtain ⟨_, h⟩ := guard_ok h
  obtain ⟨own, _⟩ := guard_ok h
  rw [Bool.not_eq_true, Bool.not_eq_false'] at file own
  exact ⟨file, own⟩

theorem validateCanonicalDirectory_ok {files : FileSystem} {path : String}
    (h : validateCanonicalDirectory files path = .ok ()) :
    files.isDirectory path = true ∧ canonical files path = true := by
  unfold validateCanonicalDirectory at h
  obtain ⟨directory, h⟩ := guard_ok h
  obtain ⟨own, _⟩ := guard_ok h
  rw [Bool.not_eq_true, Bool.not_eq_false'] at directory own
  exact ⟨directory, own⟩

theorem admitCommand_ok {files : FileSystem} {writableRoot : Option String}
    {commands later : List RegisteredProcessDescriptor} {item : Json}
    (admitted : admitCommand files writableRoot commands item = .ok later)
    (all : ∀ descriptor ∈ commands, Admitted files descriptor) :
    ∀ descriptor ∈ later, Admitted files descriptor := by
  unfold admitCommand at admitted
  obtain ⟨own, parsed, admitted⟩ := bind_ok admitted
  obtain ⟨_, _, admitted⟩ := bind_ok admitted
  obtain ⟨_, _, admitted⟩ := bind_ok admitted
  obtain ⟨_, _, admitted⟩ := bind_ok admitted
  obtain ⟨_, file, admitted⟩ := bind_ok admitted
  obtain ⟨_, directory, admitted⟩ := bind_ok admitted
  cases admitted
  rw [List.forall_mem_append, List.forall_mem_singleton]
  exact ⟨all, parseDescriptor_ok parsed, validateCanonicalNativeExecutable_ok file,
    validateCanonicalDirectory_ok directory⟩

theorem foldlM_admitCommand {files : FileSystem} {writableRoot : Option String}
    {items : List Json} {commands later : List RegisteredProcessDescriptor}
    (folded : items.foldlM (admitCommand files writableRoot) commands = .ok later)
    (all : ∀ descriptor ∈ commands, Admitted files descriptor) :
    ∀ descriptor ∈ later, Admitted files descriptor := by
  induction items generalizing commands with
  | nil =>
    cases folded
    exact all
  | cons item rest ih =>
    rw [List.foldlM_cons] at folded
    obtain ⟨next, admitted, folded⟩ := bind_ok folded
    exact ih folded (admitCommand_ok admitted all)

theorem loadRegisteredProcessRegistry_ok {rt : Runtime} {files : FileSystem} {path : String}
    {writableRoot : Option String} {registry : RegisteredProcessRegistry}
    (loaded : loadRegisteredProcessRegistry rt files path writableRoot = .ok registry) :
    ∀ descriptor ∈ registry.commands, Admitted files descriptor := by
  unfold loadRegisteredProcessRegistry at loaded
  obtain ⟨_, _, loaded⟩ := bind_ok loaded
  obtain ⟨_, _, loaded⟩ := bind_ok loaded
  obtain ⟨_, _, loaded⟩ := bind_ok loaded
  obtain ⟨_, _, loaded⟩ := bind_ok loaded
  obtain ⟨_, _, loaded⟩ := bind_ok loaded
  obtain ⟨_, _, loaded⟩ := bind_ok loaded
  obtain ⟨_, _, loaded⟩ := bind_ok loaded
  obtain ⟨_, _, loaded⟩ := bind_ok loaded
  obtain ⟨commands, folded, loaded⟩ := bind_ok loaded
  cases loaded
  exact foldlM_admitCommand folded fun _ mem => absurd mem List.not_mem_nil

/-- A registered process can be launched exactly if neither of its paths has a backslash. -/
theorem registered_launchable_iff {rt : Runtime} {files : FileSystem} {path : String}
    {writableRoot : Option String} {registry : RegisteredProcessRegistry} (posix : Posix files)
    (loaded : loadRegisteredProcessRegistry rt files path writableRoot = .ok registry) :
    ∀ descriptor ∈ registry.commands, Launchable descriptor ↔
      '\\' ∉ descriptor.binary.toList ∧ '\\' ∉ descriptor.cwd.toList := by
  intro descriptor mem
  have admitted := loadRegisteredProcessRegistry_ok loaded descriptor mem
  have binary := named_of_canonical posix admitted.binary.1 admitted.binary.2
    (Or.inl admitted.file.1) admitted.file.2
  have cwd := named_of_canonical posix admitted.cwd.1 admitted.cwd.2
    (Or.inr admitted.directory.1) admitted.directory.2
  obtain ⟨values, mapped⟩ := admitted.args
  have args : ∃ values, cArguments (encode descriptor.binary) descriptor.args = .ok values := by
    have clear := encode_clear binary.clear
    refine ⟨⟨encode descriptor.binary, clear⟩ :: values, ?_⟩
    rw [cArguments, if_neg (Nat.not_lt.mpr admitted.count), mapped, toStr,
      RequestRendering.fromUTF8?_encode, Option.bind_some, CString.new, dif_pos clear]
  rw [← strictAbsoluteComponents_iff binary, ← strictAbsoluteComponents_iff cwd]
  exact ⟨fun launchable => ⟨launchable.binary, launchable.cwd⟩, fun h => ⟨h.1, h.2, args⟩⟩

section Sample

def sampleDescriptor (binary : String) : Json :=
  .obj [("name", .str "build"), ("binary", .str binary), ("args", .arr [.str "--check"]),
    ("cwd", .str "/srv"), ("timeout_ms", .num 1000), ("max_output_bytes", .num 4096),
    ("authority", .str "invoke"), ("required_scope", .str "process.command.build"),
    ("mutates_state", .bool false)]

def sampleRuntime (binary : String) : Runtime where
  parse _ := some (.obj [("version", .num 2), ("commands", .arr [sampleDescriptor binary])])
  stringify _ := ""
  rowid _ := none

def sampleFiles (binary : String) : FileSystem where
  isFile path := decide (path = "/etc/registry.json" ∨ path = binary)
  isDirectory path := decide (path = "/srv")
  executable _ := true
  native _ := true
  size _ := 400
  content _ := some ""
  realpath path := if path ∈ ["/etc/registry.json", "/srv", binary] then some path else none

/-- Whether the sample's registry is loaded, with the binary in question. -/
def sampleLoads (binary : String) : Bool :=
  match loadRegisteredProcessRegistry (sampleRuntime binary) (sampleFiles binary)
    "/etc/registry.json" none with
  | .ok registry => decide (registry.commands.map (·.binary) = [binary])
  | .error _ => false

theorem sampleFiles_posix {binary : String} (small : binary.utf8ByteSize < 4096)
    (last : binary.toList.getLast? ≠ some '/') : Posix (sampleFiles binary) := by
  constructor
  · rintro path (file | directory)
    · rcases of_decide_eq_true file with rfl | rfl
      · decide
      · exact small
    · rw [of_decide_eq_true directory]
      decide
  · intro path real resolved slash
    dsimp only [sampleFiles] at resolved
    split at resolved
    · rename_i known
      cases resolved
      simp only [List.mem_cons, List.not_mem_nil, or_false] at known
      rcases known with rfl | rfl | rfl
      · exact absurd slash (by decide)
      · exact absurd slash (by decide)
      · exact absurd slash last
    · exact nomatch resolved

theorem sampleLoads_loaded (binary : String) (loads : sampleLoads binary = true) :
    ∃ registry, loadRegisteredProcessRegistry (sampleRuntime binary) (sampleFiles binary)
      "/etc/registry.json" none = .ok registry ∧
      ∃ descriptor ∈ registry.commands, descriptor.binary = binary := by
  unfold sampleLoads at loads
  split at loads
  · rename_i registry loaded
    refine ⟨registry, loaded, ?_⟩
    have mem : binary ∈ registry.commands.map (·.binary) := by
      rw [of_decide_eq_true loads]
      exact List.mem_singleton_self binary
    exact List.mem_map.mp mem
  · exact nomatch loads

theorem registered_launchable_iff_build : ∃ registry,
    loadRegisteredProcessRegistry (sampleRuntime "/opt/build") (sampleFiles "/opt/build")
      "/etc/registry.json" none = .ok registry ∧
    ∀ descriptor ∈ registry.commands, Launchable descriptor ↔
      '\\' ∉ descriptor.binary.toList ∧ '\\' ∉ descriptor.cwd.toList := by
  obtain ⟨registry, loaded, _⟩ := sampleLoads_loaded "/opt/build" (by decide +kernel)
  exact ⟨registry, loaded,
    registered_launchable_iff (sampleFiles_posix (by decide) (by decide)) loaded⟩

/-- A registry is loaded whose only command is refused whenever it is run. -/
theorem backslash_refused : Posix (sampleFiles "/opt/a\\b") ∧ ∃ registry,
    loadRegisteredProcessRegistry (sampleRuntime "/opt/a\\b") (sampleFiles "/opt/a\\b")
      "/etc/registry.json" none = .ok registry ∧
    ∃ descriptor ∈ registry.commands,
      strictAbsoluteComponents (encode descriptor.binary) = .error .invalidPath := by
  obtain ⟨registry, loaded, descriptor, mem, same⟩ :=
    sampleLoads_loaded "/opt/a\\b" (by decide +kernel)
  refine ⟨sampleFiles_posix (by decide) (by decide), registry, loaded, descriptor, mem, ?_⟩
  rw [same, strictAbsoluteComponents, toStr, RequestRendering.fromUTF8?_encode]
  exact if_pos (by decide)

end Sample

end ProcessLaunch
