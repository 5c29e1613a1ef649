import TaskQueQue.ProcessRegistry

/-!
# What a delegated root can reach

The filesystem mutator writes below a delegated root. The checks at start-up keep
that root away from what the other providers run and read. They compare it with the
repository of the git provider, whose control directory lies inside the repository;
a root inside the control directory passes them.
-/

namespace ProviderIsolation

open GatewayValues UrlValues PosixPaths GatewayConfig ProcessRegistry

/-! ### Containment -/

/-- Up to its first slash, a text of joined parts is its first part. -/
theorem takeWhile_joined {first tail : List Char} (whole : '/' ∉ first)
    (cut : tail = [] ∨ tail.head? = some '/') :
    (first ++ tail).takeWhile (fun c => decide (c ≠ '/')) = first := by
  have all : ∀ c ∈ first, decide (c ≠ '/') = true := by
    intro c mem
    apply decide_eq_true
    rintro rfl
    exact whole mem
  rw [List.takeWhile_append_of_pos all]
  rcases cut with rfl | slash
  · exact List.append_nil first
  · cases tail with
    | nil => cases slash
    | cons c rest =>
      cases slash
      exact List.append_nil first

theorem pathIsSameOrWithin_iff (root candidate : String) :
    pathIsSameOrWithin root candidate = true ↔ segments root <+: segments candidate := by
  unfold pathIsSameOrWithin
  dsimp only
  constructor
  · intro within
    by_contra apart
    obtain ⟨tail, up, cut⟩ := relative_outside apart
    rw [Bool.or_eq_true, Bool.and_eq_true, Bool.and_eq_true, decide_eq_true_eq,
      decide_eq_true_eq] at within
    rcases within with same | ⟨⟨other, notUp⟩, _⟩
    · rw [same] at up
      cases up
    · rcases cut with rfl | slash
      · exact other (String.toList_inj.mp up)
      · obtain ⟨rest, rfl⟩ : ∃ rest, tail = '/' :: rest := by
          cases tail with
          | nil => cases slash
          | cons c rest =>
            cases slash
            exact ⟨rest, rfl⟩
        rw [startsWith, up] at notUp
        cases notUp
  · rintro ⟨rest, down⟩
    rw [relative_inside down.symm]
    cases rest with
    | nil => rfl
    | cons first rest =>
      obtain ⟨tail, joined, cut⟩ := joinParts_cons first rest
      have plain : Plain first := by
        apply segments_plain candidate
        rw [← down]
        exact List.mem_append_right _ List.mem_cons_self
      have start := takeWhile_joined plain.whole cut
      rw [← joined] at start
      generalize joinParts (first :: rest) = text at start
      rw [Bool.or_eq_true, Bool.and_eq_true, Bool.and_eq_true, decide_eq_true_eq,
        decide_eq_true_eq, Bool.not_eq_true', Bool.not_eq_true']
      refine Or.inr ⟨⟨?_, ?_⟩, ?_⟩
      · intro up
        have chars := String.toList_inj.mpr up
        rw [String.toList_ofList] at chars
        rw [chars] at start
        exact plain.dots start.symm
      · by_contra up
        rw [Bool.not_eq_false, startsWith, List.isPrefixOf_iff_prefix] at up
        obtain ⟨more, chars⟩ := up
        rw [← chars.trans String.toList_ofList] at start
        exact plain.dots start.symm
      · by_contra absolute
        rw [Bool.not_eq_false, isAbsolute, String.toList_ofList, decide_eq_true_eq] at absolute
        obtain ⟨more, rfl⟩ := List.head?_eq_some_iff.mp absolute
        exact plain.filled start.symm

/-! ### What was checked -/

theorem requireOutside_ok {root : String} {path : Option String} {name : String} {u : Unit}
    (h : requireOutside root path name = .ok u) :
    ∀ p ∈ path, ¬ segments root <+: segments p := by
  rintro p rfl
  unfold requireOutside at h
  dsimp only at h
  split at h
  · cases h
  · rename_i outside
    rwa [pathIsSameOrWithin_iff] at outside

/-- The configured paths that must lie outside the root, apart from the repository's insides. -/
structure Separate (root : String) (config : Config) : Prop where
  mutator : ∀ p ∈ config.filesystemMutatorBin, ¬ segments root <+: segments p
  repository : ∀ p ∈ config.gitRepository, ¬ segments root <+: segments p
  git : ∀ p ∈ config.gitBin, ¬ segments root <+: segments p
  registry : ∀ p ∈ config.processRegistryFile, ¬ segments root <+: segments p
  exec : ∀ p ∈ config.processExecBin, ¬ segments root <+: segments p

theorem separate_of_loaded {platform : Platform} {env : Environment} {config : Config}
    (h : loadGatewayConfig platform env = .ok config) {root : String}
    (delegated : config.filesystemRoot = some root)
    (mutator : config.filesystemMutatorBin.isSome) : Separate root config := by
  unfold loadGatewayConfig at h
  obtain ⟨_, _, h⟩ := bind_ok h
  obtain ⟨port, _, h⟩ := bind_ok h
  obtain ⟨upstreamTimeoutMs, _, h⟩ := bind_ok h
  obtain ⟨enqueueRatePerSecond, _, h⟩ := bind_ok h
  obtain ⟨enqueueBurst, _, h⟩ := bind_ok h
  obtain ⟨maxActiveTasks, _, h⟩ := bind_ok h
  obtain ⟨_, _, h⟩ := bind_ok h
  obtain ⟨publicOrigin, _, h⟩ := bind_ok h
  obtain ⟨oauthAuthorizationServer, _, h⟩ := bind_ok h
  obtain ⟨_, _, h⟩ := bind_ok h
  obtain ⟨filesystemRoot, _, h⟩ := bind_ok h
  obtain ⟨filesystemMutatorBin, _, h⟩ := bind_ok h
  obtain ⟨gitRepository, _, h⟩ := bind_ok h
  obtain ⟨gitBin, _, h⟩ := bind_ok h
  obtain ⟨processRegistryFile, _, h⟩ := bind_ok h
  obtain ⟨processExecBin, _, h⟩ := bind_ok h
  obtain ⟨_, isolated, h⟩ := bind_ok h
  obtain ⟨queueDaemonOrigin, _, h⟩ := bind_ok h
  obtain ⟨workerBrokerOrigin, _, h⟩ := bind_ok h
  cases h
  dsimp only at delegated mutator
  subst delegated
  obtain ⟨bin, rfl⟩ := Option.isSome_iff_exists.mp mutator
  unfold validateProviderIsolation at isolated
  obtain ⟨_, outside₁, isolated⟩ := bind_ok isolated
  obtain ⟨_, outside₂, isolated⟩ := bind_ok isolated
  obtain ⟨_, outside₃, isolated⟩ := bind_ok isolated
  obtain ⟨_, outside₄, outside₅⟩ := bind_ok isolated
  exact ⟨requireOutside_ok outside₁, requireOutside_ok outside₂, requireOutside_ok outside₃,
    requireOutside_ok outside₄, requireOutside_ok outside₅⟩

/-! ### What the registry was checked for -/

theorem admitCommand_ok {files : FileSystem} {writableRoot : Option String}
    {commands commands' : List RegisteredProcessDescriptor} {item : Json}
    (h : admitCommand files writableRoot commands item = .ok commands') :
    ∃ descriptor, commands' = commands ++ [descriptor] ∧ ∀ root ∈ writableRoot,
      ¬ segments root <+: segments descriptor.binary ∧
        ¬ segments root <+: segments descriptor.cwd := by
  unfold admitCommand at h
  obtain ⟨descriptor, _, h⟩ := bind_ok h
  obtain ⟨_, _, h⟩ := bind_ok h
  obtain ⟨_, binary, h⟩ := bind_ok h
  obtain ⟨_, cwd, h⟩ := bind_ok h
  obtain ⟨_, _, h⟩ := bind_ok h
  obtain ⟨_, _, h⟩ := bind_ok h
  cases h
  refine ⟨descriptor, rfl, ?_⟩
  rintro root rfl
  have outside := refuse_ok binary
  have outside' := refuse_ok cwd
  rw [Option.any_some, ← Bool.not_eq_true, pathIsSameOrWithin_iff] at outside outside'
  exact ⟨outside, outside'⟩

theorem admitCommands_ok {files : FileSystem} {writableRoot : Option String} {items : List Json}
    {commands commands' : List RegisteredProcessDescriptor}
    (h : items.foldlM (admitCommand files writableRoot) commands = .ok commands')
    {root : String} (writable : writableRoot = some root)
    (before : ∀ c ∈ commands, ¬ segments root <+: segments c.binary ∧
      ¬ segments root <+: segments c.cwd) :
    ∀ c ∈ commands', ¬ segments root <+: segments c.binary ∧
      ¬ segments root <+: segments c.cwd := by
  induction items generalizing commands with
  | nil =>
    cases h
    exact before
  | cons item rest ih =>
    rw [List.foldlM_cons] at h
    obtain ⟨next, admitted, later⟩ := bind_ok h
    obtain ⟨descriptor, rfl, outside⟩ := admitCommand_ok admitted
    apply ih later
    intro c mem
    rcases List.mem_append.mp mem with mem | mem
    · exact before c mem
    · rw [List.mem_singleton.mp mem]
      exact outside root writable

theorem segments_validateAbsolutePath {text name path : String}
    (h : validateAbsolutePath (some (.str text)) name = .ok path) :
    segments path = segments text := by
  unfold validateAbsolutePath at h
  dsimp only at h
  split at h
  · cases h
  split at h
  · cases h
  split at h
  · cases h
  · cases h
    exact segments_normalize text

theorem commands_of_loaded {rt : Runtime} {files : FileSystem} {registryPath root : String}
    {registry : RegisteredProcessRegistry}
    (h : loadRegisteredProcessRegistry rt files registryPath (some root) = .ok registry) :
    ∀ c ∈ registry.commands, ¬ segments root <+: segments c.binary ∧
      ¬ segments root <+: segments c.cwd := by
  unfold loadRegisteredProcessRegistry at h
  obtain ⟨path, _, h⟩ := bind_ok h
  obtain ⟨writableRoot, valid, h⟩ := bind_ok h
  obtain ⟨_, _, h⟩ := bind_ok h
  obtain ⟨raw, _, h⟩ := bind_ok h
  obtain ⟨_, _, h⟩ := bind_ok h
  obtain ⟨_, _, h⟩ := bind_ok h
  obtain ⟨parsed, _, h⟩ := bind_ok h
  obtain ⟨items, _, h⟩ := bind_ok h
  obtain ⟨commands, admitted, h⟩ := bind_ok h
  cases h
  unfold writableRootPath at valid
  dsimp only at valid
  cases normal : validateAbsolutePath (some (.str root)) "writable filesystem root" with
  | error message =>
    rw [normal] at valid
    cases valid
  | ok root' =>
    rw [normal] at valid
    cases valid
    rw [← segments_validateAbsolutePath normal]
    exact admitCommands_ok admitted rfl fun c mem => absurd mem List.not_mem_nil

/-! ### Isolation -/

/-- What the mutator can write: the delegated root and all below it. -/
def Writable (root path : String) : Prop := segments root <+: segments path

def controlDirectory (repository : String) : String := join repository ".git"

/-- Two paths that name the same file. -/
def SameFile (path path' : String) : Prop := segments path = segments path'

/-- What the providers run and read: their binaries, the registry and the commands it
registers, and the insides of the repository. -/
inductive Protected (config : Config) (provider : Option RegisteredProcessProvider)
    (path : String) : Prop
  | mutator (p : String) (configured : config.filesystemMutatorBin = some p)
      (same : SameFile p path)
  | git (p : String) (configured : config.gitBin = some p) (same : SameFile p path)
  | registry (p : String) (configured : config.processRegistryFile = some p)
      (same : SameFile p path)
  | exec (p : String) (configured : config.processExecBin = some p) (same : SameFile p path)
  | command (r : RegisteredProcessProvider) (loaded : provider = some r)
      (c : RegisteredProcessDescriptor) (registered : c ∈ r.registry.commands)
      (same : SameFile c.binary path ∨ SameFile c.cwd path)
  | control (p : String) (configured : config.gitRepository = some p)
      (inside : segments (controlDirectory p) <+: segments path)

def Isolated (root : String) (config : Config) (provider : Option RegisteredProcessProvider) :
    Prop :=
  ∀ path, Writable root path → ¬ Protected config provider path

theorem segments_controlDirectory (repository : String) :
    segments (controlDirectory repository) = segments repository ++ [['.', 'g', 'i', 't']] :=
  segments_join ⟨by decide, by decide, by decide, by decide⟩

/-- A root that reaches into the control directory, but not to the repository, lies in it. -/
theorem inside_control {root repository path : String}
    (apart : ¬ segments root <+: segments repository) (writable : Writable root path)
    (inside : segments (controlDirectory repository) <+: segments path) :
    segments (controlDirectory repository) <+: segments root := by
  rcases List.prefix_or_prefix_of_prefix inside writable with below | above
  · exact below
  · rw [segments_controlDirectory] at above ⊢
    rcases List.prefix_concat_iff.mp above with same | above
    · exact ⟨[], by rw [List.append_nil, same]⟩
    · exact absurd above apart

theorem commands_outside {rt : Runtime} {files : FileSystem} {config : Config} {root : String}
    (delegated : config.filesystemRoot = some root) (mutator : config.filesystemMutatorBin.isSome)
    {provider : RegisteredProcessProvider}
    (loaded : loadRegisteredProcessProvider rt files config = some provider) :
    ∀ c ∈ provider.registry.commands, ¬ segments root <+: segments c.binary ∧
      ¬ segments root <+: segments c.cwd := by
  unfold loadRegisteredProcessProvider at loaded
  rw [writableRootOf, if_pos mutator, delegated] at loaded
  split at loaded
  · split at loaded
    · cases loaded
    split at loaded
    · rename_i registry accepted
      cases loaded
      exact commands_of_loaded accepted
    · cases loaded
  · cases loaded

/-- The files of a host by what their paths name, after some writes. -/
def writeAll (contents : List Part → Option String) (writes : List (String × String)) :
    List Part → Option String :=
  writes.foldl (fun contents write => fun path =>
    if path = segments write.1 then some write.2 else contents path) contents

theorem writeAll_other (contents : List Part → Option String) (writes : List (String × String))
    (path : List Part) (others : ∀ write ∈ writes, path ≠ segments write.1) :
    writeAll contents writes path = contents path := by
  induction writes generalizing contents with
  | nil => rfl
  | cons write rest ih =>
    obtain ⟨first, later⟩ := List.forall_mem_cons.mp others
    unfold writeAll at ih ⊢
    rw [List.foldl_cons, ih _ later]
    exact if_neg first

/-- On a configuration that was accepted, with whatever registry is, the delegated root is
isolated exactly if it does not lie in the control directory of the repository. Delegated
writes then change nothing the providers run or read. -/
theorem isolated_iff (platform : Platform) (env : Environment) (rt : Runtime)
    (files : FileSystem) (config : Config)
    (accepted : loadGatewayConfig platform env = .ok config) (root : String)
    (delegated : config.filesystemRoot = some root)
    (mutator : config.filesystemMutatorBin.isSome) :
    (Isolated root config (loadRegisteredProcessProvider rt files config) ↔
      ∀ repository, config.gitRepository = some repository →
        ¬ segments (controlDirectory repository) <+: segments root) ∧
    (Isolated root config (loadRegisteredProcessProvider rt files config) →
      ∀ writes : List (String × String), (∀ write ∈ writes, Writable root write.1) →
        ∀ contents path, Protected config (loadRegisteredProcessProvider rt files config) path →
          writeAll contents writes (segments path) = contents (segments path)) := by
  have apart := separate_of_loaded accepted delegated mutator
  refine ⟨⟨?_, ?_⟩, ?_⟩
  · intro isolated repository configured inside
    exact isolated root (List.prefix_refl _) (.control repository configured inside)
  · intro outside path writable kept
    cases kept with
    | mutator p configured same => exact apart.mutator p configured (same ▸ writable)
    | git p configured same => exact apart.git p configured (same ▸ writable)
    | registry p configured same => exact apart.registry p configured (same ▸ writable)
    | exec p configured same => exact apart.exec p configured (same ▸ writable)
    | command r loaded c registered same =>
      have beyond := commands_outside delegated mutator loaded c registered
      rcases same with same | same
      · exact beyond.1 (same ▸ writable)
      · exact beyond.2 (same ▸ writable)
    | control p configured inside =>
      exact outside p configured (inside_control (apart.repository p configured) writable inside)
  · intro isolated writes delegatedWrites contents path kept
    apply writeAll_other
    intro write mem same
    have writable : Writable root path := by
      unfold Writable
      rw [same]
      exact delegatedWrites write mem
    exact isolated path writable kept

/-! ### A root among the hooks -/

/-- The platform knows the two default origins. -/
def samplePlatform : Platform where
  url text :=
    if text = DEFAULT_QUEUE_DAEMON ∨ text = DEFAULT_WORKER_BROKER then
      some { protocol := "http:", hostname := "127.0.0.1", pathname := "/", origin := text }
    else none
  number _ := none

def providers (root : String) : Environment := fun name =>
  [("GATEWAY_API_TOKEN", "token"), ("GATEWAY_FILESYSTEM_ROOT", root),
    ("GATEWAY_FILESYSTEM_MUTATOR_BIN", "/opt/mutator"),
    ("GATEWAY_GIT_REPOSITORY", "/srv/repo"), ("GATEWAY_GIT_BIN", "/usr/bin/git")].lookup name

def noFiles : FileSystem where
  isFile _ := false
  isDirectory _ := false
  executable _ := false
  native _ := false
  size _ := 0
  content _ := none
  realpath _ := none

def configured (root : String) : Config where
  hostname := "127.0.0.1"
  port := 3000
  queueDaemonOrigin := DEFAULT_QUEUE_DAEMON
  workerBrokerOrigin := DEFAULT_WORKER_BROKER
  filesystemRoot := some root
  filesystemMutatorBin := some "/opt/mutator"
  gitRepository := some "/srv/repo"
  gitBin := some "/usr/bin/git"
  processRegistryFile := none
  processExecBin := none
  publicOrigin := none
  oauthAuthorizationServer := none
  apiToken := some "token"
  allowUnauthenticated := false
  upstreamTimeoutMs := 3000
  enqueueRatePerSecond := 10
  enqueueBurst := 20
  maxActiveTasks := 256

theorem accepts_sources : loadGatewayConfig samplePlatform (providers "/srv/repo/src") =
    .ok (configured "/srv/repo/src") := by
  decide +kernel

theorem accepts_hooks : loadGatewayConfig samplePlatform (providers "/srv/repo/.git/hooks") =
    .ok (configured "/srv/repo/.git/hooks") := by
  decide +kernel

/-- A root among the sources of the repository is isolated. -/
theorem isolated_iff_sources :
    Isolated "/srv/repo/src" (configured "/srv/repo/src")
      (loadRegisteredProcessProvider (Runtime.reading []) noFiles (configured "/srv/repo/src")) := by
  refine (isolated_iff samplePlatform (providers "/srv/repo/src") (Runtime.reading []) noFiles
    (configured "/srv/repo/src") accepts_sources "/srv/repo/src" rfl rfl).1.mpr ?_
  rintro repository ⟨⟩
  decide +kernel

/-- A root among the hooks is accepted, and every hook can be written. -/
theorem hooks_delegated :
    loadGatewayConfig samplePlatform (providers "/srv/repo/.git/hooks") =
        .ok (configured "/srv/repo/.git/hooks") ∧
      ¬ Isolated "/srv/repo/.git/hooks" (configured "/srv/repo/.git/hooks")
        (loadRegisteredProcessProvider (Runtime.reading []) noFiles
          (configured "/srv/repo/.git/hooks")) := by
  refine ⟨accepts_hooks, fun isolated => ?_⟩
  have writable : Writable "/srv/repo/.git/hooks" "/srv/repo/.git/hooks/pre-commit" := by
    unfold Writable
    decide +kernel
  have inside : segments (controlDirectory "/srv/repo") <+:
      segments "/srv/repo/.git/hooks/pre-commit" := by
    decide +kernel
  exact isolated _ writable (.control "/srv/repo" rfl inside)

end ProviderIsolation
