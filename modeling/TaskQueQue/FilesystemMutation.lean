import TaskQueQue.FaultyDirectories
import TaskQueQue.GatewayConfig
import TaskQueQue.JsonStrings
import TaskQueQue.PathValidators

/-!
# Mutations relative to a root

The helper walks from the root to the parent of the target, one open directory at a time,
and changes nothing on the way. A write goes to a temporary file beside the target and is
renamed over it; only what happens before the rename can fail without an effect.

The model keeps the entries of the parent directory. What every call of a run meets is
given beforehand, and so are the names that are drawn.
-/

namespace FilesystemMutation

open FaultyDirectories StrictPaths PathValidators
open CapabilityAuth (encode)
open JsonStrings (hexChar)

def MAX_WRITE_BYTES : Nat := 1024 * 1024

/-- Device and inode. -/
abbrev Identity := Nat × Nat

/-- What the calls of one run meet. An identity is `none` where it cannot be read or is not
that of a directory. -/
structure Kernel where
  snapshot : Option Identity
  hostRoot : Fault
  rootStep : Nat → Fault
  opened : Option Identity
  again : Option Identity
  step : Nat → Fault
  parent : Except IoError (Option Identity)
  reopen : Fault
  readable : Except IoError (Option Identity)
  pid : Nat
  umask : Nat
  draw : Nat → UInt64
  create : Nat → Fault
  write : Option (Nat × IoError)
  sync : Fault
  rename : Fault
  unlink : Fault
  makeDirectory : Fault
  syncParent : Fault

/-- The mode of a new entry. -/
def Kernel.mode (k : Kernel) (requested : Nat) : Nat := requested - (requested &&& k.umask)

/-! ### The way to the parent -/

def require (met : Bool) (error : MutationError) : Except MutationError Unit :=
  if met then .ok () else .error error

def call : Fault → Except MutationError Unit
  | some error => .error (.io error)
  | none => .ok ()

/-- One directory after another, from the given step on. -/
def walk (faults : Nat → Fault) : Nat → List CString → Except MutationError Unit
  | _, [] => .ok ()
  | n, _ :: rest => do
    call (faults n)
    walk faults (n + 1) rest

def openRoot (k : Kernel) (root : List UInt8) : Except MutationError Unit := do
  require (decide (root.head? = some 0x2f ∧ root ≠ [0x2f])) .invalidRoot
  require k.snapshot.isSome .invalidRoot
  let components ← strictComponents root true
  call k.hostRoot
  walk k.rootStep 0 components
  require (decide (k.opened = k.snapshot)) .invalidRoot
  require (decide (k.again = k.snapshot)) .invalidRoot

def openReadableParent (k : Kernel) : Except MutationError Unit := do
  let expected ← k.parent.mapError .io
  require expected.isSome (.io ⟨.invalidData, "validated parent fd is not a directory"⟩)
  call k.reopen
  let actual ← k.readable.mapError .io
  require (decide (actual = expected)) (.io ⟨.invalidData, "readable parent fd identity mismatch"⟩)

/-- The name of the target in its parent. -/
def openParent (k : Kernel) (root path : List UInt8) : Except MutationError CString := do
  require (decide (path.head? ≠ some 0x2f)) .invalidPath
  let components ← strictComponents path false
  match components.getLast? with
  | none => .error .invalidPath
  | some leaf => do
    openRoot k root
    walk k.step 0 components.dropLast
    openReadableParent k
    return leaf

/-! ### Temporary names -/

/-- A number of 64 bits in hexadecimal, with leading zeros. -/
def hex16 (draw : UInt64) : List Char :=
  (List.range 16).map fun i => hexChar (draw.toNat / 16 ^ (15 - i) % 16)

def tempText (pid : Nat) (draw : UInt64) : List Char :=
  ".tqq-write-".toList ++ Nat.toDigits 10 pid ++ '-' :: hex16 draw

theorem hexChar_ne_nul : ∀ n < 16, hexChar n ≠ Char.ofNat 0 := by decide

theorem tempText_clear (pid : Nat) (draw : UInt64) : Char.ofNat 0 ∉ tempText pid draw := by
  intro mem
  rcases List.mem_append.mp mem with front | last
  · rcases List.mem_append.mp front with stem | digit
    · exact absurd stem (by decide)
    · have shown := Nat.isDigit_of_mem_toDigits (by decide) (by decide) digit
      exact absurd shown (by decide)
  · rcases List.mem_cons.mp last with dash | digit
    · exact absurd dash (by decide)
    · obtain ⟨i, _, shown⟩ := List.mem_map.mp digit
      exact hexChar_ne_nul _ (Nat.mod_lt _ (by decide)) shown

def tempName (pid : Nat) (draw : UInt64) : CString where
  bytes := encode (String.ofList (tempText pid draw))
  clear mem := tempText_clear pid draw ((mem_encode (by decide) _).mp mem)

/-! ### The mutations -/

/-- The first drawn name that is free, with its new file. -/
def allocate (k : Kernel) (d : Directory CString) :
    List Nat → Except IoError (CString × Directory CString)
  | [] => .error ⟨.alreadyExists, "could not allocate unique temporary file"⟩
  | attempt :: rest =>
    let candidate := tempName k.pid (k.draw attempt)
    match createExclusive d candidate (k.mode 0o600) (k.create attempt) with
    | .ok d' => .ok (candidate, d')
    | .error error =>
      if error.kind ≠ .alreadyExists then .error error else allocate k d rest

def precommit (k : Kernel) (d : Directory CString) (temp leaf : CString) (bytes : List UInt8) :
    Directory CString × Except IoError Unit :=
  match writeAll d temp (k.mode 0o600) bytes k.write with
  | (d', .error error) => (d', .error error)
  | (d', .ok ()) =>
    match FaultyDirectories.sync k.sync with
    | .error error => (d', .error error)
    | .ok () =>
      match FaultyDirectories.rename d' temp leaf k.rename with
      | .error error => (d', .error error)
      | .ok d'' => (d'', .ok ())

/-- The parent is synced last, once the entry is there. -/
def syncedParent (k : Kernel) : Except MutationError Unit :=
  match k.syncParent with
  | some error => .error (.committedDurabilityUnknown error)
  | none => .ok ()

def atomicWrite (k : Kernel) (root path bytes : List UInt8) (d : Directory CString) :
    Directory CString × Except MutationError Unit :=
  if MAX_WRITE_BYTES < bytes.length then (d, .error .payloadTooLarge)
  else
    match openParent k root path with
    | .error error => (d, .error error)
    | .ok leaf =>
      match allocate k d (List.range 32) with
      | .error error => (d, .error (.io error))
      | .ok (temp, d') =>
        match precommit k d' temp leaf bytes with
        | (d'', .error error) => (FaultyDirectories.unlink d'' temp k.unlink, .error (.io error))
        | (d'', .ok ()) => (d'', syncedParent k)

def createDirectory (k : Kernel) (root path : List UInt8) (d : Directory CString) :
    Directory CString × Except MutationError Unit :=
  match openParent k root path with
  | .error error => (d, .error error)
  | .ok leaf =>
    match FaultyDirectories.makeDirectory d leaf (k.mode 0o700) k.makeDirectory with
    | .error error => (d, .error (.io error))
    | .ok d' => (d', syncedParent k)

/-! ### What a run leaves -/

/-- Neither call nor check on the way to the parent claims a commit. -/
def Uncommitted (error : MutationError) : Prop := ∀ io, error ≠ .committedDurabilityUnknown io

theorem bind_error {ε α β : Type} {x : Except ε α} {f : α → Except ε β} {error : ε}
    (h : x >>= f = .error error) : x = .error error ∨ ∃ a, x = .ok a ∧ f a = .error error := by
  cases x with
  | error e =>
    cases h
    exact Or.inl rfl
  | ok a => exact Or.inr ⟨a, rfl, h⟩

theorem require_uncommitted {met : Bool} {own error : MutationError} (plain : Uncommitted own)
    (h : require met own = .error error) : Uncommitted error := by
  unfold require at h
  split at h
  · exact nomatch h
  · cases h
    exact plain

theorem call_uncommitted {fault : Fault} {error : MutationError} (h : call fault = .error error) :
    Uncommitted error := by
  cases fault with
  | none => exact nomatch h
  | some io =>
    cases h
    exact fun _ same => nomatch same

theorem mapError_uncommitted {α : Type} {x : Except IoError α} {error : MutationError}
    (h : x.mapError .io = .error error) : Uncommitted error := by
  cases x with
  | ok _ => exact nomatch h
  | error io =>
    cases h
    exact fun _ same => nomatch same

theorem walk_uncommitted {faults : Nat → Fault} {n : Nat} {components : List CString}
    {error : MutationError} (h : walk faults n components = .error error) : Uncommitted error := by
  induction components generalizing n with
  | nil => exact nomatch h
  | cons _ rest ih =>
    rcases bind_error h with own | ⟨_, _, later⟩
    · exact call_uncommitted own
    · exact ih later

theorem invalidPath_uncommitted (absolute : Bool) : Uncommitted (invalidPath absolute) := by
  cases absolute with
  | false => exact fun _ same => nomatch same
  | true => exact fun _ same => nomatch same

theorem strictComponents_uncommitted {path : List UInt8} {absolute : Bool} {error : MutationError}
    (h : strictComponents path absolute = .error error) : Uncommitted error := by
  unfold strictComponents at h
  split at h
  · cases h
    exact invalidPath_uncommitted absolute
  split at h
  · cases h
    exact invalidPath_uncommitted absolute
  split at h
  · cases h
    exact fun _ same => nomatch same
  split at h
  · cases h
    exact fun _ same => nomatch same
  split at h
  · exact nomatch h
  · cases h
    exact invalidPath_uncommitted absolute

theorem openRoot_uncommitted {k : Kernel} {root : List UInt8} {error : MutationError}
    (h : openRoot k root = .error error) : Uncommitted error := by
  have plain : Uncommitted .invalidRoot := fun _ same => nomatch same
  unfold openRoot at h
  rcases bind_error h with h | ⟨_, _, h⟩
  · exact require_uncommitted plain h
  rcases bind_error h with h | ⟨_, _, h⟩
  · exact require_uncommitted plain h
  rcases bind_error h with h | ⟨_, _, h⟩
  · exact strictComponents_uncommitted h
  rcases bind_error h with h | ⟨_, _, h⟩
  · exact call_uncommitted h
  rcases bind_error h with h | ⟨_, _, h⟩
  · exact walk_uncommitted h
  rcases bind_error h with h | ⟨_, _, h⟩
  · exact require_uncommitted plain h
  · exact require_uncommitted plain h

theorem openReadableParent_uncommitted {k : Kernel} {error : MutationError}
    (h : openReadableParent k = .error error) : Uncommitted error := by
  have plain : ∀ io, Uncommitted (.io io) := fun _ _ same => nomatch same
  unfold openReadableParent at h
  rcases bind_error h with h | ⟨_, _, h⟩
  · exact mapError_uncommitted h
  rcases bind_error h with h | ⟨_, _, h⟩
  · exact require_uncommitted (plain _) h
  rcases bind_error h with h | ⟨_, _, h⟩
  · exact call_uncommitted h
  rcases bind_error h with h | ⟨_, _, h⟩
  · exact mapError_uncommitted h
  · exact require_uncommitted (plain _) h

theorem openParent_uncommitted {k : Kernel} {root path : List UInt8} {error : MutationError}
    (h : openParent k root path = .error error) : Uncommitted error := by
  have plain : Uncommitted .invalidPath := fun _ same => nomatch same
  unfold openParent at h
  rcases bind_error h with h | ⟨_, _, h⟩
  · exact require_uncommitted plain h
  rcases bind_error h with h | ⟨components, _, h⟩
  · exact strictComponents_uncommitted h
  cases last : components.getLast? with
  | none =>
    rw [last] at h
    cases h
    exact plain
  | some leaf =>
    rw [last] at h
    rcases bind_error h with h | ⟨_, _, h⟩
    · exact openRoot_uncommitted h
    rcases bind_error h with h | ⟨_, _, h⟩
    · exact walk_uncommitted h
    rcases bind_error h with h | ⟨_, _, h⟩
    · exact openReadableParent_uncommitted h
    · exact nomatch h

/-- The name a path gives its target. -/
def target (path : List UInt8) : Option CString :=
  match strictComponents path false with
  | .ok components => components.getLast?
  | .error _ => none

theorem target_of_openParent {k : Kernel} {root path : List UInt8} {leaf : CString}
    (h : openParent k root path = .ok leaf) : target path = some leaf := by
  unfold openParent at h
  obtain ⟨_, _, h⟩ := GatewayConfig.bind_ok h
  obtain ⟨components, taken, h⟩ := GatewayConfig.bind_ok h
  rw [target, taken]
  dsimp only
  cases last : components.getLast? with
  | none =>
    rw [last] at h
    exact nomatch h
  | some found =>
    rw [last] at h
    obtain ⟨_, _, h⟩ := GatewayConfig.bind_ok h
    obtain ⟨_, _, h⟩ := GatewayConfig.bind_ok h
    obtain ⟨_, _, h⟩ := GatewayConfig.bind_ok h
    cases h
    rfl

theorem allocate_ok {k : Kernel} {d d' : Directory CString} {attempts : List Nat}
    {temp : CString} (h : allocate k d attempts = .ok (temp, d')) :
    d temp = none ∧ d' = Function.update d temp (some (.file [] (k.mode 0o600))) := by
  induction attempts with
  | nil => exact nomatch h
  | cons attempt rest ih =>
    unfold allocate at h
    dsimp only at h
    split at h
    · rename_i created
      cases h
      exact createExclusive_ok created
    · split at h
      · exact nomatch h
      · exact ih h

/-- A write that gets as far as its temporary file. -/
structure Begun (k : Kernel) (root path bytes : List UInt8) (d : Directory CString)
    (leaf temp : CString) : Prop where
  small : bytes.length ≤ MAX_WRITE_BYTES
  opened : openParent k root path = .ok leaf
  free : ∃ d', allocate k d (List.range 32) = .ok (temp, d')

/-- A call between there and the rename fails, or the rename itself does. -/
def Stops (k : Kernel) (d : Directory CString) (leaf : CString) : Prop :=
  k.write.isSome = true ∨ k.sync.isSome = true ∨ k.rename.isSome = true ∨
    ∃ mode, d leaf = some (.directory mode)

/-- The bytes that reach the temporary file. -/
def Kernel.written (k : Kernel) (bytes : List UInt8) : List UInt8 :=
  match k.write with
  | some (count, _) => bytes.take count
  | none => bytes

/-- The directory with the temporary file and what was written to it. -/
def Kernel.staged (k : Kernel) (d : Directory CString) (temp : CString) (bytes : List UInt8) :
    Directory CString :=
  Function.update d temp (some (.file (k.written bytes) (k.mode 0o600)))

theorem writeAll_staged (k : Kernel) (d : Directory CString) (temp : CString)
    (bytes : List UInt8) (node : Option Node) :
    ∃ result, writeAll (Function.update d temp node) temp (k.mode 0o600) bytes k.write =
      (k.staged d temp bytes, result) ∧ (result = .ok () ↔ k.write = none) := by
  unfold Kernel.staged Kernel.written
  cases k.write with
  | none => exact ⟨.ok (), by rw [writeAll, Function.update_idem], by simp⟩
  | some fault => exact ⟨.error fault.2, by rw [writeAll, Function.update_idem], by simp⟩

/-- A directory stands in the rename's way before and after the temporary file is made. -/
theorem directory_staged {k : Kernel} {d : Directory CString} {leaf temp : CString}
    {bytes : List UInt8} (fresh : d temp = none) (mode : Nat) :
    k.staged d temp bytes leaf = some (.directory mode) ↔ d leaf = some (.directory mode) := by
  unfold Kernel.staged
  by_cases same : leaf = temp
  · rw [same, Function.update_self, fresh]
    simp
  · rw [Function.update_of_ne same]

theorem precommit_stops {k : Kernel} {d : Directory CString} {leaf temp : CString}
    {bytes : List UInt8} {node : Option Node} (fresh : d temp = none) (stops : Stops k d leaf) :
    ∃ io, precommit k (Function.update d temp node) temp leaf bytes =
      (k.staged d temp bytes, .error io) := by
  obtain ⟨result, written, clear⟩ := writeAll_staged k d temp bytes node
  unfold precommit
  rw [written]
  cases result with
  | error io => exact ⟨io, rfl⟩
  | ok _ =>
    have whole := clear.mp rfl
    dsimp only
    cases synced : k.sync with
    | some io => exact ⟨io, rfl⟩
    | none =>
      dsimp only [sync]
      cases renamed : k.rename with
      | some io => exact ⟨io, rfl⟩
      | none =>
        rcases stops with h | h | h | ⟨mode, found⟩
        · rw [whole] at h
          exact nomatch h
        · rw [synced] at h
          exact nomatch h
        · rw [renamed] at h
          exact nomatch h
        · have inWay := (@directory_staged k d leaf temp bytes fresh mode).mpr found
          refine ⟨⟨.other, "Is a directory"⟩, ?_⟩
          rw [rename_blocked inWay]

theorem precommit_commits {k : Kernel} {d : Directory CString} {leaf temp : CString}
    {bytes : List UInt8} {node : Option Node} (fresh : d temp = none) (goes : ¬ Stops k d leaf) :
    ∃ d', precommit k (Function.update d temp node) temp leaf bytes = (d', .ok ()) ∧
      d' leaf = some (.file bytes (k.mode 0o600)) := by
  unfold Stops at goes
  simp only [not_or, not_exists, Bool.not_eq_true, Option.isSome_eq_false_iff,
    Option.isNone_iff_eq_none] at goes
  obtain ⟨whole, synced, renamed, open'⟩ := goes
  obtain ⟨result, written, clear⟩ := writeAll_staged k d temp bytes node
  cases clear.mpr whole
  unfold precommit
  rw [written]
  dsimp only
  rw [synced, renamed]
  dsimp only [sync]
  rw [rename_moves fun mode found => open' mode ((directory_staged fresh mode).mp found)]
  refine ⟨_, rfl, ?_⟩
  rw [Function.update_self, Kernel.staged, Function.update_self, Kernel.written, whole]

section Write
variable {k : Kernel} {root path bytes : List UInt8} {d : Directory CString}

/-- A write that never has its temporary file changes nothing. -/
theorem atomicWrite_refused (idle : ¬ ∃ leaf temp, Begun k root path bytes d leaf temp) :
    ∃ error, atomicWrite k root path bytes d = (d, .error error) ∧ Uncommitted error := by
  unfold atomicWrite
  by_cases large : MAX_WRITE_BYTES < bytes.length
  · rw [if_pos large]
    exact ⟨_, rfl, fun _ same => nomatch same⟩
  rw [if_neg large]
  cases opened : openParent k root path with
  | error error => exact ⟨error, rfl, openParent_uncommitted opened⟩
  | ok leaf =>
    cases free : allocate k d (List.range 32) with
    | error io => exact ⟨.io io, rfl, fun _ same => nomatch same⟩
    | ok found => exact absurd ⟨leaf, found.1, Nat.not_lt.mp large, opened, found.2, free⟩ idle

theorem atomicWrite_begun {leaf temp : CString} (begun : Begun k root path bytes d leaf temp) :
    d temp = none ∧ atomicWrite k root path bytes d =
      match precommit k (Function.update d temp (some (.file [] (k.mode 0o600)))) temp leaf bytes with
      | (d', .error error) => (unlink d' temp k.unlink, .error (.io error))
      | (d', .ok ()) => (d', syncedParent k) := by
  obtain ⟨d', free⟩ := begun.free
  obtain ⟨fresh, rfl⟩ := allocate_ok free
  refine ⟨fresh, ?_⟩
  rw [atomicWrite, if_neg (Nat.not_lt.mpr begun.small), begun.opened]
  dsimp only
  rw [free]

theorem atomicWrite_stops {leaf temp : CString} (begun : Begun k root path bytes d leaf temp)
    (stops : Stops k d leaf) :
    ∃ io, atomicWrite k root path bytes d =
      (unlink (k.staged d temp bytes) temp k.unlink, .error (.io io)) := by
  obtain ⟨fresh, run⟩ := atomicWrite_begun begun
  obtain ⟨io, halted⟩ := @precommit_stops k d leaf temp bytes (some (.file [] (k.mode 0o600)))
    fresh stops
  rw [halted] at run
  exact ⟨io, run⟩

theorem atomicWrite_commits {leaf temp : CString} (begun : Begun k root path bytes d leaf temp)
    (goes : ¬ Stops k d leaf) :
    ∃ d', atomicWrite k root path bytes d = (d', syncedParent k) ∧
      d' leaf = some (.file bytes (k.mode 0o600)) := by
  obtain ⟨fresh, run⟩ := atomicWrite_begun begun
  obtain ⟨d', done, content⟩ := @precommit_commits k d leaf temp bytes
    (some (.file [] (k.mode 0o600))) fresh goes
  rw [done] at run
  exact ⟨d', run, content⟩

/-- A write that stopped leaves its target alone, unless the temporary file was the target
and stays. -/
theorem staged_unlinked {leaf temp : CString} (fresh : d temp = none) :
    unlink (k.staged d temp bytes) temp k.unlink leaf =
      if leaf = temp ∧ k.unlink.isSome = true then some (.file (k.written bytes) (k.mode 0o600))
      else d leaf := by
  unfold unlink Kernel.staged
  by_cases same : leaf = temp
  · subst same
    cases k.unlink with
    | none => simp [fresh]
    | some _ => simp
  · cases k.unlink with
    | none => simp [same]
    | some _ => simp [same]

end Write

/-- A directory is made, or nothing changes. -/
theorem createDirectory_cases (k : Kernel) (root path : List UInt8) (d : Directory CString) :
    (∃ error, createDirectory k root path d = (d, .error error) ∧ Uncommitted error) ∨
      ∃ leaf d', openParent k root path = .ok leaf ∧
        createDirectory k root path d = (d', syncedParent k) ∧
        d' leaf = some (.directory (k.mode 0o700)) := by
  unfold createDirectory
  cases opened : openParent k root path with
  | error error => exact Or.inl ⟨error, rfl, openParent_uncommitted opened⟩
  | ok leaf =>
    cases made : makeDirectory d leaf (k.mode 0o700) k.makeDirectory with
    | error io => exact Or.inl ⟨.io io, by dsimp only; rw [made], fun _ same => nomatch same⟩
    | ok d' =>
      refine Or.inr ⟨leaf, d', rfl, by dsimp only; rw [made], ?_⟩
      rw [makeDirectory_ok made, Function.update_self]

end FilesystemMutation
