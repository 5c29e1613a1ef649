import Mathlib.Logic.Function.Basic

/-!
# A directory under faults

What the entries of one directory are, and the calls that change them. Each call is given
the fault it meets, if any. A call that fails leaves the entries as they were, except that
a write may stop after a part of its bytes.
-/

namespace FaultyDirectories

inductive ErrorKind
  | alreadyExists
  | invalidData
  | other
deriving DecidableEq

structure IoError where
  kind : ErrorKind
  message : String
deriving DecidableEq

inductive Node
  | file (bytes : List UInt8) (mode : Nat)
  | directory (mode : Nat)
  | special
deriving DecidableEq

abbrev Directory (α : Type) := α → Option Node

/-- A fault that may be met by a call. -/
abbrev Fault := Option IoError

variable {α : Type} [DecidableEq α]

/-- `openat` with `O_CREAT | O_EXCL`. -/
def createExclusive (d : Directory α) (name : α) (mode : Nat) : Fault → Except IoError (Directory α)
  | some error => .error error
  | none =>
    if (d name).isSome then .error ⟨.alreadyExists, "File exists"⟩
    else .ok (Function.update d name (some (.file [] mode)))

/-- The bytes written to a new file of that name. -/
def writeAll (d : Directory α) (name : α) (mode : Nat) (bytes : List UInt8) :
    Option (Nat × IoError) → Directory α × Except IoError Unit
  | some (written, error) =>
    (Function.update d name (some (.file (bytes.take written) mode)), .error error)
  | none => (Function.update d name (some (.file bytes mode)), .ok ())

def sync : Fault → Except IoError Unit
  | some error => .error error
  | none => .ok ()

/-- `renameat` of a file: what was at the target is replaced, a directory is not. -/
def rename (d : Directory α) (source target : α) : Fault → Except IoError (Directory α)
  | some error => .error error
  | none =>
    match d target with
    | some (.directory _) => .error ⟨.other, "Is a directory"⟩
    | _ => .ok (Function.update (Function.update d source none) target (d source))

/-- `unlinkat`, whose failure its caller does not look at. -/
def unlink (d : Directory α) (name : α) : Fault → Directory α
  | some _ => d
  | none => Function.update d name none

def makeDirectory (d : Directory α) (name : α) (mode : Nat) : Fault → Except IoError (Directory α)
  | some error => .error error
  | none =>
    if (d name).isSome then .error ⟨.alreadyExists, "File exists"⟩
    else .ok (Function.update d name (some (.directory mode)))

theorem createExclusive_ok {d d' : Directory α} {name : α} {mode : Nat} {fault : Fault}
    (h : createExclusive d name mode fault = .ok d') :
    d name = none ∧ d' = Function.update d name (some (.file [] mode)) := by
  unfold createExclusive at h
  split at h
  · exact nomatch h
  split at h
  · exact nomatch h
  rename_i absent
  cases h
  exact ⟨Option.not_isSome_iff_eq_none.mp absent, rfl⟩

theorem makeDirectory_ok {d d' : Directory α} {name : α} {mode : Nat} {fault : Fault}
    (h : makeDirectory d name mode fault = .ok d') :
    d' = Function.update d name (some (.directory mode)) := by
  unfold makeDirectory at h
  split at h
  · exact nomatch h
  split at h
  · exact nomatch h
  cases h
  rfl

theorem rename_blocked {d : Directory α} {source target : α} {mode : Nat}
    (found : d target = some (.directory mode)) :
    rename d source target none = .error ⟨.other, "Is a directory"⟩ := by
  unfold rename
  dsimp only
  rw [found]

theorem rename_moves {d : Directory α} {source target : α}
    (free : ∀ mode, d target ≠ some (.directory mode)) :
    rename d source target none =
      .ok (Function.update (Function.update d source none) target (d source)) := by
  unfold rename
  dsimp only
  split
  · rename_i mode found
    exact absurd found (free mode)
  · rfl

end FaultyDirectories
