import Mathlib.Data.Rat.Defs
import Mathlib.Algebra.Order.Ring.Rat

/-!
# Values of the queue

The numbers, statuses and errors the queue operations pass around. A double is a
rational, one of the infinities or NaN: the operations only add seconds, compare
and ask for finiteness, so the rounding of a sum is not modelled. Database
integers are `Int` with the checked and saturating operations written out where
the code uses them.

A status is stored as text. `TaskStatus.parse` accepts six texts and is the only
reader that turns a stored status back into a value.
-/

namespace QueueValues

/-- Seconds since the epoch, as a clock reading or a stored REAL. -/
abbrev Seconds := ℚ

inductive F64
  | finite (value : ℚ)
  | posInfinity
  | negInfinity
  | nan
deriving DecidableEq

namespace F64

def isFinite : F64 → Bool
  | .finite _ => true
  | _ => false

/-- `f64::partial_cmp`: no answer when either side is NaN. -/
def partialCmp : F64 → F64 → Option Ordering
  | .nan, _ => none
  | _, .nan => none
  | .finite a, .finite b => some (compare a b)
  | .posInfinity, .posInfinity => some .eq
  | .negInfinity, .negInfinity => some .eq
  | .posInfinity, _ => some .gt
  | .negInfinity, _ => some .lt
  | .finite _, .posInfinity => some .lt
  | .finite _, .negInfinity => some .gt

/-- A finite positive duration, or the operation's default. -/
def positiveOr (value : F64) (default : Seconds) : Seconds :=
  match value with
  | .finite q => if 0 < q then q else default
  | _ => default

end F64

/-! ### Database integers -/

def i64Max : Int := 9223372036854775807

def i64Min : Int := -9223372036854775808

def checkedAdd (a b : Int) : Option Int :=
  if i64Min ≤ a + b ∧ a + b ≤ i64Max then some (a + b) else none

def saturatingAdd (a b : Int) : Int := max i64Min (min i64Max (a + b))

def saturatingSub (a b : Int) : Int := max i64Min (min i64Max (a - b))

theorem checkedAdd_eq_some {a b c : Int} (h : checkedAdd a b = some c) :
    c = a + b ∧ c ≤ i64Max := by
  unfold checkedAdd at h
  split at h
  · rename_i hbounds
    cases h
    exact ⟨rfl, hbounds.2⟩
  · cases h

/-! ### Errors -/

inductive SqliteError
  | constraint (table : String)
  | full
  | invalidColumnType (column : String)
  | tooManyVariables
deriving DecidableEq, Repr

inductive QueueError
  | sqlite (cause : SqliteError)
  | invalidState (message : String)
deriving DecidableEq, Repr

/-! ### Statuses and lease answers -/

inductive TaskStatus
  | pending
  | assigned
  | running
  | completed
  | failed
  | cancelled
deriving DecidableEq, Repr

namespace TaskStatus

def asStr : TaskStatus → String
  | .pending => "PENDING"
  | .assigned => "ASSIGNED"
  | .running => "RUNNING"
  | .completed => "COMPLETED"
  | .failed => "FAILED"
  | .cancelled => "CANCELLED"

def parse (value : String) : Except QueueError TaskStatus :=
  if value = "PENDING" then .ok .pending
  else if value = "ASSIGNED" then .ok .assigned
  else if value = "RUNNING" then .ok .running
  else if value = "COMPLETED" then .ok .completed
  else if value = "FAILED" then .ok .failed
  else if value = "CANCELLED" then .ok .cancelled
  else .error (.invalidState ("unknown task status: " ++ value))

theorem parse_asStr (s : TaskStatus) : parse s.asStr = .ok s := by
  cases s <;> rfl

theorem parse_eq_ok_iff {value : String} {s : TaskStatus} :
    parse value = .ok s ↔ value = s.asStr := by
  constructor
  · intro h
    unfold parse at h
    split_ifs at h with h₁ h₂ h₃ h₄ h₅ h₆ <;> cases h <;> assumption
  · rintro rfl
    exact parse_asStr s

/-- The statuses no operation leaves. -/
def terminal : TaskStatus → Bool
  | .completed | .failed | .cancelled => true
  | .pending | .assigned | .running => false

end TaskStatus

inductive LeaseMutation
  | applied
  | stale
deriving DecidableEq, Repr

namespace LeaseMutation

def fromAffectedRows (affected : Nat) : LeaseMutation :=
  if affected = 1 then .applied else .stale

end LeaseMutation

/-! ### Workers -/

inductive WorkerKind
  | gpu
  | cpu
  | other (value : String)
deriving DecidableEq, Repr

namespace WorkerKind

def toDb : WorkerKind → String
  | .gpu => "gpu"
  | .cpu => "cpu"
  | .other value => value

end WorkerKind

end QueueValues
