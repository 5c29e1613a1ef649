import Mathlib.Algebra.Order.Floor.Ring
import Mathlib.Data.Rat.Floor
import Mathlib.Tactic.Linarith
import TaskQueQue.Histories
import TaskQueQue.TaskFacade

/-!
# The admission bucket

A bucket holds at most `burst` tokens and gains `ratePerSecond` of them a second, up to
the moment of a call. A call takes a token, or is refused and told when to come back.
Time and levels are exact; the readings of the clock never go back.
-/

namespace TokenBuckets

open Histories
open TaskFacade (TokenBucket)

structure AdmissionDecision where
  allowed : Bool
  retryAfterSeconds : Int
deriving DecidableEq

/-- The constructor; it reads the clock once. -/
def TokenBucketAdmissionController (ratePerSecond burst nowMs : ℚ) : Except String TokenBucket :=
  if ratePerSecond ≤ 0 then .error "ratePerSecond must be greater than zero"
  else if burst.den ≠ 1 ∨ burst ≤ 0 then .error "burst must be a positive integer"
  else .ok ⟨ratePerSecond, burst, burst, nowMs⟩

def refilled (bucket : TokenBucket) (now : ℚ) : ℚ :=
  min bucket.burst
    (bucket.tokens + max 0 (now - bucket.lastRefillMs) / 1000 * bucket.ratePerSecond)

def tryAcquire (bucket : TokenBucket) (now : ℚ) : AdmissionDecision × TokenBucket :=
  let tokens := refilled bucket now
  if 1 ≤ tokens then (⟨true, 0⟩, { bucket with tokens := tokens - 1, lastRefillMs := now })
  else
    (⟨false, max 1 ⌈(1 - tokens) / bucket.ratePerSecond⌉⟩,
      { bucket with tokens, lastRefillMs := now })

/-- The task route asks the same bucket, and uses only whether a call is let through. -/
theorem tryAcquire_eq (bucket : TokenBucket) (now : ℚ) :
    bucket.tryAcquire now = ((tryAcquire bucket now).1.allowed, (tryAcquire bucket now).2) := by
  unfold TokenBucket.tryAcquire tryAcquire refilled
  dsimp only
  split
  · rfl
  · rfl

/-! ### One call -/

/-- A level the bucket can hold, and a configuration it can have. -/
structure Sound (bucket : TokenBucket) : Prop where
  rate : 0 < bucket.ratePerSecond
  burst : 1 ≤ bucket.burst
  nonnegative : 0 ≤ bucket.tokens
  bounded : bucket.tokens ≤ bucket.burst

/-- What one call does to a bucket: it takes a whole token, or none. -/
structure Called (bucket : TokenBucket) (now : ℚ) (decision : AdmissionDecision)
    (after : TokenBucket) : Prop where
  rate : after.ratePerSecond = bucket.ratePerSecond
  burst : after.burst = bucket.burst
  time : after.lastRefillMs = now
  level : after.tokens + (if decision.allowed then 1 else 0) = refilled bucket now
  enough : decision.allowed = true ↔ 1 ≤ refilled bucket now

theorem tryAcquire_called (bucket : TokenBucket) (now : ℚ) :
    Called bucket now (tryAcquire bucket now).1 (tryAcquire bucket now).2 := by
  unfold tryAcquire
  dsimp only
  split
  · rename_i enough
    exact ⟨rfl, rfl, rfl, sub_add_cancel _ _, iff_of_true rfl enough⟩
  · rename_i short
    exact ⟨rfl, rfl, rfl, add_zero _, iff_of_false Bool.false_ne_true short⟩

section Calls
variable {bucket : TokenBucket} {now : ℚ}

theorem refilled_le_burst (bucket : TokenBucket) (now : ℚ) : refilled bucket now ≤ bucket.burst :=
  min_le_left _ _

theorem refilled_le (later : bucket.lastRefillMs ≤ now) :
    refilled bucket now ≤
      bucket.tokens + (now - bucket.lastRefillMs) / 1000 * bucket.ratePerSecond := by
  have elapsed : max 0 (now - bucket.lastRefillMs) = now - bucket.lastRefillMs :=
    max_eq_right (sub_nonneg.mpr later)
  rw [refilled, elapsed]
  exact min_le_right _ _

theorem Sound.refilled_nonneg (sound : Sound bucket) (now : ℚ) : 0 ≤ refilled bucket now := by
  have gained : 0 ≤ max 0 (now - bucket.lastRefillMs) / 1000 * bucket.ratePerSecond :=
    mul_nonneg (div_nonneg (le_max_left _ _) (by norm_num)) sound.rate.le
  have burst := sound.burst
  have held := sound.nonnegative
  exact le_min (by linarith) (by linarith)

theorem Sound.gained_nonneg (sound : Sound bucket) {opens closes : ℚ} (window : opens ≤ closes) :
    0 ≤ (closes - opens) / 1000 * bucket.ratePerSecond :=
  mul_nonneg (div_nonneg (sub_nonneg.mpr window) (by norm_num)) sound.rate.le

theorem Sound.called (sound : Sound bucket) (now : ℚ) : Sound (tryAcquire bucket now).2 := by
  have called := tryAcquire_called bucket now
  have level := called.level
  refine ⟨called.rate ▸ sound.rate, called.burst ▸ sound.burst, ?_, ?_⟩
  · split at level
    · rename_i allowed
      have enough := called.enough.mp allowed
      linarith
    · have refilled := sound.refilled_nonneg now
      linarith
  · rw [called.burst]
    have burst := refilled_le_burst bucket now
    split at level
    · linarith
    · linarith

/-- Whoever comes back when told to is let through. -/
theorem Sound.retry (sound : Sound bucket) (refused : (tryAcquire bucket now).1.allowed = false)
    {later : ℚ} (waited : now + 1000 * (tryAcquire bucket now).1.retryAfterSeconds ≤ later) :
    (tryAcquire (tryAcquire bucket now).2 later).1.allowed = true := by
  have short : ¬ 1 ≤ refilled bucket now := by
    rw [← (tryAcquire_called bucket now).enough, refused]
    exact Bool.false_ne_true
  have outcome : tryAcquire bucket now =
      (⟨false, max 1 ⌈(1 - refilled bucket now) / bucket.ratePerSecond⌉⟩,
        { bucket with tokens := refilled bucket now, lastRefillMs := now }) := by
    unfold tryAcquire
    exact if_neg short
  rw [outcome] at waited ⊢
  rw [(tryAcquire_called _ _).enough]
  have rate := sound.rate
  have deficit : (1 - refilled bucket now) / bucket.ratePerSecond ≤
      (max 1 ⌈(1 - refilled bucket now) / bucket.ratePerSecond⌉ : ℤ) :=
    (Int.le_ceil _).trans (Int.cast_le.mpr (le_max_right _ _))
  have seconds : (1 - refilled bucket now) / bucket.ratePerSecond ≤ (later - now) / 1000 := by
    dsimp only at waited
    linarith
  have gained := (div_le_iff₀ rate).mp seconds
  have elapsed : (later - now) / 1000 ≤ max 0 (later - now) / 1000 := by
    have := le_max_right 0 (later - now)
    linarith
  have more := mul_le_mul_of_nonneg_right elapsed rate.le
  refine le_min sound.burst ?_
  dsimp only
  linarith

end Calls

/-! ### Runs -/

/-- The bucket after calls at these times. -/
def after (bucket : TokenBucket) (calls : List ℚ) : TokenBucket :=
  run (fun now bucket => (tryAcquire bucket now).2) bucket calls

/-- The times of the calls that were let through. -/
def admissions (bucket : TokenBucket) (calls : List ℚ) : List ℚ :=
  ((notes (fun now bucket => (tryAcquire bucket now).2)
    (fun now bucket => (now, (tryAcquire bucket now).1.allowed)) bucket calls).filter
      Prod.snd).map Prod.fst

theorem admissions_cons (bucket : TokenBucket) (now : ℚ) (calls : List ℚ) :
    admissions bucket (now :: calls) =
      (if (tryAcquire bucket now).1.allowed then [now] else []) ++
        admissions (tryAcquire bucket now).2 calls := by
  unfold admissions
  rw [notes_cons, List.filter_cons]
  split
  · rfl
  · rfl

theorem Sound.after {bucket : TokenBucket} (sound : Sound bucket) (calls : List ℚ) :
    Sound (after bucket calls) := by
  induction calls generalizing bucket with
  | nil => exact sound
  | cons now rest ih => exact ih (sound.called now)

theorem burst_after (bucket : TokenBucket) (calls : List ℚ) :
    (after bucket calls).burst = bucket.burst := by
  induction calls generalizing bucket with
  | nil => rfl
  | cons now rest ih => exact (ih _).trans (tryAcquire_called bucket now).burst

/-- Calls in order, none before the bucket was last filled. -/
structure Ordered (bucket : TokenBucket) (calls : List ℚ) : Prop where
  later : ∀ call ∈ calls, bucket.lastRefillMs ≤ call
  sorted : calls.Pairwise (· ≤ ·)

theorem Ordered.rest {bucket : TokenBucket} {now : ℚ} {calls : List ℚ}
    (ordered : Ordered bucket (now :: calls)) : Ordered (tryAcquire bucket now).2 calls := by
  obtain ⟨first, rest⟩ := List.pairwise_cons.mp ordered.sorted
  refine ⟨fun call mem => ?_, rest⟩
  rw [(tryAcquire_called bucket now).time]
  exact first call mem

/-- How many of the calls were let through up to a time. -/
def admittedUntil (bucket : TokenBucket) (calls : List ℚ) (closes : ℚ) : Nat :=
  (admissions bucket calls).countP fun call => decide (call ≤ closes)

def admittedWithin (bucket : TokenBucket) (calls : List ℚ) (opens closes : ℚ) : Nat :=
  (admissions bucket calls).countP fun call => decide (opens ≤ call ∧ call ≤ closes)

theorem mem_admissions {bucket : TokenBucket} {calls : List ℚ} {call : ℚ}
    (mem : call ∈ admissions bucket calls) : call ∈ calls := by
  induction calls generalizing bucket with
  | nil => cases mem
  | cons now rest ih =>
    rw [admissions_cons, List.mem_append] at mem
    rcases mem with first | later
    · split at first
      · rw [List.mem_singleton.mp first]
        exact List.mem_cons_self
      · cases first
    · exact List.mem_cons_of_mem _ (ih later)

theorem Ordered.le_of_mem {bucket : TokenBucket} {now call : ℚ} {rest : List ℚ}
    (ordered : Ordered bucket (now :: rest)) (mem : call ∈ admissions bucket (now :: rest)) :
    now ≤ call := by
  rcases List.mem_cons.mp (mem_admissions mem) with rfl | mem
  · exact le_rfl
  · exact (List.pairwise_cons.mp ordered.sorted).1 call mem

theorem admittedUntil_cons {bucket : TokenBucket} {now closes : ℚ} (inside : now ≤ closes)
    (rest : List ℚ) :
    (admittedUntil bucket (now :: rest) closes : ℚ) =
      (if (tryAcquire bucket now).1.allowed then 1 else 0) +
        admittedUntil (tryAcquire bucket now).2 rest closes := by
  unfold admittedUntil
  rw [admissions_cons, List.countP_append, Nat.cast_add]
  congr 1
  split
  · rw [List.countP_singleton, if_pos (decide_eq_true inside), Nat.cast_one]
  · rw [List.countP_nil, Nat.cast_zero]

theorem admittedUntil_late {bucket : TokenBucket} {now closes : ℚ} {rest : List ℚ}
    (ordered : Ordered bucket (now :: rest)) (late : closes < now) :
    admittedUntil bucket (now :: rest) closes = 0 := by
  unfold admittedUntil
  rw [List.countP_eq_zero]
  intro call mem
  rw [decide_eq_true_eq, not_le]
  exact late.trans_le (ordered.le_of_mem mem)

/-- What is let through has been paid for by what was held and what came in. -/
theorem admittedUntil_le {bucket : TokenBucket} {calls : List ℚ} (sound : Sound bucket)
    (ordered : Ordered bucket calls) {closes : ℚ} (started : bucket.lastRefillMs ≤ closes) :
    (admittedUntil bucket calls closes : ℚ) ≤
      bucket.tokens + (closes - bucket.lastRefillMs) / 1000 * bucket.ratePerSecond := by
  induction calls generalizing bucket with
  | nil =>
    have gained := sound.gained_nonneg started
    have held := sound.nonnegative
    change ((0 : Nat) : ℚ) ≤ _
    rw [Nat.cast_zero]
    linarith
  | cons now rest ih =>
    rcases le_or_gt now closes with inside | late
    · have called := tryAcquire_called bucket now
      have spent := ih (sound.called now) ordered.rest (called.time.trans_le inside)
      have refilled := refilled_le (ordered.later now List.mem_cons_self)
      have level := called.level
      rw [called.time, called.rate] at spent
      rw [admittedUntil_cons inside]
      linarith
    · have gained := sound.gained_nonneg started
      have held := sound.nonnegative
      rw [admittedUntil_late ordered late, Nat.cast_zero]
      linarith

/-- A window lets through no more than a full bucket and what comes in while it is open. -/
theorem admittedWithin_le {bucket : TokenBucket} {calls : List ℚ} (sound : Sound bucket)
    (ordered : Ordered bucket calls) {opens closes : ℚ} (window : opens ≤ closes) :
    (admittedWithin bucket calls opens closes : ℚ) ≤
      bucket.burst + (closes - opens) / 1000 * bucket.ratePerSecond := by
  have gained := sound.gained_nonneg window
  have burst := sound.burst
  induction calls generalizing bucket with
  | nil =>
    change ((0 : Nat) : ℚ) ≤ _
    rw [Nat.cast_zero]
    linarith
  | cons now rest ih =>
    have called := tryAcquire_called bucket now
    rcases lt_or_ge now opens with before | inside
    · have later := ih (sound.called now) ordered.rest (called.rate ▸ gained) (called.burst ▸ burst)
      rw [called.rate, called.burst] at later
      have outside : (if (tryAcquire bucket now).1.allowed then [now] else []).countP
          (fun call => decide (opens ≤ call ∧ call ≤ closes)) = 0 := by
        split
        · rw [List.countP_singleton, if_neg]
          rw [decide_eq_true_eq, not_and]
          exact fun inside => absurd inside (not_le.mpr before)
        · rfl
      unfold admittedWithin at later ⊢
      rw [admissions_cons, List.countP_append, outside, Nat.zero_add]
      exact later
    · -- From here on every call is in the window, unless the window has closed.
      have all : admittedWithin bucket (now :: rest) opens closes =
          admittedUntil bucket (now :: rest) closes := by
        unfold admittedWithin admittedUntil
        apply List.countP_congr
        intro call mem
        rw [decide_eq_true_eq, decide_eq_true_eq]
        exact and_iff_right (inside.trans (ordered.le_of_mem mem))
      rw [all]
      rcases le_or_gt now closes with open' | late
      · have spent := admittedUntil_le (sound.called now) ordered.rest (called.time.trans_le open')
        have level := called.level
        have full := refilled_le_burst bucket now
        have shorter : (closes - now) / 1000 * bucket.ratePerSecond ≤
            (closes - opens) / 1000 * bucket.ratePerSecond :=
          mul_le_mul_of_nonneg_right (by linarith) sound.rate.le
        rw [called.time, called.rate] at spent
        rw [admittedUntil_cons open']
        linarith
      · rw [admittedUntil_late ordered late, Nat.cast_zero]
        linarith

theorem sound_constructed {ratePerSecond burst nowMs : ℚ} {bucket : TokenBucket}
    (made : TokenBucketAdmissionController ratePerSecond burst nowMs = .ok bucket) :
    Sound bucket ∧ bucket.ratePerSecond = ratePerSecond ∧ bucket.burst = burst ∧
      bucket.lastRefillMs = nowMs := by
  unfold TokenBucketAdmissionController at made
  split at made
  · cases made
  rename_i rate
  split at made
  · cases made
  rename_i whole
  cases made
  rw [not_or, not_not, not_le] at whole
  have positive : 0 < burst.num := Rat.num_pos.mpr whole.2
  have atLeast : (1 : ℚ) ≤ burst := by
    rw [← Rat.coe_int_num_of_den_eq_one whole.1]
    exact_mod_cast positive
  exact ⟨⟨not_le.mp rate, atLeast, whole.2.le, le_rfl⟩, rfl, rfl, rfl⟩

/-- A bucket of the constructor, with a clock that does not go back: every window of `d`
seconds lets through at most `burst + ratePerSecond * d` calls, the level stays between
nothing and `burst`, and whoever waits as long as told is let through. -/
theorem token_bucket_bound (ratePerSecond burst startMs : ℚ) (bucket : TokenBucket)
    (made : TokenBucketAdmissionController ratePerSecond burst startMs = .ok bucket)
    (calls : List ℚ) (clock : (startMs :: calls).Pairwise (· ≤ ·)) :
    (∀ opens d : ℚ, 0 ≤ d →
      (admittedWithin bucket calls opens (opens + 1000 * d) : ℚ) ≤ burst + ratePerSecond * d) ∧
    (0 ≤ (after bucket calls).tokens ∧ (after bucket calls).tokens ≤ burst) ∧
    ∀ now later, (tryAcquire (after bucket calls) now).1.allowed = false →
      now + 1000 * (tryAcquire (after bucket calls) now).1.retryAfterSeconds ≤ later →
      (tryAcquire (tryAcquire (after bucket calls) now).2 later).1.allowed = true := by
  obtain ⟨sound, rfl, rfl, rfl⟩ := sound_constructed made
  obtain ⟨later, sorted⟩ := List.pairwise_cons.mp clock
  have held := sound.after calls
  refine ⟨fun opens d long => ?_, ⟨held.nonnegative, ?_⟩, fun now later refused => held.retry refused⟩
  · have bound := admittedWithin_le sound ⟨later, sorted⟩
      (show opens ≤ opens + 1000 * d by linarith)
    have length : (opens + 1000 * d - opens) / 1000 * bucket.ratePerSecond =
        bucket.ratePerSecond * d := by ring
    rwa [length] at bound
  · rw [← burst_after bucket calls]
    exact held.bounded

/-- Two calls a second, and two at once: of four calls within half a second three pass. -/
theorem token_bucket_bound_pair :
    admittedWithin ⟨2, 2, 2, 0⟩ [0, 0, 0, 500] 0 (0 + 1000 * (1 / 2)) = 3 ∧
    (admittedWithin ⟨2, 2, 2, 0⟩ [0, 0, 0, 500] 0 (0 + 1000 * (1 / 2)) : ℚ) ≤ 2 + 2 * (1 / 2) :=
  ⟨by decide +kernel, (token_bucket_bound 2 2 0 ⟨2, 2, 2, 0⟩ rfl [0, 0, 0, 500]
    (by decide +kernel)).1 0 (1 / 2) (by decide +kernel)⟩

end TokenBuckets
