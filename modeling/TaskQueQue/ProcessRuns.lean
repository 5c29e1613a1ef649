import TaskQueQue.McpTools

/-!
# Runs of registered processes

A run is a promise with callbacks around it. Output, the clock, the caller's signal and the
process report in any order; the first thing that should end the process is remembered and
the process is killed, and the promise is settled when the process is closed, or when it
could not be started. Whatever the order, there is one outcome, and it is the one that the
events before it call for.
-/

namespace ProcessRuns

open GatewayValues ProcessRegistry McpTools
open Capabilities (CapabilityGrant)

/-! ### Text of captured bytes -/

/-- A decoder of UTF-8 in the middle of a character: how many bytes it still needs, what
it has of the character, and between which bytes the next must be. -/
structure Decoder where
  needed : Nat := 0
  point : Nat := 0
  lower : Nat := 0x80
  upper : Nat := 0xBF

/-- A byte that starts a character, or does not. -/
def firstByte (byte : Nat) : List Char × Decoder :=
  if byte < 0x80 then ([Char.ofNat byte], {})
  else if 0xC2 ≤ byte ∧ byte ≤ 0xDF then ([], { needed := 1, point := byte - 0xC0 })
  else if 0xE0 ≤ byte ∧ byte ≤ 0xEF then
    ([], { needed := 2, point := byte - 0xE0, lower := if byte = 0xE0 then 0xA0 else 0x80,
           upper := if byte = 0xED then 0x9F else 0xBF })
  else if 0xF0 ≤ byte ∧ byte ≤ 0xF4 then
    ([], { needed := 3, point := byte - 0xF0, lower := if byte = 0xF0 then 0x90 else 0x80,
           upper := if byte = 0xF4 then 0x8F else 0xBF })
  else (['\uFFFD'], {})

/-- A character that breaks off is replaced, and the byte after it read anew. -/
def decodeBytes : Decoder → List UInt8 → List Char
  | d, [] => if d.needed = 0 then [] else ['\uFFFD']
  | d, byte :: rest =>
    if d.needed = 0 then (firstByte byte.toNat).1 ++ decodeBytes (firstByte byte.toNat).2 rest
    else if byte.toNat < d.lower ∨ d.upper < byte.toNat then
      '\uFFFD' :: ((firstByte byte.toNat).1 ++ decodeBytes (firstByte byte.toNat).2 rest)
    else if d.needed = 1 then
      Char.ofNat (d.point * 64 + (byte.toNat - 0x80)) :: decodeBytes {} rest
    else decodeBytes { needed := d.needed - 1, point := d.point * 64 + (byte.toNat - 0x80) } rest

/-- `Buffer.toString("utf8")`. -/
def bufferText (bytes : List UInt8) : String := String.ofList (decodeBytes {} bytes)

/-- A character of three bytes that lacks its last is replaced as a whole. -/
example : decodeBytes {} [0xE2, 0x82, 0xAC, 0xE2, 0x82, 0x41] = ['€', '\uFFFD', 'A'] := by decide

/-- `Buffer.concat`, to the given length. -/
def bufferConcat (chunks : List (List UInt8)) (total : Nat) : List UInt8 :=
  chunks.flatten.take total ++ List.replicate (total - chunks.flatten.length) 0

/-! ### The promise -/

inductive ProcessError
  | unregistered_process
  | process_unauthorized
  | process_unavailable
  | process_timeout
  | process_cancelled
  | process_output_too_large
  | process_failed
deriving DecidableEq

structure RegisteredProcessResult where
  ok : Bool
  exitCode : Option Int := none
  stdout : Option String := none
  stderr : Option String := none
  error : Option ProcessError := none
deriving DecidableEq

def failed (error : ProcessError) : RegisteredProcessResult := { ok := false, error := some error }

inductive Event
  | stdout (chunk : List UInt8)
  | stderr (chunk : List UInt8)
  | timeout
  | abort
  | error
  | exit (code : Option Int)
  | close (code : Option Int)

/-- The variables the callbacks share, with every call of the promise's `resolve`. -/
structure Run where
  settled : Bool := false
  terminationError : Option ProcessError := none
  stdoutBytes : Nat := 0
  stderrBytes : Nat := 0
  stdout : List (List UInt8) := []
  stderr : List (List UInt8) := []
  kills : Nat := 0
  resolved : List RegisteredProcessResult := []

def finish (result : RegisteredProcessResult) (s : Run) : Run :=
  if s.settled then s else { s with settled := true, resolved := s.resolved ++ [result] }

def terminate (error : ProcessError) (s : Run) : Run :=
  if s.settled || s.terminationError.isSome then s
  else { s with terminationError := some error, kills := s.kills + 1 }

section Callbacks
variable (maxOutputBytes : Int)

def onStdout (chunk : List UInt8) (s : Run) : Run :=
  if s.terminationError.isSome then s
  else
    let counted := { s with stdoutBytes := s.stdoutBytes + chunk.length }
    if maxOutputBytes < counted.stdoutBytes + counted.stderrBytes then
      terminate .process_output_too_large counted
    else { counted with stdout := counted.stdout ++ [chunk] }

def onStderr (chunk : List UInt8) (s : Run) : Run :=
  if s.terminationError.isSome then s
  else
    let counted := { s with stderrBytes := s.stderrBytes + chunk.length }
    if maxOutputBytes < counted.stdoutBytes + counted.stderrBytes then
      terminate .process_output_too_large counted
    else { counted with stderr := counted.stderr ++ [chunk] }

/-- A process that was closed by itself, with what it wrote. -/
def closedWith (code : Option Int) (stdout stderr : List UInt8) : RegisteredProcessResult where
  ok := decide (code = some 0)
  exitCode := some (code.getD (-1))
  stdout := some (bufferText stdout)
  stderr := some (bufferText stderr)
  error := if code = some 0 then none else some .process_failed

def onClose (code : Option Int) (s : Run) : Run :=
  if s.settled then s
  else
    match s.terminationError with
    | some error => finish (failed error) s
    | none =>
      finish (closedWith code (bufferConcat s.stdout s.stdoutBytes)
        (bufferConcat s.stderr s.stderrBytes)) s

def step (s : Run) : Event → Run
  | .stdout chunk => onStdout maxOutputBytes chunk s
  | .stderr chunk => onStderr maxOutputBytes chunk s
  | .timeout => terminate .process_timeout s
  | .abort => terminate .process_cancelled s
  | .error => finish (failed .process_unavailable) s
  | .exit _ => s
  | .close code => onClose code s

/-- The signal is looked at once more when its listener is in place. -/
def setUp (aborted : Bool) : Run := if aborted then terminate .process_cancelled {} else {}

def run (aborted : Bool) (events : List Event) : Run :=
  events.foldl (step maxOutputBytes) (setUp aborted)

end Callbacks

/-- What a run finds before the process is started. -/
structure Conditions where
  abortedBefore : Bool
  spawns : Bool
  abortedMeanwhile : Bool

/-- The command to start, or the result there is without one. -/
def prepare (files : FileSystem) (registry : RegisteredProcessRegistry) (name helperBin : String)
    (grant : CapabilityGrant) (conditions : Conditions) :
    Except RegisteredProcessResult RegisteredProcessDescriptor :=
  match registry.commands.find? fun command => decide (command.name = name) with
  | none => .error (failed .unregistered_process)
  | some descriptor =>
    if !(evaluateRegisteredProcessGrant descriptor grant).allowed then
      .error (failed .process_unauthorized)
    else if conditions.abortedBefore then .error (failed .process_cancelled)
    else
      match validateAbsolutePath (some (.str helperBin)) "registered process helper" >>= fun path =>
        validateCanonicalNativeExecutable files path "registered process helper" with
      | .error _ => .error (failed .process_unavailable)
      | .ok () =>
        if conditions.spawns then .ok descriptor else .error (failed .process_unavailable)

/-- Every settlement of the promise, in the course of the given events. -/
def runRegisteredProcess (files : FileSystem) (registry : RegisteredProcessRegistry)
    (name helperBin : String) (grant : CapabilityGrant) (conditions : Conditions)
    (events : List Event) : List RegisteredProcessResult :=
  match prepare files registry name helperBin grant conditions with
  | .error result => [result]
  | .ok descriptor => (run descriptor.maxOutputBytes conditions.abortedMeanwhile events).resolved

/-! ### What the events call for -/

/-- The process was closed, or could not be started. -/
def ends : Event → Bool
  | .error | .close _ => true
  | _ => false

def stdoutOf : List Event → List UInt8
  | [] => []
  | .stdout chunk :: rest => chunk ++ stdoutOf rest
  | _ :: rest => stdoutOf rest

def stderrOf : List Event → List UInt8
  | [] => []
  | .stderr chunk :: rest => chunk ++ stderrOf rest
  | _ :: rest => stderrOf rest

/-- The first of the events that is a reason to end the process, with the bytes written
before. -/
def firstCause (maxOutputBytes : Int) : Nat → List Event → Option ProcessError
  | _, [] => none
  | written, .stdout chunk :: rest | written, .stderr chunk :: rest =>
    if maxOutputBytes < (written + chunk.length : Nat) then some .process_output_too_large
    else firstCause maxOutputBytes (written + chunk.length) rest
  | _, .timeout :: _ => some .process_timeout
  | _, .abort :: _ => some .process_cancelled
  | written, _ :: rest => firstCause maxOutputBytes written rest

/-- The signal may have been raised before all events. -/
def cause (maxOutputBytes : Int) (aborted : Bool) (events : List Event) : Option ProcessError :=
  if aborted then some .process_cancelled else firstCause maxOutputBytes 0 events

theorem stdoutOf_append (past later : List Event) :
    stdoutOf (past ++ later) = stdoutOf past ++ stdoutOf later := by
  induction past with
  | nil => rfl
  | cons e rest ih => cases e <;> simp [stdoutOf, ih]

theorem stderrOf_append (past later : List Event) :
    stderrOf (past ++ later) = stderrOf past ++ stderrOf later := by
  induction past with
  | nil => rfl
  | cons e rest ih => cases e <;> simp [stderrOf, ih]

section Spec
variable {maxOutputBytes : Int}

/-- A cause found among the first events is the first of all. -/
theorem firstCause_append_some {written : Nat} {past : List Event} {error : ProcessError}
    (found : firstCause maxOutputBytes written past = some error) (later : List Event) :
    firstCause maxOutputBytes written (past ++ later) = some error := by
  induction past generalizing written with
  | nil => exact nomatch found
  | cons e rest ih =>
    cases e with
    | stdout chunk | stderr chunk =>
      simp only [firstCause, List.cons_append] at found ⊢
      split at found
      · rename_i beyond
        rw [if_pos beyond, found]
      · rename_i within
        rw [if_neg within, ih found]
    | timeout | abort => exact found
    | error | exit _ | close _ => exact ih found

theorem firstCause_append_none {written : Nat} {past : List Event}
    (clear : firstCause maxOutputBytes written past = none) (later : List Event) :
    firstCause maxOutputBytes written (past ++ later) = firstCause maxOutputBytes
      (written + (stdoutOf past).length + (stderrOf past).length) later := by
  induction past generalizing written with
  | nil => rfl
  | cons e rest ih =>
    cases e with
    | stdout chunk | stderr chunk =>
      simp only [firstCause, List.cons_append, stdoutOf, stderrOf, List.length_append] at clear ⊢
      split at clear
      · exact nomatch clear
      · rename_i within
        rw [if_neg within, ih clear]
        congr 1
        omega
    | timeout | abort => exact nomatch clear
    | error | exit _ | close _ => exact ih clear

/-- Without a cause, what was written is within the limit. -/
theorem written_le_of_clear {written : Nat} {past : List Event}
    (fits : (written : Int) ≤ max maxOutputBytes 0)
    (clear : firstCause maxOutputBytes written past = none) :
    ((written + (stdoutOf past).length + (stderrOf past).length : Nat) : Int) ≤
      max maxOutputBytes 0 := by
  induction past generalizing written with
  | nil => exact fits
  | cons e rest ih =>
    cases e with
    | stdout chunk | stderr chunk =>
      simp only [firstCause, stdoutOf, stderrOf, List.length_append] at clear ⊢
      split at clear
      · exact nomatch clear
      · have more := ih (by omega) clear
        omega
    | timeout | abort => exact nomatch clear
    | error | exit _ | close _ => exact ih fits clear

theorem firstCause_step {past : List Event} (clear : firstCause maxOutputBytes 0 past = none)
    (e : Event) : firstCause maxOutputBytes 0 (past ++ [e]) = firstCause maxOutputBytes
      ((stdoutOf past).length + (stderrOf past).length) [e] := by
  have next := firstCause_append_none clear [e]
  rwa [Nat.zero_add] at next

end Spec

/-! ### The run before its end -/

section Run
variable {maxOutputBytes : Int} {aborted : Bool}

/-- What the variables hold while the process has not ended. -/
structure Open (maxOutputBytes : Int) (aborted : Bool) (past : List Event) (s : Run) : Prop where
  unsettled : s.settled = false
  unresolved : s.resolved = []
  reason : s.terminationError = cause maxOutputBytes aborted past
  stdout : cause maxOutputBytes aborted past = none →
    s.stdout.flatten = stdoutOf past ∧ s.stdoutBytes = (stdoutOf past).length
  stderr : cause maxOutputBytes aborted past = none →
    s.stderr.flatten = stderrOf past ∧ s.stderrBytes = (stderrOf past).length

theorem setUp_open : Open maxOutputBytes aborted [] (setUp aborted) := by
  cases aborted with
  | false => exact ⟨rfl, rfl, rfl, fun _ => ⟨rfl, rfl⟩, fun _ => ⟨rfl, rfl⟩⟩
  | true =>
    refine ⟨rfl, rfl, rfl, fun h => ?_, fun h => ?_⟩
    · exact nomatch h
    · exact nomatch h

theorem cause_append_some {past : List Event} {error : ProcessError}
    (found : cause maxOutputBytes aborted past = some error) (later : List Event) :
    cause maxOutputBytes aborted (past ++ later) = some error := by
  cases aborted with
  | false => exact firstCause_append_some found later
  | true => exact found

/-- A run that has its cause keeps it, whatever comes before its end. -/
theorem Open.step_caused {past : List Event} {s : Run} (own : Open maxOutputBytes aborted past s)
    {error : ProcessError} (found : cause maxOutputBytes aborted past = some error) {e : Event}
    (goes : ends e = false) :
    Open maxOutputBytes aborted (past ++ [e]) (step maxOutputBytes s e) := by
  have kept := cause_append_some found [e]
  have reason : s.terminationError = some error := own.reason.trans found
  have marked : s.terminationError.isSome = true := by rw [reason]; rfl
  have same : step maxOutputBytes s e = s := by
    cases e with
    | stdout chunk => exact if_pos marked
    | stderr chunk => exact if_pos marked
    | timeout => exact if_pos (by rw [marked, Bool.or_true])
    | abort => exact if_pos (by rw [marked, Bool.or_true])
    | exit _ => rfl
    | error => exact nomatch goes
    | close _ => exact nomatch goes
  rw [same]
  refine ⟨own.unsettled, own.unresolved, reason.trans kept.symm, fun h => ?_, fun h => ?_⟩
  · exact nomatch kept.symm.trans h
  · exact nomatch kept.symm.trans h

/-- A cause that comes up now is the first. -/
theorem Open.terminated {past : List Event} {counted : Run} {e : Event} {error : ProcessError}
    (found : cause maxOutputBytes aborted (past ++ [e]) = some error)
    (unsettled : counted.settled = false) (unresolved : counted.resolved = [])
    (free : counted.terminationError = none) :
    Open maxOutputBytes aborted (past ++ [e]) (terminate error counted) := by
  have marked : terminate error counted =
      { counted with terminationError := some error, kills := counted.kills + 1 } := by
    rw [terminate, if_neg]
    rw [unsettled, free]
    exact Bool.false_ne_true
  rw [marked]
  refine ⟨unsettled, unresolved, found.symm, fun h => ?_, fun h => ?_⟩
  · exact nomatch found.symm.trans h
  · exact nomatch found.symm.trans h

theorem Open.step_clear {past : List Event} {s : Run} (own : Open maxOutputBytes aborted past s)
    (clear : cause maxOutputBytes aborted past = none) {e : Event} (goes : ends e = false) :
    Open maxOutputBytes aborted (past ++ [e]) (step maxOutputBytes s e) := by
  cases aborted with
  | true => exact nomatch clear
  | false =>
    have free : s.terminationError = none := own.reason.trans clear
    have unmarked : ¬ s.terminationError.isSome = true := by
      rw [free]
      exact Bool.false_ne_true
    have next := firstCause_step clear e
    obtain ⟨out, outBytes⟩ := own.stdout clear
    obtain ⟨err, errBytes⟩ := own.stderr clear
    cases e with
    | stdout chunk =>
      show Open maxOutputBytes false (past ++ [.stdout chunk]) (onStdout maxOutputBytes chunk s)
      rw [onStdout, if_neg unmarked]
      simp only [firstCause] at next
      by_cases beyond : maxOutputBytes < ((stdoutOf past).length + (stderrOf past).length +
          chunk.length : Nat)
      · rw [if_pos beyond] at next
        rw [if_pos (by dsimp only; omega)]
        exact Open.terminated next own.unsettled own.unresolved free
      · rw [if_neg beyond] at next
        rw [if_neg (by dsimp only; omega)]
        refine ⟨own.unsettled, own.unresolved, free.trans next.symm, fun _ => ?_, fun _ => ?_⟩
        · rw [stdoutOf_append]
          simp [stdoutOf, out, outBytes]
        · rw [stderrOf_append]
          simp [stderrOf, err, errBytes]
    | stderr chunk =>
      show Open maxOutputBytes false (past ++ [.stderr chunk]) (onStderr maxOutputBytes chunk s)
      rw [onStderr, if_neg unmarked]
      simp only [firstCause] at next
      by_cases beyond : maxOutputBytes < ((stdoutOf past).length + (stderrOf past).length +
          chunk.length : Nat)
      · rw [if_pos beyond] at next
        rw [if_pos (by dsimp only; omega)]
        exact Open.terminated next own.unsettled own.unresolved free
      · rw [if_neg beyond] at next
        rw [if_neg (by dsimp only; omega)]
        refine ⟨own.unsettled, own.unresolved, free.trans next.symm, fun _ => ?_, fun _ => ?_⟩
        · rw [stdoutOf_append]
          simp [stdoutOf, out, outBytes]
        · rw [stderrOf_append]
          simp [stderrOf, err, errBytes]
    | timeout => exact Open.terminated next own.unsettled own.unresolved free
    | abort => exact Open.terminated next own.unsettled own.unresolved free
    | exit code =>
      refine ⟨own.unsettled, own.unresolved, free.trans next.symm, fun _ => ?_, fun _ => ?_⟩
      · rw [stdoutOf_append, show stdoutOf [Event.exit code] = [] from rfl, List.append_nil]
        exact ⟨out, outBytes⟩
      · rw [stderrOf_append, show stderrOf [Event.exit code] = [] from rfl, List.append_nil]
        exact ⟨err, errBytes⟩
    | error => exact nomatch goes
    | close _ => exact nomatch goes

theorem Open.step {past : List Event} {s : Run} (own : Open maxOutputBytes aborted past s)
    {e : Event} (goes : ends e = false) :
    Open maxOutputBytes aborted (past ++ [e]) (ProcessRuns.step maxOutputBytes s e) := by
  cases found : cause maxOutputBytes aborted past with
  | none => exact own.step_clear found goes
  | some error => exact own.step_caused found goes

theorem run_open (events : List Event) (goes : ∀ e ∈ events, ends e = false) :
    Open maxOutputBytes aborted events (run maxOutputBytes aborted events) := by
  induction events using List.reverseRecOn with
  | nil => exact setUp_open
  | append_singleton past e ih =>
    obtain ⟨before, last⟩ := List.forall_mem_append.mp goes
    rw [run, List.foldl_append]
    exact (ih before).step (last e (List.mem_singleton_self e))

/-! ### The run after its end -/

/-- What the promise is settled with by the event that ends the run. -/
def outcome (maxOutputBytes : Int) (aborted : Bool) (past : List Event) :
    Event → RegisteredProcessResult
  | .close code =>
    match cause maxOutputBytes aborted past with
    | some error => failed error
    | none => closedWith code (stdoutOf past) (stderrOf past)
  | _ => failed .process_unavailable

theorem bufferConcat_flatten {chunks : List (List UInt8)} {bytes : List UInt8} {total : Nat}
    (whole : chunks.flatten = bytes ∧ total = bytes.length) : bufferConcat chunks total = bytes := by
  rw [bufferConcat, whole.1, whole.2, List.take_length, Nat.sub_self, List.replicate_zero,
    List.append_nil]

theorem Open.settle {past : List Event} {s : Run} (own : Open maxOutputBytes aborted past s)
    {e : Event} (ended : ends e = true) :
    (ProcessRuns.step maxOutputBytes s e).settled = true ∧
      (ProcessRuns.step maxOutputBytes s e).resolved = [outcome maxOutputBytes aborted past e] := by
  have finished : ∀ result, (finish result s).settled = true ∧
      (finish result s).resolved = [result] := by
    intro result
    rw [finish, own.unsettled, own.unresolved]
    exact ⟨rfl, rfl⟩
  cases e with
  | error => exact finished _
  | close code =>
    have reason := own.reason
    dsimp only [ProcessRuns.step, onClose, outcome]
    rw [if_neg (by rw [own.unsettled]; exact Bool.false_ne_true), reason]
    cases found : cause maxOutputBytes aborted past with
    | some error => exact finished _
    | none =>
      dsimp only
      rw [bufferConcat_flatten (own.stdout found), bufferConcat_flatten (own.stderr found)]
      exact finished _
  | stdout _ => exact nomatch ended
  | stderr _ => exact nomatch ended
  | timeout => exact nomatch ended
  | abort => exact nomatch ended
  | exit _ => exact nomatch ended

/-- Once settled, the promise stays as it is. -/
theorem step_settled {s : Run} (settled : s.settled = true) (e : Event) :
    (ProcessRuns.step maxOutputBytes s e).settled = true ∧
      (ProcessRuns.step maxOutputBytes s e).resolved = s.resolved := by
  have terminated : ∀ error (counted : Run), counted.settled = true →
      counted.resolved = s.resolved → (terminate error counted).settled = true ∧
        (terminate error counted).resolved = s.resolved := by
    intro error counted held same
    rw [terminate, held, Bool.true_or, if_pos rfl]
    exact ⟨held, same⟩
  cases e with
  | stdout chunk =>
    dsimp only [ProcessRuns.step, onStdout]
    split
    · exact ⟨settled, rfl⟩
    split
    · exact terminated _ _ settled rfl
    · exact ⟨settled, rfl⟩
  | stderr chunk =>
    dsimp only [ProcessRuns.step, onStderr]
    split
    · exact ⟨settled, rfl⟩
    split
    · exact terminated _ _ settled rfl
    · exact ⟨settled, rfl⟩
  | timeout => exact terminated _ s settled rfl
  | abort => exact terminated _ s settled rfl
  | error =>
    dsimp only [ProcessRuns.step]
    rw [finish, if_pos settled]
    exact ⟨settled, rfl⟩
  | exit _ => exact ⟨settled, rfl⟩
  | close code =>
    dsimp only [ProcessRuns.step, onClose]
    rw [if_pos settled]
    exact ⟨settled, rfl⟩

theorem foldl_settled (later : List Event) {s : Run} (settled : s.settled = true) :
    (later.foldl (ProcessRuns.step maxOutputBytes) s).resolved = s.resolved := by
  induction later generalizing s with
  | nil => rfl
  | cons e rest ih =>
    obtain ⟨still, same⟩ := step_settled settled e
    rw [List.foldl_cons, ih still, same]

/-- A run ends with the first event that ends it. -/
theorem split_ends (events : List Event) : (∀ e ∈ events, ends e = false) ∨
    ∃ past e later, events = past ++ e :: later ∧ (∀ e ∈ past, ends e = false) ∧
      ends e = true := by
  induction events with
  | nil => exact Or.inl fun _ mem => absurd mem List.not_mem_nil
  | cons first rest ih =>
    cases own : ends first with
    | true => exact Or.inr ⟨[], first, rest, rfl, fun _ mem => absurd mem List.not_mem_nil, own⟩
    | false =>
      rcases ih with all | ⟨past, e, later, rfl, before, ended⟩
      · exact Or.inl (List.forall_mem_cons.mpr ⟨own, all⟩)
      · exact Or.inr ⟨first :: past, e, later, rfl, List.forall_mem_cons.mpr ⟨own, before⟩, ended⟩

theorem resolved_past (past later : List Event) {e : Event} (before : ∀ e ∈ past, ends e = false)
    (ended : ends e = true) : (run maxOutputBytes aborted (past ++ e :: later)).resolved =
      [outcome maxOutputBytes aborted past e] := by
  obtain ⟨settled, resolved⟩ := (@run_open maxOutputBytes aborted past before).settle ended
  rw [run, List.foldl_append, List.foldl_cons, ← run, foldl_settled later settled, resolved]

/-- What a settlement says, of the events in front of the one that made it. -/
theorem outcome_ok {past : List Event} {e : Event} (ended : ends e = true)
    (success : (outcome maxOutputBytes aborted past e).ok = true) :
    e = .close (some 0) ∧ cause maxOutputBytes aborted past = none ∧
      outcome maxOutputBytes aborted past e =
        closedWith (some 0) (stdoutOf past) (stderrOf past) := by
  cases e with
  | close code =>
    dsimp only [outcome] at success ⊢
    cases found : cause maxOutputBytes aborted past with
    | some error =>
      rw [found] at success
      exact nomatch success
    | none =>
      rw [found] at success
      cases of_decide_eq_true success
      exact ⟨rfl, rfl, rfl⟩
  | error => exact nomatch success
  | stdout _ => exact nomatch ended
  | stderr _ => exact nomatch ended
  | timeout => exact nomatch ended
  | abort => exact nomatch ended
  | exit _ => exact nomatch ended

theorem written_within {past : List Event} (clear : cause maxOutputBytes aborted past = none) :
    ((stdoutOf past).length + (stderrOf past).length : Int) ≤ max maxOutputBytes 0 := by
  cases aborted with
  | true => exact nomatch clear
  | false =>
    have within := @written_le_of_clear maxOutputBytes 0 past (le_max_right _ _) clear
    omega

/-- Events that do not end a run lie before the one that does. -/
theorem prefix_of_goes {past later front back : List Event} {e : Event} (ended : ends e = true)
    (same : past ++ e :: later = front ++ back) (goes : ∀ e ∈ front, ends e = false) :
    ∃ rest, past = front ++ rest := by
  rcases List.append_eq_append_iff.mp same with ⟨rest, rfl, tail⟩ | ⟨rest, whole, _⟩
  · cases rest with
    | nil => exact ⟨[], by rw [List.append_nil, List.append_nil]⟩
    | cons first rest =>
      cases tail
      have calm := goes e (List.mem_append_right _ List.mem_cons_self)
      exact nomatch ended.symm.trans calm
  · exact ⟨rest, whole⟩

theorem outcome_caused {past : List Event} {e : Event} {error : ProcessError}
    (ended : ends e = true) (other : e ≠ .error)
    (found : cause maxOutputBytes aborted past = some error) :
    outcome maxOutputBytes aborted past e = failed error := by
  cases e with
  | close code =>
    dsimp only [outcome]
    rw [found]
  | error => exact absurd rfl other
  | stdout _ => exact nomatch ended
  | stderr _ => exact nomatch ended
  | timeout => exact nomatch ended
  | abort => exact nomatch ended
  | exit _ => exact nomatch ended

end Run

/-- A promise that is settled once and faithfully, whatever the events: it is settled if the
process ends, for good; success comes of a process that closed with no cause before, and brings
what was written; without an error event, the first cause before the end is what is reported. -/
structure Faithful (prepared : Except RegisteredProcessResult RegisteredProcessDescriptor)
    (aborted : Bool) (events : List Event)
    (settlements : List Event → List RegisteredProcessResult) : Prop where
  once : (settlements events).length ≤ 1
  settles : (settlements events).length = 1 ↔
    ∀ descriptor, prepared = .ok descriptor → ∃ e ∈ events, ends e = true
  stays : ∀ later, settlements events ≠ [] → settlements (events ++ later) = settlements events
  success : ∀ result ∈ settlements events, result.ok = true →
    ∃ descriptor past later, prepared = .ok descriptor ∧
      events = past ++ .close (some 0) :: later ∧ (∀ e ∈ past, ends e = false) ∧
      cause descriptor.maxOutputBytes aborted past = none ∧
      result.stdout = some (bufferText (stdoutOf past)) ∧
      result.stderr = some (bufferText (stderrOf past)) ∧
      ((stdoutOf past).length + (stderrOf past).length : Int) ≤ max descriptor.maxOutputBytes 0
  first : ∀ descriptor past later error, prepared = .ok descriptor → events = past ++ later →
    (∀ e ∈ past, ends e = false) → Event.error ∉ events →
    cause descriptor.maxOutputBytes aborted past = some error →
    ∀ result ∈ settlements events, result = failed error

theorem faithful_refused {result : RegisteredProcessResult} (refused : result.ok = false)
    (aborted : Bool) (events : List Event) :
    Faithful (.error result) aborted events fun _ => [result] := by
  constructor
  · exact Nat.le_refl _
  · refine ⟨fun _ descriptor h => ?_, fun _ => rfl⟩
    exact nomatch h
  · exact fun _ _ => rfl
  · intro found mem success
    rw [List.mem_singleton.mp mem, refused] at success
    exact nomatch success
  · intro descriptor past later error h
    exact nomatch h

theorem faithful_started (descriptor : RegisteredProcessDescriptor) (aborted : Bool)
    (events : List Event) : Faithful (.ok descriptor) aborted events fun events =>
      (run descriptor.maxOutputBytes aborted events).resolved := by
  rcases split_ends events with all | ⟨past, e, later, rfl, before, ended⟩
  · have none' := (@run_open descriptor.maxOutputBytes aborted events all).unresolved
    constructor
    · rw [none']
      exact Nat.zero_le _
    · rw [none']
      refine ⟨fun h => ?_, fun h => ?_⟩
      · exact nomatch h
      obtain ⟨e, mem, ended⟩ := h descriptor rfl
      exact nomatch ended.symm.trans (all e mem)
    · exact fun _ some' => absurd none' some'
    · intro result mem
      rw [none'] at mem
      exact absurd mem List.not_mem_nil
    · intro _ _ _ _ _ _ _ _ _ result mem
      rw [none'] at mem
      exact absurd mem List.not_mem_nil
  · have resolved := fun later =>
      @resolved_past descriptor.maxOutputBytes aborted past later e before ended
    constructor
    · rw [resolved later]
      exact Nat.le_refl _
    · rw [resolved later]
      refine ⟨fun _ other h => ?_, fun _ => rfl⟩
      exact ⟨e, List.mem_append_right _ List.mem_cons_self, ended⟩
    · intro more _
      rw [List.append_assoc, List.cons_append, resolved, resolved]
    · intro result mem success
      rw [resolved later] at mem
      rw [List.mem_singleton.mp mem] at success ⊢
      obtain ⟨rfl, clear, same⟩ := outcome_ok ended success
      rw [same]
      exact ⟨descriptor, past, later, rfl, rfl, before, clear, rfl, rfl, written_within clear⟩
    · intro other front back error h split goes absent found result mem
      cases h
      rw [resolved later] at mem
      rw [List.mem_singleton.mp mem]
      obtain ⟨rest, rfl⟩ := prefix_of_goes ended split goes
      refine outcome_caused ended ?_ (cause_append_some found rest)
      rintro rfl
      exact absent (List.mem_append_right _ List.mem_cons_self)

theorem prepare_error {files : FileSystem} {registry : RegisteredProcessRegistry}
    {name helperBin : String} {grant : CapabilityGrant} {conditions : Conditions}
    {result : RegisteredProcessResult}
    (h : prepare files registry name helperBin grant conditions = .error result) :
    result.ok = false := by
  unfold prepare at h
  split at h
  · cases h
    rfl
  split at h
  · cases h
    rfl
  split at h
  · cases h
    rfl
  split at h
  · cases h
    rfl
  split at h
  · exact nomatch h
  · cases h
    rfl

theorem runRegisteredProcess_faithful (files : FileSystem) (registry : RegisteredProcessRegistry)
    (name helperBin : String) (grant : CapabilityGrant) (conditions : Conditions)
    (events : List Event) :
    Faithful (prepare files registry name helperBin grant conditions) conditions.abortedMeanwhile
      events (runRegisteredProcess files registry name helperBin grant conditions) := by
  have run := fun events => show runRegisteredProcess files registry name helperBin grant
    conditions events = match prepare files registry name helperBin grant conditions with
      | .error result => [result]
      | .ok descriptor =>
        (run descriptor.maxOutputBytes conditions.abortedMeanwhile events).resolved from rfl
  rw [funext run]
  cases ready : prepare files registry name helperBin grant conditions with
  | error result => exact faithful_refused (prepare_error ready) _ events
  | ok descriptor => exact faithful_started descriptor _ events

end ProcessRuns
