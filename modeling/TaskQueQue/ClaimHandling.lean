import TaskQueQue.LabelledRuns
import TaskQueQue.RequestFingerprints
import TaskQueQue.SerializedResults

/-!
# How a worker handles a claim

Two asynchronous loops run for a claim. One keeps the lease by heartbeats; the other runs the
handler of the task and reports its outcome. They share two abort signals and a flag for a lost
lease. What runs from one `await` to the next is one step here. In which order the loops go on,
what the handler does and what the coordinator answers are up to the environment.
-/

namespace ClaimHandling

open GatewayValues LabelledRuns SerializedResults

/-! ### Fetch functions -/

/-- The platform's `fetch`, another one by its name, or one that looks at the task's signal. -/
inductive Fetch
  | platform
  | other (name : String)
  | aware (base : Fetch)

def cancellationAwareFetch (fetchImpl : Option Fetch) : Fetch := .aware (fetchImpl.getD .platform)

/-- Whether a call goes out; else it throws. -/
def Fetch.starts (aborted : Bool) : Fetch → Bool
  | .platform | .other _ => true
  | .aware base => !aborted && base.starts aborted

/-- The two fetch functions of a workflow's configuration. -/
structure GatewayFetches where
  fetchImpl : Option Fetch := none
  resultFetchImpl : Option Fetch := none

/-- What a request is made for: the gateway's own API, or the result of a child. -/
inductive Channel
  | gateway
  | result

/-- The fetch function of `gatewayJson`, and that of `fetchProjection`. -/
def GatewayFetches.of (config : GatewayFetches) : Channel → Fetch
  | .gateway => config.fetchImpl.getD .platform
  | .result => config.resultFetchImpl.getD .platform

/-- The configuration a workflow is executed with. -/
def cancellableConfig (validated : GatewayFetches) : GatewayFetches where
  fetchImpl := some (cancellationAwareFetch validated.fetchImpl)
  resultFetchImpl := some (cancellationAwareFetch validated.resultFetchImpl)

/-! ### Handlers -/

inductive Thrown
  | payload (message : String)
  | other (message : String)

structure WorkerHandler where
  taskName : String
  taskType : String
  fetches : GatewayFetches
  classifyError : Option (Thrown → String)

structure WorkerHandlerRegistry where
  workerType : String
  handlers : List WorkerHandler

def WorkerHandlerRegistry.resolve (registry : WorkerHandlerRegistry) (taskName taskType : String) :
    Option WorkerHandler :=
  if taskType ≠ registry.workerType then none
  else registry.handlers.find? fun handler => decide (handler.taskName = taskName)

/-- The handler of `createWorkflowWorkerRegistry`. -/
def workflowHandler (validated : GatewayFetches) : WorkerHandler where
  taskName := "workflow.run"
  taskType := "workflow"
  fetches := cancellableConfig validated
  classifyError := some fun
    | .payload _ => "invalid_payload"
    | .other _ => "processing_failed"

/-! ### The two loops -/

inductive Outcome
  | complete (projection : Option String)
  | fail (code : String)
deriving DecidableEq

/-- What `handleClaim` waits for: the delay, the handler, the end of the heartbeats with what it
sends then, the answer to what it sent. -/
inductive Main
  | idle
  | delaying
  | handling
  | stopping (next : Option Outcome)
  | sending
  | returned

/-- What the heartbeat loop waits for; a loop that was not started is finished. -/
inductive Beat
  | sleeping
  | session
  | lease
  | finished
deriving DecidableEq

structure Claim where
  main : Main := .idle
  beat : Beat := .finished
  leaseLost : Bool := false
  heartbeatAborted : Bool := false
  processingAborted : Bool := false
  started : Bool := false

/-- A status, or why there is none. -/
abbrev Answer := Except String Nat

def Answer.applied : Answer → Bool
  | .ok status => decide (200 ≤ status ∧ status ≤ 299)
  | .error _ => false

inductive Event
  | begun
  | woke
  | sessionAnswered (answer : Answer)
  | leaseAnswered (answer : Answer)
  | delayed
  | called (channel : Channel)
  | handled (outcome : Except Thrown (Option Json))
  | loopEnded
  | answered (answer : Answer)

inductive Effect
  | sessionHeartbeat
  | taskHeartbeat
  | sent (outcome : Outcome)
  | request (channel : Channel)

abbrev Label := Event × List Effect

/-- The loop's `catch`, to the end of the loop. -/
def loseLease (s : Claim) : Claim :=
  { s with leaseLost := true, processingAborted := true, heartbeatAborted := true, beat := .finished }

section Steps
variable (web : WebRuntime) (processDelayMs : Nat)

def WorkerHandler.failure (handler : WorkerHandler) (error : Thrown) : Outcome :=
  .fail <|
    match handler.classifyError with
    | some classify => classify error
    | none => "processing_failed"

/-- What the end of the handler leads to. -/
def nextOutcome (handler : WorkerHandler) : Except Thrown (Option Json) → Outcome
  | .error error => handler.failure error
  | .ok result =>
    match serializeResultProjection web result with
    | .error message => handler.failure (.other message)
    | .ok projection => .complete projection

inductive Step : Option WorkerHandler → Claim → Label → Claim → Prop
  | unsupported {s : Claim} (idle : s.main = .idle) :
      Step none s (.begun, [.sent (.fail "unsupported_task")]) { s with main := .sending }
  | begunDelayed {handler : WorkerHandler} {s : Claim} (idle : s.main = .idle)
      (delay : 0 < processDelayMs) :
      Step (some handler) s (.begun, []) { s with main := .delaying, beat := .sleeping }
  | begun {handler : WorkerHandler} {s : Claim} (idle : s.main = .idle)
      (delay : processDelayMs = 0) : Step (some handler) s (.begun, [])
        { s with main := .handling, beat := .sleeping, started := true }
  | woke {handler : Option WorkerHandler} {s : Claim} (sleeping : s.beat = .sleeping)
      (goes : s.heartbeatAborted = false) :
      Step handler s (.woke, [.sessionHeartbeat]) { s with beat := .session }
  | wokeAborted {handler : Option WorkerHandler} {s : Claim} (sleeping : s.beat = .sleeping)
      (aborted : s.heartbeatAborted = true) : Step handler s (.woke, []) { s with beat := .finished }
  | sessionKept {handler : Option WorkerHandler} {s : Claim} {answer : Answer}
      (waits : s.beat = .session) (kept : answer.applied = true) :
      Step handler s (.sessionAnswered answer, [.taskHeartbeat]) { s with beat := .lease }
  | sessionLost {handler : Option WorkerHandler} {s : Claim} {answer : Answer}
      (waits : s.beat = .session) (lost : answer.applied = false) :
      Step handler s (.sessionAnswered answer, []) (loseLease s)
  | leaseKept {handler : Option WorkerHandler} {s : Claim} {answer : Answer}
      (waits : s.beat = .lease) (kept : answer.applied = true) :
      Step handler s (.leaseAnswered answer, [])
        { s with beat := if s.heartbeatAborted then .finished else .sleeping }
  | leaseLost {handler : Option WorkerHandler} {s : Claim} {answer : Answer}
      (waits : s.beat = .lease) (lost : answer.applied = false) :
      Step handler s (.leaseAnswered answer, []) (loseLease s)
  | delayed {handler : WorkerHandler} {s : Claim} (waits : s.main = .delaying)
      (goes : s.processingAborted = false) :
      Step (some handler) s (.delayed, []) { s with main := .handling, started := true }
  | delayedAborted {handler : WorkerHandler} {s : Claim} (waits : s.main = .delaying)
      (aborted : s.processingAborted = true) : Step (some handler) s (.delayed, [])
        { s with main := .stopping none, heartbeatAborted := true }
  | called {handler : WorkerHandler} {s : Claim} (started : s.started = true) (channel : Channel) :
      Step (some handler) s (.called channel,
        if (handler.fetches.of channel).starts s.processingAborted then [.request channel] else []) s
  | handled {handler : WorkerHandler} {s : Claim} (waits : s.main = .handling)
      (outcome : Except Thrown (Option Json)) : Step (some handler) s (.handled outcome, [])
        { s with main := .stopping (some (nextOutcome web handler outcome))
                 heartbeatAborted := true }
  | sends {handler : Option WorkerHandler} {s : Claim} {outcome : Outcome}
      (waits : s.main = .stopping (some outcome)) (ended : s.beat = .finished)
      (held : s.leaseLost = false) :
      Step handler s (.loopEnded, [.sent outcome]) { s with main := .sending }
  | silent {handler : Option WorkerHandler} {s : Claim} {next : Option Outcome}
      (waits : s.main = .stopping next) (ended : s.beat = .finished)
      (lost : next = none ∨ s.leaseLost = true) :
      Step handler s (.loopEnded, []) { s with main := .returned }
  | answered {handler : Option WorkerHandler} {s : Claim} (waits : s.main = .sending)
      (answer : Answer) : Step handler s (.answered answer, []) { s with main := .returned }

end Steps

/-! ### What holds across a run -/

/-- A heartbeat that reports the lease lost. -/
def Lost : Event → Prop
  | .sessionAnswered answer | .leaseAnswered answer => answer.applied = false
  | _ => False

def Effect.outcome? : Effect → Option Outcome
  | .sent outcome => some outcome
  | _ => none

def outcomes (history : List Label) : List Outcome :=
  history.flatMap fun label => label.2.filterMap Effect.outcome?

theorem outcomes_append (past : List Label) (label : Label) :
    outcomes (past ++ [label]) = outcomes past ++ label.2.filterMap Effect.outcome? := by
  rw [outcomes, List.flatMap_append, List.flatMap_singleton]
  rfl

section Invariant
variable {web : WebRuntime} {processDelayMs : Nat} {handler : Option WorkerHandler}

/-- The handler has returned, and its projection was accepted. -/
def Projected (web : WebRuntime) (past : List Label) (projection : Option String) : Prop :=
  ∃ result, (Event.handled (.ok result), []) ∈ past ∧
    serializeResultProjection web result = .ok projection

def Main.settled : Main → Bool
  | .sending | .returned => true
  | _ => false

structure Invariant (web : WebRuntime) (past : List Label) (s : Claim) : Prop where
  lost : s.leaseLost = true ↔ ∃ label ∈ past, Lost label.1
  aborted : s.processingAborted = s.leaseLost
  ended : s.leaseLost = true ∨ s.main = .idle ∨ s.main.settled = true → s.beat = .finished
  unsent : s.main.settled = false → outcomes past = []
  single : (outcomes past).length ≤ 1
  silent : s.leaseLost = true → outcomes past = []
  held : s.main = .idle ∨ s.main = .sending → s.leaseLost = false
  ready : ∀ projection, s.main = .stopping (some (.complete projection)) →
    Projected web past projection

theorem Projected.mono {past : List Label} {projection : Option String}
    (h : Projected web past projection) (label : Label) :
    Projected web (past ++ [label]) projection := by
  obtain ⟨result, mem, accepted⟩ := h
  exact ⟨result, List.mem_append_left _ mem, accepted⟩

theorem lost_append {past : List Label} {label : Label} :
    (∃ l ∈ past ++ [label], Lost l.1) ↔ (∃ l ∈ past, Lost l.1) ∨ Lost label.1 := by
  constructor
  · rintro ⟨l, mem, lost⟩
    rcases List.mem_append.mp mem with mem | mem
    · exact Or.inl ⟨l, mem, lost⟩
    · rw [List.mem_singleton.mp mem] at lost
      exact Or.inr lost
  · rintro (⟨l, mem, lost⟩ | lost)
    · exact ⟨l, List.mem_append_left _ mem, lost⟩
    · exact ⟨label, List.mem_append_right _ (List.mem_singleton_self label), lost⟩

theorem nextOutcome_complete {handler : WorkerHandler} {outcome : Except Thrown (Option Json)}
    {projection : Option String} (h : nextOutcome web handler outcome = .complete projection) :
    ∃ result, outcome = .ok result ∧ serializeResultProjection web result = .ok projection := by
  cases outcome with
  | error e => cases h
  | ok result =>
    rw [nextOutcome] at h
    split at h
    · cases h
    · rename_i accepted
      cases h
      exact ⟨result, rfl, accepted⟩

theorem invariant_first : Invariant web [] {} := by
  constructor
  · refine ⟨fun h => ?_, fun ⟨_, mem, _⟩ => ?_⟩
    · cases h
    · exact absurd mem List.not_mem_nil
  · rfl
  · exact fun _ => rfl
  · exact fun _ => rfl
  · exact Nat.zero_le 1
  · exact fun _ => rfl
  · exact fun _ => rfl
  · exact fun _ h => by cases h

/-- A step of the heartbeat loop that keeps the lease, or none of it. -/
theorem Invariant.kept {past : List Label} {s s' : Claim} {label : Label}
    (own : Invariant web past s) (calm : ¬ Lost label.1)
    (quiet : label.2.filterMap Effect.outcome? = []) (main : s'.main = s.main)
    (same : s'.leaseLost = s.leaseLost) (aborted : s'.processingAborted = s.processingAborted)
    (ended : s.beat = .finished → s'.beat = .finished) : Invariant web (past ++ [label]) s' := by
  have none' : outcomes (past ++ [label]) = outcomes past := by
    rw [outcomes_append, quiet, List.append_nil]
  constructor
  · rw [lost_append, same, own.lost]
    exact ⟨Or.inl, fun h => h.resolve_right calm⟩
  · rw [aborted, same, own.aborted]
  · rw [same, main]
    exact fun h => ended (own.ended h)
  · rw [main, none']
    exact own.unsent
  · rw [none']
    exact own.single
  · rw [same, none']
    exact own.silent
  · rw [main, same]
    exact own.held
  · rw [main]
    exact fun projection waits => (own.ready projection waits).mono label

theorem Invariant.lose {past : List Label} {s : Claim} {label : Label}
    (own : Invariant web past s) (lost : Lost label.1)
    (quiet : label.2.filterMap Effect.outcome? = []) (waits : s.beat ≠ .finished) :
    Invariant web (past ++ [label]) (loseLease s) := by
  have none' : outcomes (past ++ [label]) = outcomes past := by
    rw [outcomes_append, quiet, List.append_nil]
  have open' : s.main.settled = false := by
    cases settled : s.main.settled with
    | false => rfl
    | true => exact absurd (own.ended (Or.inr (Or.inr settled))) waits
  constructor
  · rw [lost_append]
    exact ⟨fun _ => Or.inr lost, fun _ => rfl⟩
  · rfl
  · exact fun _ => rfl
  · rw [none']
    exact own.unsent
  · rw [none']
    exact own.single
  · rw [none']
    exact fun _ => own.unsent open'
  · rintro (idle | sending)
    · exact absurd (own.ended (Or.inr (Or.inl idle))) waits
    · rw [show s.main = .sending from sending] at open'
      cases open'
  · exact fun projection stopping => (own.ready projection stopping).mono label

/-- A step of the handler's loop that sends no outcome. -/
theorem Invariant.moved {past : List Label} {s s' : Claim} {label : Label}
    (own : Invariant web past s) (calm : ¬ Lost label.1)
    (quiet : label.2.filterMap Effect.outcome? = []) (open' : s.main.settled = false)
    (same : s'.leaseLost = s.leaseLost) (aborted : s'.processingAborted = s.processingAborted)
    (lost : s.leaseLost = true → s'.beat = .finished)
    (settled : s'.main.settled = true → s'.beat = .finished)
    (moved : s'.main ≠ .idle ∧ s'.main ≠ .sending)
    (ready : ∀ projection, s'.main = .stopping (some (.complete projection)) →
      Projected web (past ++ [label]) projection) : Invariant web (past ++ [label]) s' := by
  have none' : outcomes (past ++ [label]) = [] := by
    rw [outcomes_append, quiet, List.append_nil, own.unsent open']
  constructor
  · rw [lost_append, same, own.lost]
    exact ⟨Or.inl, fun h => h.resolve_right calm⟩
  · rw [aborted, same, own.aborted]
  · rw [same]
    exact fun h => h.elim lost fun h => h.elim (fun idle => absurd idle moved.1) settled
  · exact fun _ => none'
  · rw [none']
    exact Nat.zero_le 1
  · exact fun _ => none'
  · exact fun h => absurd h (not_or.mpr moved)
  · exact ready

/-- The one step that sends an outcome. -/
theorem Invariant.sent {past : List Label} {s : Claim} {event : Event} {outcome : Outcome}
    (own : Invariant web past s) (calm : ¬ Lost event) (open' : s.main.settled = false)
    (held : s.leaseLost = false) (ended : s.beat = .finished) :
    Invariant web (past ++ [(event, [.sent outcome])]) { s with main := .sending } := by
  have one : outcomes (past ++ [(event, [.sent outcome])]) = [outcome] := by
    rw [outcomes_append, own.unsent open']
    rfl
  constructor
  · rw [lost_append, own.lost]
    exact ⟨Or.inl, fun h => h.resolve_right calm⟩
  · exact own.aborted
  · exact fun _ => ended
  · exact fun h => by cases h
  · rw [one]
    exact Nat.le_refl 1
  · exact fun lost => absurd (held.symm.trans lost) Bool.false_ne_true
  · exact fun _ => held
  · exact fun _ h => by cases h

theorem Invariant.step {past : List Label} {s s' : Claim} {label : Label}
    (own : Invariant web past s) (taken : Step web processDelayMs handler s label s') :
    Invariant web (past ++ [label]) s' := by
  cases taken with
  | unsupported idle =>
    exact own.sent id (by rw [idle]; rfl) (own.held (Or.inl idle)) (own.ended (Or.inr (Or.inl idle)))
  | begunDelayed idle delay =>
    have held := own.held (Or.inl idle)
    refine own.moved id rfl (by rw [idle]; rfl) rfl rfl ?_ ?_ ⟨by rintro ⟨⟩, by rintro ⟨⟩⟩ ?_
    · exact fun lost => absurd (held.symm.trans lost) Bool.false_ne_true
    · exact fun settled => by cases settled
    · exact fun _ stopping => by cases stopping
  | begun idle delay =>
    have held := own.held (Or.inl idle)
    refine own.moved id rfl (by rw [idle]; rfl) rfl rfl ?_ ?_ ⟨by rintro ⟨⟩, by rintro ⟨⟩⟩ ?_
    · exact fun lost => absurd (held.symm.trans lost) Bool.false_ne_true
    · exact fun settled => by cases settled
    · exact fun _ stopping => by cases stopping
  | woke sleeping goes =>
    exact own.kept id rfl rfl rfl rfl fun ended => absurd (sleeping.symm.trans ended) (by decide)
  | wokeAborted sleeping aborted => exact own.kept id rfl rfl rfl rfl fun _ => rfl
  | sessionKept waits kept =>
    refine own.kept (fun lost => ?_) rfl rfl rfl rfl fun ended => ?_
    · exact Bool.false_ne_true (lost.symm.trans kept)
    · exact absurd (waits.symm.trans ended) (by decide)
  | sessionLost waits lost =>
    exact own.lose lost rfl fun ended => absurd (waits.symm.trans ended) (by decide)
  | leaseKept waits kept =>
    refine own.kept (fun lost => ?_) rfl rfl rfl rfl fun ended => ?_
    · exact Bool.false_ne_true (lost.symm.trans kept)
    · exact absurd (waits.symm.trans ended) (by decide)
  | leaseLost waits lost =>
    exact own.lose lost rfl fun ended => absurd (waits.symm.trans ended) (by decide)
  | delayed waits goes =>
    refine own.moved id rfl (by rw [waits]; rfl) rfl rfl (fun lost => own.ended (Or.inl lost)) ?_
      ⟨by rintro ⟨⟩, by rintro ⟨⟩⟩ ?_
    · exact fun settled => by cases settled
    · exact fun _ stopping => by cases stopping
  | delayedAborted waits aborted =>
    refine own.moved id rfl (by rw [waits]; rfl) rfl rfl (fun lost => own.ended (Or.inl lost)) ?_
      ⟨by rintro ⟨⟩, by rintro ⟨⟩⟩ ?_
    · exact fun settled => by cases settled
    · exact fun _ stopping => by cases stopping
  | called started channel =>
    refine own.kept id ?_ rfl rfl rfl id
    dsimp only
    split
    · rfl
    · rfl
  | handled waits outcome =>
    refine own.moved id rfl (by rw [waits]; rfl) rfl rfl (fun lost => own.ended (Or.inl lost)) ?_
      ⟨by rintro ⟨⟩, by rintro ⟨⟩⟩ ?_
    · exact fun settled => by cases settled
    · intro projection stopping
      obtain ⟨result, rfl, accepted⟩ :=
        nextOutcome_complete (Option.some.inj (Main.stopping.inj stopping))
      exact ⟨result, List.mem_append_right _ (List.mem_singleton_self _), accepted⟩
  | sends waits ended held => exact own.sent id (by rw [waits]; rfl) held ended
  | silent waits ended lost =>
    refine own.moved id rfl (by rw [waits]; rfl) rfl rfl (fun _ => ended) (fun _ => ended)
      ⟨by rintro ⟨⟩, by rintro ⟨⟩⟩ ?_
    exact fun _ stopping => by cases stopping
  | answered waits answer =>
    have ended := own.ended (Or.inr (Or.inr (by rw [waits]; rfl)))
    have same : outcomes (past ++ [(Event.answered answer, [])]) = outcomes past := by
      rw [outcomes_append]
      exact List.append_nil _
    constructor
    · rw [lost_append, own.lost]
      exact ⟨Or.inl, fun h => h.resolve_right id⟩
    · exact own.aborted
    · exact fun _ => ended
    · exact fun settled => by cases settled
    · rw [same]
      exact own.single
    · rw [same]
      exact own.silent
    · rintro (idle | sending)
      · cases idle
      · cases sending
    · exact fun _ stopping => by cases stopping

theorem Invariant.of_run {history : List Label} {s : Claim}
    (run : Runs (Step web processDelayMs handler) {} history s) : Invariant web history s :=
  run.invariant invariant_first fun _ _ _ _ own taken => own.step taken

end Invariant

/-! ### One outcome -/

/-- What is promised of every run. -/
structure OneOutcome (web : WebRuntime) (handler : Option WorkerHandler) (history : List Label)
    (s : Claim) : Prop where
  single : (outcomes history).length ≤ 1
  projected : ∀ past event effects later projection, history = past ++ (event, effects) :: later →
    .sent (.complete projection) ∈ effects → Projected web past projection
  silent : ∀ label ∈ history, Lost label.1 → outcomes history = []
  stopped : s.main = .returned → s.beat = .finished
  signalled : s.processingAborted = true ↔ ∃ label ∈ history, Lost label.1
  quiet : ∀ validated, handler = some (workflowHandler validated) →
    ∀ past event effects later channel, history = past ++ (event, effects) :: later →
      .request channel ∈ effects → ∀ label ∈ past, ¬ Lost label.1

section Runs
variable {web : WebRuntime} {processDelayMs : Nat} {handler : Option WorkerHandler}

/-- Both fetch functions of a workflow look at the signal. -/
theorem workflow_starts (validated : GatewayFetches) (channel : Channel) {aborted : Bool}
    (h : ((workflowHandler validated).fetches.of channel).starts aborted = true) :
    aborted = false := by
  cases channel with
  | gateway => exact (Bool.not_eq_true' aborted).mp (Bool.and_eq_true_iff.mp h).1
  | result => exact (Bool.not_eq_true' aborted).mp (Bool.and_eq_true_iff.mp h).1

theorem Step.request {s s' : Claim} {event : Event} {effects : List Effect} {channel : Channel}
    (taken : Step web processDelayMs handler s (event, effects) s')
    (mem : .request channel ∈ effects) : ∃ own, handler = some own ∧
      (own.fetches.of channel).starts s.processingAborted = true := by
  cases taken with
  | called started channel' =>
    split at mem
    · rename_i starts
      cases List.mem_singleton.mp mem
      exact ⟨_, rfl, starts⟩
    · cases mem
  | unsupported => cases List.mem_singleton.mp mem
  | woke => cases List.mem_singleton.mp mem
  | sessionKept => cases List.mem_singleton.mp mem
  | sends => cases List.mem_singleton.mp mem
  | begunDelayed | begun | wokeAborted | sessionLost | leaseKept | leaseLost | delayed => cases mem
  | delayedAborted | handled | silent | answered => cases mem

theorem Step.complete {s s' : Claim} {event : Event} {effects : List Effect}
    {projection : Option String} (taken : Step web processDelayMs handler s (event, effects) s')
    (mem : .sent (.complete projection) ∈ effects) :
    s.main = .stopping (some (.complete projection)) := by
  cases taken with
  | sends waits ended held =>
    cases List.mem_singleton.mp mem
    exact waits
  | called started channel =>
    split at mem
    · cases List.mem_singleton.mp mem
    · cases mem
  | unsupported => cases List.mem_singleton.mp mem
  | woke => cases List.mem_singleton.mp mem
  | sessionKept => cases List.mem_singleton.mp mem
  | begunDelayed | begun | wokeAborted | sessionLost | leaseKept | leaseLost | delayed => cases mem
  | delayedAborted | handled | silent | answered => cases mem

theorem handleClaim_one_outcome (web : WebRuntime) (processDelayMs : Nat)
    (handler : Option WorkerHandler) (history : List Label) (s : Claim)
    (run : Runs (Step web processDelayMs handler) {} history s) :
    OneOutcome web handler history s := by
  have own := Invariant.of_run run
  constructor
  · exact own.single
  · rintro past event effects later projection rfl mem
    obtain ⟨before, after, reached, taken, _⟩ := run.split
    exact (Invariant.of_run reached).ready projection (taken.complete mem)
  · exact fun label mem lost => own.silent (own.lost.mpr ⟨label, mem, lost⟩)
  · exact fun returned => own.ended (Or.inr (Or.inr (by rw [returned]; rfl)))
  · rw [own.aborted]
    exact own.lost
  · rintro validated rfl past event effects later channel rfl mem label before lost
    obtain ⟨at', after, reached, taken, _⟩ := run.split
    obtain ⟨_, same, starts⟩ := taken.request mem
    cases same
    have earlier := Invariant.of_run reached
    have goes := workflow_starts validated channel starts
    rw [earlier.aborted] at goes
    exact Bool.false_ne_true (goes.symm.trans (earlier.lost.mpr ⟨label, before, lost⟩))

/-- A workflow that asks the gateway once and is completed. -/
def completedHistory : List Label :=
  [(.begun, []), (.woke, [.sessionHeartbeat]), (.called .gateway, [.request .gateway]),
    (.sessionAnswered (.ok 200), [.taskHeartbeat]), (.handled (.ok none), []),
    (.leaseAnswered (.ok 200), []), (.loopEnded, [.sent (.complete none)]),
    (.answered (.ok 200), [])]

theorem completed_run (web : WebRuntime) : ∃ s,
    Runs (Step web 0 (some (workflowHandler {}))) {} completedHistory s := by
  have first : Runs (Step web 0 (some (workflowHandler {}))) {} [] {} := Runs.start
  have held := ((first.step (Step.begun rfl rfl)).step (Step.woke rfl rfl)).step
    (Step.called rfl .gateway)
  have answered := ((held.step (@Step.sessionKept _ _ _ _ (.ok 200) rfl (by decide))).step
    (Step.handled rfl (.ok none))).step (@Step.leaseKept _ _ _ _ (.ok 200) rfl (by decide))
  exact ⟨_, (answered.step (Step.sends rfl rfl rfl)).step (Step.answered rfl (.ok 200))⟩

theorem handleClaim_one_outcome_completed :
    ∃ s, OneOutcome RequestFingerprints.orderedWeb (some (workflowHandler {})) completedHistory s := by
  obtain ⟨s, run⟩ := completed_run RequestFingerprints.orderedWeb
  exact ⟨s, handleClaim_one_outcome _ 0 _ _ s run⟩

end Runs

end ClaimHandling
