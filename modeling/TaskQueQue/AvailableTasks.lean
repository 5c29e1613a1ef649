import TaskQueQue.GatewayConfig
import TaskQueQue.RegisteredWorkers

/-!
# Which tasks the gateway offers

The gateway asks the daemon for its providers and shows a task as available if it is named
in the answer. However the bytes of the question are cut, the answer is written from the
live sessions of the registry, and what the gateway reads of it is what they advertise.
-/

namespace AvailableTasks

open WorkerProtocol HttpFraming WorkerRoutes ProviderSnapshots WorkerDaemon IssuedSessions
open JsonText McpTools

variable {api : Api} {ttl : Instant}

/-! ### Sessions are fit to be shown -/

theorem toDb_fromDb (value : String) : (fromDb value).toDb = value := by
  unfold fromDb
  split
  · rename_i same
    rw [same]
    rfl
  split
  · rename_i same
    rw [same]
    rfl
  · rfl

theorem readRegistering_type {request : HttpRequest} {r : Registering}
    (read : readRegistering request = .ok r) :
    LocalApi.validateIdentifier r.workerType 64 "x-worker-type" = .ok () := by
  obtain ⟨_, _, read⟩ := GatewayConfig.bind_ok read
  obtain ⟨workerId, _, read⟩ := GatewayConfig.bind_ok read
  obtain ⟨workerType, _, read⟩ := GatewayConfig.bind_ok read
  obtain ⟨_, _, read⟩ := GatewayConfig.bind_ok read
  obtain ⟨_, valid, read⟩ := GatewayConfig.bind_ok read
  obtain ⟨capacity, _, read⟩ := GatewayConfig.bind_ok read
  obtain ⟨taskNames, _, read⟩ := GatewayConfig.bind_ok read
  cases read
  cases checked : LocalApi.validateIdentifier workerType 64 "x-worker-type" with
  | error message =>
    rw [checked] at valid
    cases valid
  | ok done => rfl

theorem shown_of_issues {m : Moment} {ending : Ending} {pieces : List (List UInt8)} {d : Daemon}
    {made : WorkerRegistration} (issues : Issues api (.connection m ending pieces) d made) :
    Shown made.session := by
  obtain ⟨request, _, registered⟩ := RegisteredWorkers.issues_registered issues
  obtain ⟨r, read, shape⟩ := registered.asked
  refine ⟨?_, registered.safe⟩
  rw [shape.kind, toDb_fromDb]
  exact plain_of_validated (readRegistering_type read)

theorem shown_of_issued {events : List Event} {made : WorkerRegistration}
    (issued : Issued api ttl events made) : Shown made.session := by
  obtain ⟨before, e, after, _, issues⟩ := issued
  obtain ⟨request, read, _⟩ := issues.asked
  obtain ⟨m, ending, pieces, rfl⟩ := RegisteredWorkers.request_cases read
  exact shown_of_issues issues

/-! ### The answer and what is read of it -/

def asksProviders (pieces : List (List UInt8)) : Prop :=
  isProviderSnapshotRequest pieces.flatten = true

theorem respond_providers {m : Moment} {ending : Ending} {pieces : List (List UInt8)} {d : Daemon}
    (asks : asksProviders pieces) : respond api (.connection m ending pieces) d =
      some ⟨200, "OK", providerSnapshotJson (activeSessionsAt d.api.registry.registry m.instant).1⟩ := by
  have found : isProviderSnapshotRequest pieces.flatten = true := asks
  have detected : detectProviderSnapshotRequest ending [] pieces = some true := by
    rw [detect_eq_verdict, verdict, if_pos found]
  simp only [respond, serveWorkerConnectionWithProviderSnapshot, detected]
  rfl

/-- A live session advertises the task. -/
def Offered (ttl : Instant) (d : Daemon) (now : Instant) (name : String) : Prop :=
  ∃ session sessionToken, SessionRegistry.Live ttl d.api.registry.log session sessionToken now ∧
    name ∈ session.taskNames.1

def ownProviders : List String := ["bun-filesystem", "rust-fs-mutator", "git-cli-metadata"]

/-- The gateway offers the tasks that are offered to it. -/
structure Reflects (snapshot : CapabilityAvailabilitySnapshot) (offered : String → Prop) : Prop where
  tasks : ∀ descriptor : ToolDescriptor, descriptor.provider ∉ ownProviders →
    descriptor.kind = .task →
    (isCapabilityAvailable descriptor snapshot = true ↔ offered descriptor.name)
  workflows : ∀ descriptor : ToolDescriptor, descriptor.provider ∉ ownProviders →
    descriptor.kind ≠ .task → descriptor.name = "workflow.submit" →
    (isCapabilityAvailable descriptor snapshot = true ↔ offered "workflow.run")

theorem reflects_of_names {snapshot : CapabilityAvailabilitySnapshot} {offered : String → Prop}
    (reachable : snapshot.providerReachable = true)
    (names : ∀ name, name ∈ snapshot.activeTaskNames ↔ offered name) : Reflects snapshot offered := by
  have foreign : ∀ {descriptor : ToolDescriptor}, descriptor.provider ∉ ownProviders →
      descriptor.provider ≠ "bun-filesystem" ∧ descriptor.provider ≠ "rust-fs-mutator" ∧
        descriptor.provider ≠ "git-cli-metadata" := by
    intro descriptor other
    simpa [ownProviders] using other
  constructor
  · intro descriptor other task
    obtain ⟨files, mutator, git⟩ := foreign other
    rw [isCapabilityAvailable, if_neg files, if_neg mutator, if_neg git, if_pos task, reachable,
      Bool.true_and, List.contains_iff_mem]
    exact names descriptor.name
  · intro descriptor other surface workflow
    obtain ⟨files, mutator, git⟩ := foreign other
    rw [isCapabilityAvailable, if_neg files, if_neg mutator, if_neg git, if_neg surface,
      if_pos workflow, reachable, Bool.true_and, List.contains_iff_mem]
    exact names "workflow.run"

/-- In every run the gateway is shown what the live sessions advertise, and all of it was
registered. -/
theorem availability_follows_sessions (api : Api) (ttl : Instant) (events : List Event)
    (own : LocalProviders) (m : Moment) (ending : Ending) (pieces : List (List UInt8))
    (inTime : Histories.AllSteps (step api ttl) InTime (start ttl) events)
    (later : (run api ttl events).latest ≤ m.instant) (asks : asksProviders pieces) :
    ∃ response, respond api (.connection m ending pieces) (run api ttl events) = some response ∧
      let snapshot := loadCapabilityAvailability own
        (some (response.status, read integers response.body.toList))
      Reflects snapshot (Offered ttl (run api ttl events) m.instant) ∧
        ∀ name ∈ snapshot.activeTaskNames,
          ∃ made, Issued api ttl events made ∧ name ∈ made.session.taskNames.1 := by
  have sound := (run_lawful inTime).wait later
  refine ⟨_, respond_providers asks, ?_⟩
  generalize sessions : (activeSessionsAt (run api ttl events).api.registry.registry
    m.instant).1 = active
  have issued : ∀ session ∈ active, ∃ sessionToken, Issued api ttl events ⟨session, sessionToken⟩ := by
    intro session mem
    rw [← sessions] at mem
    obtain ⟨entry, held, _, rfl⟩ := CoordinatorRuns.mem_activeSessionsAt.mp mem
    exact ⟨entry.sessionToken, (run_issued events).1 entry held⟩
  have shown : ∀ session ∈ active, Shown session := by
    intro session mem
    obtain ⟨sessionToken, made⟩ := issued session mem
    exact shown_of_issued made
  dsimp only
  rw [loadCapabilityAvailability_sessions own shown]
  constructor
  · refine reflects_of_names rfl fun name => ?_
    rw [mem_btreeSet, List.mem_flatMap]
    constructor
    · rintro ⟨session, mem, named⟩
      rw [← sessions] at mem
      obtain ⟨sessionToken, live⟩ := sound.active_iff.mp mem
      exact ⟨session, sessionToken, live, named⟩
    · rintro ⟨session, sessionToken, live, named⟩
      exact ⟨session, sessions ▸ sound.active_iff.mpr ⟨sessionToken, live⟩, named⟩
  · intro name mem
    obtain ⟨session, held, named⟩ := List.mem_flatMap.mp (mem_btreeSet.mp mem)
    obtain ⟨sessionToken, made⟩ := issued session held
    exact ⟨_, made, named⟩

section Samples
open WorkerAuthority (sampleApi sampleMoment)
open RegisteredWorkers (registering)

def question : List (List UInt8) := [PROVIDER_HTTP_11.take 9, PROVIDER_HTTP_11.drop 9]

theorem availability_follows_sessions_sample : ∃ response,
    respond sampleApi (.connection (sampleMoment 40) .closed question)
      (run sampleApi 60 [registering]) = some response ∧
    Reflects (loadCapabilityAvailability ⟨true, false, true⟩
        (some (response.status, read integers response.body.toList)))
      (Offered 60 (run sampleApi 60 [registering]) 40) := by
  have inTime : Histories.AllSteps (step sampleApi 60) InTime (start 60) [registering] := by
    refine ⟨?_, trivial⟩
    rintro t ⟨⟩
    exact Nat.zero_le 3
  have asks : asksProviders question := by
    unfold asksProviders
    decide +kernel
  obtain ⟨response, answer, reflects, _⟩ := availability_follows_sessions sampleApi 60 [registering]
    ⟨true, false, true⟩ (sampleMoment 40) .closed question inTime
    (by decide : (3 : Nat) ≤ 40) asks
  exact ⟨response, answer, reflects⟩

end Samples

end AvailableTasks
