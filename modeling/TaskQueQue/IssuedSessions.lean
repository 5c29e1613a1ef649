import TaskQueQue.CoordinatorRuns
import TaskQueQue.WorkerAuthority

/-!
# Where sessions come from

Every session in the registry, and every session of a snapshot, was issued: a connection of
the run asked to register it and was answered with it, under the label, the kind, the
capacity and the names of that request.
-/

namespace IssuedSessions

open QueueValues QueueTables KeyedTable WorkerProtocol HttpFraming
open WorkerRoutes ProviderSnapshots WorkerDaemon
open CoordinatorRuns (Made)

variable {api : Api} {ttl : Instant}

def created (api : Api) (made : WorkerRegistration) (ttl : Instant) : Response :=
  ⟨201, "Created", registrationJson made (millis ttl) api.taskLease.millis⟩

/-- The request asks for such a session. -/
def Requests (request : HttpRequest) (session : WorkerSession) : Prop :=
  isTo request "POST" "/v1/register" ∧ ∃ r, readRegistering request = .ok r ∧
    Made r.workerId (fromDb r.workerType) r.capacity r.taskNames session

/-- A connection asks for a session and is answered with it. -/
structure Issues (api : Api) (e : Event) (d : Daemon) (made : WorkerRegistration) : Prop where
  asked : ∃ request, e.request? = some request ∧ Requests request made.session
  answered : respond api e d = some (created api made d.api.registry.registry.ttl)

def Issued (api : Api) (ttl : Instant) (events : List Event) (made : WorkerRegistration) : Prop :=
  ∃ before e after, events = before ++ e :: after ∧ Issues api e (run api ttl before) made

theorem Issued.later {events : List Event} {made : WorkerRegistration}
    (issued : Issued api ttl events made) (more : List Event) :
    Issued api ttl (events ++ more) made := by
  obtain ⟨before, e, after, rfl, issues⟩ := issued
  exact ⟨before, e, after ++ more, by rw [List.append_assoc, List.cons_append], issues⟩

theorem issued_now {events : List Event} {e : Event} {made : WorkerRegistration}
    (issues : Issues api e (run api ttl events) made) : Issued api ttl (events ++ [e]) made :=
  ⟨events, e, [], rfl, issues⟩

/-! ### The registry after a request -/

section Requests
variable {m : Moment} {request : HttpRequest} {s : WorkerApiState}

theorem registerAt_drawn {registry registry' : WorkerRegistry} {workerId : String}
    {kind : WorkerKind} {capacity : Int} {taskNames : List String} {now : Instant}
    {candidates : List String} {sessionToken : String} {made : WorkerRegistration}
    (h : registerAt registry workerId kind capacity taskNames now candidates sessionToken =
      .ok (some made, registry')) : made.session.sessionId ∈ candidates := by
  unfold registerAt at h
  split at h
  · cases h
  split at h
  · cases h
  split at h
  · cases h
  dsimp only at h
  split at h
  · cases h
  rename_i candidate found
  split at h
  · cases h
  · cases h
    exact List.mem_of_find?_eq_some found

theorem registerAt_safe {registry registry' : WorkerRegistry} {workerId : String}
    {kind : WorkerKind} {capacity : Int} {taskNames : List String} {now : Instant}
    {candidates : List String} {sessionToken : String} {made : WorkerRegistration}
    (h : registerAt registry workerId kind capacity taskNames now candidates sessionToken =
      .ok (some made, registry')) : ∀ name ∈ made.session.taskNames.1, isSafeTaskName name = true := by
  unfold registerAt at h
  split at h
  · cases h
  split at h
  · cases h
  split at h
  · cases h
  rename_i names normal
  have safe : ∀ name ∈ names.1, isSafeTaskName name = true := by
    unfold normalizeTaskNames at normal
    split at normal
    · cases normal
    split at normal
    · cases normal
    rename_i all
    rw [Bool.not_eq_true, Bool.not_eq_false'] at all
    split at normal
    · cases normal
      intro name mem
      exact List.all_eq_true.mp all name ((List.mem_insertionSort _).mp mem)
    · cases normal
  dsimp only at h
  split at h
  · cases h
  split at h
  · cases h
  · cases h
    exact safe

/-- What a registration leaves in the registry, and its answer. -/
structure Registered (api : Api) (m : Moment) (request : HttpRequest) (s : WorkerApiState)
    (made : WorkerRegistration) (after : Option Response × WorkerApiState) : Prop where
  asked : ∃ r, readRegistering request = .ok r ∧
    Made r.workerId (fromDb r.workerType) r.capacity r.taskNames made.session
  drawn : made.session.sessionId ∈ m.candidates ∧ made.sessionToken = m.sessionToken
  safe : ∀ name ∈ made.session.taskNames.1, isSafeTaskName name = true
  answer : after.1 = some (created api made s.registry.registry.ttl)
  rows : after.2.registry.registry.sessions.rows =
    (SessionRegistry.retained s.registry.registry made.session.workerId m.instant).rows ++
      [⟨made.session, made.sessionToken, m.instant + s.registry.registry.ttl⟩]

theorem routeRegister_cases (api : Api) (m : Moment) (request : HttpRequest) (s : WorkerApiState) :
    ((routeRegister api m request s).2.registry.registry = s.registry.registry ∧
      ∀ made lifetime, (routeRegister api m request s).1 ≠ some (created api made lifetime)) ∨
    ∃ made, Registered api m request s made (routeRegister api m request s) := by
  have refusal : ∀ {response : Response} {made : WorkerRegistration} {lifetime : Instant},
      response.status ≠ 201 → some response ≠ some (created api made lifetime) := by
    intro response made lifetime other same
    cases same
    exact other rfl
  unfold routeRegister
  cases read : readRegistering request with
  | error response =>
    refine Or.inl ⟨rfl, fun made lifetime => refusal ?_⟩
    rw [readRegistering_error read]
    decide
  | ok r =>
    dsimp only
    unfold SessionRegistry.register
    cases outcome : registerAt s.registry.registry r.workerId (fromDb r.workerType) r.capacity
        r.taskNames m.instant m.candidates m.sessionToken with
    | error error => exact Or.inl ⟨rfl, fun made lifetime => refusal (by decide : (400 : Nat) ≠ 201)⟩
    | ok result =>
      obtain ⟨made, registry⟩ := result
      cases made with
      | none =>
        refine Or.inl ⟨SessionRegistry.registerAt_none outcome, fun made lifetime same => ?_⟩
        cases same
      | some made =>
        obtain ⟨label, token, lifetime, rows, _⟩ := SessionRegistry.registerAt_made outcome
        refine Or.inr ⟨made, ⟨r, read, (CoordinatorRuns.registerAt_cases outcome).1 made rfl⟩,
          ⟨registerAt_drawn outcome, token⟩, registerAt_safe outcome, ?_, ?_⟩
        · dsimp only
          rw [lifetime]
          rfl
        · rw [label]
          exact rows

theorem touch_registry (sessionId sessionToken : String) (now : Instant)
    (w : SessionRegistry.Logged) :
    (SessionRegistry.step (.authenticateAndTouch sessionId sessionToken now) w).registry =
      (authenticateAndTouchAt w.registry sessionId sessionToken now).2 := by
  simp only [SessionRegistry.step, SessionRegistry.authenticateAndTouch]
  split
  · rename_i registry touched
    rw [touched]
  · rename_i session registry touched
    rw [touched]

/-- A session in the registry after a request was in it before, or is the one it is
answered with. -/
theorem route_entry {entry : WorkerSessionEntry}
    (held : entry ∈ (route api m request s).2.registry.registry.sessions.rows) :
    (∃ old ∈ s.registry.registry.sessions.rows, old.session = entry.session ∧
      old.sessionToken = entry.sessionToken) ∨
    (Requests request entry.session ∧ (route api m request s).1 = some
      (created api ⟨entry.session, entry.sessionToken⟩ s.registry.registry.ttl)) := by
  have calls : Calls m request s.registry (route api m request s).2.registry := route_calls
  by_cases path : isTo request "POST" "/v1/register" = true
  · rw [route_register path] at held ⊢
    rcases routeRegister_cases api m request s with ⟨same, _⟩ | ⟨made, registered⟩
    · rw [same] at held
      exact Or.inl ⟨entry, held, rfl, rfl⟩
    · rw [registered.rows] at held
      rcases List.mem_append.mp held with kept | new
      · exact Or.inl ⟨entry, (SessionRegistry.mem_retained.mp kept).1, rfl, rfl⟩
      · rw [List.mem_singleton.mp new]
        exact Or.inr ⟨⟨path, registered.asked⟩, registered.answer⟩
  · left
    generalize (route api m request s).2.registry = after at calls held
    cases calls with
    | none => exact ⟨entry, held, rfl, rfl⟩
    | touch sessionId sessionToken =>
      rw [touch_registry] at held
      exact CoordinatorRuns.authenticateAndTouchAt_rows held
    | register path' => exact absurd path' path

end Requests

/-! ### The registry along a run -/

theorem active_entry {w : SessionRegistry.Logged} {now : Instant} {entry : WorkerSessionEntry}
    (held : entry ∈ (SessionRegistry.activeSessions w now).2.registry.sessions.rows) :
    entry ∈ w.registry.sessions.rows := (List.mem_filter.mp held).1

section Connections
variable {m : Moment} {ending : Ending} {pieces : List (List UInt8)} {d : Daemon}

variable (api ttl d) in
/-- A connection that does not reach the routes looks at the registry at most. -/
theorem unread_registry (unread : (Event.connection m ending pieces).request? = none) :
    (step api ttl (.connection m ending pieces) d).api.registry = d.api.registry ∨
      (step api ttl (.connection m ending pieces) d).api.registry =
        (SessionRegistry.activeSessions d.api.registry m.instant).2 := by
  have front : (if detectProviderSnapshotRequest ending [] pieces = some false then
      (readRequest workerApi ending pieces).toOption else none) = none := unread
  simp only [step, serveWorkerConnectionWithProviderSnapshot]
  cases detected : detectProviderSnapshotRequest ending [] pieces with
  | none => exact Or.inl rfl
  | some providers =>
    cases providers with
    | true => exact Or.inr rfl
    | false =>
      rw [if_pos detected] at front
      cases read : readRequest workerApi ending pieces with
      | error error =>
        simp only [serveWorkerConnection, read]
        exact Or.inl trivial
      | ok request =>
        rw [read] at front
        cases front

theorem connection_entry {entry : WorkerSessionEntry} (held : entry ∈
      (step api ttl (.connection m ending pieces) d).api.registry.registry.sessions.rows) :
    (∃ old ∈ d.api.registry.registry.sessions.rows, old.session = entry.session ∧
      old.sessionToken = entry.sessionToken) ∨
    Issues api (.connection m ending pieces) d ⟨entry.session, entry.sessionToken⟩ := by
  cases read : (Event.connection m ending pieces).request? with
  | none =>
    rcases unread_registry api ttl d read with same | looked
    · rw [same] at held
      exact Or.inl ⟨entry, held, rfl, rfl⟩
    · rw [looked] at held
      exact Or.inl ⟨entry, active_entry held, rfl, rfl⟩
  | some request =>
    rw [WorkerAuthority.step_eq_route read] at held
    refine (route_entry held).imp id fun issued => ?_
    exact ⟨⟨request, read, issued.1⟩, (WorkerAuthority.respond_eq_route read).trans issued.2⟩

end Connections

theorem run_issued (events : List Event) :
    (∀ entry ∈ (run api ttl events).api.registry.registry.sessions.rows,
      Issued api ttl events ⟨entry.session, entry.sessionToken⟩) ∧
    ∀ sessions, (run api ttl events).snapshot = some sessions → ∀ session ∈ sessions,
      ∃ sessionToken, Issued api ttl events ⟨session, sessionToken⟩ := by
  induction events using List.reverseRecOn with
  | nil =>
    refine ⟨fun entry held => absurd held List.not_mem_nil, fun sessions taken => ?_⟩
    cases taken
  | append_singleton events e ih =>
    obtain ⟨entries, snapshot⟩ := ih
    have kept : ∀ sessions, (run api ttl events).snapshot = some sessions →
        ∀ session ∈ sessions, ∃ sessionToken, Issued api ttl (events ++ [e])
          ⟨session, sessionToken⟩ := by
      intro sessions taken session mem
      obtain ⟨sessionToken, issued⟩ := snapshot sessions taken session mem
      exact ⟨sessionToken, issued.later [e]⟩
    have held : ∀ entry ∈ (run api ttl events).api.registry.registry.sessions.rows,
        Issued api ttl (events ++ [e]) ⟨entry.session, entry.sessionToken⟩ :=
      fun entry mem => (entries entry mem).later [e]
    rw [run_concat]
    cases e with
    | connection m ending pieces =>
      refine ⟨fun entry mem => ?_, kept⟩
      rcases connection_entry mem with ⟨old, before, same, token⟩ | issues
      · rw [← same, ← token]
        exact held old before
      · exact issued_now issues
    | client op allowed => exact ⟨held, kept⟩
    | activeSessions now order =>
      refine ⟨fun entry mem => held entry (active_entry mem), fun sessions taken session mem => ?_⟩
      cases taken
      have alive := ((order _).2.mem_iff).mp mem
      obtain ⟨entry, before, _, rfl⟩ := CoordinatorRuns.mem_activeSessionsAt.mp alive
      exact ⟨entry.sessionToken, held entry before⟩
    | dispatch now transport =>
      cases taken : (run api ttl events).snapshot with
      | none =>
        simp only [step, taken]
        refine ⟨held, fun sessions other => ?_⟩
        cases other
      | some sessions =>
        simp only [step, taken]
        refine ⟨held, fun sessions other => ?_⟩
        cases other
    | restart =>
      refine ⟨fun entry mem => absurd mem List.not_mem_nil, fun sessions taken => ?_⟩
      cases taken

end IssuedSessions
