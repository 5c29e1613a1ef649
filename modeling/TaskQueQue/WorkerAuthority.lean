import TaskQueQue.WorkerDaemon

/-!
# What a worker may do

A report is applied if and only if it stands on a claim: a claim of the same session was
answered with the task under the generation that the report quotes, the task has run under
it ever since, and its lease has not run out. No generation is handed out twice, and none
is ended twice. Requests without the credentials of a live session change nothing.
-/

namespace WorkerAuthority

open QueueValues QueueTables TaskLife WorkerProtocol HttpFraming WorkerRoutes WorkerDaemon

variable {api : Api} {ttl : Instant}

/-! ### Claims that stand -/

/-- A claim was answered with the task, and it has run under that claim in every state since. -/
def ClaimStands (api : Api) (ttl : Instant) (events : List Event) (taskId : Int)
    (sessionId : String) (generation : Int) : Prop :=
  ∃ before e after, events = before ++ e :: after ∧
    Grants api e (run api ttl before) taskId sessionId generation ∧
    ∀ since rest, after = since ++ rest →
      Leased (run api ttl (before ++ e :: since)).api.db taskId sessionId generation

theorem leased_of_stands {events : List Event} {taskId generation : Int} {sessionId : String}
    (stands : ClaimStands api ttl events taskId sessionId generation) :
    Leased (run api ttl events).api.db taskId sessionId generation := by
  obtain ⟨before, e, after, rfl, _, kept⟩ := stands
  exact kept after [] (List.append_nil after).symm

theorem ClaimStands.extend {events : List Event} {taskId generation : Int} {sessionId : String}
    (stands : ClaimStands api ttl events taskId sessionId generation) {e : Event}
    (leased : Leased (run api ttl (events ++ [e])).api.db taskId sessionId generation) :
    ClaimStands api ttl (events ++ [e]) taskId sessionId generation := by
  obtain ⟨before, claim, after, rfl, grants, kept⟩ := stands
  refine ⟨before, claim, after ++ [e], by rw [List.append_assoc, List.cons_append], grants, ?_⟩
  intro since rest split
  rcases List.eq_nil_or_concat rest with rfl | ⟨front, last, rfl⟩
  · rw [List.append_nil] at split
    rw [← split, ← List.cons_append, ← List.append_assoc]
    exact leased
  · rw [List.concat_eq_append, ← List.append_assoc] at split
    exact kept since front (List.append_inj' split rfl).1

/-- The sessions that run tasks are those whose claims stand. -/
theorem stands_of_leased {events : List Event} {taskId generation : Int} {sessionId : String}
    (leased : Leased (run api ttl events).api.db taskId sessionId generation) :
    ClaimStands api ttl events taskId sessionId generation := by
  induction events using List.reverseRecOn with
  | nil =>
    obtain ⟨t, row, _⟩ := leased
    cases row
  | append_singleton events e ih =>
    obtain ⟨change, advances, claims⟩ := step_advances api ttl
      (run_fresh api ttl events) e
    have moved := leased
    rw [run_concat] at moved
    obtain ⟨t, row, running, owner, fence⟩ := moved
    rcases move_leased (advances.move taskId) row running owner fence with claimed | before
    · refine ⟨events, e, [], rfl, (claims _ _ _).mp claimed, fun since rest split => ?_⟩
      obtain ⟨rfl, rfl⟩ := List.append_eq_nil_iff.mp split.symm
      exact leased
    · exact (ih before).extend leased

/-! ### Nothing happens twice -/

/-- The generation has come this far and no session runs the task under it. -/
structure Over (db : Db) (taskId generation : Int) : Prop where
  passed : Passed db taskId generation
  free : ∀ w, ¬ Leased db taskId w generation

variable (api ttl) in
theorem passed_step {d : Daemon} (fresh : Fresh d.api.db) {taskId generation : Int} (e : Event)
    (passed : Passed d.api.db taskId generation) :
    Passed (step api ttl e d).api.db taskId generation ∧
      ∀ w, ¬ Grants api e d taskId w generation := by
  obtain ⟨change, advances, claims⟩ := step_advances api ttl fresh e
  obtain ⟨reached, unclaimed⟩ :=
    move_generation (advances.move taskId) passed.admitted passed.reached
  refine ⟨⟨passed.admitted.trans advances.seq, reached⟩, fun w grants => ?_⟩
  exact unclaimed w ((claims _ _ _).mpr grants)

theorem over_step {d : Daemon} (fresh : Fresh d.api.db) {taskId generation : Int} (e : Event)
    (ended : Over d.api.db taskId generation) :
    Over (step api ttl e d).api.db taskId generation := by
  obtain ⟨change, advances, claims⟩ := step_advances api ttl fresh e
  obtain ⟨passed, ungranted⟩ := passed_step api ttl fresh e ended.passed
  refine ⟨passed, ?_⟩
  rintro w ⟨t, row, running, owner, fence⟩
  rcases move_leased (advances.move taskId) row running owner fence with claimed | before
  · exact ungranted w ((claims _ _ _).mp claimed)
  · exact ended.free w before

theorem passed_of_grants {d : Daemon} (fresh : Fresh d.api.db) {e : Event}
    {taskId generation : Int} {w : String} (grants : Grants api e d taskId w generation) :
    Passed (step api ttl e d).api.db taskId generation := by
  obtain ⟨change, advances, claims⟩ := step_advances api ttl fresh e
  have move := advances.move taskId
  rw [(claims _ _ _).mpr grants] at move
  obtain ⟨present, reached⟩ := move_claimed move
  exact ⟨(LeaseSafety.known_of_fresh fresh taskId present).trans advances.seq,
    fun _ => le_of_eq reached.symm⟩

section Later
variable {taskId generation : Int}

theorem run_keeps {P : Db → Prop}
    (kept : ∀ e d, Fresh d.api.db → P d.api.db → P (step api ttl e d).api.db) {d : Daemon}
    (fresh : Fresh d.api.db) (holds : P d.api.db) (events : List Event) :
    P (Histories.run (step api ttl) d events).api.db := by
  have both : Fresh (Histories.run (step api ttl) d events).api.db ∧
      P (Histories.run (step api ttl) d events).api.db := by
    refine Histories.run_preserves (P := fun d : Daemon => Fresh d.api.db ∧ P d.api.db) ?_
      ⟨fresh, holds⟩ events
    rintro e d ⟨fresh, holds⟩
    obtain ⟨change, advances, _⟩ := step_advances api ttl fresh e
    exact ⟨advances.fresh fresh, kept e d fresh holds⟩
  exact both.2

theorem step_fresh {d : Daemon} (fresh : Fresh d.api.db) (e : Event) :
    Fresh (step api ttl e d).api.db := by
  obtain ⟨change, advances, _⟩ := step_advances api ttl fresh e
  exact advances.fresh fresh

theorem granted_once {before middle : List Event} {e e' : Event} {w w' : String}
    (grants : Grants api e (run api ttl before) taskId w generation) :
    ¬ Grants api e' (run api ttl (before ++ e :: middle)) taskId w' generation := by
  have fresh := run_fresh api ttl before
  have passed : Passed (run api ttl (before ++ e :: middle)).api.db taskId generation := by
    rw [run_cons_append]
    refine run_keeps (P := fun db => Passed db taskId generation) ?_ (step_fresh fresh e)
      (passed_of_grants fresh grants) middle
    intro e d fresh passed
    exact (passed_step api ttl fresh e passed).1
  exact (passed_step api ttl (run_fresh api ttl _) e' passed).2 w'

theorem settled_once {before middle : List Event} {e e' : Event}
    (settles : Settles api e (run api ttl before) taskId generation) :
    ¬ Settles api e' (run api ttl (before ++ e :: middle)) taskId generation := by
  have fresh := run_fresh api ttl before
  obtain ⟨⟨w, held⟩, free⟩ := settles_step fresh settles (step_happened api ttl e _)
  have ended : Over (step api ttl e (run api ttl before)).api.db taskId generation :=
    ⟨(passed_step api ttl fresh e (passed_of_leased fresh held)).1, fun w => free w generation⟩
  have later : Over (run api ttl (before ++ e :: middle)).api.db taskId generation := by
    rw [run_cons_append]
    exact run_keeps (P := fun db => Over db taskId generation)
      (fun e d fresh ended => over_step fresh e ended) (step_fresh fresh e) ended middle
  intro again
  obtain ⟨⟨w', held'⟩, _⟩ := settles_step (run_fresh api ttl _) again (step_happened api ttl e' _)
  exact later.free w' held'

end Later

/-! ### Bodies -/

theorem contentLength_bounded {api : HttpApi} {request : HttpRequest} {length : Nat}
    (h : contentLength api request = .ok length) : length ≤ api.maxBodyBytes := by
  unfold contentLength at h
  split at h
  · cases h
  split at h
  · cases h
  split at h
  · cases h
  · rename_i short
    cases h
    exact Nat.le_of_not_lt short

theorem readRequest_bounded {api : HttpApi} {ending : Ending} {pieces : List (List UInt8)}
    {request : HttpRequest} (h : readRequest api ending pieces = .ok request) :
    request.body.length ≤ api.maxBodyBytes := by
  unfold readRequest at h
  split at h
  · cases h
  · cases h
  split at h
  · cases h
  split at h
  · cases h
  rename_i length sized
  rw [readBody_eq, bodyOf] at h
  split at h
  · cases h
  · rename_i body read
    cases h
    split at read
    · cases read
    · cases read
      exact (List.length_take_le _ _).trans (contentLength_bounded sized)

/-- The bound of the connection's body is that of the result. -/
theorem readProjection_fits {request : HttpRequest} {report : Report}
    (bounded : request.body.length ≤ workerApi.maxBodyBytes)
    (read : readProjection request = .ok report) : report.Fits := by
  unfold readProjection at read
  split at read
  · cases read
    trivial
  dsimp only at read
  split at read
  · cases read
  split at read
  · rename_i value decoded
    cases read
    by_cases filled : value ≠ ""
    · rw [if_pos filled]
      have size : value.utf8ByteSize = request.body.length := by
        unfold String.fromUTF8? at decoded
        split at decoded
        · cases decoded
          rfl
        · cases decoded
      refine ⟨?_, by rw [size]; exact bounded⟩
      rw [ne_eq, String.utf8ByteSize_eq_zero_iff]
      exact filled
    · rw [if_neg filled]
      trivial
  · cases read

/-! ### The next connection -/

section Connection
variable {m : Moment} {ending : Ending} {pieces : List (List UInt8)} {request : HttpRequest}
  {d : Daemon}

theorem request_read (read : (Event.connection m ending pieces).request? = some request) :
    ProviderSnapshots.detectProviderSnapshotRequest ending [] pieces = some false ∧
      readRequest workerApi ending pieces = .ok request := by
  have front : (if ProviderSnapshots.detectProviderSnapshotRequest ending [] pieces = some false then
      (readRequest workerApi ending pieces).toOption else none) = some request := read
  split at front
  · rename_i passed
    cases framed : readRequest workerApi ending pieces with
    | error error =>
      rw [framed] at front
      cases front
    | ok request' =>
      rw [framed] at front
      cases front
      exact ⟨passed, rfl⟩
  · cases front

/-- A request that reaches the routes is served by them. -/
theorem serve_eq_route (read : (Event.connection m ending pieces).request? = some request) :
    ProviderSnapshots.serveWorkerConnectionWithProviderSnapshot api m ending pieces d.api =
      route api m request d.api := by
  obtain ⟨passed, framed⟩ := request_read read
  simp only [ProviderSnapshots.serveWorkerConnectionWithProviderSnapshot, passed,
    serveWorkerConnection, framed]

theorem respond_eq_route (read : (Event.connection m ending pieces).request? = some request) :
    respond api (.connection m ending pieces) d = (route api m request d.api).1 :=
  congrArg Prod.fst (serve_eq_route read)

theorem step_eq_route (read : (Event.connection m ending pieces).request? = some request) :
    (step api ttl (.connection m ending pieces) d).api = (route api m request d.api).2 :=
  congrArg Prod.snd (serve_eq_route read)

theorem step_db_eq_route (read : (Event.connection m ending pieces).request? = some request) :
    (step api ttl (.connection m ending pieces) d).api.db = (route api m request d.api).2.db :=
  congrArg WorkerApiState.db (step_eq_route read)

/-- A request of nobody leaves the queue alone and is served no task. -/
theorem stranger_unserved (read : (Event.connection m ending pieces).request? = some request)
    (stranger : ∀ session, ¬ Authentic m request d.api session) :
    (step api ttl (.connection m ending pieces) d).api.db = d.api.db ∧
      (ofTasks request → ∀ response,
        respond api (.connection m ending pieces) d = some response → response.status ≠ 200) := by
  rw [step_db_eq_route read, respond_eq_route read]
  have effect := route_effect api m request d.api
  generalize (route api m request d.api).1 = answer at effect
  generalize (route api m request d.api).2.db = db at effect
  cases effect with
  | none silent => exact ⟨rfl, silent⟩
  | claimed _ authentic => exact absurd authentic (stranger _)
  | reported _ authentic => exact absurd authentic (stranger _)

theorem report_fits (read : (Event.connection m ending pieces).request? = some request)
    {taskId generation : Int} {report : Report}
    (reports : Reports request taskId generation report) : report.Fits := by
  have bounded := readRequest_bounded (request_read read).2
  rcases reports.made with ⟨_, _, rfl⟩ | ⟨_, said⟩ | ⟨_, _, said⟩
  · trivial
  · exact readProjection_fits bounded said
  · unfold readFailure at said
    cases missing : requiredHeader request "x-worker-error-code" with
    | error refused =>
      rw [missing] at said
      cases said
    | ok errorCode =>
      rw [missing, SubmissionRoute.ok_bind] at said
      cases checked : orBadRequest
          (LocalApi.validateIdentifier errorCode 128 "x-worker-error-code") with
      | error refused =>
        rw [checked] at said
        cases said
      | ok done =>
        rw [checked] at said
        cases said
        trivial

/-- A task that a session runs has no result. -/
theorem unfinished {db : Db} (coherent : ∀ id, QueueInvariants.Coherent (view db id))
    {taskId generation : Int} {sessionId : String} {now : Seconds} {t : Task}
    (holds : Holds (view db taskId) sessionId generation now t) :
    db.results.find? taskId = none := by
  cases stored : db.results.find? taskId with
  | none => rfl
  | some r =>
    obtain ⟨t', row, completed, _⟩ := (coherent taskId).result r stored
    have running := holds.running
    cases holds.row.symm.trans row
    rw [completed] at running
    exact absurd running (by decide)

variable (ttl) in
/-- A report of a live session is applied under the lease it quotes and stale otherwise. -/
theorem report_answer (read : (Event.connection m ending pieces).request? = some request)
    (coherent : ∀ id, QueueInvariants.Coherent (view d.api.db id)) {session : WorkerSession}
    (authentic : Authentic m request d.api session) {taskId generation : Int} {report : Report}
    (reports : Reports request taskId generation report) :
    (respond api (.connection m ending pieces) d = some applied ∧
      ∃ t, Holds (view d.api.db taskId) session.sessionId generation m.now t) ∨
    (respond api (.connection m ending pieces) d = some stale ∧
      (∀ t, ¬ Holds (view d.api.db taskId) session.sessionId generation m.now t) ∧
      (step api ttl (.connection m ending pieces) d).api.db = d.api.db) := by
  have settled := report_settled api m.now taskId session.sessionId generation report d.api.db
    (report_fits read reports) fun _ => unfinished coherent
  have answer := route_of_reports api reports authentic
  rw [respond_eq_route read, step_db_eq_route read, answer]
  rcases settled with ⟨t, db', holds, done⟩ | ⟨none, done⟩
  · rw [executeWithRetry_ok done]
    exact Or.inl ⟨rfl, t, holds⟩
  · refine Or.inr ⟨by rw [executeWithRetry_ok done]; rfl, none, ?_⟩
    have effect := route_effect api m request d.api
    rw [answer, executeWithRetry_ok done] at effect
    generalize (route api m request d.api).2.db = db at effect
    generalize response : some (transitionResponse api (Except.ok LeaseMutation.stale, d.api.db).1) =
      answered at effect
    cases effect with
    | none => rfl
    | claimed => cases response
    | reported => cases response

end Connection

/-! ### Safety -/

/-- The request carries the credentials of a session that is live by the history of the
registry: the last registration of its worker, with no gap since that outlasts a session. -/
def Speaks (ttl : Instant) (d : Daemon) (m : Moment) (request : HttpRequest)
    (session : WorkerSession) : Prop :=
  ∃ sessionToken, credentials request = .ok (session.sessionId, sessionToken) ∧
    SessionRegistry.Live ttl d.api.registry.log session sessionToken m.instant

theorem authentic_iff_speaks {d : Daemon} {m : Moment} {request : HttpRequest}
    (lawful : Lawful ttl d) (later : d.latest ≤ m.instant) {session : WorkerSession} :
    Authentic m request d.api session ↔ Speaks ttl d m request session := by
  have sound := lawful.wait later
  constructor
  · rintro ⟨sessionId, sessionToken, given, known⟩
    obtain ⟨rfl, live⟩ := sound.authenticated_iff.mp known
    exact ⟨sessionToken, given, live⟩
  · rintro ⟨sessionToken, given, live⟩
    exact ⟨session.sessionId, sessionToken, given, sound.authenticated_iff.mpr ⟨rfl, live⟩⟩

/-- The session's claim stands, and its lease has not run out. -/
def Entitled (api : Api) (ttl : Instant) (events : List Event) (taskId : Int) (sessionId : String)
    (generation : Int) (now : Seconds) : Prop :=
  ClaimStands api ttl events taskId sessionId generation ∧
    ∃ t, (view (run api ttl events).api.db taskId).task = some t ∧ t.lockedUntilFrom now

theorem entitled_iff_holds {events : List Event} {taskId generation : Int} {sessionId : String}
    {now : Seconds} : Entitled api ttl events taskId sessionId generation now ↔
      ∃ t, Holds (view (run api ttl events).api.db taskId) sessionId generation now t := by
  constructor
  · rintro ⟨stands, t, row, live⟩
    obtain ⟨t', row', running, owner, fence⟩ := leased_of_stands stands
    cases row.symm.trans row'
    exact ⟨t, row, running, owner, live, fence⟩
  · rintro ⟨t, holds⟩
    exact ⟨stands_of_leased ⟨t, holds.row, holds.running, holds.owner, holds.fence⟩, t, holds.row,
      holds.live⟩

/-- How the next connection of a run is answered, and what it does to the queue. -/
structure Answers (api : Api) (ttl : Instant) (events : List Event) (m : Moment)
    (ending : Ending) (pieces : List (List UInt8)) (request : HttpRequest) : Prop where
  strangers : (∀ session, ¬ Speaks ttl (run api ttl events) m request session) →
    (step api ttl (.connection m ending pieces) (run api ttl events)).api.db =
      (run api ttl events).api.db ∧
    (ofTasks request → ∀ response,
      respond api (.connection m ending pieces) (run api ttl events) = some response →
        response.status ≠ 200)
  reports : ∀ session taskId generation report,
    Speaks ttl (run api ttl events) m request session →
    Reports request taskId generation report →
    (respond api (.connection m ending pieces) (run api ttl events) = some applied ∧
      Entitled api ttl events taskId session.sessionId generation m.now) ∨
    (respond api (.connection m ending pieces) (run api ttl events) = some stale ∧
      ¬ Entitled api ttl events taskId session.sessionId generation m.now ∧
      (step api ttl (.connection m ending pieces) (run api ttl events)).api.db =
        (run api ttl events).api.db)

/-- No generation of a task is handed out by two claims or ended by two reports. -/
def Once (api : Api) (ttl : Instant) (events : List Event) : Prop :=
  ∀ before e middle e' after, events = before ++ e :: middle ++ e' :: after →
    ∀ taskId generation,
      (∀ w w', Grants api e (run api ttl before) taskId w generation →
        ¬ Grants api e' (run api ttl (before ++ e :: middle)) taskId w' generation) ∧
      (Settles api e (run api ttl before) taskId generation →
        ¬ Settles api e' (run api ttl (before ++ e :: middle)) taskId generation)

/-- Safety of the workers' protocol, in every run and for every connection that follows it. -/
theorem worker_protocol_safe (api : Api) (ttl : Instant) (events : List Event)
    (inTime : Histories.AllSteps (step api ttl) InTime (start ttl) events) :
    (∀ m ending pieces request,
      (Event.connection m ending pieces).request? = some request →
      (run api ttl events).latest ≤ m.instant → Answers api ttl events m ending pieces request) ∧
    Once api ttl events := by
  have lawful := run_lawful inTime
  constructor
  · intro m ending pieces request read later
    constructor
    · intro stranger
      refine stranger_unserved read fun session authentic => ?_
      exact stranger session ((authentic_iff_speaks lawful later).mp authentic)
    · intro session taskId generation report speaks reports
      have authentic := (authentic_iff_speaks lawful later).mpr speaks
      rcases report_answer ttl read (run_queue events).2 authentic reports with
        ⟨answer, held⟩ | ⟨answer, none, same⟩
      · exact Or.inl ⟨answer, entitled_iff_holds.mpr held⟩
      · refine Or.inr ⟨answer, fun entitled => ?_, same⟩
        obtain ⟨t, holds⟩ := entitled_iff_holds.mp entitled
        exact none t holds
  · intro before e middle e' after _ taskId generation
    exact ⟨fun w w' => granted_once, settled_once⟩

section Samples

def sampleApi : Api := ⟨⟨.finite 30, 30000⟩, "1.0.0", fun _ => ""⟩

def sampleMoment (instant : Instant) : Moment := ⟨instant, 100, [7], (8, 9), .ok ()⟩

/-- A connection that ends in its head, a tick of the coordinator and a restart. -/
def sampleEvents : List Event :=
  [.connection (sampleMoment 3) .closed [[80, 79, 83, 84]],
    .activeSessions 5 (fun l => ⟨l, .refl l⟩), .dispatch 100 (fun _ _ _ => .finite 0), .restart,
    .connection (sampleMoment 2) .silent []]

theorem sample_inTime :
    Histories.AllSteps (step sampleApi 60) InTime (start 60) sampleEvents := by
  refine ⟨?_, ?_, ?_, ?_, ?_, trivial⟩
  · rintro t ⟨⟩
    exact Nat.zero_le 3
  · rintro t ⟨⟩
    exact (by decide : (3 : Nat) ≤ 5)
  · intro t none
    cases none
  · intro t none
    cases none
  · rintro t ⟨⟩
    exact Nat.zero_le 2

theorem worker_protocol_safe_sample : Once sampleApi 60 sampleEvents :=
  (worker_protocol_safe sampleApi 60 sampleEvents sample_inTime).2

end Samples

end WorkerAuthority
