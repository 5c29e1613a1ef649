import TaskQueQue.AgreedRegistrations
import TaskQueQue.HeldTasks

/-!
# Worker and broker

The worker's calls, as its client writes them, against the broker in any run of it. A worker
that registers is given the session it asked for. Afterwards it is told to register again only
if its session is gone, it is told of every task it is granted, and a report of its succeeds
while it is entitled to the task.
-/

namespace WorkerAgreement

open QueueValues QueueTables LeaseFence TaskLife HttpFraming WorkerProtocol WorkerRoutes WorkerDaemon
open WorkerClient ClientCalls AgreedRegistrations
open ClaimHandling (WorkerHandler WorkerHandlerRegistry)
open RequestRendering (lowerName visible FieldValue)
open AdmissionLanguage (headerBytes fieldValue_of_dense dense_toString length_toString
  length_le_utf8ByteSize)
open McpTools (positiveInteger)
open WorkerApi (claimJson)

variable {api : Api} {ttl : Instant} {m : Moment} {ending : Ending} {pieces : List (List UInt8)}

/-! ### Registering -/

/-- A registration that is not refused for what it asks is made, unless each id that was drawn
is in use. -/
theorem registerAt_total (before : WorkerRegistry) {workerId : String} (kind : WorkerKind)
    {capacity : Int} {asked : List String} {names : TaskNames} (now : Instant)
    (candidates : List String) (sessionToken : String) (filled : workerId ≠ "")
    (room : 0 < capacity) (normal : normalizeTaskNames asked = .ok names) :
    (registerAt before workerId kind capacity asked now candidates sessionToken =
        .ok (none, before) ∧
      ∀ candidate ∈ candidates,
        ((SessionRegistry.retained before workerId now).find? candidate).isSome) ∨
    ∃ made after, registerAt before workerId kind capacity asked now candidates sessionToken =
      .ok (some made, after) := by
  rw [registerAt, if_neg filled, dif_neg (not_le.mpr room), normal]
  dsimp only
  cases drawn : candidates.find? fun candidate =>
      ((SessionRegistry.retained before workerId now).find? candidate).isNone with
  | none =>
    unfold SessionRegistry.retained at drawn
    rw [drawn]
    refine Or.inl ⟨rfl, fun candidate mem => Option.ne_none_iff_isSome.mp fun unused => ?_⟩
    exact List.find?_eq_none.mp drawn candidate mem (Option.isNone_iff_eq_none.mpr unused)
  | some sessionId =>
    have free := List.find?_some drawn
    have unused : (SessionRegistry.retained before workerId now).find? sessionId = none :=
      Option.isNone_iff_eq_none.mp free
    unfold SessionRegistry.retained at drawn unused
    rw [drawn]
    dsimp only
    split
    · rename_i refused
      have used := KeyedTable.Table.insert?_eq_none_iff.mp refused
      have named := (congrArg Option.isSome unused).symm.trans used
      cases named
    · exact Or.inr ⟨_, _, rfl⟩

section Registers
variable {config : WorkerConfig} {registry : WorkerHandlerRegistry} {d : Daemon}

/-- The worker has the session it asked for, and the broker knows it. -/
def Enrols (api : Api) (ttl : Instant) (e : Event) (d : Daemon) (now : Instant)
    (config : WorkerConfig) (registry : WorkerHandlerRegistry) (response : WorkerRoutes.Response) :
    Prop :=
  ∃ registration session, readRegistration config registry (heard response) = .ok registration ∧
    AskedFor config registry session ∧ session.sessionId = registration.sessionId ∧
    SessionRegistry.Live ttl (step api ttl e d).api.registry.log session
      registration.sessionToken now

/-- Every id that was drawn goes with a live session. -/
def AllDrawn (ttl : Instant) (d : Daemon) (m : Moment) : Prop :=
  ∀ candidate ∈ m.candidates, ∃ session sessionToken, session.sessionId = candidate ∧
    SessionRegistry.Live ttl d.api.registry.log session sessionToken m.instant

/-- The durations can be told to a worker. -/
structure Tellable (api : Api) (ttl : Instant) : Prop where
  session : 0 < (millis ttl : Int) ∧ (millis ttl : Int) ≤ maxSafeInteger
  lease : 0 < (api.taskLease.millis : Int) ∧ (api.taskLease.millis : Int) ≤ maxSafeInteger

theorem allDrawn_of_retained {workerId : String} (lawful : Lawful ttl d)
    (later : d.latest ≤ m.instant)
    (used : ∀ candidate ∈ m.candidates,
      ((SessionRegistry.retained d.api.registry.registry workerId m.instant).find?
        candidate).isSome) : AllDrawn ttl d m := by
  intro candidate mem
  obtain ⟨entry, found⟩ := Option.isSome_iff_exists.mp (used candidate mem)
  obtain ⟨held, early, _⟩ := SessionRegistry.mem_retained.mp (KeyedTable.Table.mem_of_find? found)
  have key : entry.sessionId = candidate := KeyedTable.Table.key_of_find? found
  exact ⟨entry.session, entry.sessionToken, key,
    (lawful.wait later).live_iff.mpr ⟨entry, held, rfl, rfl, early⟩⟩

section Route
variable (configured : Configured config) (constructed : Constructed registry)
  (fits : Fits registry) (sending : Sending (registerCall config registry))
include configured constructed fits

variable (api m d) in
theorem routeRegister_agreed :
    ((routeRegister api m sending.request.received d.api).1 = none ∧ ∀ candidate ∈ m.candidates,
      ((SessionRegistry.retained d.api.registry.registry config.workerId m.instant).find?
        candidate).isSome) ∨
    ∃ made, AskedFor config registry made.session ∧
      IssuedSessions.Registered api m sending.request.received d.api made
        (routeRegister api m sending.request.received d.api) := by
  obtain ⟨names, normal, _⟩ := normalizeTaskNames_agreed constructed fits
  have read := readRegistering_agreed configured constructed fits sending
  have room : 0 < config.capacity := configured.capacity.1
  rcases registerAt_total d.api.registry.registry (fromDb registry.workerType) m.instant
      m.candidates m.sessionToken configured.workerId.filled room normal with
    ⟨none, used⟩ | ⟨made, after, done⟩
  · refine Or.inl ⟨?_, used⟩
    rw [routeRegister, read]
    dsimp only
    rw [SessionRegistry.register, none]
  · rcases IssuedSessions.routeRegister_cases api m sending.request.received d.api with
      ⟨_, refused⟩ | ⟨made, registered⟩
    · refine absurd ?_ (refused made after.ttl)
      rw [routeRegister, read]
      dsimp only
      rw [SessionRegistry.register, done]
      rfl
    · obtain ⟨asked, read', shape⟩ := registered.asked
      rw [read] at read'
      cases read'
      exact Or.inr ⟨made, askedFor_of_made shape, registered⟩

/-- A registration is made as the worker asks for it. -/
theorem register_agreed (tellable : Tellable api ttl) (lawful : Lawful ttl d)
    (later : d.latest ≤ m.instant) (brings : sending.Brings pieces) :
    let e := Event.connection m ending pieces
    (respond api e d = none ∧ AllDrawn ttl d m) ∨
      ∃ response, respond api e d = some response ∧
        Enrols api ttl e d m.instant config registry response := by
  intro e
  have proper := registerCall_proper configured constructed fits
  have read := sending.read proper (Nat.zero_le _) brings m ending
  have routed : route api m sending.request.received d.api =
      routeRegister api m sending.request.received d.api := route_register sending.isTo
  have answered : respond api e d = (route api m sending.request.received d.api).1 :=
    WorkerAuthority.respond_eq_route read
  rw [routed] at answered
  rcases routeRegister_agreed api m d configured constructed fits sending with
    ⟨none, used⟩ | ⟨made, asked, registered⟩
  · exact Or.inl ⟨answered.trans none, allDrawn_of_retained lawful later used⟩
  · have lifetime : d.api.registry.registry.ttl = ttl := lawful.lifetime
    have formed : RegisteredWorkers.WellFormed made := by
      refine ⟨RegisteredWorkers.candidates_form registered.drawn.1, ?_⟩
      rw [registered.drawn.2]
      exact RegisteredWorkers.sessionToken_form m
    have accepted := readRegistration_created asked formed tellable.session tellable.lease
    refine Or.inr ⟨_, answered.trans registered.answer, ?_⟩
    rw [lifetime]
    refine ⟨_, made.session, accepted, asked, rfl, ?_⟩
    have inTime : InTime e d := by
      rintro t ⟨⟩
      exact later
    have sound : SessionRegistry.Sound ttl (step api ttl e d).api.registry m.instant :=
      step_lawful inTime lawful
    refine sound.live_iff.mpr ⟨⟨made.session, made.sessionToken, m.instant + ttl⟩, ?_, rfl, rfl, ?_⟩
    · rw [WorkerAuthority.step_eq_route read, routed, registered.rows, lifetime]
      exact List.mem_append_right _ (List.mem_singleton_self _)
    · have positive := tellable.session.1
      have some_time : ttl ≠ 0 := by
        rintro rfl
        exact absurd positive (by decide)
      exact Nat.lt_add_of_pos_right (Nat.pos_of_ne_zero some_time)

end Route

end Registers

/-! ### The session of a registration -/

/-- The broker knows the session of the registration. -/
def Known (ttl : Instant) (d : Daemon) (now : Instant) (registration : Registration) : Prop :=
  ∃ session, session.sessionId = registration.sessionId ∧
    SessionRegistry.Live ttl d.api.registry.log session registration.sessionToken now

/-- The worker reads the answer as a refusal with this status. -/
def RefusedAs {α : Type} (status : Nat) (result : Except ClientError α) : Prop :=
  ∃ message, result = .error (.api status message)

/-- A registration that a worker accepted. -/
def Accepted (registration : Registration) : Prop :=
  ∃ config registry heard, readRegistration config registry heard = .ok registration

structure Formed (registration : Registration) : Prop where
  sessionId : hexText 32 registration.sessionId = true
  sessionToken : hexText 64 registration.sessionToken = true

theorem formed_of_accepted {registration : Registration} (accepted : Accepted registration) :
    Formed registration := by
  obtain ⟨config, registry, heard, read⟩ := accepted
  obtain ⟨value, _, read⟩ := GatewayConfig.bind_ok read
  split at read
  · rename_i id token _ _
    split at read
    · cases read
      obtain ⟨_, _, sessionId⟩ := Option.bind_eq_some_iff.mp id
      obtain ⟨_, _, sessionToken⟩ := Option.bind_eq_some_iff.mp token
      exact ⟨hexText_of_hexOf sessionId, hexText_of_hexOf sessionToken⟩
    · cases read
  · cases read

/-- The request has the credentials of the registration. -/
structure Quotes (request : HttpRequest) (registration : Registration) : Prop where
  sessionId : request.header "x-worker-session" = some registration.sessionId
  sessionToken : request.header "x-worker-token" = some registration.sessionToken

section Quoted
variable {registration : Registration} {request : HttpRequest} {d : Daemon}

theorem credentials_of_quotes (formed : Formed registration) (quotes : Quotes request registration) :
    credentials request = .ok (registration.sessionId, registration.sessionToken) := by
  have id := RegisteredWorkers.requiredHeader_ok quotes.sessionId
    (RegisteredWorkers.filled_of_hexText (by decide) formed.sessionId)
  have token := RegisteredWorkers.requiredHeader_ok quotes.sessionToken
    (RegisteredWorkers.filled_of_hexText (by decide) formed.sessionToken)
  rw [credentials, id, SubmissionRoute.ok_bind, token, SubmissionRoute.ok_bind, formed.sessionId,
    formed.sessionToken]
  rfl

def unknownSession : WorkerRoutes.Response :=
  .error 401 "Unauthorized" "invalid or expired worker session"

/-- The session of a request is authenticated if it is known, and the queue is left alone. -/
theorem authenticate_quoted (lawful : Lawful ttl d) (later : d.latest ≤ m.instant)
    (formed : Formed registration) (quotes : Quotes request registration) :
    (∃ session s', authenticate m request d.api = (.ok session, s') ∧ s'.db = d.api.db ∧
      session.sessionId = registration.sessionId ∧ Known ttl d m.instant registration ∧
      Authentic m request d.api session) ∨
    ∃ s', authenticate m request d.api = (.error unknownSession, s') ∧ s'.db = d.api.db ∧
      ¬ Known ttl d m.instant registration := by
  have sound := lawful.wait later
  have given := credentials_of_quotes formed quotes
  have cases := authenticate_cases m request d.api
  generalize authenticate m request d.api = answer at cases ⊢
  obtain ⟨answer, s'⟩ := answer
  have same := cases.db
  cases cases with
  | malformed refused =>
    rw [given] at refused
    cases refused
  | unknown given' refused =>
    rw [given] at given'
    cases given'
    refine Or.inr ⟨_, rfl, same, ?_⟩
    rintro ⟨session, named, live⟩
    rw [sound.authenticated_iff.mpr ⟨named, live⟩] at refused
    cases refused
  | @known _ _ session given' live =>
    rw [given] at given'
    cases given'
    obtain ⟨named, alive⟩ := sound.authenticated_iff.mp live
    exact Or.inl ⟨session, _, rfl, same, named, ⟨session, named, alive⟩, _, _, given, live⟩

end Quoted

/-! ### The calls of a session -/

def sessionCall (path : String) (more : List (String × String)) (body : String)
    (registration : Registration) : Call :=
  ⟨path, sessionHeaders registration ++ more, body⟩

section SessionCalls
variable {registration : Registration} {path body : String} {more : List (String × String)}

def sessionNames (more : List (String × String)) : List String :=
  (["X-Worker-Session", "X-Worker-Token"] ++ more.map Prod.fst).map lowerName

theorem sessionCall_proper (formed : Formed registration)
    (rooted : path.toList.head? = some '/') (shown : path.toList.all visible = true)
    (distinct : (sessionNames more).Nodup) (unchunked : "transfer-encoding" ∉ sessionNames more)
    (values : ∀ header ∈ more, FieldValue header.2)
    (small : path.length + headerBytes more ≤ 7800) :
    Proper (sessionCall path more body registration) := by
  have names : (sessionCall path more body registration).lowered.map Prod.fst =
      sessionNames more := by
    rw [Call.lowered, sessionNames, List.map_map, sessionCall, List.map_append, List.map_append,
      List.map_map]
    rfl
  obtain ⟨denseId, idLength⟩ := dense_of_hexText formed.sessionId
  obtain ⟨denseToken, tokenLength⟩ := dense_of_hexText formed.sessionToken
  refine ⟨rooted, List.all_eq_true.mp shown, names ▸ distinct, names ▸ unchunked, ?_, ?_⟩
  · refine List.forall_mem_cons.mpr ⟨fieldValue_of_dense denseId, ?_⟩
    exact List.forall_mem_cons.mpr ⟨fieldValue_of_dense denseToken, values⟩
  · have lengths : "X-Worker-Session".length = 16 ∧ "X-Worker-Token".length = 14 := by decide
    simp only [sessionCall, sessionHeaders, List.cons_append, List.nil_append,
      headerBytes]
    omega

theorem quotes_of_sending (sending : Sending (sessionCall path more body registration))
    (proper : Proper (sessionCall path more body registration)) :
    Quotes sending.request.received registration := by
  have id := sending.header proper (.head _)
  have token := sending.header proper (.tail _ (.head _))
  have lowered : lowerName "X-Worker-Session" = "x-worker-session" ∧
      lowerName "X-Worker-Token" = "x-worker-token" := by decide +kernel
  rw [lowered.1] at id
  rw [lowered.2] at token
  exact ⟨id, token⟩

theorem bare_proper (formed : Formed registration) (rooted : path.toList.head? = some '/')
    (shown : path.toList.all visible = true) (small : path.length ≤ 7800) :
    Proper (sessionCall path [] body registration) :=
  sessionCall_proper formed rooted shown (by decide +kernel) (by decide +kernel)
    (fun _ mem => absurd mem List.not_mem_nil) small

theorem heartbeatCall_eq (registration : Registration) :
    heartbeatCall registration = sessionCall "/v1/session/heartbeat" [] "" registration := rfl

theorem claimCall_eq (registration : Registration) :
    claimCall registration = sessionCall "/v1/claim" [] "" registration := rfl

/-- A heartbeat succeeds as long as the session is known. -/
theorem heartbeat_agreed {d : Daemon} (lawful : Lawful ttl d) (later : d.latest ≤ m.instant)
    (formed : Formed registration) (sending : Sending (heartbeatCall registration))
    (brings : sending.Brings pieces) :
    ∃ response, respond api (.connection m ending pieces) d = some response ∧
      (Known ttl d m.instant registration → readHeartbeat (heard response) = .ok ()) ∧
      (¬ Known ttl d m.instant registration →
        RefusedAs 401 (readHeartbeat (heard response))) := by
  have proper : Proper (heartbeatCall registration) := by
    rw [heartbeatCall_eq]
    exact bare_proper formed (by decide) (by decide) (by decide)
  have quotes : Quotes sending.request.received registration := quotes_of_sending sending proper
  have read := sending.read proper (Nat.zero_le _) brings m ending
  have answered : respond api (.connection m ending pieces) d =
      (route api m sending.request.received d.api).1 := WorkerAuthority.respond_eq_route read
  rw [route_sessionHeartbeat sending.isTo] at answered
  refine ⟨_, answered, ?_⟩
  rw [routeSessionHeartbeat, requireEmptyBody, if_pos (sending.body_empty rfl)]
  rcases authenticate_quoted lawful later formed quotes with
    ⟨session, s', known, _, _, alive, _⟩ | ⟨s', refused, _, gone⟩
  · rw [known]
    exact ⟨fun _ => rfl, fun gone => absurd alive gone⟩
  · rw [refused]
    exact ⟨fun alive => absurd alive gone, fun _ => ⟨_, rfl⟩⟩

end SessionCalls

/-! ### Claims -/

def claimedTask (task : FencedClaimedTask) (leaseMs : Nat) : ClaimedTask :=
  ⟨task.id, task.taskName, task.taskType, task.payload, task.leaseGeneration, leaseMs⟩

/-- The numbers a report quotes are exact in the worker's arithmetic. -/
def Quotable (task : FencedClaimedTask) : Prop :=
  task.id ≤ maxSafeInteger ∧ task.leaseGeneration ≤ maxSafeInteger

section Told
variable {task : FencedClaimedTask} {leaseMs : Nat}
  (lease : 0 < (leaseMs : Int) ∧ (leaseMs : Int) ≤ maxSafeInteger)

theorem claimFields (task : FencedClaimedTask) (leaseMs : Nat) :
    ∃ value, responseJson (heard ⟨200, "OK", claimJson task leaseMs⟩) = .ok value ∧
      value.field "task_id" = some (.num task.id) ∧
      value.field "task_name" = some (.str task.taskName) ∧
      value.field "task_type" = some (.str task.taskType) ∧
      value.field "payload" = some (.str task.payload) ∧
      value.field "lease_generation" = some (.num task.leaseGeneration) ∧
      value.field "lease_ms" = some (.num (leaseMs : Int)) := by
  refine ⟨.obj ((WorkerApi.claimMembers task leaseMs).map fun field => (field.key, field.value)),
    ?_, rfl, rfl, rfl, rfl, rfl, rfl⟩
  rw [heard, WorkerApi.claimJson_read]
  rfl

theorem claimStatus (task : FencedClaimedTask) (leaseMs : Nat) :
    ¬ (heard ⟨200, "OK", claimJson task leaseMs⟩).status = 204 := (by decide : ¬ (200 : Nat) = 204)

include lease

theorem readClaim_quotable (positive : 0 < task.id ∧ 0 < task.leaseGeneration)
    (quotable : Quotable task) :
    readClaim (heard ⟨200, "OK", claimJson task leaseMs⟩) = .ok (some (claimedTask task leaseMs)) := by
  obtain ⟨value, body, f1, f2, f3, f4, f5, f6⟩ := claimFields task leaseMs
  rw [readClaim, if_neg (claimStatus task leaseMs), body, SubmissionRoute.ok_bind, f1, f2, f3, f4,
    f5, f6, positiveInteger_intCast positive.1 quotable.1,
    positiveInteger_intCast positive.2 quotable.2, positiveInteger_intCast lease.1 lease.2]
  rfl

theorem readClaim_large (large : ¬ Quotable task) :
    readClaim (heard ⟨200, "OK", claimJson task leaseMs⟩) =
      .error (.other "worker broker returned a malformed claim") := by
  obtain ⟨value, body, f1, f2, f3, f4, f5, f6⟩ := claimFields task leaseMs
  rw [readClaim, if_neg (claimStatus task leaseMs), body, SubmissionRoute.ok_bind, f1, f2, f3, f4,
    f5, f6, positiveInteger_intCast lease.1 lease.2]
  rcases Decidable.not_and_iff_or_not.mp large with beyond | beyond
  · rw [positiveInteger_large (not_le.mp beyond)]
  · rw [positiveInteger_large (not_le.mp beyond)]
    cases positiveInteger (some (.num (task.id : ℚ))) with
    | none => rfl
    | some id => rfl

end Told

/-- No task has an id below one. -/
def Numbered (db : Db) : Prop := ∀ id, id ≤ 0 → view db id = .absent

theorem run_numbered (events : List Event) : Numbered (run api ttl events).api.db := by
  refine WorkerAuthority.run_keeps ?_ empty_fresh (fun _ _ => rfl) events
  intro e d fresh numbered id below
  obtain ⟨change, advances, _⟩ := step_advances api ttl fresh e
  have move := advances.move id
  rw [numbered id below] at move
  rcases move.of_absent with absent | ⟨beyond, _⟩
  · exact absent
  · have := fresh.1
    omega

/-- What a worker makes of the answer to its claim, and the queue after it. -/
inductive Claims (api : Api) (ttl : Instant) (e : Event) (d : Daemon) (now : Instant)
    (registration : Registration) : Except ClientError (Option ClaimedTask) → Db → Prop
  | unknown {result : Except ClientError (Option ClaimedTask)}
      (gone : ¬ Known ttl d now registration) (refused : RefusedAs 401 result) :
      Claims api ttl e d now registration result d.api.db
  | nothing (known : Known ttl d now registration) :
      Claims api ttl e d now registration (.ok none) d.api.db
  | failed {result : Except ClientError (Option ClaimedTask)}
      (known : Known ttl d now registration) (refused : RefusedAs 500 result) :
      Claims api ttl e d now registration result d.api.db
  | granted {task : FencedClaimedTask} {db : Db} (known : Known ttl d now registration)
      (grants : Grants api e d task.id registration.sessionId task.leaseGeneration)
      (quotable : Quotable task) : Claims api ttl e d now registration
        (.ok (some (claimedTask task api.taskLease.millis))) db
  | unread {task : FencedClaimedTask} {db : Db} (known : Known ttl d now registration)
      (grants : Grants api e d task.id registration.sessionId task.leaseGeneration)
      (large : ¬ Quotable task) : Claims api ttl e d now registration
        (.error (.other "worker broker returned a malformed claim")) db

theorem claimed_positive {db db' : Db} {now : Seconds} {workerId : String}
    {task : FencedClaimedTask} (numbered : Numbered db)
    (coherent : ∀ id, QueueInvariants.Coherent (view db id))
    (served : claimTask now workerId db = .ok (some task, db')) :
    0 < task.id ∧ 0 < task.leaseGeneration := by
  obtain ⟨t, row, _, _, told⟩ := HeldTasks.claimTask_row served
  constructor
  · by_contra below
    have absent := numbered task.id (not_lt.mp below)
    have present : (view db task.id).task = some t := row
    rw [absent] at present
    cases present
  · have generation : task.leaseGeneration = (view db t.id).generation + 1 := by rw [told]; rfl
    cases fence : (view db t.id).fence with
    | none =>
      rw [generation, TaskView.generation, fence]
      decide
    | some g =>
      have least := (coherent t.id).fence g fence
      rw [generation, TaskView.generation, fence, Option.getD_some]
      omega

section Claiming
variable {d : Daemon} {registration : Registration}

/-- A claim tells the worker of the task it is granted. -/
theorem claim_agreed (tellable : Tellable api ttl) (lawful : Lawful ttl d)
    (later : d.latest ≤ m.instant) (numbered : Numbered d.api.db)
    (coherent : ∀ id, QueueInvariants.Coherent (view d.api.db id)) (formed : Formed registration)
    (sending : Sending (claimCall registration)) (brings : sending.Brings pieces) :
    let e := Event.connection m ending pieces
    ∃ response, respond api e d = some response ∧
      Claims api ttl e d m.instant registration (readClaim (heard response))
        (step api ttl e d).api.db := by
  intro e
  have proper : Proper (claimCall registration) := by
    rw [claimCall_eq]
    exact bare_proper formed (by decide) (by decide) (by decide)
  have quotes : Quotes sending.request.received registration := quotes_of_sending sending proper
  have read := sending.read proper (Nat.zero_le _) brings m ending
  have answered : respond api e d = (route api m sending.request.received d.api).1 :=
    WorkerAuthority.respond_eq_route read
  have stepped : (step api ttl e d).api.db = (route api m sending.request.received d.api).2.db :=
    WorkerAuthority.step_db_eq_route read
  have empty : requireEmptyBody sending.request.received = .ok () :=
    if_pos (sending.body_empty rfl)
  rw [route_claim sending.isTo, routeClaim, empty] at answered stepped
  rcases authenticate_quoted lawful later formed quotes with
    ⟨session, s', authenticated, same, named, known, _⟩ | ⟨s', refused, same, gone⟩
  · rw [authenticated] at answered stepped
    dsimp only at answered stepped
    rw [same, named] at answered stepped
    refine ⟨_, answered, ?_⟩
    rw [stepped]
    cases ran : claimTask m.now registration.sessionId d.api.db with
    | error error =>
      rw [executeWithRetry_error ran]
      exact .failed known ⟨_, rfl⟩
    | ok outcome =>
      obtain ⟨claimed, db'⟩ := outcome
      rw [executeWithRetry_ok ran] at answered ⊢
      cases claimed with
      | none =>
        rcases claim_cases m.now registration.sessionId d.api.db with ⟨_, _, served, _⟩ | ⟨kept, _⟩
        · rw [ran] at served
          cases served
        · rw [executeWithRetry_ok ran] at kept
          dsimp only at kept
          rw [kept]
          exact .nothing known
      | some task =>
        have positive := claimed_positive numbered coherent ran
        have grants : Grants api e d task.id registration.sessionId task.leaseGeneration :=
          ⟨⟨_, read, sending.isTo, quotes.sessionId⟩, task, answered, rfl, rfl⟩
        by_cases quotable : Quotable task
        · rw [claimResponse, readClaim_quotable tellable.lease positive quotable]
          exact .granted known grants quotable
        · rw [claimResponse, readClaim_large tellable.lease quotable]
          exact .unread known grants quotable
  · rw [refused] at answered stepped
    refine ⟨_, answered, ?_⟩
    have kept : (step api ttl e d).api.db = d.api.db := stepped.trans same
    rw [kept]
    exact .unknown gone ⟨_, rfl⟩

end Claiming

/-! ### Reports -/

def report : Transition → Report
  | .heartbeat => .heartbeat
  | .complete resultProjection => .complete resultProjection
  | .fail errorCode => .fail ("worker_error:" ++ errorCode)

/-- The result is a text within the bound, the error code a safe name. -/
def Sendable : Transition → Prop
  | .heartbeat | .complete none => True
  | .complete (some text) =>
    text ≠ "" ∧ text.utf8ByteSize ≤ ResultProjection.maxResultProjectionBytes
  | .fail errorCode => Safe errorCode

/-- A task that a worker was told of. -/
def Told (task : ClaimedTask) : Prop := ∃ heard, readClaim heard = .ok (some task)

structure Numbers (task : ClaimedTask) : Prop where
  taskId : 0 < task.taskId ∧ task.taskId ≤ maxSafeInteger
  generation : 0 < task.leaseGeneration ∧ task.leaseGeneration ≤ maxSafeInteger

theorem positiveInteger_some {value : Option GatewayValues.Json} {n : Int}
    (h : positiveInteger value = some n) : 0 < n ∧ n ≤ maxSafeInteger := by
  obtain ⟨safe, positive⟩ := Option.filter_eq_some_iff.mp h
  unfold GatewayValues.Json.safeInteger? at safe
  have within := of_decide_eq_true (Option.filter_eq_some_iff.mp safe).2
  refine ⟨of_decide_eq_true positive, ?_⟩
  simp only [maxSafeInteger]
  omega

theorem numbers_of_told {task : ClaimedTask} (told : Told task) : Numbers task := by
  obtain ⟨heard, read⟩ := told
  unfold readClaim at read
  split at read
  · cases read
  · obtain ⟨value, _, read⟩ := GatewayConfig.bind_ok read
    split at read
    · rename_i id _ _ _ generation _
      cases read
      exact ⟨positiveInteger_some id, positiveInteger_some generation⟩
    · cases read

section Transitions
variable {registration : Registration} {task : ClaimedTask} {transition : Transition}

def fenceHeaders (task : ClaimedTask) : List (String × String) :=
  [("X-Task-Id", toString task.taskId), ("X-Lease-Generation", toString task.leaseGeneration)]

theorem transitionCall_eq (registration : Registration) (task : ClaimedTask)
    (transition : Transition) : transitionCall registration task transition =
      sessionCall transition.path (fenceHeaders task ++ transition.headers) transition.body
        registration := by
  rw [transitionCall, sessionCall, List.append_assoc]
  rfl

theorem i64_of_numbers {n : Int} (bounds : 0 < n ∧ n ≤ maxSafeInteger) : i64Min ≤ n ∧ n ≤ i64Max := by
  simp only [i64Min, i64Max, maxSafeInteger] at bounds ⊢
  omega

theorem path_shown (transition : Transition) : transition.path.toList.head? = some '/' ∧
    transition.path.toList.all visible = true ∧ transition.path.length ≤ 18 := by
  cases transition with
  | heartbeat =>
    exact (by decide : "/v1/task/heartbeat".toList.head? = some '/' ∧
      "/v1/task/heartbeat".toList.all visible = true ∧
      "/v1/task/heartbeat".length ≤ 18)
  | complete _ =>
    exact (by decide : "/v1/task/complete".toList.head? = some '/' ∧
      "/v1/task/complete".toList.all visible = true ∧
      "/v1/task/complete".length ≤ 18)
  | fail _ =>
    exact (by decide : "/v1/task/fail".toList.head? = some '/' ∧
      "/v1/task/fail".toList.all visible = true ∧ "/v1/task/fail".length ≤ 18)

theorem headers_distinct (task : ClaimedTask) (transition : Transition) :
    (sessionNames (fenceHeaders task ++ transition.headers)).Nodup ∧
      "transfer-encoding" ∉ sessionNames (fenceHeaders task ++ transition.headers) := by
  have names : sessionNames (fenceHeaders task ++ transition.headers) =
      (["X-Worker-Session", "X-Worker-Token", "X-Task-Id", "X-Lease-Generation"] ++
        transition.headers.map Prod.fst).map lowerName := by
    rw [sessionNames, List.map_append]
    rfl
  rw [names]
  cases transition with
  | heartbeat => decide +kernel
  | complete resultProjection =>
    cases resultProjection with
    | none => decide +kernel
    | some text =>
      rw [Transition.headers, List.map_singleton]
      decide +kernel
  | fail errorCode =>
    rw [Transition.headers, List.map_singleton]
    dsimp only
    decide +kernel

theorem headers_sendable (sendable : Sendable transition) :
    (∀ header ∈ transition.headers, FieldValue header.2) ∧
      headerBytes transition.headers ≤ 160 := by
  have lengths : "Content-Type".length = 12 ∧ "application/json; charset=utf-8".length = 31 ∧
      "X-Worker-Error-Code".length = 19 := by decide
  have none : (∀ header ∈ ([] : List (String × String)), FieldValue header.2) ∧
      headerBytes [] ≤ 160 :=
    ⟨fun _ mem => absurd mem List.not_mem_nil, by decide⟩
  cases transition with
  | heartbeat => exact none
  | complete resultProjection =>
    cases resultProjection with
    | none => exact none
    | some text =>
      have media : FieldValue "application/json; charset=utf-8" :=
        ⟨List.all_eq_true.mp (by decide), by decide, by decide⟩
      refine ⟨List.forall_mem_singleton.mpr media, ?_⟩
      simp only [Transition.headers, headerBytes]
      omega
  | fail errorCode =>
    have safe : Safe errorCode := sendable
    have codeLength := length_le_utf8ByteSize errorCode
    have codeShort := safe.short
    refine ⟨List.forall_mem_singleton.mpr
      (fieldValue_of_dense (safe_dense safe)), ?_⟩
    simp only [Transition.headers, headerBytes]
    omega

theorem transitionCall_proper (formed : Formed registration) (numbers : Numbers task)
    (sendable : Sendable transition) : Proper (transitionCall registration task transition) := by
  have id := i64_of_numbers numbers.taskId
  have generation := i64_of_numbers numbers.generation
  have idLength := length_toString id.1 id.2
  have generationLength := length_toString generation.1 generation.2
  have lengths : "X-Task-Id".length = 9 ∧ "X-Lease-Generation".length = 18 := by decide
  obtain ⟨rooted, shown, short⟩ := path_shown transition
  obtain ⟨distinct, unchunked⟩ := headers_distinct task transition
  obtain ⟨values, small⟩ := headers_sendable sendable
  rw [transitionCall_eq]
  refine sessionCall_proper formed rooted shown distinct unchunked ?_ ?_
  · refine List.forall_mem_cons.mpr ⟨fieldValue_of_dense (dense_toString _), ?_⟩
    exact List.forall_mem_cons.mpr
      ⟨fieldValue_of_dense (dense_toString _), values⟩
  · simp only [fenceHeaders, List.cons_append, List.nil_append, headerBytes]
    omega

section Sent
variable (sending : Sending (transitionCall registration task transition))
  (proper : Proper (transitionCall registration task transition))
include proper

theorem transition_quotes : Quotes sending.request.received registration :=
  @quotes_of_sending registration transition.path transition.body
    (fenceHeaders task ++ transition.headers) sending proper

theorem transition_fence (numbers : Numbers task) :
    taskFenceHeaders sending.request.received = .ok (task.taskId, task.leaseGeneration) := by
  have id := sending.header proper (List.mem_append_left _ (List.mem_append_right _ (.head _)))
  have generation := sending.header proper
    (List.mem_append_left _ (List.mem_append_right _ (.tail _ (.head _))))
  have lowered : lowerName "X-Task-Id" = "x-task-id" ∧
      lowerName "X-Lease-Generation" = "x-lease-generation" := by decide +kernel
  rw [lowered.1] at id
  rw [lowered.2] at generation
  have first : 1 ≤ task.taskId := numbers.taskId.1
  have least : 1 ≤ task.leaseGeneration := numbers.generation.1
  obtain ⟨idLower, idUpper⟩ := i64_of_numbers numbers.taskId
  obtain ⟨lower, upper⟩ := i64_of_numbers numbers.generation
  rw [taskFenceHeaders, parseBoundedI64Header_toString id ⟨first, idUpper⟩ idLower idUpper,
    SubmissionRoute.ok_bind,
    parseBoundedI64Header_toString generation ⟨least, upper⟩ lower upper]
  rfl

end Sent

theorem readProjection_sent {resultProjection : Option String}
    (sending : Sending (transitionCall registration task (.complete resultProjection)))
    (proper : Proper (transitionCall registration task (.complete resultProjection)))
    (sendable : Sendable (.complete resultProjection)) :
    readProjection sending.request.received = .ok (.complete resultProjection) := by
  cases resultProjection with
  | none => rw [readProjection, if_pos (sending.body_empty rfl)]
  | some text =>
    have filled : text ≠ "" := sendable.1
    have body : sending.request.received.body = CapabilityAuth.encode text := rfl
    have present : sending.request.received.body ≠ [] := by
      intro none
      have size := RequestRendering.length_encode text
      rw [← body, none] at size
      exact filled (String.utf8ByteSize_eq_zero_iff.mp size.symm)
    have media := sending.header proper (List.mem_append_right _ (.head _))
    have lowered : lowerName "Content-Type" = "content-type" := by decide +kernel
    have json : jsonType.isPrefixOf
        ("application/json; charset=utf-8".toList.map Char.toLower) = true := by decide +kernel
    rw [lowered] at media
    rw [readProjection, if_neg present, media]
    dsimp only [Option.getD_some]
    rw [json, body, RequestRendering.fromUTF8?_encode]
    dsimp only
    rw [if_pos filled]
    rfl

theorem readFailure_sent {errorCode : String}
    (sending : Sending (transitionCall registration task (.fail errorCode)))
    (proper : Proper (transitionCall registration task (.fail errorCode)))
    (safe : Safe errorCode) :
    readFailure sending.request.received = .ok (.fail ("worker_error:" ++ errorCode)) := by
  have code := sending.header proper (List.mem_append_right _ (.head _))
  have lowered : lowerName "X-Worker-Error-Code" = "x-worker-error-code" := by decide +kernel
  rw [lowered] at code
  rw [readFailure, RegisteredWorkers.requiredHeader_ok code safe.filled, SubmissionRoute.ok_bind,
    validateIdentifier_safe safe "x-worker-error-code" safe.short]
  rfl

theorem transition_routed {s : WorkerApiState} (sendable : Sendable transition)
    (sending : Sending (transitionCall registration task transition))
    (proper : Proper (transitionCall registration task transition)) :
    route api m sending.request.received s =
      answered (routeReport api m sending.request.received (.ok (report transition)) s) := by
  cases transition with
  | heartbeat =>
    rw [route_taskHeartbeat sending.isTo, routeTaskHeartbeat, requireEmptyBody,
      if_pos (sending.body_empty rfl)]
    rfl
  | complete resultProjection =>
    rw [route_taskComplete sending.isTo, routeTaskComplete,
      readProjection_sent sending proper sendable]
    rfl
  | fail errorCode =>
    rw [route_taskFail sending.isTo, routeTaskFail, requireEmptyBody,
      if_pos (sending.body_empty rfl), readFailure_sent sending proper sendable]
    rfl

theorem report_fits (sendable : Sendable transition) : (report transition).Fits := by
  cases transition with
  | heartbeat => trivial
  | complete resultProjection =>
    cases resultProjection with
    | none => trivial
    | some text =>
      refine ⟨?_, sendable.2⟩
      rw [ne_eq, String.utf8ByteSize_eq_zero_iff]
      exact sendable.1
  | fail errorCode => trivial

end Transitions

/-- What a worker makes of the answer to its report, and the queue after it. -/
inductive Transitions (api : Api) (ttl : Instant) (events : List Event) (m : Moment)
    (registration : Registration) (task : ClaimedTask) (transition : Transition) :
    Except ClientError Unit → Db → Prop
  | unknown {result : Except ClientError Unit}
      (gone : ¬ Known ttl (run api ttl events) m.instant registration)
      (refused : RefusedAs 401 result) :
      Transitions api ttl events m registration task transition result (run api ttl events).api.db
  | stale {result : Except ClientError Unit}
      (known : Known ttl (run api ttl events) m.instant registration)
      (lost : ¬ WorkerAuthority.Entitled api ttl events task.taskId registration.sessionId
        task.leaseGeneration m.now)
      (refused : RefusedAs 409 result) :
      Transitions api ttl events m registration task transition result (run api ttl events).api.db
  | applied {db : Db} (known : Known ttl (run api ttl events) m.instant registration)
      (entitled : WorkerAuthority.Entitled api ttl events task.taskId registration.sessionId
        task.leaseGeneration m.now)
      (accepted : (report transition).transaction api m.now task.taskId registration.sessionId
        task.leaseGeneration (run api ttl events).api.db = .ok (.applied, db)) :
      Transitions api ttl events m registration task transition (.ok ()) db

/-- A report of a worker succeeds as long as it is entitled to the task. -/
theorem transition_agreed {events : List Event} {registration : Registration} {task : ClaimedTask}
    {transition : Transition} (lawful : Lawful ttl (run api ttl events))
    (later : (run api ttl events).latest ≤ m.instant) (formed : Formed registration)
    (numbers : Numbers task) (sendable : Sendable transition)
    (sending : Sending (transitionCall registration task transition))
    (brings : sending.Brings pieces) :
    let e := Event.connection m ending pieces
    ∃ response, respond api e (run api ttl events) = some response ∧
      Transitions api ttl events m registration task transition
        (readTransition transition (heard response)) (step api ttl e (run api ttl events)).api.db := by
  intro e
  have proper : Proper (transitionCall registration task transition) :=
    transitionCall_proper formed numbers sendable
  have quotes := transition_quotes sending proper
  have fence := transition_fence sending proper numbers
  have small : (transitionCall registration task transition).body.utf8ByteSize ≤
      ResultProjection.maxResultProjectionBytes := by
    cases transition with
    | heartbeat => exact Nat.zero_le _
    | complete resultProjection =>
      cases resultProjection with
      | none => exact Nat.zero_le _
      | some text => exact sendable.2
    | fail errorCode => exact Nat.zero_le _
  have read := sending.read proper small brings m ending
  have answered : respond api e (run api ttl events) =
      (route api m sending.request.received (run api ttl events).api).1 :=
    WorkerAuthority.respond_eq_route read
  have stepped : (step api ttl e (run api ttl events)).api.db =
      (route api m sending.request.received (run api ttl events).api).2.db :=
    WorkerAuthority.step_db_eq_route read
  rw [transition_routed sendable sending proper] at answered stepped
  refine ⟨_, answered, ?_⟩
  rw [stepped, routeReport]
  rcases authenticate_quoted lawful later formed quotes with
    ⟨session, s', authenticated, same, named, known, _⟩ | ⟨s', refused, same, gone⟩
  · rw [authenticated]
    dsimp only
    rw [fence]
    dsimp only
    rw [same, named]
    rcases report_settled api m.now task.taskId registration.sessionId task.leaseGeneration
        (report transition) (run api ttl events).api.db (report_fits sendable)
        fun _ => WorkerAuthority.unfinished (run_queue events).2 with
      ⟨t, db', holds, done⟩ | ⟨none, done⟩
    · rw [executeWithRetry_ok done]
      exact .applied known (WorkerAuthority.entitled_iff_holds.mpr ⟨t, holds⟩) done
    · rw [executeWithRetry_ok done]
      refine .stale known (fun entitled => ?_) ⟨_, rfl⟩
      obtain ⟨t, holds⟩ := WorkerAuthority.entitled_iff_holds.mp entitled
      exact none t holds
  · rw [refused]
    have kept : (WorkerRoutes.answered (unknownSession, s')).2.db = (run api ttl events).api.db :=
      same
    dsimp only
    rw [kept]
    exact .unknown gone ⟨_, rfl⟩

/-! ### Agreement -/

/-- What comes of a worker's next call, after a run of the broker. -/
structure Agree (api : Api) (ttl : Instant) (events : List Event) (m : Moment) (ending : Ending)
    (config : WorkerConfig) (registry : WorkerHandlerRegistry) : Prop where
  registers : ∀ (sending : Sending (registerCall config registry)) pieces,
    sending.Brings pieces →
    let e := Event.connection m ending pieces
    (respond api e (run api ttl events) = none ∧ AllDrawn ttl (run api ttl events) m) ∨
      ∃ response, respond api e (run api ttl events) = some response ∧
        Enrols api ttl e (run api ttl events) m.instant config registry response
  heartbeats : ∀ registration, Accepted registration →
    ∀ (sending : Sending (heartbeatCall registration)) pieces, sending.Brings pieces →
    ∃ response, respond api (.connection m ending pieces) (run api ttl events) = some response ∧
      (Known ttl (run api ttl events) m.instant registration →
        readHeartbeat (heard response) = .ok ()) ∧
      (¬ Known ttl (run api ttl events) m.instant registration →
        RefusedAs 401 (readHeartbeat (heard response)))
  claims : ∀ registration, Accepted registration →
    ∀ (sending : Sending (claimCall registration)) pieces, sending.Brings pieces →
    let e := Event.connection m ending pieces
    ∃ response, respond api e (run api ttl events) = some response ∧
      Claims api ttl e (run api ttl events) m.instant registration (readClaim (heard response))
        (step api ttl e (run api ttl events)).api.db
  transitions : ∀ registration task transition, Accepted registration → Told task →
    Sendable transition →
    ∀ (sending : Sending (transitionCall registration task transition)) pieces,
    sending.Brings pieces →
    let e := Event.connection m ending pieces
    ∃ response, respond api e (run api ttl events) = some response ∧
      Transitions api ttl events m registration task transition
        (readTransition transition (heard response)) (step api ttl e (run api ttl events)).api.db

/-- A worker and the broker agree, in whatever way the worker's calls are written and cut. -/
theorem worker_and_broker_agree (api : Api) (ttl : Instant) (events : List Event)
    (inTime : Histories.AllSteps (step api ttl) InTime (start ttl) events)
    (tellable : Tellable api ttl) (platform : GatewayConfig.Platform)
    (env : GatewayConfig.Environment) (config : WorkerConfig)
    (loaded : loadWorkerConfig platform env = .ok config) (workerType : String)
    (handlers : List WorkerHandler) (registry : WorkerHandlerRegistry)
    (created : newRegistry workerType handlers = .ok registry) (fits : Fits registry)
    (m : Moment) (later : (run api ttl events).latest ≤ m.instant) (ending : Ending) :
    Agree api ttl events m ending config registry := by
  have lawful := run_lawful inTime
  have configured := loadWorkerConfig_configured loaded
  have constructed := newRegistry_constructed created
  constructor
  · intro sending pieces brings
    exact register_agreed configured constructed fits sending tellable lawful later brings
  · intro registration accepted sending pieces brings
    exact heartbeat_agreed lawful later (formed_of_accepted accepted) sending brings
  · intro registration accepted sending pieces brings
    exact claim_agreed tellable lawful later (run_numbered events) (run_queue events).2
      (formed_of_accepted accepted) sending brings
  · intro registration task transition accepted told sendable sending pieces brings
    exact transition_agreed lawful later (formed_of_accepted accepted) (numbers_of_told told)
      sendable sending brings

section Samples

def samplePlatform : GatewayConfig.Platform where
  url text := if text = "http://127.0.0.1:7332" then
      some ⟨{ protocol := "http:", hostname := "127.0.0.1", port := "7332" }, "/", text⟩
    else none
  number _ := none

def sampleConfig : WorkerConfig :=
  ⟨"http://127.0.0.1:7332", "document-reference-worker", "./var/document-worker-results", 1, 250, 0,
    5000⟩

theorem sample_loaded : loadWorkerConfig samplePlatform (fun _ => none) = .ok sampleConfig := by
  refine RequestFingerprints.ok_of_toOption ?_
  decide +kernel

def sampleHandlers : List WorkerHandler :=
  [⟨"document.process", "cpu", {}, none⟩, ⟨"hash.compute", "cpu", {}, none⟩]

theorem sample_created : newRegistry "cpu" sampleHandlers = .ok ⟨"cpu", sampleHandlers⟩ := by
  rfl

theorem sample_fits : Fits ⟨"cpu", sampleHandlers⟩ where
  type := by decide
  names := by decide
  text := by decide +kernel

def sampleCall : Call := registerCall sampleConfig ⟨"cpu", sampleHandlers⟩

/-- The call as it is written with the headers that the platform adds. -/
def sampleSending : Sending sampleCall where
  fields := sampleCall.headers ++ [("Host", "127.0.0.1:7332"), ("Content-Length", "0")]
  own := [("host", "127.0.0.1:7332"), ("content-length", "0")]
  sends := by
    rw [List.map_append]
    exact List.perm_append_comm
  names := by
    have tokens : ∀ field ∈ sampleCall.headers ++
        [("Host", "127.0.0.1:7332"), ("Content-Length", "0")],
        field.1 ≠ "" ∧ field.1.toList.all RequestRendering.tokenChar = true := by
      decide +kernel
    exact fun field mem => ⟨(tokens field mem).1, List.all_eq_true.mp (tokens field mem).2⟩
  length := List.mem_cons_of_mem _ (List.mem_singleton_self _)
  ownDistinct := by decide
  ownOther := by decide +kernel
  ownValues := by
    have host : FieldValue "127.0.0.1:7332" := ⟨List.all_eq_true.mp (by decide), by decide, by decide⟩
    have zero : FieldValue "0" := ⟨List.all_eq_true.mp (by decide), by decide, by decide⟩
    exact List.forall_mem_cons.mpr ⟨host, List.forall_mem_singleton.mpr zero⟩
  ownSmall := by decide

theorem sample_tellable : Tellable WorkerAuthority.sampleApi 60000000000 where
  session := by decide
  lease := by decide

/-- A first registration, in two pieces. -/
theorem worker_and_broker_agree_sample : ∃ response,
    respond WorkerAuthority.sampleApi (.connection (WorkerAuthority.sampleMoment 3) .closed
      [sampleSending.request.bytes.take 100, sampleSending.request.bytes.drop 100])
      (run WorkerAuthority.sampleApi 60000000000 []) = some response ∧
    Enrols WorkerAuthority.sampleApi 60000000000 (.connection (WorkerAuthority.sampleMoment 3)
      .closed [sampleSending.request.bytes.take 100, sampleSending.request.bytes.drop 100])
      (run WorkerAuthority.sampleApi 60000000000 []) 3 sampleConfig ⟨"cpu", sampleHandlers⟩
      response := by
  have agree := worker_and_broker_agree WorkerAuthority.sampleApi 60000000000 [] trivial
    sample_tellable samplePlatform (fun _ => none) sampleConfig sample_loaded "cpu" sampleHandlers
    ⟨"cpu", sampleHandlers⟩ sample_created sample_fits (WorkerAuthority.sampleMoment 3)
    (Nat.zero_le 3) .closed
  have cut : [sampleSending.request.bytes.take 100, sampleSending.request.bytes.drop 100].flatten =
      sampleSending.request.bytes := by
    rw [List.flatten_cons, List.flatten_cons, List.flatten_nil, List.append_nil,
      List.take_append_drop]
  rcases agree.registers sampleSending _ cut with ⟨_, drawn⟩ | registered
  · obtain ⟨_, _, _, newer, older, _, split, _⟩ := drawn (hex032 7) (.head _)
    have none : ([] : List SessionRegistry.Note) = newer ++ _ :: older := split
    cases newer with
    | nil => cases none
    | cons note newer => cases none
  · exact registered

end Samples

end WorkerAgreement
