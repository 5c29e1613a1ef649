import TaskQueQue.IssuedSessions

/-!
# Registered workers

The answer to a registration is a document with the credentials of the session. Whoever
reads it and sends them back speaks for the session, for as long as it sends a heartbeat
before each lifetime has passed and nobody registers under its label.
-/

namespace RegisteredWorkers

open QueueValues JsonText FormattedJson KeyedTable WorkerProtocol HttpFraming
open WorkerRoutes WorkerDaemon IssuedSessions
open CoordinatorRuns (Made)
open GatewayValues (Json)
open LocalApi (hexDigit)
open WorkerApi (escapeChar jsonEscape numberMember textMember numberMember_written
  textMember_written Leads)

variable {api : Api} {ttl : Instant}

/-! ### The form of the credentials -/

theorem digitChar_hexDigit {n : Nat} (h : n < 16) : hexDigit n.digitChar = true := by
  have all : ∀ n : Fin 16, hexDigit n.val.digitChar = true := by decide
  exact all ⟨n, h⟩

theorem toDigits_hexDigit (n : Nat) : ∀ c ∈ Nat.toDigits 16 n, hexDigit c = true := by
  induction n using Nat.strongRecOn with
  | ind n ih =>
    by_cases small : n < 16
    · rw [Nat.toDigits_of_lt_base small]
      intro c mem
      rw [List.mem_singleton.mp mem]
      exact digitChar_hexDigit small
    · rw [Nat.toDigits_of_base_le (by decide) (Nat.le_of_not_lt small)]
      intro c mem
      rcases List.mem_append.mp mem with higher | lowest
      · exact ih (n / 16) (Nat.div_lt_self (by omega) (by decide)) c higher
      · rw [List.mem_singleton.mp lowest]
        exact digitChar_hexDigit (Nat.mod_lt n (by decide))

theorem hex032_digits (n : U128) : ∀ c ∈ (hex032 n).toList, hexDigit c = true := by
  intro c mem
  rw [hex032, String.toList_ofList, List.leftpad] at mem
  rcases List.mem_append.mp mem with padding | digit
  · rw [(List.mem_replicate.mp padding).2]
    decide
  · exact toDigits_hexDigit n.val c digit

theorem hex032_length (n : U128) : (hex032 n).length = 32 := by
  have short : (Nat.toDigits 16 n.val).length ≤ 32 :=
    (Nat.length_toDigits_le_iff (by decide) (by decide)).mpr n.isLt
  rw [hex032, String.length_ofList, List.length_leftpad]
  omega

theorem visible_of_hexDigit {c : Char} (h : hexDigit c = true) :
    RequestRendering.visible c = true := by
  simp only [hexDigit, Bool.or_eq_true, decide_eq_true_eq] at h
  rcases h with (lower | upper) | digit
  · exact AdmissionLanguage.visible_of_between lower (by decide)
  · exact AdmissionLanguage.visible_of_between upper (by decide)
  · exact AdmissionLanguage.visible_of_between digit (by decide)

theorem ascii_of_hexDigit {c : Char} (h : hexDigit c = true) : RequestRendering.ascii c = true :=
  AdmissionLanguage.ascii_of_visible (visible_of_hexDigit h)

theorem hexText_of_digits {text : String} {length : Nat} (long : text.length = length)
    (digits : ∀ c ∈ text.toList, hexDigit c = true) : hexText length text = true := by
  have size := AdmissionLanguage.utf8ByteSize_of_ascii fun c mem =>
    ascii_of_hexDigit (digits c mem)
  rw [hexText, size, long, Bool.and_eq_true, List.all_eq_true]
  exact ⟨decide_eq_true rfl, digits⟩

theorem sessionToken_form (m : Moment) : hexText 64 m.sessionToken = true := by
  refine hexText_of_digits ?_ ?_
  · rw [Moment.sessionToken, String.length_append, hex032_length, hex032_length]
  · intro c mem
    rw [Moment.sessionToken, String.toList_append] at mem
    rcases List.mem_append.mp mem with first | second
    · exact hex032_digits _ c first
    · exact hex032_digits _ c second

theorem candidates_form {m : Moment} {candidate : String} (drawn : candidate ∈ m.candidates) :
    hexText 32 candidate = true := by
  obtain ⟨n, _, rfl⟩ := List.mem_map.mp drawn
  exact hexText_of_digits (hex032_length n) (hex032_digits n)

/-! ### The answer -/

def registrationMembers (made : WorkerRegistration) (ttlMs leaseMs : Nat) : List Member :=
  [textMember "worker_id" made.session.workerId, textMember "worker_type" made.session.kind.toDb,
    numberMember "capacity" made.session.capacity,
    ⟨"task_names", array escapeChar made.session.taskNames.1,
      .arr (made.session.taskNames.1.map Json.str)⟩,
    textMember "session_id" made.session.sessionId, textMember "session_token" made.sessionToken,
    numberMember "session_ttl_ms" ttlMs, numberMember "task_lease_ms" leaseMs]

/-- What a client reads of the answer. -/
def registrationFields (made : WorkerRegistration) (ttlMs leaseMs : Nat) : List (String × Json) :=
  [("worker_id", .str made.session.workerId), ("worker_type", .str made.session.kind.toDb),
    ("capacity", .num made.session.capacity),
    ("task_names", .arr (made.session.taskNames.1.map Json.str)),
    ("session_id", .str made.session.sessionId), ("session_token", .str made.sessionToken),
    ("session_ttl_ms", .num ttlMs), ("task_lease_ms", .num leaseMs)]

theorem escapedNames_array (names : List String) :
    (",".intercalate (names.map fun name => "\"" ++ jsonEscape name ++ "\"")).toList =
      (elements escapeChar names).tail := by
  have each : (names.map fun name => "\"" ++ jsonEscape name ++ "\"").flatMap
      (fun text => ',' :: text.toList) = elements escapeChar names := by
    rw [elements, List.flatMap_map]
    refine List.flatMap_congr fun name _ => ?_
    simp only [literal, jsonEscape, String.toList_append, String.toList_ofList]
    rfl
  rw [CanonicalJson.toList_intercalate_tail, each]

theorem registration_text {id kind capacity names session token lifetime lease last : String}
    (made : WorkerRegistration) (ttlMs leaseMs : Nat) (first : Leads id ['\x7b'] "worker_id" ['"'])
    (second : Leads kind ['"', ','] "worker_type" ['"'])
    (third : Leads capacity ['"', ','] "capacity" [])
    (fourth : Leads names [','] "task_names" ['['])
    (fifth : Leads session [']', ','] "session_id" ['"'])
    (sixth : Leads token ['"', ','] "session_token" ['"'])
    (seventh : Leads lifetime ['"', ','] "session_ttl_ms" [])
    (eighth : Leads lease [','] "task_lease_ms" []) (ends : last.toList = ['\x7d']) :
    (id ++ jsonEscape made.session.workerId ++ kind ++ jsonEscape made.session.kind.toDb ++
      capacity ++ toString made.session.capacity ++ names ++ ",".intercalate
        (made.session.taskNames.1.map fun name => "\"" ++ jsonEscape name ++ "\"") ++ session ++
      jsonEscape made.session.sessionId ++ token ++ jsonEscape made.sessionToken ++ lifetime ++
      toString (ttlMs : Int) ++ lease ++ toString (leaseMs : Int) ++ last).toList =
      object (registrationMembers made ttlMs leaseMs) := by
  unfold Leads at first second third fourth fifth sixth seventh eighth
  simp only [String.toList_append, escapedNames_array]
  simp only [first, second, third, fourth, fifth, sixth,
    seventh, eighth, ends, object, registrationMembers, members, numberMember, textMember, literal,
    array, jsonEscape, String.toList_ofList, List.tail_cons, List.append_assoc, List.cons_append,
    List.nil_append, List.append_nil]

theorem registrationJson_object (made : WorkerRegistration) (ttlMs leaseMs : Nat) :
    (registrationJson made ttlMs leaseMs).toList =
      object (registrationMembers made ttlMs leaseMs) := by
  refine registration_text made ttlMs leaseMs ?_ ?_ ?_ ?_ ?_ ?_ ?_ ?_ ?_
  all_goals decide +kernel

theorem registrationJson_read (made : WorkerRegistration) (ttlMs leaseMs : Nat) :
    read integers (registrationJson made ttlMs leaseMs).toList =
      some (.obj (registrationFields made ttlMs leaseMs)) := by
  rw [registrationJson_object]
  refine (written_object (List.cons_ne_nil _ _) ?_).read
  intro field mem
  simp only [List.mem_cons, List.not_mem_nil, or_false] at mem
  rcases mem with rfl | rfl | rfl | rfl | rfl | rfl | rfl | rfl
  · exact textMember_written _ _
  · exact textMember_written _ _
  · exact numberMember_written _ _
  · exact written_array WorkerApi.escapeChar_sound _
  · exact textMember_written _ _
  · exact textMember_written _ _
  · exact numberMember_written _ ttlMs
  · exact numberMember_written _ leaseMs

/-! ### The registration a client is answered with -/

theorem request_cases {e : Event} {request : HttpRequest} (read : e.request? = some request) :
    ∃ m ending pieces, e = .connection m ending pieces := by
  cases e with
  | connection m ending pieces => exact ⟨m, ending, pieces, rfl⟩
  | client | activeSessions | dispatch | restart => cases read

theorem created_same {made made' : WorkerRegistration} {lifetime : Instant}
    (same : created api made lifetime = created api made' lifetime) :
    made.session.sessionId = made'.session.sessionId ∧ made.sessionToken = made'.sessionToken ∧
      made.session.taskNames = made'.session.taskNames := by
  rw [created, created, WorkerRoutes.Response.mk.injEq] at same
  have body := same.2.2
  have fields := registrationJson_read made (millis lifetime) api.taskLease.millis
  rw [body, registrationJson_read, Option.some.injEq, Json.obj.injEq] at fields
  simp only [registrationFields, List.cons.injEq, Prod.mk.injEq, Json.str.injEq, Json.arr.injEq,
    true_and, and_true] at fields
  obtain ⟨_, _, _, names, sessionId, sessionToken⟩ := fields
  refine ⟨sessionId.symm, sessionToken.symm, Subtype.ext ?_⟩
  exact (List.map_injective_iff.mpr (fun _ _ => Json.str.inj) names).symm

theorem Made.unique {workerId : String} {kind : WorkerKind} {capacity : Int}
    {taskNames : List String} {session session' : WorkerSession}
    (made : Made workerId kind capacity taskNames session)
    (made' : Made workerId kind capacity taskNames session')
    (sessionId : session.sessionId = session'.sessionId)
    (names : session.taskNames = session'.taskNames) : session = session' := by
  obtain ⟨label, type, room, _⟩ := made
  obtain ⟨label', type', room', _⟩ := made'
  cases session
  cases session'
  simp only at label type room label' type' room' sessionId names
  subst label type room label' type' room' sessionId names
  rfl

/-- A registration that is answered has made the session it is answered with. -/
theorem issues_registered {m : Moment} {ending : Ending} {pieces : List (List UInt8)} {d : Daemon}
    {made : WorkerRegistration} (issues : Issues api (.connection m ending pieces) d made) :
    ∃ request, (Event.connection m ending pieces).request? = some request ∧
      Registered api m request d.api made (route api m request d.api) := by
  obtain ⟨request, read, path, r, said, shape⟩ := issues.asked
  refine ⟨request, read, ?_⟩
  have answer : (route api m request d.api).1 = some (created api made d.api.registry.registry.ttl) :=
    (WorkerAuthority.respond_eq_route read).symm.trans issues.answered
  rw [route_register path] at answer ⊢
  rcases routeRegister_cases api m request d.api with ⟨_, refused⟩ | ⟨made', registered⟩
  · exact absurd answer (refused made _)
  · obtain ⟨sessionId, token, names⟩ :=
      created_same (Option.some.inj (registered.answer.symm.trans answer))
    obtain ⟨r', said', shape'⟩ := registered.asked
    rw [said] at said'
    cases said'
    have session := Made.unique shape' shape sessionId names
    have same : made' = made := by
      cases made
      cases made'
      simp only at session token
      rw [session, token]
    rwa [same] at registered

/-! ### What keeps a session in the registry -/

/-- The registry holds the session until that time at least. -/
def HeldUntil (registry : WorkerRegistry) (made : WorkerRegistration) (bound : Instant) : Prop :=
  ∃ entry ∈ registry.sessions.rows, entry.session = made.session ∧
    entry.sessionToken = made.sessionToken ∧ bound ≤ entry.expiresAt

section Registry
variable {registry : WorkerRegistry} {made : WorkerRegistration} {bound now : Instant}

theorem HeldUntil.found (held : HeldUntil registry made bound) :
    ∃ entry, registry.sessions.find? made.session.sessionId = some entry ∧
      entry.session = made.session ∧ entry.sessionToken = made.sessionToken ∧
      bound ≤ entry.expiresAt := by
  obtain ⟨entry, mem, session, token, later⟩ := held
  refine ⟨entry, ?_, session, token, later⟩
  have found := Table.find?_of_mem mem
  rwa [show entry.sessionId = made.session.sessionId from congrArg _ session] at found

/-- Forgetting what has expired does not touch it. -/
theorem HeldUntil.forget (held : HeldUntil registry made bound) (early : now < bound)
    {gone : WorkerSessionEntry → Bool}
    (expired : ∀ entry ∈ registry.sessions.rows, gone entry = true → entry.expiresAt ≤ now) :
    HeldUntil { registry with sessions := registry.sessions.delete gone } made bound := by
  obtain ⟨entry, mem, session, token, later⟩ := held
  refine ⟨entry, List.mem_filter.mpr ⟨mem, ?_⟩, session, token, later⟩
  by_cases goes : gone entry = true
  · exact absurd (Nat.le_trans later (expired entry mem goes)) (Nat.not_le_of_lt early)
  · simpa using goes

theorem HeldUntil.active (held : HeldUntil registry made bound) (early : now < bound) :
    HeldUntil (activeSessionsAt registry now).2 made bound := by
  refine held.forget early fun entry _ goes => ?_
  simp only [Bool.not_eq_true', decide_eq_false_iff_not] at goes
  exact Nat.le_of_not_lt goes

/-- A registration under another label keeps it. -/
theorem HeldUntil.retained (held : HeldUntil registry made bound) (early : now < bound)
    {workerId : String} (other : workerId ≠ made.session.workerId) :
    ∃ entry ∈ (SessionRegistry.retained registry workerId now).rows,
      entry.session = made.session ∧ entry.sessionToken = made.sessionToken ∧
        bound ≤ entry.expiresAt := by
  obtain ⟨entry, mem, session, token, later⟩ := held
  refine ⟨entry, SessionRegistry.mem_retained.mpr ⟨mem, Nat.lt_of_lt_of_le early later, ?_⟩, session,
    token, later⟩
  rw [session]
  exact Ne.symm other

/-- A touch of any session keeps it, and one of its own moves its expiry. -/
theorem HeldUntil.touch (held : HeldUntil registry made bound) (early : now < bound)
    (within : bound ≤ now + registry.ttl) (sessionId sessionToken : String) :
    HeldUntil (authenticateAndTouchAt registry sessionId sessionToken now).2 made bound := by
  rcases SessionRegistry.authenticateAndTouchAt_cases registry sessionId sessionToken now with
    ⟨_, ⟨gone, expired, after⟩, _⟩ | ⟨touched, _, _, _, after⟩
  · rw [after]
    exact held.forget early expired
  · rw [after]
    obtain ⟨entry, mem, session, token, later⟩ := held
    by_cases own : entry.sessionId = sessionId
    · exact ⟨⟨entry.session, entry.sessionToken, now + registry.ttl⟩,
        SessionRegistry.mem_extended.mpr ⟨entry, mem, Or.inl ⟨own, rfl⟩⟩, session, token, within⟩
    · exact ⟨entry, SessionRegistry.mem_extended.mpr ⟨entry, mem, Or.inr ⟨own, rfl⟩⟩, session, token,
        later⟩

theorem HeldUntil.own (held : HeldUntil registry made bound) (early : now < bound) :
    (authenticateAndTouchAt registry made.session.sessionId made.sessionToken now).1 =
        some made.session ∧
      HeldUntil (authenticateAndTouchAt registry made.session.sessionId made.sessionToken now).2 made
        (now + registry.ttl) := by
  obtain ⟨entry, found, session, token, later⟩ := held.found
  rcases SessionRegistry.authenticateAndTouchAt_cases registry made.session.sessionId
      made.sessionToken now with ⟨_, _, wrong⟩ | ⟨touched, found', _, _, after⟩
  · exact absurd token (wrong entry found (Nat.lt_of_lt_of_le early later))
  · rw [found] at found'
    cases found'
    rw [after]
    refine ⟨congrArg some session, ⟨entry.session, entry.sessionToken, now + registry.ttl⟩,
      SessionRegistry.mem_extended.mpr ⟨entry, Table.mem_of_find? found, Or.inl ⟨?_, rfl⟩⟩, session,
      token, le_refl _⟩
    exact Table.key_of_find? found

end Registry

/-! ### Heartbeats -/

/-- The request has the credentials in its headers. -/
def Carries (request : HttpRequest) (made : WorkerRegistration) : Prop :=
  request.header "x-worker-session" = some made.session.sessionId ∧
    request.header "x-worker-token" = some made.sessionToken

instance (request : HttpRequest) (made : WorkerRegistration) : Decidable (Carries request made) :=
  inferInstanceAs (Decidable (_ ∧ _))

/-- When the event is a heartbeat of the session. -/
def beats (made : WorkerRegistration) : Event → Option Instant
  | .connection m ending pieces =>
    ((Event.connection m ending pieces).request?.filter fun request =>
      isTo request "POST" "/v1/session/heartbeat" && decide (request.body = []) &&
        decide (Carries request made)).map fun _ => m.instant
  | _ => none

def alive (session : WorkerSession) : Response :=
  ⟨200, "OK", "\x7b\"status\":\"alive\",\"worker_id\":\"" ++ jsonEscape session.workerId ++
    "\",\"session_id\":\"" ++ jsonEscape session.sessionId ++ "\"\x7d"⟩

/-- The credentials are of the form that is asked for. -/
def WellFormed (made : WorkerRegistration) : Prop :=
  hexText 32 made.session.sessionId = true ∧ hexText 64 made.sessionToken = true

theorem requiredHeader_ok {request : HttpRequest} {name value : String}
    (present : request.header name = some value) (filled : value ≠ "") :
    requiredHeader request name = .ok value := by
  rw [requiredHeader, present, Option.filter_some, if_pos (decide_eq_true filled)]

theorem filled_of_hexText {length : Nat} {text : String} (positive : 0 < length)
    (form : hexText length text = true) : text ≠ "" := by
  rintro rfl
  rw [hexText, Bool.and_eq_true, decide_eq_true_eq] at form
  have none : "".utf8ByteSize = 0 := rfl
  omega

theorem credentials_of_carries {request : HttpRequest} {made : WorkerRegistration}
    (formed : WellFormed made) (carries : Carries request made) :
    credentials request = .ok (made.session.sessionId, made.sessionToken) := by
  rw [credentials, requiredHeader_ok carries.1 (filled_of_hexText (by decide) formed.1),
    requiredHeader_ok carries.2 (filled_of_hexText (by decide) formed.2), SubmissionRoute.ok_bind,
    SubmissionRoute.ok_bind, formed.1, formed.2]
  rfl

section Requests
variable {m : Moment} {request : HttpRequest} {s : WorkerApiState} {made : WorkerRegistration}
  {bound : Instant}

theorem authentic_of_held (formed : WellFormed made) (carries : Carries request made)
    (held : HeldUntil s.registry.registry made bound) (early : m.instant < bound) :
    Authentic m request s made.session :=
  ⟨_, _, credentials_of_carries formed carries, (held.own early).1⟩

theorem authenticate_own (formed : WellFormed made) (carries : Carries request made)
    (held : HeldUntil s.registry.registry made bound) (early : m.instant < bound) :
    ∃ s', authenticate m request s = (.ok made.session, s') ∧
      HeldUntil s'.registry.registry made (m.instant + s.registry.registry.ttl) := by
  obtain ⟨known, moved⟩ := held.own early
  rw [authenticate, credentials_of_carries formed carries]
  dsimp only
  unfold SessionRegistry.authenticateAndTouch
  generalize authenticateAndTouchAt s.registry.registry made.session.sessionId made.sessionToken
    m.instant = touched at known moved
  obtain ⟨session, registry⟩ := touched
  cases known
  exact ⟨_, rfl, moved⟩

variable (api) in
/-- A heartbeat is answered, and moves the expiry. -/
theorem heartbeat_alive (formed : WellFormed made) (carries : Carries request made)
    (path : isTo request "POST" "/v1/session/heartbeat") (empty : request.body = [])
    (held : HeldUntil s.registry.registry made bound) (early : m.instant < bound) :
    (route api m request s).1 = some (alive made.session) ∧
      HeldUntil (route api m request s).2.registry.registry made
        (m.instant + s.registry.registry.ttl) := by
  obtain ⟨s', known, moved⟩ := authenticate_own formed carries held early
  rw [route_sessionHeartbeat path, answered, routeSessionHeartbeat, requireEmptyBody, if_pos empty]
  dsimp only
  rw [known]
  exact ⟨rfl, moved⟩

/-- Any other request keeps the session, but a registration under its label. -/
theorem route_held (held : HeldUntil s.registry.registry made bound) (early : m.instant < bound)
    (within : bound ≤ m.instant + s.registry.registry.ttl)
    (alone : ∀ other, isTo request "POST" "/v1/register" →
      Registered api m request s other (route api m request s) →
      other.session.workerId ≠ made.session.workerId) :
    HeldUntil (route api m request s).2.registry.registry made bound := by
  by_cases path : isTo request "POST" "/v1/register" = true
  · have alone := alone
    rw [route_register path] at alone ⊢
    rcases routeRegister_cases api m request s with ⟨same, _⟩ | ⟨other, registered⟩
    · rw [same]
      exact held
    · obtain ⟨entry, mem, session, token, later⟩ :=
        held.retained early (alone other path registered)
      refine ⟨entry, ?_, session, token, later⟩
      rw [registered.rows]
      exact List.mem_append_left _ mem
  · have calls : Calls m request s.registry (route api m request s).2.registry := route_calls
    generalize (route api m request s).2.registry = after at calls
    cases calls with
    | none => exact held
    | touch sessionId sessionToken =>
      rw [touch_registry]
      exact held.touch early within sessionId sessionToken
    | register path' => exact absurd path' path

end Requests

/-! ### Runs -/

/-- The daemon, and when the worker was last heard. -/
def follow (api : Api) (ttl : Instant) (made : WorkerRegistration) (e : Event)
    (x : Daemon × Instant) : Daemon × Instant :=
  (step api ttl e x.1, (beats made e).getD x.2)

/-- No event comes a lifetime after the last heartbeat, the process goes on, and nobody
registers under the label. -/
structure Steady (api : Api) (ttl : Instant) (made : WorkerRegistration) (e : Event)
    (x : Daemon × Instant) : Prop where
  inTime : InTime e x.1
  early : ∀ t, e.instant? = some t → t < x.2 + ttl
  running : e ≠ .restart
  alone : ∀ other, Issues api e x.1 other → other.session.workerId ≠ made.session.workerId

structure Standing (ttl : Instant) (made : WorkerRegistration) (x : Daemon × Instant) : Prop where
  held : HeldUntil x.1.api.registry.registry made (x.2 + ttl)
  since : x.2 ≤ x.1.latest
  lawful : Lawful ttl x.1

section Runs
variable {made : WorkerRegistration} {e : Event} {x : Daemon × Instant}

theorem connection_held {m : Moment} {ending : Ending} {pieces : List (List UInt8)}
    (formed : WellFormed made)
    (steady : Steady api ttl made (.connection m ending pieces) x)
    (standing : Standing ttl made x) :
    HeldUntil (follow api ttl made (.connection m ending pieces) x).1.api.registry.registry made
      ((follow api ttl made (.connection m ending pieces) x).2 + ttl) := by
  have lifetime : x.1.api.registry.registry.ttl = ttl := standing.lawful.lifetime
  have early := steady.early m.instant rfl
  have later : x.2 ≤ m.instant := Nat.le_trans standing.since (steady.inTime _ rfl)
  have held := standing.held
  unfold follow
  cases read : (Event.connection m ending pieces).request? with
  | none =>
    have silent : beats made (.connection m ending pieces) = none := by
      rw [beats, read]
      rfl
    rw [silent, Option.getD_none]
    dsimp only
    rcases unread_registry api ttl x.1 read with same | looked
    · rw [same]
      exact held
    · rw [looked]
      exact held.active early
  | some request =>
    dsimp only
    rw [WorkerAuthority.step_eq_route read, beats, read, Option.filter_some]
    split
    · rename_i beat
      simp only [Bool.and_eq_true, decide_eq_true_eq] at beat
      obtain ⟨⟨path, empty⟩, carries⟩ := beat
      have moved := (heartbeat_alive api formed carries path empty held early).2
      rw [lifetime] at moved
      exact moved
    · rw [Option.map_none, Option.getD_none]
      refine route_held held early ?_ fun other path registered => ?_
      · rw [lifetime]
        exact Nat.add_le_add_right later ttl
      · refine steady.alone other ⟨⟨request, read, path, registered.asked⟩, ?_⟩
        exact (WorkerAuthority.respond_eq_route read).trans registered.answer

theorem beats_le (made : WorkerRegistration) (inTime : InTime e x.1) (since : x.2 ≤ x.1.latest)
    (running : e ≠ .restart) :
    (follow api ttl made e x).2 ≤ (follow api ttl made e x).1.latest := by
  cases e with
  | connection m ending pieces =>
    have later : x.2 ≤ m.instant := Nat.le_trans since (inTime _ rfl)
    simp only [follow, beats, step]
    generalize Option.filter _ _ = request
    cases request with
    | none => exact later
    | some request => exact Nat.le_refl m.instant
  | client op allowed => exact since
  | activeSessions now order => exact Nat.le_trans since (inTime now rfl)
  | dispatch now transport =>
    simp only [follow, beats, step, Option.getD_none]
    split
    · exact since
    · exact since
  | restart => exact absurd rfl running

theorem standing_step (formed : WellFormed made) (steady : Steady api ttl made e x)
    (standing : Standing ttl made x) : Standing ttl made (follow api ttl made e x) := by
  refine ⟨?_, beats_le made steady.inTime standing.since steady.running,
    step_lawful steady.inTime standing.lawful⟩
  cases e with
  | connection m ending pieces => exact connection_held formed steady standing
  | client op allowed => exact standing.held
  | activeSessions now order => exact standing.held.active (steady.early now rfl)
  | dispatch now transport =>
    simp only [follow, beats, step, Option.getD_none]
    split
    · exact standing.held
    · exact standing.held
  | restart => exact absurd rfl steady.running

theorem follow_fst (made : WorkerRegistration) (later : List Event) (x : Daemon × Instant) :
    (Histories.run (follow api ttl made) x later).1 = Histories.run (step api ttl) x.1 later := by
  induction later generalizing x with
  | nil => rfl
  | cons e later ih => exact ih (follow api ttl made e x)

end Runs

section Registration
variable {made : WorkerRegistration} {m : Moment} {ending : Ending} {pieces : List (List UInt8)}
  {events : List Event}

theorem formed_of_issues {d : Daemon} (issues : Issues api (.connection m ending pieces) d made) :
    WellFormed made := by
  obtain ⟨request, _, registered⟩ := issues_registered issues
  refine ⟨candidates_form registered.drawn.1, ?_⟩
  rw [registered.drawn.2]
  exact sessionToken_form m

/-- A registration is heard when it is made. -/
theorem standing_issued
    (inTime : Histories.AllSteps (step api ttl) InTime (start ttl)
      (events ++ [.connection m ending pieces]))
    (issues : Issues api (.connection m ending pieces) (run api ttl events) made) :
    Standing ttl made (run api ttl (events ++ [.connection m ending pieces]), m.instant) := by
  have lawful := run_lawful inTime
  have before := run_lawful (Histories.allSteps_append.mp inTime).1
  have lifetime : (run api ttl events).api.registry.registry.ttl = ttl := before.lifetime
  obtain ⟨request, read, registered⟩ := issues_registered issues
  rw [run_concat] at lawful ⊢
  refine ⟨?_, Nat.le_refl m.instant, lawful⟩
  dsimp only
  rw [WorkerAuthority.step_eq_route read]
  refine ⟨⟨made.session, made.sessionToken, m.instant + ttl⟩, ?_, rfl, rfl, Nat.le_refl _⟩
  rw [registered.rows, lifetime]
  exact List.mem_append_right _ (List.mem_singleton_self _)

end Registration

/-- The answer to a registration gives the client its session, and with the credentials in it
the client stays that session for as long as it is steady. -/
theorem registered_worker_stays (api : Api) (ttl : Instant) (events : List Event) (m : Moment)
    (ending : Ending) (pieces : List (List UInt8)) (made : WorkerRegistration)
    (inTime : Histories.AllSteps (step api ttl) InTime (start ttl)
      (events ++ [.connection m ending pieces]))
    (issues : Issues api (.connection m ending pieces) (run api ttl events) made)
    (later : List Event)
    (steady : Histories.AllSteps (follow api ttl made) (Steady api ttl made)
      (run api ttl (events ++ [.connection m ending pieces]), m.instant) later) :
    (∃ response, respond api (.connection m ending pieces) (run api ttl events) = some response ∧
      response.status = 201 ∧ read integers response.body.toList =
        some (.obj (registrationFields made (millis ttl) api.taskLease.millis))) ∧
    ∀ before m' ending' pieces' after request,
      later = before ++ .connection m' ending' pieces' :: after →
      (Event.connection m' ending' pieces').request? = some request → Carries request made →
      let d := run api ttl (events ++ .connection m ending pieces :: before)
      Authentic m' request d.api made.session ∧
        (isTo request "POST" "/v1/session/heartbeat" → request.body = [] →
          respond api (.connection m' ending' pieces') d = some (alive made.session)) := by
  have formed := formed_of_issues issues
  have lifetime : (run api ttl events).api.registry.registry.ttl = ttl :=
    (run_lawful (Histories.allSteps_append.mp inTime).1).lifetime
  constructor
  · refine ⟨_, issues.answered, rfl, ?_⟩
    rw [lifetime]
    exact registrationJson_read made (millis ttl) api.taskLease.millis
  · rintro before m' ending' pieces' after request rfl read carries
    obtain ⟨first, rest⟩ := Histories.allSteps_append.mp steady
    have standing := Histories.run_preserves_allowed (P := Standing ttl made)
      (fun e x steady standing => standing_step formed steady standing) first
      (standing_issued inTime issues)
    have early := rest.1.early m'.instant rfl
    have place : (Histories.run (follow api ttl made)
        (run api ttl (events ++ [.connection m ending pieces]), m.instant) before).1 =
        run api ttl (events ++ .connection m ending pieces :: before) := by
      rw [follow_fst, run_concat, run_cons_append]
    have held := standing.held
    rw [place] at held
    refine ⟨authentic_of_held formed carries held early, fun path empty => ?_⟩
    exact (WorkerAuthority.respond_eq_route read).trans
      (heartbeat_alive api formed carries path empty held early).1

section Samples
open WorkerAuthority (sampleApi sampleMoment)

def registerBytes : List UInt8 :=
  ("POST /v1/register HTTP/1.1\r\nX-Worker-Id: w\r\nX-Worker-Type: cpu\r\n" ++
    "X-Worker-Capacity: 2\r\nX-Worker-Tasks: echo\r\n\r\n").toUTF8.toList

def heartbeatBytes : List UInt8 :=
  ("POST /v1/session/heartbeat HTTP/1.1\r\n" ++
    "X-Worker-Session: 00000000000000000000000000000007\r\n" ++
    "X-Worker-Token: 0000000000000000000000000000000800000000000000000000000000000009\r\n" ++
    "\r\n").toUTF8.toList

def registering : Event := .connection (sampleMoment 3) .closed [registerBytes]

def beating : Event := .connection (sampleMoment 40) .closed [heartbeatBytes]

def sampleMade : WorkerRegistration where
  session := ⟨"00000000000000000000000000000007", "w", .cpu, 2, ⟨["echo"], List.pairwise_singleton _ _⟩,
    by decide⟩
  sessionToken := "0000000000000000000000000000000800000000000000000000000000000009"

theorem sample_issues : Issues sampleApi registering (run sampleApi 60 []) sampleMade := by
  have held : (⟨sampleMade.session, sampleMade.sessionToken, 63⟩ : WorkerSessionEntry) ∈
      (step sampleApi 60 registering (start 60)).api.registry.registry.sessions.rows := by
    decide +kernel
  rcases connection_entry held with ⟨old, none, _⟩ | issues
  · exact absurd none List.not_mem_nil
  · exact issues

theorem sample_read : ∃ request, beating.request? = some request ∧
    isTo request "POST" "/v1/session/heartbeat" ∧ request.body = [] ∧ Carries request sampleMade := by
  have filled : beating.request?.any (fun request =>
      isTo request "POST" "/v1/session/heartbeat" && decide (request.body = []) &&
        decide (Carries request sampleMade)) = true := by decide +kernel
  obtain ⟨request, read, shape⟩ := (Option.any_eq_true _ _).mp filled
  simp only [Bool.and_eq_true, decide_eq_true_eq] at shape
  exact ⟨request, read, shape.1.1, shape.1.2, shape.2⟩

theorem sample_steady : Histories.AllSteps (follow sampleApi 60 sampleMade)
    (Steady sampleApi 60 sampleMade) (run sampleApi 60 [registering], 3) [beating] := by
  obtain ⟨request, read, path, _⟩ := sample_read
  refine ⟨⟨?_, ?_, Event.noConfusion, ?_⟩, trivial⟩
  · rintro t ⟨⟩
    exact (by decide : (3 : Nat) ≤ 40)
  · rintro t ⟨⟩
    exact (by decide : (40 : Nat) < 3 + 60)
  · rintro other ⟨⟨request', read', register, _⟩, _⟩
    rw [read] at read'
    cases read'
    have one := (isTo_eq path).2.symm.trans (isTo_eq register).2
    exact absurd one (by decide)

theorem registered_worker_stays_sample :
    respond sampleApi beating (run sampleApi 60 [registering]) = some (alive sampleMade.session) := by
  obtain ⟨request, read, path, empty, carries⟩ := sample_read
  have inTime : Histories.AllSteps (step sampleApi 60) InTime (start 60) [registering] := by
    refine ⟨?_, trivial⟩
    rintro t ⟨⟩
    exact Nat.zero_le 3
  have stays := (registered_worker_stays sampleApi 60 [] _ _ _ sampleMade inTime sample_issues
    [beating] sample_steady).2
  exact (stays [] _ _ _ [] request rfl read carries).2 path empty

end Samples

end RegisteredWorkers
