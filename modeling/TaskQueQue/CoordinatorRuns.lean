import TaskQueQue.WorkerCapacity
import Mathlib.Data.List.Induction

/-!
# Runs of the coordinators

Any number of coordinators share the database. Each keeps its own registry of
worker sessions. A call of `dispatch_available` takes a snapshot of the sessions
alive in its coordinator's registry and runs its transaction later, so that
registrations, expiries, other calls and any queue operation may fall between
the two. Clock readings are arbitrary, the monotonic and the wall clock alike.
-/

namespace CoordinatorRuns

open QueueValues QueueTables TaskLife KeyedTable SyncQueue WorkerProtocol WorkerCapacity QueueRuns

/-- A dispatch call between its snapshot and its transaction. -/
structure Call where
  coordinator : Nat
  sessions : List WorkerSession

structure System where
  db : Db
  registries : Nat → WorkerRegistry
  calls : Nat → Option Call

def dispatches : Op → Bool
  | .dispatchBatch .. => true
  | .dispatchRegistered .. => true
  | _ => false

inductive Event
  | queue (op : Op) (other : dispatches op = false)
  | register (coordinator : Nat) (workerId : String) (kind : WorkerKind) (capacity : Int)
      (taskNames : List String) (now : Instant) (candidates : List String) (sessionToken : String)
  | authenticateAndTouch (coordinator : Nat) (sessionId sessionToken : String) (now : Instant)
  -- `order` is the order in which the hash map is walked
  | activeSessions (call coordinator : Nat) (now : Instant)
      (order : (l : List WorkerSession) → { l' : List WorkerSession // l'.Perm l })
  | dispatch (call : Nat) (now : Seconds) (leaseSec : F64) (transport : String → Nat → Nat → F64)

def Event.call? : Event → Option Nat
  | .activeSessions call .. => some call
  | .dispatch call .. => some call
  | _ => none

namespace System

def empty (ttl : Nat → Instant) : System where
  db := .empty
  registries := fun k => ⟨.empty, ttl k⟩
  calls := fun _ => none

def setRegistry (s : System) (k : Nat) (registry : WorkerRegistry) : System :=
  { s with registries := Function.update s.registries k registry }

end System

/-- The transaction of a call, on the sessions its snapshot took. -/
def dispatchOp (now : Seconds) (leaseSec : F64) (transport : String → Nat → Nat → F64)
    (c : Call) : Op := .dispatchRegistered now c.sessions leaseSec transport

def step : Event → System → System
  | .queue op _, s => { s with db := QueueRuns.step op s.db }
  | .register k workerId kind capacity taskNames now candidates sessionToken, s =>
    match registerAt (s.registries k) workerId kind capacity taskNames now candidates
      sessionToken with
    | .ok (_, registry) => s.setRegistry k registry
    | .error _ => s
  | .authenticateAndTouch k sessionId sessionToken now, s =>
    s.setRegistry k (authenticateAndTouchAt (s.registries k) sessionId sessionToken now).2
  | .activeSessions call k now order, s =>
    let active := activeSessionsAt (s.registries k) now
    { s.setRegistry k active.2 with
      calls := Function.update s.calls call (some ⟨k, (order active.1).1⟩) }
  | .dispatch call now leaseSec transport, s =>
    match s.calls call with
    | none => s
    | some c =>
      { s with
        db := QueueRuns.step (dispatchOp now leaseSec transport c) s.db
        calls := Function.update s.calls call none }

def run (ttl : Nat → Instant) (events : List Event) : System :=
  Histories.run step (System.empty ttl) events

/-- The assignments a reply reports; an error reports none. -/
def assignmentsOf : Reply → List WorkerAssignment
  | .assigned assignments => assignments
  | _ => []

theorem run_concat (ttl : Nat → Instant) (events : List Event) (e : Event) :
    run ttl (events ++ [e]) = step e (run ttl events) :=
  Histories.run_append _ _ _

/-! ### The registry -/

theorem normalizeTaskNames_perm {names : List String} {normal : TaskNames}
    (h : normalizeTaskNames names = .ok normal) : normal.1.Perm names := by
  unfold normalizeTaskNames at h
  split at h
  · cases h
  split at h
  · cases h
  split at h
  · cases h
    exact List.perm_insertionSort _ _
  · cases h

/-- What a registration that returns says about the session it made. -/
structure Made (workerId : String) (kind : WorkerKind) (capacity : Int) (taskNames : List String)
    (session : WorkerSession) : Prop where
  workerId : session.workerId = workerId
  kind : session.kind = kind
  capacity : session.capacity = capacity
  taskNames : session.taskNames.1.Perm taskNames

theorem registerAt_cases {registry registry' : WorkerRegistry} {workerId : String}
    {kind : WorkerKind} {capacity : Int} {taskNames : List String} {now : Instant}
    {candidates : List String} {sessionToken : String} {made : Option WorkerRegistration}
    (h : registerAt registry workerId kind capacity taskNames now candidates sessionToken =
      .ok (made, registry')) :
    (∀ r, made = some r → Made workerId kind capacity taskNames r.session) ∧
      ∀ entry ∈ registry'.sessions.rows, entry ∈ registry.sessions.rows ∨
        made = some ⟨entry.session, entry.sessionToken⟩ := by
  unfold registerAt at h
  split at h
  · cases h
  split at h
  · cases h
  split at h
  · cases h
  · rename_i normal hnames
    simp only at h
    split at h
    · cases h
      exact ⟨fun r hr => (by cases hr), fun _ => Or.inl⟩
    · split at h
      · cases h
        exact ⟨fun r hr => (by cases hr), fun _ => Or.inl⟩
      · rename_i sessions hinsert
        cases h
        refine ⟨fun r hr => ?_, fun entry hentry => ?_⟩
        · cases hr
          exact ⟨rfl, rfl, rfl, normalizeTaskNames_perm hnames⟩
        · simp only [(Table.rows_of_insert? hinsert).1] at hentry
          rcases List.mem_append.mp hentry with old | new
          · exact Or.inl (List.mem_filter.mp old).1
          · rw [List.mem_singleton] at new
            exact Or.inr (by rw [new])

/-- Touching a session only moves its expiry. -/
theorem authenticateAndTouchAt_rows {registry : WorkerRegistry} {sessionId sessionToken : String}
    {now : Instant} {entry : WorkerSessionEntry}
    (h : entry ∈ (authenticateAndTouchAt registry sessionId sessionToken now).2.sessions.rows) :
    ∃ old ∈ registry.sessions.rows, old.session = entry.session ∧
      old.sessionToken = entry.sessionToken := by
  unfold authenticateAndTouchAt at h
  split at h
  · exact ⟨entry, h, rfl, rfl⟩
  split at h
  · exact ⟨entry, (List.mem_filter.mp h).1, rfl, rfl⟩
  split at h
  · exact ⟨entry, h, rfl, rfl⟩
  · obtain ⟨old, hold, rfl⟩ := List.mem_map.mp h
    refine ⟨old, hold, ?_⟩
    split <;> exact ⟨rfl, rfl⟩

/-- The snapshot holds the sessions not expired at its clock reading. -/
theorem mem_activeSessionsAt {registry : WorkerRegistry} {now : Instant}
    {session : WorkerSession} : session ∈ (activeSessionsAt registry now).1 ↔
      ∃ entry ∈ registry.sessions.rows, now < entry.expiresAt ∧ entry.session = session := by
  simp [activeSessionsAt, Table.delete, and_assoc]

theorem activeSessionsAt_ids (registry : WorkerRegistry) (now : Instant) :
    ((activeSessionsAt registry now).1.map WorkerSession.sessionId).Nodup := by
  have unique := (registry.sessions.delete fun entry => !decide (now < entry.expiresAt)).unique
  rw [activeSessionsAt, List.map_map]
  exact unique

/-! ### Where a call's sessions come from -/

/-- A registration of the run made the session, with the capacity and the names
it was asked for. -/
def Registered (ttl : Nat → Instant) (events : List Event) (k : Nat) (session : WorkerSession) :
    Prop :=
  ∃ earlier workerId kind capacity taskNames now candidates sessionToken later r registry,
    events = earlier ++
      .register k workerId kind capacity taskNames now candidates sessionToken :: later ∧
    registerAt ((run ttl earlier).registries k) workerId kind capacity taskNames now candidates
      sessionToken = .ok (some r, registry) ∧
    r.session = session ∧ Made workerId kind capacity taskNames session

/-- The last event of the call was its snapshot, which took the sessions of its
coordinator alive then, each once. -/
def Taken (ttl : Nat → Instant) (events : List Event) (call : Nat) (c : Call) : Prop :=
  ∃ earlier now order later,
    events = earlier ++ .activeSessions call c.coordinator now order :: later ∧
    (∀ e ∈ later, e.call? ≠ some call) ∧
    (∀ session, session ∈ c.sessions ↔
      ∃ entry ∈ ((run ttl earlier).registries c.coordinator).sessions.rows,
        now < entry.expiresAt ∧ entry.session = session) ∧
    (c.sessions.map WorkerSession.sessionId).Nodup

variable {ttl : Nat → Instant} {events : List Event} {e : Event}

theorem Registered.later {k : Nat} {session : WorkerSession}
    (h : Registered ttl events k session) (more : List Event) :
    Registered ttl (events ++ more) k session := by
  obtain ⟨earlier, a, b, c, d, f, g, i, later, r, registry, hevents, rest⟩ := h
  exact ⟨earlier, a, b, c, d, f, g, i, later ++ more, r, registry, by simp [hevents], rest⟩

theorem Taken.later {call : Nat} {c : Call} (h : Taken ttl events call c)
    (other : e.call? ≠ some call) : Taken ttl (events ++ [e]) call c := by
  obtain ⟨earlier, now, order, later, hevents, apart, rest⟩ := h
  refine ⟨earlier, now, order, later ++ [e], by simp [hevents], fun f hf => ?_, rest⟩
  rcases List.mem_append.mp hf with hf | hf
  · exact apart f hf
  · exact List.mem_singleton.mp hf ▸ other

theorem setRegistry_registries (s : System) (k k' : Nat) (registry : WorkerRegistry) :
    (s.setRegistry k registry).registries k' = if k' = k then registry else s.registries k' := by
  simp [System.setRegistry, Function.update_apply]

/-- A session in a registry after one step was in it before, or was just made. -/
theorem step_entry {s : System} {k : Nat} {entry : WorkerSessionEntry}
    (h : entry ∈ ((step e s).registries k).sessions.rows) :
    (∃ old ∈ (s.registries k).sessions.rows, old.session = entry.session) ∨
    ∃ workerId kind capacity taskNames now candidates sessionToken r registry,
      e = .register k workerId kind capacity taskNames now candidates sessionToken ∧
      registerAt (s.registries k) workerId kind capacity taskNames now candidates sessionToken =
        .ok (some r, registry) ∧
      r.session = entry.session ∧ Made workerId kind capacity taskNames entry.session := by
  cases e with
  | queue => exact Or.inl ⟨entry, h, rfl⟩
  | register k' workerId kind capacity taskNames now candidates sessionToken =>
    simp only [step] at h
    split at h
    · rename_i made registry hreg
      rw [setRegistry_registries] at h
      split at h
      · rename_i hk
        subst hk
        obtain ⟨hmade, hrows⟩ := registerAt_cases hreg
        rcases hrows entry h with old | rfl
        · exact Or.inl ⟨entry, old, rfl⟩
        · exact Or.inr ⟨workerId, kind, capacity, taskNames, now, candidates, sessionToken, _,
            registry, rfl, hreg, rfl, hmade _ rfl⟩
      · exact Or.inl ⟨entry, h, rfl⟩
    · exact Or.inl ⟨entry, h, rfl⟩
  | authenticateAndTouch k' sessionId sessionToken now =>
    simp only [step, setRegistry_registries] at h
    split at h
    · rename_i hk
      subst hk
      obtain ⟨old, hold, same, _⟩ := authenticateAndTouchAt_rows h
      exact Or.inl ⟨old, hold, same⟩
    · exact Or.inl ⟨entry, h, rfl⟩
  | activeSessions call k' now order =>
    simp only [step, setRegistry_registries] at h
    split at h
    · rename_i hk
      subst hk
      exact Or.inl ⟨entry, (List.mem_filter.mp h).1, rfl⟩
    · exact Or.inl ⟨entry, h, rfl⟩
  | dispatch call now leaseSec transport =>
    simp only [step] at h
    split at h <;> exact Or.inl ⟨entry, h, rfl⟩

theorem registered_of_entry {k : Nat} {entry : WorkerSessionEntry}
    (h : entry ∈ ((run ttl events).registries k).sessions.rows) :
    Registered ttl events k entry.session := by
  induction events using List.reverseRecOn generalizing entry with
  | nil => cases h
  | append_singleton events e ih =>
    rw [run_concat] at h
    rcases step_entry h with ⟨old, hold, same⟩ | ⟨_, _, _, _, _, _, _, _, _, rfl, hreg, hr, hmade⟩
    · exact same ▸ (ih hold).later [e]
    · exact ⟨events, _, _, _, _, _, _, _, [], _, _, rfl, hreg, hr, hmade⟩

theorem taken_of_call {call : Nat} {c : Call} (h : (run ttl events).calls call = some c) :
    Taken ttl events call c := by
  induction events using List.reverseRecOn with
  | nil => cases h
  | append_singleton events e ih =>
    rw [run_concat] at h
    cases e with
    | queue => exact (ih h).later (by simp [Event.call?])
    | register =>
      refine (ih ?_).later (by simp [Event.call?])
      simp only [step] at h
      split at h <;> exact h
    | authenticateAndTouch => exact (ih h).later (by simp [Event.call?])
    | activeSessions call' k now order =>
      simp only [step, Function.update_apply] at h
      split at h
      · rename_i hcall
        cases h
        subst hcall
        refine ⟨events, now, order, [], rfl, by simp, fun session => ?_, ?_⟩
        · rw [(order _).2.mem_iff, mem_activeSessionsAt]
        · exact ((order _).2.map _).nodup_iff.mpr (activeSessionsAt_ids _ _)
      · rename_i other
        exact (ih h).later (by simpa [Event.call?] using Ne.symm other)
    | dispatch call' now leaseSec transport =>
      by_cases hcall : call' = call
      · subst hcall
        simp only [step] at h
        split at h
        · rename_i idle
          exact absurd h (by simp [idle])
        · simp at h
      · refine (ih ?_).later (by simpa [Event.call?] using hcall)
        simp only [step] at h
        split at h
        · exact h
        · simpa [Function.update_apply, Ne.symm hcall] using h

/-! ### Safety of every dispatch -/

/-- What one dispatch on a snapshot may do. -/
structure DispatchSafe (sessions : List WorkerSession) (before after : Db)
    (out : List WorkerAssignment) : Prop where
  once : (out.map WorkerAssignment.taskId).Nodup
  advertised : ∀ a ∈ out, Advertised sessions a
  assigned : ∀ a ∈ out, ∃ t leaseUntil now, before.tasks.find? a.taskId = some t ∧
    t.status = "PENDING" ∧ t.taskName = a.taskName ∧ t.taskType = a.taskType ∧
    after.tasks.find? a.taskId = some (assignTo a.sessionId leaseUntil now t)
  others : ∀ id, (∀ a ∈ out, a.taskId ≠ id) → after.tasks.find? id = before.tasks.find? id
  capacity : ∀ session ∈ sessions, (load after session.sessionId : Int) ≤
    max (load before session.sessionId : Int) session.capacity

theorem dispatchSafe_of_assigns {sessions : List WorkerSession} {before after : Db}
    {out : List WorkerAssignment} (h : Assigns (Advertised sessions) before after out)
    (capacity : ∀ session ∈ sessions, (load after session.sessionId : Int) ≤
      max (load before session.sessionId : Int) session.capacity) :
    DispatchSafe sessions before after out := by
  refine ⟨h.distinct, h.sound, fun a ha => ?_, fun id absent => ?_, capacity⟩
  · rcases h.row a.taskId with ⟨_, absent⟩ | ⟨b, hb, hid, t, leaseUntil, now, rest⟩
    · exact absurd rfl (absent a ha)
    · have same : b = a := List.inj_on_of_nodup_map h.distinct hb ha hid
      subst same
      exact ⟨t, leaseUntil, now, rest⟩
  · rcases h.row id with ⟨same, _⟩ | ⟨a, ha, hid, _⟩
    · exact same
    · exact absurd hid (absent a ha)

theorem dispatch_safe {c : Call} (distinct : (c.sessions.map WorkerSession.sessionId).Nodup)
    (now : Seconds) (leaseSec : F64) (transport : String → Nat → Nat → F64) (db : Db) :
    DispatchSafe c.sessions db (QueueRuns.step (dispatchOp now leaseSec transport c) db)
      (assignmentsOf (exec (dispatchOp now leaseSec transport c) db).1) := by
  rcases answer_cases .assigned (dispatchRegistered now c.sessions leaseSec transport) db with
    ⟨out, db', hop, hans⟩ | ⟨err, _, hans⟩
  · have hexec : exec (dispatchOp now leaseSec transport c) db = (.assigned out, db') := hans
    rw [QueueRuns.step, hexec]
    exact dispatchSafe_of_assigns (dispatchRegistered_assigns hop) fun session hsession =>
      dispatchRegistered_load distinct hop hsession
  · have hexec : exec (dispatchOp now leaseSec transport c) db = (.failed err, db) := hans
    rw [QueueRuns.step, hexec]
    exact dispatchSafe_of_assigns (.nil db) fun _ _ => le_max_left _ _

/-- Capacity and capability safety of every dispatch of every run: a call without
a snapshot does nothing; one with a snapshot took it from the live sessions of
its coordinator, all of them registered, and dispatches within it. -/
theorem protocol_dispatch_safety (ttl : Nat → Instant) (events : List Event) (call : Nat)
    (now : Seconds) (leaseSec : F64) (transport : String → Nat → Nat → F64) :
    match (run ttl events).calls call with
    | none => run ttl (events ++ [.dispatch call now leaseSec transport]) = run ttl events
    | some c => Taken ttl events call c ∧
        (∀ session ∈ c.sessions, Registered ttl events c.coordinator session) ∧
        DispatchSafe c.sessions (run ttl events).db
          (run ttl (events ++ [.dispatch call now leaseSec transport])).db
          (assignmentsOf (exec (dispatchOp now leaseSec transport c) (run ttl events).db).1) := by
  rw [run_concat]
  split
  · rename_i idle
    simp only [step, idle]
  · rename_i c hcall
    have taken := taken_of_call hcall
    have snapshot := taken
    obtain ⟨earlier, taken_at, order, later, hevents, _, alive, distinct⟩ := snapshot
    refine ⟨taken, fun session hsession => ?_, ?_⟩
    · obtain ⟨entry, hentry, _, rfl⟩ := (alive session).mp hsession
      exact hevents ▸ (registered_of_entry hentry).later _
    · simp only [step, hcall]
      exact dispatch_safe distinct now leaseSec transport _

end CoordinatorRuns
