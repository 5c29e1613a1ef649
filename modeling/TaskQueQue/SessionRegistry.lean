import TaskQueQue.WorkerProtocol
import TaskQueQue.Histories

/-!
# The law of the worker-session registry

The registry keeps one entry for a session and forgets it at some later call. What
its answers depend on is the history of the calls alone: who registered last under
a label, and whether each touch of a session came before its lifetime had passed.
-/

namespace SessionRegistry

open QueueValues KeyedTable WorkerProtocol

inductive Call
  | register (workerId : String) (kind : WorkerKind) (capacity : Int) (taskNames : List String)
      (now : Instant) (candidates : List String) (sessionToken : String)
  | authenticateAndTouch (sessionId sessionToken : String) (now : Instant)
  | activeSessions (now : Instant)

def Call.now : Call → Instant
  | .register _ _ _ _ now _ _ | .authenticateAndTouch _ _ now | .activeSessions now => now

/-- The calls that the law speaks of: registrations that returned and successful touches. -/
inductive Note
  | registered (session : WorkerSession) (sessionToken : String) (now : Instant)
  | touched (sessionId sessionToken : String) (now : Instant)

/-- The registry and, newest first, what was noted. -/
structure Logged where
  registry : WorkerRegistry
  log : List Note

def register (w : Logged) (workerId : String) (kind : WorkerKind) (capacity : Int)
    (taskNames : List String) (now : Instant) (candidates : List String) (sessionToken : String) :
    Except QueueError (Option WorkerRegistration) × Logged :=
  match registerAt w.registry workerId kind capacity taskNames now candidates sessionToken with
  | .error error => (.error error, w)
  | .ok (none, registry) => (.ok none, { w with registry })
  | .ok (some made, registry) =>
    (.ok (some made), ⟨registry, .registered made.session made.sessionToken now :: w.log⟩)

def authenticateAndTouch (w : Logged) (sessionId sessionToken : String) (now : Instant) :
    Option WorkerSession × Logged :=
  match authenticateAndTouchAt w.registry sessionId sessionToken now with
  | (none, registry) => (none, { w with registry })
  | (some session, registry) => (some session, ⟨registry, .touched sessionId sessionToken now :: w.log⟩)

def activeSessions (w : Logged) (now : Instant) : List WorkerSession × Logged :=
  let (sessions, registry) := activeSessionsAt w.registry now
  (sessions, { w with registry })

def step : Call → Logged → Logged
  | .register workerId kind capacity taskNames now candidates sessionToken, w =>
    (register w workerId kind capacity taskNames now candidates sessionToken).2
  | .authenticateAndTouch sessionId sessionToken now, w =>
    (authenticateAndTouch w sessionId sessionToken now).2
  | .activeSessions now, w => (activeSessions w now).2

def run (ttl : Instant) (calls : List Call) : Logged :=
  Histories.run step ⟨⟨.empty, ttl⟩, []⟩ calls

/-! ### What the history says -/

/-- When a pair was touched, newest first. -/
def touches (sessionId sessionToken : String) (log : List Note) : List Instant :=
  log.filterMap fun
    | .touched sessionId' sessionToken' now =>
      if sessionId' = sessionId ∧ sessionToken' = sessionToken then some now else none
    | .registered .. => none

def registers (workerId : String) : Note → Bool
  | .registered session _ _ => decide (session.workerId = workerId)
  | .touched .. => false

/-- Each time within the lifetime of the one before it. -/
def Within (ttl : Instant) (times : List Instant) : Prop :=
  times.IsChain fun later earlier => later < earlier + ttl

/-- After a registration: none of its label followed, and no gap between it, its successful
touches and `t` reached the lifetime. -/
structure LiveSince (ttl : Instant) (newer : List Note) (session : WorkerSession)
    (sessionToken : String) (registeredAt t : Instant) : Prop where
  latest : ∀ note ∈ newer, registers session.workerId note = false
  within : Within ttl (t :: (touches session.sessionId sessionToken newer ++ [registeredAt]))

/-- The history has a registration that produced the pair and is live. -/
def Live (ttl : Instant) (log : List Note) (session : WorkerSession) (sessionToken : String)
    (t : Instant) : Prop :=
  ∃ newer older registeredAt, log = newer ++ .registered session sessionToken registeredAt :: older ∧
    LiveSince ttl newer session sessionToken registeredAt t

theorem touches_registered (sessionId sessionToken : String) (session : WorkerSession)
    (token : String) (now : Instant) (log : List Note) :
    touches sessionId sessionToken (.registered session token now :: log) =
      touches sessionId sessionToken log := rfl

theorem touches_touched (sessionId sessionToken : String) (now : Instant) (log : List Note) :
    touches sessionId sessionToken (.touched sessionId sessionToken now :: log) =
      now :: touches sessionId sessionToken log := by
  unfold touches
  rw [List.filterMap_cons_some]
  exact if_pos ⟨rfl, rfl⟩

theorem touches_other {sessionId sessionToken sessionId' sessionToken' : String}
    (other : ¬ (sessionId' = sessionId ∧ sessionToken' = sessionToken)) (now : Instant)
    (log : List Note) : touches sessionId sessionToken (.touched sessionId' sessionToken' now :: log) =
      touches sessionId sessionToken log := by
  unfold touches
  rw [List.filterMap_cons_none]
  exact if_neg other

/-- The last time a session was registered or touched. -/
def lastTime (sessionId sessionToken : String) (newer : List Note) (registeredAt : Instant) :
    Instant :=
  (touches sessionId sessionToken newer).headD registeredAt

theorem within_cons {ttl t : Instant} {sessionId sessionToken : String} {newer : List Note}
    {registeredAt : Instant} :
    Within ttl (t :: (touches sessionId sessionToken newer ++ [registeredAt])) ↔
      t < lastTime sessionId sessionToken newer registeredAt + ttl ∧
        Within ttl (touches sessionId sessionToken newer ++ [registeredAt]) := by
  rw [lastTime]
  cases touches sessionId sessionToken newer with
  | nil => exact List.isChain_cons_cons
  | cons last earlier => exact List.isChain_cons_cons

/-- What stands in the history about an entry of the registry. -/
structure Told (ttl : Instant) (newer : List Note) (session : WorkerSession)
    (sessionToken : String) (registeredAt : Instant) : Prop where
  latest : ∀ note ∈ newer, registers session.workerId note = false
  within : Within ttl (touches session.sessionId sessionToken newer ++ [registeredAt])

theorem liveSince_iff {ttl t : Instant} {newer : List Note} {session : WorkerSession}
    {sessionToken : String} {registeredAt : Instant} :
    LiveSince ttl newer session sessionToken registeredAt t ↔
      Told ttl newer session sessionToken registeredAt ∧
        t < lastTime session.sessionId sessionToken newer registeredAt + ttl := by
  constructor
  · rintro ⟨latest, within⟩
    obtain ⟨early, before⟩ := within_cons.mp within
    exact ⟨⟨latest, before⟩, early⟩
  · rintro ⟨⟨latest, before⟩, early⟩
    exact ⟨latest, within_cons.mpr ⟨early, before⟩⟩

/-- The entries are what the history tells; what it tells and the registry has forgotten has
expired. -/
structure Sound (ttl : Instant) (w : Logged) (now : Instant) : Prop where
  lifetime : w.registry.ttl = ttl
  told : ∀ entry ∈ w.registry.sessions.rows, ∃ newer older registeredAt,
    w.log = newer ++ .registered entry.session entry.sessionToken registeredAt :: older ∧
    Told ttl newer entry.session entry.sessionToken registeredAt ∧
    entry.expiresAt =
      lastTime entry.session.sessionId entry.sessionToken newer registeredAt + ttl
  kept : ∀ newer older session sessionToken registeredAt,
    w.log = newer ++ .registered session sessionToken registeredAt :: older →
    Told ttl newer session sessionToken registeredAt →
    ⟨session, sessionToken, lastTime session.sessionId sessionToken newer registeredAt + ttl⟩ ∈
        w.registry.sessions.rows ∨
      lastTime session.sessionId sessionToken newer registeredAt + ttl ≤ now
  labels : (w.registry.sessions.rows.map fun entry => entry.session.workerId).Nodup

theorem empty_sound (ttl now : Instant) : Sound ttl ⟨⟨.empty, ttl⟩, []⟩ now where
  lifetime := rfl
  told := fun _ mem => absurd mem List.not_mem_nil
  kept := by
    intro newer older session sessionToken registeredAt split
    exact absurd split.symm (by simp)
  labels := List.nodup_nil

theorem Sound.wait {ttl now now' : Instant} {w : Logged} (sound : Sound ttl w now)
    (later : now ≤ now') : Sound ttl w now' where
  lifetime := sound.lifetime
  told := sound.told
  kept := by
    intro newer older session sessionToken registeredAt split told
    rcases sound.kept newer older session sessionToken registeredAt split told with held | expired
    · exact Or.inl held
    · exact Or.inr (Nat.le_trans expired later)
  labels := sound.labels

/-- Entries that have expired may be forgotten at any time. -/
theorem Sound.forget {ttl now : Instant} {w : Logged} (sound : Sound ttl w now)
    {gone : WorkerSessionEntry → Bool}
    (expired : ∀ entry ∈ w.registry.sessions.rows, gone entry = true → entry.expiresAt ≤ now) :
    Sound ttl { w with registry := { w.registry with sessions := w.registry.sessions.delete gone } }
      now where
  lifetime := sound.lifetime
  told := fun entry mem => sound.told entry (List.mem_filter.mp mem).1
  kept := by
    intro newer older session sessionToken registeredAt split told
    rcases sound.kept newer older session sessionToken registeredAt split told with held | expired
    · by_cases goes : gone ⟨session, sessionToken,
        lastTime session.sessionId sessionToken newer registeredAt + ttl⟩ = true
      · exact Or.inr (expired _ held goes)
      · exact Or.inl (List.mem_filter.mpr ⟨held, by simpa using goes⟩)
    · exact Or.inr expired
  labels := sound.labels.sublist (List.filter_sublist.map _)

/-! ### Registering -/

/-- The entries that a registration keeps. -/
def retained (registry : WorkerRegistry) (workerId : String) (now : Instant) : Sessions :=
  registry.sessions.delete fun entry =>
    !(decide (now < entry.expiresAt) && decide (entry.session.workerId ≠ workerId))

theorem mem_retained {registry : WorkerRegistry} {workerId : String} {now : Instant}
    {entry : WorkerSessionEntry} : entry ∈ (retained registry workerId now).rows ↔
      entry ∈ registry.sessions.rows ∧ now < entry.expiresAt ∧
        entry.session.workerId ≠ workerId := by
  unfold retained
  constructor
  · intro mem
    obtain ⟨mem, keep⟩ := List.mem_filter.mp mem
    simp only [Bool.not_not, Bool.and_eq_true, decide_eq_true_eq] at keep
    exact ⟨mem, keep⟩
  · rintro ⟨mem, keep⟩
    apply List.mem_filter.mpr
    simp only [Bool.not_not, Bool.and_eq_true, decide_eq_true_eq]
    exact ⟨mem, keep⟩

/-- A registration that returned put one entry, under an unused id, after the ones it kept. -/
theorem registerAt_made {registry registry' : WorkerRegistry} {workerId : String}
    {kind : WorkerKind} {capacity : Int} {taskNames : List String} {now : Instant}
    {candidates : List String} {sessionToken : String} {made : WorkerRegistration}
    (h : registerAt registry workerId kind capacity taskNames now candidates sessionToken =
      .ok (some made, registry')) :
    made.session.workerId = workerId ∧ made.sessionToken = sessionToken ∧
      registry'.ttl = registry.ttl ∧
      registry'.sessions.rows = (retained registry workerId now).rows ++
        [⟨made.session, made.sessionToken, now + registry.ttl⟩] ∧
      (retained registry workerId now).find? made.session.sessionId = none := by
  unfold registerAt at h
  split at h
  · cases h
  split at h
  · cases h
  split at h
  · cases h
  simp only at h
  split at h
  · cases h
  split at h
  · cases h
  · rename_i sessions inserted
    cases h
    obtain ⟨rows, unused⟩ := Table.rows_of_insert? inserted
    exact ⟨rfl, rfl, rfl, rows, unused⟩

theorem registerAt_none {registry registry' : WorkerRegistry} {workerId : String}
    {kind : WorkerKind} {capacity : Int} {taskNames : List String} {now : Instant}
    {candidates : List String} {sessionToken : String}
    (h : registerAt registry workerId kind capacity taskNames now candidates sessionToken =
      .ok (none, registry')) : registry' = registry := by
  unfold registerAt at h
  split at h
  · cases h
  split at h
  · cases h
  split at h
  · cases h
  simp only at h
  split at h
  · cases h
    rfl
  split at h
  · cases h
    rfl
  · cases h

theorem Told.tail {ttl : Instant} {note : Note} {newer : List Note} {session : WorkerSession}
    {sessionToken : String} {registeredAt : Instant}
    (told : Told ttl (note :: newer) session sessionToken registeredAt) :
    Told ttl newer session sessionToken registeredAt where
  latest := fun other mem => told.latest other (List.mem_cons_of_mem note mem)
  within := by
    have within := told.within
    cases note with
    | registered other token now => exact within
    | touched sessionId token now =>
      by_cases same : sessionId = session.sessionId ∧ token = sessionToken
      · obtain ⟨rfl, rfl⟩ := same
        rw [touches_touched] at within
        exact within.tail
      · rwa [touches_other same] at within

theorem register_sound {ttl now : Instant} {w : Logged} (sound : Sound ttl w now)
    {registry' : WorkerRegistry} {workerId : String} {kind : WorkerKind} {capacity : Int}
    {taskNames : List String} {candidates : List String} {sessionToken : String}
    {made : WorkerRegistration}
    (h : registerAt w.registry workerId kind capacity taskNames now candidates sessionToken =
      .ok (some made, registry')) :
    Sound ttl ⟨registry', .registered made.session made.sessionToken now :: w.log⟩ now := by
  obtain ⟨label, _, lifetime, rows, _⟩ := registerAt_made h
  rw [sound.lifetime] at lifetime rows
  refine ⟨lifetime, ?_, ?_, ?_⟩
  · intro entry mem
    rw [rows] at mem
    rcases List.mem_append.mp mem with old | new
    · obtain ⟨held, _, other⟩ := mem_retained.mp old
      obtain ⟨newer, older, registeredAt, split, told, expiry⟩ := sound.told entry held
      refine ⟨_ :: newer, older, registeredAt, congrArg _ split, ⟨?_, told.within⟩, expiry⟩
      intro note mem
      rcases List.mem_cons.mp mem with rfl | mem
      · apply decide_eq_false
        rw [label]
        exact Ne.symm other
      · exact told.latest note mem
    · rw [List.mem_singleton.mp new]
      exact ⟨[], w.log, now, rfl, ⟨fun _ mem => absurd mem List.not_mem_nil, .singleton now⟩, rfl⟩
  · intro newer older session token registeredAt split told
    cases newer with
    | nil =>
      cases split
      rw [rows]
      exact Or.inl (List.mem_append_right _ (List.mem_singleton_self _))
    | cons note newer =>
      obtain ⟨rfl, before⟩ := List.cons.inj split
      rcases sound.kept newer older session token registeredAt before told.tail with held | expired
      · by_cases live : now < lastTime session.sessionId token newer registeredAt + ttl
        · have other := of_decide_eq_false (told.latest _ List.mem_cons_self)
          rw [label] at other
          rw [rows]
          exact Or.inl (List.mem_append_left _ (mem_retained.mpr ⟨held, live, Ne.symm other⟩))
        · exact Or.inr (Nat.le_of_not_lt live)
      · exact Or.inr expired
  · rw [rows, List.map_append, List.map_singleton]
    refine List.nodup_append.mpr ⟨?_, List.nodup_singleton _, ?_⟩
    · exact sound.labels.sublist (List.filter_sublist.map _)
    · intro a old b new
      obtain ⟨entry, mem, rfl⟩ := List.mem_map.mp old
      rw [List.mem_singleton.mp new, label]
      exact (mem_retained.mp mem).2.2

/-! ### Touching -/

theorem moved_sessionId (expiresAt : Instant) (e : WorkerSessionEntry) :
    ({ e with expiresAt } : WorkerSessionEntry).sessionId = e.sessionId := rfl

/-- The registry with one expiry moved. -/
def extended (registry : WorkerRegistry) (sessionId : String) (now : Instant) : WorkerRegistry where
  sessions := registry.sessions.update (fun e => decide (e.sessionId = sessionId))
    (fun e => { e with expiresAt := now + registry.ttl }) (moved_sessionId (now + registry.ttl))
  ttl := registry.ttl

theorem mem_extended {registry : WorkerRegistry} {sessionId : String} {now : Instant}
    {entry : WorkerSessionEntry} :
    entry ∈ (extended registry sessionId now).sessions.rows ↔
      ∃ old ∈ registry.sessions.rows,
        old.sessionId = sessionId ∧
          entry = ⟨old.session, old.sessionToken, now + registry.ttl⟩ ∨
        old.sessionId ≠ sessionId ∧ entry = old := by
  constructor
  · intro mem
    obtain ⟨old, held, rfl⟩ := List.mem_map.mp mem
    refine ⟨old, held, ?_⟩
    by_cases same : old.sessionId = sessionId
    · exact Or.inl ⟨same, if_pos (decide_eq_true same)⟩
    · exact Or.inr ⟨same, if_neg (by simpa using same)⟩
  · rintro ⟨old, held, cases⟩
    refine List.mem_map.mpr ⟨old, held, ?_⟩
    rcases cases with ⟨same, rfl⟩ | ⟨other, rfl⟩
    · exact if_pos (decide_eq_true same)
    · exact if_neg (by simpa using other)

/-- What a touch does: nothing, forgetting the one expired entry, or moving one expiry. -/
theorem authenticateAndTouchAt_cases (registry : WorkerRegistry) (sessionId sessionToken : String)
    (now : Instant) :
    (authenticateAndTouchAt registry sessionId sessionToken now).1 = none ∧
        (∃ gone : WorkerSessionEntry → Bool,
          (∀ entry ∈ registry.sessions.rows, gone entry = true → entry.expiresAt ≤ now) ∧
          (authenticateAndTouchAt registry sessionId sessionToken now).2 =
            { registry with sessions := registry.sessions.delete gone }) ∧
        (∀ entry, registry.sessions.find? sessionId = some entry → now < entry.expiresAt →
          entry.sessionToken ≠ sessionToken) ∨
      ∃ entry, registry.sessions.find? sessionId = some entry ∧ now < entry.expiresAt ∧
        entry.sessionToken = sessionToken ∧
        authenticateAndTouchAt registry sessionId sessionToken now =
          (some entry.session, extended registry sessionId now) := by
  have whole : registry =
      { registry with sessions := registry.sessions.delete fun _ => false } := by
    cases registry with
    | mk sessions ttl =>
      congr 1
      exact Table.ext (List.filter_eq_self.mpr fun _ _ => rfl).symm
  unfold authenticateAndTouchAt
  cases found : registry.sessions.find? sessionId with
  | none =>
    exact Or.inl ⟨rfl, ⟨fun _ => false, fun _ _ no => (by cases no), whole⟩,
      fun _ no => (by cases no)⟩
  | some entry =>
    dsimp only
    by_cases expired : entry.expiresAt ≤ now
    · rw [if_pos expired]
      refine Or.inl ⟨rfl, ⟨_, ?_, rfl⟩, ?_⟩
      · intro other mem same
        have same : other.sessionId = sessionId := of_decide_eq_true same
        have one := Table.eq_of_key_eq mem (Table.mem_of_find? found)
          (same.trans (Table.key_of_find? found).symm)
        rwa [one]
      · rintro other ⟨⟩ early
        exact absurd expired (Nat.not_le_of_lt early)
    · rw [if_neg expired]
      by_cases differs : entry.sessionToken ≠ sessionToken
      · rw [if_pos differs]
        refine Or.inl ⟨rfl, ⟨fun _ => false, fun _ _ no => (by cases no), whole⟩, ?_⟩
        rintro other ⟨⟩ _
        exact differs
      · rw [if_neg differs]
        exact Or.inr ⟨entry, rfl, Nat.lt_of_not_le expired, not_not.mp differs, rfl⟩

theorem touch_sound {ttl now : Instant} {w : Logged} (sound : Sound ttl w now)
    {sessionId sessionToken : String} {entry : WorkerSessionEntry}
    (found : w.registry.sessions.find? sessionId = some entry) (early : now < entry.expiresAt)
    (token : entry.sessionToken = sessionToken) :
    Sound ttl ⟨extended w.registry sessionId now, .touched sessionId sessionToken now :: w.log⟩
      now := by
  have held : entry ∈ w.registry.sessions.rows := Table.mem_of_find? found
  have named : entry.sessionId = sessionId := Table.key_of_find? found
  refine ⟨sound.lifetime, ?_, ?_, ?_⟩
  · intro entry' mem
    obtain ⟨old, mem', cases⟩ := mem_extended.mp mem
    obtain ⟨newer, older, registeredAt, split, told, expiry⟩ := sound.told old mem'
    have latest : ∀ note ∈ .touched sessionId sessionToken now :: newer,
        registers old.session.workerId note = false := by
      intro note mem
      rcases List.mem_cons.mp mem with rfl | mem
      · rfl
      · exact told.latest note mem
    rcases cases with ⟨same, rfl⟩ | ⟨other, rfl⟩
    · -- the touched entry: its history gains a time before its old expiry
      obtain rfl : old = entry := Table.eq_of_key_eq mem' held (same.trans named.symm)
      subst named token
      have gained : touches old.session.sessionId old.sessionToken
          (.touched old.sessionId old.sessionToken now :: newer) =
          now :: touches old.session.sessionId old.sessionToken newer :=
        touches_touched old.sessionId old.sessionToken now newer
      refine ⟨_ :: newer, older, registeredAt, congrArg _ split, ⟨latest, ?_⟩, ?_⟩
      · dsimp only
        rw [gained, List.cons_append]
        exact within_cons.mpr ⟨expiry ▸ early, told.within⟩
      · dsimp only [lastTime]
        rw [gained, List.headD_cons, sound.lifetime]
    · have apart : ¬ (sessionId = entry'.session.sessionId ∧ sessionToken = entry'.sessionToken) :=
        fun both => other both.1.symm
      refine ⟨_ :: newer, older, registeredAt, congrArg _ split, ⟨latest, ?_⟩, ?_⟩
      · rw [touches_other apart]
        exact told.within
      · rw [lastTime, touches_other apart]
        exact expiry
  · intro newer older session token' registeredAt split told
    cases newer with
    | nil => cases (List.cons.inj split).1
    | cons note newer =>
      obtain ⟨rfl, before⟩ := List.cons.inj split
      have held' := sound.kept newer older session token' registeredAt before told.tail
      by_cases both : sessionId = session.sessionId ∧ sessionToken = token'
      · obtain ⟨rfl, rfl⟩ := both
        have within := told.within
        rw [touches_touched, List.cons_append, within_cons] at within
        rw [lastTime, touches_touched, List.headD_cons]
        rcases held' with held' | expired
        · refine Or.inl (mem_extended.mpr ⟨_, held', Or.inl ⟨rfl, ?_⟩⟩)
          rw [sound.lifetime]
        · exact absurd expired (Nat.not_le_of_lt within.1)
      · rw [lastTime, touches_other both]
        rcases held' with held' | expired
        · refine Or.inl (mem_extended.mpr ⟨_, held', Or.inr ⟨?_, rfl⟩⟩)
          intro same
          have one := Table.eq_of_key_eq held' held (same.trans named.symm)
          subst one
          exact both ⟨same.symm, token.symm⟩
        · exact Or.inr expired
  · have same : (extended w.registry sessionId now).sessions.rows.map
        (fun entry => entry.session.workerId) =
        w.registry.sessions.rows.map fun entry => entry.session.workerId := by
      unfold extended Table.update
      rw [List.map_map]
      apply List.map_congr_left
      intro old _
      rw [Function.comp_apply]
      split <;> rfl
    rw [same]
    exact sound.labels

theorem activeSessions_sound {ttl now : Instant} {w : Logged} (sound : Sound ttl w now) :
    Sound ttl (activeSessions w now).2 now := by
  apply sound.forget
  intro entry _ expired
  simp only [Bool.not_eq_eq_eq_not, Bool.not_true, decide_eq_false_iff_not] at expired
  exact Nat.le_of_not_lt expired

theorem step_sound {ttl : Instant} {w : Logged} {call : Call} (sound : Sound ttl w call.now) :
    Sound ttl (step call w) call.now := by
  cases call with
  | register workerId kind capacity taskNames now candidates sessionToken =>
    unfold step register
    dsimp only
    split
    · exact sound
    · rename_i registry' h
      rw [registerAt_none h]
      exact sound
    · rename_i made registry' h
      exact register_sound sound h
  | authenticateAndTouch sessionId sessionToken now =>
    unfold step authenticateAndTouch
    dsimp only
    rcases authenticateAndTouchAt_cases w.registry sessionId sessionToken now with
      ⟨refused, ⟨gone, expired, after⟩, _⟩ | ⟨entry, found, early, token, after⟩
    · rw [← Prod.mk.eta (p := authenticateAndTouchAt w.registry sessionId sessionToken now),
        refused, after]
      exact sound.forget expired
    · rw [after]
      exact touch_sound sound found early token
  | activeSessions now => exact activeSessions_sound sound

theorem run_append (ttl : Instant) (calls later : List Call) :
    run ttl (calls ++ later) = Histories.run step (run ttl calls) later :=
  Histories.run_append _ calls later

theorem run_sound {ttl : Instant} {calls : List Call} {t : Instant}
    (ordered : (calls.map Call.now ++ [t]).Pairwise (· ≤ ·)) : Sound ttl (run ttl calls) t := by
  induction calls using List.reverseRecOn generalizing t with
  | nil => exact empty_sound ttl t
  | append_singleton calls call ih =>
    rw [List.map_append, List.map_singleton] at ordered
    obtain ⟨before, _, after⟩ := List.pairwise_append.mp ordered
    have later : call.now ≤ t :=
      after _ (List.mem_append_right _ (List.mem_singleton_self _)) _ (List.mem_singleton_self _)
    rw [run_append]
    exact (step_sound (ih before)).wait later

/-! ### What the answers depend on -/

section Answers
variable {ttl t : Instant} {w : Logged}

/-- The live sessions are the entries that have not expired. -/
theorem Sound.live_iff (sound : Sound ttl w t) {session : WorkerSession} {sessionToken : String} :
    Live ttl w.log session sessionToken t ↔ ∃ entry ∈ w.registry.sessions.rows,
      entry.session = session ∧ entry.sessionToken = sessionToken ∧ t < entry.expiresAt := by
  constructor
  · rintro ⟨newer, older, registeredAt, split, live⟩
    obtain ⟨told, early⟩ := liveSince_iff.mp live
    rcases sound.kept newer older session sessionToken registeredAt split told with held | expired
    · exact ⟨_, held, rfl, rfl, early⟩
    · exact absurd expired (Nat.not_le_of_lt early)
  · rintro ⟨entry, held, rfl, rfl, early⟩
    obtain ⟨newer, older, registeredAt, split, told, expiry⟩ := sound.told entry held
    exact ⟨newer, older, registeredAt, split, liveSince_iff.mpr ⟨told, expiry ▸ early⟩⟩

theorem Sound.authenticated_iff (sound : Sound ttl w t) {sessionId sessionToken : String}
    {session : WorkerSession} :
    (authenticateAndTouchAt w.registry sessionId sessionToken t).1 = some session ↔
      session.sessionId = sessionId ∧ Live ttl w.log session sessionToken t := by
  rw [sound.live_iff]
  rcases authenticateAndTouchAt_cases w.registry sessionId sessionToken t with
    ⟨refused, _, wrong⟩ | ⟨entry, found, early, token, after⟩
  · rw [refused]
    constructor
    · intro none
      cases none
    · rintro ⟨rfl, entry, held, rfl, token, early⟩
      exact absurd token (wrong entry (Table.find?_of_mem held) early)
  · rw [after]
    have held := Table.mem_of_find? found
    have key : entry.sessionId = sessionId := Table.key_of_find? found
    constructor
    · rintro ⟨⟩
      exact ⟨key, entry, held, rfl, token, early⟩
    · rintro ⟨named, other, held', rfl, _, _⟩
      rw [Table.eq_of_key_eq held' held (named.trans key.symm)]

theorem Sound.active_iff (sound : Sound ttl w t) {session : WorkerSession} :
    session ∈ (activeSessionsAt w.registry t).1 ↔
      ∃ sessionToken, Live ttl w.log session sessionToken t := by
  constructor
  · intro mem
    obtain ⟨entry, kept, rfl⟩ := List.mem_map.mp mem
    obtain ⟨held, early⟩ := List.mem_filter.mp kept
    rw [Bool.not_not] at early
    exact ⟨_, sound.live_iff.mpr ⟨entry, held, rfl, rfl, of_decide_eq_true early⟩⟩
  · rintro ⟨sessionToken, live⟩
    obtain ⟨entry, held, rfl, _, early⟩ := sound.live_iff.mp live
    refine List.mem_map.mpr ⟨entry, List.mem_filter.mpr ⟨held, ?_⟩, rfl⟩
    rw [Bool.not_not]
    exact decide_eq_true early

theorem Sound.one_per_label (sound : Sound ttl w t) {session session' : WorkerSession}
    {sessionToken sessionToken' : String} (live : Live ttl w.log session sessionToken t)
    (live' : Live ttl w.log session' sessionToken' t)
    (label : session.workerId = session'.workerId) :
    session = session' ∧ sessionToken = sessionToken' := by
  obtain ⟨entry, held, rfl, rfl, _⟩ := sound.live_iff.mp live
  obtain ⟨entry', held', rfl, rfl, _⟩ := sound.live_iff.mp live'
  have one := List.inj_on_of_nodup_map sound.labels held held' label
  rw [one]
  exact ⟨rfl, rfl⟩

end Answers

/-! ### The log of later calls -/

def Note.time : Note → Instant
  | .registered _ _ now | .touched _ _ now => now

theorem step_log (call : Call) (w : Logged) : (step call w).log = w.log ∨
    ∃ note : Note, (step call w).log = note :: w.log ∧ note.time = call.now := by
  cases call with
  | register workerId kind capacity taskNames now candidates sessionToken =>
    unfold step register
    dsimp only
    split
    · exact Or.inl rfl
    · exact Or.inl rfl
    · exact Or.inr ⟨_, rfl, rfl⟩
  | authenticateAndTouch sessionId sessionToken now =>
    unfold step authenticateAndTouch
    dsimp only
    split
    · exact Or.inl rfl
    · exact Or.inr ⟨_, rfl, rfl⟩
  | activeSessions now => exact Or.inl rfl

theorem run_log (w : Logged) (later : List Call) : ∃ added : List Note,
    (Histories.run step w later).log = added ++ w.log ∧
      ∀ note ∈ added, ∃ call ∈ later, note.time = call.now := by
  induction later generalizing w with
  | nil => exact ⟨[], rfl, fun _ mem => absurd mem List.not_mem_nil⟩
  | cons call later ih =>
    obtain ⟨added, split, times⟩ := ih (step call w)
    have times : ∀ note ∈ added, ∃ c ∈ call :: later, note.time = c.now := by
      intro note mem
      obtain ⟨c, mem, time⟩ := times note mem
      exact ⟨c, List.mem_cons_of_mem call mem, time⟩
    rcases step_log call w with same | ⟨note, grown, time⟩
    · exact ⟨added, same ▸ split, times⟩
    · refine ⟨added ++ [note], ?_, ?_⟩
      · rw [Histories.run_cons, split, grown, List.append_assoc, List.singleton_append]
      · intro other mem
        rcases List.mem_append.mp mem with mem | mem
        · exact times other mem
        · rw [List.mem_singleton.mp mem]
          exact ⟨call, List.mem_cons_self, time⟩

theorem touches_time {sessionId sessionToken : String} {log : List Note} {now : Instant}
    (mem : now ∈ touches sessionId sessionToken log) : ∃ note ∈ log, note.time = now := by
  obtain ⟨note, mem, shown⟩ := List.mem_filterMap.mp mem
  refine ⟨note, mem, ?_⟩
  cases note with
  | registered => cases shown
  | touched sessionId' sessionToken' at_ =>
    dsimp only at shown
    split at shown
    · exact Option.some.inj shown
    · cases shown

/-- A gap only grows while its end moves on. -/
theorem Within.before {ttl t t' : Instant} {added rest : List Instant}
    (within : Within ttl (t' :: (added ++ rest))) (later : t ≤ t') (after : ∀ x ∈ added, t ≤ x) :
    Within ttl (t :: rest) := by
  induction added generalizing t' with
  | nil =>
    cases rest with
    | nil => exact .singleton t
    | cons last earlier =>
      obtain ⟨gap, before⟩ := List.isChain_cons_cons.mp within
      exact List.isChain_cons_cons.mpr ⟨Nat.lt_of_le_of_lt later gap, before⟩
  | cons x added ih =>
    have within := (List.isChain_cons_cons.mp within).2
    exact ih within (after x List.mem_cons_self) fun y mem => after y (List.mem_cons_of_mem x mem)

theorem LiveSince.before {ttl t t' registeredAt : Instant} {added newer : List Note}
    {session : WorkerSession} {sessionToken : String}
    (live : LiveSince ttl (added ++ newer) session sessionToken registeredAt t') (later : t ≤ t')
    (after : ∀ note ∈ added, t ≤ note.time) :
    LiveSince ttl newer session sessionToken registeredAt t where
  latest := fun note mem => live.latest note (List.mem_append_right added mem)
  within := by
    have within := live.within
    rw [touches, List.filterMap_append, List.append_assoc] at within
    apply Within.before within later
    intro x mem
    obtain ⟨note, noted, rfl⟩ := touches_time mem
    exact after note noted

/-- A session that is live after more calls was live before them or is registered by one. -/
theorem Live.before {ttl t t' : Instant} {added log : List Note} {session : WorkerSession}
    {sessionToken : String} (live : Live ttl (added ++ log) session sessionToken t')
    (later : t ≤ t') (after : ∀ note ∈ added, t ≤ note.time) :
    Live ttl log session sessionToken t ∨
      ∃ registeredAt, .registered session sessionToken registeredAt ∈ added := by
  obtain ⟨newer, older, registeredAt, split, live⟩ := live
  rcases List.append_eq_append_iff.mp split with ⟨rest, rfl, past⟩ | ⟨rest, rfl, past⟩
  · exact Or.inl ⟨rest, older, registeredAt, past, live.before later after⟩
  · cases rest with
    | nil =>
      rw [List.append_nil] at after
      rw [← List.append_nil newer] at live
      exact Or.inl ⟨[], older, registeredAt, past.symm, live.before later after⟩
    | cons note rest =>
      obtain ⟨rfl, _⟩ := List.cons.inj past
      exact Or.inr ⟨registeredAt, List.mem_append_right _ List.mem_cons_self⟩

/-! ### The law -/

theorem Sound.fresh_id {ttl t : Instant} {w : Logged} (sound : Sound ttl w t)
    {registry' : WorkerRegistry} {workerId : String} {kind : WorkerKind} {capacity : Int}
    {taskNames : List String} {candidates : List String} {token : String}
    {made : WorkerRegistration}
    (h : registerAt w.registry workerId kind capacity taskNames t candidates token =
      .ok (some made, registry'))
    {session : WorkerSession} {sessionToken : String}
    (live : Live ttl w.log session sessionToken t)
    (same : session.sessionId = made.session.sessionId) : session.workerId = workerId := by
  obtain ⟨_, _, _, _, unused⟩ := registerAt_made h
  obtain ⟨entry, held, rfl, rfl, early⟩ := sound.live_iff.mp live
  by_contra other
  have kept := mem_retained.mpr ⟨held, early, other⟩
  have found : (retained w.registry workerId t).find? entry.session.sessionId = some entry :=
    Table.find?_of_mem kept
  rw [same, unused] at found
  cases found

theorem Sound.only_made {ttl t : Instant} {w : Logged} (sound : Sound ttl w t)
    {registry' : WorkerRegistry} {workerId : String} {kind : WorkerKind} {capacity : Int}
    {taskNames : List String} {candidates : List String} {token : String}
    {made : WorkerRegistration}
    (h : registerAt w.registry workerId kind capacity taskNames t candidates token =
      .ok (some made, registry'))
    {session : WorkerSession} {sessionToken : String}
    (live : Live ttl (.registered made.session made.sessionToken t :: w.log) session
      sessionToken t)
    (same : session.sessionId = made.session.sessionId) :
    session = made.session ∧ sessionToken = made.sessionToken := by
  obtain ⟨entry, held, rfl, rfl, _⟩ := (register_sound sound h).live_iff.mp live
  obtain ⟨_, _, _, rows, _⟩ := registerAt_made h
  have placed : ⟨made.session, made.sessionToken, t + w.registry.ttl⟩ ∈ registry'.sessions.rows :=
    rows ▸ List.mem_append_right _ (List.mem_singleton_self _)
  rw [Table.eq_of_key_eq held placed same]
  exact ⟨rfl, rfl⟩

/-- What every answer at `t` says about the history of the calls before it. -/
structure Law (ttl : Instant) (calls : List Call) (t : Instant) : Prop where
  authenticated : ∀ sessionId sessionToken session,
    (authenticateAndTouchAt (run ttl calls).registry sessionId sessionToken t).1 = some session ↔
      session.sessionId = sessionId ∧ Live ttl (run ttl calls).log session sessionToken t
  active : ∀ session, session ∈ (activeSessionsAt (run ttl calls).registry t).1 ↔
    ∃ sessionToken, Live ttl (run ttl calls).log session sessionToken t
  one_per_label : ∀ session sessionToken session' sessionToken',
    Live ttl (run ttl calls).log session sessionToken t →
    Live ttl (run ttl calls).log session' sessionToken' t →
    session.workerId = session'.workerId → session = session' ∧ sessionToken = sessionToken'
  /-- A session live after later calls was live at `t`, or one of those calls registered it. -/
  never_again : ∀ later t', (t :: (later.map Call.now ++ [t'])).Pairwise (· ≤ ·) →
    ∃ added, (run ttl (calls ++ later)).log = added ++ (run ttl calls).log ∧
      ∀ session sessionToken, Live ttl (run ttl (calls ++ later)).log session sessionToken t' →
        Live ttl (run ttl calls).log session sessionToken t ∨
          ∃ registeredAt, .registered session sessionToken registeredAt ∈ added
  /-- The id of a registration is that of no other live session, before it (one of its own label
  is superseded by it) and after it. -/
  fresh : ∀ workerId kind capacity taskNames candidates token made registry',
    registerAt (run ttl calls).registry workerId kind capacity taskNames t candidates token =
      .ok (some made, registry') →
    (∀ session sessionToken, Live ttl (run ttl calls).log session sessionToken t →
      session.sessionId = made.session.sessionId → session.workerId = workerId) ∧
    ∀ session sessionToken,
      Live ttl (.registered made.session made.sessionToken t :: (run ttl calls).log) session
        sessionToken t →
      session.sessionId = made.session.sessionId →
      session = made.session ∧ sessionToken = made.sessionToken

/-- After calls at non-decreasing times the registry answers by the history alone. -/
theorem registry_law (ttl : Instant) (calls : List Call) (t : Instant)
    (ordered : (calls.map Call.now ++ [t]).Pairwise (· ≤ ·)) : Law ttl calls t := by
  have sound : Sound ttl (run ttl calls) t := run_sound ordered
  refine ⟨?_, ?_, ?_, ?_, ?_⟩
  · intro sessionId sessionToken session
    exact sound.authenticated_iff
  · intro session
    exact sound.active_iff
  · intro session sessionToken session' sessionToken' live live' label
    exact sound.one_per_label live live' label
  · intro later t' ordered'
    obtain ⟨above, _⟩ := List.pairwise_cons.mp ordered'
    obtain ⟨added, split, times⟩ := run_log (run ttl calls) later
    rw [← run_append] at split
    refine ⟨added, split, ?_⟩
    intro session sessionToken live
    rw [split] at live
    apply live.before (above t' (List.mem_append_right _ (List.mem_singleton_self _)))
    intro note mem
    obtain ⟨call, mem, time⟩ := times note mem
    rw [time]
    exact above _ (List.mem_append_left _ (List.mem_map_of_mem mem))
  · intro workerId kind capacity taskNames candidates token made registry' h
    constructor
    · intro session sessionToken live same
      exact sound.fresh_id h live same
    · intro session sessionToken live same
      exact sound.only_made h live same

/-- A registration, a touch within its lifetime and a replacement. -/
theorem registry_law_sample : Law 10
    [.register "w" .cpu 1 ["a"] 0 ["s1"] "k1", .authenticateAndTouch "s1" "k1" 5,
      .register "w" .cpu 1 ["a"] 12 ["s2"] "k2"] 13 :=
  registry_law 10 _ 13 (by decide)

end SessionRegistry
