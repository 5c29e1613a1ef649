import TaskQueQue.ProviderSnapshots
import TaskQueQue.QueueInvariants
import TaskQueQue.SubmissionRoute

/-!
# Runs of the worker daemon

The daemon serves its connections, and on every tick of its clock takes a snapshot of the
live sessions and dispatches to them. Its registry is lost when it is started again; the
database is not. Clients of the queue go on beside it: they submit, cancel, prune and
recover leases, but dispatching, claims and reports are the daemon's alone.

A connection brings its bytes cut in any way, and its transaction runs at one point of the
run. The readings of the wall clock are arbitrary, those of the monotonic clock are not:
they grow, within one process.
-/

namespace WorkerDaemon

open QueueValues QueueTables TaskLife WorkerProtocol HttpFraming WorkerRoutes ProviderSnapshots
open QueueRuns (Op)
open LeaseFence (FencedClaimedTask)
open WorkerApi (claimJson)

structure Daemon where
  api : WorkerApiState
  /-- The sessions of a dispatch between its snapshot and its transaction. -/
  snapshot : Option (List WorkerSession)
  /-- The last reading of the monotonic clock. -/
  latest : Instant

/-- The operations of clients, and of the queue's own maintenance. -/
def ofClients : Op → Bool
  | .enqueue .. | .enqueueBounded .. | .recoverExpiredLeases _ | .cancelTask .. | .pruneToMax _ =>
    true
  | _ => false

inductive Event
  | connection (m : Moment) (ending : Ending) (pieces : List (List UInt8))
  | client (op : Op) (allowed : ofClients op = true)
  -- `order` is the order in which the hash map is walked
  | activeSessions (now : Instant)
      (order : (l : List WorkerSession) → { l' : List WorkerSession // l'.Perm l })
  | dispatch (now : Seconds) (transport : String → Nat → Nat → F64)
  | restart

def Event.instant? : Event → Option Instant
  | .connection m _ _ => some m.instant
  | .activeSessions now _ => some now
  | _ => none

/-- The request that reaches the routes. -/
def Event.request? : Event → Option HttpRequest
  | .connection _ ending pieces =>
    if detectProviderSnapshotRequest ending [] pieces = some false then
      (readRequest workerApi ending pieces).toOption
    else none
  | _ => none

def emptyRegistry (ttl : Instant) : SessionRegistry.Logged := ⟨⟨.empty, ttl⟩, []⟩

def start (ttl : Instant) : Daemon := ⟨⟨.empty, emptyRegistry ttl⟩, none, 0⟩

section Steps
variable (api : Api) (ttl : Instant)

def step : Event → Daemon → Daemon
  | .connection m ending pieces, d =>
    { d with
      api := (serveWorkerConnectionWithProviderSnapshot api m ending pieces d.api).2
      latest := m.instant }
  | .client op _, d => { d with api := { d.api with db := QueueRuns.step op d.api.db } }
  | .activeSessions now order, d =>
    let (sessions, registry) := SessionRegistry.activeSessions d.api.registry now
    ⟨{ d.api with registry }, some (order sessions).1, now⟩
  | .dispatch now transport, d =>
    match d.snapshot with
    | none => d
    | some sessions =>
      { d with
        api := { d.api with
          db := QueueRuns.step (.dispatchRegistered now sessions api.taskLease.secs transport)
            d.api.db }
        snapshot := none }
  | .restart, d => ⟨{ d.api with registry := emptyRegistry ttl }, none, 0⟩

/-- The answer of an event, if it is a connection that is answered. -/
def respond : Event → Daemon → Option Response
  | .connection m ending pieces, d =>
    (serveWorkerConnectionWithProviderSnapshot api m ending pieces d.api).1
  | _, _ => none

def run (events : List Event) : Daemon := Histories.run (step api ttl) (start ttl) events

end Steps

/-- The monotonic clock has not gone back. -/
def InTime (e : Event) (d : Daemon) : Prop := ∀ t, e.instant? = some t → d.latest ≤ t

/-! ### What an event does to the queue -/

/-- How the database of an event comes about. -/
inductive Happened (api : Api) (d : Daemon) (e : Event) : Db → Prop
  | nothing (silent : ∀ request, e.request? = some request → ofTasks request →
      ∀ response, respond api e d = some response → response.status ≠ 200) :
      Happened api d e d.api.db
  | client {op : Op} (allowed : ofClients op = true) (none : e.request? = none) :
      Happened api d e (QueueRuns.step op d.api.db)
  | dispatch {now : Seconds} {transport : String → Nat → Nat → F64} {sessions : List WorkerSession}
      (taken : d.snapshot = some sessions) (none : e.request? = none) : Happened api d e
        (QueueRuns.step (.dispatchRegistered now sessions api.taskLease.secs transport) d.api.db)
  | claimed {m : Moment} {request : HttpRequest} {session : WorkerSession}
      {task : FencedClaimedTask} (read : e.request? = some request)
      (path : isTo request "POST" "/v1/claim") (authentic : Authentic m request d.api session)
      (served : (QueueRuns.exec (.claimTask m.now session.sessionId) d.api.db).1 =
        .claimed (some task))
      (answer : respond api e d = some ⟨200, "OK", claimJson task api.taskLease.millis⟩) :
      Happened api d e (QueueRuns.step (.claimTask m.now session.sessionId) d.api.db)
  | reported {m : Moment} {request : HttpRequest} {session : WorkerSession}
      {taskId generation : Int} {report : Report} (read : e.request? = some request)
      (reports : Reports request taskId generation report)
      (authentic : Authentic m request d.api session)
      (accepted : (QueueRuns.exec (report.op api m.now taskId session.sessionId generation)
        d.api.db).1 = .mutation .applied)
      (answer : respond api e d = some applied) :
      Happened api d e
        (QueueRuns.step (report.op api m.now taskId session.sessionId generation) d.api.db)

theorem exec_of_ok {α : Type} {wrap : α → QueueRuns.Reply} {body : Transaction α} {db db' : Db}
    {value : α} (ran : body db = .ok (value, db')) :
    QueueRuns.answer wrap body db = (wrap value, db') := by
  simp only [QueueRuns.answer, executeWithRetry_ok ran]

section Effects
variable {api : Api} {ttl : Instant} {d : Daemon} {e : Event}

theorem Happened.quiet (none : e.request? = none) : Happened api d e d.api.db := by
  refine .nothing fun request read => ?_
  rw [none] at read
  cases read

theorem happened_of_effect {m : Moment} {request : HttpRequest} {db : Db}
    (read : e.request? = some request)
    (effect : Effect api m request d.api (respond api e d) db) : Happened api d e db := by
  generalize answer : respond api e d = response at effect
  cases effect with
  | none silent =>
    refine .nothing fun other read' asks => ?_
    rw [read] at read'
    cases read'
    rw [answer]
    exact silent asks
  | @claimed session task db path authentic served =>
    have ran : QueueRuns.exec (.claimTask m.now session.sessionId) d.api.db =
        (.claimed (some task), db) := exec_of_ok served
    have result := Happened.claimed read path authentic (congrArg Prod.fst ran) answer
    rwa [QueueRuns.step, ran] at result
  | @reported session taskId generation report db reports authentic accepted =>
    have ran : QueueRuns.exec (report.op api m.now taskId session.sessionId generation) d.api.db =
        (.mutation .applied, db) := by
      rw [report_exec]
      exact exec_of_ok accepted
    have result := Happened.reported read reports authentic (congrArg Prod.fst ran) answer
    rwa [QueueRuns.step, ran] at result

theorem connection_happened (api : Api) (m : Moment) (ending : Ending)
    (pieces : List (List UInt8)) (d : Daemon) : Happened api d (.connection m ending pieces)
      (serveWorkerConnectionWithProviderSnapshot api m ending pieces d.api).2.db := by
  have front : (Event.connection m ending pieces).request? =
      if detectProviderSnapshotRequest ending [] pieces = some false then
        (readRequest workerApi ending pieces).toOption
      else none := rfl
  have answer : respond api (.connection m ending pieces) d =
      (serveWorkerConnectionWithProviderSnapshot api m ending pieces d.api).1 := rfl
  unfold serveWorkerConnectionWithProviderSnapshot at answer ⊢
  split
  · rename_i undetected
    rw [undetected] at front
    exact .quiet front
  · rename_i detected
    rw [detected] at front
    exact .quiet front
  · rename_i passed
    rw [passed] at front answer
    dsimp only at answer
    unfold serveWorkerConnection at answer ⊢
    split
    · rename_i request read
      rw [read] at front answer
      have effect := route_effect api m request d.api
      rw [← answer] at effect
      exact happened_of_effect front effect
    · rename_i error refused
      rw [refused] at front
      exact .quiet front

theorem step_happened (api : Api) (ttl : Instant) (e : Event) (d : Daemon) :
    Happened api d e (step api ttl e d).api.db := by
  cases e with
  | connection m ending pieces => exact connection_happened api m ending pieces d
  | client op allowed => exact .client allowed rfl
  | activeSessions now order => exact .quiet rfl
  | dispatch now transport =>
    cases taken : d.snapshot with
    | none =>
      simp only [step, taken]
      exact .quiet rfl
    | some sessions =>
      simp only [step, taken]
      exact .dispatch taken rfl
  | restart => exact .quiet rfl

end Effects

/-! ### Leases and claims -/

/-- The session runs the task under this generation. -/
def Leased (db : Db) (taskId : Int) (sessionId : String) (generation : Int) : Prop :=
  ∃ t, (view db taskId).task = some t ∧ t.status = "RUNNING" ∧ t.lockedBy = some sessionId ∧
    (view db taskId).fence = some generation

/-- A claim that quotes the session is answered with the task under this generation. -/
structure Grants (api : Api) (e : Event) (d : Daemon) (taskId : Int) (sessionId : String)
    (generation : Int) : Prop where
  asked : ∃ request, e.request? = some request ∧ isTo request "POST" "/v1/claim" ∧
    request.header "x-worker-session" = some sessionId
  answered : ∃ task, respond api e d = some ⟨200, "OK", claimJson task api.taskLease.millis⟩ ∧
    task.id = taskId ∧ task.leaseGeneration = generation

theorem credentials_header {request : HttpRequest} {sessionId sessionToken : String}
    (given : credentials request = .ok (sessionId, sessionToken)) :
    request.header "x-worker-session" = some sessionId ∧
      request.header "x-worker-token" = some sessionToken := by
  have present : ∀ {name value : String}, requiredHeader request name = .ok value →
      request.header name = some value := by
    intro name value found
    unfold requiredHeader at found
    split at found
    · rename_i value' kept
      cases found
      exact (Option.filter_eq_some_iff.mp kept).1
    · cases found
  unfold credentials at given
  cases first : requiredHeader request "x-worker-session" with
  | error refused =>
    rw [first] at given
    cases given
  | ok sessionId' =>
    cases second : requiredHeader request "x-worker-token" with
    | error refused =>
      rw [first, second] at given
      cases given
    | ok sessionToken' =>
      rw [first, second, SubmissionRoute.ok_bind, SubmissionRoute.ok_bind] at given
      split at given
      · cases given
      split at given
      · cases given
      · cases given
        exact ⟨present first, present second⟩

/-- An authenticated request quotes the id of its session. -/
theorem Authentic.quotes {m : Moment} {request : HttpRequest} {s : WorkerApiState}
    {session : WorkerSession} (authentic : Authentic m request s session) :
    request.header "x-worker-session" = some session.sessionId := by
  obtain ⟨sessionId, sessionToken, given, live⟩ := authentic
  rcases SessionRegistry.authenticateAndTouchAt_cases s.registry.registry sessionId sessionToken
      m.instant with ⟨refused, _⟩ | ⟨entry, found, _, _, after⟩
  · rw [refused] at live
    cases live
  · rw [after] at live
    cases live
    have key : entry.sessionId = sessionId := KeyedTable.Table.key_of_find? found
    rw [show entry.session.sessionId = sessionId from key]
    exact (credentials_header given).1

theorem move_leased {id seq seq' : Int} {v v' : TaskView} {c : Change}
    (move : Move id seq seq' v c v') {t : Task} {w : String} {g : Int} (row : v'.task = some t)
    (running : t.status = "RUNNING") (owner : t.lockedBy = some w) (fence : v'.fence = some g) :
    c = .claimed w g ∨ ∃ t, v.task = some t ∧ t.status = "RUNNING" ∧ t.lockedBy = some w ∧
      v.fence = some g := by
  cases move with
  | stay => exact Or.inr ⟨t, row, running, owner, fence⟩
  | create _ _ status =>
    cases row
    rw [status] at running
    exact absurd running (by decide)
  | assign =>
    cases row
    simp [assignTo] at running
  | claim now row' assigned owner' live =>
    cases row
    cases fence
    cases owner'.symm.trans owner
    exact Or.inl rfl
  | extend leaseUntil holds =>
    cases row
    exact Or.inr ⟨_, holds.row, holds.running, owner, fence⟩
  | release | complete | project | retry | exhaust | cancel =>
    cases row
    simp [unlockAs, retryAt, failWith] at running
  | prune => cases row

section Steps
variable {api : Api} {ttl : Instant} {d : Daemon} {e : Event}

theorem other_path {request : HttpRequest} {taskId generation : Int} {report : Report}
    (reports : Reports request taskId generation report) :
    ¬ isTo request "POST" "/v1/claim" = true := by
  intro claim
  obtain ⟨_, path⟩ := isTo_eq claim
  rcases reports.made with ⟨to_, _⟩ | ⟨to_, _⟩ | ⟨to_, _⟩
  all_goals
    obtain ⟨_, other⟩ := isTo_eq to_
    rw [path] at other
    exact absurd other (by decide)

theorem report_not_claim (report : Report) {now now' : Seconds} {taskId generation : Int}
    {sessionId w : String} :
    report.op api now taskId sessionId generation ≠ .claimTask now' w := by
  cases report with
  | heartbeat => exact Op.noConfusion
  | fail error => exact Op.noConfusion
  | complete resultJson => cases resultJson <;> exact Op.noConfusion

/-- The claims that are answered are the claims of the queue. -/
theorem happened_advances {db : Db} (fresh : Fresh d.api.db) (happened : Happened api d e db) :
    ∃ change : Int → Change, Advances d.api.db db change ∧
      ∀ id w g, change id = .claimed w g ↔ Grants api e d id w g := by
  have ungranted : e.request? = none → ∀ id w g, ¬ Grants api e d id w g := by
    rintro none id w g ⟨⟨request, read, _⟩, _⟩
    rw [none] at read
    cases read
  have unclaimed : ∀ {op : Op} {id : Int} {w : String} {g : Int},
      QueueRuns.change id op d.api.db = .claimed w g →
      ∃ now task, op = .claimTask now w ∧
        (QueueRuns.exec op d.api.db).1 = .claimed (some task) ∧ task.id = id ∧
          task.leaseGeneration = g := by
    intro op id w g changed
    have noted := QueueRuns.noted_of_change changed Change.noConfusion
    generalize reply : (QueueRuns.exec op d.api.db).1 = answer at noted
    cases noted with
    | claimed now workerId task named => exact ⟨now, task, rfl, rfl, named, rfl⟩
  cases happened with
  | nothing silent =>
    refine ⟨fun _ => .quiet, advances_self fun _ => rfl, fun id w g => ?_⟩
    constructor
    · intro claimed
      cases claimed
    · rintro ⟨⟨request, read, path, _⟩, task, answer, _⟩
      have asks : ofTasks request = true := by
        rw [ofTasks, path]
        rfl
      exact absurd rfl (silent request read asks _ answer)
  | @client op allowed none =>
    refine ⟨_, QueueRuns.exec_advances fresh op, fun id w g => ?_⟩
    constructor
    · intro claimed
      obtain ⟨now, task, rfl, _⟩ := unclaimed claimed
      cases allowed
    · intro granted
      exact absurd granted (ungranted none id w g)
  | dispatch taken none =>
    refine ⟨_, QueueRuns.exec_advances fresh _, fun id w g => ?_⟩
    constructor
    · intro claimed
      obtain ⟨now, task, other, _⟩ := unclaimed claimed
      cases other
    · intro granted
      exact absurd granted (ungranted none id w g)
  | @claimed m request session task read path authentic served answer =>
    refine ⟨_, QueueRuns.exec_advances fresh _, fun id w g => ?_⟩
    constructor
    · intro claimed
      obtain ⟨now, task', same, served', named, generation⟩ := unclaimed claimed
      cases same
      rw [served] at served'
      cases served'
      exact ⟨⟨request, read, path, Authentic.quotes authentic⟩, task, answer, named, generation⟩
    · rintro ⟨⟨request', read', _, quoted⟩, task', answer', named, generation⟩
      rw [read] at read'
      cases read'
      rw [Authentic.quotes authentic] at quoted
      cases quoted
      rw [answer, Option.some.injEq, Response.mk.injEq] at answer'
      cases WorkerApi.claimJson_injective answer'.2.2
      rw [QueueRuns.change, served, QueueRuns.noted, LeaseFence.claimChange]
      rw [← named, ← generation]
      exact if_pos rfl
  | @reported m request session taskId generation report read reports authentic accepted answer =>
    refine ⟨_, QueueRuns.exec_advances fresh _, fun id w g => ?_⟩
    constructor
    · intro claimed
      obtain ⟨now, task, same, _⟩ := unclaimed claimed
      exact absurd same (report_not_claim report)
    · rintro ⟨⟨request', read', path, _⟩, _⟩
      rw [read] at read'
      cases read'
      exact absurd path (other_path reports)

end Steps

/-! ### Generations -/

/-- The task has been admitted, and its generation has come this far. -/
structure Passed (db : Db) (taskId generation : Int) : Prop where
  admitted : taskId ≤ db.taskSeq
  reached : (view db taskId).task.isSome → generation ≤ (view db taskId).generation

theorem move_generation {id seq seq' g : Int} {v v' : TaskView} {c : Change}
    (move : Move id seq seq' v c v') (admitted : id ≤ seq)
    (reached : v.task.isSome → g ≤ v.generation) :
    (v'.task.isSome → g ≤ v'.generation) ∧ ∀ w, c ≠ .claimed w g := by
  have present : ∀ {t : Task}, v.task = some t → g ≤ v.generation := by
    intro t row
    exact reached (by rw [row]; rfl)
  cases move with
  | stay => exact ⟨reached, fun w => Change.noConfusion⟩
  | create fresh => omega
  | assign _ _ _ row | release _ row => exact ⟨fun _ => present row, fun w => Change.noConfusion⟩
  | extend _ holds | complete holds | project holds | retry _ _ holds | exhaust _ holds =>
    exact ⟨fun _ => present holds.row, fun w => Change.noConfusion⟩
  | claim _ row =>
    have below := present row
    constructor
    · intro _
      simp only [TaskView.generation, Option.getD_some] at below ⊢
      omega
    · intro w same
      cases same
      omega
  | cancel _ row =>
    have below := present row
    constructor
    · intro _
      simp only [TaskView.generation, Option.getD_some] at below ⊢
      omega
    · intro w
      exact Change.noConfusion
  | prune =>
    constructor
    · intro none
      cases none
    · intro w
      exact Change.noConfusion

theorem move_claimed {id seq seq' g : Int} {w : String} {v v' : TaskView}
    (move : Move id seq seq' v (.claimed w g) v') : v.task.isSome ∧ v'.generation = g := by
  cases move with
  | claim now row =>
    rw [row]
    exact ⟨rfl, rfl⟩

theorem passed_of_leased {db : Db} (fresh : Fresh db) {taskId generation : Int} {w : String}
    (leased : Leased db taskId w generation) : Passed db taskId generation := by
  obtain ⟨t, row, _, _, fence⟩ := leased
  refine ⟨LeaseSafety.known_of_fresh fresh taskId (by rw [row]; rfl), fun _ => ?_⟩
  rw [TaskView.generation, fence]
  exact le_refl _

/-- A lease that is settled was held and is over. -/
theorem move_settled {id seq seq' g : Int} {w : String} {v v' : TaskView} {c : Change}
    (move : Move id seq seq' v c v') (settles : c.event = .settle w g) :
    (∃ t, v.task = some t ∧ t.status = "RUNNING" ∧ t.lockedBy = some w ∧ v.fence = some g) ∧
      ∀ t, v'.task = some t → t.status ≠ "RUNNING" := by
  cases move with
  | stay | assign | release | claim | extend | create | cancel | prune => cases settles
  | complete holds | project holds | retry _ _ holds | exhaust _ holds =>
    cases settles
    refine ⟨⟨_, holds.row, holds.running, holds.owner, holds.fence⟩, fun t row => ?_⟩
    cases row
    simp [unlockAs, retryAt, failWith]

/-- A report that ends a lease is applied. -/
structure Settles (api : Api) (e : Event) (d : Daemon) (taskId generation : Int) : Prop where
  reported : ∃ request report, e.request? = some request ∧
    Reports request taskId generation report ∧ report ≠ .heartbeat
  answered : respond api e d = some applied

section Settling
variable {api : Api} {ttl : Instant} {d : Daemon} {e : Event}

theorem report_change {report : Report} (ends : report ≠ .heartbeat) {now : Seconds}
    {taskId generation : Int} {w : String} {db : Db}
    (accepted : (QueueRuns.exec (report.op api now taskId w generation) db).1 =
      .mutation .applied) :
    (QueueRuns.change taskId (report.op api now taskId w generation) db).event =
      .settle w generation := by
  rw [QueueRuns.change, accepted]
  cases report with
  | heartbeat => exact absurd rfl ends
  | fail error =>
    have noted : QueueRuns.noted ((Report.fail error).op api now taskId w generation)
        (.mutation .applied) db taskId = LeaseFence.failChange db taskId w generation :=
      if_pos ⟨rfl, rfl⟩
    rw [noted, LeaseFence.failChange]
    split <;> rfl
  | complete resultJson =>
    have noted : QueueRuns.noted ((Report.complete resultJson).op api now taskId w generation)
        (.mutation .applied) db taskId = .completed w generation := by
      cases resultJson <;> exact if_pos ⟨rfl, rfl⟩
    rw [noted]
    rfl

theorem Reports.unique {request : HttpRequest} {taskId taskId' generation generation' : Int}
    {report report' : Report} (reports : Reports request taskId generation report)
    (reports' : Reports request taskId' generation' report') :
    taskId = taskId' ∧ generation = generation' ∧ report = report' := by
  have fence := reports.fence
  rw [reports'.fence] at fence
  cases fence
  refine ⟨rfl, rfl, ?_⟩
  have apart : ∀ {path path' : String}, isTo request "POST" path → isTo request "POST" path' →
      path = path' := by
    intro path path' one other
    exact (isTo_eq one).2.symm.trans (isTo_eq other).2
  rcases reports.made with ⟨to_, _, rfl⟩ | ⟨to_, read⟩ | ⟨to_, _, read⟩ <;>
    rcases reports'.made with ⟨to', _, rfl⟩ | ⟨to', read'⟩ | ⟨to', _, read'⟩
  · rfl
  · exact absurd (apart to_ to') (by decide)
  · exact absurd (apart to_ to') (by decide)
  · exact absurd (apart to_ to') (by decide)
  · rw [read] at read'
    cases read'
    rfl
  · exact absurd (apart to_ to') (by decide)
  · exact absurd (apart to_ to') (by decide)
  · exact absurd (apart to_ to') (by decide)
  · rw [read] at read'
    cases read'
    rfl

theorem ofTasks_of_reports {request : HttpRequest} {taskId generation : Int} {report : Report}
    (reports : Reports request taskId generation report) : ofTasks request = true := by
  rcases reports.made with ⟨to_, _⟩ | ⟨to_, _⟩ | ⟨to_, _⟩
  all_goals
    rw [ofTasks, to_]
    simp

/-- An applied report is one of a session that held the lease, and ends it. -/
theorem settles_step (fresh : Fresh d.api.db) {taskId generation : Int}
    (settles : Settles api e d taskId generation) {db : Db} (happened : Happened api d e db) :
    (∃ w, Leased d.api.db taskId w generation) ∧ ∀ w g, ¬ Leased db taskId w g := by
  obtain ⟨⟨request, report, read, reports, ends⟩, answer⟩ := settles
  have unread : e.request? ≠ none := by
    rw [read]
    exact Option.some_ne_none request
  cases happened with
  | nothing silent =>
    exact absurd rfl (silent request read (ofTasks_of_reports reports) _ answer)
  | client _ none => exact absurd none unread
  | dispatch _ none => exact absurd none unread
  | claimed read' path =>
    rw [read] at read'
    cases read'
    exact absurd path (other_path reports)
  | @reported m request' session taskId' generation' report' read' reports' authentic accepted =>
    rw [read] at read'
    cases read'
    obtain ⟨rfl, rfl, rfl⟩ := Reports.unique reports reports'
    have move := (QueueRuns.exec_advances fresh
      (report.op api m.now taskId session.sessionId generation)).move taskId
    obtain ⟨held, finished⟩ := move_settled move (report_change ends accepted)
    refine ⟨⟨session.sessionId, held⟩, ?_⟩
    rintro w g ⟨t, row, running, _⟩
    exact finished t row running

end Settling

/-! ### What every run keeps -/

section Runs
variable {api : Api} {ttl : Instant}

variable (api ttl) in
theorem step_advances {d : Daemon} (fresh : Fresh d.api.db) (e : Event) :
    ∃ change : Int → Change, Advances d.api.db (step api ttl e d).api.db change ∧
      ∀ id w g, change id = .claimed w g ↔ Grants api e d id w g :=
  happened_advances fresh (step_happened api ttl e d)

theorem run_concat (events : List Event) (e : Event) :
    run api ttl (events ++ [e]) = step api ttl e (run api ttl events) :=
  Histories.run_append _ _ _

theorem run_cons_append (before since : List Event) (e : Event) :
    run api ttl (before ++ e :: since) =
      Histories.run (step api ttl) (step api ttl e (run api ttl before)) since :=
  Histories.run_append _ _ _

theorem run_queue (events : List Event) : Fresh (run api ttl events).api.db ∧
    ∀ id, QueueInvariants.Coherent (view (run api ttl events).api.db id) := by
  have kept : ∀ e d, (Fresh d.api.db ∧ ∀ id, QueueInvariants.Coherent (view d.api.db id)) →
      (Fresh (step api ttl e d).api.db ∧
        ∀ id, QueueInvariants.Coherent (view (step api ttl e d).api.db id)) := by
    rintro e d ⟨fresh, coherent⟩
    obtain ⟨change, advances, _⟩ := step_advances api ttl fresh e
    exact ⟨advances.fresh fresh, fun id =>
      QueueInvariants.move_coherent (advances.move id) (coherent id)⟩
  have first : Fresh (start ttl).api.db ∧
      ∀ id, QueueInvariants.Coherent (view (start ttl).api.db id) :=
    ⟨empty_fresh, fun _ => QueueInvariants.absent_coherent⟩
  exact Histories.run_preserves kept first events

variable (api ttl) in
theorem run_fresh (events : List Event) : Fresh (run api ttl events).api.db :=
  (run_queue events).1

/-- The registry keeps the law of its calls. -/
def Lawful (ttl : Instant) (d : Daemon) : Prop :=
  SessionRegistry.Sound ttl d.api.registry d.latest

theorem calls_lawful {m : Moment} {request : HttpRequest} {before after : SessionRegistry.Logged}
    (sound : SessionRegistry.Sound ttl before m.instant) (calls : Calls m request before after) :
    SessionRegistry.Sound ttl after m.instant := by
  cases calls with
  | none => exact sound
  | touch => exact SessionRegistry.step_sound sound
  | register => exact SessionRegistry.step_sound sound

theorem serve_lawful {m : Moment} (ending : Ending) (pieces : List (List UInt8))
    {s : WorkerApiState} (sound : SessionRegistry.Sound ttl s.registry m.instant) :
    SessionRegistry.Sound ttl
      (serveWorkerConnectionWithProviderSnapshot api m ending pieces s).2.registry m.instant := by
  unfold serveWorkerConnectionWithProviderSnapshot
  split
  · exact sound
  · exact SessionRegistry.activeSessions_sound sound
  · unfold serveWorkerConnection
    split
    · exact calls_lawful sound route_calls
    · exact sound

theorem step_lawful {e : Event} {d : Daemon} (inTime : InTime e d) (lawful : Lawful ttl d) :
    Lawful ttl (step api ttl e d) := by
  cases e with
  | connection m ending pieces =>
    exact serve_lawful ending pieces (lawful.wait (inTime _ rfl))
  | client op allowed => exact lawful
  | activeSessions now order =>
    have waited := lawful.wait (inTime now rfl)
    exact SessionRegistry.activeSessions_sound waited
  | dispatch now transport =>
    cases taken : d.snapshot with
    | none =>
      simp only [step, taken]
      exact lawful
    | some sessions =>
      simp only [step, taken]
      exact lawful
  | restart => exact SessionRegistry.empty_sound ttl 0

theorem run_lawful {events : List Event}
    (inTime : Histories.AllSteps (step api ttl) InTime (start ttl) events) :
    Lawful ttl (run api ttl events) :=
  Histories.run_preserves_allowed (P := Lawful ttl) (fun _ _ => step_lawful) inTime
    (SessionRegistry.empty_sound ttl 0)

end Runs

end WorkerDaemon
