import TaskQueQue.AvailableTasks
import TaskQueQue.RegisteredWorkers
import TaskQueQue.WorkerClient

/-!
# Registrations both sides agree on

The worker's registry and configuration admit only safe names, and what they admit passes the
checks of the broker, the bounds on numbers and lengths apart that the broker alone has. The
broker's answer in turn passes the worker's checks: it lists the names in the worker's order.
-/

namespace AgreedRegistrations

open GatewayValues HttpFraming RequestRendering AdmissionLanguage WorkerProtocol WorkerRoutes
open WorkerClient ClientCalls GatewayConfig
open ClaimHandling (WorkerHandler WorkerHandlerRegistry)
open RemoteAgents (safeId)

/-! ### Safe names -/

def mark (c : Char) : Bool := ['.', '_', ':', '-'].contains c

structure Safe (value : String) : Prop where
  filled : value ≠ ""
  short : value.utf8ByteSize ≤ 128
  chars : ∀ c ∈ value.toList, asciiAlphanumeric c = true ∨ mark c = true

theorem visible_mark {c : Char} (h : mark c = true) : visible c = true :=
  List.all_eq_true.mp (by decide : ['.', '_', ':', '-'].all visible = true) c
    (List.contains_iff_mem.mp h)

theorem safe_dense {value : String} (safe : Safe value) : Dense value := by
  intro c mem
  exact (safe.chars c mem).elim visible_of_alphanumeric visible_mark

theorem safe_of_safeId {value : String} (h : safeId value = true) : Safe value := by
  rw [safeId, Bool.and_eq_true, decide_eq_true_eq] at h
  obtain ⟨⟨least, most⟩, each⟩ := h
  have chars : ∀ c ∈ value.toList, asciiAlphanumeric c = true ∨ mark c = true := fun c mem =>
    Bool.or_eq_true_iff.mp (List.all_eq_true.mp each c mem)
  have ascii : ∀ c ∈ value.toList, RequestRendering.ascii c = true := fun c mem =>
    ascii_of_visible ((chars c mem).elim visible_of_alphanumeric visible_mark)
  have size := utf8ByteSize_of_ascii ascii
  refine ⟨?_, by omega, chars⟩
  rintro rfl
  exact absurd least (by decide)

section
variable {value : String} (safe : Safe value)
include safe

theorem safe_marks {marks : List Char} (known : ['.', '_', ':', '-'].all marks.contains = true) :
    value.toList.all (fun c => asciiAlphanumeric c || marks.contains c) = true := by
  refine List.all_eq_true.mpr fun c mem => Bool.or_eq_true_iff.mpr ?_
  exact (safe.chars c mem).imp_right fun h =>
    List.all_eq_true.mp known c (List.contains_iff_mem.mp h)

theorem validateIdentifier_safe {maxLen : Nat} (header : String)
    (short : value.utf8ByteSize ≤ maxLen) :
    LocalApi.validateIdentifier value maxLen header = .ok () := by
  have chars := safe_marks safe (by decide : ['.', '_', ':', '-'].all "._-:/".toList.contains = true)
  rw [LocalApi.validateIdentifier, if_neg, chars]
  · rfl
  · rintro (empty | long)
    · exact safe.filled empty
    · omega

theorem validateTaskName_safe : validateTaskName value = .ok () := by
  have chars := safe_marks safe (by decide : ['.', '_', ':', '-'].all "._-:".toList.contains = true)
  have short := safe.short
  rw [validateTaskName, if_neg, chars]
  · rfl
  · rintro (empty | long)
    · exact safe.filled empty
    · omega

theorem isSafeTaskName_safe : isSafeTaskName value = true := by
  rw [isSafeTaskName, Bool.and_eq_true, Bool.and_eq_true, decide_eq_true_eq, decide_eq_true_eq]
  refine ⟨⟨safe.filled, safe.short⟩, List.all_eq_true.mpr fun c mem => ?_⟩
  simp only [Bool.or_eq_true, beq_iff_eq, ProviderSnapshots.isAlphanum_eq]
  rcases safe.chars c mem with alphanumeric | marked
  · exact Or.inl (Or.inl (Or.inl (Or.inl alphanumeric)))
  · have one := List.contains_iff_mem.mp marked
    simp only [List.mem_cons, List.not_mem_nil, or_false] at one
    tauto

end

/-! ### What the worker admits -/

/-- A registry that was constructed. -/
structure Constructed (registry : WorkerHandlerRegistry) : Prop where
  type : Safe registry.workerType
  filled : registry.handlers ≠ []
  names : ∀ handler ∈ registry.handlers, Safe handler.taskName
  distinct : (registry.handlers.map WorkerHandler.taskName).Nodup

theorem validateName_safe {value label : String} {u : Unit}
    (valid : validateName value label = .ok u) : Safe value := by
  have safe := refuse_ok valid
  rw [Bool.not_eq_false'] at safe
  exact safe_of_safeId safe

theorem addHandlers_ok {workerType : String} {added handlers all : List WorkerHandler}
    (ok : addHandlers workerType added handlers = .ok all)
    (names : ∀ handler ∈ added, Safe handler.taskName)
    (distinct : (added.map WorkerHandler.taskName).Nodup) :
    all = added ++ handlers ∧ (∀ handler ∈ all, Safe handler.taskName) ∧
      (all.map WorkerHandler.taskName).Nodup := by
  induction handlers generalizing added with
  | nil =>
    cases ok
    exact ⟨(List.append_nil _).symm, names, distinct⟩
  | cons handler rest ih =>
    obtain ⟨_, named, ok⟩ := bind_ok ok
    obtain ⟨_, _, ok⟩ := bind_ok ok
    obtain ⟨_, _, ok⟩ := bind_ok ok
    obtain ⟨_, unused, ok⟩ := bind_ok ok
    have fresh : handler.taskName ∉ added.map WorkerHandler.taskName := fun mem => by
      rw [List.contains_iff_mem.mpr mem] at unused
      cases unused
    have result := ih ok (List.forall_mem_append.mpr
      ⟨names, List.forall_mem_singleton.mpr (validateName_safe named)⟩) (by
        rw [List.map_append]
        exact List.nodup_append.mpr ⟨distinct, List.nodup_singleton _, fun a mem b here => by
          rw [List.mem_singleton.mp here]
          exact fun same => fresh (same ▸ mem)⟩)
    rwa [List.append_assoc, List.singleton_append] at result

theorem newRegistry_constructed {workerType : String} {handlers : List WorkerHandler}
    {registry : WorkerHandlerRegistry} (ok : newRegistry workerType handlers = .ok registry) :
    Constructed registry := by
  obtain ⟨_, type, ok⟩ := bind_ok ok
  obtain ⟨_, filled, ok⟩ := bind_ok ok
  obtain ⟨all, added, ok⟩ := bind_ok ok
  cases ok
  obtain ⟨rfl, names, distinct⟩ := addHandlers_ok added (fun _ mem => absurd mem List.not_mem_nil)
    List.nodup_nil
  refine ⟨validateName_safe type, ?_, names, distinct⟩
  rintro (none : all = [])
  have some_handler := refuse_ok filled
  rw [none] at some_handler
  cases some_handler

/-- A configuration as far as it is sent. -/
structure Configured (config : WorkerConfig) : Prop where
  workerId : Safe config.workerId
  capacity : 1 ≤ config.capacity ∧ config.capacity ≤ 64

theorem integerFrom_ok {platform : Platform} {least fallback max value : Int}
    {raw : Option String} {name : String} (range : least ≤ fallback ∧ fallback ≤ max)
    (ok : integerFrom platform least raw fallback name max = .ok value) :
    least ≤ value ∧ value ≤ max := by
  unfold integerFrom at ok
  split at ok
  · cases ok
    exact range
  split at ok
  · split at ok
    · cases ok
    · rename_i within
      cases ok
      omega
  · cases ok

theorem loadWorkerConfig_configured {platform : Platform} {env : Environment}
    {config : WorkerConfig} (ok : loadWorkerConfig platform env = .ok config) :
    Configured config := by
  obtain ⟨_, safe, ok⟩ := bind_ok ok
  obtain ⟨_, _, ok⟩ := bind_ok ok
  obtain ⟨_, _, ok⟩ := bind_ok ok
  obtain ⟨capacity, bounded, ok⟩ := bind_ok ok
  obtain ⟨_, _, ok⟩ := bind_ok ok
  obtain ⟨_, _, ok⟩ := bind_ok ok
  obtain ⟨_, _, ok⟩ := bind_ok ok
  cases ok
  have named := refuse_ok safe
  rw [Bool.not_eq_false'] at named
  exact ⟨safe_of_safeId named, integerFrom_ok ⟨by decide, by decide⟩ bounded⟩

/-! ### The names that are sent -/

/-- The broker's own bounds. -/
structure Fits (registry : WorkerHandlerRegistry) : Prop where
  type : registry.workerType.utf8ByteSize ≤ 64
  names : registry.handlers.length ≤ 32
  text : (",".intercalate (taskNames registry)).utf8ByteSize ≤ 4096

theorem checkedTaskNames_safe {names : List String} (safe : ∀ name ∈ names, Safe name) :
    checkedTaskNames names = .ok names := by
  induction names with
  | nil => rfl
  | cons name names ih =>
    obtain ⟨first, later⟩ := List.forall_mem_cons.mp safe
    rw [checkedTaskNames, validateTaskName_safe first, orBadRequest, SubmissionRoute.ok_bind,
      ih later]
    rfl

theorem trim_dense {value : String} (dense : Dense value) : trim value.toList = value.toList := by
  have solid : ∀ c ∈ value.toList, isWhitespace c = false := fun c mem =>
    isWhitespace_visible (dense c mem)
  exact trim_of_ends (fun c first => solid c (List.mem_of_mem_head? first))
    fun c last => solid c (List.mem_of_getLast? last)

section Names
variable {registry : WorkerHandlerRegistry} (constructed : Constructed registry)

theorem taskNames_sorted (registry : WorkerHandlerRegistry) :
    (taskNames registry).Pairwise (· ≤ ·) :=
  List.pairwise_insertionSort (· ≤ ·) _

theorem taskNames_perm (registry : WorkerHandlerRegistry) :
    (taskNames registry).Perm (registry.handlers.map WorkerHandler.taskName) :=
  List.perm_insertionSort (· ≤ ·) _

theorem length_taskNames (registry : WorkerHandlerRegistry) :
    (taskNames registry).length = registry.handlers.length := by
  rw [(taskNames_perm registry).length_eq, List.length_map]

theorem resort (registry : WorkerHandlerRegistry) :
    (taskNames registry).insertionSort (· ≤ ·) = taskNames registry :=
  (taskNames_sorted registry).insertionSort_eq

include constructed

theorem taskNames_safe : ∀ name ∈ taskNames registry, Safe name := by
  intro name mem
  obtain ⟨handler, listed, rfl⟩ := List.mem_map.mp ((taskNames_perm registry).subset mem)
  exact constructed.names handler listed

theorem taskNames_ne_nil : taskNames registry ≠ [] := by
  intro none
  have length := length_taskNames registry
  rw [none] at length
  exact constructed.filled (List.length_eq_zero_iff.mp length.symm)

theorem taskNames_distinct : noAdjacentDuplicate (taskNames registry) = true := by
  have distinct := (taskNames_perm registry).nodup_iff.mpr constructed.distinct
  generalize taskNames registry = names at distinct
  induction names with
  | nil => rfl
  | cons a rest ih =>
    obtain ⟨apart, later⟩ := List.nodup_cons.mp distinct
    cases rest with
    | nil => rfl
    | cons b rest =>
      rw [noAdjacentDuplicate, ih later, Bool.and_true, decide_eq_true_eq]
      rintro rfl
      exact apart List.mem_cons_self

theorem comma_free : ∀ name ∈ (taskNames registry).map String.toList, ',' ∉ name := by
  rintro name mem comma
  obtain ⟨value, listed, rfl⟩ := List.mem_map.mp mem
  rcases (taskNames_safe constructed value listed).chars ',' comma with alphanumeric | marked
  · exact absurd alphanumeric (by decide)
  · exact absurd marked (by decide)

/-- The names between the commas. -/
theorem split_names : (",".intercalate (taskNames registry)).toList.splitOnP (· = ',') =
    (taskNames registry).map String.toList := by
  have present : (taskNames registry).map String.toList ≠ [] := fun none =>
    taskNames_ne_nil constructed (List.map_eq_nil_iff.mp none)
  rw [String.toList_intercalate]
  exact List.splitOn_intercalate ',' (comma_free constructed) present

theorem dense_names : Dense (",".intercalate (taskNames registry)) := by
  intro c mem
  rw [String.toList_intercalate] at mem
  rcases PosixPaths.mem_intercalate mem with comma | ⟨name, listed, inside⟩
  · rw [List.mem_singleton.mp comma]
    decide
  · obtain ⟨value, named, rfl⟩ := List.mem_map.mp listed
    exact safe_dense (taskNames_safe constructed value named) c inside

theorem names_filled : ",".intercalate (taskNames registry) ≠ "" := by
  intro empty
  have pieces := split_names constructed
  rw [empty] at pieces
  cases names : taskNames registry with
  | nil => exact taskNames_ne_nil constructed names
  | cons name rest =>
    have filled := (taskNames_safe constructed name (by rw [names]; exact List.mem_cons_self)).filled
    rw [names] at pieces
    cases rest with
    | nil => exact filled (String.toList_eq_nil_iff.mp (List.cons.inj pieces).1.symm)
    | cons next rest => cases (List.cons.inj pieces).2

theorem parseWorkerTaskNames_agreed (fits : Fits registry) {request : HttpRequest}
    (sent : request.header "x-worker-tasks" = some (",".intercalate (taskNames registry))) :
    parseWorkerTaskNames request = .ok (taskNames registry) := by
  have trimmed : ((taskNames registry).map String.toList).map (fun value =>
      String.ofList (trim value)) = taskNames registry := by
    rw [List.map_map]
    refine (List.map_congr_left fun name mem => ?_).trans (List.map_id _)
    have dense := safe_dense (taskNames_safe constructed name mem)
    rw [Function.comp_apply, trim_dense dense, String.ofList_toList, id]
  rw [parseWorkerTaskNames, RegisteredWorkers.requiredHeader_ok sent (names_filled constructed),
    SubmissionRoute.ok_bind, if_neg (Nat.not_lt.mpr fits.text), split_names constructed, trimmed,
    checkedTaskNames_safe (taskNames_safe constructed), SubmissionRoute.ok_bind, if_neg,
    resort registry, taskNames_distinct constructed]
  · rfl
  · rintro (none | many)
    · exact taskNames_ne_nil constructed none
    · rw [length_taskNames] at many
      exact absurd fits.names (Nat.not_le.mpr many)

theorem normalizeTaskNames_agreed (fits : Fits registry) :
    ∃ names, normalizeTaskNames (taskNames registry) = .ok names ∧
      names.1 = taskNames registry := by
  have safe : (taskNames registry).all isSafeTaskName = true :=
    List.all_eq_true.mpr fun name mem => isSafeTaskName_safe (taskNames_safe constructed name mem)
  have distinct := taskNames_distinct constructed
  rw [← resort registry] at distinct
  have bound : maxTaskNamesPerWorker = 32 := rfl
  rw [normalizeTaskNames, if_neg, safe, if_neg (by decide), dif_pos distinct]
  · exact ⟨_, rfl, resort registry⟩
  · rintro (none | many)
    · exact taskNames_ne_nil constructed none
    · rw [length_taskNames, bound] at many
      exact absurd fits.names (Nat.not_le.mpr many)

end Names

/-! ### The request -/

/-- A number in its bounds is read from the header it is written to. -/
theorem parseBoundedI64Header_toString {request : HttpRequest} {name : String} {n min max : Int}
    (sent : request.header name = some (toString n)) (bounds : min ≤ n ∧ n ≤ max)
    (lower : QueueValues.i64Min ≤ n) (upper : n ≤ QueueValues.i64Max) :
    parseBoundedI64Header request name min max = .ok n := by
  have digits := LocalApi.parseI64_toString lower upper
  have filled : toString n ≠ "" := by
    intro none
    rw [none] at digits
    cases digits
  rw [parseBoundedI64Header, RegisteredWorkers.requiredHeader_ok sent filled,
    SubmissionRoute.ok_bind, digits, Option.filter_some, if_pos (decide_eq_true bounds)]

section Request
variable {config : WorkerConfig} {registry : WorkerHandlerRegistry}
  (configured : Configured config) (constructed : Constructed registry) (fits : Fits registry)
include configured constructed fits

theorem registerCall_proper : Proper (registerCall config registry) := by
  have names : (registerCall config registry).lowered.map Prod.fst =
      ["X-Worker-Id", "X-Worker-Type", "X-Worker-Capacity", "X-Worker-Tasks"].map lowerName := rfl
  refine ⟨(by decide : "/v1/register".toList.head? = some '/'),
    List.all_eq_true.mp (by decide : "/v1/register".toList.all visible = true),
    ?_, ?_, ?_, ?_⟩
  · rw [names]
    decide +kernel
  · rw [names]
    decide +kernel
  · simp only [registerCall, List.forall_mem_cons]
    exact ⟨fieldValue_of_dense (safe_dense configured.workerId),
      fieldValue_of_dense (safe_dense constructed.type), fieldValue_of_dense (dense_toString _),
      fieldValue_of_dense (dense_names constructed), by simp⟩
  · have idLength := length_le_utf8ByteSize config.workerId
    have idShort := configured.workerId.short
    have typeLength := length_le_utf8ByteSize registry.workerType
    have typeShort := fits.type
    have textLength := length_le_utf8ByteSize (",".intercalate (taskNames registry))
    have textShort := fits.text
    obtain ⟨least, most⟩ := configured.capacity
    have capacity : (toString config.capacity).length ≤ 20 :=
      length_toString (by simp only [QueueValues.i64Min]; omega) (by simp only [QueueValues.i64Max]; omega)
    have lengths : "/v1/register".length = 12 ∧ "X-Worker-Id".length = 11 ∧
        "X-Worker-Type".length = 13 ∧ "X-Worker-Capacity".length = 17 ∧
        "X-Worker-Tasks".length = 14 := by decide
    simp only [registerCall, headerBytes]
    omega

/-- The broker reads what the worker was configured with. -/
theorem readRegistering_agreed (sending : Sending (registerCall config registry)) :
    readRegistering sending.request.received =
      .ok ⟨config.workerId, registry.workerType, config.capacity, taskNames registry⟩ := by
  have proper := registerCall_proper configured constructed fits
  have empty := sending.body_empty rfl
  have workerId := sending.header proper (.head _)
  have workerType := sending.header proper (.tail _ (.head _))
  have capacity := sending.header proper (.tail _ (.tail _ (.head _)))
  have names := sending.header proper (.tail _ (.tail _ (.tail _ (.head _))))
  have lowered : lowerName "X-Worker-Id" = "x-worker-id" ∧
      lowerName "X-Worker-Type" = "x-worker-type" ∧
      lowerName "X-Worker-Capacity" = "x-worker-capacity" ∧
      lowerName "X-Worker-Tasks" = "x-worker-tasks" := by decide +kernel
  rw [lowered.1] at workerId
  rw [lowered.2.1] at workerType
  rw [lowered.2.2.1] at capacity
  rw [lowered.2.2.2] at names
  obtain ⟨least, most⟩ := configured.capacity
  have number : parseBoundedI64Header sending.request.received "x-worker-capacity" 1 1000000 =
      .ok config.capacity :=
    parseBoundedI64Header_toString capacity ⟨least, by omega⟩ (by simp only [QueueValues.i64Min]; omega)
      (by simp only [QueueValues.i64Max]; omega)
  rw [readRegistering, requireEmptyBody, if_pos empty, SubmissionRoute.ok_bind,
    RegisteredWorkers.requiredHeader_ok workerId configured.workerId.filled,
    SubmissionRoute.ok_bind,
    RegisteredWorkers.requiredHeader_ok workerType constructed.type.filled,
    SubmissionRoute.ok_bind,
    validateIdentifier_safe configured.workerId "x-worker-id" configured.workerId.short,
    orBadRequest, SubmissionRoute.ok_bind,
    validateIdentifier_safe constructed.type "x-worker-type" fits.type, orBadRequest,
    SubmissionRoute.ok_bind, number, SubmissionRoute.ok_bind,
    parseWorkerTaskNames_agreed constructed fits names]
  rfl

end Request

/-! ### The answer -/

/-- What the client hears of an answer. -/
def heard (response : WorkerRoutes.Response) : Heard :=
  ⟨response.status, JsonText.read JsonText.integers response.body.toList⟩

/-- `Number.MAX_SAFE_INTEGER`. -/
def maxSafeInteger : Int := 9007199254740991

theorem positiveInteger_intCast {n : Int} (positive : 0 < n) (safe : n ≤ maxSafeInteger) :
    McpTools.positiveInteger (some (.num n)) = some n := by
  have within : n.natAbs ≤ 9007199254740991 := by
    simp only [maxSafeInteger] at safe
    omega
  rw [McpTools.positiveInteger, Json.safeInteger?, Json.integer?, if_pos (Rat.den_intCast n),
    Rat.num_intCast, Option.filter_some, if_pos (decide_eq_true within), Option.filter_some,
    if_pos (decide_eq_true positive)]

theorem positiveInteger_large {n : Int} (large : maxSafeInteger < n) :
    McpTools.positiveInteger (some (.num n)) = none := by
  have beyond : ¬ n.natAbs ≤ 9007199254740991 := by
    simp only [maxSafeInteger] at large
    omega
  rw [McpTools.positiveInteger, Json.safeInteger?, Json.integer?, if_pos (Rat.den_intCast n),
    Rat.num_intCast, Option.filter_some, if_neg (by rw [decide_eq_true_eq]; exact beyond),
    Option.filter_none]

theorem dense_of_hexText {length : Nat} {text : String} (form : hexText length text = true) :
    Dense text ∧ text.length = length := by
  rw [hexText, Bool.and_eq_true, decide_eq_true_eq] at form
  have shown : ∀ c ∈ text.toList, visible c = true := fun c mem =>
    RegisteredWorkers.visible_of_hexDigit (List.all_eq_true.mp form.2 c mem)
  have size := utf8ByteSize_of_ascii fun c mem => ascii_of_visible (shown c mem)
  exact ⟨shown, size.symm.trans form.1⟩

theorem hexOf_hexText {length : Nat} {text : String} (form : hexText length text = true) :
    hexOf length (.str text) = some text := by
  have size := (dense_of_hexText form).2
  rw [hexText, Bool.and_eq_true] at form
  rw [hexOf, if_pos ⟨size, form.2⟩]

theorem hexText_of_hexOf {length : Nat} {value : Json} {text : String}
    (read : hexOf length value = some text) : hexText length text = true := by
  fun_induction hexOf length value with
  | case1 text' form =>
    cases read
    have ascii : ∀ c ∈ text.toList, RequestRendering.ascii c = true := fun c mem =>
      RegisteredWorkers.ascii_of_hexDigit (List.all_eq_true.mp form.2 c mem)
    rw [hexText, utf8ByteSize_of_ascii ascii, form.2, Bool.and_true, decide_eq_true_eq]
    exact form.1
  | case2 text' other => cases read
  | case3 value ih => exact ih read
  | case4 => cases read

theorem sameNames_map (names : List String) : sameNames (names.map Json.str) names = true := by
  induction names with
  | nil => rfl
  | cons name names ih =>
    rw [List.map_cons, sameNames, ih]
    exact Bool.and_eq_true_iff.mpr ⟨decide_eq_true rfl, rfl⟩

section Answer
variable {config : WorkerConfig} {registry : WorkerHandlerRegistry}
  {made : WorkerRegistration}

/-- The session is the one the worker asked for. -/
structure AskedFor (config : WorkerConfig) (registry : WorkerHandlerRegistry)
    (session : WorkerSession) : Prop where
  workerId : session.workerId = config.workerId
  type : session.kind.toDb = registry.workerType
  capacity : session.capacity = config.capacity
  names : session.taskNames.1 = taskNames registry

theorem askedFor_of_made {session : WorkerSession}
    (shape : CoordinatorRuns.Made config.workerId (fromDb registry.workerType) config.capacity
      (taskNames registry) session) : AskedFor config registry session := by
  refine ⟨shape.workerId, ?_, shape.capacity, ?_⟩
  · rw [shape.kind, AvailableTasks.toDb_fromDb]
  · have sorted : session.taskNames.1.Pairwise (· ≤ ·) :=
      session.taskNames.2.imp fun less => le_of_lt less
    exact shape.taskNames.eq_of_pairwise (fun _ _ _ _ => le_antisymm) sorted
      (taskNames_sorted registry)

/-- What a worker makes of the answer to its registration. -/
theorem readRegistration_created {api : Api} {lifetime : Instant}
    (asked : AskedFor config registry made.session)
    (formed : RegisteredWorkers.WellFormed made)
    (ttl : 0 < (millis lifetime : Int) ∧ (millis lifetime : Int) ≤ maxSafeInteger)
    (lease : 0 < (api.taskLease.millis : Int) ∧ (api.taskLease.millis : Int) ≤ maxSafeInteger) :
    readRegistration config registry (heard (IssuedSessions.created api made lifetime)) =
      .ok ⟨config.workerId, registry.workerType, taskNames registry, made.session.sessionId,
        made.sessionToken, millis lifetime, api.taskLease.millis⟩ := by
  obtain ⟨workerId, type, _, names⟩ := asked
  have sessionTtl := positiveInteger_intCast ttl.1 ttl.2
  have taskLease := positiveInteger_intCast lease.1 lease.2
  have sessionId := hexOf_hexText formed.1
  have sessionToken := hexOf_hexText formed.2
  rw [Int.cast_natCast] at sessionTtl taskLease
  have body : responseJson (heard (IssuedSessions.created api made lifetime)) =
      .ok (.obj (RegisteredWorkers.registrationFields made (millis lifetime)
        api.taskLease.millis)) := by
    rw [heard, IssuedSessions.created, RegisteredWorkers.registrationJson_read]
    rfl
  generalize fields : RegisteredWorkers.registrationFields made (millis lifetime)
    api.taskLease.millis = object at body
  have found : (Json.obj object).field "worker_id" = some (.str config.workerId) ∧
      (Json.obj object).field "worker_type" = some (.str registry.workerType) ∧
      (Json.obj object).field "task_names" = some (.arr ((taskNames registry).map Json.str)) ∧
      (Json.obj object).field "session_id" = some (.str made.session.sessionId) ∧
      (Json.obj object).field "session_token" = some (.str made.sessionToken) ∧
      (Json.obj object).field "session_ttl_ms" = some (.num (millis lifetime)) ∧
      (Json.obj object).field "task_lease_ms" = some (.num api.taskLease.millis) := by
    rw [← fields, ← workerId, ← type, ← names]
    exact ⟨rfl, rfl, rfl, rfl, rfl, rfl, rfl⟩
  obtain ⟨f1, f2, f3, f4, f5, f6, f7⟩ := found
  rw [readRegistration, body, SubmissionRoute.ok_bind, f1, f2, f3, f4, f5, f6, f7,
    Option.bind_some, Option.bind_some, sessionId, sessionToken, sessionTtl, taskLease]
  exact if_pos ⟨rfl, rfl, sameNames_map _⟩

end Answer

end AgreedRegistrations
