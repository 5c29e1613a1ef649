import TaskQueQue.RequestRendering
import TaskQueQue.SubmissionRoute
import TaskQueQue.TaskFacade

/-!
# Admitted by the gateway, accepted by the daemon

A public submission that passes the gateway's checks is sent to the daemon as an HTTP
request. Its headers pass the daemon's checks, the daemon reads the request back
whichever way it arrives, and what it stores is the task the public request asked for.

The client that writes the request is the runtime's; it adds headers of its own, and
writes all of them in an order and spelling of its choice.
-/

namespace AdmissionLanguage

open QueueValues QueueTables QueueRuns GatewayValues CapabilityAuth LocalApi TaskFacade HttpFraming
open RequestRendering
open SubmissionRoute (Valid Carries)

/-- The headers of the call, with the length its client declares. -/
def taskHeaders (r : EnqueueRequest) : List (String × String) := [
  ("content-length", toString r.body.utf8ByteSize),
  ("content-type", "application/json; charset=utf-8"),
  ("x-task-name", r.taskName),
  ("x-task-type", r.taskType),
  ("x-task-priority", toString r.priority),
  ("x-task-max-retries", toString r.maxRetries),
  ("x-idempotency-key", r.idempotencyKey),
  ("x-request-fingerprint", r.requestFingerprint),
  ("x-queue-max-active-tasks", toString r.maxActiveTasks)]

def TASK_HEADER_NAMES : List String :=
  ["content-length", "content-type", "x-task-name", "x-task-type", "x-task-priority",
    "x-task-max-retries", "x-idempotency-key", "x-request-fingerprint", "x-queue-max-active-tasks"]

def headerBytes : List (String × String) → Nat
  | [] => 0
  | header :: rest => header.1.length + header.2.length + 4 + headerBytes rest

/-- How the client writes the call. -/
structure Rendering (r : EnqueueRequest) where
  fields : List (String × String)
  own : List (String × String)
  sends : (fields.map fun field => (lowerName field.1, field.2)).Perm (own ++ taskHeaders r)
  names : ∀ field ∈ fields, Token field.1
  ownDistinct : (own.map Prod.fst).Nodup
  ownOther : ∀ header ∈ own, header.1 ∉ "transfer-encoding" :: TASK_HEADER_NAMES
  ownValues : ∀ header ∈ own, FieldValue header.2
  ownSmall : headerBytes own ≤ 8192

def Rendering.request {r : EnqueueRequest} (rendering : Rendering r) : ClientRequest where
  method := "POST"
  path := "/v1/tasks"
  fields := rendering.fields
  body := r.body

/-! ### The values of the headers -/

/-- A text without white space. -/
def Dense (value : String) : Prop := ∀ c ∈ value.toList, visible c = true

theorem fieldValue_of_dense {value : String} (dense : Dense value) : FieldValue value := by
  have space : visible ' ' = false := by decide
  constructor
  · intro c mem
    have range := of_decide_eq_true (dense c mem)
    exact decide_eq_true ⟨Char.le_trans (by decide) range.1, range.2⟩
  · intro first
    have := dense ' ' (List.mem_of_mem_head? first)
    rw [space] at this
    cases this
  · intro last
    have := dense ' ' (List.mem_of_getLast? last)
    rw [space] at this
    cases this

theorem visible_of_between {low high c : Char} (h : low ≤ c ∧ c ≤ high)
    (range : '!' ≤ low ∧ high ≤ '~') : visible c = true :=
  decide_eq_true ⟨Char.le_trans range.1 h.1, Char.le_trans h.2 range.2⟩

theorem visible_of_alphanumeric {c : Char} (h : asciiAlphanumeric c = true) : visible c = true := by
  rw [asciiAlphanumeric, Bool.or_eq_true, Bool.or_eq_true, decide_eq_true_eq, decide_eq_true_eq,
    decide_eq_true_eq] at h
  rcases h with (lower | upper) | digit
  · exact visible_of_between lower (by decide)
  · exact visible_of_between upper (by decide)
  · exact visible_of_between digit (by decide)

theorem visible_of_digit {c : Char} (h : c.isDigit = true) : visible c = true := by
  rw [Char.isDigit, Bool.and_eq_true, decide_eq_true_eq, decide_eq_true_eq] at h
  have between : '0' ≤ c ∧ c ≤ '9' := h
  exact visible_of_between between (by decide)

theorem dense_toString_nat (n : Nat) : Dense (toString n) := by
  intro c mem
  rw [show (toString n).toList = Nat.toDigits 10 n from Nat.toList_repr] at mem
  exact visible_of_digit (Nat.isDigit_of_mem_toDigits (by decide) (by decide) mem)

theorem dense_toString (n : Int) : Dense (toString n) := by
  cases n with
  | ofNat m => exact dense_toString_nat m
  | negSucc m =>
    intro c mem
    rw [show toString (Int.negSucc m) = "-" ++ toString (m + 1) from rfl, String.toList_append,
      List.mem_append] at mem
    rcases mem with minus | digit
    · exact List.all_eq_true.mp (by decide : "-".toList.all visible = true) c minus
    · exact dense_toString_nat (m + 1) c digit

theorem dense_of_identifier {value header : String} {maxLen : Nat}
    (h : validateIdentifier value maxLen header = .ok ()) :
    Dense value ∧ value.utf8ByteSize ≤ maxLen := by
  rw [validateIdentifier] at h
  split at h
  · cases h
  rename_i length
  split at h
  · cases h
  rename_i characters
  rw [Bool.not_eq_true, Bool.not_eq_false', List.all_eq_true] at characters
  refine ⟨fun c mem => ?_, by omega⟩
  rcases Bool.or_eq_true_iff.mp (characters c mem) with alphanumeric | mark
  · exact visible_of_alphanumeric alphanumeric
  · rw [List.contains_iff_mem] at mark
    exact List.all_eq_true.mp (by decide : "._-:/".toList.all visible = true) c mark

theorem dense_of_idempotencyKey {value : String} (h : validateIdempotencyKey value = .ok ()) :
    Dense value ∧ value.utf8ByteSize ≤ 128 := by
  rw [validateIdempotencyKey] at h
  split at h
  · cases h
  rename_i length
  split at h
  · cases h
  rename_i characters
  rw [Bool.not_eq_true, Bool.not_eq_false', List.all_eq_true] at characters
  refine ⟨fun c mem => ?_, by omega⟩
  rcases Bool.or_eq_true_iff.mp (characters c mem) with alphanumeric | mark
  · exact visible_of_alphanumeric alphanumeric
  · rw [List.contains_iff_mem] at mark
    exact List.all_eq_true.mp (by decide : "._-:".toList.all visible = true) c mark

theorem dense_of_fingerprint {value : String} (h : validateRequestFingerprint value = .ok ()) :
    Dense value ∧ value.utf8ByteSize ≤ 64 := by
  rw [validateRequestFingerprint] at h
  split at h
  · cases h
  rename_i good
  rw [not_or, not_not, Bool.not_eq_true, Bool.not_eq_false', List.all_eq_true] at good
  refine ⟨fun c mem => ?_, Nat.le_of_eq good.1⟩
  have digit := good.2 c mem
  rw [hexDigit, Bool.or_eq_true, Bool.or_eq_true, decide_eq_true_eq, decide_eq_true_eq,
    decide_eq_true_eq] at digit
  rcases digit with (lower | upper) | decimal
  · exact visible_of_between lower (by decide)
  · exact visible_of_between upper (by decide)
  · exact visible_of_between decimal (by decide)

/-! ### The size of the head -/

theorem headerBytes_append (headers more : List (String × String)) :
    headerBytes (headers ++ more) = headerBytes headers + headerBytes more := by
  induction headers with
  | nil => rw [List.nil_append, headerBytes, Nat.zero_add]
  | cons header rest ih =>
    rw [List.cons_append, headerBytes, headerBytes, ih]
    omega

theorem headerBytes_perm {headers headers' : List (String × String)} (h : headers.Perm headers') :
    headerBytes headers = headerBytes headers' := by
  induction h with
  | nil => rfl
  | cons header _ ih => rw [headerBytes, headerBytes, ih]
  | swap header header' rest =>
    simp only [headerBytes]
    omega
  | trans _ _ ih ih' => exact ih.trans ih'

theorem headerBytes_lowered (fields : List (String × String)) :
    headerBytes (fields.map fun field => (lowerName field.1, field.2)) = headerBytes fields := by
  induction fields with
  | nil => rfl
  | cons field fields ih =>
    rw [List.map_cons, headerBytes, headerBytes, ih]
    simp only [lowerName, toAsciiLowercase, String.length_ofList, List.length_map,
      String.length_toList]

theorem length_joinLines (line : List Char) (fields : List (String × String)) :
    (joinLines (line :: fields.map fieldLine)).length = line.length + headerBytes fields := by
  induction fields generalizing line with
  | nil => rfl
  | cons field fields ih =>
    rw [List.map_cons, joinLines_cons, List.length_append, List.length_cons, List.length_cons, ih,
      headerBytes, fieldLine, List.length_append, List.length_cons, List.length_cons,
      String.length_toList, String.length_toList]
    omega

theorem length_le_utf8ByteSize (value : String) : value.length ≤ value.utf8ByteSize := by
  have chars : ∀ l : List Char, l.length ≤ (l.flatMap String.utf8EncodeChar).length := by
    intro l
    induction l with
    | nil => exact Nat.le_refl _
    | cons c l ih =>
      have := c.utf8Size_pos
      rw [List.flatMap_cons, List.length_append, String.length_utf8EncodeChar, List.length_cons]
      omega
  have encoded := encode_ofList value.toList
  rw [String.ofList_toList] at encoded
  rw [← String.length_toList, ← length_encode, encoded]
  exact chars _

theorem length_toString_nat {n k : Nat} (positive : 0 < k) (small : n < 10 ^ k) :
    (toString n).length ≤ k := by
  rw [← String.length_toList, show (toString n).toList = Nat.toDigits 10 n from Nat.toList_repr]
  exact (Nat.length_toDigits_le_iff (by decide) positive).mpr small

theorem length_toString {n : Int} (lower : i64Min ≤ n) (upper : n ≤ i64Max) :
    (toString n).length ≤ 20 := by
  simp only [i64Min, i64Max] at lower upper
  cases n with
  | ofNat m =>
    refine length_toString_nat (by decide) ?_
    have : (Int.ofNat m : Int) = (m : Int) := rfl
    omega
  | negSucc m =>
    rw [show toString (Int.negSucc m) = "-" ++ toString (m + 1) from rfl, String.length_append]
    have bound : m + 1 < 10 ^ 19 := by omega
    have := length_toString_nat (n := m + 1) (k := 19) (by decide) bound
    have minus : "-".length = 1 := by decide
    omega

theorem taskHeaders_small {r : EnqueueRequest} (valid : Valid r)
    (payload : r.body.utf8ByteSize ≤ 1024 * 1024) : headerBytes (taskHeaders r) ≤ 1024 := by
  have name := (dense_of_identifier valid.taskName).2
  have type := (dense_of_identifier valid.taskType).2
  have key := (dense_of_idempotencyKey valid.idempotencyKey).2
  have fingerprint := (dense_of_fingerprint valid.requestFingerprint).2
  have nameLength := length_le_utf8ByteSize r.taskName
  have typeLength := length_le_utf8ByteSize r.taskType
  have keyLength := length_le_utf8ByteSize r.idempotencyKey
  have fingerprintLength := length_le_utf8ByteSize r.requestFingerprint
  have body : (toString r.body.utf8ByteSize).length ≤ 7 :=
    length_toString_nat (by decide) (by omega)
  have priority := length_toString valid.priority.1 valid.priority.2
  have retries := valid.maxRetries
  have limit := valid.maxActiveTasks
  simp only [MAX_ACTIVE_TASK_POLICY_LIMIT] at limit
  have maxRetries : (toString r.maxRetries).length ≤ 20 :=
    length_toString (by simp only [i64Min]; omega) (by simp only [i64Max]; omega)
  have maxActiveTasks : (toString r.maxActiveTasks).length ≤ 20 :=
    length_toString (by simp only [i64Min]; omega) (by simp only [i64Max]; omega)
  have names : "content-length".length = 14 ∧ "content-type".length = 12 ∧
      "application/json; charset=utf-8".length = 31 ∧ "x-task-name".length = 11 ∧
      "x-task-type".length = 11 ∧ "x-task-priority".length = 15 ∧
      "x-task-max-retries".length = 18 ∧ "x-idempotency-key".length = 17 ∧
      "x-request-fingerprint".length = 21 ∧ "x-queue-max-active-tasks".length = 24 := by
    decide
  simp only [taskHeaders, headerBytes]
  omega

theorem taskHeaders_values {r : EnqueueRequest} (valid : Valid r) :
    ∀ header ∈ taskHeaders r, FieldValue header.2 := by
  have media : FieldValue "application/json; charset=utf-8" := ⟨List.all_eq_true.mp (by decide), by decide, by decide⟩
  simp only [taskHeaders, List.forall_mem_cons]
  exact ⟨fieldValue_of_dense (dense_toString_nat _), media,
    fieldValue_of_dense (dense_of_identifier valid.taskName).1,
    fieldValue_of_dense (dense_of_identifier valid.taskType).1,
    fieldValue_of_dense (dense_toString _), fieldValue_of_dense (dense_toString _),
    fieldValue_of_dense (dense_of_idempotencyKey valid.idempotencyKey).1,
    fieldValue_of_dense (dense_of_fingerprint valid.requestFingerprint).1,
    fieldValue_of_dense (dense_toString _), by simp⟩

theorem taskHeaders_names (r : EnqueueRequest) :
    (taskHeaders r).map Prod.fst = TASK_HEADER_NAMES := rfl

/-! ### The request, written and read back -/

theorem wellFormed {r : EnqueueRequest} (rendering : Rendering r) (valid : Valid r)
    (payload : r.body.utf8ByteSize ≤ 1024 * 1024) : WellFormed rendering.request := by
  have lowered := rendering.sends
  have names : (rendering.fields.map fun field => lowerName field.1).Perm
      (rendering.own.map Prod.fst ++ TASK_HEADER_NAMES) := by
    have := lowered.map Prod.fst
    rwa [List.map_map, List.map_append, taskHeaders_names] at this
  constructor
  · have shown : "POST".toList.all visible = true := by decide
    exact ⟨by simp [Rendering.request], List.all_eq_true.mp shown⟩
  · have rooted : "/v1/tasks".toList.head? = some '/' := by decide
    have shown : "/v1/tasks".toList.all visible = true := by decide
    exact ⟨rooted, List.all_eq_true.mp shown⟩
  · exact rendering.names
  · intro field mem
    have sent : (lowerName field.1, field.2) ∈ rendering.own ++ taskHeaders r :=
      lowered.subset (List.mem_map.mpr ⟨field, mem, rfl⟩)
    rcases List.mem_append.mp sent with own | task
    · exact rendering.ownValues (lowerName field.1, field.2) own
    · exact taskHeaders_values valid (lowerName field.1, field.2) task
  · refine names.nodup_iff.mpr (List.nodup_append.mpr ⟨rendering.ownDistinct, by decide, ?_⟩)
    rintro name own name' task rfl
    obtain ⟨header, mem, rfl⟩ := List.mem_map.mp own
    exact rendering.ownOther header mem (List.mem_cons_of_mem _ task)
  · intro mem
    rcases List.mem_append.mp (names.subset mem) with own | task
    · obtain ⟨header, mem, named⟩ := List.mem_map.mp own
      refine rendering.ownOther header mem ?_
      rw [named]
      exact List.mem_cons_self
    · exact absurd task (by decide)
  · exact lowered.symm.subset (List.mem_append_right _ List.mem_cons_self)
  · have own := rendering.ownSmall
    have task := taskHeaders_small valid payload
    have total : headerBytes rendering.fields = headerBytes rendering.own +
        headerBytes (taskHeaders r) := by
      rw [← headerBytes_lowered, headerBytes_perm lowered, headerBytes_append]
    have line : (requestLine rendering.request).length = 23 :=
      (by decide : ("POST".toList ++ ' ' :: ("/v1/tasks".toList ++ " HTTP/1.1".toList)).length = 23)
    have limit : MAX_HEADER_BYTES = 16384 := rfl
    rw [headText, length_joinLines, line, limit]
    change 23 + headerBytes rendering.fields + 4 ≤ 16384
    omega

theorem carries {r : EnqueueRequest} (rendering : Rendering r)
    (ok : WellFormed rendering.request) : Carries rendering.request.received r := by
  have sent : ∀ header ∈ taskHeaders r, rendering.request.received.header header.1 =
      some header.2 := fun header mem =>
    received_header ok (rendering.sends.symm.subset (List.mem_append_right _ mem))
  simp only [taskHeaders, List.forall_mem_cons] at sent
  obtain ⟨_, _, taskName, taskType, priority, maxRetries, idempotencyKey, requestFingerprint,
    maxActiveTasks, _⟩ := sent
  exact ⟨taskName, taskType, priority, maxRetries, idempotencyKey, requestFingerprint,
    maxActiveTasks, fromUTF8?_encode r.body⟩

/-! ### What the gateway admits -/

/-- The call asks for the task the public request does. -/
structure AsRequested (web : WebRuntime) (request : Request) (r : EnqueueRequest)
    (parsed : PublicTaskRequest) (policy : TaskPolicy) : Prop where
  key : parseIdempotencyKey request = .ok r.idempotencyKey
  reads : parsePublicTaskRequest web request = .ok parsed
  registered : getTaskPolicy TASK_REGISTRY parsed.type = some policy
  taskName : r.taskName = parsed.type
  taskType : r.taskType = policy.queueKind
  body : r.body = web.stringify parsed.payload
  priority : r.priority = parsed.priority.getD 0
  maxRetries : r.maxRetries = parsed.maxRetries.getD (min 3 policy.maxRetries)
  fingerprint : r.requestFingerprint = requestFingerprint web parsed.type policy.queueKind
    r.priority r.maxRetries parsed.payload

/-- The call keeps to the policy of its task type. -/
structure WithinPolicy (config : GatewayConfig) (r : EnqueueRequest) (policy : TaskPolicy) : Prop where
  priority : policy.minPriority ≤ r.priority ∧ r.priority ≤ policy.maxPriority
  maxRetries : 0 ≤ r.maxRetries ∧ r.maxRetries ≤ policy.maxRetries
  payload : r.body.utf8ByteSize ≤ policy.maxPayloadBytes
  maxActiveTasks : r.maxActiveTasks = config.maxActiveTasks

theorem admissible_asRequested {web : WebRuntime} {config : GatewayConfig} {request : Request}
    {r : EnqueueRequest} (h : admissible web TASK_REGISTRY config request = .ok r) :
    ∃ parsed policy, AsRequested web request r parsed policy ∧ WithinPolicy config r policy := by
  simp only [admissible] at h
  split at h
  · cases h
  split at h
  · cases h
  rename_i key hkey
  split at h
  · cases h
  rename_i parsed hparsed
  split at h
  · cases h
  rename_i policy hpolicy
  split at h
  · cases h
  rename_i priority
  split at h
  · cases h
  rename_i maxRetries
  split at h
  · cases h
  rename_i payload
  cases h
  rw [not_or, not_lt, not_lt] at priority maxRetries
  exact ⟨parsed, policy, ⟨hkey, hparsed, hpolicy, rfl, rfl, rfl, rfl, rfl, rfl⟩,
    ⟨priority, maxRetries, not_lt.mp payload, rfl⟩⟩

/-- What the daemon's checks need of an entry of the registry. -/
def registrable (entry : String × TaskPolicy) : Bool :=
  decide (entry.1 ≠ "" ∧ entry.1.utf8ByteSize ≤ 128 ∧ entry.2.queueKind ≠ "" ∧
    entry.2.queueKind.utf8ByteSize ≤ 64 ∧ entry.2.maxPayloadBytes ≤ 1024 * 1024 ∧
    i64Min ≤ entry.2.minPriority ∧ entry.2.maxPriority ≤ i64Max ∧ entry.2.maxRetries ≤ 100) &&
  (entry.1.toList ++ entry.2.queueKind.toList).all fun c =>
    asciiAlphanumeric c || "._-:/".toList.contains c

theorem registry_registrable : ∀ entry ∈ TASK_REGISTRY, registrable entry = true := by
  decide +kernel

/-- An ASCII text has as many bytes as UTF-16 units. -/
theorem utf8ByteSize_of_ascii {value : String} (plain : ∀ c ∈ value.toList, ascii c = true) :
    value.utf8ByteSize = value.length := by
  have encoded := encode_ascii plain
  rw [String.ofList_toList] at encoded
  rw [← length_encode, encoded, List.length_map, String.length_toList]

theorem ascii_of_visible {c : Char} (h : visible c = true) : ascii c = true := by
  have upper : c.toNat ≤ '~'.toNat := (of_decide_eq_true h).2
  exact decide_eq_true (Nat.lt_of_le_of_lt upper (by decide))

theorem parseIdempotencyKey_valid {request : Request} {key : String}
    (h : parseIdempotencyKey request = .ok key) : validateIdempotencyKey key = .ok () := by
  rw [parseIdempotencyKey] at h
  split at h
  · cases h
  rename_i value present
  split at h
  · cases h
  rename_i good
  cases h
  rw [not_or, Bool.not_eq_true, Bool.not_eq_false', List.all_eq_true] at good
  obtain ⟨short, characters⟩ := good
  have nonempty := of_decide_eq_true (Option.filter_eq_some_iff.mp present).2
  have shown : ∀ c ∈ key.toList, visible c = true := by
    intro c mem
    rcases Bool.or_eq_true_iff.mp (characters c mem) with alphanumeric | mark
    · exact visible_of_alphanumeric alphanumeric
    · rw [List.contains_iff_mem] at mark
      exact List.all_eq_true.mp (by decide : "._:-".toList.all visible = true) c mark
  have size := utf8ByteSize_of_ascii fun c mem => ascii_of_visible (shown c mem)
  have units : key.length ≤ utf16Length key := by
    rw [utf16Length, String.length_toList]
    exact Nat.le_add_right _ _
  rw [validateIdempotencyKey, if_neg (by rw [not_or]; exact ⟨nonempty, by omega⟩), if_neg]
  rw [Bool.not_eq_true, Bool.not_eq_false', List.all_eq_true]
  intro c mem
  refine Bool.or_eq_true_iff.mpr ((Bool.or_eq_true_iff.mp (characters c mem)).imp_right ?_)
  intro mark
  rw [List.contains_iff_mem] at mark
  exact List.all_eq_true.mp
    (by decide : ("._:-".toList.all fun c => "._-:".toList.contains c) = true) c mark

/-- `crypto.subtle.digest` in hex. -/
def Digests (web : WebRuntime) : Prop :=
  ∀ text, (web.sha256Hex text).utf8ByteSize = 64 ∧
    ∀ c ∈ (web.sha256Hex text).toList, hexDigit c = true

theorem valid_of_admissible {web : WebRuntime} (digests : Digests web) {config : GatewayConfig}
    (limit : 1 ≤ config.maxActiveTasks ∧ config.maxActiveTasks ≤ MAX_ACTIVE_TASK_POLICY_LIMIT)
    {request : Request} {r : EnqueueRequest} {parsed : PublicTaskRequest} {policy : TaskPolicy}
    (asked : AsRequested web request r parsed policy) (within : WithinPolicy config r policy) :
    Valid r ∧ r.body.utf8ByteSize ≤ 1024 * 1024 := by
  obtain ⟨before, after, entries, _⟩ := List.lookup_eq_some_iff.mp asked.registered
  have good := registry_registrable (parsed.type, policy) (by simp [entries])
  rw [registrable, Bool.and_eq_true, decide_eq_true_eq, List.all_eq_true] at good
  obtain ⟨⟨named, nameSize, kinded, kindSize, payload, minPriority, maxPriority, retries⟩,
    characters⟩ := good
  dsimp only at named nameSize kinded kindSize payload minPriority maxPriority retries characters
  have priority := within.priority
  have maxRetries := within.maxRetries
  have bodySize := within.payload
  refine ⟨⟨?_, ?_, ?_, ?_, ?_, ?_, ?_, ?_, ?_⟩, by omega⟩
  · rwa [asked.taskName]
  · rwa [asked.taskType]
  · rw [asked.taskName, validateIdentifier, if_neg (by rw [not_or]; exact ⟨named, by omega⟩), if_neg]
    rw [Bool.not_eq_true, Bool.not_eq_false', List.all_eq_true]
    exact fun c mem => characters c (List.mem_append_left _ mem)
  · rw [asked.taskType, validateIdentifier, if_neg (by rw [not_or]; exact ⟨kinded, by omega⟩), if_neg]
    rw [Bool.not_eq_true, Bool.not_eq_false', List.all_eq_true]
    exact fun c mem => characters c (List.mem_append_right _ mem)
  · exact parseIdempotencyKey_valid asked.key
  · rw [asked.fingerprint, requestFingerprint, validateRequestFingerprint, if_neg]
    rw [not_or, not_not, Bool.not_eq_true, Bool.not_eq_false', List.all_eq_true]
    exact digests _
  · rw [within.maxActiveTasks]
    exact limit
  · omega
  · omega

/-! ### From the public request to the stored task -/

/-- The statuses with which the daemon answers an admitted submission: accepted, the
conflict, a full queue, a failure of its own. -/
def admissionStatuses : List Nat := [202, 409, 503, 500]

/-- What an admitted submission comes to at the daemon that receives it. -/
structure Accepted (web : WebRuntime) (request : Request) (r : EnqueueRequest)
    (received : HttpRequest) (now : Seconds) (db : Db) : Prop where
  answer : (SubmissionRoute.routeEnqueue now received db).1.status ∈ admissionStatuses
  asRequested : ∃ parsed policy, AsRequested web request r parsed policy
  stored : ∀ taskId, (exec (r.op now) db).1 = .admission (.created taskId) →
    (SubmissionRoute.routeEnqueue now received db).2.tasks.find? taskId =
      some (SyncQueue.newTask now r.taskName r.taskType r.body r.priority r.maxRetries taskId) ∧
    (SubmissionRoute.routeEnqueue now received db).2.idempotency.find? r.idempotencyKey =
      some ⟨r.idempotencyKey, r.requestFingerprint, taskId, now⟩

deriving instance DecidableEq for EnqueueRequest

def sampleDigest : String := String.ofList (List.replicate 64 'a')

def sampleWeb : WebRuntime :=
  { Runtime.reading [("submit", .obj [("type", .str "hash.compute"), ("payload", .null)])] with
    number := fun _ => none
    sha256Hex := fun _ => sampleDigest
    hmac := fun _ _ => []
    parseBytes := fun _ => none }

def sampleConfig : GatewayConfig := { apiToken := none, allowUnauthenticated := true }

def sampleRequest : Request where
  method := "POST"
  pathname := "/v1/tasks"
  header := fun name =>
    if name = "content-type" then some "application/json"
    else if name = "idempotency-key" then some "key-1"
    else none
  body := "submit"

end AdmissionLanguage
