import TaskQueQue.AdmissionLanguage
import TaskQueQue.CanonicalJson

/-!
# Fingerprints identify requests

The fingerprint of a public request is the digest of one canonical text. With the
defaults the gateway fills in, two requests have one fingerprint exactly if they ask
for the same task: under one idempotency key the daemon then replays the second, and
reports every other as a conflict.
-/

namespace RequestFingerprints

open QueueValues QueueTables QueueRuns GatewayValues CapabilityAuth LocalApi TaskFacade
open JsonText CanonicalJson AdmissionLanguage
open SubmissionRoute (Valid)

def priorityOf (parsed : PublicTaskRequest) : Int := parsed.priority.getD 0

def maxRetriesOf (parsed : PublicTaskRequest) (policy : TaskPolicy) : Int :=
  parsed.maxRetries.getD (min 3 policy.maxRetries)

/-- The value a fingerprint is taken of. -/
def requestJson (parsed : PublicTaskRequest) (policy : TaskPolicy) : Json :=
  .obj [("contract_version", .num 1), ("type", .str parsed.type),
    ("queue_kind", .str policy.queueKind), ("priority", .num (priorityOf parsed)),
    ("max_retries", .num (maxRetriesOf parsed policy)), ("payload", parsed.payload)]

/-- The fingerprint of a request, with the defaults filled in. -/
def fingerprintOf (web : WebRuntime) (parsed : PublicTaskRequest) (policy : TaskPolicy) : String :=
  requestFingerprint web parsed.type policy.queueKind (priorityOf parsed)
    (maxRetriesOf parsed policy) parsed.payload

theorem fingerprintOf_eq (web : WebRuntime) (parsed : PublicTaskRequest) (policy : TaskPolicy) :
    fingerprintOf web parsed policy =
      web.sha256Hex (canonicalJson web (requestJson parsed policy)) := rfl

/-- The stored texts of two payloads denote one value, up to the order of keys. -/
def SamePayload (web : WebRuntime) (payload payload' : Json) : Prop :=
  ∃ value value', web.parse (web.stringify payload) = some value ∧
    web.parse (web.stringify payload') = some value' ∧ Same value value'

/-- Two requests ask for the same task. -/
structure Identical (web : WebRuntime) (parsed parsed' : PublicTaskRequest)
    (policy policy' : TaskPolicy) : Prop where
  type : parsed.type = parsed'.type
  queueKind : policy.queueKind = policy'.queueKind
  priority : priorityOf parsed = priorityOf parsed'
  maxRetries : maxRetriesOf parsed policy = maxRetriesOf parsed' policy'
  payload : SamePayload web parsed.payload parsed'.payload

section Requests
variable {web : WebRuntime} {format : NumberFormat} {request : Request}
variable {parsed parsed' : PublicTaskRequest} {policy policy' : TaskPolicy}

theorem exact_integer {value : Option Json} {n : Int}
    (normal : ∀ json ∈ value, JsonText.Normal format json) (h : Json.integer? value = some n) :
    format.exact (n : ℚ) := by
  unfold Json.integer? at h
  split at h
  · rename_i q
    split at h
    · rename_i whole
      cases h
      have held := normal _ rfl
      rw [JsonText.Normal] at held
      rwa [Rat.coe_int_num_of_den_eq_one whole]
    · cases h
  · cases h

/-- What a parsed request holds can be written and read back. -/
structure Held (format : NumberFormat) (parsed : PublicTaskRequest) (policy : TaskPolicy) :
    Prop where
  payload : JsonText.Normal format parsed.payload
  priority : format.exact (priorityOf parsed : ℚ)
  maxRetries : format.exact (maxRetriesOf parsed policy : ℚ)

theorem held_of_parsed (keeps : KeepsJson web format)
    (h : parsePublicTaskRequest web request = .ok parsed)
    (registered : getTaskPolicy TASK_REGISTRY parsed.type = some policy) :
    Held format parsed policy := by
  obtain ⟨fields, body, _, payload, priority, maxRetries⟩ := parsePublicTaskRequest_ok h
  have normal := keeps.parsed _ _ body
  have field : ∀ name, ∀ json ∈ (Json.obj fields).field name, JsonText.Normal format json :=
    fun name json found => normal_field normal found
  have small : ∀ n : Int, n.natAbs ≤ 3 → format.exact (n : ℚ) := fun n bound =>
    (format.integer n (by rw [MAX_SAFE_INTEGER]; omega)).1
  refine ⟨normal_field normal payload, ?_, ?_⟩
  · unfold priorityOf
    cases shown : parsed.priority with
    | none => exact small 0 (by decide)
    | some n => exact exact_integer (field "priority") (priority.symm.trans shown)
  · unfold maxRetriesOf
    cases shown : parsed.maxRetries with
    | none =>
      have bounds : ∀ entry ∈ TASK_REGISTRY, 0 ≤ entry.2.maxRetries := by decide
      obtain ⟨before, after, entries, _⟩ := List.lookup_eq_some_iff.mp registered
      have mem : (parsed.type, policy) ∈ TASK_REGISTRY := by
        rw [entries]
        exact List.mem_append_right _ List.mem_cons_self
      have least := bounds _ mem
      dsimp only at least
      exact small _ (by rw [Option.getD_none]; omega)
    | some n => exact exact_integer (field "max_retries") (maxRetries.symm.trans shown)

theorem Held.exact (held : Held format parsed policy) :
    Exact format (requestJson parsed policy) := by
  have one : format.exact ((1 : Int) : ℚ) := (format.integer 1 (by decide)).1
  unfold requestJson
  rw [Exact, exactFields_iff]
  simp only [List.forall_mem_cons, Exact]
  exact ⟨one, trivial, trivial, held.priority, held.maxRetries, held.payload.exact,
    fun field mem => absurd mem List.not_mem_nil⟩

theorem Held.distinct (held : Held format parsed policy) :
    Distinct (requestJson parsed policy) := by
  unfold requestJson
  rw [Distinct]
  have keys : ["contract_version", "type", "queue_kind", "priority", "max_retries",
      "payload"].Nodup := by
    decide
  exact ⟨keys, trivial, trivial, trivial, trivial, trivial, distinct_of_normal held.payload,
    trivial⟩

theorem samePayload_iff (keeps : KeepsJson web format) {payload payload' : Json}
    (normal : JsonText.Normal format payload) (normal' : JsonText.Normal format payload') :
    SamePayload web payload payload' ↔ Same payload payload' := by
  unfold SamePayload
  rw [keeps.back _ normal, keeps.back _ normal']
  constructor
  · rintro ⟨_, _, ⟨⟩, ⟨⟩, same⟩
    exact same
  · intro same
    exact ⟨_, _, rfl, rfl, same⟩

theorem sameField_iff {fields : List (String × Json)} {key : String} {value value' : Json}
    (found : fields.lookup key = some value') :
    (∃ value', fields.lookup key = some value' ∧ Same value value') ↔ Same value value' := by
  rw [found]
  constructor
  · rintro ⟨_, ⟨⟩, same⟩
    exact same
  · exact fun same => ⟨_, rfl, same⟩

/-- The canonical values of two requests are the same exactly if the requests are. -/
theorem same_requestJson_iff (keeps : KeepsJson web format) (held : Held format parsed policy)
    (held' : Held format parsed' policy') :
    Same (requestJson parsed policy) (requestJson parsed' policy') ↔
      Identical web parsed parsed' policy policy' := by
  unfold requestJson
  rw [Same, SameFields, SameFields, SameFields, SameFields, SameFields, SameFields, SameFields,
    sameField_iff rfl, sameField_iff rfl, sameField_iff rfl, sameField_iff rfl, sameField_iff rfl,
    sameField_iff rfl, Same, Same, Same, Same, Same, Rat.intCast_inj, Rat.intCast_inj,
    ← samePayload_iff keeps held.payload held'.payload]
  constructor
  · rintro ⟨_, _, type, queueKind, priority, maxRetries, payload, _⟩
    exact ⟨type, queueKind, priority, maxRetries, payload⟩
  · rintro ⟨type, queueKind, priority, maxRetries, payload⟩
    exact ⟨rfl, rfl, type, queueKind, priority, maxRetries, payload, trivial⟩

end Requests

/-! ### A key that is used again -/

def idempotencyConflict : Response :=
  .coded 409 "idempotency_conflict" "Idempotency-Key was already used for a different task request"

/-- Under a key that is held, the daemon compares fingerprints and does nothing else. -/
theorem exec_held {r : EnqueueRequest} (valid : Valid r) {now : Seconds} {db : Db}
    {row : IdempotencyRow} (held : db.idempotency.find? r.idempotencyKey = some row) :
    (exec (r.op now) db).1 =
      if row.requestFingerprint = r.requestFingerprint then .admission (.replayed row.taskId)
      else .admission .conflict := by
  have limit := valid.maxActiveTasks.1
  have checked : Idempotency.enqueueBounded now r.idempotencyKey r.requestFingerprint r.taskName
      r.taskType r.body r.priority r.maxRetries r.maxActiveTasks db =
      .ok (if row.requestFingerprint = r.requestFingerprint then .replayed row.taskId
        else .conflict, db) := by
    unfold Idempotency.enqueueBounded
    rw [if_neg (by omega), held]
    dsimp only
    split
    · rfl
    · rfl
  simp only [EnqueueRequest.op, exec]
  rcases answer_cases Reply.admission (Idempotency.enqueueBounded now r.idempotencyKey
    r.requestFingerprint r.taskName r.taskType r.body r.priority r.maxRetries r.maxActiveTasks) db
    with ⟨outcome, db', run, answered⟩ | ⟨err, failed, _⟩
  · rw [checked] at run
    cases run
    rw [answered]
    split
    · rfl
    · rfl
  · rw [checked] at failed
    cases failed

/-- Only the daemon's own conflict is answered as one. -/
theorem publicAcceptance_conflict_iff {upstream : Response} :
    publicAcceptance upstream = idempotencyConflict ↔ upstream.status = 409 := by
  have other : ∀ response : Response, response.status ≠ 409 → response ≠ idempotencyConflict := by
    rintro response status rfl
    exact status rfl
  unfold publicAcceptance
  split
  · rename_i conflict
    exact iff_of_true rfl conflict
  rename_i status
  refine iff_of_false ?_ status
  split
  · exact other _ (by decide)
  split
  · exact other _ (by decide)
  split
  · exact other _ (by decide)
  split
  · split
    · exact other _ (by decide)
    · exact other _ (show 202 ≠ 409 by decide)
  · exact other _ (by decide)

theorem conflict_iff {r : EnqueueRequest} (valid : Valid r) {now : Seconds} {db : Db}
    {row : IdempotencyRow} (held : db.idempotency.find? r.idempotencyKey = some row) :
    publicAcceptance (LocalApi.routeEnqueue now r db).1 = idempotencyConflict ↔
      row.requestFingerprint ≠ r.requestFingerprint := by
  rw [publicAcceptance_conflict_iff, LocalApi.routeEnqueue, SubmissionRoute.validate_of_valid valid]
  simp only [exec_held valid held]
  by_cases same : row.requestFingerprint = r.requestFingerprint
  · rw [if_pos same]
    exact iff_of_false (show 202 ≠ 409 by decide) (not_not_intro same)
  · rw [if_neg same]
    exact iff_of_true rfl same

/-- Requests have one fingerprint exactly if they ask for the same task; under a key that
the first holds, the second is a conflict exactly if they do not. -/
theorem fingerprints_identify_requests (web : WebRuntime) (format : NumberFormat)
    (keeps : KeepsJson web format) (request request' : Request)
    (parsed parsed' : PublicTaskRequest) (policy policy' : TaskPolicy)
    (reads : parsePublicTaskRequest web request = .ok parsed)
    (reads' : parsePublicTaskRequest web request' = .ok parsed')
    (registered : getTaskPolicy TASK_REGISTRY parsed.type = some policy)
    (registered' : getTaskPolicy TASK_REGISTRY parsed'.type = some policy')
    (collisionFree : web.sha256Hex (canonicalJson web (requestJson parsed policy)) =
        web.sha256Hex (canonicalJson web (requestJson parsed' policy')) →
      canonicalJson web (requestJson parsed policy) =
        canonicalJson web (requestJson parsed' policy')) :
    (fingerprintOf web parsed policy = fingerprintOf web parsed' policy' ↔
      Identical web parsed parsed' policy policy') ∧
    (Digests web → ∀ config r r',
      1 ≤ config.maxActiveTasks ∧ config.maxActiveTasks ≤ MAX_ACTIVE_TASK_POLICY_LIMIT →
      admissible web TASK_REGISTRY config request = .ok r →
      admissible web TASK_REGISTRY config request' = .ok r' →
      ∀ conditions s bucket row,
        s.bucket.tryAcquire conditions.performanceMs = (true, bucket) →
        conditions.delivery 0 = .answered →
        s.db.idempotency.find? r'.idempotencyKey = some row →
        row.requestFingerprint = r.requestFingerprint →
        ((handleCreateTask web TASK_REGISTRY config request' conditions s).1 =
            idempotencyConflict ↔ ¬ Identical web parsed parsed' policy policy')) := by
  have held := held_of_parsed keeps reads registered
  have held' := held_of_parsed keeps reads' registered'
  have identify : fingerprintOf web parsed policy = fingerprintOf web parsed' policy' ↔
      Identical web parsed parsed' policy policy' := by
    rw [fingerprintOf_eq, fingerprintOf_eq, ← same_requestJson_iff keeps held held',
      ← canonicalJson_eq_iff keeps held.exact held'.exact held.distinct held'.distinct]
    exact ⟨collisionFree, congrArg web.sha256Hex⟩
  refine ⟨identify, ?_⟩
  intro digests config r r' limit admitted admitted' conditions s bucket row token delivered found
    stored
  obtain ⟨parsed₁, policy₁, asked, _⟩ := admissible_asRequested admitted
  obtain ⟨parsed₂, policy₂, asked', within'⟩ := admissible_asRequested admitted'
  obtain ⟨valid', _⟩ := valid_of_admissible digests limit asked' within'
  cases asked.reads.symm.trans reads
  cases asked.registered.symm.trans registered
  cases asked'.reads.symm.trans reads'
  cases asked'.registered.symm.trans registered'
  have fingerprint : r.requestFingerprint = fingerprintOf web parsed policy := by
    rw [asked.fingerprint, asked.priority, asked.maxRetries]
    rfl
  have fingerprint' : r'.requestFingerprint = fingerprintOf web parsed' policy' := by
    rw [asked'.fingerprint, asked'.priority, asked'.maxRetries]
    rfl
  have answer : (handleCreateTask web TASK_REGISTRY config request' conditions s).1 =
      publicAcceptance (LocalApi.routeEnqueue conditions.daemonClock r' s.db).1 := by
    rw [handleCreateTask, admitted']
    simp only [token, delivered, fetchWithTimeout, Option.map_some, Option.getD_some]
  rw [answer, conflict_iff valid' found, stored, fingerprint, fingerprint', Ne, identify]

/-! ### A request written twice -/

mutual

def decidableNormal : (value : Json) → Decidable (JsonText.Normal integers value)
  | .null => .isTrue trivial
  | .bool _ => .isTrue trivial
  | .str _ => .isTrue trivial
  | .num value => decidable_of_iff (value.den = 1) (by rw [JsonText.Normal]; rfl)
  | .arr items => @decidable_of_iff _ _ (by rw [JsonText.Normal]) (decidableNormalItems items)
  | .obj fields =>
    @decidable_of_iff _ ((fields.map Prod.fst).Pairwise Precedes ∧ NormalFields integers fields)
      (by rw [JsonText.Normal]) (@instDecidableAnd _ _ inferInstance (decidableNormalFields fields))

def decidableNormalItems : (items : List Json) → Decidable (NormalItems integers items)
  | [] => .isTrue trivial
  | item :: items => @decidable_of_iff _ (JsonText.Normal integers item ∧ NormalItems integers items)
      (by rw [NormalItems])
      (@instDecidableAnd _ _ (decidableNormal item) (decidableNormalItems items))

def decidableNormalFields :
    (fields : List (String × Json)) → Decidable (NormalFields integers fields)
  | [] => .isTrue trivial
  | (_, value) :: fields =>
    @decidable_of_iff _ (JsonText.Normal integers value ∧ NormalFields integers fields)
      (by rw [NormalFields])
      (@instDecidableAnd _ _ (decidableNormal value) (decidableNormalFields fields))

end

/-- A platform of whole numbers that reads texts in its own order, with the digest of the
sample's canonical text. -/
def orderedWeb : WebRuntime where
  parse text := (JsonText.read integers text.toList).filter fun value =>
    @decide _ (decidableNormal value)
  stringify value := String.ofList (render integers value)
  rowid _ := none
  number _ := none
  sha256Hex _ := "8656eeaedbf2344da2a1dcc0e5e7544f6e47cf4c4de89a72067815bf3f65089f"
  hmac _ _ := []
  parseBytes _ := none

theorem orderedWeb_keeps : KeepsJson orderedWeb integers where
  stringify _ _ := rfl
  parsed text value h := by
    obtain ⟨_, normal⟩ := Option.filter_eq_some_iff.mp h
    exact @of_decide_eq_true _ (decidableNormal value) normal
  back value normal := by
    change (JsonText.read integers (String.ofList (render integers value)).toList).filter _ = _
    rw [String.toList_ofList, read_render normal, Option.filter_some, if_pos]
    exact @decide_eq_true _ (decidableNormal value) normal

def submissionOf (payload : Json) : Request where
  method := "POST"
  pathname := "/v1/tasks"
  header := fun name => if name = "content-type" then some "application/json" else none
  body := orderedWeb.stringify (.obj [("type", .str "hash.compute"), ("payload", payload)])

def hashOf (payload : Json) : PublicTaskRequest := ⟨"hash.compute", payload, none, none⟩

theorem reads_hash {payload : Json} (normal : JsonText.Normal integers payload)
    (bounded : boundedBody orderedWeb (submissionOf payload) none =
      .ok (submissionOf payload).body) :
    parsePublicTaskRequest orderedWeb (submissionOf payload) = .ok (hashOf payload) := by
  have written : JsonText.Normal integers (.obj [("type", .str "hash.compute"), ("payload", payload)]) := by
    have keys : ["type", "payload"].Pairwise Precedes := by decide
    rw [JsonText.Normal, NormalFields, NormalFields, NormalFields]
    exact ⟨keys, trivial, normal, trivial⟩
  have parsed : orderedWeb.parse (submissionOf payload).body =
      some (.obj [("type", .str "hash.compute"), ("payload", payload)]) :=
    orderedWeb_keeps.back _ written
  unfold parsePublicTaskRequest
  have undeclared : ((submissionOf payload).header "content-length").filter
      (fun text => decide (text ≠ "")) = none := rfl
  rw [undeclared, bounded]
  simp only [parsed]
  rfl

def ascending : Json := .obj [("a", .num 2), ("b", .num 1)]

def descending : Json := .obj [("b", .num 1), ("a", .num 2)]

theorem ok_of_toOption {ε α : Type} {x : Except ε α} {value : α} (h : x.toOption = some value) :
    x = .ok value := by
  cases x with
  | error => cases h
  | ok other =>
    cases h
    rfl

/-- One payload with its keys in two orders has one fingerprint. -/
theorem fingerprints_identify_requests_reordered :
    fingerprintOf orderedWeb (hashOf ascending) (boundedPolicy "cpu") =
      fingerprintOf orderedWeb (hashOf descending) (boundedPolicy "cpu") := by
  have first : boundedBody orderedWeb (submissionOf ascending) none =
      .ok (submissionOf ascending).body := ok_of_toOption (by decide +kernel)
  have second : boundedBody orderedWeb (submissionOf descending) none =
      .ok (submissionOf descending).body := ok_of_toOption (by decide +kernel)
  have normal : JsonText.Normal integers ascending := ⟨by decide, rfl, rfl, trivial⟩
  have normal' : JsonText.Normal integers descending := ⟨by decide, rfl, rfl, trivial⟩
  have same : Same ascending descending := by
    refine ⟨rfl, ⟨_, rfl, ?_⟩, ⟨_, rfl, ?_⟩, trivial⟩
    · rw [Same]
    · rw [Same]
  have identical : Identical orderedWeb (hashOf ascending) (hashOf descending)
      (boundedPolicy "cpu") (boundedPolicy "cpu") :=
    ⟨rfl, rfl, rfl, rfl, _, _, orderedWeb_keeps.back _ normal, orderedWeb_keeps.back _ normal', same⟩
  have held := held_of_parsed orderedWeb_keeps (reads_hash normal first)
    (show getTaskPolicy TASK_REGISTRY "hash.compute" = some (boundedPolicy "cpu") from rfl)
  have held' := held_of_parsed orderedWeb_keeps (reads_hash normal' second)
    (show getTaskPolicy TASK_REGISTRY "hash.compute" = some (boundedPolicy "cpu") from rfl)
  exact (fingerprints_identify_requests orderedWeb integers orderedWeb_keeps
    (submissionOf ascending) (submissionOf descending) (hashOf ascending) (hashOf descending)
    (boundedPolicy "cpu") (boundedPolicy "cpu") (reads_hash normal first)
    (reads_hash normal' second) rfl rfl fun _ => (canonicalJson_eq_iff orderedWeb_keeps held.exact
      held'.exact held.distinct held'.distinct).mpr
        ((same_requestJson_iff orderedWeb_keeps held held').mpr identical)).1.mpr identical

end RequestFingerprints
