import TaskQueQue.GatewayConfig
import TaskQueQue.RequestFingerprints
import TaskQueQue.SerializedResults

/-!
# Calls of a remote agent

A worker forwards the input of a task to a provider and wraps the provider's answer into the
result of the task. The answer is bounded as it arrives, at 256 KiB of its bytes; the result is
bounded by the same number when it is sent, with the wrapping and with the answer written anew.
-/

namespace RemoteAgents

open GatewayValues UrlValues JsonText JsonStrings CanonicalJson SerializedResults

def MAX_REMOTE_INPUT_BYTES : Nat := 256 * 1024

def MAX_REMOTE_RESPONSE_BYTES : Nat := 256 * 1024

/-- `/^[A-Za-z0-9._:-]{1,128}$/`. -/
def safeId (value : String) : Bool :=
  decide (1 ≤ value.length ∧ value.length ≤ 128) &&
    value.toList.all fun c => asciiAlphanumeric c || ['.', '_', ':', '-'].contains c

structure RemoteAgentInvocation where
  input : Json
  requestId : Option String

structure RemoteAgentConfig where
  endpoint : String
  providerId : String
  bearerToken : Option String := none
  timeoutMs : Int

structure RemoteAgentResult where
  taskId : Int
  providerId : String
  requestId : Option String
  result : Json
  metaFields : Option Json

inductive RemoteAgentError
  | payload (message : String)
  | call (message : String)
  | other (message : String)
deriving DecidableEq

/-- What the provider is sent. -/
structure RemoteRequest where
  url : String
  headers : List (String × String)
  body : String

/-- The answer; its body is a stream that may break off after some chunks. -/
structure RemoteResponse where
  ok : Bool
  status : Nat
  contentType : Option String
  body : Option (List (List UInt8) × Option String)

/-- The platform, its URLs with their texts, and the network; a call that is aborted or timed
out fails like any other. -/
structure Environment where
  web : WebRuntime
  parseUrl : String → Option (Url × String)
  fetch : RemoteRequest → Except String RemoteResponse

section Calls
variable (env : Environment)

def normalizeRemoteEndpoint (raw : String) : Except String String :=
  match env.parseUrl raw with
  | none => .error "Invalid URL"
  | some (url, href) =>
    let host := url.hostname.map Char.toLower
    let loopback := ["127.0.0.1", "localhost", "[::1]", "::1"].contains host
    if url.protocol ≠ "https:" ∧ ¬ (url.protocol = "http:" ∧ loopback) then
      .error "REMOTE_AGENT_ENDPOINT must use https, or http on loopback only"
    else if url.username ≠ "" ∨ url.password ≠ "" ∨ url.search ≠ "" ∨ url.hash ≠ "" then
      .error "REMOTE_AGENT_ENDPOINT must not contain credentials, query, or fragment"
    else .ok href

def validateRemoteAgentConfig (config : RemoteAgentConfig) : Except String RemoteAgentConfig := do
  let endpoint ← normalizeRemoteEndpoint env config.endpoint
  if !safeId config.providerId then
    .error "REMOTE_AGENT_PROVIDER_ID must be a safe 1-128 character identifier"
  else if config.timeoutMs < 100 ∨ 300000 < config.timeoutMs then
    .error "REMOTE_AGENT_REQUEST_TIMEOUT_MS must be between 100 and 300000"
  else if config.bearerToken.any fun token => decide (token = "" ∨ 4096 < utf16Length token ∨
      '\r' ∈ token.toList ∨ '\n' ∈ token.toList) then
    .error "REMOTE_AGENT_BEARER_TOKEN is invalid"
  else .ok { config with endpoint }

def parseRemoteAgentInvocation (raw : String) : Except String RemoteAgentInvocation :=
  if MAX_REMOTE_INPUT_BYTES < raw.utf8ByteSize then .error "remote agent payload exceeds 256 KiB"
  else
    match env.web.parse raw with
    | none => .error "payload must be valid JSON"
    | some value =>
      match value.keys with
      | none => .error "payload must be a JSON object"
      | some keys =>
        match keys.find? fun key => !(["input", "request_id"].contains key) with
        | some key => .error ("unsupported payload field: " ++ key)
        | none =>
          match value.field "input", value.field "request_id" with
          | none, _ => .error "payload.input is required"
          | some input, none => .ok ⟨input, none⟩
          | some input, some (.str requestId) =>
            if safeId requestId then .ok ⟨input, some requestId⟩
            else .error "payload.request_id must be a safe 1-128 character identifier"
          | some _, some _ =>
            .error "payload.request_id must be a safe 1-128 character identifier"

/-- The chunks of a stream, after so many bytes. -/
def readChunks : Nat → List (List UInt8) → Except RemoteAgentError (List UInt8)
  | _, [] => .ok []
  | total, chunk :: rest =>
    if MAX_REMOTE_RESPONSE_BYTES < total + chunk.length then
      .error (.call "remote agent response exceeds 256 KiB")
    else (readChunks (total + chunk.length) rest).map (chunk ++ ·)

/-- `TextDecoder`, without a byte order mark; `none` for what is not UTF-8. -/
def decodeText (bytes : List UInt8) : Option String :=
  (String.fromUTF8? ⟨bytes.toArray⟩).map fun text =>
    if text.toList.head? = some '\uFEFF' then String.ofList text.toList.tail else text

/-- The value of a response's text. -/
def parseResponse (text : String) : Except RemoteAgentError Json :=
  match env.web.parse text with
  | none => .error (.call "remote agent response is not valid JSON")
  | some value =>
    match value.keys with
    | none => .error (.call "remote agent response must be a JSON object")
    | some keys =>
      match keys.find? fun key => !(["result", "meta"].contains key) with
      | some key => .error (.call ("unsupported remote response field: " ++ key))
      | none =>
        if value.field "result" = none then
          .error (.call "remote agent response.result is required")
        else if (value.field "meta").any fun extra => decide (extra.keys = none) then
          .error (.call "remote agent response.meta must be a JSON object")
        else .ok value

def readBoundedJson (response : RemoteResponse) : Except RemoteAgentError Json :=
  let contentType := ((response.contentType.getD "").map Char.toLower).toList
  if !contentType.tails.any fun tail => "application/json".toList.isPrefixOf tail then
    .error (.call "remote agent response must be application/json")
  else
    match response.body with
    | none => .error (.call "remote agent response body is missing")
    | some (chunks, broken) => do
      let bytes ← readChunks 0 chunks
      match broken, decodeText bytes with
      | some message, _ => .error (.other message)
      | none, none => .error (.call "remote agent response is not valid UTF-8")
      | none, some text => parseResponse env text

/-- The call made for a task. -/
def remoteRequest (taskId : Int) (invocation : RemoteAgentInvocation)
    (config : RemoteAgentConfig) : RemoteRequest where
  url := config.endpoint
  headers := [("Accept", "application/json"), ("Content-Type", "application/json"),
      ("Idempotency-Key", "task-queue-" ++ toString taskId),
      ("X-Task-Queue-Task-Id", toString taskId)] ++
    config.bearerToken.toList.map fun token => ("Authorization", "Bearer " ++ token)
  body := env.web.stringify (.obj ([("schema_version", .num 1), ("task_id", .num taskId)] ++
    (invocation.requestId.toList.map fun requestId => ("request_id", .str requestId)) ++
      [("input", invocation.input)]))

/-- The result that wraps an answer. -/
def remoteAgentResult (taskId : Int) (providerId : String) (requestId : Option String)
    (remote : Json) : RemoteAgentResult where
  taskId := taskId
  providerId := providerId
  requestId := requestId
  result := (remote.field "result").getD .null
  metaFields := remote.field "meta"

def RemoteAgentResult.fields (r : RemoteAgentResult) : List (String × Json) :=
  [("schema_version", .num 1), ("task_id", .num r.taskId), ("provider_id", .str r.providerId)] ++
    (r.requestId.toList.map fun requestId => ("request_id", .str requestId)) ++
    [("result", r.result)] ++ r.metaFields.toList.map fun extra => ("meta", extra)

def invokeRemoteAgent (taskId : Int) (rawPayload : String) (rawConfig : RemoteAgentConfig) :
    Except RemoteAgentError RemoteAgentResult :=
  if MAX_SAFE_INTEGER < taskId.natAbs ∨ taskId ≤ 0 then
    .error (.other "task id must be a positive safe integer")
  else do
    let invocation ← (parseRemoteAgentInvocation env rawPayload).mapError .payload
    let config ← (validateRemoteAgentConfig env rawConfig).mapError .other
    match env.fetch (remoteRequest env taskId invocation config) with
    | .error message => .error (.call ("remote agent request failed: " ++ message))
    | .ok response =>
      if !response.ok then
        .error (.call ("remote agent returned HTTP " ++ toString response.status))
      else
        match readBoundedJson env response with
        | .error (.call message) => .error (.call message)
        | .error (.payload message) | .error (.other message) =>
          .error (.call ("remote agent request failed: " ++ message))
        | .ok remote => .ok (remoteAgentResult taskId config.providerId invocation.requestId remote)

end Calls

/-! ### The size of a result -/

/-- The bytes of the wrapped result: what the wrapping takes, and the answer's parts as they are
written anew. -/
def wrappedBytes (web : WebRuntime) (taskId : Int) (providerId : String)
    (requestId : Option String) (remote : Json) : Nat :=
  58 + (toString taskId).length + providerId.length +
    (requestId.elim 0 fun requestId => 16 + requestId.length) +
    (web.stringify ((remote.field "result").getD .null)).utf8ByteSize +
    (remote.field "meta").elim 0 fun extra => 8 + (web.stringify extra).utf8ByteSize

section Sizes
variable {web : WebRuntime} {format : NumberFormat}

theorem ascii_of_numberChar {c : Char} (h : numberChar c = true) :
    RequestRendering.ascii c = true := by
  rcases Bool.or_eq_true_iff.mp h with digit | mark
  · exact AdmissionLanguage.ascii_of_visible (AdmissionLanguage.visible_of_digit digit)
  · rw [List.contains_iff_mem] at mark
    exact List.all_eq_true.mp (by decide : "+-.eE".toList.all RequestRendering.ascii = true) c mark

theorem safe_unescaped {value : String} (safe : safeId value = true) :
    ∀ c ∈ value.toList, unescaped c = true := by
  have between : ∀ {c low high : Char}, low ≤ c ∧ c ≤ high → '0' ≤ low → high ≤ 'z' →
      c ≠ '\\' → unescaped c = true := by
    intro c low high within from' upto solid
    have lower : '0'.toNat ≤ c.toNat := Char.le_trans from' within.1
    have upper : c.toNat ≤ 'z'.toNat := Char.le_trans within.2 upto
    have open' : c ≠ '"' := by
      rintro rfl
      exact absurd lower (by decide)
    refine decide_eq_true ⟨Nat.le_trans (by decide) lower, Nat.lt_of_le_of_lt upper (by decide),
      open', solid⟩
  intro c mem
  rw [safeId, Bool.and_eq_true, List.all_eq_true] at safe
  rcases Bool.or_eq_true_iff.mp (safe.2 c mem) with own | mark
  · have solid : c ≠ '\\' := by
      rintro rfl
      exact absurd own (by decide)
    rw [asciiAlphanumeric, Bool.or_eq_true, Bool.or_eq_true, decide_eq_true_eq, decide_eq_true_eq,
      decide_eq_true_eq] at own
    rcases own with (lower | upper) | digit
    · exact between lower (by decide) (by decide) solid
    · exact between upper (by decide) (by decide) solid
    · exact between digit (by decide) (by decide) solid
  · rw [List.contains_iff_mem] at mark
    exact List.all_eq_true.mp (by decide : ['.', '_', ':', '-'].all unescaped = true) c mark

theorem byteSize_safe {value : String} (safe : safeId value = true) :
    byteSize (render format (.str value)) = 2 + value.length := by
  rw [render, byteSize_quote (safe_unescaped safe), String.length_toList]

theorem fieldSize_plain {key : String} {length : Nat} (plain : (key.toList.all unescaped) = true)
    (own : key.length = length) (value : Json) :
    fieldSize format (key, value) = 4 + length + byteSize (render format value) := by
  rw [fieldSize, byteSize_quote (List.all_eq_true.mp plain), String.length_toList, own]
  dsimp only
  omega

theorem byteSize_integer {n : Int} (small : n.natAbs ≤ MAX_SAFE_INTEGER) :
    byteSize (render format (.num n)) = (toString n).length := by
  obtain ⟨exact', shape⟩ := format.integer n small
  rw [render, byteSize_ascii fun c mem => ascii_of_numberChar ((format.shape _ exact').2 c mem),
    shape, String.length_toList]

theorem normal_result {remote : Json} (normal : JsonText.Normal format remote) :
    JsonText.Normal format ((remote.field "result").getD .null) := by
  cases found : remote.field "result" with
  | none => trivial
  | some value => exact normal_field normal found

theorem normalFields_of {fields : List (String × Json)}
    (each : ∀ field ∈ fields, JsonText.Normal format field.2) : NormalFields format fields := by
  induction fields with
  | nil => trivial
  | cons field fields ih =>
    obtain ⟨own, later⟩ := List.forall_mem_cons.mp each
    exact ⟨own, ih later⟩

theorem normal_fields {taskId : Int} (small : taskId.natAbs ≤ MAX_SAFE_INTEGER)
    (providerId : String) (requestId : Option String) {remote : Json}
    (normal : JsonText.Normal format remote) : JsonText.Normal format
      (.obj (remoteAgentResult taskId providerId requestId remote).fields) := by
  have order : ["schema_version", "task_id", "provider_id", "request_id", "result", "meta"].Pairwise
      Precedes := by
    decide
  rw [JsonText.Normal]
  constructor
  · refine order.sublist ?_
    dsimp only [remoteAgentResult, RemoteAgentResult.fields]
    cases requestId with
    | none =>
      cases remote.field "meta" with
      | none =>
        change ["schema_version", "task_id", "provider_id", "result"].Sublist _
        decide
      | some _ =>
        change ["schema_version", "task_id", "provider_id", "result", "meta"].Sublist _
        decide
    | some _ =>
      cases remote.field "meta" with
      | none =>
        change ["schema_version", "task_id", "provider_id", "request_id", "result"].Sublist _
        decide
      | some _ => exact List.Sublist.refl _
  · refine normalFields_of fun field mem => ?_
    rcases List.mem_append.mp mem with mem | extra
    · rcases List.mem_append.mp mem with mem | result
      · rcases List.mem_append.mp mem with fixed | request
        · rcases List.mem_cons.mp fixed with rfl | fixed
          · exact (format.integer 1 (by decide)).1
          rcases List.mem_cons.mp fixed with rfl | fixed
          · exact (format.integer taskId small).1
          · rw [List.mem_singleton.mp fixed]
            trivial
        · obtain ⟨_, _, rfl⟩ := List.mem_map.mp request
          trivial
      · rw [List.mem_singleton.mp result]
        exact normal_result normal
    · obtain ⟨value, held, rfl⟩ := List.mem_map.mp extra
      exact normal_field normal (Option.mem_toList.mp held)

theorem stringify_size (keeps : KeepsJson web format) {value : Json}
    (normal : JsonText.Normal format value) :
    (web.stringify value).utf8ByteSize = byteSize (render format value) := by
  rw [keeps.stringify value normal, byteSize]

theorem wrapped_size (keeps : KeepsJson web format) {taskId : Int}
    (small : taskId.natAbs ≤ MAX_SAFE_INTEGER) {providerId : String}
    (safe : safeId providerId = true) {requestId : Option String}
    (safeRequest : ∀ id ∈ requestId, safeId id = true) {remote : Json}
    (normal : JsonText.Normal format remote) :
    (web.stringify (.obj (remoteAgentResult taskId providerId requestId remote).fields)).utf8ByteSize
      = wrappedBytes web taskId providerId requestId remote := by
  have filled : (remoteAgentResult taskId providerId requestId remote).fields ≠ [] :=
    List.cons_ne_nil _ _
  rw [stringify_size keeps (normal_fields small providerId requestId normal), byteSize_object filled]
  have version : fieldSize format ("schema_version", .num 1) = 19 := by
    have one := @byteSize_integer format 1 (by decide)
    rw [Int.cast_one] at one
    rw [fieldSize_plain (by decide) (by decide : "schema_version".length = 14), one]
    decide
  have task : fieldSize format ("task_id", .num taskId) = 11 + (toString taskId).length := by
    rw [fieldSize_plain (by decide) (by decide : "task_id".length = 7), byteSize_integer small]
  have provider : fieldSize format ("provider_id", .str providerId) = 17 + providerId.length := by
    rw [fieldSize_plain (by decide) (by decide : "provider_id".length = 11), byteSize_safe safe]
    omega
  have result : ∀ value, fieldSize format ("result", value) = 10 + byteSize (render format value) :=
    fieldSize_plain (by decide) (by decide : "result".length = 6)
  have request : ((requestId.toList.map fun requestId => ("request_id", Json.str requestId)).map
      (fieldSize format)).sum = requestId.elim 0 fun requestId => 16 + requestId.length := by
    cases requestId with
    | none => rfl
    | some id =>
      have own := @byteSize_safe format _ (safeRequest id rfl)
      rw [Option.toList_some, List.map_singleton, List.map_singleton, List.sum_singleton,
        fieldSize_plain (by decide) (by decide : "request_id".length = 10), own, Option.elim_some]
      omega
  have extra : (((remote.field "meta").toList.map fun extra => ("meta", extra)).map
      (fieldSize format)).sum =
      (remote.field "meta").elim 0 fun extra => 8 + (web.stringify extra).utf8ByteSize := by
    cases found : remote.field "meta" with
    | none => rfl
    | some value =>
      rw [Option.toList_some, List.map_singleton, List.map_singleton, List.sum_singleton,
        fieldSize_plain (by decide) (by decide : "meta".length = 4), Option.elim_some,
        stringify_size keeps (normal_field normal found)]
  rw [RemoteAgentResult.fields, remoteAgentResult, List.map_append, List.map_append,
    List.map_append, List.sum_append, List.sum_append, List.sum_append, List.map_cons,
    List.map_cons, List.map_singleton, List.map_singleton, List.sum_cons, List.sum_cons,
    List.sum_singleton, List.sum_singleton]
  dsimp only
  rw [version, task, provider, result, request, extra, wrappedBytes,
    stringify_size keeps (normal_result normal)]
  omega

end Sizes

/-! ### When a result is accepted -/

section Results
variable {env : Environment} {format : NumberFormat}

theorem mapError_ok {ε δ α : Type} {x : Except ε α} {f : ε → δ} {value : α}
    (h : x.mapError f = .ok value) : x = .ok value := by
  cases x with
  | error e => cases h
  | ok a =>
    cases h
    rfl

theorem parseRemoteAgentInvocation_safe {raw : String} {invocation : RemoteAgentInvocation}
    (h : parseRemoteAgentInvocation env raw = .ok invocation) :
    ∀ id ∈ invocation.requestId, safeId id = true := by
  rw [parseRemoteAgentInvocation] at h
  split at h
  · cases h
  split at h
  · cases h
  split at h
  · cases h
  split at h
  · cases h
  split at h
  · cases h
  · cases h
    exact fun id mem => absurd mem (Option.not_mem_none id)
  · split at h
    · rename_i safe
      cases h
      intro id mem
      rw [← Option.some.inj mem]
      exact safe
    · cases h
  · cases h

theorem validateRemoteAgentConfig_ok {config validated : RemoteAgentConfig}
    (h : validateRemoteAgentConfig env config = .ok validated) :
    safeId config.providerId = true ∧ validated.providerId = config.providerId := by
  obtain ⟨endpoint, _, h⟩ := GatewayConfig.bind_ok h
  split at h
  · cases h
  rename_i safe
  split at h
  · cases h
  split at h
  · cases h
  · cases h
    rw [Bool.not_eq_true', Bool.not_eq_false] at safe
    exact ⟨safe, rfl⟩

theorem readBoundedJson_normal (keeps : KeepsJson env.web format) {response : RemoteResponse}
    {remote : Json} (h : readBoundedJson env response = .ok remote) :
    JsonText.Normal format remote := by
  rw [readBoundedJson] at h
  split at h
  · cases h
  split at h
  · cases h
  obtain ⟨bytes, _, h⟩ := GatewayConfig.bind_ok h
  split at h
  · cases h
  · cases h
  rw [parseResponse] at h
  split at h
  · cases h
  rename_i parsed
  split at h
  · cases h
  split at h
  · cases h
  split at h
  · cases h
  split at h
  · cases h
  · cases h
    exact keeps.parsed _ _ parsed

/-- The result of a call is accepted if and only if it still fits in 256 KiB after the wrapping
has been added and the answer has been written anew. -/
theorem result_accepted_iff (keeps : KeepsJson env.web format) {taskId : Int} {rawPayload : String}
    {rawConfig : RemoteAgentConfig} {result : RemoteAgentResult}
    (invoked : invokeRemoteAgent env taskId rawPayload rawConfig = .ok result) :
    ∃ invocation config response remote,
      parseRemoteAgentInvocation env rawPayload = .ok invocation ∧
      env.fetch (remoteRequest env taskId invocation config) = .ok response ∧
      readBoundedJson env response = .ok remote ∧
      result = remoteAgentResult taskId rawConfig.providerId invocation.requestId remote ∧
      (Accepted env.web (.obj result.fields) ↔
        wrappedBytes env.web taskId rawConfig.providerId invocation.requestId remote ≤
          MAX_RESULT_PROJECTION_BYTES) := by
  rw [invokeRemoteAgent] at invoked
  split at invoked
  · cases invoked
  rename_i bounded
  obtain ⟨invocation, parsed, invoked⟩ := GatewayConfig.bind_ok invoked
  obtain ⟨config, validated, invoked⟩ := GatewayConfig.bind_ok invoked
  have parsed := mapError_ok parsed
  obtain ⟨safe, same⟩ := validateRemoteAgentConfig_ok (mapError_ok validated)
  split at invoked
  · cases invoked
  rename_i response fetched
  split at invoked
  · cases invoked
  split at invoked
  · cases invoked
  · cases invoked
  · cases invoked
  rename_i remote read
  cases invoked
  have normal := readBoundedJson_normal keeps read
  have small : taskId.natAbs ≤ MAX_SAFE_INTEGER := by
    rw [not_or, not_lt] at bounded
    exact bounded.1
  rw [same]
  refine ⟨invocation, config, response, remote, parsed, fetched, read, rfl, ?_⟩
  rw [accepted_iff keeps (normal_fields small _ _ normal),
    wrapped_size keeps small safe (parseRemoteAgentInvocation_safe parsed) normal]

end Results

/-! ### An answer near the bound -/

section Samples
open RequestFingerprints (orderedWeb orderedWeb_keeps)

/-- An answer with one text. -/
def sampleAnswer (content : List Char) : Json := .obj [("result", .str (String.ofList content))]

/-- A provider that gives this answer, in one chunk. -/
def sampleAgent (content : List Char) : Environment where
  web := orderedWeb
  parseUrl text := some ({ protocol := "https:", hostname := "a.example" }, text)
  fetch _ := .ok
    { ok := true, status := 200, contentType := some "application/json"
      body := some ([CapabilityAuth.encode (orderedWeb.stringify (sampleAnswer content))], none) }

def sampleInput : Json := .obj [("input", .null)]

def sampleConfig : RemoteAgentConfig :=
  { endpoint := "https://a.example/", providerId := "p", timeoutMs := 1000 }

theorem sampleAnswer_normal (content : List Char) :
    JsonText.Normal integers (sampleAnswer content) := by
  rw [sampleAnswer, JsonText.Normal]
  exact ⟨List.pairwise_singleton _ _, trivial, trivial⟩

theorem sampleAnswer_size {content : List Char} (plain : ∀ c ∈ content, unescaped c = true) :
    (orderedWeb.stringify (sampleAnswer content)).utf8ByteSize = 13 + content.length := by
  rw [stringify_size orderedWeb_keeps (sampleAnswer_normal content), sampleAnswer,
    byteSize_object (List.cons_ne_nil _ _), List.map_singleton, List.sum_singleton,
    fieldSize_plain (by decide) (by decide : "result".length = 6), render, String.toList_ofList,
    byteSize_quote plain]
  omega

/-- As long as the answer itself is within its bound, the call returns its result. -/
theorem sampleAgent_invoked {content : List Char} (plain : ∀ c ∈ content, unescaped c = true)
    (fits : 13 + content.length ≤ MAX_REMOTE_RESPONSE_BYTES) :
    invokeRemoteAgent (sampleAgent content) 1 (orderedWeb.stringify sampleInput) sampleConfig =
      .ok (remoteAgentResult 1 "p" none (sampleAnswer content)) := by
  have invocation : parseRemoteAgentInvocation (sampleAgent content)
      (orderedWeb.stringify sampleInput) = .ok ⟨.null, none⟩ := by
    have normal : JsonText.Normal integers sampleInput :=
      ⟨List.pairwise_singleton _ _, trivial, trivial⟩
    have back : (sampleAgent content).web.parse (orderedWeb.stringify sampleInput) =
        some sampleInput := orderedWeb_keeps.back _ normal
    rw [parseRemoteAgentInvocation, if_neg (by decide +kernel), back]
    rfl
  have config : validateRemoteAgentConfig (sampleAgent content) sampleConfig = .ok sampleConfig := by
    rfl
  have chunks : readChunks 0 [CapabilityAuth.encode (orderedWeb.stringify (sampleAnswer content))] =
      .ok (CapabilityAuth.encode (orderedWeb.stringify (sampleAnswer content))) := by
    rw [readChunks, readChunks, RequestRendering.length_encode, sampleAnswer_size plain, Nat.zero_add,
      if_neg (Nat.not_lt.mpr fits)]
    exact congrArg Except.ok (List.append_nil _)
  have text : decodeText (CapabilityAuth.encode (orderedWeb.stringify (sampleAnswer content))) =
      some (orderedWeb.stringify (sampleAnswer content)) := by
    rw [decodeText, RequestRendering.fromUTF8?_encode, Option.map_some, if_neg]
    rw [orderedWeb_keeps.stringify _ (sampleAnswer_normal content), String.toList_ofList,
      sampleAnswer, render]
    exact fun h => absurd (Option.some.inj h) (by decide)
  have parsed : parseResponse (sampleAgent content) (orderedWeb.stringify (sampleAnswer content)) =
      .ok (sampleAnswer content) := by
    have back : (sampleAgent content).web.parse (orderedWeb.stringify (sampleAnswer content)) =
        some (sampleAnswer content) := orderedWeb_keeps.back _ (sampleAnswer_normal content)
    rw [parseResponse, back]
    rfl
  have read : readBoundedJson (sampleAgent content)
      { ok := true, status := 200, contentType := some "application/json"
        body := some ([CapabilityAuth.encode (orderedWeb.stringify (sampleAnswer content))], none) } =
      .ok (sampleAnswer content) := by
    have json : ¬ (!(("application/json".map Char.toLower).toList.tails.any fun tail =>
        "application/json".toList.isPrefixOf tail)) = true := by
      decide +kernel
    rw [readBoundedJson]
    refine (if_neg json).trans ?_
    dsimp only
    rw [chunks]
    dsimp only [bind, Except.bind]
    rw [text]
    exact parsed
  rw [invokeRemoteAgent, if_neg (by decide), invocation, config]
  change (match readBoundedJson (sampleAgent content) _ with
    | .error (.call message) => _
    | .error (.payload message) | .error (.other message) => _
    | .ok remote => _) = _
  rw [read]
  rfl

/-- A call that is accepted. -/
theorem result_accepted_iff_short : ∃ invocation config response remote,
    parseRemoteAgentInvocation (sampleAgent ['a']) (orderedWeb.stringify sampleInput) =
      .ok invocation ∧
    (sampleAgent ['a']).fetch (remoteRequest (sampleAgent ['a']) 1 invocation config) =
      .ok response ∧
    readBoundedJson (sampleAgent ['a']) response = .ok remote ∧
    remoteAgentResult 1 "p" none (sampleAnswer ['a']) =
      remoteAgentResult 1 "p" invocation.requestId remote ∧
    (Accepted orderedWeb (.obj (remoteAgentResult 1 "p" none (sampleAnswer ['a'])).fields) ↔
      wrappedBytes orderedWeb 1 "p" invocation.requestId remote ≤ MAX_RESULT_PROJECTION_BYTES) :=
  result_accepted_iff orderedWeb_keeps
    (sampleAgent_invoked (List.forall_mem_singleton.mpr (by decide)) (by decide))

/-- An answer of 256 KiB is taken, and its result refused. -/
theorem full_answer_refused : ¬ ∀ (env : Environment) (format : NumberFormat),
    KeepsJson env.web format → ∀ (taskId : Int) (rawPayload : String)
      (rawConfig : RemoteAgentConfig) (result : RemoteAgentResult),
      invokeRemoteAgent env taskId rawPayload rawConfig = .ok result →
        Accepted env.web (.obj result.fields) := by
  intro accepted
  have plain : ∀ c ∈ List.replicate 262131 'a', unescaped c = true := fun c mem => by
    rw [List.eq_of_mem_replicate mem]
    decide
  have fits := accepted (sampleAgent (List.replicate 262131 'a')) integers orderedWeb_keeps _ _ _ _
    (sampleAgent_invoked plain (by rw [List.length_replicate]; decide))
  have normal := sampleAnswer_normal (List.replicate 262131 'a')
  change Accepted orderedWeb _ at fits
  rw [accepted_iff orderedWeb_keeps (normal_fields (by decide) "p" none normal),
    wrapped_size orderedWeb_keeps (by decide) (by decide) (fun id mem => absurd mem
      (Option.not_mem_none id)) normal, wrappedBytes] at fits
  have long := @byteSize_quote _ plain
  have written : (orderedWeb.stringify (((sampleAnswer (List.replicate 262131 'a')).field
      "result").getD .null)).utf8ByteSize = 262133 := by
    rw [stringify_size orderedWeb_keeps (normal_result normal)]
    change byteSize (render integers (.str _)) = _
    rw [render, String.toList_ofList, long, List.length_replicate]
  rw [written, MAX_RESULT_PROJECTION_BYTES] at fits
  omega

end Samples

end RemoteAgents
