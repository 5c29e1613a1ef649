import TaskQueQue.McpTransport
import TaskQueQue.CapabilitySessions
import Mathlib.Data.List.TakeWhile

/-!
# Messages of the MCP endpoint

A message is accepted when it is addressed, reads as one and is mirrored by its headers.
Nothing else of the endpoint reaches the gateway: an accepted call is answered with what
its tool comes to, an accepted listing with what the bearer may call, and whatever is not
accepted with an error. The second reading, for the processes, agrees with the first.
-/

namespace McpMessages

open GatewayValues CapabilityAuth McpTools McpTransport ProcessRegistry
open TaskFacade (MAX_PUBLIC_REQUEST_BYTES)

/-! ### Accepted messages -/

structure Addressed (originOf : String → Option String) (request : McpRequest) : Prop where
  path : request.pathname = MCP_ENDPOINT
  origin : originAllowed originOf request = true
  method : request.method = "POST"
  accept : accepts request = true

/-- The parameters of a message, where none stand for an empty object. -/
inductive HasParams : Option Json → Json → Prop
  | absent : HasParams none (.obj [])
  | given (params : List (String × Json)) : HasParams (some (.obj params)) (.obj params)

/-- A body of bounded length that is a message. -/
structure Reads (web : WebRuntime) (request : McpRequest) (rpc : JsonRpcRequest) : Prop where
  type : "application/json".toList <+: (((request.header "content-type").map String.toLower).getD
    "").toList
  declared : ∀ text, request.header "content-length" = some text →
    ∃ n : Nat, web.number text = some (n : ℚ) ∧ n ≤ MAX_PUBLIC_REQUEST_BYTES
  small : request.body.utf8ByteSize ≤ MAX_PUBLIC_REQUEST_BYTES
  message : ∃ value, web.parse request.body = some value ∧
    value.field "jsonrpc" = some (.str "2.0") ∧ value.field "id" = some rpc.id ∧
      value.field "method" = some (.str rpc.method) ∧ HasParams (value.field "params") rpc.params
  id : isJsonRpcId rpc.id = true

/-- The headers say again what the message says. -/
structure Mirrored (request : McpRequest) (rpc : JsonRpcRequest) : Prop where
  metadata : ∃ fields : List (String × Json), rpc.params.field "_meta" = some (.obj fields) ∧
    (Json.obj fields).field "io.modelcontextprotocol/protocolVersion" =
      some (.str MCP_PROTOCOL_VERSION) ∧
    isRecord ((Json.obj fields).field "io.modelcontextprotocol/clientCapabilities") = true ∧
    validClientInfo ((Json.obj fields).field "io.modelcontextprotocol/clientInfo") = true
  version : request.header "mcp-protocol-version" = some MCP_PROTOCOL_VERSION
  method : request.header "mcp-method" = some rpc.method
  named : rpc.method ≠ ""
  tool : rpc.method = "tools/call" → ∃ value name, request.header "mcp-name" = some value ∧
    value ≠ "" ∧ rpc.params.field "name" = some (.str name) ∧
      decodeMirroredHeader value = some name

section Checks
variable {web : WebRuntime} {request : McpRequest} {rpc : JsonRpcRequest}

theorem filled_some {header : Option String} {value : String} :
    header.filter (fun value => decide (value ≠ "")) = some value ↔
      header = some value ∧ value ≠ "" := by
  rw [Option.filter_eq_some_iff, decide_eq_true_eq]

theorem validateToolName_none : validateToolName request rpc = none ↔
    ∃ value name, request.header "mcp-name" = some value ∧ value ≠ "" ∧
      rpc.params.field "name" = some (.str name) ∧ decodeMirroredHeader value = some name := by
  unfold validateToolName
  constructor
  · intro h
    split at h
    · rename_i toolName named
      split at h
      · cases h
      · rename_i value mirrored
        obtain ⟨given, filled⟩ := filled_some.mp mirrored
        split at h
        · cases h
        · rename_i same
          exact ⟨value, toolName, given, filled, named, not_not.mp same⟩
    · cases h
  · rintro ⟨value, name, given, filled, named, decoded⟩
    rw [named, filled_some.mpr ⟨given, filled⟩]
    exact if_neg (not_not.mpr decoded)

theorem validateHeaders_none {bodyVersion : String} :
    validateHeaders request rpc bodyVersion = none ↔ bodyVersion = MCP_PROTOCOL_VERSION ∧
      request.header "mcp-protocol-version" = some MCP_PROTOCOL_VERSION ∧
      (request.header "mcp-method" = some rpc.method ∧ rpc.method ≠ "") ∧
      (rpc.method = "tools/call" → validateToolName request rpc = none) := by
  unfold validateHeaders
  constructor
  · intro h
    split at h
    · cases h
    rename_i headerVersion mirrored
    obtain ⟨given, _⟩ := filled_some.mp mirrored
    split at h
    · cases h
    rename_i same
    split at h
    · cases h
    rename_i supported
    split at h
    · cases h
    rename_i method
    have version : bodyVersion = MCP_PROTOCOL_VERSION := not_not.mp supported
    have header : headerVersion = MCP_PROTOCOL_VERSION := (not_not.mp same).trans version
    rw [not_or, not_not] at method
    refine ⟨version, header ▸ given, method, fun call => ?_⟩
    rwa [if_pos call] at h
  · rintro ⟨rfl, given, ⟨method, named⟩, tool⟩
    have filled : MCP_PROTOCOL_VERSION ≠ "" := by decide
    rw [filled_some.mpr ⟨given, filled⟩]
    dsimp only
    rw [if_neg (not_not.mpr rfl), if_neg (not_not.mpr rfl),
      if_neg (not_or.mpr ⟨not_not.mpr method, named⟩)]
    split
    · rename_i call
      exact tool call
    · rfl

theorem validateMetaAndHeaders_none :
    validateMetaAndHeaders request rpc = none ↔ Mirrored request rpc := by
  unfold validateMetaAndHeaders
  constructor
  · intro h
    split at h
    · rename_i fields given
      dsimp only at h
      split at h
      · rename_i bodyVersion version
        split at h
        · cases h
        rename_i capabilities
        split at h
        · cases h
        rename_i clientInfo
        rw [Bool.not_eq_true', Bool.not_eq_false] at capabilities clientInfo
        obtain ⟨rfl, header, ⟨method, named⟩, tool⟩ := validateHeaders_none.mp h
        exact ⟨⟨fields, given, version, capabilities, clientInfo⟩, header, method, named,
          fun call => validateToolName_none.mp (tool call)⟩
      · cases h
    · cases h
  · rintro ⟨⟨fields, given, version, capabilities, clientInfo⟩, header, method, named, tool⟩
    rw [given]
    dsimp only
    rw [version]
    dsimp only
    rw [capabilities, clientInfo]
    exact validateHeaders_none.mpr
      ⟨rfl, header, ⟨method, named⟩, fun call => validateToolName_none.mpr (tool call)⟩

theorem parseJsonRpc_ok {value : Json} : parseJsonRpc value = .ok rpc ↔
    (value.field "jsonrpc" = some (.str "2.0") ∧ value.field "id" = some rpc.id ∧
      value.field "method" = some (.str rpc.method) ∧ HasParams (value.field "params") rpc.params) ∧
    isJsonRpcId rpc.id = true := by
  unfold parseJsonRpc
  constructor
  · intro h
    split at h
    · rename_i id method version given named
      split at h
      · cases h
      rename_i known
      rw [Bool.not_eq_true', Bool.not_eq_false] at known
      split at h
      · rename_i absent
        cases h
        exact ⟨⟨version, given, named, absent ▸ .absent⟩, known⟩
      · rename_i params present
        cases h
        exact ⟨⟨version, given, named, present ▸ .given params⟩, known⟩
      · cases h
    · cases h
  · rintro ⟨⟨version, given, named, params⟩, known⟩
    obtain ⟨id, method, content⟩ := rpc
    dsimp only at given named params known
    have valid : ¬(!isJsonRpcId id) = true := by
      rw [known]
      exact Bool.false_ne_true
    rw [version, given, named]
    refine (if_neg valid).trans ?_
    generalize value.field "params" = raw at params
    cases params with
    | absent => rfl
    | given params => rfl

theorem declared_length {header : Option String} :
    ¬ (header.map fun text => (web.number text).filter fun length =>
        decide (length.den = 1 ∧ 0 ≤ length)).any Option.isNone ∧
      ¬ (header.map fun text => (web.number text).filter fun length =>
        decide (length.den = 1 ∧ 0 ≤ length)).any (fun length => length.any fun n =>
          decide ((MAX_PUBLIC_REQUEST_BYTES : ℚ) < n)) ↔
    ∀ text, header = some text →
      ∃ n : Nat, web.number text = some (n : ℚ) ∧ n ≤ MAX_PUBLIC_REQUEST_BYTES := by
  cases header with
  | none => simp
  | some text =>
    rw [Option.map_some, Option.any_some, Option.any_some]
    constructor
    · rintro ⟨counted, small⟩ _ ⟨⟩
      rw [Bool.not_eq_true, Option.isNone_eq_false_iff, Option.isSome_iff_exists] at counted
      obtain ⟨length, counted⟩ := counted
      obtain ⟨read, whole⟩ := Option.filter_eq_some_iff.mp counted
      obtain ⟨whole, positive⟩ := of_decide_eq_true whole
      rw [counted, Option.any_some, decide_eq_true_eq, not_lt] at small
      have same : ((length.num.toNat : Nat) : ℚ) = length := by
        have num : (length.num.toNat : Int) = length.num :=
          Int.toNat_of_nonneg (Rat.num_nonneg.mpr positive)
        rw [← Int.cast_natCast, num]
        exact Rat.den_eq_one_iff length |>.mp whole
      refine ⟨length.num.toNat, same ▸ read, ?_⟩
      rw [← same] at small
      exact_mod_cast small
    · intro declared
      obtain ⟨n, read, small⟩ := declared text rfl
      have counted : (web.number text).filter (fun length =>
          decide (length.den = 1 ∧ 0 ≤ length)) = some (n : ℚ) :=
        Option.filter_eq_some_iff.mpr
          ⟨read, decide_eq_true ⟨Rat.den_natCast n, Nat.cast_nonneg n⟩⟩
      rw [counted, Option.isNone_some, Option.any_some, decide_eq_true_eq, not_lt]
      exact ⟨Bool.false_ne_true, by exact_mod_cast small⟩

theorem readBoundedJson_ok {value : Json} : readBoundedJson web request = .ok value ↔
    "application/json".toList <+: (((request.header "content-type").map String.toLower).getD
      "").toList ∧
    (∀ text, request.header "content-length" = some text →
      ∃ n : Nat, web.number text = some (n : ℚ) ∧ n ≤ MAX_PUBLIC_REQUEST_BYTES) ∧
    request.body.utf8ByteSize ≤ MAX_PUBLIC_REQUEST_BYTES ∧ web.parse request.body = some value := by
  rw [← declared_length]
  unfold readBoundedJson
  dsimp only
  constructor
  · intro h
    split at h
    · cases h
    rename_i type
    rw [Bool.not_eq_true', Bool.not_eq_false, List.isPrefixOf_iff_prefix] at type
    split at h
    · cases h
    rename_i counted
    split at h
    · cases h
    rename_i bounded
    obtain ⟨short, small⟩ := not_or.mp bounded
    split at h
    · rename_i read
      cases h
      exact ⟨type, ⟨counted, short⟩, Nat.not_lt.mp small, read⟩
    · cases h
  · rintro ⟨type, ⟨counted, short⟩, small, read⟩
    rw [List.isPrefixOf_iff_prefix.mpr type, if_neg counted,
      if_neg (not_or.mpr ⟨short, Nat.not_lt.mpr small⟩), read]
    exact if_neg Bool.false_ne_true

theorem readMessage_ok :
    readMessage web request = .ok rpc ↔ Reads web request rpc ∧ Mirrored request rpc := by
  unfold readMessage
  constructor
  · intro h
    split at h
    · cases h
    rename_i value read
    split at h
    · cases h
    rename_i rpc' parsed
    split at h
    · cases h
    rename_i mirrored
    cases h
    obtain ⟨type, declared, small, read⟩ := readBoundedJson_ok.mp read
    obtain ⟨message, id⟩ := parseJsonRpc_ok.mp parsed
    exact ⟨⟨type, declared, small, ⟨value, read, message⟩, id⟩,
      validateMetaAndHeaders_none.mp mirrored⟩
  · rintro ⟨⟨type, declared, small, ⟨value, read, message⟩, id⟩, mirrored⟩
    rw [readBoundedJson_ok.mpr ⟨type, declared, small, read⟩]
    dsimp only
    rw [parseJsonRpc_ok.mpr ⟨message, id⟩]
    dsimp only
    rw [validateMetaAndHeaders_none.mpr mirrored]

/-- An error that makes the endpoint look for a process. -/
def Unknown (error : RpcError) : Prop :=
  error.code = -32602 ∧ error.message = "unknown or unavailable tool"

theorem refused_known {id : Json} {code : Int} {message : String} {status : Nat}
    (other : message ≠ "unknown or unavailable tool") :
    ¬ Unknown (refused id code message status) :=
  fun unknown => other unknown.2

theorem coded_known {error : RpcError} (other : error.code ≠ -32602) : ¬ Unknown error :=
  fun unknown => other unknown.1

theorem mismatch_known {message : String} : ¬ Unknown (mismatch rpc message) :=
  coded_known (show (-32020 : Int) ≠ -32602 by decide)

theorem validateToolName_known {error : RpcError}
    (h : validateToolName request rpc = some error) : ¬ Unknown error := by
  unfold validateToolName at h
  split at h
  · split at h
    · cases h
      exact mismatch_known
    split at h
    · cases h
      exact mismatch_known
    · cases h
  · cases h
    exact refused_known (by decide)

theorem validateHeaders_known {bodyVersion : String} {error : RpcError}
    (h : validateHeaders request rpc bodyVersion = some error) : ¬ Unknown error := by
  unfold validateHeaders at h
  split at h
  · cases h
    exact mismatch_known
  split at h
  · cases h
    exact mismatch_known
  split at h
  · cases h
    exact coded_known (show (-32022 : Int) ≠ -32602 by decide)
  split at h
  · cases h
    exact mismatch_known
  split at h
  · exact validateToolName_known h
  · cases h

theorem validateMetaAndHeaders_known {error : RpcError}
    (h : validateMetaAndHeaders request rpc = some error) : ¬ Unknown error := by
  unfold validateMetaAndHeaders at h
  split at h
  · dsimp only at h
    split at h
    · split at h
      · cases h
        exact refused_known (by decide)
      split at h
      · cases h
        exact refused_known (by decide)
      · exact validateHeaders_known h
    · cases h
      exact refused_known (by decide)
  · cases h
    exact refused_known (by decide)

theorem readMessage_known {error : RpcError} (h : readMessage web request = .error error) :
    ¬ Unknown error := by
  unfold readMessage at h
  split at h
  · rename_i failed
    cases h
    unfold readBoundedJson at failed
    dsimp only at failed
    split at failed
    · cases failed
      exact refused_known (by decide)
    split at failed
    · cases failed
      exact refused_known (by decide)
    split at failed
    · cases failed
      exact refused_known (by decide)
    split at failed
    · cases failed
    · cases failed
      exact refused_known (by decide)
  split at h
  · rename_i failed
    cases h
    unfold parseJsonRpc at failed
    split at failed
    · split at failed
      · cases failed
        exact refused_known (by decide)
      split at failed
      · cases failed
      · cases failed
      · cases failed
        exact refused_known (by decide)
    · cases failed
      exact refused_known (by decide)
  split at h
  · rename_i failed
    cases h
    exact validateMetaAndHeaders_known failed
  · cases h

end Checks

/-! ### Answers -/

section Answers
variable {web : WebRuntime} {originOf : String → Option String} {registry : ToolRegistry}
variable {collate : String → String → Bool} {provider : Option RegisteredProcessProvider}
variable {config : GatewayConfig} {availability : CapabilityAvailabilitySnapshot} {nowMs : Int}
variable {request : McpRequest} {rpc : JsonRpcRequest} {auth : AuthorizationContext}

/-- A message the endpoint acts on, for this bearer. -/
structure Accepted (web : WebRuntime) (originOf : String → Option String) (config : GatewayConfig)
    (nowMs : Int) (request : McpRequest) (rpc : JsonRpcRequest) (auth : AuthorizationContext) :
    Prop where
  addressed : Addressed originOf request
  reads : Reads web request rpc
  mirrored : Mirrored request rpc
  bearer : resolveAuthorizationContext web request.toRequest config nowMs = some auth

/-- What an accepted message comes to, read once. -/
def directAnswer (web : WebRuntime) (registry : ToolRegistry) (collate : String → String → Bool)
    (provider : Option RegisteredProcessProvider) (availability : CapabilityAvailabilitySnapshot)
    (request : McpRequest) (rpc : JsonRpcRequest) (auth : AuthorizationContext) : McpAnswer :=
  if rpc.method = "server/discover" then .discovered rpc.id
  else if rpc.method = "tools/list" then
    if (rpc.params.field "cursor").isSome then
      .rpcError { id := rpc.id, code := -32602, message :=
        "pagination cursor is not supported because this tool set fits in one page" }
    else .listed rpc.id (toolsList collate provider registry auth.grant availability)
  else if rpc.method = "tools/call" then
    match toolsCall collate provider web registry request.toRequest auth.grant availability
      (rpc.params.field "name") (rpc.params.field "arguments") with
    | .rpcError code message => .rpcError { id := rpc.id, code, message }
    | .invoke invocation => .invoked rpc.id invocation
  else .rpcError (refused rpc.id (-32601) "Method not found" 404)

theorem handleMcpRequest_accepted
    (accepted : Accepted web originOf config nowMs request rpc auth) :
    handleMcpRequest web originOf registry collate config availability nowMs request =
      some (methodAnswer web registry collate availability request rpc auth) := by
  obtain ⟨⟨path, origin, method, accept⟩, reads, mirrored, bearer⟩ := accepted
  have granted : ¬(!true) = true := Bool.false_ne_true
  rw [handleMcpRequest, if_neg (not_not.mpr path), origin, if_neg granted,
    if_neg (not_not.mpr method), accept, if_neg granted, readMessage_ok.mpr ⟨reads, mirrored⟩]
  dsimp only
  rw [bearer]

/-- What is not accepted is answered with an error, and not one about a tool. -/
theorem handleMcpRequest_refused
    (refused : ∀ rpc auth, ¬ Accepted web originOf config nowMs request rpc auth) :
    handleMcpRequest web originOf registry collate config availability nowMs request = none ∨
      ∃ error, handleMcpRequest web originOf registry collate config availability nowMs request =
        some (.rpcError error) ∧ ¬ Unknown error := by
  unfold handleMcpRequest
  split
  · exact Or.inl rfl
  rename_i path
  right
  split
  · exact ⟨_, rfl, refused_known (by decide)⟩
  rename_i origin
  split
  · exact ⟨_, rfl, coded_known (show (-32600 : Int) ≠ -32602 by decide)⟩
  rename_i method
  split
  · exact ⟨_, rfl, refused_known (by decide)⟩
  rename_i accept
  split
  · rename_i failed
    exact ⟨_, rfl, readMessage_known failed⟩
  rename_i rpc read
  split
  · exact ⟨_, rfl, coded_known (show (-32000 : Int) ≠ -32602 by decide)⟩
  rename_i auth bearer
  rw [Bool.not_eq_true', Bool.not_eq_false] at origin accept
  obtain ⟨reads, mirrored⟩ := readMessage_ok.mp read
  exact absurd ⟨⟨not_not.mp path, origin, not_not.mp method, accept⟩, reads, mirrored, bearer⟩
    (refused rpc auth)

theorem withProcessCall_known {error : RpcError} (known : ¬ Unknown error) :
    withProcessCall web collate provider config nowMs request (.rpcError error) =
      .rpcError error := by
  rw [withProcessCall, if_pos]
  rwa [Unknown, not_and_or] at known

theorem endpoint_refused
    (refused : ∀ rpc auth, ¬ Accepted web originOf config nowMs request rpc auth) :
    handleMcpRequestWithRegisteredProcesses web originOf registry collate provider config
        availability nowMs request = none ∨
      ∃ error, handleMcpRequestWithRegisteredProcesses web originOf registry collate provider config
        availability nowMs request = some (.rpcError error) := by
  rw [handleMcpRequestWithRegisteredProcesses]
  rcases @handleMcpRequest_refused web originOf registry collate config availability nowMs request
    refused with absent | ⟨error, same, known⟩
  · rw [absent]
    exact Or.inl rfl
  · rw [same, Option.map_some, withProcessCall_known known]
    refine Or.inr ⟨error, congrArg some ?_⟩
    split
    · rfl
    split
    · rfl
    · rfl

theorem processTools_accepted (bearer : resolveAuthorizationContext web request.toRequest config
    nowMs = some auth) : processTools web collate provider config nowMs request =
      processToolsForRequest collate provider auth.grant := by
  rw [processTools, bearer]

/-- The tools of the processes are added to those of the gateway. -/
theorem withProcessTools_listed {id : Json} (bearer : resolveAuthorizationContext web
    request.toRequest config nowMs = some auth) :
    withProcessTools web collate provider config nowMs request
        (.listed id (listTools registry collate auth.grant availability)) =
      .listed id (toolsList collate provider registry auth.grant availability) := by
  rw [withProcessTools, processTools_accepted bearer, toolsList]
  split
  · rfl
  · rfl

theorem tools_apart {first second : String} (h : rpc.method = first)
    (apart : first ≠ second) : ¬ rpc.method = second :=
  fun same => apart (h.symm.trans same)

theorem methodAnswer_call (call : rpc.method = "tools/call") :
    methodAnswer web registry collate availability request rpc auth =
      match handleToolsCall web registry collate request.toRequest auth.grant availability
        (rpc.params.field "name") (rpc.params.field "arguments") with
      | .rpcError code message => .rpcError { id := rpc.id, code, message }
      | .invoke invocation => .invoked rpc.id invocation := by
  have other : ¬ rpc.method = "server/discover" := tools_apart call (by decide)
  have another : ¬ rpc.method = "tools/list" := tools_apart call (by decide)
  exact (if_neg other).trans ((if_neg another).trans (if_pos call))

theorem unknown_iff {code : Int} {message : String} :
    (CallOutcome.rpcError code message).unknown = true ↔
      code = -32602 ∧ message = "unknown or unavailable tool" := by
  rw [CallOutcome.unknown, Bool.and_eq_true, decide_eq_true_eq, decide_eq_true_eq]

/-- The second reading finds what the first has found. -/
theorem withProcessCall_unknown (reads : Reads web request rpc)
    (bearer : resolveAuthorizationContext web request.toRequest config nowMs = some auth)
    {name : String} (named : rpc.params.field "name" = some (.str name)) :
    withProcessCall web collate provider config nowMs request
        (.rpcError { id := rpc.id, code := -32602, message := "unknown or unavailable tool" }) =
      match processDescriptorForCall collate provider auth.grant name with
      | none => .rpcError { id := rpc.id, code := -32602, message := "unknown or unavailable tool" }
      | some descriptor =>
        if exactKeys (argumentsOf (rpc.params.field "arguments")) [] then
          .invoked rpc.id (gatewayRequest web request.toRequest (descriptor.route.getD "") "POST"
            none none)
        else
          .rpcError { id := rpc.id, code := -32602, message :=
            "tool arguments do not satisfy the advertised input schema" } := by
  obtain ⟨value, read, _, given, _, params⟩ := reads.message
  have again : (web.parse request.body).bind (fun rpc => (rpc.field "params").map fun params =>
      (rpc, params)) = some (value, rpc.params) := by
    rw [read, Option.bind_some]
    generalize value.field "params" = raw at params
    generalize rpc.params = content at params named
    cases params with
    | absent => cases named
    | given params => rfl
  have known : ¬((-32602 : Int) ≠ -32602 ∨
      "unknown or unavailable tool" ≠ "unknown or unavailable tool") :=
    not_or.mpr ⟨not_not.mpr rfl, not_not.mpr rfl⟩
  have text : (rpc.params.field "name").bind textOf = some name := by
    rw [named]
    rfl
  have called : calledProcess web collate provider config nowMs request name =
      processDescriptorForCall collate provider auth.grant name := by
    rw [calledProcess, bearer, Option.bind_some]
  rw [withProcessCall, if_neg known, again]
  dsimp only
  rw [text]
  dsimp only
  cases found : processDescriptorForCall collate provider auth.grant name with
  | none => simp only [called, found]
  | some descriptor => simp only [called, found, given, Option.getD_some]

/-- The gateway's answer about a call, with the processes, is that of one reading. -/
theorem withProcessCall_direct (accepted : Accepted web originOf config nowMs request rpc auth)
    (call : rpc.method = "tools/call") :
    withProcessCall web collate provider config nowMs request
        (methodAnswer web registry collate availability request rpc auth) =
      directAnswer web registry collate provider availability request rpc auth := by
  obtain ⟨_, reads, mirrored, bearer⟩ := accepted
  obtain ⟨_, name, _, _, named, _⟩ := mirrored.tool call
  have text : (rpc.params.field "name").bind textOf = some name := by
    rw [named]
    rfl
  rw [methodAnswer_call call, directAnswer, if_neg (tools_apart call (by decide)),
    if_neg (tools_apart call (by decide)), if_pos call, toolsCall]
  generalize handleToolsCall web registry collate request.toRequest auth.grant availability
    (rpc.params.field "name") (rpc.params.field "arguments") = base
  cases base with
  | invoke invocation => rfl
  | rpcError code message =>
    by_cases unknown : (CallOutcome.rpcError code message).unknown = true
    · obtain ⟨rfl, rfl⟩ := unknown_iff.mp unknown
      have second : ¬(!true) = true := Bool.false_ne_true
      dsimp only
      rw [withProcessCall_unknown reads bearer named, unknown, text, Option.bind_some,
        if_neg second]
      cases found : processDescriptorForCall collate provider auth.grant name with
      | none => rfl
      | some descriptor =>
        dsimp only
        split
        · rfl
        · rfl
    · rw [Bool.not_eq_true] at unknown
      have known : ¬ Unknown { id := rpc.id, code, message } := by
        intro same
        rw [unknown_iff.mpr same] at unknown
        cases unknown
      dsimp only
      rw [withProcessCall_known known, unknown]
      rfl

theorem endpoint_accepted (accepted : Accepted web originOf config nowMs request rpc auth) :
    handleMcpRequestWithRegisteredProcesses web originOf registry collate provider config
        availability nowMs request =
      some (directAnswer web registry collate provider availability request rpc auth) := by
  rw [handleMcpRequestWithRegisteredProcesses, handleMcpRequest_accepted accepted, Option.map_some,
    accepted.mirrored.method]
  refine congrArg some ?_
  by_cases listing : rpc.method = "tools/list"
  · have other : ¬ rpc.method = "server/discover" := tools_apart listing (by decide)
    rw [if_pos (congrArg some listing), methodAnswer, directAnswer, if_neg other, if_neg other,
      if_pos listing, if_pos listing]
    split
    · rfl
    · exact withProcessTools_listed accepted.bearer
  have apart : ∀ name, ¬ rpc.method = name → ¬ some rpc.method = some name :=
    fun _ other same => other (Option.some.inj same)
  rw [if_neg (apart _ listing)]
  by_cases call : rpc.method = "tools/call"
  · rw [if_pos (congrArg some call)]
    exact withProcessCall_direct accepted call
  · rw [if_neg (apart _ call), methodAnswer, directAnswer, if_neg listing, if_neg listing,
      if_neg call, if_neg call]

theorem directAnswer_invoked {id : Json} {invocation : Request} :
    directAnswer web registry collate provider availability request rpc auth =
        .invoked id invocation ↔ rpc.method = "tools/call" ∧ rpc.id = id ∧
      toolsCall collate provider web registry request.toRequest auth.grant availability
        (rpc.params.field "name") (rpc.params.field "arguments") = .invoke invocation := by
  unfold directAnswer
  constructor
  · intro h
    split at h
    · cases h
    split at h
    · split at h
      · cases h
      · cases h
    split at h
    · rename_i call
      split at h
      · cases h
      · rename_i invoked
        cases h
        exact ⟨call, rfl, invoked⟩
    · cases h
  · rintro ⟨call, rfl, invoked⟩
    rw [if_neg (tools_apart call (by decide)), if_neg (tools_apart call (by decide)), if_pos call,
      invoked]

theorem directAnswer_listed {id : Json} {tools : List McpTool} :
    directAnswer web registry collate provider availability request rpc auth = .listed id tools ↔
      rpc.method = "tools/list" ∧ rpc.id = id ∧ rpc.params.field "cursor" = none ∧
        toolsList collate provider registry auth.grant availability = tools := by
  unfold directAnswer
  constructor
  · intro h
    split at h
    · cases h
    split at h
    · rename_i listing
      split at h
      · cases h
      · rename_i whole
        cases h
        exact ⟨listing, rfl, Option.not_isSome_iff_eq_none.mp whole, rfl⟩
    split at h
    · split at h
      · cases h
      · cases h
    · cases h
  · rintro ⟨listing, rfl, whole, rfl⟩
    have other : ¬ rpc.method = "server/discover" := tools_apart listing (by decide)
    rw [if_neg other, if_pos listing, if_neg (Option.not_isSome_iff_eq_none.mpr whole)]

/-- An answer that is no error is that of an accepted message, and no other is accepted. -/
theorem endpoint_iff {answer : McpAnswer} (acts : ∀ error, answer ≠ .rpcError error) :
    handleMcpRequestWithRegisteredProcesses web originOf registry collate provider config
        availability nowMs request = some answer ↔
      ∃ rpc auth, Accepted web originOf config nowMs request rpc auth ∧
        directAnswer web registry collate provider availability request rpc auth = answer := by
  constructor
  · intro h
    by_contra none_accepted
    have refused : ∀ rpc auth, ¬ Accepted web originOf config nowMs request rpc auth := by
      intro rpc auth accepted
      rw [endpoint_accepted accepted] at h
      exact none_accepted ⟨rpc, auth, accepted, Option.some.inj h⟩
    rcases @endpoint_refused web originOf registry collate provider config availability nowMs
      request refused with absent | ⟨error, same⟩
    · rw [absent] at h
      cases h
    · rw [same] at h
      exact acts error (Option.some.inj h).symm
  · rintro ⟨rpc, auth, accepted, rfl⟩
    exact endpoint_accepted accepted

end Answers

/-! ### Names in headers -/

def base64Char (n : Nat) : Char :=
  if n = 62 then '+' else if n = 63 then '/' else base64UrlAlphabet.getD n 'A'

theorem base64Char_value : ∀ n : Fin 64, base64Value? (base64Char n) = some n.val ∧
    base64Char n ≠ '=' ∧ 0x20 ≤ (base64Char n).toNat ∧ (base64Char n).toNat ≤ 0x7e := by
  decide +kernel

/-- The bytes of a name behind a mark that the decoder drops. -/
def markedBytes (name : String) : List UInt8 := encode ("\uFEFF" ++ name)

def sextetsOf (name : String) : List Nat := encodeSextets ((markedBytes name).map UInt8.toNat)

/-- A header of printable characters for any name. -/
def mirroredHeader (name : String) : String :=
  String.ofList ("=?base64?".toList ++ ((sextetsOf name).map base64Char ++ "?=".toList))

section Names
variable {name : String}

theorem sextetsOf_small : ∀ n ∈ sextetsOf name, n < 64 :=
  CapabilitySessions.encodeSextets_lt _ (CapabilitySessions.bytes_small _)

theorem mapM_base64Value? {sextets : List Nat} (small : ∀ n ∈ sextets, n < 64) :
    (sextets.map base64Char).mapM base64Value? = some sextets := by
  induction sextets with
  | nil => rfl
  | cons n rest ih =>
    obtain ⟨first, later⟩ := List.forall_mem_cons.mp small
    have value : base64Value? (base64Char n) = some n := (base64Char_value ⟨n, first⟩).1
    rw [List.map_cons, List.mapM_cons, value, ih later]
    rfl

theorem encoded_char {c : Char} (mem : c ∈ (sextetsOf name).map base64Char) :
    (base64Value? c).isSome = true ∧ c ≠ '=' ∧ 0x20 ≤ c.toNat ∧ c.toNat ≤ 0x7e := by
  obtain ⟨n, among, rfl⟩ := List.mem_map.mp mem
  obtain ⟨value, shape⟩ := base64Char_value ⟨n, sextetsOf_small n among⟩
  refine ⟨?_, shape⟩
  rw [Option.isSome_iff_exists]
  exact ⟨n, value⟩

theorem not_padded {text : List Char} (plain : '=' ∉ text) (padding : List Char) :
    ('=' :: padding).isSuffixOf text = false := by
  rw [← Bool.not_eq_true, List.isSuffixOf_iff_suffix]
  exact fun suffix => plain (suffix.subset List.mem_cons_self)

theorem atob_encoded : atob ((sextetsOf name).map base64Char) = some (markedBytes name) := by
  have plain : '=' ∉ (sextetsOf name).map base64Char :=
    fun mem => (encoded_char mem).2.1 rfl
  have two : "==".toList.isSuffixOf ((sextetsOf name).map base64Char) = false :=
    not_padded plain ['=']
  have one : "=".toList.isSuffixOf ((sextetsOf name).map base64Char) = false := not_padded plain []
  rw [atob, two, one, if_neg Bool.false_ne_true, if_neg Bool.false_ne_true, ite_self,
    mapM_base64Value? sextetsOf_small, Option.bind_some]
  exact CapabilitySessions.decodeSextets_encodeSextets _

theorem mirroredHeader_chars : (mirroredHeader name).toList =
    "=?base64?".toList ++ ((sextetsOf name).map base64Char ++ "?=".toList) :=
  String.toList_ofList

theorem sentinel?_wrapped {inner : List Char}
    (plain : ∀ c ∈ inner, (base64Value? c).isSome = true) :
    sentinel? ("=?base64?".toList ++ (inner ++ "?=".toList)) = some inner := by
  have nine : "=?base64?".length = "=?base64?".toList.length := String.length_toList.symm
  have two : "?=".toList.length = 2 := rfl
  have inside : (inner ++ "?=".toList).take ((inner ++ "?=".toList).length - 2) = inner := by
    rw [List.length_append, two, Nat.add_sub_cancel, List.take_left]
  have whole : inner.dropWhile (fun c => (base64Value? c).isSome) = [] :=
    List.dropWhile_eq_nil_iff.mpr plain
  have opened : "=?base64?".toList.isPrefixOf ("=?base64?".toList ++ (inner ++ "?=".toList)) =
      true := List.isPrefixOf_iff_prefix.mpr (List.prefix_append _ _)
  have closed : "?=".toList.isSuffixOf (inner ++ "?=".toList) = true :=
    List.isSuffixOf_iff_suffix.mpr (List.suffix_append _ _)
  have unpadded : ["", "=", "=="].contains (String.ofList []) = true := by decide
  rw [sentinel?, nine, List.drop_left, inside, whole, opened, closed, unpadded]
  exact if_pos rfl

/-- Any name can be told in a header. -/
theorem decodeMirroredHeader_mirrored : decodeMirroredHeader (mirroredHeader name) = some name := by
  have marked : ("\uFEFF" ++ name).toList = '\uFEFF' :: name.toList := by
    rw [String.toList_append]
    rfl
  have text : RemoteAgents.decodeText (markedBytes name) = some name := by
    rw [RemoteAgents.decodeText, markedBytes, RequestRendering.fromUTF8?_encode, Option.map_some,
      marked, List.head?_cons, if_pos rfl, List.tail_cons, String.ofList_toList]
  have found : sentinel? (mirroredHeader name).toList = some ((sextetsOf name).map base64Char) := by
    rw [mirroredHeader_chars]
    exact sentinel?_wrapped fun c mem => (encoded_char mem).1
  rw [decodeMirroredHeader, found]
  dsimp only
  rw [atob_encoded, Option.bind_some, text]

theorem mirroredHeader_printable :
    ∀ c ∈ (mirroredHeader name).toList, 0x20 ≤ c.toNat ∧ c.toNat ≤ 0x7e := by
  have opened : ("=?base64?".toList.all fun c =>
      decide (0x20 ≤ c.toNat ∧ c.toNat ≤ 0x7e)) = true := by
    decide
  have closed : ("?=".toList.all fun c => decide (0x20 ≤ c.toNat ∧ c.toNat ≤ 0x7e)) = true := by
    decide
  rw [mirroredHeader_chars]
  intro c mem
  rcases List.mem_append.mp mem with mem | mem
  · exact of_decide_eq_true (List.all_eq_true.mp opened c mem)
  rcases List.mem_append.mp mem with mem | mem
  · exact (encoded_char mem).2.2
  · exact of_decide_eq_true (List.all_eq_true.mp closed c mem)

theorem mirroredHeader_filled : mirroredHeader name ≠ "" := by
  intro empty
  have chars : (mirroredHeader name).toList = _ := mirroredHeader_chars
  have nine : "=?base64?".toList.length = 9 := rfl
  have long := congrArg List.length chars
  rw [empty, List.length_append, nine, String.toList_empty, List.length_nil] at long
  omega

end Names

/-! ### What the endpoint does -/

/-- A request of the gateway comes only from an accepted call and
is what its tool comes to; a listing comes only from an accepted request for one and lists
what the bearer may call. No name is kept from being called by the characters of a header. -/
theorem mcp_messages_mirrored (web : WebRuntime) (originOf : String → Option String)
    (registry : ToolRegistry) (collate : String → String → Bool)
    (provider : Option RegisteredProcessProvider) (config : GatewayConfig)
    (availability : CapabilityAvailabilitySnapshot) (nowMs : Int) (request : McpRequest) :
    (∀ id invocation,
      handleMcpRequestWithRegisteredProcesses web originOf registry collate provider config
          availability nowMs request = some (.invoked id invocation) ↔
        ∃ rpc auth, Accepted web originOf config nowMs request rpc auth ∧
          rpc.method = "tools/call" ∧ rpc.id = id ∧
          toolsCall collate provider web registry request.toRequest auth.grant availability
            (rpc.params.field "name") (rpc.params.field "arguments") = .invoke invocation) ∧
    (∀ id tools,
      handleMcpRequestWithRegisteredProcesses web originOf registry collate provider config
          availability nowMs request = some (.listed id tools) ↔
        ∃ rpc auth, Accepted web originOf config nowMs request rpc auth ∧
          rpc.method = "tools/list" ∧ rpc.id = id ∧ rpc.params.field "cursor" = none ∧
          toolsList collate provider registry auth.grant availability = tools) ∧
    ∀ name, ∃ value, (value ≠ "" ∧ ∀ c ∈ value.toList, 0x20 ≤ c.toNat ∧ c.toNat ≤ 0x7e) ∧
      decodeMirroredHeader value = some name := by
  refine ⟨?_, ?_, ?_⟩
  · intro id invocation
    have acts : ∀ error, McpAnswer.invoked id invocation ≠ .rpcError error :=
      fun _ same => McpAnswer.noConfusion same
    rw [endpoint_iff acts]
    simp only [directAnswer_invoked]
  · intro id tools
    have acts : ∀ error, McpAnswer.listed id tools ≠ .rpcError error :=
      fun _ same => McpAnswer.noConfusion same
    rw [endpoint_iff acts]
    simp only [directAnswer_listed]
  · intro name
    exact ⟨mirroredHeader name, ⟨mirroredHeader_filled, mirroredHeader_printable⟩,
      decodeMirroredHeader_mirrored⟩

end McpMessages
