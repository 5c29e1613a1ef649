import TaskQueQue.McpTools
import TaskQueQue.RemoteAgents

/-!
# The MCP endpoint

One path of the gateway speaks JSON-RPC. A message is read only from an allowed origin, and
the headers beside it have to say again what it says: its version, its method and the tool
it calls. The registered processes are added to the answers afterwards, by a second reading
of the message and of its headers.

What is left out of an answer is what no reader decides on: the server's name and
instructions, and how long a listing may be kept.
-/

namespace McpTransport

open GatewayValues CapabilityAuth McpTools ProcessRegistry
open TaskFacade (MAX_PUBLIC_REQUEST_BYTES)

def MCP_PROTOCOL_VERSION : String := "2026-07-28"
def MCP_ENDPOINT : String := "/mcp"

/-- A request with the origin of its own URL. -/
structure McpRequest extends Request where
  ownOrigin : String

structure RpcError where
  id : Json
  code : Int
  message : String
  status : Nat := 200
  data : Option Json := none
  headers : List (String × String) := []

def refused (id : Json) (code : Int) (message : String) (status : Nat) : RpcError :=
  { id, code, message, status }

structure JsonRpcRequest where
  id : Json
  method : String
  params : Json

/-- An answer, or the request of the gateway whose response is made one. -/
inductive McpAnswer
  | rpcError (error : RpcError)
  | discovered (id : Json)
  | listed (id : Json) (tools : List McpTool)
  | invoked (id : Json) (invocation : Request)

/-! ### Mirrored headers -/

def base64Value? (c : Char) : Option Nat :=
  if c = '-' ∨ c = '_' then none
  else if c = '+' then some 62
  else if c = '/' then some 63
  else sextet? c

/-- `atob`, of a text without white space: padding counts only where it fills a group. -/
def atob (text : List Char) : Option (List UInt8) :=
  let unpadded :=
    if text.length % 4 ≠ 0 then text
    else if "==".toList.isSuffixOf text then text.take (text.length - 2)
    else if "=".toList.isSuffixOf text then text.take (text.length - 1)
    else text
  (unpadded.mapM base64Value?).bind decodeSextets

/-- `/^=\?base64\?([A-Za-z0-9+/]*={0,2})\?=$/`. -/
def sentinel? (value : List Char) : Option (List Char) :=
  let rest := value.drop "=?base64?".length
  let encoded := rest.take (rest.length - 2)
  let padding := encoded.dropWhile fun c => (base64Value? c).isSome
  if "=?base64?".toList.isPrefixOf value && "?=".toList.isSuffixOf rest &&
      ["", "=", "=="].contains (String.ofList padding) then some encoded
  else none

def decodeMirroredHeader (value : String) : Option String :=
  match sentinel? value.toList with
  | none =>
    if value.toList.all fun c => decide (0x20 ≤ c.toNat ∧ c.toNat ≤ 0x7e) then some value
    else none
  | some encoded => (atob encoded).bind RemoteAgents.decodeText

/-! ### Messages -/

def originAllowed (originOf : String → Option String) (request : McpRequest) : Bool :=
  match (request.header "origin").filter fun origin => decide (origin ≠ "") with
  | none => true
  | some origin => decide (originOf origin = some request.ownOrigin)

/-- `text.includes(part)`. -/
def includes (text part : String) : Bool :=
  text.toList.tails.any fun rest => part.toList.isPrefixOf rest

def accepts (request : McpRequest) : Bool :=
  let accept := ((request.header "accept").map String.toLower).getD ""
  includes accept "application/json" && includes accept "text/event-stream"

def readBoundedJson (web : WebRuntime) (request : McpRequest) : Except RpcError Json :=
  let contentType := ((request.header "content-type").map String.toLower).getD ""
  let length := (request.header "content-length").map fun text =>
    (web.number text).filter fun length => decide (length.den = 1 ∧ 0 ≤ length)
  if !"application/json".toList.isPrefixOf contentType.toList then
    .error (refused .null (-32600) "MCP requests require application/json" 415)
  else if length.any Option.isNone then
    .error (refused .null (-32600) "invalid content-length" 400)
  else if (length.any fun length => length.any fun n =>
        decide ((MAX_PUBLIC_REQUEST_BYTES : ℚ) < n)) ∨
      MAX_PUBLIC_REQUEST_BYTES < request.body.utf8ByteSize then
    .error (refused .null (-32600) "MCP request body exceeds 1 MiB" 413)
  else
    match web.parse request.body with
    | some value => .ok value
    | none => .error (refused .null (-32700) "Parse error" 400)

def isJsonRpcId (value : Json) : Bool :=
  match value with
  | .str _ => true
  | _ => (Json.safeInteger? (some value)).isSome

def invalidRequest : RpcError :=
  (refused .null (-32600) "Invalid Request" 400)

def parseJsonRpc (value : Json) : Except RpcError JsonRpcRequest :=
  match value.field "jsonrpc", value.field "id", value.field "method" with
  | some (.str "2.0"), some id, some (.str method) =>
    if !isJsonRpcId id then .error invalidRequest
    else
      match value.field "params" with
      | none => .ok ⟨id, method, .obj []⟩
      | some (.obj params) => .ok ⟨id, method, .obj params⟩
      | some _ =>
        .error (refused id (-32602) "params must be an object" 400)
  | _, _, _ => .error invalidRequest

/-- `isRecord`. -/
def isRecord (value : Option Json) : Bool := (value.bind Json.keys).isSome

def isText (value : Option Json) : Bool := (value.bind textOf).isSome

/-- The client's name and version, if it gives any. -/
def validClientInfo (clientInfo : Option Json) : Bool :=
  match clientInfo with
  | none => true
  | some info => isRecord (some info) && isText (info.field "name") && isText (info.field "version")

def mismatch (rpc : JsonRpcRequest) (message : String) : RpcError :=
  (refused rpc.id (-32020) ("Header mismatch: " ++ message) 400)

def validateToolName (request : McpRequest) (rpc : JsonRpcRequest) : Option RpcError :=
  match rpc.params.field "name" with
  | some (.str toolName) =>
    match (request.header "mcp-name").filter fun value => decide (value ≠ "") with
    | none => some (mismatch rpc "Mcp-Name is required for tools/call")
    | some nameHeader =>
      if decodeMirroredHeader nameHeader ≠ some toolName then
        some (mismatch rpc "Mcp-Name does not match params.name")
      else none
  | _ => some (refused rpc.id (-32602) "tools/call requires params.name" 400)

def validateHeaders (request : McpRequest) (rpc : JsonRpcRequest) (bodyVersion : String) :
    Option RpcError :=
  match (request.header "mcp-protocol-version").filter fun value => decide (value ≠ "") with
  | none => some (mismatch rpc "MCP-Protocol-Version is required")
  | some headerVersion =>
    if headerVersion ≠ bodyVersion then
      some (mismatch rpc "MCP-Protocol-Version does not match request metadata")
    else if bodyVersion ≠ MCP_PROTOCOL_VERSION then
      some { refused rpc.id (-32022) "Unsupported protocol version" 400 with
        data := some (.obj [("supported", .arr [.str MCP_PROTOCOL_VERSION]),
          ("requested", .str bodyVersion)]) }
    else if request.header "mcp-method" ≠ some rpc.method ∨ rpc.method = "" then
      some (mismatch rpc "Mcp-Method does not match request method")
    else if rpc.method = "tools/call" then validateToolName request rpc
    else none

def validateMetaAndHeaders (request : McpRequest) (rpc : JsonRpcRequest) : Option RpcError :=
  match rpc.params.field "_meta" with
  | some (.obj fields) =>
    let metadata := Json.obj fields
    match metadata.field "io.modelcontextprotocol/protocolVersion" with
    | some (.str bodyVersion) =>
      if !isRecord (metadata.field "io.modelcontextprotocol/clientCapabilities") then
        some (refused rpc.id (-32602) "invalid MCP request metadata" 400)
      else if !validClientInfo (metadata.field "io.modelcontextprotocol/clientInfo") then
        some (refused rpc.id (-32602) "invalid MCP clientInfo metadata" 400)
      else validateHeaders request rpc bodyVersion
    | _ =>
      some (refused rpc.id (-32602) "invalid MCP request metadata" 400)
  | _ => some (refused rpc.id (-32602) "missing MCP request _meta" 400)

/-! ### The endpoint -/

section Endpoint
variable (web : WebRuntime) (originOf : String → Option String) (registry : ToolRegistry)
variable (collate : String → String → Bool) (provider : Option RegisteredProcessProvider)
variable (config : GatewayConfig) (availability : CapabilityAvailabilitySnapshot) (nowMs : Int)
variable (request : McpRequest)

def methodAnswer (rpc : JsonRpcRequest) (auth : AuthorizationContext) : McpAnswer :=
  if rpc.method = "server/discover" then .discovered rpc.id
  else if rpc.method = "tools/list" then
    if (rpc.params.field "cursor").isSome then
      .rpcError { id := rpc.id, code := -32602, message :=
        "pagination cursor is not supported because this tool set fits in one page" }
    else .listed rpc.id (listTools registry collate auth.grant availability)
  else if rpc.method = "tools/call" then
    match handleToolsCall web registry collate request.toRequest auth.grant availability
      (rpc.params.field "name") (rpc.params.field "arguments") with
    | .rpcError code message => .rpcError { id := rpc.id, code, message }
    | .invoke invocation => .invoked rpc.id invocation
  else .rpcError (refused rpc.id (-32601) "Method not found" 404)

/-- A message is read, then checked against its headers. -/
def readMessage : Except RpcError JsonRpcRequest :=
  match readBoundedJson web request with
  | .error error => .error error
  | .ok value =>
    match parseJsonRpc value with
    | .error error => .error error
    | .ok rpc =>
      match validateMetaAndHeaders request rpc with
      | some error => .error error
      | none => .ok rpc

def handleMcpRequest : Option McpAnswer :=
  if request.pathname ≠ MCP_ENDPOINT then none
  else if !originAllowed originOf request then
    some (.rpcError (refused .null (-32000) "Origin is not allowed" 403))
  else if request.method ≠ "POST" then
    some (.rpcError { refused .null (-32600) "MCP endpoint requires POST" 405 with
      headers := [("allow", "POST")] })
  else if !accepts request then
    some (.rpcError (refused .null (-32600)
      "Accept must include application/json and text/event-stream" 406))
  else
    match readMessage web request with
    | .error error => some (.rpcError error)
    | .ok rpc =>
      match resolveAuthorizationContext web request.toRequest config nowMs with
      | none =>
        some (.rpcError { refused rpc.id (-32000)
          "valid root or capability-session bearer token required" 401 with
          headers := [("www-authenticate", "Bearer")] })
      | some auth => some (methodAnswer web registry collate availability request rpc auth)

/-- The tools of the processes the bearer of the request may call. -/
def processTools : List McpTool :=
  match resolveAuthorizationContext web request.toRequest config nowMs with
  | none => []
  | some auth => processToolsForRequest collate provider auth.grant

def withProcessTools (base : McpAnswer) : McpAnswer :=
  match base with
  | .listed id tools =>
    let extra := processTools web collate provider config nowMs request
    if extra = [] then base
    else .listed id ((tools ++ extra).mergeSort fun left right => collate left.name right.name)
  | _ => base

/-- The process of that name, if the bearer of the request may call it. -/
def calledProcess (name : String) : Option ToolDescriptor :=
  (resolveAuthorizationContext web request.toRequest config nowMs).bind fun auth =>
    processDescriptorForCall collate provider auth.grant name

/-- The message is read once more, from a copy of the request. -/
def withProcessCall (base : McpAnswer) : McpAnswer :=
  match base with
  | .rpcError error =>
    if error.code ≠ -32602 ∨ error.message ≠ "unknown or unavailable tool" then base
    else
      match (web.parse request.body).bind fun rpc => (rpc.field "params").map fun params =>
          (rpc, params) with
      | some (rpc, params) =>
        match (params.field "name").bind textOf with
        | none => base
        | some name =>
          match calledProcess web collate provider config nowMs request name with
          | none => base
          | some descriptor =>
            let id := (rpc.field "id").getD .null
            if exactKeys (argumentsOf (params.field "arguments")) [] then
              .invoked id (gatewayRequest web request.toRequest (descriptor.route.getD "") "POST"
                none none)
            else
              .rpcError { error with id := id, code := -32602, message :=
                "tool arguments do not satisfy the advertised input schema", data := none }
      | none => base
  | _ => base

def handleMcpRequestWithRegisteredProcesses : Option McpAnswer :=
  (handleMcpRequest web originOf registry collate config availability nowMs request).map fun base =>
    if request.header "mcp-method" = some "tools/list" then
      withProcessTools web collate provider config nowMs request base
    else if request.header "mcp-method" = some "tools/call" then
      withProcessCall web collate provider config nowMs request base
    else base

end Endpoint

end McpTransport
