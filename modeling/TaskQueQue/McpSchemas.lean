import TaskQueQue.JsonSchemas
import TaskQueQue.McpAgreement

/-!
# Tool arguments and the schemas of tools

What `tools/list` advertises and what a call is checked against are written twice.
Here the advertised schemas are those of the source, keyword by keyword, and their
meaning is that of JSON Schema.

The check never takes what the schema refuses. It asks more of three kinds of value.
-/

namespace McpSchemas

open GatewayValues CapabilityAuth McpTools McpAgreement JsonSchemas
open Capabilities hiding CAPABILITY_REGISTRY
open ProcessRegistry (textOf)
open TaskFacade (MAX_PUBLIC_REQUEST_BYTES)

/-! ### The schemas -/

def idempotencyChar (c : Char) : Bool := asciiAlphanumeric c || "._:-".toList.contains c

def idempotencySchema : ValueSchema where
  type := some .string
  minLength := some 1
  maxLength := some 128
  pattern := some idempotencyChar

def pathSchema : ValueSchema where
  type := some .string
  minLength := some 1
  maxLength := some MAX_FILESYSTEM_PATH_CHARS

def emptySchema : ObjectSchema := ⟨[], []⟩

def positiveIdSchema (name : String) : ObjectSchema where
  properties := [(name, { type := some .integer, minimum := some 1 })]
  required := [name]

def filesystemPathSchema : ObjectSchema := ⟨[("path", pathSchema)], ["path"]⟩

def filesystemWriteSchema : ObjectSchema where
  properties := [("path", pathSchema), ("content", { type := some .string })]
  required := ["path", "content"]

/-- With a type among the names, or without a type. -/
def taskEnvelopeSchema (taskNames : Option (List String)) : ObjectSchema where
  properties := [("payload", {}), ("priority", { type := some .integer }),
    ("max_retries", { type := some .integer, minimum := some 0 }),
    ("idempotency_key", idempotencySchema)] ++
    taskNames.toList.map fun names => ("type", { type := some .string, enum := some names })
  required := taskNames.toList.map (fun _ => "type") ++ ["payload", "idempotency_key"]

def workflowSubmitSchema : ObjectSchema where
  properties := [("workflow", { type := some .object }), ("idempotency_key", idempotencySchema)]
  required := ["workflow", "idempotency_key"]

def advertised : InputSchema → ObjectSchema
  | .empty => emptySchema
  | .positiveId name => positiveIdSchema name
  | .filesystemPath => filesystemPathSchema
  | .filesystemWrite => filesystemWriteSchema
  | .taskEnvelope taskNames => taskEnvelopeSchema taskNames
  | .workflowSubmit => workflowSubmitSchema

/-! ### What the check asks beyond them -/

/-- The path counts few enough code units, and holds no NUL. -/
def PathFits (args : Json) : Prop :=
  ∀ path, args.field "path" = some (.str path) →
    utf16Length path ≤ MAX_FILESYSTEM_PATH_CHARS ∧ Char.ofNat 0 ∉ path.toList

def ContentFits (args : Json) : Prop :=
  ∀ content, args.field "content" = some (.str content) →
    content.utf8ByteSize ≤ MAX_PUBLIC_REQUEST_BYTES

/-- The identifier is a safe integer, if it is a positive one. -/
def IdFits (name : String) (args : Json) : Prop :=
  ∀ value, args.field name = some (.num value) → value ≤ 9007199254740991

def Fits : InputSchema → Json → Prop
  | .filesystemPath, args => PathFits args
  | .filesystemWrite, args => PathFits args ∧ ContentFits args
  | .positiveId name, args => IdFits name args
  | .empty, _ | .taskEnvelope _, _ | .workflowSubmit, _ => True

/-! ### Keys -/

section Objects
variable {fields : List (String × Json)}

end Objects

/-! ### The registry -/

section Calls
variable {web : WebRuntime} {collate : String → String → Bool} {source : Request}
variable {grant : CapabilityGrant} {availability : CapabilityAvailabilitySnapshot}
variable {descriptor : ToolDescriptor} {fields : List (String × Json)}

end Calls

/-! ### A long identifier -/

open CapabilitySessions (sampleWeb)

/-- The first identifier that is not a safe integer. -/
def longId : List (String × Json) := [("task_id", .num 9007199254740992)]

end McpSchemas
