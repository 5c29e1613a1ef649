import Mathlib.Data.Rat.Defs

/-!
# Values of the gateway

Requests, responses and the JSON values their bodies hold. `JSON.parse`,
`JSON.stringify` and the reading of a bound parameter by an integer column are
the runtime's and the database library's; they are parameters of every handler,
and nothing is assumed of them.

`undefined` is `none`, so the value of a missing field and of a JSON `null` stay
apart: reading a field of the latter throws.
-/

namespace GatewayValues

inductive Json
  | null
  | bool (value : Bool)
  | num (value : ℚ)
  | str (value : String)
  | arr (items : List Json)
  | obj (fields : List (String × Json))

namespace Json

/-- A field of a value that is not `null`. -/
def field (value : Json) (name : String) : Option Json :=
  match value with
  | .obj fields => fields.lookup name
  | _ => none

def truthy : Option Json → Bool
  | none | some .null => false
  | some (.bool value) => value
  | some (.num value) => value ≠ 0
  | some (.str value) => value ≠ ""
  | some (.arr _) | some (.obj _) => true

/-- `left || right`. -/
def orElse (left : Option Json) (right : Json) : Json :=
  if truthy left then left.getD right else right

def items : Option Json → List Json
  | some (.arr values) => values
  | _ => []

/-- The keys of an object; `none` for any other value. -/
def keys : Json → Option (List String)
  | .obj fields => some (fields.map Prod.fst)
  | _ => none

/-- `Number.isInteger`. -/
def integer? : Option Json → Option Int
  | some (.num value) => if value.den = 1 then some value.num else none
  | _ => none

/-- `Number.isSafeInteger`. -/
def safeInteger? (value : Option Json) : Option Int :=
  (integer? value).filter fun n => decide (n.natAbs ≤ 9007199254740991)

end Json

/-- The length of a JavaScript string: its UTF-16 code units. -/
def utf16Length (value : String) : Nat :=
  value.toList.length + value.toList.countP fun c => decide (65536 ≤ c.toNat)

def asciiAlphanumeric (c : Char) : Bool :=
  decide ('a' ≤ c ∧ c ≤ 'z') || decide ('A' ≤ c ∧ c ≤ 'Z') || decide ('0' ≤ c ∧ c ≤ '9')

/-- What stands between two texts in a path, if it is one segment. -/
def segmentBetween (before after path : String) : Option String :=
  let chars := path.toList
  let rest := chars.drop before.length
  let segment := rest.take (rest.length - after.length)
  if before.toList.isPrefixOf chars && after.toList.isSuffixOf rest &&
      !segment.isEmpty && !segment.contains '/' then
    some (String.ofList segment)
  else none

structure Request where
  method : String
  pathname : String
  search : String := ""
  header : String → Option String := fun _ => none
  body : String := ""

structure Response where
  status : Nat
  body : Option Json := none

namespace Response

def error (status : Nat) (message : String) : Response :=
  ⟨status, some (.obj [("error", .str message)])⟩

/-- The public surface's errors carry a code beside the message. -/
def coded (status : Nat) (code message : String) : Response :=
  ⟨status, some (.obj [("error", .obj [("code", .str code), ("message", .str message)])])⟩

end Response

/-- `rowid` is the key an INTEGER PRIMARY KEY column reads in a bound value, if
it can be bound and read as an integer. -/
structure Runtime where
  parse : String → Option Json
  stringify : Json → String
  rowid : Json → Option Int

/-- `await request.json().catch(() => ({}))`. -/
def Runtime.bodyOrEmpty (rt : Runtime) (request : Request) : Json :=
  (rt.parse request.body).getD (.obj [])

/-- What the public surface asks of the platform besides: `Number(text)`, a digest
in hex, a keyed digest of a text, and the JSON that some bytes decode to. -/
structure WebRuntime extends Runtime where
  number : String → Option ℚ
  sha256Hex : String → String
  hmac : String → String → List UInt8
  parseBytes : List UInt8 → Option Json

/-- A runtime that knows the texts of an example: it parses these, writes scalars
as JSON does, and reads integers as keys. -/
def Runtime.reading (texts : List (String × Json)) : Runtime where
  parse := fun text => texts.lookup text
  stringify
    | .null | .arr _ | .obj _ => "null"
    | .bool value => toString value
    | .num value => toString value.num
    | .str value => "\"" ++ value ++ "\""
  rowid
    | .num value => if value.den = 1 then some value.num else none
    | _ => none

end GatewayValues
