import TaskQueQue.UrlValues
import TaskQueQue.WorkflowDags

/-!
# Result references

Before a step is submitted, the worker replaces each result reference in its payload
by a value of an earlier step's result projection. The replacement is an asynchronous
recursion: the entries of an array are resolved together, those of an object one
after another, and the projections read so far are kept for the references to come.

A call of the recursion is a `Pending` value, the state of its promise. Starting a
call runs it to its first `await`; after that a step answers one request, or hands
one awaited entry to its object. The steps of different calls come in any order.
Nothing stops the other entries of an array where one of them is rejected.
-/

namespace ResultReferences

open GatewayValues WorkflowDefinition
open JsonText (NumberFormat NormalItems NormalFields arrayIndex? Precedes)
open UrlValues (guard_ok)
open WorkflowDags

def MAX_RESOLVED_STEP_PAYLOAD_BYTES : Nat := 256 * 1024

/-- A refusal of the references, of what was read for them, or of the configuration. -/
inductive ResolutionError
  | reference (message : String)
  | read (message : String)
  | configuration (message : String)
deriving DecidableEq

/-- The own fields of an object. -/
abbrev Fields := List (String × Json)

/-! ### Selecting a value -/

def descend (current : Json) : List String → Except ResolutionError Json
  | [] => .ok current
  | segment :: rest =>
    match current with
    | .arr items =>
      if !safeArrayIndex segment then
        .error (.read ("result path segment " ++ segment ++ " is not an array index"))
      else
        match items[Nat.ofDigitChars 10 segment.toList 0]? with
        | none => .error (.read ("result path array index " ++ segment ++ " is out of bounds"))
        | some item => descend item rest
    | .obj fields =>
      match fields.lookup segment with
      | none => .error (.read ("result path segment " ++ segment ++ " does not exist"))
      | some value => descend value rest
    | .null | .bool _ | .num _ | .str _ =>
      .error (.read ("result path segment " ++ segment ++ " does not exist"))

def selectPath (root : Fields) (path : String) : Except ResolutionError Json :=
  match parseResultPath path with
  | .error message => .error (.reference message)
  | .ok segments => descend (.obj root) segments

/-! ### Assigning to an object -/

/-- Whether the platform lists a new key before one the object has: array indices come
first, in ascending order, and the others as they were added. -/
def listedBefore (key present : String) : Bool :=
  match arrayIndex? key, arrayIndex? present with
  | some m, some n => decide (m < n)
  | some _, none => true
  | none, _ => false

def put (key : String) (value : Json) : Fields → Fields
  | [] => [(key, value)]
  | (present, old) :: rest =>
    if present = key then (key, value) :: rest
    else if listedBefore key present then (key, value) :: (present, old) :: rest
    else (present, old) :: put key value rest

/-- `output[key] = value` on an object that began as `\x7b\x7d`: a key `__proto__` names the
setter of `Object.prototype`, which makes no field. -/
def assign (output : Fields) (key : String) (value : Json) : Fields :=
  if key = "__proto__" then output else put key value output

/-! ### Calls -/

/-- A call of `resolve`. An object in progress holds what it has, the key and call it
awaits, and the entries and their depth to come. -/
inductive Pending
  | settled (value : Json)
  | rejected (error : ResolutionError)
  | fetching (taskId : Int) (path : String)
  | all (calls : List Pending)
  | assigning (output : Fields) (key : String) (call : Pending) (rest : Fields) (depth : Nat)

/-- What the calls share, and the tasks a projection was requested of. -/
structure Shared where
  cache : List (Int × Fields) := []
  references : Nat := 0
  requests : List Int := []

def settle : Except ResolutionError Json → Pending
  | .ok value => .settled value
  | .error error => .rejected error

section Source
variable (sourceTaskIds : List (String × Int))

def resolveReference (reference : WorkflowResultReference) (s : Shared) : Pending × Shared :=
  let s := { s with references := s.references + 1 }
  if MAX_WORKFLOW_RESULT_REFERENCES < s.references then
    (.rejected (.reference ("workflow supports at most " ++
      toString MAX_WORKFLOW_RESULT_REFERENCES ++ " result references per step")), s)
  else
    match sourceTaskIds.lookup reference.source with
    | none => (.rejected (.reference ("result reference source " ++ reference.source ++
        " is not an available ancestor")), s)
    | some taskId =>
      match s.cache.lookup taskId with
      | some projection => (settle (selectPath projection reference.path), s)
      | none => (.fetching taskId reference.path, { s with requests := s.requests ++ [taskId] })

mutual

/-- A call up to its first `await`. -/
def resolve (depth : Nat) : Json → Shared → Pending × Shared
  | value, s =>
    if MAX_REFERENCE_PAYLOAD_DEPTH < depth then
      (.rejected (.reference ("workflow payload nesting exceeds " ++
        toString MAX_REFERENCE_PAYLOAD_DEPTH)), s)
    else
      match value with
      | .arr items =>
        (.all (resolveItems (depth + 1) items s).1, (resolveItems (depth + 1) items s).2)
      | .obj fields =>
        match parseReference fields with
        | .error message => (.rejected (.reference message), s)
        | .ok (some reference) => resolveReference sourceTaskIds reference s
        | .ok none => resolveFields (depth + 1) [] fields s
      | .null | .bool _ | .num _ | .str _ => (.settled value, s)

/-- `value.map((entry) => resolve(entry, depth + 1))`. -/
def resolveItems (depth : Nat) : List Json → Shared → List Pending × Shared
  | [], s => ([], s)
  | item :: items, s =>
    let started := resolve depth item s
    let later := resolveItems depth items started.2
    (started.1 :: later.1, later.2)

/-- The loop over `Object.entries`, up to its next `await`. -/
def resolveFields (depth : Nat) (output : Fields) : Fields → Shared → Pending × Shared
  | [], s => (.settled (.obj output), s)
  | (key, entry) :: rest, s =>
    let started := resolve depth entry s
    (.assigning output key started.1 rest depth, started.2)

end

end Source

mutual

/-- The value of a promise that was fulfilled. -/
def Pending.value? : Pending → Option Json
  | .settled value => some value
  | .all calls => (values? calls).map Json.arr
  | .rejected _ | .fetching _ _ | .assigning _ _ _ _ _ => none

def Pending.values? : List Pending → Option (List Json)
  | [] => some []
  | call :: calls => (value? call).bind fun value => (values? calls).map (value :: ·)

end

mutual

/-- Whether a promise was rejected: `Promise.all` is with its first entry that is, and
an object with the entry it awaits. -/
def Pending.failed : Pending → Bool
  | .rejected _ => true
  | .all calls => anyFailed calls
  | .assigning _ _ call _ _ => call.failed
  | .settled _ | .fetching _ _ => false

def Pending.anyFailed : List Pending → Bool
  | [] => false
  | call :: calls => call.failed || anyFailed calls

end

/-- What goes on in a call. Each source is a completed task with its one stored
projection: a request for it is answered with that, or fails. -/
inductive Step (sourceTaskIds : List (String × Int)) (projections : Int → Fields) :
    Pending → Shared → Pending → Shared → Prop
  | answered (taskId : Int) (path : String) (s : Shared) :
      Step sourceTaskIds projections (.fetching taskId path) s
        (settle (selectPath (projections taskId) path))
        { s with cache := (taskId, projections taskId) :: s.cache }
  | unanswered (taskId : Int) (path message : String) (s : Shared) :
      Step sourceTaskIds projections (.fetching taskId path) s (.rejected (.read message)) s
  | assigned {output : Fields} {key : String} {call : Pending} {rest : Fields} {depth : Nat}
      {s : Shared} {value : Json} (done : call.value? = some value) :
      Step sourceTaskIds projections (.assigning output key call rest depth) s
        (resolveFields sourceTaskIds depth (assign output key value) rest s).1
        (resolveFields sourceTaskIds depth (assign output key value) rest s).2
  | element {before after : List Pending} {call call' : Pending} {s s' : Shared}
      (step : Step sourceTaskIds projections call s call' s') :
      Step sourceTaskIds projections (.all (before ++ call :: after)) s
        (.all (before ++ call' :: after)) s'
  | entry {output : Fields} {key : String} {call call' : Pending} {rest : Fields} {depth : Nat}
      {s s' : Shared} (step : Step sourceTaskIds projections call s call' s') :
      Step sourceTaskIds projections (.assigning output key call rest depth) s
        (.assigning output key call' rest depth) s'

/-- Any number of steps, of any calls in any order. -/
def Steps (sourceTaskIds : List (String × Int)) (projections : Int → Fields) :
    Pending × Shared → Pending × Shared → Prop :=
  Relation.ReflTransGen fun a b => Step sourceTaskIds projections a.1 a.2 b.1 b.2

theorem Steps.of_step {sourceTaskIds : List (String × Int)} {projections : Int → Fields}
    {call call' : Pending} {s s' : Shared} (step : Step sourceTaskIds projections call s call' s') :
    Steps sourceTaskIds projections (call, s) (call', s') :=
  Relation.ReflTransGen.single step

/-! ### The function -/

structure ResultReferenceConfig where
  origin : String
  requestTimeoutMs : ℚ

/-- What is read of the URL of an origin besides the usual parts. -/
structure OriginUrl extends UrlValues.Url where
  pathname : String
  origin : String

/-- What the function asks of the platform. -/
structure Platform extends Runtime where
  newUrl : String → Option OriginUrl

def normalizeWorkflowResultOrigin (platform : Platform) (raw : String) :
    Except ResolutionError String :=
  match platform.newUrl raw with
  | none => .error (.configuration "Invalid URL")
  | some url =>
    let loopback := ["127.0.0.1", "localhost", "[::1]", "::1"].contains
      (String.ofList (url.hostname.toList.map Char.toLower))
    if url.protocol ≠ "http:" ∨ loopback = false then
      .error (.configuration "WORKFLOW_RESULT_ORIGIN must be a loopback http origin")
    else if url.username ≠ "" ∨ url.password ≠ "" ∨ url.search ≠ "" ∨ url.hash ≠ "" ∨
        (url.pathname ≠ "" ∧ url.pathname ≠ "/") then
      .error (.configuration "WORKFLOW_RESULT_ORIGIN must contain only scheme, host, and port")
    else .ok url.origin

/-- `resolveResultReferences` up to its first `await`. -/
def start (platform : Platform) (config : ResultReferenceConfig)
    (sourceTaskIds : List (String × Int)) (payload : Json) :
    Except ResolutionError (Pending × Shared) :=
  match normalizeWorkflowResultOrigin platform config.origin with
  | .error error => .error error
  | .ok _ =>
    if config.requestTimeoutMs.den ≠ 1 ∨ config.requestTimeoutMs < 100 ∨
        60000 < config.requestTimeoutMs then
      .error (.configuration "workflow result request timeout must be between 100 and 60000")
    else
      match validateResultReferencePayload payload (sourceTaskIds.map Prod.fst) with
      | .error message => .error (.reference message)
      | .ok _ => .ok (resolve sourceTaskIds 0 payload { })

/-- What is left once the payload is resolved. -/
def finish (platform : Platform) (resolved : Json) : Except ResolutionError Json :=
  if MAX_RESOLVED_STEP_PAYLOAD_BYTES < (platform.stringify resolved).utf8ByteSize then
    .error (.read "resolved workflow step payload exceeds 256 KiB")
  else .ok resolved

/-- `resolveResultReferences` can return `value`: some order of answers leads to it. -/
def Returns (platform : Platform) (config : ResultReferenceConfig)
    (sourceTaskIds : List (String × Int)) (projections : Int → Fields) (payload value : Json) :
    Prop :=
  ∃ first last resolved, start platform config sourceTaskIds payload = .ok first ∧
    Steps sourceTaskIds projections first last ∧ last.1.value? = some resolved ∧
    finish platform resolved = .ok value

theorem start_ok {platform : Platform} {config : ResultReferenceConfig}
    {sourceTaskIds : List (String × Int)} {payload : Json} {first : Pending × Shared}
    (h : start platform config sourceTaskIds payload = .ok first) :
    (∃ n, validateResultReferencePayload payload (sourceTaskIds.map Prod.fst) = .ok n) ∧
      first = resolve sourceTaskIds 0 payload { } := by
  unfold start at h
  split at h
  · cases h
  · obtain ⟨-, h⟩ := guard_ok h
    split at h
    · cases h
    · rename_i n accepted
      cases h
      exact ⟨⟨n, accepted⟩, rfl⟩

/-! ### Substitution -/

section Substitution
variable (sourceTaskIds : List (String × Int)) (projections : Int → Fields)

/-- What a reference stands for: the value its path selects in its source's projection. -/
def referred (reference : WorkflowResultReference) : Option Json :=
  (sourceTaskIds.lookup reference.source).bind fun taskId =>
    (selectPath (projections taskId) reference.path).toOption

mutual

/-- The payload with each reference object replaced by what it stands for. -/
def substitute : Json → Option Json
  | .arr items => (substituteItems items).map Json.arr
  | .obj fields =>
    match parseReference fields with
    | .error _ => none
    | .ok (some reference) => referred sourceTaskIds projections reference
    | .ok none => (substituteFields fields).map Json.obj
  | .null => some .null
  | .bool value => some (.bool value)
  | .num value => some (.num value)
  | .str value => some (.str value)

def substituteItems : List Json → Option (List Json)
  | [] => some []
  | item :: items => (substitute item).bind fun value => (substituteItems items).map (value :: ·)

def substituteFields : Fields → Option Fields
  | [] => some []
  | (key, entry) :: rest =>
    (substitute entry).bind fun value => (substituteFields rest).map ((key, value) :: ·)

end

mutual

/-- What the recursion computes where nothing fails. -/
def rebuild : Json → Option Json
  | .arr items => (rebuildItems items).map Json.arr
  | .obj fields =>
    match parseReference fields with
    | .error _ => none
    | .ok (some reference) => referred sourceTaskIds projections reference
    | .ok none => (rebuildFields [] fields).map Json.obj
  | .null => some .null
  | .bool value => some (.bool value)
  | .num value => some (.num value)
  | .str value => some (.str value)

def rebuildItems : List Json → Option (List Json)
  | [] => some []
  | item :: items => (rebuild item).bind fun value => (rebuildItems items).map (value :: ·)

def rebuildFields (output : Fields) : Fields → Option Fields
  | [] => some output
  | (key, entry) :: rest =>
    (rebuild entry).bind fun value => rebuildFields (assign output key value) rest

end

mutual

/-- What a call comes to where every request to come is answered. -/
def outcome : Pending → Option Json
  | .settled value => some value
  | .rejected _ => none
  | .fetching taskId path => (selectPath (projections taskId) path).toOption
  | .all calls => (outcomes calls).map Json.arr
  | .assigning output key call rest _ =>
    (outcome call).bind fun value =>
      (rebuildFields sourceTaskIds projections (assign output key value) rest).map Json.obj

def outcomes : List Pending → Option (List Json)
  | [] => some []
  | call :: calls => (outcome call).bind fun value => (outcomes calls).map (value :: ·)

end

end Substitution

/-! ### What a start does -/

def isScalar : Json → Bool
  | .null | .bool _ | .num _ | .str _ => true
  | .arr _ | .obj _ => false

/-- Induction on a value, with its scalars in one case. -/
theorem json_induction {P : Json → Prop} {Q : List Json → Prop} {R : Fields → Prop}
    (scalar : ∀ value, isScalar value = true → P value)
    (arr : ∀ items, Q items → P (.arr items)) (obj : ∀ fields, R fields → P (.obj fields))
    (nil : Q []) (cons : ∀ item items, P item → Q items → Q (item :: items))
    (empty : R []) (field : ∀ key entry rest, P entry → R rest → R ((key, entry) :: rest))
    (value : Json) : P value :=
  @Json.rec P Q R (fun field => P field.2) (scalar .null rfl) (fun _ => scalar _ rfl)
    (fun _ => scalar _ rfl) (fun _ => scalar _ rfl) arr obj nil cons empty
    (fun entry rest head tail => field entry.1 entry.2 rest head tail) (fun _ _ head => head) value

section Source
variable (sourceTaskIds : List (String × Int)) (depth : Nat) (s : Shared)

theorem resolve_scalar {value : Json} (flat : isScalar value = true) :
    (∃ error, resolve sourceTaskIds depth value s = (.rejected error, s)) ∧
        ¬ Readable depth value ∨
      resolve sourceTaskIds depth value s = (.settled value, s) := by
  by_cases deep : MAX_REFERENCE_PAYLOAD_DEPTH < depth
  · left
    have unreadable : ¬ depth ≤ MAX_REFERENCE_PAYLOAD_DEPTH := Nat.not_le.mpr deep
    cases value with
    | null | bool _ | num _ | str _ =>
      rw [resolve, if_pos deep, Readable]
      exact ⟨⟨_, rfl⟩, unreadable⟩
    | arr _ | obj _ => cases flat
  · right
    cases value with
    | null | bool _ | num _ | str _ => rw [resolve, if_neg deep]
    | arr _ | obj _ => cases flat

theorem resolve_arr (items : List Json) :
    (∃ error, resolve sourceTaskIds depth (.arr items) s = (.rejected error, s)) ∧
        ¬ Readable depth (.arr items) ∨
      resolve sourceTaskIds depth (.arr items) s =
        (.all (resolveItems sourceTaskIds (depth + 1) items s).1,
          (resolveItems sourceTaskIds (depth + 1) items s).2) := by
  rw [resolve]
  by_cases deep : MAX_REFERENCE_PAYLOAD_DEPTH < depth
  · rw [if_pos deep, Readable]
    exact Or.inl ⟨⟨_, rfl⟩, fun readable => absurd readable.1 (Nat.not_le.mpr deep)⟩
  · rw [if_neg deep]
    exact Or.inr rfl

theorem resolve_obj (fields : Fields) :
    (∃ error, resolve sourceTaskIds depth (.obj fields) s = (.rejected error, s)) ∧
        ¬ Readable depth (.obj fields) ∨
      (∃ reference, parseReference fields = .ok (some reference) ∧
        resolve sourceTaskIds depth (.obj fields) s = resolveReference sourceTaskIds reference s) ∨
      parseReference fields = .ok none ∧ resolve sourceTaskIds depth (.obj fields) s =
        resolveFields sourceTaskIds (depth + 1) [] fields s := by
  rw [resolve, Readable]
  by_cases deep : MAX_REFERENCE_PAYLOAD_DEPTH < depth
  · rw [if_pos deep]
    exact Or.inl ⟨⟨_, rfl⟩, fun readable => absurd readable.1 (Nat.not_le.mpr deep)⟩
  rw [if_neg deep]
  rcases parseReference fields with message | _ | reference
  · exact Or.inl ⟨⟨_, rfl⟩, fun readable => readable.2⟩
  · exact Or.inr (Or.inr ⟨rfl, rfl⟩)
  · exact Or.inr (Or.inl ⟨reference, rfl, rfl⟩)

/-- A start requests at most one projection for each reference, and reads none. -/
theorem resolveReference_cases (reference : WorkflowResultReference) :
    (∃ error, resolveReference sourceTaskIds reference s =
        (.rejected error, { s with references := s.references + 1 })) ∧
        (MAX_WORKFLOW_RESULT_REFERENCES ≤ s.references ∨
          sourceTaskIds.lookup reference.source = none) ∨
      ∃ taskId, sourceTaskIds.lookup reference.source = some taskId ∧
        ((∃ projection, s.cache.lookup taskId = some projection ∧
          resolveReference sourceTaskIds reference s =
            (settle (selectPath projection reference.path),
              { s with references := s.references + 1 })) ∨
        s.cache.lookup taskId = none ∧ resolveReference sourceTaskIds reference s =
          (.fetching taskId reference.path, { s with
            references := s.references + 1, requests := s.requests ++ [taskId] })) := by
  unfold resolveReference
  dsimp only
  by_cases many : MAX_WORKFLOW_RESULT_REFERENCES < s.references + 1
  · rw [if_pos many]
    exact Or.inl ⟨⟨_, rfl⟩, Or.inl (Nat.lt_succ_iff.mp many)⟩
  rw [if_neg many]
  cases source : sourceTaskIds.lookup reference.source with
  | none => exact Or.inl ⟨⟨_, rfl⟩, Or.inr rfl⟩
  | some taskId =>
    dsimp only
    cases held : s.cache.lookup taskId with
    | some projection => exact Or.inr ⟨taskId, rfl, Or.inl ⟨projection, held, rfl⟩⟩
    | none => exact Or.inr ⟨taskId, rfl, Or.inr ⟨held, rfl⟩⟩

theorem resolveReference_cache (reference : WorkflowResultReference) :
    (resolveReference sourceTaskIds reference s).2.cache = s.cache := by
  rcases resolveReference_cases sourceTaskIds s reference with
    ⟨⟨error, same⟩, -⟩ | ⟨taskId, -, ⟨projection, -, same⟩ | ⟨-, same⟩⟩ <;> rw [same]

end Source

/-- Starting a call leaves the cache as it is. -/
theorem resolve_cache (sourceTaskIds : List (String × Int)) (value : Json) :
    ∀ depth s, (resolve sourceTaskIds depth value s).2.cache = s.cache := by
  refine json_induction (P := fun value => ∀ depth s,
      (resolve sourceTaskIds depth value s).2.cache = s.cache)
    (Q := fun items => ∀ depth s, (resolveItems sourceTaskIds depth items s).2.cache = s.cache)
    (R := fun fields => ∀ depth output s,
      (resolveFields sourceTaskIds depth output fields s).2.cache = s.cache)
    ?_ ?_ ?_ ?_ ?_ ?_ ?_ value
  · intro value flat depth s
    rcases resolve_scalar sourceTaskIds depth s flat with ⟨⟨error, same⟩, -⟩ | same <;> rw [same]
  · intro items ih depth s
    rcases resolve_arr sourceTaskIds depth s items with ⟨⟨error, same⟩, -⟩ | same <;> rw [same]
    exact ih (depth + 1) s
  · intro fields ih depth s
    rcases resolve_obj sourceTaskIds depth s fields with
      ⟨⟨error, same⟩, -⟩ | ⟨reference, -, same⟩ | ⟨-, same⟩ <;> rw [same]
    · exact resolveReference_cache sourceTaskIds s reference
    · exact ih (depth + 1) [] s
  · intro depth s
    rw [resolveItems]
  · intro item items head tail depth s
    rw [resolveItems]
    exact (tail depth _).trans (head depth s)
  · intro depth output s
    rw [resolveFields]
  · intro key entry rest head tail depth output s
    rw [resolveFields]
    exact head depth s

theorem resolveFields_cache (sourceTaskIds : List (String × Int)) (depth : Nat)
    (output fields : Fields) (s : Shared) :
    (resolveFields sourceTaskIds depth output fields s).2.cache = s.cache := by
  cases fields with
  | nil => rw [resolveFields]
  | cons field rest =>
    rw [resolveFields]
    exact resolve_cache sourceTaskIds field.2 depth s

/-! ### What a run computes -/

section Runs
variable {sourceTaskIds : List (String × Int)} {projections : Int → Fields}

/-- The cache holds projections of their tasks. -/
def Kept (projections : Int → Fields) (s : Shared) : Prop :=
  ∀ taskId projection, s.cache.lookup taskId = some projection → projection = projections taskId

theorem failed_settle {result : Except ResolutionError Json}
    (running : (settle result).failed = false) :
    ∃ value, result = .ok value ∧ settle result = .settled value := by
  cases result with
  | ok value => exact ⟨value, rfl, rfl⟩
  | error error => cases running

theorem outcome_resolveReference {s : Shared} (kept : Kept projections s)
    (reference : WorkflowResultReference)
    (running : (resolveReference sourceTaskIds reference s).1.failed = false) :
    outcome sourceTaskIds projections (resolveReference sourceTaskIds reference s).1 =
      referred sourceTaskIds projections reference := by
  rcases resolveReference_cases sourceTaskIds s reference with
    ⟨⟨error, same⟩, -⟩ | ⟨taskId, source, ⟨projection, held, same⟩ | ⟨-, same⟩⟩
  · rw [same] at running
    cases running
  · rw [same] at running ⊢
    obtain ⟨value, selected, settled⟩ := failed_settle running
    rw [referred, source, settled, outcome, Option.bind_some, ← kept taskId projection held,
      selected]
    rfl
  · rw [same, referred, source, outcome, Option.bind_some]

/-- A call of the value comes to what the recursion computes, if it is not rejected at
its start. -/
def StartsRight (sourceTaskIds : List (String × Int)) (projections : Int → Fields)
    (value : Json) : Prop :=
  ∀ depth s, Kept projections s → (resolve sourceTaskIds depth value s).1.failed = false →
    outcome sourceTaskIds projections (resolve sourceTaskIds depth value s).1 =
      rebuild sourceTaskIds projections value

theorem outcome_resolveFields {fields : Fields} {depth : Nat} {output : Fields} {s : Shared}
    (each : ∀ field ∈ fields, StartsRight sourceTaskIds projections field.2)
    (kept : Kept projections s)
    (running : (resolveFields sourceTaskIds depth output fields s).1.failed = false) :
    outcome sourceTaskIds projections (resolveFields sourceTaskIds depth output fields s).1 =
      (rebuildFields sourceTaskIds projections output fields).map Json.obj := by
  cases fields with
  | nil =>
    rw [resolveFields, outcome, rebuildFields]
    rfl
  | cons field rest =>
    obtain ⟨key, entry⟩ := field
    rw [resolveFields, Pending.failed] at running
    rw [resolveFields, outcome, rebuildFields,
      each (key, entry) List.mem_cons_self depth s kept running, Option.map_bind]
    rfl

theorem outcome_resolve (value : Json) : StartsRight sourceTaskIds projections value := by
  refine json_induction (P := StartsRight sourceTaskIds projections)
    (Q := fun items => ∀ depth s, Kept projections s →
      Pending.anyFailed (resolveItems sourceTaskIds depth items s).1 = false →
        outcomes sourceTaskIds projections (resolveItems sourceTaskIds depth items s).1 =
          rebuildItems sourceTaskIds projections items)
    (R := fun fields => ∀ field ∈ fields, StartsRight sourceTaskIds projections field.2)
    ?_ ?_ ?_ ?_ ?_ ?_ ?_ value
  · intro value flat depth s kept running
    rcases resolve_scalar sourceTaskIds depth s flat with ⟨⟨error, same⟩, -⟩ | same
    · rw [same] at running
      cases running
    · rw [same, outcome]
      cases value with
      | null | bool _ | num _ | str _ => rw [rebuild]
      | arr _ | obj _ => cases flat
  · intro items ih depth s kept running
    rcases resolve_arr sourceTaskIds depth s items with ⟨⟨error, same⟩, -⟩ | same
    · rw [same] at running
      cases running
    · rw [same, Pending.failed] at running
      rw [same, outcome, rebuild, ih (depth + 1) s kept running]
  · intro fields ih depth s kept running
    rcases resolve_obj sourceTaskIds depth s fields with
      ⟨⟨error, same⟩, -⟩ | ⟨reference, parsed, same⟩ | ⟨parsed, same⟩
    · rw [same] at running
      cases running
    · rw [same] at running
      rw [same, rebuild, parsed]
      exact outcome_resolveReference kept reference running
    · rw [same] at running
      rw [same, rebuild, parsed]
      exact outcome_resolveFields ih kept running
  · intro depth s kept running
    rw [resolveItems, outcomes, rebuildItems]
  · intro item items head tail depth s kept running
    rw [resolveItems, Pending.anyFailed, Bool.or_eq_false_iff] at running
    have kept' : Kept projections (resolve sourceTaskIds depth item s).2 := by
      unfold Kept
      rw [resolve_cache]
      exact kept
    rw [resolveItems, outcomes, rebuildItems, head depth s kept running.1,
      tail depth _ kept' running.2]
  · exact List.forall_mem_nil _
  · intro key entry rest head tail
    exact List.forall_mem_cons.mpr ⟨head, tail⟩

mutual

/-- A promise that was fulfilled was not rejected, and comes to its value. -/
theorem outcome_value : (call : Pending) → (value : Json) → call.value? = some value →
    call.failed = false ∧ outcome sourceTaskIds projections call = some value
  | .settled _, value, done => by
    rw [Pending.value?] at done
    rw [Pending.failed, outcome]
    exact ⟨rfl, done⟩
  | .all calls, value, done => by
    rw [Pending.value?] at done
    obtain ⟨values, each, rfl⟩ := Option.map_eq_some_iff.mp done
    obtain ⟨running, same⟩ := outcomes_values calls values each
    rw [Pending.failed, outcome, same]
    exact ⟨running, rfl⟩
  | .rejected _, value, done => by
    rw [Pending.value?] at done
    cases done
  | .fetching _ _, value, done => by
    rw [Pending.value?] at done
    cases done
  | .assigning _ _ _ _ _, value, done => by
    rw [Pending.value?] at done
    cases done

theorem outcomes_values : (calls : List Pending) → (values : List Json) →
    Pending.values? calls = some values →
      Pending.anyFailed calls = false ∧ outcomes sourceTaskIds projections calls = some values
  | [], values, done => by
    rw [Pending.values?] at done
    rw [Pending.anyFailed, outcomes]
    exact ⟨rfl, done⟩
  | call :: calls, values, done => by
    rw [Pending.values?] at done
    obtain ⟨value, first, done⟩ := Option.bind_eq_some_iff.mp done
    obtain ⟨rest, later, rfl⟩ := Option.map_eq_some_iff.mp done
    obtain ⟨running, same⟩ := outcome_value call value first
    obtain ⟨running', same'⟩ := outcomes_values calls rest later
    rw [Pending.anyFailed, outcomes, running, running', same, same']
    exact ⟨rfl, rfl⟩

end

theorem anyFailed_append (before : List Pending) (call : Pending) (after : List Pending) :
    Pending.anyFailed (before ++ call :: after) =
      (call.failed || Pending.anyFailed (before ++ after)) := by
  induction before with
  | nil => rfl
  | cons first before ih =>
    rw [List.cons_append, List.cons_append, Pending.anyFailed, Pending.anyFailed, ih,
      Bool.or_left_comm]

theorem outcomes_congr {call call' : Pending} (before after : List Pending)
    (same : outcome sourceTaskIds projections call' = outcome sourceTaskIds projections call) :
    outcomes sourceTaskIds projections (before ++ call' :: after) =
      outcomes sourceTaskIds projections (before ++ call :: after) := by
  induction before with
  | nil => rw [List.nil_append, List.nil_append, outcomes, outcomes, same]
  | cons first before ih => rw [List.cons_append, List.cons_append, outcomes, outcomes, ih]

theorem kept_answer {s : Shared} (kept : Kept projections s) (taskId : Int) :
    Kept projections { s with cache := (taskId, projections taskId) :: s.cache } := by
  intro other projection held
  rw [List.lookup_cons] at held
  split at held
  · rename_i found
    rw [eq_of_beq found, ← Option.some.inj held]
  · exact kept other projection held

/-- A step that leaves a call unrejected leaves what it comes to. -/
theorem step_outcome {call call' : Pending} {s s' : Shared}
    (step : Step sourceTaskIds projections call s call' s') (kept : Kept projections s) :
    Kept projections s' ∧ (call'.failed = false → call.failed = false ∧
      outcome sourceTaskIds projections call' = outcome sourceTaskIds projections call) := by
  induction step with
  | answered taskId path s =>
    refine ⟨kept_answer kept taskId, fun running => ?_⟩
    obtain ⟨value, selected, settled⟩ := failed_settle running
    rw [settled, Pending.failed, outcome, outcome, selected]
    exact ⟨rfl, rfl⟩
  | unanswered taskId path message s => exact ⟨kept, fun running => (nomatch running)⟩
  | @assigned output key call rest depth s value done =>
    refine ⟨fun taskId projection held => kept taskId projection ?_, fun running => ?_⟩
    · rwa [resolveFields_cache] at held
    · obtain ⟨first, same⟩ := outcome_value call value done
      rw [Pending.failed, first, outcome, same,
        outcome_resolveFields (fun field _ => outcome_resolve field.2) kept running]
      exact ⟨rfl, rfl⟩
  | @element before after call call' s s' step ih =>
    obtain ⟨kept', same⟩ := ih kept
    refine ⟨kept', fun running => ?_⟩
    rw [Pending.failed, anyFailed_append, Bool.or_eq_false_iff] at running
    obtain ⟨first, same⟩ := same running.1
    rw [Pending.failed, anyFailed_append, first, running.2, outcome, outcome,
      outcomes_congr before after same]
    exact ⟨rfl, rfl⟩
  | @entry output key call call' rest depth s s' step ih =>
    obtain ⟨kept', same⟩ := ih kept
    refine ⟨kept', fun running => ?_⟩
    rw [Pending.failed] at running
    obtain ⟨first, same⟩ := same running
    rw [Pending.failed, first, outcome, outcome, same]
    exact ⟨rfl, rfl⟩

/-- A run that fulfills a call has computed what the call came to. -/
theorem steps_outcome {first last : Pending × Shared}
    (steps : Steps sourceTaskIds projections first last) (kept : Kept projections first.2) :
    Kept projections last.2 ∧ (last.1.failed = false → first.1.failed = false ∧
      outcome sourceTaskIds projections last.1 = outcome sourceTaskIds projections first.1) := by
  induction steps with
  | refl => exact ⟨kept, fun running => ⟨running, rfl⟩⟩
  | tail _ step ih =>
    obtain ⟨kept', same⟩ := ih
    obtain ⟨kept'', same'⟩ := step_outcome step kept'
    refine ⟨kept'', fun running => ?_⟩
    obtain ⟨running', last⟩ := same' running
    obtain ⟨running'', earlier⟩ := same running'
    exact ⟨running'', last.trans earlier⟩

theorem returns_rebuilt {platform : Platform} {config : ResultReferenceConfig}
    {payload value : Json}
    (h : Returns platform config sourceTaskIds projections payload value) :
    rebuild sourceTaskIds projections payload = some value := by
  obtain ⟨first, last, resolved, started, steps, done, finished⟩ := h
  obtain ⟨-, rfl⟩ := start_ok started
  have empty : Kept projections { } := fun taskId projection held => (nomatch held)
  have kept : Kept projections (resolve sourceTaskIds 0 payload { }).2 := by
    unfold Kept
    rw [resolve_cache]
    exact empty
  obtain ⟨running, comes⟩ := outcome_value last.1 resolved done
  obtain ⟨running', same⟩ := (steps_outcome steps kept).2 running
  have returned : resolved = value := by
    obtain ⟨-, finished⟩ := guard_ok finished
    exact Except.ok.inj finished
  rw [← outcome_resolve payload 0 { } empty running', ← same, comes, returned]

end Runs

/-! ### Keys -/

mutual

/-- No object but a result reference has a key `__proto__`. -/
def PlainKeys : Json → Prop
  | .arr items => PlainItems items
  | .obj fields =>
    match parseReference fields with
    | .ok none => PlainFields fields
    | .ok (some _) | .error _ => True
  | .null | .bool _ | .num _ | .str _ => True

def PlainItems : List Json → Prop
  | [] => True
  | item :: items => PlainKeys item ∧ PlainItems items

def PlainFields : Fields → Prop
  | [] => True
  | (key, entry) :: rest => key ≠ "__proto__" ∧ PlainKeys entry ∧ PlainFields rest

end

theorem not_listedBefore {present key : String} (order : Precedes present key) :
    present ≠ key ∧ listedBefore key present = false := by
  unfold Precedes at order
  unfold listedBefore
  cases index : arrayIndex? present with
  | none =>
    rw [index] at order
    cases other : arrayIndex? key with
    | none =>
      rw [other] at order
      exact ⟨order, rfl⟩
    | some n =>
      rw [other] at order
      exact order.elim
  | some m =>
    rw [index] at order
    cases other : arrayIndex? key with
    | none =>
      rw [other] at order
      exact ⟨order, rfl⟩
    | some n =>
      rw [other] at order
      refine ⟨?_, decide_eq_false (Nat.lt_asymm order)⟩
      rintro rfl
      rw [index] at other
      cases other
      exact Nat.lt_irrefl _ order

/-- A key that comes after all others is listed last. -/
theorem put_last {key : String} (value : Json) {output : Fields}
    (order : ∀ field ∈ output, Precedes field.1 key) :
    put key value output = output ++ [(key, value)] := by
  induction output with
  | nil => rfl
  | cons field rest ih =>
    obtain ⟨present, old⟩ := field
    obtain ⟨first, later⟩ := List.forall_mem_cons.mp order
    obtain ⟨other, after⟩ := not_listedBefore first
    rw [put, if_neg other, after, if_neg Bool.false_ne_true, ih later, List.cons_append]

section Keys
variable (sourceTaskIds : List (String × Int)) (projections : Int → Fields)

/-- What the recursion makes of a value is its substitution exactly if its keys are plain. -/
def RebuiltRight (value : Json) : Prop :=
  ∀ rebuilt, rebuild sourceTaskIds projections value = some rebuilt →
    ∃ meant, substitute sourceTaskIds projections value = some meant ∧
      (rebuilt = meant ↔ PlainKeys value)

variable {sourceTaskIds projections}

theorem length_substituteFields {fields meant : Fields}
    (h : substituteFields sourceTaskIds projections fields = some meant) :
    meant.length = fields.length := by
  induction fields generalizing meant with
  | nil =>
    rw [substituteFields] at h
    cases h
    rfl
  | cons field rest ih =>
    rw [substituteFields] at h
    obtain ⟨value, -, h⟩ := Option.bind_eq_some_iff.mp h
    obtain ⟨meant', later, rfl⟩ := Option.map_eq_some_iff.mp h
    rw [List.length_cons, List.length_cons, ih later]

/-- The loop adds the entries in order, without those under `__proto__`. -/
theorem rebuildFields_right {fields : Fields} (order : (fields.map Prod.fst).Pairwise Precedes)
    (each : ∀ field ∈ fields, RebuiltRight sourceTaskIds projections field.2)
    {output built : Fields}
    (before : ∀ field ∈ output, ∀ key ∈ fields.map Prod.fst, Precedes field.1 key)
    (h : rebuildFields sourceTaskIds projections output fields = some built) :
    ∃ added meant, built = output ++ added ∧ added.length ≤ fields.length ∧
      substituteFields sourceTaskIds projections fields = some meant ∧
      (added = meant ↔ PlainFields fields) := by
  induction fields generalizing output with
  | nil =>
    rw [rebuildFields] at h
    cases h
    refine ⟨[], [], (List.append_nil _).symm, Nat.le_refl _, ?_, ?_⟩
    · rw [substituteFields]
    · rw [PlainFields]
      exact ⟨fun _ => trivial, fun _ => rfl⟩
  | cons field rest ih =>
    obtain ⟨key, entry⟩ := field
    rw [rebuildFields] at h
    obtain ⟨value, first, h⟩ := Option.bind_eq_some_iff.mp h
    obtain ⟨here, later⟩ := List.forall_mem_cons.mp each
    obtain ⟨value', meantFirst, right⟩ := here value first
    rw [List.map_cons, List.pairwise_cons] at order
    have beforeRest : ∀ field ∈ output, ∀ key ∈ rest.map Prod.fst, Precedes field.1 key :=
      fun field mem other known => before field mem other (List.mem_cons_of_mem _ known)
    rw [substituteFields, meantFirst, PlainFields]
    by_cases special : key = "__proto__"
    · rw [assign, if_pos special] at h
      obtain ⟨added, meant, same, short, meantLater, -⟩ := ih order.2 later beforeRest h
      refine ⟨added, (key, value') :: meant, same, Nat.le_succ_of_le short, ?_, ?_⟩
      · rw [Option.bind_some, meantLater]
        rfl
      · constructor
        · rintro rfl
          have long := length_substituteFields meantLater
          rw [List.length_cons] at short
          omega
        · exact fun plain => absurd special plain.1
    · have last : ∀ field ∈ output, Precedes field.1 key :=
        fun field mem => before field mem key List.mem_cons_self
      rw [assign, if_neg special, put_last value last] at h
      have before' : ∀ field ∈ output ++ [(key, value)], ∀ other ∈ rest.map Prod.fst,
          Precedes field.1 other := by
        intro field mem other known
        rcases List.mem_append.mp mem with mem | mem
        · exact beforeRest field mem other known
        · rw [List.mem_singleton.mp mem]
          exact order.1 other known
      obtain ⟨added, meant, same, short, meantLater, plain⟩ := ih order.2 later before' h
      refine ⟨(key, value) :: added, (key, value') :: meant, ?_, Nat.succ_le_succ short, ?_, ?_⟩
      · rw [same, List.append_assoc, List.singleton_append]
      · rw [Option.bind_some, meantLater]
        rfl
      · rw [List.cons.injEq, Prod.mk.injEq, right, plain]
        exact ⟨fun h => ⟨special, h.1.2, h.2⟩, fun h => ⟨⟨rfl, h.2.1⟩, h.2.2⟩⟩

theorem rebuilt_right {format : NumberFormat} (value : Json) :
    JsonText.Normal format value → RebuiltRight sourceTaskIds projections value := by
  refine json_induction
    (P := fun value => JsonText.Normal format value → RebuiltRight sourceTaskIds projections value)
    (Q := fun items => NormalItems format items →
      ∀ rebuilt, rebuildItems sourceTaskIds projections items = some rebuilt →
        ∃ meant, substituteItems sourceTaskIds projections items = some meant ∧
          (rebuilt = meant ↔ PlainItems items))
    (R := fun fields => NormalFields format fields →
      ∀ field ∈ fields, RebuiltRight sourceTaskIds projections field.2)
    ?_ ?_ ?_ ?_ ?_ ?_ ?_ value
  · intro value flat _ rebuilt h
    cases value with
    | null | bool _ | num _ | str _ =>
      rw [rebuild] at h
      rw [substitute, PlainKeys]
      cases h
      exact ⟨_, rfl, fun _ => trivial, fun _ => rfl⟩
    | arr _ | obj _ => cases flat
  · intro items ih normal rebuilt h
    rw [JsonText.Normal] at normal
    rw [rebuild] at h
    obtain ⟨built, each, rfl⟩ := Option.map_eq_some_iff.mp h
    obtain ⟨meant, substituted, plain⟩ := ih normal built each
    rw [substitute, PlainKeys, substituted, ← plain]
    exact ⟨.arr meant, rfl, Json.arr.injEq built meant ▸ Iff.rfl⟩
  · intro fields ih normal rebuilt h
    rw [JsonText.Normal] at normal
    rw [rebuild] at h
    rw [substitute, PlainKeys]
    rcases parsed : parseReference fields with message | _ | reference <;> rw [parsed] at h
    · cases h
    · obtain ⟨built, each, rfl⟩ := Option.map_eq_some_iff.mp h
      obtain ⟨added, meant, rfl, -, substituted, plain⟩ :=
        rebuildFields_right normal.1 (ih normal.2) (List.forall_mem_nil _) each
      rw [substituted]
      refine ⟨.obj meant, rfl, ?_⟩
      dsimp only
      rw [← plain, Json.obj.injEq]
    · exact ⟨rebuilt, h, fun _ => trivial, fun _ => rfl⟩
  · intro _ rebuilt h
    rw [rebuildItems] at h
    cases h
    rw [substituteItems, PlainItems]
    exact ⟨[], rfl, fun _ => trivial, fun _ => rfl⟩
  · intro item items head tail normal rebuilt h
    rw [NormalItems] at normal
    rw [rebuildItems] at h
    obtain ⟨value, first, h⟩ := Option.bind_eq_some_iff.mp h
    obtain ⟨rest, later, rfl⟩ := Option.map_eq_some_iff.mp h
    obtain ⟨meant, substituted, plain⟩ := head normal.1 value first
    obtain ⟨meant', substituted', plain'⟩ := tail normal.2 rest later
    rw [substituteItems, PlainItems, substituted, substituted', ← plain, ← plain']
    exact ⟨meant :: meant', rfl, List.cons.injEq value rest meant meant' ▸ Iff.rfl⟩
  · exact fun _ => List.forall_mem_nil _
  · intro key entry rest head tail normal
    rw [NormalFields] at normal
    exact List.forall_mem_cons.mpr ⟨head normal.1, tail normal.2⟩

end Keys

/-- What a resolution returns is the payload with each reference replaced by what it
stands for exactly if no object of the payload has a key `__proto__`. -/
theorem resolution_substitutes_iff {platform : Platform} {config : ResultReferenceConfig}
    {sourceTaskIds : List (String × Int)} {projections : Int → Fields} {payload value : Json}
    {F : NumberFormat} (normal : JsonText.Normal F payload)
    (returned : Returns platform config sourceTaskIds projections payload value) :
    substitute sourceTaskIds projections payload = some value ↔ PlainKeys payload := by
  obtain ⟨meant, substituted, plain⟩ :=
    rebuilt_right payload normal value (returns_rebuilt returned)
  rw [substituted, ← plain, Option.some.injEq, eq_comm]

/-! ### Resolutions on fixed payloads -/

/-- A platform that knows one origin and writes scalars. -/
def localPlatform : Platform where
  toRuntime := Runtime.reading []
  newUrl _ :=
    some ⟨⟨"http:", "", "", "127.0.0.1", "7331", "", "", []⟩, "/", "http://127.0.0.1:7331"⟩

def localConfig : ResultReferenceConfig := ⟨"http://127.0.0.1:7331", 2000⟩

theorem start_local {sourceTaskIds : List (String × Int)} {payload : Json}
    (accepted : ∃ n, validateResultReferencePayload payload (sourceTaskIds.map Prod.fst) = .ok n) :
    start localPlatform localConfig sourceTaskIds payload =
      .ok (resolve sourceTaskIds 0 payload { }) := by
  obtain ⟨n, accepted⟩ := accepted
  have configured : normalizeWorkflowResultOrigin localPlatform localConfig.origin =
      .ok "http://127.0.0.1:7331" := by decide +kernel
  have bounded : ¬(localConfig.requestTimeoutMs.den ≠ 1 ∨ localConfig.requestTimeoutMs < 100 ∨
      60000 < localConfig.requestTimeoutMs) := by decide
  rw [start, configured, if_neg bounded, accepted]

theorem returns_of_steps {sourceTaskIds : List (String × Int)} {projections : Int → Fields}
    {payload value : Json} {l : Pending × Shared}
    (accepted : ∃ n, validateResultReferencePayload payload (sourceTaskIds.map Prod.fst) = .ok n)
    (steps : Steps sourceTaskIds projections (resolve sourceTaskIds 0 payload { }) l)
    (done : l.1.value? = some value)
    (short : finish localPlatform value = .ok value) :
    Returns localPlatform localConfig sourceTaskIds projections payload value :=
  ⟨_, l, value, start_local accepted, steps, done, short⟩

/-- The payload of the test, and the projection of its source. -/
def digestPayload : Json :=
  .obj [("first", .obj [("$from", .str "source"), ("path", .str "digest")])]

def digestProjections (_ : Int) : Fields := [("digest", .str "abc123")]

theorem digest_returns : Returns localPlatform localConfig [("source", 41)] digestProjections
    digestPayload (.obj [("first", .str "abc123")]) := by
  have first : Step [("source", 41)] digestProjections
      (.assigning [] "first" (.fetching 41 "digest") [] 1) ⟨[], 1, [41]⟩
      (.assigning [] "first" (.settled (.str "abc123")) [] 1)
      ⟨[(41, digestProjections 41)], 1, [41]⟩ :=
    Step.entry (Step.answered 41 "digest" ⟨[], 1, [41]⟩)
  have second : Step [("source", 41)] digestProjections
      (.assigning [] "first" (.settled (.str "abc123")) [] 1)
      ⟨[(41, digestProjections 41)], 1, [41]⟩ (.settled (.obj [("first", .str "abc123")]))
      ⟨[(41, digestProjections 41)], 1, [41]⟩ := Step.assigned rfl
  have started : resolve [("source", 41)] 0 digestPayload { } =
      (.assigning [] "first" (.fetching 41 "digest") [] 1, ⟨[], 1, [41]⟩) := rfl
  refine returns_of_steps (l := (.settled (.obj [("first", .str "abc123")]),
    ⟨[(41, digestProjections 41)], 1, [41]⟩)) ⟨1, rfl⟩ ?_ rfl rfl
  rw [started]
  exact (Steps.of_step first).trans (Steps.of_step second)

theorem resolution_substitutes_iff_digest :
    substitute [("source", 41)] digestProjections digestPayload =
      some (.obj [("first", .str "abc123")]) ↔ PlainKeys digestPayload :=
  resolution_substitutes_iff (F := JsonText.integers)
    ⟨List.pairwise_singleton _ _, ⟨by decide, trivial, trivial, trivial⟩, trivial⟩ digest_returns

/-- A payload with a field under the key of `Object.prototype`'s setter. -/
def specialPayload : Json := .obj [("__proto__", .bool true), ("data", .str "x")]

/-- Its resolution returns an object without the field. -/
theorem special_key_dropped :
    ¬ ∀ (platform : Platform) (config : ResultReferenceConfig) (sourceTaskIds : List (String × Int))
      (projections : Int → Fields) (payload value : Json),
      JsonText.Normal JsonText.integers payload →
        Returns platform config sourceTaskIds projections payload value →
          substitute sourceTaskIds projections payload = some value := by
  intro claim
  have first : Step [] digestProjections
      (.assigning [] "__proto__" (.settled (.bool true)) [("data", .str "x")] 1) { }
      (.assigning [] "data" (.settled (.str "x")) [] 1) { } := Step.assigned rfl
  have second : Step [] digestProjections (.assigning [] "data" (.settled (.str "x")) [] 1) { }
      (.settled (.obj [("data", .str "x")])) { } := Step.assigned rfl
  have returned : Returns localPlatform localConfig [] digestProjections specialPayload
      (.obj [("data", .str "x")]) := by
    have started : resolve [] 0 specialPayload { } =
        (.assigning [] "__proto__" (.settled (.bool true)) [("data", .str "x")] 1, { }) := rfl
    refine returns_of_steps (l := (.settled (.obj [("data", .str "x")]), { })) ⟨0, rfl⟩ ?_ rfl rfl
    rw [started]
    exact (Steps.of_step first).trans (Steps.of_step second)
  have normal : JsonText.Normal JsonText.integers specialPayload :=
    ⟨by decide, trivial, trivial, trivial⟩
  have same := claim _ _ _ _ _ _ normal returned
  have kept : substitute [] digestProjections specialPayload = some specialPayload := rfl
  rw [kept, specialPayload, Option.some.injEq, Json.obj.injEq] at same
  exact absurd (congrArg List.length same) (by decide)

end ResultReferences
