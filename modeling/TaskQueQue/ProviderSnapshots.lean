import TaskQueQue.AdmissionLanguage
import TaskQueQue.CanonicalJson
import TaskQueQue.McpTools
import TaskQueQue.WorkerRoutes

/-!
# Snapshots of the providers

Before a connection to the worker API is served its first bytes are looked at, without
taking them off. A request for the providers is answered at once, with the names and the
types of the live sessions, written without a JSON library and without any escape. All
other connections go on to the routes.

The gateway asks for such a snapshot to decide which of its capabilities it can offer.
-/

namespace ProviderSnapshots

open QueueValues QueueTables WorkerProtocol HttpFraming WorkerRoutes GatewayValues
open JsonStrings JsonText FormattedJson
open McpTools (CapabilityAvailabilitySnapshot)

/-! ### Looking ahead -/

def MAX_PEEK_BYTES : Nat := 1024

def providerLine (version : String) : List UInt8 :=
  ("GET /v1/providers HTTP/" ++ version ++ "\r\n").toList.map fun c => c.toNat.toUInt8

def PROVIDER_HTTP_11 : List UInt8 := providerLine "1.1"

def PROVIDER_HTTP_10 : List UInt8 := providerLine "1.0"

def isProviderSnapshotRequest (bytes : List UInt8) : Bool :=
  PROVIDER_HTTP_11.isPrefixOf bytes || PROVIDER_HTTP_10.isPrefixOf bytes

def couldBePartialProviderSnapshotRequest (bytes : List UInt8) : Bool :=
  bytes.isPrefixOf PROVIDER_HTTP_11 || bytes.isPrefixOf PROVIDER_HTTP_10

/-- A peek fails, or is given up, when no more arrives, but for the end of an empty stream. -/
def undecided (ending : Ending) (arrived : List UInt8) : Option Bool :=
  match arrived, ending with
  | [], .closed => some false
  | _, _ => none

/-- A peek sees what has arrived so far, up to its buffer. -/
def detectProviderSnapshotRequest (ending : Ending) (arrived : List UInt8) :
    List (List UInt8) → Option Bool
  | [] => undecided ending arrived
  | piece :: pieces =>
    let bytes := (arrived ++ piece).take MAX_PEEK_BYTES
    if isProviderSnapshotRequest bytes then some true
    else if couldBePartialProviderSnapshotRequest bytes then
      detectProviderSnapshotRequest ending (arrived ++ piece) pieces
    else some false

/-! ### The snapshot -/

/-- The values of a `BTreeSet`, in its order. -/
def btreeSet (values : List String) : List String := values.dedup.insertionSort (· ≤ ·)

def quotedNames (names : List String) : String :=
  ",".intercalate (names.map fun name => "\"" ++ name ++ "\"")

def snapshotText (taskNames workerTypes : List String) : String :=
  "\x7b\"schema_version\":1,\"active_task_names\":[" ++ quotedNames taskNames ++
    "],\"worker_types\":[" ++ quotedNames workerTypes ++ "]\x7d\n"

def providerSnapshotJson (sessions : List WorkerSession) : String :=
  snapshotText (btreeSet (sessions.flatMap fun session => session.taskNames.1))
    (btreeSet (sessions.map fun session => session.kind.toDb))

/-- A connection whose first bytes come to nothing is dropped without an answer. -/
def serveWorkerConnectionWithProviderSnapshot (api : Api) (m : Moment) (ending : Ending)
    (pieces : List (List UInt8)) (s : WorkerApiState) : Option WorkerRoutes.Response × WorkerApiState :=
  match detectProviderSnapshotRequest ending [] pieces with
  | none => (none, s)
  | some true =>
    let (sessions, registry) := SessionRegistry.activeSessions s.registry m.instant
    (some ⟨200, "OK", providerSnapshotJson sessions⟩, { s with registry })
  | some false => serveWorkerConnection api m ending pieces s

/-! ### The gateway's side -/

/-- Which providers of the gateway's own are there. -/
structure LocalProviders where
  filesystemReachable : Bool
  filesystemMutationReachable : Bool
  gitMetadataReachable : Bool

def unavailableSnapshot (own : LocalProviders) : CapabilityAvailabilitySnapshot where
  providerReachable := false
  filesystemReachable := own.filesystemReachable
  filesystemMutationReachable := own.filesystemMutationReachable
  gitMetadataReachable := own.gitMetadataReachable
  activeTaskNames := []

def safeTaskName : Json → Option String
  | .str name => if WorkflowFacade.safeName 128 name then some name else none
  | _ => none

def activeTaskNames (parsed : Json) : Option (List String) :=
  match parsed with
  | .obj fields =>
    match fields.lookup "schema_version", fields.lookup "active_task_names" with
    | some (.num version), some (.arr values) =>
      if version = 1 then values.mapM safeTaskName else none
    | _, _ => none
  | _ => none

/-- `answer` is the status and the parsed body of the broker's response; there is none
without a broker, and no parsed body when reading it throws. -/
def loadCapabilityAvailability (own : LocalProviders) (answer : Option (Nat × Option Json)) :
    CapabilityAvailabilitySnapshot :=
  match answer with
  | some (200, some parsed) =>
    match activeTaskNames parsed with
    | some names => { unavailableSnapshot own with providerReachable := true, activeTaskNames := names }
    | none => unavailableSnapshot own
  | _ => unavailableSnapshot own

/-! ### Only the bytes decide -/

/-- What looking ahead comes to on the bytes of a connection. -/
def verdict (ending : Ending) (bytes : List UInt8) : Option Bool :=
  if isProviderSnapshotRequest bytes then some true
  else if couldBePartialProviderSnapshotRequest bytes then undecided ending bytes
  else some false

theorem isProviderSnapshotRequest_iff {bytes : List UInt8} : isProviderSnapshotRequest bytes ↔
    PROVIDER_HTTP_11 <+: bytes ∨ PROVIDER_HTTP_10 <+: bytes := by
  rw [isProviderSnapshotRequest, Bool.or_eq_true, List.isPrefixOf_iff_prefix,
    List.isPrefixOf_iff_prefix]

theorem couldBePartial_iff {bytes : List UInt8} :
    couldBePartialProviderSnapshotRequest bytes ↔
      bytes <+: PROVIDER_HTTP_11 ∨ bytes <+: PROVIDER_HTTP_10 := by
  rw [couldBePartialProviderSnapshotRequest, Bool.or_eq_true, List.isPrefixOf_iff_prefix,
    List.isPrefixOf_iff_prefix]

theorem prefix_take {line bytes : List UInt8} {n : Nat} (short : line.length ≤ n) :
    line <+: bytes.take n ↔ line <+: bytes := by
  rw [List.prefix_take_iff]
  exact and_iff_left short

theorem take_prefix {line bytes : List UInt8} {n : Nat} (short : line.length < n) :
    bytes.take n <+: line ↔ bytes <+: line := by
  by_cases whole : bytes.length ≤ n
  · rw [List.take_of_length_le whole]
  · constructor
    · intro stem
      have size := stem.length_le
      rw [List.length_take] at size
      omega
    · intro stem
      have size := stem.length_le
      omega

theorem line_lengths : PROVIDER_HTTP_11.length = 28 ∧ PROVIDER_HTTP_10.length = 28 := by
  decide

theorem isProviderSnapshotRequest_take (bytes : List UInt8) :
    isProviderSnapshotRequest (bytes.take MAX_PEEK_BYTES) = isProviderSnapshotRequest bytes := by
  obtain ⟨first, second⟩ := line_lengths
  rw [Bool.eq_iff_iff, isProviderSnapshotRequest_iff, isProviderSnapshotRequest_iff,
    prefix_take (by rw [first]; decide), prefix_take (by rw [second]; decide)]

theorem couldBePartial_take (bytes : List UInt8) :
    couldBePartialProviderSnapshotRequest (bytes.take MAX_PEEK_BYTES) =
      couldBePartialProviderSnapshotRequest bytes := by
  obtain ⟨first, second⟩ := line_lengths
  rw [Bool.eq_iff_iff, couldBePartial_iff, couldBePartial_iff,
    take_prefix (by rw [first]; decide), take_prefix (by rw [second]; decide)]

theorem isProviderSnapshotRequest_append {bytes : List UInt8} (more : List UInt8)
    (whole : isProviderSnapshotRequest bytes) : isProviderSnapshotRequest (bytes ++ more) := by
  rw [isProviderSnapshotRequest_iff] at whole ⊢
  exact whole.imp (fun stem => stem.trans (List.prefix_append _ _))
    fun stem => stem.trans (List.prefix_append _ _)

/-- Bytes that are no request for the providers and cannot become one stay so. -/
theorem neither_append {bytes : List UInt8} (more : List UInt8)
    (whole : ¬ isProviderSnapshotRequest bytes)
    (part : ¬ couldBePartialProviderSnapshotRequest bytes) :
    ¬ isProviderSnapshotRequest (bytes ++ more) ∧
      ¬ couldBePartialProviderSnapshotRequest (bytes ++ more) := by
  rw [isProviderSnapshotRequest_iff, not_or] at whole
  rw [couldBePartial_iff, not_or] at part
  have grown := List.prefix_append bytes more
  constructor
  · rw [isProviderSnapshotRequest_iff, not_or]
    constructor
    · intro stem
      rcases List.prefix_or_prefix_of_prefix grown stem with short | long
      · exact part.1 short
      · exact whole.1 long
    · intro stem
      rcases List.prefix_or_prefix_of_prefix grown stem with short | long
      · exact part.2 short
      · exact whole.2 long
  · rw [couldBePartial_iff, not_or]
    exact ⟨fun stem => part.1 (grown.trans stem), fun stem => part.2 (grown.trans stem)⟩

theorem detect_from {ending : Ending} {arrived : List UInt8} {pieces : List (List UInt8)}
    (whole : ¬ isProviderSnapshotRequest arrived)
    (part : couldBePartialProviderSnapshotRequest arrived) :
    detectProviderSnapshotRequest ending arrived pieces =
      verdict ending (arrived ++ pieces.flatten) := by
  induction pieces generalizing arrived with
  | nil =>
    rw [List.flatten_nil, List.append_nil, verdict, if_neg whole, if_pos part]
    rfl
  | cons piece pieces ih =>
    rw [detectProviderSnapshotRequest, isProviderSnapshotRequest_take, couldBePartial_take,
      List.flatten_cons, ← List.append_assoc]
    by_cases now : isProviderSnapshotRequest (arrived ++ piece)
    · rw [if_pos now, verdict, if_pos (isProviderSnapshotRequest_append _ now)]
    · rw [if_neg now]
      by_cases later : couldBePartialProviderSnapshotRequest (arrived ++ piece)
      · rw [if_pos later]
        exact ih now later
      · obtain ⟨never, nor⟩ := neither_append pieces.flatten now later
        rw [if_neg later, verdict, if_neg never, if_neg nor]

/-- However the bytes of a connection are cut, looking ahead comes to the same. -/
theorem detect_eq_verdict (ending : Ending) (pieces : List (List UInt8)) :
    detectProviderSnapshotRequest ending [] pieces = verdict ending pieces.flatten := by
  refine detect_from ?_ ?_
  · decide
  · decide

/-! ### What the gateway reads -/

/-- No character needs an escape. -/
def Plain (text : String) : Prop := ∀ c ∈ text.toList, WorkerApi.escapeChar c = [c]

theorem literal_of_plain {text : String} (plain : Plain text) :
    literal WorkerApi.escapeChar text.toList = '"' :: (text.toList ++ ['"']) := by
  have same : text.toList.flatMap WorkerApi.escapeChar = text.toList := by
    rw [List.flatMap_congr plain, List.flatMap_singleton']
  rw [literal, same]
  rfl

theorem quotedNames_array {names : List String} (plain : ∀ name ∈ names, Plain name) :
    (quotedNames names).toList = (elements WorkerApi.escapeChar names).tail := by
  have each : (names.map fun name => "\"" ++ name ++ "\"").flatMap (fun text => ',' :: text.toList) =
      elements WorkerApi.escapeChar names := by
    rw [elements, List.flatMap_map]
    refine List.flatMap_congr fun name mem => ?_
    rw [literal_of_plain (plain name mem), String.toList_append, String.toList_append]
    rfl
  rw [quotedNames, CanonicalJson.toList_intercalate_tail, each]

def snapshotMembers (taskNames workerTypes : List String) : List Member :=
  [WorkerApi.numberMember "schema_version" 1,
    ⟨"active_task_names", array WorkerApi.escapeChar taskNames, .arr (taskNames.map Json.str)⟩,
    ⟨"worker_types", array WorkerApi.escapeChar workerTypes, .arr (workerTypes.map Json.str)⟩]

theorem snapshot_text {lead middle last : String} {taskNames workerTypes : List String}
    (names : ∀ name ∈ taskNames, Plain name) (types : ∀ kind ∈ workerTypes, Plain kind)
    (first : lead.toList = ['\x7b'] ++ (quote "schema_version".toList ++ ':' ::
      ((toString (1 : Int)).toList ++ ',' :: (quote "active_task_names".toList ++ [':', '[']))))
    (second : middle.toList = [']', ','] ++ (quote "worker_types".toList ++ [':', '[']))
    (third : last.toList = [']', '\x7d', '\n']) :
    (lead ++ quotedNames taskNames ++ middle ++ quotedNames workerTypes ++ last).toList =
      object (snapshotMembers taskNames workerTypes) ++ ['\n'] := by
  simp only [String.toList_append, quotedNames_array names, quotedNames_array types, first, second,
    third, object, snapshotMembers, members, WorkerApi.numberMember, array, List.tail_cons,
    List.append_assoc, List.cons_append, List.nil_append, List.append_nil]

theorem snapshotText_object {taskNames workerTypes : List String}
    (names : ∀ name ∈ taskNames, Plain name) (types : ∀ kind ∈ workerTypes, Plain kind) :
    (snapshotText taskNames workerTypes).toList =
      object (snapshotMembers taskNames workerTypes) ++ ['\n'] := by
  refine snapshot_text names types ?_ ?_ ?_
  all_goals decide +kernel

theorem snapshotText_read {taskNames workerTypes : List String}
    (names : ∀ name ∈ taskNames, Plain name) (types : ∀ kind ∈ workerTypes, Plain kind) :
    read integers (snapshotText taskNames workerTypes).toList =
      some (.obj [("schema_version", .num 1),
        ("active_task_names", .arr (taskNames.map Json.str)),
        ("worker_types", .arr (workerTypes.map Json.str))]) := by
  have written : Written integers (object (snapshotMembers taskNames workerTypes))
      (.obj ((snapshotMembers taskNames workerTypes).map fun field => (field.key, field.value))) := by
    refine written_object (List.cons_ne_nil _ _) ?_
    intro field mem
    simp only [snapshotMembers, List.mem_cons, List.not_mem_nil, or_false] at mem
    rcases mem with rfl | rfl | rfl
    · exact WorkerApi.numberMember_written _ _
    · exact written_array WorkerApi.escapeChar_sound taskNames
    · exact written_array WorkerApi.escapeChar_sound workerTypes
  have back := written ['\n'] (apart_cons (by decide))
    ((snapshotText taskNames workerTypes).toList.length + 1) (by
      rw [snapshotText_object names types, List.length_append]
      omega)
  rw [← snapshotText_object names types] at back
  rw [JsonText.read, back]
  rfl

theorem mapM_safeTaskName {names : List String}
    (safe : ∀ name ∈ names, WorkflowFacade.safeName 128 name = true) :
    (names.map Json.str).mapM safeTaskName = some names := by
  induction names with
  | nil => rfl
  | cons name names ih =>
    obtain ⟨first, rest⟩ := List.forall_mem_cons.mp safe
    rw [List.map_cons, List.mapM_cons, ih rest, safeTaskName, if_pos first]
    rfl

/-- The gateway takes a plain snapshot of safe names as it is. -/
theorem loadCapabilityAvailability_snapshot (own : LocalProviders)
    {taskNames workerTypes : List String} (names : ∀ name ∈ taskNames, Plain name)
    (types : ∀ kind ∈ workerTypes, Plain kind)
    (safe : ∀ name ∈ taskNames, WorkflowFacade.safeName 128 name = true) :
    loadCapabilityAvailability own
      (some (200, read integers (snapshotText taskNames workerTypes).toList)) =
      { unavailableSnapshot own with
        providerReachable := true
        activeTaskNames := taskNames } := by
  have taken : activeTaskNames (.obj [("schema_version", .num 1),
      ("active_task_names", .arr (taskNames.map Json.str)),
      ("worker_types", .arr (workerTypes.map Json.str))]) = some taskNames :=
    mapM_safeTaskName safe
  rw [snapshotText_read names types]
  simp only [loadCapabilityAvailability, taken]

/-! ### Names that need no escape -/

theorem escapeChar_visible {c : Char} (shown : RequestRendering.visible c = true) (mark : c ≠ '"')
    (solidus : c ≠ '\\') : WorkerApi.escapeChar c = [c] := by
  have lower : '!'.toNat ≤ c.toNat := (of_decide_eq_true shown).1
  have above : 33 ≤ c.toNat := lower
  have apart : ∀ {d : Char}, d.toNat < 33 → c ≠ d := by
    intro d control same
    rw [same] at above
    omega
  rw [WorkerApi.escapeChar, if_neg mark, if_neg solidus, if_neg (apart (by decide)),
    if_neg (apart (by decide)), if_neg (apart (by decide)), if_neg (by omega)]

/-- A character of an identifier. -/
def identifierChar (c : Char) : Bool := asciiAlphanumeric c || "._-:/".toList.contains c

theorem escapeChar_identifier {c : Char} (h : identifierChar c = true) :
    WorkerApi.escapeChar c = [c] := by
  rcases Bool.or_eq_true_iff.mp h with alphanumeric | mark
  · refine escapeChar_visible (AdmissionLanguage.visible_of_alphanumeric alphanumeric) ?_ ?_
    · rintro rfl
      exact absurd alphanumeric (by decide)
    · rintro rfl
      exact absurd alphanumeric (by decide)
  · have chosen : ("._-:/".toList.all fun d => decide (WorkerApi.escapeChar d = [d])) = true := by
      decide
    exact of_decide_eq_true (List.all_eq_true.mp chosen c (List.contains_iff_mem.mp mark))

theorem plain_of_identifier {text : String} (chars : text.toList.all identifierChar = true) :
    Plain text :=
  fun c mem => escapeChar_identifier (List.all_eq_true.mp chars c mem)

theorem plain_of_validated {text field : String} {maxLen : Nat}
    (valid : LocalApi.validateIdentifier text maxLen field = .ok ()) : Plain text := by
  unfold LocalApi.validateIdentifier at valid
  split at valid
  · cases valid
  split at valid
  · cases valid
  · rename_i chars
    rw [Bool.not_eq_true, Bool.not_eq_false'] at chars
    exact plain_of_identifier chars

theorem isAlphanum_eq (c : Char) : c.isAlphanum = asciiAlphanumeric c := by
  have upper : c.isUpper = decide ('A' ≤ c ∧ c ≤ 'Z') := rfl
  have lower : c.isLower = decide ('a' ≤ c ∧ c ≤ 'z') := by
    rw [Bool.decide_and]
    rfl
  have digit : c.isDigit = decide ('0' ≤ c ∧ c ≤ '9') := by
    rw [Bool.decide_and]
    rfl
  have parts : c.isAlphanum = (c.isUpper || c.isLower || c.isDigit) := rfl
  rw [parts, upper, lower, digit, asciiAlphanumeric, Bool.or_comm (decide ('a' ≤ c ∧ c ≤ 'z'))]

/-- The names a session may advertise are those the gateway calls safe. -/
theorem safe_of_isSafeTaskName {name : String} (safe : isSafeTaskName name = true) :
    Plain name ∧ WorkflowFacade.safeName 128 name = true := by
  rw [isSafeTaskName, Bool.and_eq_true, Bool.and_eq_true, decide_eq_true_eq, decide_eq_true_eq,
    maxTaskNameBytes] at safe
  obtain ⟨⟨filled, short⟩, chars⟩ := safe
  have each : ∀ c ∈ name.toList, (asciiAlphanumeric c || "._:-".toList.contains c) = true := by
    intro c mem
    have char := List.all_eq_true.mp chars c mem
    simp only [Bool.or_eq_true, beq_iff_eq] at char
    rcases char with (((alphanumeric | rfl) | rfl) | rfl) | rfl
    · rw [← isAlphanum_eq, alphanumeric]
      rfl
    all_goals decide
  have ascii : ∀ c ∈ name.toList, RequestRendering.ascii c = true := by
    intro c mem
    rcases Bool.or_eq_true_iff.mp (each c mem) with alphanumeric | mark
    · exact AdmissionLanguage.ascii_of_visible
        (AdmissionLanguage.visible_of_alphanumeric alphanumeric)
    · have marks : "._:-".toList.all RequestRendering.ascii = true := by decide
      exact List.all_eq_true.mp marks c (List.contains_iff_mem.mp mark)
  constructor
  · refine plain_of_identifier (List.all_eq_true.mpr fun c mem => ?_)
    rcases Bool.or_eq_true_iff.mp (each c mem) with alphanumeric | mark
    · exact Bool.or_eq_true_iff.mpr (Or.inl alphanumeric)
    · have marks : "._:-".toList.all identifierChar = true := by decide
      exact List.all_eq_true.mp marks c (List.contains_iff_mem.mp mark)
  · have size := AdmissionLanguage.utf8ByteSize_of_ascii ascii
    have some_char : name.toList ≠ [] := fun none => filled (String.toList_eq_nil_iff.mp none)
    have long : 0 < name.toList.length := List.length_pos_iff.mpr some_char
    rw [← String.length_toList] at size
    rw [WorkflowFacade.safeName, Bool.and_eq_true, decide_eq_true_eq]
    exact ⟨⟨long, by omega⟩, List.all_eq_true.mpr each⟩

/-! ### Sessions that can be shown -/

/-- What makes a session fit for a snapshot. -/
structure Shown (session : WorkerSession) : Prop where
  kind : Plain session.kind.toDb
  names : ∀ name ∈ session.taskNames.1, isSafeTaskName name = true

theorem mem_btreeSet {values : List String} {value : String} :
    value ∈ btreeSet values ↔ value ∈ values := by
  rw [btreeSet, List.mem_insertionSort, List.mem_dedup]

/-- The gateway's snapshot names what the sessions advertise, and nothing else. -/
theorem loadCapabilityAvailability_sessions (own : LocalProviders) {sessions : List WorkerSession}
    (shown : ∀ session ∈ sessions, Shown session) :
    loadCapabilityAvailability own
      (some (200, read integers (providerSnapshotJson sessions).toList)) =
      { unavailableSnapshot own with
        providerReachable := true
        activeTaskNames := btreeSet (sessions.flatMap fun session => session.taskNames.1) } := by
  have safe : ∀ name ∈ btreeSet (sessions.flatMap fun session => session.taskNames.1),
      isSafeTaskName name = true := by
    intro name mem
    obtain ⟨session, held, named⟩ := List.mem_flatMap.mp (mem_btreeSet.mp mem)
    exact (shown session held).names name named
  refine loadCapabilityAvailability_snapshot own ?_ ?_ ?_
  · intro name mem
    exact (safe_of_isSafeTaskName (safe name mem)).1
  · intro kind mem
    obtain ⟨session, held, rfl⟩ := List.mem_map.mp (mem_btreeSet.mp mem)
    exact (shown session held).kind
  · intro name mem
    exact (safe_of_isSafeTaskName (safe name mem)).2

end ProviderSnapshots
