import TaskQueQue.FormattedJson
import TaskQueQue.LocalApi

/-!
# What the daemon writes for its workers and clients

The daemon has no JSON library. It puts its documents together by formatting, and
escapes the strings in them by hand, in a function of its own on each of its two sides.
-/

namespace WorkerApi

open GatewayValues JsonStrings JsonText FormattedJson LeaseFence

/-- The character as it stands in a literal. -/
def escapeChar (c : Char) : List Char :=
  if c = '"' then ['\\', '"']
  else if c = '\\' then ['\\', '\\']
  else if c = '\n' then ['\\', 'n']
  else if c = '\r' then ['\\', 'r']
  else if c = '\t' then ['\\', 't']
  else if c.toNat < 32 then '\\' :: 'u' :: LocalApi.hexDigits c.toNat
  else [c]

/-- The worker API's copy. -/
def jsonEscape (value : String) : String := String.ofList (value.toList.flatMap escapeChar)

/-- The answer to a claim. -/
def claimJson (task : FencedClaimedTask) (taskLeaseMs : Nat) : String :=
  "\x7b\"task_id\":" ++ toString task.id ++ ",\"task_name\":\"" ++ jsonEscape task.taskName ++
    "\",\"task_type\":\"" ++ jsonEscape task.taskType ++ "\",\"payload\":\"" ++
    jsonEscape task.payload ++ "\",\"retry_count\":" ++ toString task.retryCount ++
    ",\"max_retries\":" ++ toString task.maxRetries ++ ",\"lease_generation\":" ++
    toString task.leaseGeneration ++ ",\"lease_ms\":" ++ toString (taskLeaseMs : Int) ++ "\x7d"

/-! ### Escapes -/

theorem hexDigits_control :
    ∀ n : Fin 32, LocalApi.hexDigits n.val = ['0', '0', hexChar (n.val / 16), hexChar (n.val % 16)] := by
  decide

theorem escapeChar_sound : Sound escapeChar := by
  intro c rest
  unfold escapeChar
  split
  · rename_i same
    subst same
    rfl
  split
  · rename_i same
    subst same
    rfl
  split
  · rename_i same
    subst same
    rfl
  split
  · rename_i same
    subst same
    rfl
  split
  · rename_i same
    subst same
    rfl
  split
  · rename_i control
    rw [hexDigits_control ⟨c.toNat, control⟩]
    exact readChar_unit control rest
  · rename_i mark solidus _ _ _ visible
    exact readChar_plain mark solidus (by omega) rest

/-- The two copies are one function. -/
theorem jsonEscape_copies (value : String) : LocalApi.jsonEscape value = jsonEscape value := rfl

theorem quoted (value : String) (rest : List Char) :
    '"' :: ((jsonEscape value).toList ++ '"' :: rest) = literal escapeChar value.toList ++ rest := by
  rw [jsonEscape, String.toList_ofList, literal, List.append_assoc]
  rfl

/-! ### Documents -/

def numberMember (key : String) (value : Int) : Member := ⟨key, (toString value).toList, .num value⟩

def textMember (key value : String) : Member := ⟨key, literal escapeChar value.toList, .str value⟩

theorem numberMember_written (key : String) (value : Int) :
    Written integers (numberMember key value).text (numberMember key value).value := by
  have held : integers.exact (value : ℚ) := Rat.den_intCast value
  have text : integers.write (value : ℚ) = (toString value).toList := by
    rw [← Rat.num_intCast value]
    rfl
  have written := written_number held
  rw [text] at written
  exact written

theorem textMember_written {format : NumberFormat} (key value : String) :
    Written format (textMember key value).text (textMember key value).value :=
  written_literal escapeChar_sound value

def resultMembers (result : ResultProjection.TaskResultProjection) : List Member :=
  [numberMember "task_id" result.taskId, textMember "result_json" result.resultJson,
    numberMember "result_bytes" result.resultBytes]

def claimMembers (task : FencedClaimedTask) (taskLeaseMs : Nat) : List Member :=
  [numberMember "task_id" task.id, textMember "task_name" task.taskName,
    textMember "task_type" task.taskType, textMember "payload" task.payload,
    numberMember "retry_count" task.retryCount, numberMember "max_retries" task.maxRetries,
    numberMember "lease_generation" task.leaseGeneration, numberMember "lease_ms" taskLeaseMs]

/-- What a template's text before a value has to be: the key after what ends the value
before it, and what starts the value. -/
def Leads (text : String) (ending : List Char) (key : String) (opening : List Char) : Prop :=
  text.toList = ending ++ (quote key.toList ++ ':' :: opening)

instance (text : String) (ending : List Char) (key : String) (opening : List Char) :
    Decidable (Leads text ending key opening) :=
  inferInstanceAs (Decidable (text.toList = _))

theorem result_text {task text size last : String}
    (result : ResultProjection.TaskResultProjection) (first : Leads task ['\x7b'] "task_id" [])
    (second : Leads text [','] "result_json" ['"'])
    (third : Leads size ['"', ','] "result_bytes" []) (ends : last.toList = ['\x7d']) :
    (task ++ toString result.taskId ++ text ++ jsonEscape result.resultJson ++ size ++
      toString result.resultBytes ++ last).toList = object (resultMembers result) := by
  unfold Leads at first second third
  simp only [String.toList_append, first, second, third, ends, object, resultMembers, members,
    numberMember, textMember, literal, jsonEscape, String.toList_ofList, List.tail_cons,
    List.append_assoc, List.cons_append, List.nil_append, List.append_nil]

theorem resultProjectionJson_object (result : ResultProjection.TaskResultProjection) :
    (LocalApi.resultProjectionJson result).toList = object (resultMembers result) := by
  refine result_text result ?_ ?_ ?_ ?_
  all_goals decide +kernel

theorem claim_text {id name kind payload retries most generation lease last : String}
    (task : FencedClaimedTask) (taskLeaseMs : Nat) (first : Leads id ['\x7b'] "task_id" [])
    (second : Leads name [','] "task_name" ['"'])
    (third : Leads kind ['"', ','] "task_type" ['"'])
    (fourth : Leads payload ['"', ','] "payload" ['"'])
    (fifth : Leads retries ['"', ','] "retry_count" [])
    (sixth : Leads most [','] "max_retries" [])
    (seventh : Leads generation [','] "lease_generation" [])
    (eighth : Leads lease [','] "lease_ms" []) (ends : last.toList = ['\x7d']) :
    (id ++ toString task.id ++ name ++ jsonEscape task.taskName ++ kind ++
      jsonEscape task.taskType ++ payload ++ jsonEscape task.payload ++ retries ++
      toString task.retryCount ++ most ++ toString task.maxRetries ++ generation ++
      toString task.leaseGeneration ++ lease ++ toString (taskLeaseMs : Int) ++ last).toList =
      object (claimMembers task taskLeaseMs) := by
  unfold Leads at first second third fourth fifth sixth seventh eighth
  simp only [String.toList_append, first, second, third, fourth, fifth, sixth, seventh, eighth,
    ends, object, claimMembers, members, numberMember, textMember, literal, jsonEscape,
    String.toList_ofList, List.tail_cons, List.append_assoc, List.cons_append, List.nil_append,
    List.append_nil]

theorem claimJson_object (task : FencedClaimedTask) (taskLeaseMs : Nat) :
    (claimJson task taskLeaseMs).toList = object (claimMembers task taskLeaseMs) := by
  refine claim_text task taskLeaseMs ?_ ?_ ?_ ?_ ?_ ?_ ?_ ?_ ?_
  all_goals decide +kernel

theorem claimMembers_written (task : FencedClaimedTask) (taskLeaseMs : Nat) :
    ∀ field ∈ claimMembers task taskLeaseMs, Written integers field.text field.value := by
  intro field mem
  simp only [claimMembers, List.mem_cons, List.not_mem_nil, or_false] at mem
  rcases mem with rfl | rfl | rfl | rfl | rfl | rfl | rfl | rfl
  · exact numberMember_written _ _
  · exact textMember_written _ _
  · exact textMember_written _ _
  · exact textMember_written _ _
  · exact numberMember_written _ _
  · exact numberMember_written _ _
  · exact numberMember_written _ _
  · exact numberMember_written _ taskLeaseMs

theorem claimJson_read (task : FencedClaimedTask) (taskLeaseMs : Nat) :
    read integers (claimJson task taskLeaseMs).toList =
      some (.obj ((claimMembers task taskLeaseMs).map fun field => (field.key, field.value))) := by
  rw [claimJson_object]
  exact (written_object (List.cons_ne_nil _ _) (claimMembers_written task taskLeaseMs)).read

/-- An answer to a claim is that of one task. -/
theorem claimJson_injective {task task' : FencedClaimedTask} {taskLeaseMs : Nat}
    (same : claimJson task taskLeaseMs = claimJson task' taskLeaseMs) : task = task' := by
  have fields := claimJson_read task taskLeaseMs
  rw [same, claimJson_read, Option.some.injEq, Json.obj.injEq] at fields
  simp only [claimMembers, numberMember, textMember, List.map_cons, List.map_nil, List.cons.injEq,
    Prod.mk.injEq, Json.num.injEq, Json.str.injEq, Rat.intCast_inj, true_and, and_true] at fields
  obtain ⟨id, name, kind, payload, retries, most, generation⟩ := fields
  cases task
  cases task'
  simp only [FencedClaimedTask.mk.injEq]
  exact ⟨id.symm, name.symm, kind.symm, payload.symm, retries.symm, most.symm, generation.symm⟩

/-- What the daemon writes is read back: each escaped string in quotes is a literal of the
string, and the documents with a stored projection or a payload are objects of their values. -/
theorem json_escape_decodes :
    (∀ value rest, readString ('"' :: ((LocalApi.jsonEscape value).toList ++ '"' :: rest)) =
      some (value.toList, rest)) ∧
    (∀ value rest, readString ('"' :: ((jsonEscape value).toList ++ '"' :: rest)) =
      some (value.toList, rest)) ∧
    (∀ result, read integers (LocalApi.resultProjectionJson result).toList =
      some (.obj [("task_id", .num result.taskId), ("result_json", .str result.resultJson),
        ("result_bytes", .num result.resultBytes)])) ∧
    ∀ task taskLeaseMs, read integers (claimJson task taskLeaseMs).toList =
      some (.obj [("task_id", .num task.id), ("task_name", .str task.taskName),
        ("task_type", .str task.taskType), ("payload", .str task.payload),
        ("retry_count", .num task.retryCount), ("max_retries", .num task.maxRetries),
        ("lease_generation", .num task.leaseGeneration), ("lease_ms", .num taskLeaseMs)]) := by
  have literals : ∀ value rest, readString ('"' :: ((jsonEscape value).toList ++ '"' :: rest)) =
      some (value.toList, rest) := by
    intro value rest
    rw [quoted, readString_literal escapeChar_sound]
  refine ⟨literals, literals, ?_, ?_⟩
  · intro result
    rw [resultProjectionJson_object]
    refine (written_object (List.cons_ne_nil _ _) ?_).read
    intro field mem
    simp only [List.mem_cons, List.not_mem_nil, or_false] at mem
    rcases mem with rfl | rfl | rfl
    · exact numberMember_written _ _
    · exact textMember_written _ _
    · exact numberMember_written _ _
  · intro task taskLeaseMs
    rw [claimJson_object]
    refine (written_object (List.cons_ne_nil _ _) ?_).read
    intro field mem
    simp only [List.mem_cons, List.not_mem_nil, or_false] at mem
    rcases mem with rfl | rfl | rfl | rfl | rfl | rfl | rfl | rfl
    · exact numberMember_written _ _
    · exact textMember_written _ _
    · exact textMember_written _ _
    · exact textMember_written _ _
    · exact numberMember_written _ _
    · exact numberMember_written _ _
    · exact numberMember_written _ _
    · exact numberMember_written _ taskLeaseMs

end WorkerApi
