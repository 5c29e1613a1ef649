import TaskQueQue.CanonicalJson
import TaskQueQue.AdmissionLanguage

/-!
# Results as they are sent

A worker sends the result of a task as the text of a JSON object of at most 256 KiB, and the
daemon stores no longer text. The length of the text is that of its parts.
-/

namespace SerializedResults

open GatewayValues JsonText JsonStrings CanonicalJson
open RequestRendering (ascii)
open AdmissionLanguage (utf8ByteSize_of_ascii)

def MAX_RESULT_PROJECTION_BYTES : Nat := 256 * 1024

/-- The text of a result, if it has one; the parser's own error is not told apart. -/
def serializeResultProjection (web : WebRuntime) : Option Json → Except String (Option String)
  | none => .ok none
  | some value =>
    if value.keys = none then .error "worker result projection must be a JSON object"
    else
      let serialized := web.stringify value
      if MAX_RESULT_PROJECTION_BYTES < serialized.utf8ByteSize then
        .error "worker result projection exceeds 256 KiB"
      else
        match web.parse serialized with
        | none => .error "SyntaxError"
        | some roundTrip =>
          if roundTrip.keys = none then
            .error "worker result projection must serialize to a JSON object"
          else .ok (some serialized)

/-- A value whose text is sent, and stored if the worker still holds the task. -/
def Accepted (web : WebRuntime) (value : Json) : Prop :=
  ∃ text, serializeResultProjection web (some value) = .ok (some text) ∧
    ∀ now taskId workerId generation db message,
      ResultProjection.completeWithProjection now taskId workerId generation text db ≠
        .error (.invalidState message)

section Acceptance
variable {web : WebRuntime} {format : NumberFormat}

theorem completeWithProjection_valid {text : String} (filled : text.utf8ByteSize ≠ 0)
    (fits : text.utf8ByteSize ≤ MAX_RESULT_PROJECTION_BYTES) :
    ∀ now taskId workerId generation db message,
      ResultProjection.completeWithProjection now taskId workerId generation text db ≠
        .error (.invalidState message) := by
  intro now taskId workerId generation db message
  have within : ¬ ResultProjection.maxResultProjectionBytes < text.utf8ByteSize :=
    Nat.not_lt.mpr fits
  rw [ResultProjection.completeWithProjection, if_neg filled, if_neg within]
  split
  · exact fun h => by cases h
  split
  · exact fun h => by cases h
  · exact fun h => by cases h

/-- An object the platform holds is accepted by its size alone. -/
theorem accepted_iff (keeps : KeepsJson web format) {fields : List (String × Json)}
    (normal : JsonText.Normal format (.obj fields)) : Accepted web (.obj fields) ↔
      (web.stringify (.obj fields)).utf8ByteSize ≤ MAX_RESULT_PROJECTION_BYTES := by
  have object : ¬ Json.keys (.obj fields) = none := Option.some_ne_none _
  have read : serializeResultProjection web (some (.obj fields)) =
      if MAX_RESULT_PROJECTION_BYTES < (web.stringify (.obj fields)).utf8ByteSize then
        .error "worker result projection exceeds 256 KiB"
      else .ok (some (web.stringify (.obj fields))) := by
    rw [serializeResultProjection, if_neg object]
    dsimp only
    rw [keeps.back _ normal]
    dsimp only
    rw [if_neg object]
  constructor
  · rintro ⟨text, sent, _⟩
    rw [read] at sent
    split at sent
    · cases sent
    · rename_i fits
      exact Nat.not_lt.mp fits
  · intro fits
    refine ⟨_, read.trans (if_neg (Nat.not_lt.mpr fits)), ?_⟩
    refine completeWithProjection_valid ?_ fits
    rw [keeps.stringify _ normal, render, ne_eq, String.utf8ByteSize_eq_zero_iff,
      String.ofList_eq_empty_iff]
    exact List.cons_ne_nil _ _

end Acceptance

/-! ### Lengths of texts -/

def byteSize (text : List Char) : Nat := (String.ofList text).utf8ByteSize

theorem byteSize_append (left right : List Char) :
    byteSize (left ++ right) = byteSize left + byteSize right := by
  rw [byteSize, String.ofList_append, String.utf8ByteSize_append]
  rfl

theorem byteSize_ascii {text : List Char} (plain : ∀ c ∈ text, ascii c = true) :
    byteSize text = text.length := by
  rw [byteSize, utf8ByteSize_of_ascii (by rwa [String.toList_ofList]), String.length_ofList]

theorem byteSize_cons {c : Char} (plain : ascii c = true) (text : List Char) :
    byteSize (c :: text) = 1 + byteSize text := by
  have one : byteSize [c] = 1 := byteSize_ascii (List.forall_mem_singleton.mpr plain)
  rw [← one, ← byteSize_append, List.singleton_append]

/-- A text that needs no escapes takes two bytes more as a literal. -/
theorem byteSize_quote {content : List Char} (plain : ∀ c ∈ content, unescaped c = true) :
    byteSize (quote content) = 2 + content.length := by
  have mark : ascii '"' = true := by decide
  have own : ∀ c ∈ content, ascii c = true := fun c mem =>
    decide_eq_true (of_decide_eq_true (plain c mem)).2.1
  rw [quote_unescaped plain, byteSize_cons mark, byteSize_append, byteSize_ascii own,
    byteSize_ascii (List.forall_mem_singleton.mpr mark), List.length_singleton]
  omega

/-- A field takes its key's literal, its value's text, a colon and a comma. -/
def fieldSize (format : NumberFormat) (field : String × Json) : Nat :=
  2 + byteSize (quote field.1.toList) + byteSize (render format field.2)

theorem byteSize_renderFields {format : NumberFormat} (fields : List (String × Json)) :
    byteSize (renderFields format fields) = (fields.map (fieldSize format)).sum := by
  induction fields with
  | nil =>
    rw [renderFields]
    exact byteSize_ascii (fun c mem => absurd mem List.not_mem_nil)
  | cons field fields ih =>
    obtain ⟨key, value⟩ := field
    rw [renderFields, byteSize_cons (by decide), byteSize_append, byteSize_cons (by decide),
      byteSize_append, ih, List.map_cons, List.sum_cons, fieldSize]
    dsimp only
    omega

/-- The braces of an object stand for one comma too few. -/
theorem byteSize_object {format : NumberFormat} {fields : List (String × Json)}
    (filled : fields ≠ []) :
    byteSize (render format (.obj fields)) = 1 + (fields.map (fieldSize format)).sum := by
  obtain ⟨⟨key, value⟩, fields, rfl⟩ := List.exists_cons_of_ne_nil filled
  have whole := @byteSize_renderFields format ((key, value) :: fields)
  have brace : byteSize ['\x7d'] = 1 :=
    byteSize_ascii (List.forall_mem_singleton.mpr (by decide))
  rw [renderFields, byteSize_cons (by decide)] at whole
  rw [render, renderFields, List.tail_cons, byteSize_cons (by decide), byteSize_append, brace,
    ← whole]
  omega

end SerializedResults
