import TaskQueQue.ProjectionReads
import TaskQueQue.WorkflowExecution

/-!
# References that were accepted

The references of a payload are checked against the names of its sources before they
are resolved, and once more as they are. Where the first check passed, the second
refuses none: whatever the result API answers, a resolution fails only for what it
read.
-/

namespace AcceptedReferences

open GatewayValues WorkflowDefinition ResultReferences WorkflowDags ProjectionReads
open WorkflowExecution (errors errorsOf)

section Source
variable (sources : List (String × Int))

def Known (references : List WorkflowResultReference) : Prop :=
  ∀ reference ∈ references, reference.source ∈ sources.map Prod.fst

mutual

/-- A call none of whose references, read or to come, can be refused. -/
def Safe : Pending → Prop
  | .settled _ => True
  | .rejected error => ∃ message, error = .read message
  | .fetching _ path => ∃ segments, parseResultPath path = .ok segments
  | .all calls => SafeAll calls
  | .assigning _ _ call rest depth =>
    Safe call ∧ ReadableFields depth rest ∧ Known sources (referencesOfFields rest)

def SafeAll : List Pending → Prop
  | [] => True
  | call :: calls => Safe call ∧ SafeAll calls

end

/-- A start of the value makes a safe call, if the references left are few enough. -/
def StartsSafe (value : Json) : Prop :=
  ∀ depth s, Readable depth value → Known sources (referencesOf value) →
    s.references + (referencesOf value).length ≤ MAX_WORKFLOW_RESULT_REFERENCES →
    Safe sources (resolve sources depth value s).1

end Source

variable {sources : List (String × Int)}

theorem safeAll_append (before : List Pending) (call : Pending) (after : List Pending) :
    SafeAll sources (before ++ call :: after) ↔
      Safe sources call ∧ SafeAll sources (before ++ after) := by
  induction before with
  | nil => rw [List.nil_append, List.nil_append, SafeAll]
  | cons first before ih =>
    rw [List.cons_append, List.cons_append, SafeAll, SafeAll, ih]
    exact and_left_comm

theorem descend_error {current : Json} {path : List String} {error : ResolutionError}
    (h : descend current path = .error error) : ∃ message, error = .read message := by
  induction path generalizing current with
  | nil => cases h
  | cons segment rest ih =>
    cases current with
    | arr items =>
      rw [descend] at h
      split at h
      · cases h
        exact ⟨_, rfl⟩
      split at h
      · cases h
        exact ⟨_, rfl⟩
      · exact ih h
    | obj fields =>
      rw [descend] at h
      split at h
      · cases h
        exact ⟨_, rfl⟩
      · exact ih h
    | null | bool _ | num _ | str _ =>
      rw [descend] at h
      cases h
      exact ⟨_, rfl⟩

/-- Selecting by a path that was read fails for the projection only. -/
theorem safe_settle {path : String} (readable : ∃ segments, parseResultPath path = .ok segments)
    (projection : Fields) : Safe sources (settle (selectPath projection path)) := by
  obtain ⟨segments, parsed⟩ := readable
  rw [selectPath, parsed]
  dsimp only
  cases selected : descend (.obj projection) segments with
  | ok value =>
    rw [settle, Safe]
    trivial
  | error error =>
    rw [settle, Safe]
    exact descend_error selected

theorem safe_resolveReference {fields : Fields} {reference : WorkflowResultReference} {s : Shared}
    (parsed : parseReference fields = .ok (some reference))
    (known : reference.source ∈ sources.map Prod.fst)
    (few : s.references + 1 ≤ MAX_WORKFLOW_RESULT_REFERENCES) :
    Safe sources (resolveReference sources reference s).1 := by
  have path := path_of_parsed parsed
  rcases resolveReference_cases sources s reference with
    ⟨_, many | unknown⟩ | ⟨taskId, _, ⟨projection, _, same⟩ | ⟨_, same⟩⟩
  · omega
  · obtain ⟨entry, mem, named⟩ := List.mem_map.mp known
    have other := List.lookup_eq_none_iff.mp unknown entry mem
    rw [named, bne_self_eq_false] at other
    cases other
  · rw [same]
    exact safe_settle path projection
  · rw [same, Safe]
    exact path

theorem safe_resolveFields {fields : Fields} (each : ∀ field ∈ fields, StartsSafe sources field.2)
    {depth : Nat} {output : Fields} {s : Shared} (readable : ReadableFields depth fields)
    (known : Known sources (referencesOfFields fields))
    (few : s.references + (referencesOfFields fields).length ≤ MAX_WORKFLOW_RESULT_REFERENCES) :
    Safe sources (resolveFields sources depth output fields s).1 := by
  cases fields with
  | nil =>
    rw [resolveFields, Safe]
    trivial
  | cons field rest =>
    obtain ⟨key, entry⟩ := field
    rw [ReadableFields] at readable
    rw [referencesOfFields] at known few
    rw [List.length_append] at few
    rw [resolveFields, Safe]
    refine ⟨?_, readable.2, fun reference mem => known reference (List.mem_append_right _ mem)⟩
    exact each _ List.mem_cons_self depth s readable.1
      (fun reference mem => known reference (List.mem_append_left _ mem)) (by dsimp only; omega)

theorem startsSafe (value : Json) : StartsSafe sources value := by
  refine json_induction (P := StartsSafe sources)
    (Q := fun items => ∀ depth s, ReadableItems depth items →
      Known sources (referencesOfItems items) →
      s.references + (referencesOfItems items).length ≤ MAX_WORKFLOW_RESULT_REFERENCES →
      SafeAll sources (resolveItems sources depth items s).1)
    (R := fun fields => ∀ field ∈ fields, StartsSafe sources field.2)
    ?_ ?_ ?_ ?_ ?_ ?_ ?_ value
  · intro value flat depth s readable known few
    rcases resolve_scalar sources depth s flat with ⟨_, deep⟩ | same
    · exact absurd readable deep
    · rw [same, Safe]
      trivial
  · intro items ih depth s readable known few
    rcases resolve_arr sources depth s items with ⟨_, deep⟩ | same
    · exact absurd readable deep
    · rw [Readable] at readable
      rw [referencesOf] at known few
      rw [same, Safe]
      exact ih (depth + 1) s readable.2 known few
  · intro fields ih depth s readable known few
    rcases resolve_obj sources depth s fields with
      ⟨_, deep⟩ | ⟨reference, parsed, same⟩ | ⟨parsed, same⟩
    · exact absurd readable deep
    · rw [referencesOf, parsed] at known few
      rw [same]
      exact safe_resolveReference parsed (known reference (List.mem_singleton_self reference)) few
    · rw [Readable, parsed] at readable
      rw [referencesOf, parsed] at known few
      rw [same]
      exact safe_resolveFields ih readable.2 known few
  · intro depth s _ _ _
    rw [resolveItems, SafeAll]
    trivial
  · intro item items head tail depth s readable known few
    have counted := @counts_resolve sources item depth s
    rw [ReadableItems] at readable
    rw [referencesOfItems] at known few
    rw [List.length_append] at few
    rw [resolveItems, SafeAll]
    refine ⟨head depth s readable.1 ?_ (by omega), tail depth _ readable.2 ?_ (by omega)⟩
    · exact fun reference mem => known reference (List.mem_append_left _ mem)
    · exact fun reference mem => known reference (List.mem_append_right _ mem)
  · exact List.forall_mem_nil _
  · intro key entry rest head tail
    exact List.forall_mem_cons.mpr ⟨head, tail⟩

/-- A step of a resolution keeps its call safe. -/
theorem step_safe {projections : Int → Fields} {call call' : Pending} {s s' : Shared}
    (step : Step sources projections call s call' s') (safe : Safe sources call)
    (few : s.references + remaining call ≤ MAX_WORKFLOW_RESULT_REFERENCES) :
    Safe sources call' := by
  induction step with
  | answered taskId path s =>
    rw [Safe] at safe
    exact safe_settle safe _
  | unanswered taskId path message s =>
    rw [Safe]
    exact ⟨message, rfl⟩
  | @assigned output key call rest depth s value done =>
    rw [Safe] at safe
    rw [remaining] at few
    exact safe_resolveFields (fun field _ => startsSafe field.2) safe.2.1 safe.2.2 (by omega)
  | element _ ih =>
    rw [Safe, safeAll_append] at safe ⊢
    rw [remaining, remainingAll_append] at few
    exact ⟨ih safe.1 (by omega), safe.2⟩
  | entry _ ih =>
    rw [Safe] at safe ⊢
    rw [remaining] at few
    exact ⟨ih safe.1 (by omega), safe.2⟩

mutual

/-- What rejects a safe call is something it read. -/
theorem errors_safe : (call : Pending) → Safe sources call → ∀ error ∈ errors call,
    ∃ message, error = .read message
  | .settled _, _, error, mem => by
    rw [errors] at mem
    cases mem
  | .fetching _ _, _, error, mem => by
    rw [errors] at mem
    cases mem
  | .rejected _, safe, error, mem => by
    rw [Safe] at safe
    rw [errors] at mem
    rw [List.mem_singleton.mp mem]
    exact safe
  | .all calls, safe, error, mem => by
    rw [Safe] at safe
    rw [errors] at mem
    exact errorsOf_safe calls safe error mem
  | .assigning _ _ call _ _, safe, error, mem => by
    rw [Safe] at safe
    rw [errors] at mem
    exact errors_safe call safe.1 error mem

theorem errorsOf_safe : (calls : List Pending) → SafeAll sources calls → ∀ error ∈ errorsOf calls,
    ∃ message, error = .read message
  | [], _, error, mem => by
    rw [errorsOf] at mem
    cases mem
  | call :: calls, safe, error, mem => by
    rw [SafeAll] at safe
    rw [errorsOf] at mem
    exact (List.mem_append.mp mem).elim (errors_safe call safe.1 error)
      (errorsOf_safe calls safe.2 error)

end

/-- A resolution under way, with no reference that could still be refused. -/
structure Resolving (sources : List (String × Int)) (call : Pending) (s : Shared) : Prop where
  safe : Safe sources call
  few : s.references + remaining call ≤ MAX_WORKFLOW_RESULT_REFERENCES

theorem Resolving.step {projections : Int → Fields} {call call' : Pending} {s s' : Shared}
    (resolving : Resolving sources call s) (step : Step sources projections call s call' s') :
    Resolving sources call' s' :=
  ⟨step_safe step resolving.safe resolving.few, (step_remaining step).trans resolving.few⟩

theorem finish_error {platform : Platform} {value : Json} {error : ResolutionError}
    (h : finish platform value = .error error) : ∃ message, error = .read message := by
  unfold finish at h
  split at h
  · cases h
    exact ⟨_, rfl⟩
  · cases h

/-- A payload that passed the first check is refused for the configuration only, or is
resolved. -/
theorem start_cases (platform : Platform) (config : ResultReferenceConfig) {payload : Json}
    {n : Nat} (accepted : validateResultReferencePayload payload (sources.map Prod.fst) = .ok n) :
    (∃ message, start platform config sources payload = .error (.configuration message)) ∨
      start platform config sources payload = .ok (resolve sources 0 payload { }) ∧
        Resolving sources (resolve sources 0 payload { }).1 (resolve sources 0 payload { }).2 := by
  have configured : ∀ error, normalizeWorkflowResultOrigin platform config.origin = .error error →
      ∃ message, error = .configuration message := by
    intro error h
    unfold normalizeWorkflowResultOrigin at h
    split at h
    · cases h
      exact ⟨_, rfl⟩
    dsimp only at h
    split at h
    · cases h
      exact ⟨_, rfl⟩
    split at h
    · cases h
      exact ⟨_, rfl⟩
    · cases h
  rw [start]
  split
  · rename_i error failed
    obtain ⟨message, rfl⟩ := configured error failed
    exact Or.inl ⟨message, rfl⟩
  split
  · exact Or.inl ⟨_, rfl⟩
  rw [accepted]
  obtain ⟨readable, rfl, few, known⟩ := validate_ok.mp accepted
  have none : ({ } : Shared).references = 0 := rfl
  have counted := @counts_resolve sources payload 0 { }
  rw [none, Nat.zero_add] at counted
  refine Or.inr ⟨rfl, startsSafe payload 0 { } readable known ?_, counted.trans few⟩
  rw [none, Nat.zero_add]
  exact few

end AcceptedReferences
