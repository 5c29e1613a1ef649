import TaskQueQue.DeclaredOutputs
import TaskQueQue.RequestFingerprints
import TaskQueQue.WorkflowRuns

/-!
# Outputs that were accepted

Declared outputs are checked against the ids of the declared steps before the first of
these is submitted. Once the steps are completed their ids are the sources of the outputs,
so nothing about the declarations is left to be refused. A workflow that fails for its
payload has therefore not been started, or failed with the submission of a step that the
gateway refused.
-/

namespace AcceptedOutputs

open GatewayValues WorkflowDefinition ResultReferences WorkflowExecution DeclaredOutputs
open WorkflowDags AcceptedReferences
open JsonText (NumberFormat Precedes)
open UrlValues (guard_ok)
open WorkflowFacade (safeName)

/-! ### Declarations that were read -/

def referenceFields (reference : WorkflowResultReference) : Fields :=
  [("$from", .str reference.source), ("path", .str reference.path)]

/-- The declared outputs of these references. -/
def declarationsOf (references : List (String × WorkflowResultReference)) : Fields :=
  references.map fun entry => (entry.1, .obj (referenceFields entry.2))

/-- An output and what it refers to, one of these steps. -/
structure OutputReference (stepIds : List String) (entry : String × WorkflowResultReference) :
    Prop where
  name : safeName 64 entry.1 = true ∧ entry.1 ∉ FORBIDDEN_OUTPUT_NAMES
  parsed : parseReference (referenceFields entry.2) = .ok (some entry.2)
  source : entry.2.source ∈ stepIds

theorem parseReference_fields {reference : WorkflowResultReference}
    (safe : ¬(!safeName 64 reference.source) = true)
    (readable : ∃ segments, parseResultPath reference.path = .ok segments) :
    parseReference (referenceFields reference) = .ok (some reference) := by
  obtain ⟨segments, readable⟩ := readable
  have named : (referenceFields reference).lookup "$from" = some (.str reference.source) := rfl
  have selected : (referenceFields reference).lookup "path" = some (.str reference.path) := rfl
  have two : ¬(referenceFields reference).length ≠ 2 := fun other => other rfl
  rw [parseReference, named, selected]
  dsimp only
  rw [if_neg two, if_neg safe, readable]

theorem parseReference_some {fields : Fields} {reference : WorkflowResultReference}
    (h : parseReference fields = .ok (some reference)) :
    fields.lookup "$from" = some (.str reference.source) ∧
      fields.lookup "path" = some (.str reference.path) ∧
        parseReference (referenceFields reference) = .ok (some reference) := by
  unfold parseReference at h
  split at h
  · cases h
  rename_i source named
  split at h
  · cases h
  rename_i path selected
  obtain ⟨_, h⟩ := guard_ok h
  split at h
  · obtain ⟨safe, h⟩ := guard_ok h
    split at h
    · split at h
      · cases h
      rename_i segments readable
      cases h
      exact ⟨named, selected, parseReference_fields safe ⟨segments, readable⟩⟩
    · cases h
  · cases h

theorem parseOutputReference_ok {name : String} {raw reference : Json} {stepIds : List String}
    (h : parseOutputReference name raw stepIds = .ok reference) :
    ∃ r, reference = .obj (referenceFields r) ∧
      parseReference (referenceFields r) = .ok (some r) ∧ r.source ∈ stepIds := by
  unfold parseOutputReference at h
  split at h
  · rename_i fields
    split at h
    · cases h
    rename_i count validated
    obtain ⟨readable, _, _, known⟩ := validate_ok.mp validated
    split at h
    · rename_i source path named selected
      obtain ⟨_, h⟩ := guard_ok h
      cases h
      rw [Readable] at readable
      rcases parsed : parseReference fields with message | _ | r
      · rw [parsed] at readable
        exact readable.2.elim
      · unfold parseReference at parsed
        rw [named, selected] at parsed
        obtain ⟨_, parsed⟩ := guard_ok parsed
        split at parsed
        · obtain ⟨_, parsed⟩ := guard_ok parsed
          split at parsed
          · split at parsed
            · cases parsed
            · cases parsed
          · cases parsed
        · cases parsed
      · obtain ⟨source', path', again⟩ := parseReference_some parsed
        rw [named] at source'
        rw [selected] at path'
        cases source'
        cases path'
        refine ⟨r, rfl, again, known r ?_⟩
        rw [referencesOf, parsed]
        exact List.mem_singleton_self r
    · cases h
  · cases h

/-- The loop adds the outputs in their order. -/
theorem parseOutputs_ok {stepIds : List String} {entries : Fields} {outputs declared : Fields}
    (order : (entries.map Prod.fst).Pairwise Precedes)
    (before : ∀ field ∈ outputs, ∀ key ∈ entries.map Prod.fst, Precedes field.1 key)
    (h : parseOutputs stepIds outputs entries = .ok declared) :
    ∃ references, references.map Prod.fst = entries.map Prod.fst ∧
      declared = outputs ++ declarationsOf references ∧
        ∀ entry ∈ references, OutputReference stepIds entry := by
  induction entries generalizing outputs with
  | nil =>
    cases h
    exact ⟨[], rfl, (List.append_nil _).symm, List.forall_mem_nil _⟩
  | cons entry rest ih =>
    obtain ⟨name, raw⟩ := entry
    unfold parseOutputs at h
    obtain ⟨named, h⟩ := guard_ok h
    split at h
    · cases h
    rename_i reference parsed
    obtain ⟨r, rfl, again, known⟩ := parseOutputReference_ok parsed
    rw [List.map_cons, List.pairwise_cons] at order
    have last : ∀ field ∈ outputs, Precedes field.1 name :=
      fun field mem => before field mem name List.mem_cons_self
    rw [put_last _ last] at h
    have before' : ∀ field ∈ outputs ++ [(name, Json.obj (referenceFields r))],
        ∀ key ∈ rest.map Prod.fst, Precedes field.1 key := by
      intro field mem key known
      rcases List.mem_append.mp mem with mem | mem
      · exact before field mem key (List.mem_cons_of_mem _ known)
      · rw [List.mem_singleton.mp mem]
        exact order.1 key known
    obtain ⟨references, names, rfl, each⟩ := ih order.2 before' h
    refine ⟨(name, r) :: references, ?_, ?_, ?_⟩
    · rw [List.map_cons, List.map_cons, names]
    · rw [List.append_assoc, List.singleton_append]
      rfl
    · refine List.forall_mem_cons.mpr ⟨⟨?_, again, known⟩, each⟩
      rw [not_or, Bool.not_eq_true', Bool.not_eq_false, List.contains_iff_mem] at named
      exact named

/-- What is known of the declared outputs of a payload the platform has read. -/
structure Declared (format : NumberFormat) (declared : DeclaredWorkflowDefinition)
    (references : List (String × WorkflowResultReference)) : Prop where
  outputs : declared.outputs = declarationsOf references
  few : references.length ≤ MAX_WORKFLOW_OUTPUTS
  order : (references.map Prod.fst).Pairwise Precedes
  each : ∀ entry ∈ references, OutputReference (declaredStepIds declared.steps) entry
  steps : ∀ steps ∈ declared.steps, JsonText.Normal format steps

theorem outputsRaw_normal {format : NumberFormat} {fields entries : Fields}
    (normal : JsonText.NormalFields format fields) (h : outputsRaw fields = some entries) :
    (entries.map Prod.fst).Pairwise Precedes := by
  unfold outputsRaw at h
  split at h
  · cases h
    exact .nil
  · cases h
    exact .nil
  · rename_i found
    cases h
    have held := JsonText.normal_of_lookup normal found
    rw [JsonText.Normal] at held
    exact held.1
  · cases h

theorem declared_of_parsed {worker : WebRuntime} {format : NumberFormat}
    (keeps : CanonicalJson.KeepsJson worker format) {rawPayload : String}
    {declared : DeclaredWorkflowDefinition}
    (h : parseDeclaredWorkflow worker.toRuntime rawPayload = .ok declared) :
    ∃ references, Declared format declared references := by
  unfold parseDeclaredWorkflow at h
  split at h
  · cases h
  · rename_i fields read
    have normal := keeps.parsed _ _ read
    rw [JsonText.Normal] at normal
    split at h
    · cases h
    split at h
    · cases h
    rename_i entries raw
    obtain ⟨few, h⟩ := guard_ok h
    split at h
    · cases h
    rename_i outputs listed
    cases h
    have order := outputsRaw_normal normal.2 raw
    obtain ⟨references, names, rfl, each⟩ := parseOutputs_ok order (List.forall_mem_nil _) listed
    refine ⟨references, rfl, ?_, names ▸ order, each, fun steps found => ?_⟩
    · rw [← @List.length_map _ _ _ Prod.fst, names, List.length_map]
      exact Nat.not_lt.mp few
    · exact JsonText.normal_of_lookup normal.2 found
  · cases h

/-! ### Sources -/

theorem parseStep_id {index : Nat} {rawStep : Json} {ids : List String} {step : WorkflowStep}
    (h : parseStep index rawStep ids = .ok step) :
    (rawStep.field "id").bind asString = some step.id := by
  unfold parseStep at h
  split at h
  · split at h
    · cases h
    split at h
    · cases h
    rename_i id named
    obtain ⟨_, h⟩ := guard_ok h
    obtain ⟨_, h⟩ := guard_ok h
    split at h
    · cases h
    obtain ⟨_, h⟩ := guard_ok h
    obtain ⟨_, h⟩ := guard_ok h
    split at h
    · cases h
    split at h
    · cases h
    split at h
    · cases h
    split at h
    · cases h
    split at h
    · cases h
    · cases h
      exact named
  · cases h

theorem parseSteps_ids {index : Nat} {rawSteps : List Json} {ids : List String}
    {steps : List WorkflowStep} (h : parseSteps index rawSteps ids = .ok steps) :
    rawSteps.filterMap (fun step => (step.field "id").bind asString) =
      steps.map WorkflowStep.id := by
  induction rawSteps generalizing index ids steps with
  | nil =>
    cases h
    rfl
  | cons rawStep rest ih =>
    unfold parseSteps at h
    split at h
    · cases h
    rename_i step first
    split at h
    · cases h
    rename_i steps later
    cases h
    rw [List.filterMap_cons, parseStep_id first, List.map_cons, ih later]

/-- The platform of a worker that reads URLs in this way. -/
def platformOf (worker : WebRuntime) (newUrl : String → Option OriginUrl) : Platform where
  toRuntime := worker.toRuntime
  newUrl := newUrl

section Executions
variable {worker : WebRuntime} {format : NumberFormat} {newUrl : String → Option OriginUrl}
variable {workflowTaskId : Int} {config : WorkflowGatewayConfig} {w : Workflow}
variable {declared : DeclaredWorkflowDefinition}

theorem stepsPayload_read (keeps : CanonicalJson.KeepsJson worker format)
    (held : ∀ steps ∈ declared.steps, JsonText.Normal format steps) :
    worker.parse (stepsPayload (platformOf worker newUrl) declared) =
      some (.obj (declared.steps.toList.map fun steps => ("steps", steps))) := by
  refine keeps.back _ ?_
  rw [JsonText.Normal]
  cases same : declared.steps with
  | none => exact ⟨.nil, trivial⟩
  | some steps => exact ⟨List.pairwise_singleton _ _, held steps same, trivial⟩

/-- The steps that are executed have the ids the outputs were checked against. -/
theorem started_ids (keeps : CanonicalJson.KeepsJson worker format)
    (held : ∀ steps ∈ declared.steps, JsonText.Normal format steps) {first : Machine}
    (started : executeWorkflow (platformOf worker newUrl) workflowTaskId
      (stepsPayload (platformOf worker newUrl) declared) config = .ok (w, first)) :
    w.steps.map WorkflowStep.id = declaredStepIds declared.steps := by
  unfold executeWorkflow at started
  obtain ⟨_, started⟩ := guard_ok started
  split at started
  · cases started
  rename_i definition parsed
  split at started
  · cases started
  cases started
  have read : (platformOf worker newUrl).toRuntime.parse
      (stepsPayload (platformOf worker newUrl) declared) = _ := stepsPayload_read keeps held
  unfold parseWorkflowDefinition at parsed
  obtain ⟨_, parsed⟩ := guard_ok parsed
  rw [read] at parsed
  dsimp only at parsed
  split at parsed
  · cases parsed
  split at parsed
  · rename_i rawFirst rest listed
    obtain ⟨_, parsed⟩ := guard_ok parsed
    split at parsed
    · cases parsed
    rename_i steps read
    split at parsed
    · cases parsed
    cases parsed
    cases same : declared.steps with
    | none =>
      rw [same] at listed
      cases listed
    | some raw =>
      rw [same] at listed
      cases listed
      exact (parseSteps_ids read).symm
  · cases parsed

variable {shown : (Int → Fields) → Prop} {history : List Event} {m : Machine}
variable {base : WorkflowResult} {references : List (String × WorkflowResultReference)}

theorem map_eq_of_each {α β γ : Type} {f : α → γ} {g : β → γ} {items : List α} {others : List β}
    (each : List.Forall₂ (fun item other => g other = f item) items others) :
    others.map g = items.map f := by
  induction each with
  | nil => rfl
  | cons same _ ih => rw [List.map_cons, List.map_cons, same, ih]

theorem sources_of_returned {first : Machine}
    (started : executeWorkflow (platformOf worker newUrl) workflowTaskId
      (stepsPayload (platformOf worker newUrl) declared) config = .ok (w, first))
    (run : LabelledRuns.Runs (Step (platformOf worker newUrl) w shown) first history m)
    (returned : m.await = .returned base) :
    (completedStepTaskIds base).map Prod.fst = w.steps.map WorkflowStep.id := by
  obtain ⟨accepted, _, rfl⟩ := WorkflowRuns.executeWorkflow_ok started
  obtain ⟨_, _, each⟩ := WorkflowRuns.returned_lists accepted (WorkflowRuns.inv_run accepted run)
    returned
  rw [completedStepTaskIds, List.map_map]
  exact map_eq_of_each (each.imp fun _ _ same => same.1)

/-! ### Resolution -/

theorem lookup_from {format : NumberFormat} (held : Declared format declared references) :
    declared.outputs.lookup "$from" = none := by
  rw [held.outputs, List.lookup_eq_none_iff]
  intro field mem
  obtain ⟨entry, inside, rfl⟩ := List.mem_map.mp mem
  have forbidden : safeName 64 "$from" = false := by decide
  have safe := (held.each entry inside).name.1
  rw [bne_iff_ne]
  rintro same
  rw [← same, forbidden] at safe
  cases safe

theorem parseReference_outputs {format : NumberFormat}
    (held : Declared format declared references) :
    parseReference declared.outputs = .ok none := by
  rw [parseReference, lookup_from held]

theorem fields_of_references {stepIds : List String}
    (each : ∀ entry ∈ references, OutputReference stepIds entry) :
    ReadableFields 1 (declarationsOf references) ∧
      referencesOfFields (declarationsOf references) = references.map Prod.snd := by
  induction references with
  | nil => exact ⟨trivial, rfl⟩
  | cons entry rest ih =>
    obtain ⟨first, later⟩ := List.forall_mem_cons.mp each
    obtain ⟨readable, listed⟩ := ih later
    rw [declarationsOf, List.map_cons, ReadableFields, referencesOfFields, Readable, referencesOf,
      first.parsed]
    exact ⟨⟨⟨by decide, trivial⟩, readable⟩, congrArg (entry.2 :: ·) listed⟩

/-- What is checked before the outputs are resolved has been checked already. -/
theorem outputs_validated {format : NumberFormat} (held : Declared format declared references) :
    validateResultReferencePayload (.obj declared.outputs) (declaredStepIds declared.steps) =
      .ok references.length := by
  obtain ⟨readable, listed⟩ := fields_of_references held.each
  rw [← held.outputs] at readable listed
  refine validate_ok.mpr ⟨?_, ?_, held.few.trans (by decide), ?_⟩
  · rw [Readable, parseReference_outputs held]
    exact ⟨Nat.zero_le _, readable⟩
  · rw [referencesOf, parseReference_outputs held]
    dsimp only
    rw [listed, List.length_map]
  · rw [referencesOf, parseReference_outputs held]
    dsimp only
    rw [listed]
    intro reference mem
    obtain ⟨entry, inside, rfl⟩ := List.mem_map.mp mem
    exact (held.each entry inside).source

end Executions

/-! ### Faults -/

/-- A `WorkflowPayloadError`. -/
def payloadError : ExecutionFault → Bool
  | .definition (.payload _) | .refused _ | .badReference _ _ => true
  | _ => false

/-- The code a failed workflow is reported with. -/
def classifyError (fault : ExecutionFault) : String :=
  if payloadError fault then "invalid_payload" else "processing_failed"

theorem payload_of_classified {fault : ExecutionFault}
    (classified : classifyError fault = "invalid_payload") : payloadError fault = true := by
  unfold classifyError at classified
  split at classified
  · assumption
  · exact absurd classified (by decide)

/-- A fault that is none of the payload's, but for a reference that was let through. -/
def Elsewhere (fault : ExecutionFault) : Prop :=
  payloadError fault = false ∨ ∃ stepId message, fault = .badReference stepId message

section Faults
variable {platform : Platform} {w : Workflow}

theorem referenceFault_elsewhere (stepId : String) (error : ResolutionError) :
    Elsewhere (referenceFault stepId error) := by
  cases error with
  | reference message => exact Or.inr ⟨stepId, message, rfl⟩
  | read message => exact Or.inl rfl
  | configuration message => exact Or.inl rfl

theorem completedSteps_elsewhere {runtime : RuntimeMap} {steps : List WorkflowStep}
    {fault : ExecutionFault} (h : completedSteps runtime steps = .error fault) :
    Elsewhere fault := by
  induction steps with
  | nil => cases h
  | cons step rest ih =>
    unfold completedSteps at h
    split at h
    · split at h
      · rename_i failed
        cases h
        exact ih failed
      · cases h
    · cases h
      exact Or.inl rfl

theorem ancestorTaskIds_elsewhere {runtime : RuntimeMap} {ids : List String}
    {fault : ExecutionFault} (h : ancestorTaskIds runtime ids = .error fault) :
    Elsewhere fault := by
  induction ids with
  | nil => cases h
  | cons id rest ih =>
    unfold ancestorTaskIds at h
    split at h
    · split at h
      · rename_i failed
        cases h
        exact ih failed
      · cases h
    · cases h
      exact Or.inl rfl

theorem resolveStepPayload_elsewhere {runtime : RuntimeMap} {step : WorkflowStep}
    {fault : ExecutionFault} (h : resolveStepPayload platform w runtime step = .error fault) :
    Elsewhere fault := by
  unfold resolveStepPayload at h
  split at h
  · rename_i failed
    cases h
    exact ancestorTaskIds_elsewhere failed
  · split at h
    · cases h
      exact referenceFault_elsewhere _ _
    · cases h

/-- No fault of this kind is thrown. -/
def Throws (m : Machine) : Prop := ∀ fault, m.await = .thrown fault → Elsewhere fault

theorem conclude_throws (runtime : RuntimeMap) : Throws (conclude w runtime) := by
  intro fault thrown
  unfold conclude at thrown
  split at thrown
  · split at thrown
    · rename_i failed
      cases thrown
      exact completedSteps_elsewhere failed
    · cases thrown
  · cases thrown

theorem submitFrom_throws (runtime : RuntimeMap) (rest : List WorkflowStep) :
    Throws (submitFrom platform w runtime rest) := by
  induction rest with
  | nil => exact conclude_throws runtime
  | cons current rest ih =>
    unfold submitFrom
    split
    · split
      · exact ih
      split
      · rename_i failed
        rintro fault ⟨⟩
        exact resolveStepPayload_elsewhere failed
      · rintro fault ⟨⟩
    · exact ih
    · exact ih

theorem pollFrom_throws (runtime : RuntimeMap) (rest : List WorkflowStep) :
    Throws (pollFrom platform w runtime rest) := by
  induction rest with
  | nil => exact submitFrom_throws runtime w.steps
  | cons current rest ih =>
    unfold pollFrom
    split
    · split
      · exact ih
      · rintro fault ⟨⟩
    · exact ih
    · exact ih

theorem gatewayJson_elsewhere {answer : Answer} {fault : ExecutionFault}
    (h : gatewayJson platform answer = .error fault) : Elsewhere fault := by
  unfold gatewayJson at h
  repeat' split at h
  all_goals cases h
  all_goals exact Or.inl rfl

theorem getChild_elsewhere {taskId : Int} {name : String} {answer : Answer}
    {fault : ExecutionFault} (h : getChild platform taskId name answer = .error fault) :
    Elsewhere fault := by
  unfold getChild at h
  split at h
  · rename_i failed
    cases h
    exact gatewayJson_elsewhere failed
  · repeat' split at h
    all_goals cases h
    all_goals exact Or.inl rfl

/-- The gateway answered the submission of a step by refusing it. -/
def Refused (platform : Platform) (event : Event) : Prop :=
  ∃ stepId answer status body, event = .answered stepId answer ∧
    gatewayJson platform answer = .ok (status, body) ∧ status ∈ [400, 413, 422]

theorem enqueueChild_elsewhere {step : WorkflowStep} {answer : Answer} {fault : ExecutionFault}
    (h : enqueueChild platform step answer = .error fault) :
    Elsewhere fault ∨ Refused platform (.answered step.id answer) := by
  unfold enqueueChild at h
  split at h
  · rename_i failed
    cases h
    exact Or.inl (gatewayJson_elsewhere failed)
  · rename_i status body replied
    split at h
    · rename_i refused
      refine Or.inr ⟨step.id, answer, status, body, rfl, replied, ?_⟩
      rw [List.mem_cons, List.mem_cons, List.mem_singleton]
      exact refused
    · repeat' split at h
      all_goals cases h
      all_goals exact Or.inl (Or.inl rfl)

/-- Of the steps of an execution, only a refused submission throws for the payload. -/
theorem step_elsewhere {shown : (Int → Fields) → Prop} {m m' : Machine} {event : Event}
    (step : Step platform w shown m event m') : Throws m' ∨ Refused platform event := by
  cases step with
  | clock runtime elapsedMs =>
    left
    unfold beginRound
    split
    · rintro fault ⟨⟩
      exact Or.inl rfl
    · exact pollFrom_throws runtime w.steps
  | polled runtime current taskId rest answer =>
    left
    unfold afterPoll
    split
    · rename_i failed
      rintro fault ⟨⟩
      exact getChild_elsewhere failed
    · dsimp only
      split
      · rintro fault ⟨⟩
        exact Or.inl rfl
      · exact pollFrom_throws _ rest
  | resolving _ step =>
    left
    rintro fault ⟨⟩
  | rejected mem | oversized _ refused =>
    left
    rintro fault ⟨⟩
    exact referenceFault_elsewhere _ _
  | submitted done fits =>
    left
    rintro fault ⟨⟩
  | answered runtime current rest answer =>
    unfold afterSubmission
    split
    · rename_i failed
      rcases enqueueChild_elsewhere failed with other | refused
      · left
        rintro fault ⟨⟩
        exact other
      · exact Or.inr refused
    · exact Or.inl (submitFrom_throws _ rest)

end Faults

section Ends
variable {worker : WebRuntime} {format : NumberFormat} {newUrl : String → Option OriginUrl}
variable {shown : (Int → Fields) → Prop} {workflowTaskId : Int} {rawPayload : String}
variable {config : WorkflowGatewayConfig} {declared : DeclaredWorkflowDefinition}
variable {references : List (String × WorkflowResultReference)}

theorem outputFault_read {error : ResolutionError} (read : ∃ message, error = .read message) :
    payloadError (outputFault error) = false := by
  obtain ⟨message, rfl⟩ := read
  rfl

theorem resolvedOutputs_fault {platform : Platform} {resolved : Json} {fault : ExecutionFault}
    (h : resolvedOutputs platform resolved = .error fault) : payloadError fault = false := by
  unfold resolvedOutputs at h
  split at h
  · rename_i failed
    cases h
    exact outputFault_read (finish_error failed)
  · split at h
    · cases h
      rfl
    · cases h
  · cases h
    rfl

theorem resolving_steps {sources : List (String × Int)} {projections : Int → Fields}
    {first last : Pending × Shared} (resolving : Resolving sources first.1 first.2)
    (steps : Steps sources projections first last) : Resolving sources last.1 last.2 := by
  induction steps with
  | refl => exact resolving
  | tail _ step ih => exact ih.step step

/-- Accepted outputs are refused for their configuration, what was read, or their size. -/
theorem resolves_fault {platform : Platform} {resolution : ResultReferenceConfig}
    {sources : List (String × Int)} {projections : Int → Fields} {fault : ExecutionFault}
    (held : Declared format declared references)
    (ids : sources.map Prod.fst = declaredStepIds declared.steps)
    (resolves : Resolves platform resolution sources projections declared.outputs (.error fault)) :
    payloadError fault = false := by
  have validated := outputs_validated held
  rw [← ids] at validated
  generalize outcome : Except.error fault = ended at resolves
  rcases start_cases platform resolution validated with ⟨message, failed⟩ | ⟨started, resolving⟩
  · cases resolves with
    | undeclared => cases outcome
    | refused _ failed' =>
      rw [failed] at failed'
      cases failed'
      cases outcome
      rfl
    | rejected _ started | fulfilled _ started =>
      rw [failed] at started
      cases started
  · cases resolves with
    | undeclared => cases outcome
    | refused _ failed =>
      rw [started] at failed
      cases failed
    | rejected _ started' steps mem =>
      rw [started] at started'
      cases started'
      cases outcome
      exact outputFault_read (errors_safe _ (resolving_steps resolving steps).safe _ mem)
    | fulfilled _ _ _ done => exact resolvedOutputs_fault outcome.symm

/-- A workflow that is reported as having an invalid payload was refused before its first
step, or at the submission of a step that the gateway refused. -/
theorem invalid_payload_explained (keeps : CanonicalJson.KeepsJson worker format)
    {history : List Event} {fault : ExecutionFault}
    (executes : Executes (platformOf worker newUrl) shown workflowTaskId rawPayload config history
      (.error fault)) (classified : classifyError fault = "invalid_payload") :
    history = [] ∨ ∃ before event, history = before ++ [event] ∧
      Refused (platformOf worker newUrl) event := by
  have payload := payload_of_classified classified
  generalize outcome : Except.error fault = ended at executes
  cases executes with
  | undeclared | unstarted => exact Or.inl rfl
  | @thrown declared w history m _ executing thrown =>
    cases outcome
    obtain ⟨_, first, started, run⟩ := executing
    obtain ⟨accepted, _, rfl⟩ := WorkflowRuns.executeWorkflow_ok started
    have waits := (WorkflowRuns.inv_run accepted run).waits
    rw [thrown] at waits
    cases run with
    | start => exact Or.inl rfl
    | @step past _ _ event run last =>
      refine Or.inr ⟨past, event, rfl, (step_elsewhere last).resolve_left fun throws => ?_⟩
      rcases throws fault thrown with other | ⟨stepId, message, rfl⟩
      · rw [other] at payload
        cases payload
      · exact waits
  | @unresolved declared w history m base projections _ executing returned _ failed =>
    cases outcome
    obtain ⟨parsed, first, started, run⟩ := executing
    obtain ⟨references, held⟩ := declared_of_parsed keeps parsed
    have ids := (sources_of_returned started run returned).trans
      (started_ids keeps held.steps started)
    rw [resolves_fault held ids failed] at payload
    cases payload
  | @resolved declared w history m base projections outputs executing returned _ resolved =>
    unfold withOutputs at outcome
    dsimp only at outcome
    split at outcome
    · cases outcome
      cases payload
    · cases outcome

end Ends

/-! ### A workflow of one step with one output -/

section Samples
open RequestFingerprints (orderedWeb orderedWeb_keeps)
open WorkflowRuns (firstStep joinConfig)

def rawFirst : Json := .obj [("id", .str "a"), ("type", .str "t"), ("payload", .null)]

def rawOutputs : Fields := [("x", .obj [("$from", .str "a"), ("path", .str "v")])]

def rawWorkflow : Json := .obj [("steps", .arr [rawFirst]), ("outputs", .obj rawOutputs)]

def sampleUrl (_ : String) : Option OriginUrl :=
  some ⟨⟨"http:", "", "", "127.0.0.1", "7331", "", "", []⟩, "/", "http://127.0.0.1:7331"⟩

def sampleDeclared : DeclaredWorkflowDefinition := ⟨some (.arr [rawFirst]), rawOutputs⟩

def sampleWorkflow : Workflow :=
  ⟨7, [firstStep],
    ⟨"http://127.0.0.1:7331", "root-token", 2000, 1000, 60000, "http://127.0.0.1:7331"⟩⟩

theorem rawFirst_normal : JsonText.Normal JsonText.integers rawFirst := by
  have keys : ["id", "type", "payload"].Pairwise Precedes := by decide
  exact ⟨keys, trivial, trivial, trivial, trivial⟩

theorem sample_parsed : parseDeclaredWorkflow orderedWeb.toRuntime
    (orderedWeb.stringify rawWorkflow) = .ok sampleDeclared := by
  have keys : ["steps", "outputs"].Pairwise Precedes := by decide
  have inner : ["$from", "path"].Pairwise Precedes := by decide
  have normal : JsonText.Normal JsonText.integers rawWorkflow :=
    ⟨keys, ⟨rawFirst_normal, trivial⟩, ⟨List.pairwise_singleton _ _,
      ⟨inner, trivial, trivial, trivial⟩, trivial⟩, trivial⟩
  have read : orderedWeb.toRuntime.parse (orderedWeb.stringify rawWorkflow) = some rawWorkflow :=
    orderedWeb_keeps.back _ normal
  rw [parseDeclaredWorkflow, read]
  rfl

theorem sample_started : executeWorkflow (platformOf orderedWeb sampleUrl) 7
    (stepsPayload (platformOf orderedWeb sampleUrl) sampleDeclared) joinConfig =
      .ok (sampleWorkflow, ⟨initialRuntime [firstStep], .round⟩) := by
  have held : ∀ steps ∈ sampleDeclared.steps, JsonText.Normal JsonText.integers steps := by
    rintro _ ⟨⟩
    exact ⟨rawFirst_normal, trivial⟩
  have read : (platformOf orderedWeb sampleUrl).toRuntime.parse
      (stepsPayload (platformOf orderedWeb sampleUrl) sampleDeclared) = _ :=
    stepsPayload_read orderedWeb_keeps held
  have small : ¬ MAX_WORKFLOW_PAYLOAD_BYTES <
      (stepsPayload (platformOf orderedWeb sampleUrl) sampleDeclared).utf8ByteSize := by
    decide +kernel
  rw [executeWorkflow, if_neg (by decide), parseWorkflowDefinition, if_neg small, read]
  rfl

/-- The runtime of the step. -/
def sampleRuntime (taskId : Option Int) (status : StepStatus) : RuntimeMap :=
  [⟨firstStep, taskId, status⟩]

theorem sample_submitted (shown : (Int → Fields) → Prop) : LabelledRuns.Runs
    (Step (platformOf orderedWeb sampleUrl) sampleWorkflow shown)
    ⟨initialRuntime [firstStep], .round⟩
    [.clock 0, .submitted "a" (childSubmission (platformOf orderedWeb sampleUrl) 7 firstStep .null)]
    ⟨sampleRuntime none .waiting, .submission firstStep []⟩ := by
  have begun : beginRound (platformOf orderedWeb sampleUrl) sampleWorkflow
      (initialRuntime [firstStep]) 0 =
      ⟨sampleRuntime none .waiting, .payload firstStep [] (.settled .null) { } []⟩ := rfl
  have first : Step (platformOf orderedWeb sampleUrl) sampleWorkflow shown
      ⟨initialRuntime [firstStep], .round⟩ (.clock 0) _ := Step.clock _ 0
  rw [begun] at first
  have fits : finish (platformOf orderedWeb sampleUrl) .null = .ok .null := by
    rw [finish, if_neg (by decide +kernel)]
  exact (LabelledRuns.Runs.start.step first).step (Step.submitted rfl fits)

def refusal : Answer := .ok ⟨400, orderedWeb.stringify (.obj [])⟩

theorem invalid_payload_explained_sample : ∃ before event,
    [.clock 0, .submitted "a" (childSubmission (platformOf orderedWeb sampleUrl) 7 firstStep .null),
      .answered "a" refusal] = before ++ [event] ∧
    Refused (platformOf orderedWeb sampleUrl) event := by
  have read : (platformOf orderedWeb sampleUrl).parse (orderedWeb.stringify (.obj [])) =
      some (.obj []) := orderedWeb_keeps.back _ ⟨.nil, trivial⟩
  have refused : enqueueChild (platformOf orderedWeb sampleUrl) firstStep refusal =
      .error (.refused "a") := by
    rw [enqueueChild, refusal, gatewayJson]
    dsimp only
    rw [read]
    rfl
  have answered : Step (platformOf orderedWeb sampleUrl) sampleWorkflow (fun _ => True)
      ⟨sampleRuntime none .waiting, .submission firstStep []⟩ (.answered "a" refusal) _ :=
    Step.answered _ firstStep [] refusal
  rw [afterSubmission, refused] at answered
  have executing : Executing (platformOf orderedWeb sampleUrl) (fun _ => True) 7
      (orderedWeb.stringify rawWorkflow) joinConfig sampleDeclared sampleWorkflow _ _ :=
    ⟨sample_parsed, _, sample_started, (sample_submitted fun _ => True).step answered⟩
  have executes := Executes.thrown executing rfl
  exact (invalid_payload_explained orderedWeb_keeps executes (by decide)).resolve_left
    (List.cons_ne_nil _ _)

end Samples

end AcceptedOutputs
