import TaskQueQue.AcceptedOutputs
import TaskQueQue.SerializedResults

/-!
# Results of workflows

What a workflow returns is presentable: its steps and outputs keep the bounds that the
readers of a result hold it to, and it is a value the platform keeps. Its outputs are the
declared ones, each with the value its reference stands for.
-/

namespace PresentableResults

open GatewayValues WorkflowDefinition ResultReferences WorkflowExecution DeclaredOutputs
open AcceptedOutputs SerializedResults
open JsonText (NumberFormat NormalFields NormalItems Precedes)
open CanonicalJson (KeepsJson)
open UrlValues (guard_ok)
open WorkflowFacade (safeName)

/-! ### Selected values -/

theorem normal_getElem {format : NumberFormat} {items : List Json} {index : Nat} {item : Json}
    (normal : NormalItems format items) (found : items[index]? = some item) :
    JsonText.Normal format item := by
  induction items generalizing index with
  | nil => cases found
  | cons first rest ih =>
    rw [NormalItems] at normal
    cases index with
    | zero =>
      cases found
      exact normal.1
    | succ index => exact ih normal.2 found

theorem descend_normal {format : NumberFormat} {current value : Json} {path : List String}
    (normal : JsonText.Normal format current) (h : descend current path = .ok value) :
    JsonText.Normal format value := by
  induction path generalizing current with
  | nil =>
    cases h
    exact normal
  | cons segment rest ih =>
    cases current with
    | arr items =>
      rw [descend] at h
      obtain ⟨_, h⟩ := guard_ok h
      split at h
      · cases h
      · rename_i found
        rw [JsonText.Normal] at normal
        exact ih (normal_getElem normal found) h
    | obj fields =>
      rw [descend] at h
      split at h
      · cases h
      · rename_i found
        rw [JsonText.Normal] at normal
        exact ih (JsonText.normal_of_lookup normal.2 found) h
    | null | bool _ | num _ | str _ =>
      rw [descend] at h
      cases h

/-- Every projection is an object the platform has read. -/
def Stored (worker : WebRuntime) (projections : Int → Fields) : Prop :=
  ∀ taskId, ∃ text, worker.parse text = some (.obj (projections taskId))

section Values
variable {worker : WebRuntime} {format : NumberFormat} {projections : Int → Fields}
variable {sources : List (String × Int)} {references : List (String × WorkflowResultReference)}

theorem referred_normal (keeps : KeepsJson worker format) (stored : Stored worker projections)
    {reference : WorkflowResultReference} {value : Json}
    (h : referred sources projections reference = some value) : JsonText.Normal format value := by
  obtain ⟨taskId, _, h⟩ := Option.bind_eq_some_iff.mp h
  have selected := RequestFingerprints.ok_of_toOption h
  obtain ⟨text, read⟩ := stored taskId
  unfold selectPath at selected
  split at selected
  · cases selected
  · exact descend_normal (keeps.parsed _ _ read) selected

/-- The outputs are the declared ones, each with what its reference stands for. -/
def Meant (sources : List (String × Int)) (projections : Int → Fields)
    (references : List (String × WorkflowResultReference)) (outputs : Fields) : Prop :=
  List.Forall₂ (fun entry output => output.1 = entry.1 ∧
    referred sources projections entry.2 = some output.2) references outputs

theorem rebuild_reference {stepIds : List String} {entry : String × WorkflowResultReference}
    (held : OutputReference stepIds entry) :
    rebuild sources projections (.obj (referenceFields entry.2)) =
      referred sources projections entry.2 := by
  rw [rebuild, held.parsed]

theorem rebuildFields_meant {stepIds : List String}
    (each : ∀ entry ∈ references, OutputReference stepIds entry)
    (order : (references.map Prod.fst).Pairwise Precedes) {output built : Fields}
    (before : ∀ field ∈ output, ∀ key ∈ references.map Prod.fst, Precedes field.1 key)
    (h : rebuildFields sources projections output (declarationsOf references) = some built) :
    ∃ added, built = output ++ added ∧ Meant sources projections references added := by
  induction references generalizing output with
  | nil =>
    rw [declarationsOf, List.map_nil, rebuildFields] at h
    cases h
    exact ⟨[], (List.append_nil _).symm, .nil⟩
  | cons entry rest ih =>
    obtain ⟨first, later⟩ := List.forall_mem_cons.mp each
    rw [List.map_cons, List.pairwise_cons] at order
    rw [declarationsOf, List.map_cons, rebuildFields, rebuild_reference first] at h
    obtain ⟨value, selected, h⟩ := Option.bind_eq_some_iff.mp h
    have plain : entry.1 ≠ "__proto__" := by
      intro same
      refine first.name.2 ?_
      rw [same]
      exact List.mem_cons_self
    have last : ∀ field ∈ output, Precedes field.1 entry.1 :=
      fun field mem => before field mem entry.1 List.mem_cons_self
    rw [assign, if_neg plain, put_last value last] at h
    have before' : ∀ field ∈ output ++ [(entry.1, value)], ∀ key ∈ rest.map Prod.fst,
        Precedes field.1 key := by
      intro field mem key known
      rcases List.mem_append.mp mem with mem | mem
      · exact before field mem key (List.mem_cons_of_mem _ known)
      · rw [List.mem_singleton.mp mem]
        exact order.1 key known
    obtain ⟨added, rfl, meant⟩ := ih later order.2 before' h
    refine ⟨(entry.1, value) :: added, ?_, .cons ⟨rfl, selected⟩ meant⟩
    rw [List.append_assoc, List.singleton_append]

theorem Meant.names {outputs : Fields} (meant : Meant sources projections references outputs) :
    outputs.map Prod.fst = references.map Prod.fst :=
  map_eq_of_each (meant.imp fun _ _ same => same.1)

theorem Meant.normal (keeps : KeepsJson worker format) (stored : Stored worker projections)
    (order : (references.map Prod.fst).Pairwise Precedes) {outputs : Fields}
    (meant : Meant sources projections references outputs) :
    JsonText.Normal format (.obj outputs) := by
  rw [JsonText.Normal]
  refine ⟨meant.names ▸ order, ?_⟩
  clear order
  induction meant with
  | nil => trivial
  | cons same _ ih => exact ⟨referred_normal keeps stored same.2, ih⟩

end Values

/-! ### Resolved outputs -/

section Outputs
variable {worker : WebRuntime} {format : NumberFormat} {platform : Platform}
variable {declared : DeclaredWorkflowDefinition}
variable {references : List (String × WorkflowResultReference)} {projections : Int → Fields}
variable {resolution : ResultReferenceConfig} {sources : List (String × Int)} {outputs : Fields}

theorem resolvedOutputs_ok {resolved : Json} (h : resolvedOutputs platform resolved = .ok outputs) :
    finish platform resolved = .ok (.obj outputs) ∧
      (platform.stringify (.obj outputs)).utf8ByteSize ≤ MAX_WORKFLOW_OUTPUT_BYTES := by
  unfold resolvedOutputs at h
  split at h
  · cases h
  · rename_i finished
    obtain ⟨small, h⟩ := guard_ok h
    cases h
    exact ⟨finished, Nat.not_lt.mp small⟩
  · cases h

theorem resolves_meant (held : Declared format declared references)
    (resolves : Resolves platform resolution sources projections declared.outputs (.ok outputs)) :
    Meant sources projections references outputs ∧ (outputs = [] ∨
      (platform.stringify (.obj outputs)).utf8ByteSize ≤ MAX_WORKFLOW_OUTPUT_BYTES) := by
  generalize outcome : Except.ok outputs = ended at resolves
  cases resolves with
  | undeclared empty =>
    cases outcome
    rw [held.outputs, declarationsOf, List.map_eq_nil_iff] at empty
    subst empty
    exact ⟨.nil, Or.inl rfl⟩
  | refused | rejected => cases outcome
  | @fulfilled first last resolved _ started steps done =>
    obtain ⟨finished, small⟩ := resolvedOutputs_ok outcome.symm
    have built := returns_rebuilt ⟨first, last, resolved, started, steps, done, finished⟩
    rw [rebuild, parseReference_outputs held] at built
    obtain ⟨fields, added, same⟩ := Option.map_eq_some_iff.mp built
    cases same
    rw [held.outputs] at added
    obtain ⟨values, rfl, meant⟩ :=
      rebuildFields_meant held.each held.order (List.forall_mem_nil _) added
    exact ⟨meant, Or.inr small⟩

end Outputs

/-! ### Presentable results -/

/-- A step of a result, as its readers expect it. -/
structure PresentableStep (step : CompletedStep) : Prop where
  id : safeName 64 step.id = true
  type : safeName 128 step.type = true
  task : 0 < step.taskId ∧ step.taskId ≤ 9007199254740991

structure Presentable (worker : WebRuntime) (format : NumberFormat)
    (result : WorkflowResultWithOutputs) : Prop where
  id : 0 < result.workflowTaskId ∧ result.workflowTaskId ≤ 9007199254740991
  filled : result.steps ≠ [] ∧ result.steps.length ≤ MAX_WORKFLOW_STEPS
  steps : ∀ step ∈ result.steps, PresentableStep step
  few : result.outputs.length ≤ MAX_WORKFLOW_OUTPUTS
  names : ∀ output ∈ result.outputs,
    safeName 64 output.1 = true ∧ output.1 ∉ FORBIDDEN_OUTPUT_NAMES
  held : JsonText.Normal format (.obj result.outputs)
  outputsSize : (worker.stringify (.obj result.outputs)).utf8ByteSize ≤ MAX_WORKFLOW_OUTPUT_BYTES
  size : (worker.stringify (resultJson result)).utf8ByteSize ≤ MAX_RESOLVED_STEP_PAYLOAD_BYTES

theorem parseSteps_length {index : Nat} {rawSteps : List Json} {ids : List String}
    {steps : List WorkflowStep} (h : parseSteps index rawSteps ids = .ok steps) :
    steps.length = rawSteps.length := by
  induction rawSteps generalizing index ids steps with
  | nil =>
    cases h
    rfl
  | cons rawStep rest ih =>
    unfold parseSteps at h
    split at h
    · cases h
    split at h
    · cases h
    rename_i later
    cases h
    rw [List.length_cons, List.length_cons, ih later]

theorem definition_bounds {rt : Runtime} {raw : String} {definition : Definition}
    (h : parseWorkflowDefinition rt raw = .ok definition) :
    definition.steps ≠ [] ∧ definition.steps.length ≤ MAX_WORKFLOW_STEPS := by
  unfold parseWorkflowDefinition at h
  obtain ⟨_, h⟩ := guard_ok h
  split at h
  · cases h
  · split at h
    · cases h
    split at h
    · obtain ⟨few, h⟩ := guard_ok h
      split at h
      · cases h
      rename_i steps read
      split at h
      · cases h
      cases h
      have length := parseSteps_length read
      constructor
      · rintro rfl
        cases length
      · rw [length]
        exact Nat.not_lt.mp few
    · cases h
  · cases h

theorem executeWorkflow_bounds {platform : Platform} {workflowTaskId : Int} {rawPayload : String}
    {config : WorkflowGatewayConfig} {w : Workflow} {first : Machine}
    (started : executeWorkflow platform workflowTaskId rawPayload config = .ok (w, first)) :
    (0 < workflowTaskId ∧ workflowTaskId ≤ 9007199254740991) ∧
      w.steps ≠ [] ∧ w.steps.length ≤ MAX_WORKFLOW_STEPS := by
  unfold executeWorkflow at started
  obtain ⟨bounds, started⟩ := guard_ok started
  split at started
  · cases started
  rename_i definition parsed
  split at started
  · cases started
  · cases started
    exact ⟨by omega, definition_bounds parsed⟩

theorem enqueueChild_bounds {platform : Platform} {step : WorkflowStep} {answer : Answer}
    {taskId : Int} {replayed : Bool}
    (h : enqueueChild platform step answer = .ok (taskId, replayed)) :
    0 < taskId ∧ taskId ≤ 9007199254740991 := by
  unfold enqueueChild at h
  split at h
  · cases h
  obtain ⟨_, h⟩ := guard_ok h
  obtain ⟨_, h⟩ := guard_ok h
  split at h
  · rename_i named _ _
    obtain ⟨valid, h⟩ := guard_ok h
    cases h
    have small := of_decide_eq_true (Option.filter_eq_some_iff.mp named).2
    omega
  · cases h

theorem forall_right {α β : Type} {R : α → β → Prop} {P : β → Prop} {items : List α}
    {others : List β} (each : List.Forall₂ R items others)
    (holds : ∀ item ∈ items, ∀ other, R item other → P other) : ∀ other ∈ others, P other := by
  induction each with
  | nil => exact List.forall_mem_nil P
  | cons same _ ih =>
    obtain ⟨first, later⟩ := List.forall_mem_cons.mp holds
    exact List.forall_mem_cons.mpr ⟨first _ same, ih later⟩

/-- What a declared workflow was executed for, and with which outputs it returned. -/
structure Explains (worker : WebRuntime) (rawPayload : String)
    (result : WorkflowResultWithOutputs) (declared : DeclaredWorkflowDefinition)
    (references : List (String × WorkflowResultReference)) (projections : Int → Fields) : Prop where
  parsed : parseDeclaredWorkflow worker.toRuntime rawPayload = .ok declared
  outputs : declared.outputs = declarationsOf references
  stored : Stored worker projections
  steps : result.steps.map CompletedStep.id = declaredStepIds declared.steps
  meant : Meant (completedStepTaskIds result.toWorkflowResult) projections references result.outputs

section Executions
variable {worker : WebRuntime} {format : NumberFormat} {newUrl : String → Option OriginUrl}
variable {workflowTaskId : Int} {rawPayload : String} {config : WorkflowGatewayConfig}
variable {history : List Event} {result : WorkflowResultWithOutputs}

/-- Whatever a workflow returns is presentable. -/
theorem presentable_of_executes (keeps : KeepsJson worker format)
    (executes : Executes (platformOf worker newUrl) (Stored worker) workflowTaskId rawPayload config
      history (.ok result)) :
    Presentable worker format result ∧ result.workflowTaskId = workflowTaskId ∧
      ∃ declared references projections,
        Explains worker rawPayload result declared references projections := by
  generalize outcome : Except.ok result = ended at executes
  cases executes with
  | undeclared | unstarted | thrown | unresolved => cases outcome
  | @resolved declared w history m base projections outputs executing returned stored resolved =>
    obtain ⟨parsed, first, started, run⟩ := executing
    obtain ⟨references, held⟩ := declared_of_parsed keeps parsed
    unfold withOutputs at outcome
    dsimp only at outcome
    split at outcome
    · cases outcome
    rename_i small
    cases outcome
    obtain ⟨bounds, filled, few⟩ := executeWorkflow_bounds started
    have ids := started_ids keeps held.steps started
    have listed := sources_of_returned started run returned
    obtain ⟨accepted, named, rfl⟩ := WorkflowRuns.executeWorkflow_ok started
    obtain ⟨_, same, each⟩ := WorkflowRuns.returned_lists accepted
      (WorkflowRuns.inv_run accepted run) returned
    have length := each.length_eq
    obtain ⟨meant, outputsSmall⟩ := resolves_meant held resolved
    have task : base.workflowTaskId = workflowTaskId := same.trans named
    have outputsLength : outputs.length = references.length := by
      rw [← @List.length_map _ _ _ Prod.fst, meant.names, List.length_map]
    refine ⟨⟨?_, ⟨?_, ?_⟩, ?_, ?_, ?_, meant.normal keeps stored held.order, ?_, ?_⟩, task, declared,
      references, projections, parsed, held.outputs, stored, ?_, meant⟩
    · dsimp only
      rwa [task]
    · rintro empty
      dsimp only at empty
      rw [empty, List.length_nil, List.length_eq_zero_iff] at length
      exact filled length
    · dsimp only
      rwa [← length]
    · refine forall_right each ?_
      rintro step mem done ⟨id, type, answer, replayed, _, taken⟩
      obtain ⟨safeId, ⟨safeType, _⟩, _⟩ := accepted.parsed step mem
      exact ⟨id ▸ safeId, type ▸ safeType, enqueueChild_bounds taken⟩
    · dsimp only
      rw [outputsLength]
      exact held.few
    · refine forall_right meant ?_
      rintro entry mem output ⟨name, _⟩
      rw [name]
      exact (held.each entry mem).name
    · rcases outputsSmall with rfl | outputsSmall
      · have empty : worker.stringify (.obj []) = "\x7b\x7d" := keeps.stringify _ ⟨.nil, trivial⟩
        dsimp only
        rw [empty]
        decide
      · exact outputsSmall
    · exact Nat.not_lt.mp small
    · rw [← ids, ← listed, completedStepTaskIds, List.map_map]
      rfl

end Executions

/-! ### The text of a result -/

section Texts
variable {worker : WebRuntime} {format : NumberFormat} {result : WorkflowResultWithOutputs}

theorem held_integer {n : Int} (bounds : 0 < n ∧ n ≤ 9007199254740991) :
    JsonText.Normal format (.num n) := by
  have small : n.natAbs ≤ JsonText.MAX_SAFE_INTEGER := by
    rw [JsonText.MAX_SAFE_INTEGER]
    omega
  rw [JsonText.Normal]
  exact (format.integer n small).1

theorem stepJson_normal {step : CompletedStep} (presentable : PresentableStep step) :
    JsonText.Normal format (stepJson step) := by
  have keys : ["id", "type", "task_id", "status"].Pairwise Precedes := by decide
  rw [stepJson, JsonText.Normal]
  exact ⟨keys, trivial, trivial, held_integer presentable.task, trivial, trivial⟩

theorem steps_normal {steps : List CompletedStep} (each : ∀ step ∈ steps, PresentableStep step) :
    NormalItems format (steps.map stepJson) := by
  induction steps with
  | nil => trivial
  | cons step rest ih =>
    obtain ⟨first, later⟩ := List.forall_mem_cons.mp each
    exact ⟨stepJson_normal first, ih later⟩

theorem resultJson_normal (presentable : Presentable worker format result) :
    JsonText.Normal format (resultJson result) := by
  have keys : ["schema_version", "workflow_task_id", "status", "steps", "outputs"].Pairwise
      Precedes := by decide
  have version : JsonText.Normal format (.num 1) :=
    held_integer (n := 1) ⟨by decide, by decide⟩
  have steps : JsonText.Normal format (.arr (result.steps.map stepJson)) := by
    rw [JsonText.Normal]
    exact steps_normal presentable.steps
  rw [resultJson, JsonText.Normal]
  exact ⟨keys, version, held_integer presentable.id, trivial, steps, presentable.held, trivial⟩

/-- A presentable result is sent as it is. -/
theorem serialized_of_presentable (keeps : KeepsJson worker format)
    (presentable : Presentable worker format result) :
    serializeResultProjection worker (some (resultJson result)) =
      .ok (some (worker.stringify (resultJson result))) := by
  have object : ¬(resultJson result).keys = none := Option.some_ne_none _
  have small : ¬ MAX_RESULT_PROJECTION_BYTES <
      (worker.stringify (resultJson result)).utf8ByteSize := Nat.not_lt.mpr presentable.size
  rw [serializeResultProjection, if_neg object]
  dsimp only
  rw [if_neg small, keeps.back _ (resultJson_normal presentable)]
  dsimp only
  rw [if_neg object]

end Texts

end PresentableResults
