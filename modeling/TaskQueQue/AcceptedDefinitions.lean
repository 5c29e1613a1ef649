import TaskQueQue.UrlValues
import TaskQueQue.WorkflowDags

/-!
# Accepted definitions

What is known of the steps of a definition that the validator accepted, whatever text
it was read from.
-/

namespace AcceptedDefinitions

open GatewayValues WorkflowDefinition WorkflowDags
open UrlValues (guard_ok)
open WorkflowFacade (safeName)

/-- What is read of one step, whatever it was written as. -/
structure ParsedStep (step : WorkflowStep) : Prop where
  id : safeName 64 step.id = true
  type : safeName 128 step.type = true ∧ step.type ≠ "workflow.run"
  single : step.id ∉ step.dependsOn ∧ step.dependsOn.Nodup

theorem parseDependencies_single {id : String} {dependencies : List Json}
    {seen result : List String} (h : parseDependencies id dependencies seen = .ok result)
    (before : id ∉ seen ∧ seen.Nodup) : id ∉ result ∧ result.Nodup := by
  induction dependencies generalizing seen with
  | nil =>
    cases h
    exact before
  | cons dependency rest ih =>
    unfold parseDependencies at h
    split at h
    · rename_i dependency
      obtain ⟨_, h⟩ := guard_ok h
      obtain ⟨other, h⟩ := guard_ok h
      obtain ⟨fresh, h⟩ := guard_ok h
      refine ih h ⟨?_, ?_⟩
      · rw [List.mem_append, List.mem_singleton, not_or]
        exact ⟨before.1, fun same => other same.symm⟩
      · rw [List.nodup_append]
        refine ⟨before.2, List.nodup_singleton _, ?_⟩
        rintro old mem new added rfl
        rw [List.mem_singleton.mp added] at mem
        exact fresh mem
    · cases h

theorem parseStep_parsed {index : Nat} {rawStep : Json} {ids : List String} {step : WorkflowStep}
    (h : parseStep index rawStep ids = .ok step) : ParsedStep step ∧ step.id ∉ ids := by
  unfold parseStep at h
  split at h
  · split at h
    · cases h
    split at h
    · cases h
    rename_i id _
    obtain ⟨safeId, h⟩ := guard_ok h
    obtain ⟨fresh, h⟩ := guard_ok h
    split at h
    · cases h
    rename_i type _
    obtain ⟨safeType, h⟩ := guard_ok h
    obtain ⟨plain, h⟩ := guard_ok h
    split at h
    · cases h
    split at h
    · cases h
    split at h
    · cases h
    rename_i dependsOn parsed
    split at h
    · cases h
    split at h
    · cases h
    · cases h
      rw [Bool.not_eq_true, Bool.not_eq_false'] at safeId safeType
      exact ⟨⟨safeId, ⟨safeType, plain⟩,
        parseDependencies_single parsed ⟨List.not_mem_nil, List.nodup_nil⟩⟩, fresh⟩
  · cases h

theorem parseSteps_parsed {index : Nat} {rawSteps : List Json} {ids : List String}
    {steps : List WorkflowStep} (h : parseSteps index rawSteps ids = .ok steps) :
    (steps.map WorkflowStep.id).Nodup ∧
      ∀ step ∈ steps, ParsedStep step ∧ step.id ∉ ids := by
  induction rawSteps generalizing index ids steps with
  | nil =>
    cases h
    exact ⟨List.nodup_nil, List.forall_mem_nil _⟩
  | cons rawStep rest ih =>
    unfold parseSteps at h
    split at h
    · cases h
    rename_i step first
    split at h
    · cases h
    rename_i steps later
    cases h
    obtain ⟨distinct, each⟩ := ih later
    rw [List.map_cons, List.nodup_cons, List.forall_mem_cons]
    refine ⟨⟨?_, distinct⟩, parseStep_parsed first, fun other mem => ?_⟩
    · intro mem
      obtain ⟨other, inside, same⟩ := List.mem_map.mp mem
      exact (each other inside).2 (List.mem_append_right _ (List.mem_singleton.mpr same))
    · exact ⟨(each other mem).1, fun old => (each other mem).2 (List.mem_append_left _ old)⟩

theorem checkReferences_validated {all steps : List WorkflowStep}
    (h : checkReferences all steps = .ok ()) : ∀ step ∈ steps, ∃ n,
      validateResultReferencePayload step.payload (ancestorsOf step.id all) = .ok n := by
  induction steps with
  | nil => exact List.forall_mem_nil _
  | cons step rest ih =>
    unfold checkReferences at h
    split at h
    · cases h
    · rename_i n validated
      exact List.forall_mem_cons.mpr ⟨⟨n, validated⟩, ih h⟩

/-- What is known of the steps of an accepted definition. -/
structure Accepted (steps : List WorkflowStep) : Prop where
  wellFormed : WellFormed steps
  parsed : ∀ step ∈ steps, ParsedStep step
  validated : ∀ step ∈ steps, ∃ n,
    validateResultReferencePayload step.payload (ancestorsOf step.id steps) = .ok n

theorem checkGraph_accepted {steps : List WorkflowStep}
    (unique : (steps.map WorkflowStep.id).Nodup) (parsed : ∀ step ∈ steps, ParsedStep step)
    (h : checkGraph steps = .ok ()) : Accepted steps := by
  have validated : ∀ step ∈ steps, ∃ n,
      validateResultReferencePayload step.payload (ancestorsOf step.id steps) = .ok n := by
    unfold checkGraph at h
    split at h
    · cases h
    split at h
    · cases h
    · exact checkReferences_validated h
  have readable := fun step mem => (validate_ok.mp (validated step mem).choose_spec).1
  have few : ∀ step ∈ steps,
      (referencesOf step.payload).length ≤ MAX_WORKFLOW_RESULT_REFERENCES := by
    intro step mem
    obtain ⟨_, same, few, _⟩ := validate_ok.mp (validated step mem).choose_spec
    rwa [same] at few
  obtain ⟨known, acyclic, refers⟩ := (checkGraph_ok readable few unique).mp h
  exact ⟨(wellFormed_iff steps).mpr ⟨unique, fun step mem => (parsed step mem).single, known,
    acyclic, refers⟩, parsed, validated⟩

theorem accepted_of_parsed {rt : Runtime} {raw : String} {definition : Definition}
    (h : parseWorkflowDefinition rt raw = .ok definition) : Accepted definition.steps := by
  unfold parseWorkflowDefinition at h
  obtain ⟨_, h⟩ := guard_ok h
  split at h
  · cases h
  · split at h
    · cases h
    split at h
    · obtain ⟨_, h⟩ := guard_ok h
      split at h
      · cases h
      rename_i steps read
      split at h
      · cases h
      rename_i checked
      cases h
      obtain ⟨unique, each⟩ := parseSteps_parsed read
      exact checkGraph_accepted unique (fun step mem => (each step mem).1) checked
    · cases h
  · cases h

end AcceptedDefinitions
