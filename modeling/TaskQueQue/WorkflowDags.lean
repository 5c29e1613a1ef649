import TaskQueQue.AdmissionLanguage
import TaskQueQue.JsonText
import TaskQueQue.WorkflowDefinition

/-!
# What the workflow validator accepts

A workflow whose fields are in order is accepted exactly if it is a directed
acyclic graph: its ids are unique, its steps depend on steps of it, none on itself
and none twice, no step depends on itself through others, and the results a payload
refers to are those of steps its own step depends on, directly or through others.
-/

namespace WorkflowDags

open GatewayValues DepthFirstSearch WorkflowDefinition Relation
open JsonText (integers render)
open WorkflowFacade (safeName)

/-! ### Payloads -/

mutual

/-- Nested within the limit, with every reference in order. -/
def Readable (depth : Nat) : Json → Prop
  | .arr items => depth ≤ MAX_REFERENCE_PAYLOAD_DEPTH ∧ ReadableItems (depth + 1) items
  | .obj fields => depth ≤ MAX_REFERENCE_PAYLOAD_DEPTH ∧
      match parseReference fields with
      | .error _ => False
      | .ok (some _) => True
      | .ok none => ReadableFields (depth + 1) fields
  | .null | .bool _ | .num _ | .str _ => depth ≤ MAX_REFERENCE_PAYLOAD_DEPTH

def ReadableItems (depth : Nat) : List Json → Prop
  | [] => True
  | item :: items => Readable depth item ∧ ReadableItems depth items

def ReadableFields (depth : Nat) : List (String × Json) → Prop
  | [] => True
  | (_, value) :: fields => Readable depth value ∧ ReadableFields depth fields

end

mutual

def referencesOf : Json → List WorkflowResultReference
  | .arr items => referencesOfItems items
  | .obj fields =>
    match parseReference fields with
    | .error _ => []
    | .ok (some reference) => [reference]
    | .ok none => referencesOfFields fields
  | .null | .bool _ | .num _ | .str _ => []

def referencesOfItems : List Json → List WorkflowResultReference
  | [] => []
  | item :: items => referencesOf item ++ referencesOfItems items

def referencesOfFields : List (String × Json) → List WorkflowResultReference
  | [] => []
  | (_, value) :: fields => referencesOf value ++ referencesOfFields fields

end

section Walk
variable {State : Type} (onReference : WorkflowResultReference → State → Except String State)

def visitReferences (references : List WorkflowResultReference) (s : State) :
    Except String State :=
  references.foldlM (fun s reference => onReference reference s) s

theorem visitReferences_append (first later : List WorkflowResultReference) (s s' : State) :
    visitReferences onReference (first ++ later) s = .ok s' ↔
      ∃ s₁, visitReferences onReference first s = .ok s₁ ∧
        visitReferences onReference later s₁ = .ok s' := by
  unfold visitReferences
  rw [List.foldlM_append]
  cases walked : first.foldlM (fun s reference => onReference reference s) s with
  | error message =>
    constructor
    · rintro ⟨⟩
    · rintro ⟨s₁, ⟨⟩, _⟩
  | ok s₁ =>
    constructor
    · exact fun later => ⟨s₁, rfl, later⟩
    · rintro ⟨s₂, ⟨⟩, later⟩
      exact later

/-- What a scalar adds to a walk: nothing, if it is not nested too deeply. -/
theorem scalar_ok {depth : Nat} {result : Except String State} {s s' : State} {readable : Prop}
    (walked : result = if MAX_REFERENCE_PAYLOAD_DEPTH < depth then
      .error ("workflow payload nesting exceeds " ++ toString MAX_REFERENCE_PAYLOAD_DEPTH)
      else .ok s)
    (shallow : readable ↔ depth ≤ MAX_REFERENCE_PAYLOAD_DEPTH) :
    result = .ok s' ↔ readable ∧ visitReferences onReference [] s = .ok s' := by
  rw [walked, shallow]
  by_cases deep : MAX_REFERENCE_PAYLOAD_DEPTH < depth
  · rw [if_pos deep]
    exact ⟨fun h => (nomatch h), fun h => absurd h.1 (Nat.not_le.mpr deep)⟩
  · rw [if_neg deep]
    exact ⟨fun h => ⟨Nat.not_lt.mp deep, h⟩, fun h => h.2⟩

mutual

/-- A walk that does not fail meets the references in order. -/
theorem walkReferences_ok : (value : Json) → (depth : Nat) → (s s' : State) →
    (walkReferences onReference depth value s = .ok s' ↔
      Readable depth value ∧ visitReferences onReference (referencesOf value) s = .ok s')
  | .arr items, depth, s, s' => by
    rw [walkReferences, Readable, referencesOf, and_assoc,
      ← walkItems_ok items (depth + 1) s s']
    by_cases deep : MAX_REFERENCE_PAYLOAD_DEPTH < depth
    · rw [if_pos deep]
      exact ⟨fun h => (nomatch h), fun h => absurd h.1 (Nat.not_le.mpr deep)⟩
    · rw [if_neg deep]
      exact ⟨fun h => ⟨Nat.not_lt.mp deep, h⟩, fun h => h.2⟩
  | .obj fields, depth, s, s' => by
    rw [walkReferences, Readable, referencesOf, and_assoc]
    by_cases deep : MAX_REFERENCE_PAYLOAD_DEPTH < depth
    · rw [if_pos deep]
      exact ⟨fun h => (nomatch h), fun h => absurd h.1 (Nat.not_le.mpr deep)⟩
    rw [if_neg deep, and_iff_right (Nat.not_lt.mp deep)]
    rcases parseReference fields with message | _ | reference
    · exact ⟨fun h => (nomatch h), fun h => h.1.elim⟩
    · exact walkFields_ok fields (depth + 1) s s'
    · dsimp only
      rw [true_and]
      unfold visitReferences
      rw [List.foldlM_cons]
      cases onReference reference s with
      | error message => exact ⟨fun h => (nomatch h), fun h => (nomatch h)⟩
      | ok s₁ => exact Iff.rfl
  | .null, depth, s, s' => by
    rw [referencesOf]
    exact scalar_ok onReference (by rw [walkReferences]) (by rw [Readable])
  | .bool _, depth, s, s' => by
    rw [referencesOf]
    exact scalar_ok onReference (by rw [walkReferences]) (by rw [Readable])
  | .num _, depth, s, s' => by
    rw [referencesOf]
    exact scalar_ok onReference (by rw [walkReferences]) (by rw [Readable])
  | .str _, depth, s, s' => by
    rw [referencesOf]
    exact scalar_ok onReference (by rw [walkReferences]) (by rw [Readable])

theorem walkItems_ok : (items : List Json) → (depth : Nat) → (s s' : State) →
    (walkItems onReference depth items s = .ok s' ↔
      ReadableItems depth items ∧ visitReferences onReference (referencesOfItems items) s = .ok s')
  | [], depth, s, s' => by
    rw [walkItems, ReadableItems, referencesOfItems, true_and]
    rfl
  | item :: items, depth, s, s' => by
    rw [walkItems, ReadableItems, referencesOfItems, visitReferences_append]
    cases walked : walkReferences onReference depth item s with
    | error message =>
      constructor
      · rintro ⟨⟩
      · rintro ⟨⟨readable, _⟩, s₁, first, _⟩
        rw [(walkReferences_ok item depth s s₁).mpr ⟨readable, first⟩] at walked
        cases walked
    | ok s₁ =>
      obtain ⟨readable, first⟩ := (walkReferences_ok item depth s s₁).mp walked
      dsimp only
      rw [walkItems_ok items depth s₁ s']
      constructor
      · rintro ⟨rest, later⟩
        exact ⟨⟨readable, rest⟩, s₁, first, later⟩
      · rintro ⟨⟨_, rest⟩, s₂, again, later⟩
        rw [first] at again
        cases again
        exact ⟨rest, later⟩

theorem walkFields_ok : (fields : List (String × Json)) → (depth : Nat) → (s s' : State) →
    (walkFields onReference depth fields s = .ok s' ↔ ReadableFields depth fields ∧
      visitReferences onReference (referencesOfFields fields) s = .ok s')
  | [], depth, s, s' => by
    rw [walkFields, ReadableFields, referencesOfFields, true_and]
    rfl
  | (key, value) :: fields, depth, s, s' => by
    rw [walkFields, ReadableFields, referencesOfFields, visitReferences_append]
    cases walked : walkReferences onReference depth value s with
    | error message =>
      constructor
      · rintro ⟨⟩
      · rintro ⟨⟨readable, _⟩, s₁, first, _⟩
        rw [(walkReferences_ok value depth s s₁).mpr ⟨readable, first⟩] at walked
        cases walked
    | ok s₁ =>
      obtain ⟨readable, first⟩ := (walkReferences_ok value depth s s₁).mp walked
      dsimp only
      rw [walkFields_ok fields depth s₁ s']
      constructor
      · rintro ⟨rest, later⟩
        exact ⟨⟨readable, rest⟩, s₁, first, later⟩
      · rintro ⟨⟨_, rest⟩, s₂, again, later⟩
        rw [first] at again
        cases again
        exact ⟨rest, later⟩

end

end Walk

theorem countReference_ok {allowed : List String} {reference : WorkflowResultReference}
    {n n' : Nat} (h : countReference allowed reference n = .ok n') :
    n' = n + 1 ∧ n + 1 ≤ MAX_WORKFLOW_RESULT_REFERENCES ∧ reference.source ∈ allowed := by
  unfold countReference at h
  split at h
  · cases h
  rename_i few
  split at h
  · cases h
  rename_i known
  cases h
  exact ⟨rfl, Nat.not_lt.mp few, not_not.mp known⟩

/-- Counting succeeds if every source is allowed and the references are few. -/
theorem countReferences_ok (allowed : List String) (references : List WorkflowResultReference)
    (n n' : Nat) (small : n ≤ MAX_WORKFLOW_RESULT_REFERENCES) :
    visitReferences (countReference allowed) references n = .ok n' ↔
      n' = n + references.length ∧ n' ≤ MAX_WORKFLOW_RESULT_REFERENCES ∧
        ∀ reference ∈ references, reference.source ∈ allowed := by
  induction references generalizing n with
  | nil =>
    constructor
    · rintro ⟨⟩
      exact ⟨rfl, small, fun reference mem => absurd mem List.not_mem_nil⟩
    · rintro ⟨rfl, _, _⟩
      rfl
  | cons reference rest ih =>
    rw [List.length_cons, List.forall_mem_cons]
    unfold visitReferences at ih ⊢
    rw [List.foldlM_cons]
    constructor
    · intro h
      cases counted : countReference allowed reference n with
      | error message =>
        rw [counted] at h
        cases h
      | ok s₁ =>
        obtain ⟨rfl, few, known⟩ := countReference_ok counted
        rw [counted] at h
        obtain ⟨same, few', all⟩ := (ih _ few).mp h
        exact ⟨by omega, few', known, all⟩
    · rintro ⟨same, few, known, all⟩
      have room : n + 1 ≤ MAX_WORKFLOW_RESULT_REFERENCES := by omega
      have counted : countReference allowed reference n = .ok (n + 1) := by
        rw [countReference, if_neg (Nat.not_lt.mpr room), if_neg (not_not.mpr known)]
      rw [counted]
      exact (ih _ room).mpr ⟨by omega, few, all⟩

theorem validate_ok {payload : Json} {allowed : List String} {n : Nat} :
    validateResultReferencePayload payload allowed = .ok n ↔ Readable 0 payload ∧
      n = (referencesOf payload).length ∧ n ≤ MAX_WORKFLOW_RESULT_REFERENCES ∧
        ∀ reference ∈ referencesOf payload, reference.source ∈ allowed := by
  unfold validateResultReferencePayload
  rw [walkReferences_ok, countReferences_ok _ _ _ _ (Nat.zero_le _), Nat.zero_add]

/-! ### Steps with their fields in order -/

/-- A step as a JSON value spells it. -/
structure Describes (rawStep : Json) (step : WorkflowStep) : Prop where
  keys : ∃ fields, rawStep = .obj fields ∧ ∀ key ∈ fields.map Prod.fst, key ∈ stepKeys
  id : rawStep.field "id" = some (.str step.id) ∧ safeName 64 step.id = true
  type : rawStep.field "type" = some (.str step.type) ∧ safeName 128 step.type = true ∧
    step.type ≠ "workflow.run"
  payload : rawStep.field "payload" = some step.payload
  readable : Readable 0 step.payload
  few : (referencesOf step.payload).length ≤ MAX_WORKFLOW_RESULT_REFERENCES
  dependsOn : dependsOnRaw rawStep = some (step.dependsOn.map Json.str) ∧
    ∀ dependency ∈ step.dependsOn, safeName 64 dependency = true
  priority : optionalInteger (rawStep.field "priority") = some step.priority
  maxRetries : optionalInteger (rawStep.field "max_retries") = some step.maxRetries ∧
    ∀ n ∈ step.maxRetries, 0 ≤ n

theorem parseDependencies_ok (id : String) (dependencies seen result : List String)
    (safe : ∀ dependency ∈ dependencies, safeName 64 dependency = true) :
    parseDependencies id (dependencies.map Json.str) seen = .ok result ↔
      result = seen ++ dependencies ∧ id ∉ dependencies ∧ dependencies.Nodup ∧
        ∀ dependency ∈ dependencies, dependency ∉ seen := by
  induction dependencies generalizing seen with
  | nil =>
    rw [List.map_nil, parseDependencies, List.append_nil]
    constructor
    · rintro ⟨⟩
      exact ⟨rfl, List.not_mem_nil, List.nodup_nil, fun d mem => absurd mem List.not_mem_nil⟩
    · rintro ⟨rfl, _⟩
      rfl
  | cons dependency rest ih =>
    have later := fun d mem => safe d (List.mem_cons_of_mem dependency mem)
    rw [List.map_cons, parseDependencies, safe dependency List.mem_cons_self, Bool.not_true,
      if_neg Bool.false_ne_true, List.mem_cons, not_or, List.nodup_cons, List.forall_mem_cons]
    by_cases itself : dependency = id
    · rw [if_pos itself]
      exact ⟨fun h => (nomatch h), fun h => absurd itself.symm h.2.1.1⟩
    rw [if_neg itself]
    by_cases repeated : dependency ∈ seen
    · rw [if_pos repeated]
      exact ⟨fun h => (nomatch h), fun h => absurd repeated h.2.2.2.1⟩
    rw [if_neg repeated, ih (seen ++ [dependency]) later, List.append_assoc, List.singleton_append]
    constructor
    · rintro ⟨same, notSelf, distinct, fresh⟩
      refine ⟨same, ⟨fun h => itself h.symm, notSelf⟩, ⟨?_, distinct⟩, repeated, ?_⟩
      · exact fun mem => fresh dependency mem
          (List.mem_append_right seen (List.mem_singleton_self dependency))
      · exact fun d mem old => fresh d mem (List.mem_append_left _ old)
    · rintro ⟨same, ⟨_, notSelf⟩, ⟨single, distinct⟩, _, fresh⟩
      refine ⟨same, notSelf, distinct, ?_⟩
      intro d mem old
      rcases List.mem_append.mp old with old | new
      · exact fresh d mem old
      · exact single (List.mem_singleton.mp new ▸ mem)

/-- Where its fields are in order, a step is refused for its id and its dependencies only. -/
theorem parseStep_ok {rawStep : Json} {step : WorkflowStep} (fields : Describes rawStep step)
    (index : Nat) (ids : List String) (result : WorkflowStep) :
    parseStep index rawStep ids = .ok result ↔ result = step ∧ step.id ∉ ids ∧
      step.id ∉ step.dependsOn ∧ step.dependsOn.Nodup := by
  obtain ⟨entries, rfl, keys⟩ := fields.keys
  have known : (entries.map Prod.fst).find? (fun key => !stepKeys.contains key) = none := by
    rw [List.find?_eq_none]
    intro key mem
    rw [List.contains_iff_mem.mpr (keys key mem)]
    exact Bool.false_ne_true
  have retries : (optionalInteger ((Json.obj entries).field "max_retries")).filter
      (fun value => value.all fun n => decide (0 ≤ n)) = some step.maxRetries := by
    rw [fields.maxRetries.1, Option.filter_some, if_pos]
    cases found : step.maxRetries with
    | none => rfl
    | some n => exact decide_eq_true (fields.maxRetries.2 n found)
  unfold parseStep
  dsimp only
  rw [known, fields.id.1, fields.type.1, fields.payload, fields.dependsOn.1, fields.priority,
    retries]
  dsimp only [Option.bind_some, asString]
  rw [fields.id.2, fields.type.2.1, Bool.not_true, if_neg Bool.false_ne_true,
    if_neg Bool.false_ne_true, if_neg fields.type.2.2]
  by_cases old : step.id ∈ ids
  · rw [if_pos old]
    exact ⟨fun h => (nomatch h), fun h => absurd old h.2.1⟩
  rw [if_neg old]
  have dependencies := fun dependsOn =>
    parseDependencies_ok step.id step.dependsOn [] dependsOn fields.dependsOn.2
  cases parsed : parseDependencies step.id (step.dependsOn.map Json.str) [] with
  | error error =>
    constructor
    · rintro ⟨⟩
    · rintro ⟨_, _, notSelf, distinct⟩
      rw [(dependencies step.dependsOn).mpr
        ⟨rfl, notSelf, distinct, fun d _ => List.not_mem_nil⟩] at parsed
      cases parsed
  | ok dependsOn =>
    obtain ⟨rfl, notSelf, distinct, _⟩ := (dependencies dependsOn).mp parsed
    constructor
    · rintro ⟨⟩
      exact ⟨rfl, old, notSelf, distinct⟩
    · rintro ⟨rfl, _⟩
      rfl

theorem parseSteps_ok {rawSteps : List Json} {steps : List WorkflowStep}
    (fields : List.Forall₂ Describes rawSteps steps) (index : Nat) (ids : List String)
    (result : List WorkflowStep) :
    parseSteps index rawSteps ids = .ok result ↔ result = steps ∧
      (steps.map WorkflowStep.id).Nodup ∧ (∀ step ∈ steps, step.id ∉ ids) ∧
        ∀ step ∈ steps, step.id ∉ step.dependsOn ∧ step.dependsOn.Nodup := by
  induction fields generalizing index ids result with
  | nil =>
    rw [parseSteps]
    constructor
    · rintro ⟨⟩
      exact ⟨rfl, List.nodup_nil, fun s mem => absurd mem List.not_mem_nil,
        fun s mem => absurd mem List.not_mem_nil⟩
    · rintro ⟨rfl, _⟩
      rfl
  | @cons rawStep step rest steps first _ ih =>
    have head := parseStep_ok first index ids
    rw [parseSteps, List.map_cons, List.nodup_cons, List.forall_mem_cons, List.forall_mem_cons]
    cases parsed : parseStep index rawStep ids with
    | error error =>
      constructor
      · rintro ⟨⟩
      · rintro ⟨_, _, ⟨fresh, _⟩, own, _⟩
        rw [(head step).mpr ⟨rfl, fresh, own⟩] at parsed
        cases parsed
    | ok parsedStep =>
      obtain ⟨rfl, fresh, own⟩ := (head parsedStep).mp parsed
      have tail := ih (index + 1) (ids ++ [parsedStep.id])
      have outside : (∀ step ∈ steps, step.id ∉ ids ++ [parsedStep.id]) ↔
          parsedStep.id ∉ steps.map WorkflowStep.id ∧ ∀ step ∈ steps, step.id ∉ ids := by
        constructor
        · intro all
          constructor
          · intro mem
            obtain ⟨step, inside, same⟩ := List.mem_map.mp mem
            exact all step inside (List.mem_append_right ids (List.mem_singleton.mpr same))
          · exact fun step inside old => all step inside (List.mem_append_left _ old)
        · rintro ⟨single, all⟩ step inside old
          rcases List.mem_append.mp old with old | new
          · exact all step inside old
          · exact single (List.mem_map.mpr ⟨step, inside, List.mem_singleton.mp new⟩)
      dsimp only
      cases later : parseSteps (index + 1) rest (ids ++ [parsedStep.id]) with
      | error error =>
        constructor
        · rintro ⟨⟩
        · rintro ⟨_, ⟨single, distinct⟩, ⟨_, all⟩, _, owns⟩
          rw [(tail steps).mpr ⟨rfl, distinct, outside.mpr ⟨single, all⟩, owns⟩] at later
          cases later
      | ok parsedSteps =>
        obtain ⟨rfl, distinct, all, owns⟩ := (tail parsedSteps).mp later
        obtain ⟨single, all⟩ := outside.mp all
        constructor
        · rintro ⟨⟩
          exact ⟨rfl, ⟨single, distinct⟩, ⟨fresh, all⟩, own, owns⟩
        · rintro ⟨rfl, _⟩
          rfl

/-! ### The graph -/

def DependsOn (steps : List WorkflowStep) (x y : String) : Prop :=
  ∃ step ∈ steps, step.id = x ∧ y ∈ step.dependsOn

section Graph
variable {steps : List WorkflowStep}

theorem dependenciesOf_isSome_iff (id : String) :
    (dependenciesOf steps id).isSome ↔ id ∈ steps.map WorkflowStep.id := by
  unfold dependenciesOf
  rw [Option.isSome_map, List.find?_isSome, List.mem_map]
  simp only [decide_eq_true_eq]

theorem dependenciesOf_of_mem (unique : (steps.map WorkflowStep.id).Nodup) {step : WorkflowStep}
    (mem : step ∈ steps) : dependenciesOf steps step.id = some step.dependsOn := by
  unfold dependenciesOf
  cases found : steps.find? fun other => decide (other.id = step.id) with
  | none =>
    have none := List.find?_eq_none.mp found step mem
    exact absurd (decide_eq_true rfl) none
  | some other =>
    have same : other.id = step.id := decide_eq_true_eq.mp (List.find?_some found :)
    have equal := List.inj_on_of_nodup_map unique (List.mem_of_find?_eq_some found) mem same
    rw [equal, Option.map_some]

theorem mem_of_dependenciesOf {id : String} {dependsOn : List String}
    (h : dependenciesOf steps id = some dependsOn) :
    ∃ step ∈ steps, step.id = id ∧ step.dependsOn = dependsOn := by
  obtain ⟨step, found, rfl⟩ := Option.map_eq_some_iff.mp h
  have same : step.id = id := decide_eq_true_eq.mp (List.find?_some found :)
  exact ⟨step, List.mem_of_find?_eq_some found, same, rfl⟩

theorem edge_iff (unique : (steps.map WorkflowStep.id).Nodup) :
    Edge (successors (dependenciesOf steps)) = DependsOn steps := by
  funext x y
  apply propext
  unfold Edge successors DependsOn
  constructor
  · intro mem
    cases found : dependenciesOf steps x with
    | none =>
      rw [found] at mem
      exact absurd mem List.not_mem_nil
    | some dependsOn =>
      obtain ⟨step, inside, same, rfl⟩ := mem_of_dependenciesOf found
      rw [found] at mem
      exact ⟨step, inside, same, mem⟩
  · rintro ⟨step, inside, rfl, mem⟩
    rw [dependenciesOf_of_mem unique inside]
    exact mem

/-- Every dependency is a step. -/
def Known (steps : List WorkflowStep) : Prop :=
  ∀ step ∈ steps, ∀ dependency ∈ step.dependsOn, dependency ∈ steps.map WorkflowStep.id

theorem unknownDependency_none_iff : unknownDependency steps = none ↔ Known steps := by
  unfold unknownDependency Known
  rw [List.find?_eq_none]
  constructor
  · intro all step inside dependency mem
    have named := all (step.id, dependency) (List.mem_flatMap.mpr
      ⟨step, inside, List.mem_map.mpr ⟨dependency, mem, rfl⟩⟩)
    rw [Option.isNone_iff_eq_none, ← ne_eq, ← Option.isSome_iff_ne_none] at named
    exact (dependenciesOf_isSome_iff dependency).mp named
  · intro known named mem
    obtain ⟨step, inside, mem⟩ := List.mem_flatMap.mp mem
    obtain ⟨dependency, own, rfl⟩ := List.mem_map.mp mem
    rw [Option.isNone_iff_eq_none, ← ne_eq, ← Option.isSome_iff_ne_none]
    exact (dependenciesOf_isSome_iff dependency).mpr (known step inside dependency own)

theorem successors_inside (known : Known steps) (x y : String)
    (edge : y ∈ successors (dependenciesOf steps) x) : y ∈ steps.map WorkflowStep.id := by
  unfold successors at edge
  cases found : dependenciesOf steps x with
  | none =>
    rw [found] at edge
    exact absurd edge List.not_mem_nil
  | some dependsOn =>
    obtain ⟨step, inside, _, rfl⟩ := mem_of_dependenciesOf found
    rw [found] at edge
    exact known step inside y edge

theorem budget_enough (steps : List WorkflowStep) :
    (steps.map WorkflowStep.id).length < steps.length + 1 := by
  rw [List.length_map]
  exact Nat.lt_succ_self _

/-- The ancestors of a step are what it depends on, directly or through others. -/
theorem mem_ancestorsOf_iff (unique : (steps.map WorkflowStep.id).Nodup) (known : Known steps)
    (stepId id : String) :
    id ∈ ancestorsOf stepId steps ↔ TransGen (DependsOn steps) stepId id := by
  unfold ancestorsOf
  rw [mem_collect_iff (successors_inside known) (budget_enough steps), edge_iff unique]

/-- Each step's payload refers to its ancestors only. -/
def RefersToAncestors (all steps : List WorkflowStep) : Prop :=
  ∀ step ∈ steps, ∀ reference ∈ referencesOf step.payload,
    reference.source ∈ ancestorsOf step.id all

theorem checkReferences_ok {all : List WorkflowStep}
    (readable : ∀ step ∈ steps, Readable 0 step.payload)
    (few : ∀ step ∈ steps, (referencesOf step.payload).length ≤ MAX_WORKFLOW_RESULT_REFERENCES) :
    checkReferences all steps = .ok () ↔ RefersToAncestors all steps := by
  induction steps with
  | nil => exact ⟨fun _ step mem => absurd mem List.not_mem_nil, fun _ => rfl⟩
  | cons step rest ih =>
    have tail := ih (fun s mem => readable s (List.mem_cons_of_mem step mem))
      fun s mem => few s (List.mem_cons_of_mem step mem)
    unfold RefersToAncestors
    rw [checkReferences, List.forall_mem_cons]
    cases validated : validateResultReferencePayload step.payload (ancestorsOf step.id all) with
    | error message =>
      constructor
      · rintro ⟨⟩
      · rintro ⟨own, _⟩
        rw [validate_ok.mpr ⟨readable step List.mem_cons_self, rfl, few step List.mem_cons_self,
          own⟩] at validated
        cases validated
    | ok n =>
      obtain ⟨_, _, _, own⟩ := validate_ok.mp validated
      exact tail.trans ⟨fun h => ⟨own, h⟩, fun h => h.2⟩

theorem checkGraph_ok (readable : ∀ step ∈ steps, Readable 0 step.payload)
    (few : ∀ step ∈ steps, (referencesOf step.payload).length ≤ MAX_WORKFLOW_RESULT_REFERENCES)
    (unique : (steps.map WorkflowStep.id).Nodup) :
    checkGraph steps = .ok () ↔ Known steps ∧ (∀ id, ¬ TransGen (DependsOn steps) id id) ∧
      RefersToAncestors steps steps := by
  unfold checkGraph
  cases named : unknownDependency steps with
  | some dependency =>
    constructor
    · rintro ⟨⟩
    · rintro ⟨known, _⟩
      rw [unknownDependency_none_iff.mpr known] at named
      cases named
  | none =>
    have known := unknownDependency_none_iff.mp named
    have search := search_ok_iff dependenciesOf_isSome_iff (successors_inside known)
      (budget_enough steps)
    rw [edge_iff unique] at search
    dsimp only
    rw [← search, and_iff_right known, ← checkReferences_ok readable few]
    cases visitAll (explore (dependenciesOf steps) (steps.length + 1))
        (steps.map WorkflowStep.id) ⟨[], []⟩ with
    | error fault => exact ⟨fun h => (nomatch h), fun h => (nomatch h.1.choose_spec)⟩
    | ok marks => exact ⟨fun h => ⟨⟨marks, rfl⟩, h⟩, fun h => h.2⟩

end Graph

/-! ### Every refusal is one of the payload -/

def Orderly {α : Type} (result : Except WorkflowError α) : Prop :=
  ∀ error, result = .error error → ∃ message, error = .payload message

section Orderly
variable {α β : Type}

theorem Orderly.refused (message : String) :
    Orderly (Except.error (.payload message) : Except WorkflowError α) := by
  rintro _ ⟨⟩
  exact ⟨message, rfl⟩

theorem Orderly.accepted (value : α) : Orderly (.ok value : Except WorkflowError α) := by
  rintro _ ⟨⟩

/-- A refusal that is passed on. -/
theorem Orderly.passed {result : Except WorkflowError α} (orderly : Orderly result)
    {error : WorkflowError} (h : result = .error error) :
    Orderly (.error error : Except WorkflowError β) := by
  rintro _ ⟨⟩
  exact orderly error h

end Orderly

theorem parseDependencies_orderly (id : String) (dependencies : List Json) (seen : List String) :
    Orderly (parseDependencies id dependencies seen) := by
  induction dependencies generalizing seen with
  | nil => exact .accepted seen
  | cons dependency rest ih =>
    unfold parseDependencies
    repeat' split
    all_goals first
      | exact .refused _
      | exact ih _

theorem parseStep_orderly (index : Nat) (rawStep : Json) (ids : List String) :
    Orderly (parseStep index rawStep ids) := by
  unfold parseStep
  repeat' split
  all_goals first
    | exact .refused _
    | exact .accepted _
    | exact (parseDependencies_orderly _ _ _).passed (by assumption)

theorem parseSteps_orderly (index : Nat) (rawSteps : List Json) (ids : List String) :
    Orderly (parseSteps index rawSteps ids) := by
  induction rawSteps generalizing index ids with
  | nil => exact .accepted []
  | cons rawStep rest ih =>
    unfold parseSteps
    split
    · exact (parseStep_orderly _ _ _).passed (by assumption)
    · split
      · exact (ih _ _).passed (by assumption)
      · exact .accepted _

theorem checkReferences_orderly (all steps : List WorkflowStep) :
    Orderly (checkReferences all steps) := by
  induction steps with
  | nil => exact .accepted ()
  | cons step rest ih =>
    unfold checkReferences
    split
    · exact .refused _
    · exact ih

theorem checkGraph_orderly (steps : List WorkflowStep) : Orderly (checkGraph steps) := by
  unfold checkGraph
  split
  · exact .refused _
  · rename_i named
    have enough := search_budget (m := ⟨[], []⟩)
      (successors_inside (unknownDependency_none_iff.mp named)) (budget_enough steps)
      (fun x mem => mem) rfl
    split
    · rename_i fault faulted
      cases fault with
      | budget => exact absurd faulted enough
      | cycle => exact .refused _
      | unknown stepId => exact .refused _
    · exact checkReferences_orderly steps steps

theorem parseWorkflowDefinition_orderly (rt : Runtime) (raw : String) :
    Orderly (parseWorkflowDefinition rt raw) := by
  unfold parseWorkflowDefinition
  repeat' split
  all_goals first
    | exact .refused _
    | exact .accepted _
    | exact (parseSteps_orderly _ _ _).passed (by assumption)
    | exact (checkGraph_orderly _).passed (by assumption)

/-! ### Exactly the well-formed graphs -/

structure WellFormed (steps : List WorkflowStep) : Prop where
  unique : (steps.map WorkflowStep.id).Nodup
  known : Known steps
  single : ∀ step ∈ steps, step.id ∉ step.dependsOn ∧ step.dependsOn.Nodup
  acyclic : ∀ id, ¬ TransGen (DependsOn steps) id id
  refers : ∀ step ∈ steps, ∀ reference ∈ referencesOf step.payload,
    TransGen (DependsOn steps) step.id reference.source

theorem wellFormed_iff (steps : List WorkflowStep) :
    WellFormed steps ↔ (steps.map WorkflowStep.id).Nodup ∧
      (∀ step ∈ steps, step.id ∉ step.dependsOn ∧ step.dependsOn.Nodup) ∧ Known steps ∧
      (∀ id, ¬ TransGen (DependsOn steps) id id) ∧ RefersToAncestors steps steps := by
  constructor
  · rintro ⟨unique, known, single, acyclic, refers⟩
    refine ⟨unique, single, known, acyclic, ?_⟩
    intro step mem reference refer
    exact (mem_ancestorsOf_iff unique known _ _).mpr (refers step mem reference refer)
  · rintro ⟨unique, single, known, acyclic, refers⟩
    refine ⟨unique, known, single, acyclic, ?_⟩
    intro step mem reference refer
    exact (mem_ancestorsOf_iff unique known _ _).mp (refers step mem reference refer)

theorem describes_payloads {rawSteps : List Json} {steps : List WorkflowStep}
    (fields : List.Forall₂ Describes rawSteps steps) :
    ∀ step ∈ steps, Readable 0 step.payload ∧
      (referencesOf step.payload).length ≤ MAX_WORKFLOW_RESULT_REFERENCES := by
  induction fields with
  | nil => exact fun step mem => absurd mem List.not_mem_nil
  | cons first _ ih => exact List.forall_mem_cons.mpr ⟨⟨first.readable, first.few⟩, ih⟩

/-- With its fields in order, a text within the limit is accepted exactly if its steps
form a directed acyclic graph whose payloads refer to ancestors, and is refused as a
payload otherwise. The ancestors of an accepted step are its transitive dependencies. -/
theorem accepts_exactly_dags (rt : Runtime) (raw : String) (rawSteps : List Json)
    (steps : List WorkflowStep) (small : raw.utf8ByteSize ≤ MAX_WORKFLOW_PAYLOAD_BYTES)
    (parsed : rt.parse raw = some (.obj [("steps", .arr rawSteps)]))
    (present : 1 ≤ rawSteps.length) (few : rawSteps.length ≤ MAX_WORKFLOW_STEPS)
    (fields : List.Forall₂ Describes rawSteps steps) :
    ((∃ definition, parseWorkflowDefinition rt raw = .ok definition) ↔ WellFormed steps) ∧
      ((∃ definition, parseWorkflowDefinition rt raw = .ok definition) ∨
        ∃ message, parseWorkflowDefinition rt raw = .error (.payload message)) ∧
      ∀ definition, parseWorkflowDefinition rt raw = .ok definition →
        definition.steps = steps ∧ ∀ step ∈ steps, ∀ id, id ∈ ancestorsOf step.id steps ↔
          TransGen (DependsOn steps) step.id id := by
  have payloads := describes_payloads fields
  have stepsOk := parseSteps_ok fields 0 []
  have exact : ∀ definition, parseWorkflowDefinition rt raw = .ok definition ↔
      definition = ⟨steps⟩ ∧ WellFormed steps := by
    intro definition
    obtain ⟨first, rest, rfl⟩ := List.exists_cons_of_length_pos present
    unfold parseWorkflowDefinition
    rw [if_neg (Nat.not_lt.mpr small), parsed]
    have keys : (List.map Prod.fst [("steps", Json.arr (first :: rest))]).find?
        (fun key => decide (key ≠ "steps")) = none := rfl
    have entry : List.lookup "steps" [("steps", Json.arr (first :: rest))] =
        some (.arr (first :: rest)) := rfl
    dsimp only
    rw [keys, entry]
    dsimp only
    rw [if_neg (Nat.not_lt.mpr few), wellFormed_iff]
    cases read : parseSteps 0 (first :: rest) [] with
    | error error =>
      constructor
      · rintro ⟨⟩
      · rintro ⟨_, unique, single, _⟩
        rw [(stepsOk steps).mpr ⟨rfl, unique, fun s _ => List.not_mem_nil, single⟩] at read
        cases read
    | ok result =>
      obtain ⟨rfl, unique, _, single⟩ := (stepsOk result).mp read
      have graph := checkGraph_ok (fun s mem => (payloads s mem).1)
        (fun s mem => (payloads s mem).2) unique
      rw [and_iff_right unique, and_iff_right single, ← graph]
      dsimp only
      cases checkGraph result with
      | error error => exact ⟨fun h => (nomatch h), fun h => (nomatch h.2)⟩
      | ok checked =>
        constructor
        · rintro ⟨⟩
          exact ⟨rfl, rfl⟩
        · rintro ⟨rfl, _⟩
          rfl
  refine ⟨?_, ?_, ?_⟩
  · constructor
    · rintro ⟨definition, accepted⟩
      exact ((exact definition).mp accepted).2
    · exact fun good => ⟨⟨steps⟩, (exact ⟨steps⟩).mpr ⟨rfl, good⟩⟩
  · cases result : parseWorkflowDefinition rt raw with
    | ok definition => exact Or.inl ⟨definition, rfl⟩
    | error error =>
      obtain ⟨message, rfl⟩ := parseWorkflowDefinition_orderly rt raw error result
      exact Or.inr ⟨message, rfl⟩
  · intro definition accepted
    obtain ⟨rfl, good⟩ := (exact definition).mp accepted
    exact ⟨rfl, fun step _ id => mem_ancestorsOf_iff good.unique good.known step.id id⟩

/-! ### A text, and one that is too long -/

/-- A platform that reads and writes JSON with whole numbers. -/
def reader : Runtime where
  parse := fun text => JsonText.read integers text.toList
  stringify := fun value => String.ofList (render integers value)
  rowid := fun _ => none

def textOf (rawSteps : List Json) : String :=
  String.ofList (render integers (.obj [("steps", .arr rawSteps)]))

theorem reader_textOf {rawSteps : List Json} (normal : JsonText.NormalItems integers rawSteps) :
    reader.parse (textOf rawSteps) = some (.obj [("steps", .arr rawSteps)]) := by
  unfold reader textOf
  dsimp only
  rw [String.toList_ofList]
  exact JsonText.read_render ⟨List.pairwise_singleton _ _, normal, trivial⟩

def rawJoin : List Json :=
  [.obj [("id", .str "a"), ("type", .str "t"), ("payload", .null)],
   .obj [("id", .str "b"), ("type", .str "t"),
     ("payload", .obj [("$from", .str "a"), ("path", .str "x.0")]), ("depends_on", .arr [.str "a"])]]

def join : List WorkflowStep :=
  [{ id := "a", type := "t", payload := .null, dependsOn := [] },
   { id := "b", type := "t", payload := .obj [("$from", .str "a"), ("path", .str "x.0")],
     dependsOn := ["a"] }]

theorem join_described : List.Forall₂ Describes rawJoin join := by
  refine .cons ?_ (.cons ?_ .nil)
  · exact ⟨⟨_, rfl, by decide⟩, ⟨rfl, by decide⟩, ⟨rfl, by decide, by decide⟩, rfl, Nat.zero_le _,
      Nat.zero_le _, ⟨rfl, by decide⟩, rfl, ⟨rfl, by rintro n ⟨⟩⟩⟩
  · exact ⟨⟨_, rfl, by decide⟩, ⟨rfl, by decide⟩, ⟨rfl, by decide, by decide⟩, rfl,
      ⟨Nat.zero_le _, trivial⟩, by decide, ⟨rfl, by decide⟩, rfl, ⟨rfl, by rintro n ⟨⟩⟩⟩

theorem rawJoin_normal : JsonText.NormalItems integers rawJoin :=
  ⟨⟨by decide, trivial, trivial, trivial, trivial⟩,
    ⟨by decide, trivial, trivial, ⟨by decide, trivial, trivial, trivial⟩,
      ⟨trivial, trivial⟩, trivial⟩, trivial⟩

theorem accepts_exactly_dags_join :
    (∃ definition, parseWorkflowDefinition reader (textOf rawJoin) = .ok definition) ↔
      WellFormed join :=
  (accepts_exactly_dags reader (textOf rawJoin) rawJoin join (by decide +kernel)
    (reader_textOf rawJoin_normal) (by decide) (by decide) join_described).1

def largePayload (size : Nat) : Json := .str (String.ofList (List.replicate size 'x'))

def rawLarge (size : Nat) : Json :=
  .obj [("id", .str "a"), ("type", .str "t"), ("payload", largePayload size)]

def large (size : Nat) : WorkflowStep :=
  { id := "a", type := "t", payload := largePayload size, dependsOn := [] }

theorem large_described (size : Nat) : Describes (rawLarge size) (large size) :=
  ⟨⟨_, rfl, show ∀ key ∈ ["id", "type", "payload"], key ∈ stepKeys by decide⟩,
    ⟨rfl, show safeName 64 "a" = true by decide⟩,
    ⟨rfl, show safeName 128 "t" = true by decide, show "t" ≠ "workflow.run" by decide⟩,
    rfl, Nat.zero_le _, Nat.zero_le _, ⟨rfl, fun _ mem => absurd mem List.not_mem_nil⟩, rfl,
    ⟨rfl, by rintro n ⟨⟩⟩⟩

theorem single_wellFormed {step : WorkflowStep} (free : step.dependsOn = [])
    (closed : referencesOf step.payload = []) : WellFormed [step] := by
  have none : ∀ s ∈ [step], ∀ y, y ∉ s.dependsOn := by
    intro s mem y
    rw [List.mem_singleton.mp mem, free]
    exact List.not_mem_nil
  constructor
  · exact List.nodup_singleton _
  · exact fun s mem d own => absurd own (none s mem d)
  · intro s mem
    rw [List.mem_singleton.mp mem, free]
    exact ⟨List.not_mem_nil, List.nodup_nil⟩
  · intro id round
    obtain ⟨y, ⟨s, mem, _, own⟩, _⟩ := TransGen.head'_iff.mp round
    exact none s mem y own
  · intro s mem reference refer
    rw [List.mem_singleton.mp mem, closed] at refer
    exact absurd refer List.not_mem_nil

theorem length_le_quote (content : List Char) :
    content.length ≤ (JsonStrings.quote content).length := by
  have written : content.length ≤ (content.flatMap JsonStrings.quoteChar).length := by
    induction content with
    | nil => exact Nat.zero_le _
    | cons c rest ih =>
      have one : 1 ≤ (JsonStrings.quoteChar c).length := by
        unfold JsonStrings.quoteChar
        repeat' split
        all_goals exact Nat.succ_pos _
      rw [List.flatMap_cons, List.length_append, List.length_cons]
      omega
  rw [JsonStrings.quote, List.length_append, List.length_cons]
  omega

theorem size_lt_textOf (size : Nat) : size < (textOf [rawLarge size]).utf8ByteSize := by
  have quoted := length_le_quote (List.replicate size 'x')
  rw [List.length_replicate] at quoted
  apply Nat.lt_of_lt_of_le _ (AdmissionLanguage.length_le_utf8ByteSize _)
  rw [textOf, String.length_ofList, rawLarge, largePayload]
  simp only [render, JsonText.renderItems, JsonText.renderFields, List.tail_cons,
    List.length_cons, List.length_append, String.toList_ofList, List.cons_append]
  omega

/-- A well-formed graph whose text is larger than 256 KiB is refused. -/
theorem large_dag_refused :
    reader.parse (textOf [rawLarge 262144]) = some (.obj [("steps", .arr [rawLarge 262144])]) ∧
      List.Forall₂ Describes [rawLarge 262144] [large 262144] ∧ WellFormed [large 262144] ∧
      ¬ ∃ definition,
        parseWorkflowDefinition reader (textOf [rawLarge 262144]) = .ok definition := by
  refine ⟨reader_textOf ⟨⟨by decide, trivial, trivial, trivial, trivial⟩, trivial⟩,
    .cons (large_described 262144) .nil, single_wellFormed rfl rfl, ?_⟩
  rintro ⟨definition, accepted⟩
  have long : MAX_WORKFLOW_PAYLOAD_BYTES < (textOf [rawLarge 262144]).utf8ByteSize :=
    size_lt_textOf 262144
  unfold parseWorkflowDefinition at accepted
  rw [if_pos long] at accepted
  cases accepted

end WorkflowDags
