import TaskQueQue.CapabilitySessions
import TaskQueQue.McpTools
import TaskQueQue.ProviderIsolation

/-!
# MCP authorises as HTTP does

The endpoint decides by itself what a grant may call, and the gateway's routes check
the request a call becomes once more. On a registry whose entries are found under
their own names, and whose delegated providers are routed to their own surfaces, the
two agree: a tool is invoked only where the route lets the request through, and the
task tool offers every task the grant may submit.
-/

namespace McpAgreement

open GatewayValues CapabilityAuth CapabilityAccess McpTools ProcessRegistry
open Capabilities hiding CAPABILITY_REGISTRY
open JsonText (NumberFormat NormalFields normal_field)
open GatewayConfig (Config bind_ok refuse_ok)
open GatewayRouter (processName)
open TaskFacade (TASK_REGISTRY)

/-! ### Paths -/

section Paths
variable {before segment after : String}

theorem segmentBetween_of (filled : segment.toList ≠ []) (whole : '/' ∉ segment.toList) :
    segmentBetween before after (before ++ segment ++ after) = some segment := by
  have chars : (before ++ segment ++ after).toList =
      before.toList ++ (segment.toList ++ after.toList) := by
    rw [String.toList_append, String.toList_append, List.append_assoc]
  have rest : (before ++ segment ++ after).toList.drop before.length =
      segment.toList ++ after.toList := by
    rw [chars, ← String.length_toList, List.drop_left]
  have inside : (segment.toList ++ after.toList).take
      ((segment.toList ++ after.toList).length - after.length) = segment.toList := by
    rw [List.length_append, ← String.length_toList, Nat.add_sub_cancel, List.take_left]
  unfold segmentBetween
  dsimp only
  rw [rest, inside, chars, List.isPrefixOf_iff_prefix.mpr (List.prefix_append _ _),
    List.isSuffixOf_iff_suffix.mpr (List.suffix_append _ _), if_pos, String.ofList_toList]
  rw [Bool.and_eq_true, Bool.and_eq_true, Bool.and_eq_true, Bool.not_eq_true',
    Bool.not_eq_true', List.isEmpty_eq_false_iff, ← Bool.not_eq_true, List.contains_iff_mem]
  exact ⟨⟨⟨rfl, rfl⟩, filled⟩, whole⟩

theorem segmentBetween_slash {rest : String} (slash : '/' ∈ rest.toList) :
    segmentBetween before "" (before ++ rest) = none := by
  have chars : (before ++ rest).toList.drop before.length = rest.toList := by
    rw [String.toList_append, ← String.length_toList, List.drop_left]
  unfold segmentBetween
  dsimp only
  rw [chars, show "".length = 0 from rfl, Nat.sub_zero, List.take_length,
    List.contains_iff_mem.mpr slash, Bool.not_true, Bool.and_false, if_neg Bool.false_ne_true]

theorem segmentBetween_elsewhere {path : String}
    (elsewhere : before.toList.isPrefixOf path.toList = false) :
    segmentBetween before after path = none := by
  unfold segmentBetween
  dsimp only
  rw [elsewhere, Bool.false_and, Bool.false_and, Bool.false_and, if_neg Bool.false_ne_true]

end Paths

/-- The digits of an id in a path. -/
structure Segment (text : String) : Prop where
  filled : text.toList ≠ []
  whole : '/' ∉ text.toList

theorem segment_toString (n : Int) : Segment (toString n) := by
  have shape := JsonText.integers.shape (n : ℚ) (Rat.den_intCast n)
  have text : JsonText.integers.write (n : ℚ) = (toString n).toList := by
    show (toString (n : ℚ).num).toList = _
    rw [Rat.num_intCast]
  rw [text] at shape
  exact ⟨shape.1, fun mem => absurd (shape.2 _ mem) (by decide)⟩

section Surfaces
variable {id : String}

theorem surface_task (segment : Segment id) :
    requiredSurface ("/v1/tasks/" ++ id) "GET" = some "task.inspect" := by
  have here : segmentBetween "/v1/tasks/" "" ("/v1/tasks/" ++ id ++ "") = some id :=
    segmentBetween_of segment.filled segment.whole
  rw [String.append_empty] at here
  rw [requiredSurface, if_neg fun h => absurd h.2 (by decide), here, if_pos ⟨rfl, rfl⟩]

theorem not_task (rest : String) :
    segmentBetween "/v1/tasks/" "" ("/v1/workflows/" ++ rest) = none := by
  apply segmentBetween_elsewhere
  rw [String.toList_append]
  rfl

theorem surface_workflow (segment : Segment id) :
    requiredSurface ("/v1/workflows/" ++ id) "GET" = some "workflow.inspect" := by
  have here : segmentBetween "/v1/workflows/" "" ("/v1/workflows/" ++ id ++ "") = some id :=
    segmentBetween_of segment.filled segment.whole
  rw [String.append_empty] at here
  rw [requiredSurface, if_neg fun h => absurd h.2 (by decide), not_task,
    if_neg fun h => absurd h.1 Bool.false_ne_true, if_neg fun h => absurd h.2 (by decide), here,
    if_pos ⟨rfl, rfl⟩]

theorem surface_result (segment : Segment id) :
    requiredSurface ("/v1/workflows/" ++ id ++ "/result") "GET" = some "workflow.result" := by
  have here : segmentBetween "/v1/workflows/" "/result" ("/v1/workflows/" ++ id ++ "/result") =
      some id := segmentBetween_of segment.filled segment.whole
  have long : segmentBetween "/v1/workflows/" "" ("/v1/workflows/" ++ id ++ "/result") = none := by
    rw [String.append_assoc]
    apply segmentBetween_slash
    rw [String.toList_append]
    exact List.mem_append_right _ List.mem_cons_self
  rw [requiredSurface, if_neg fun h => absurd h.2 (by decide), String.append_assoc, not_task,
    ← String.append_assoc, if_neg fun h => absurd h.1 Bool.false_ne_true,
    if_neg fun h => absurd h.2 (by decide), long, if_neg fun h => absurd h.1 Bool.false_ne_true,
    here, if_pos ⟨rfl, rfl⟩]

theorem surface_cancel (segment : Segment id) :
    requiredSurface ("/v1/workflows/" ++ id ++ "/cancel") "POST" = some "workflow.cancel" := by
  have here : segmentBetween "/v1/workflows/" "/cancel" ("/v1/workflows/" ++ id ++ "/cancel") =
      some id := segmentBetween_of segment.filled segment.whole
  have start : ∀ path : String, path.toList.length ≤ 13 →
      "/v1/workflows/" ++ id ++ "/cancel" ≠ path := by
    rintro path short rfl
    rw [String.toList_append, String.toList_append, List.length_append, List.length_append] at short
    have : "/v1/workflows/".toList.length = 14 := rfl
    omega
  rw [requiredSurface, if_neg fun h => start "/v1/tasks" (by decide) h.1,
    if_neg fun h => absurd h.2 (by decide), if_neg fun h => start "/v1/workflows" (by decide) h.1,
    if_neg fun h => absurd h.2 (by decide), if_neg fun h => absurd h.2 (by decide), here,
    if_pos ⟨rfl, rfl⟩]

end Surfaces

/-! ### Registries -/

/-- The providers whose tools go to the route their descriptor names. -/
def Delegated (descriptor : ToolDescriptor) : Prop :=
  descriptor.provider = "bun-filesystem" ∨ descriptor.provider = "rust-fs-mutator" ∨
    descriptor.provider = "git-cli-metadata"

instance (descriptor : ToolDescriptor) : Decidable (Delegated descriptor) := by
  unfold Delegated
  infer_instance

def routedSurface (descriptor : ToolDescriptor) : Option String :=
  descriptor.route.bind fun route => descriptor.method.bind (requiredSurface route)

/-- A registry whose entries are found under their own names, whose delegated providers
answer for their own surfaces, and which describes every task the gateway accepts. -/
structure Coherent (registry : ToolRegistry) : Prop where
  distinct : (registry.map Prod.fst).Nodup
  named : ∀ entry ∈ registry, entry.2.name = entry.1
  routed : ∀ entry ∈ registry, Delegated entry.2 →
    ∀ surface ∈ routedSurface entry.2, surface = entry.1
  submission : ∀ submit ∈ getTool registry "task.submit",
    submit.publiclyDiscoverable = true ∧ submit.kind ≠ .task ∧ ¬ Delegated submit
  discoverable : ∀ entry ∈ registry, entry.2.kind = .task → entry.2.publiclyDiscoverable = true
  described : ∀ policy ∈ TASK_REGISTRY, ∃ target ∈ getTool registry policy.1, target.kind = .task

theorem coherent_own : Coherent CAPABILITY_REGISTRY where
  distinct := by decide +kernel
  named := by decide +kernel
  routed := by decide +kernel
  submission := by decide +kernel
  discoverable := by decide +kernel
  described := by decide +kernel

section Registries
variable {registry : ToolRegistry} {name : String} {descriptor : ToolDescriptor}

theorem mem_of_getTool (found : getTool registry name = some descriptor) :
    (name, descriptor) ∈ registry := by
  obtain ⟨before, after, shape, _⟩ := List.lookup_eq_some_iff.mp found
  rw [shape]
  exact List.mem_append_right _ List.mem_cons_self

theorem getTool_of_mem (coherent : Coherent registry) {entry : String × ToolDescriptor}
    (mem : entry ∈ registry) : getTool registry entry.2.name = some entry.2 := by
  rw [coherent.named entry mem]
  exact RequestRendering.lookup_of_mem coherent.distinct mem

theorem name_of_getTool (coherent : Coherent registry)
    (found : getTool registry name = some descriptor) : descriptor.name = name :=
  coherent.named _ (mem_of_getTool found)

theorem getCapability_capabilities (registry : ToolRegistry) (name : String) :
    getCapability (capabilities registry) name =
      (getTool registry name).map fun descriptor => descriptor.toCapabilityDescriptor := by
  unfold getCapability getTool capabilities
  induction registry with
  | nil => rfl
  | cons entry rest ih =>
    rw [List.map_cons, List.lookup_cons, List.lookup_cons]
    cases name == entry.1 with
    | true => rfl
    | false => exact ih

theorem capabilityAllowed_iff {grant : CapabilityGrant} :
    capabilityAllowed grant descriptor = true ↔
      Allows grant descriptor.toCapabilityDescriptor :=
  allowed_iff

end Registries

/-! ### Listing -/

section Listing
variable {registry : ToolRegistry} {collate : String → String → Bool} {grant : CapabilityGrant}
variable {availability : CapabilityAvailabilitySnapshot} {descriptor : ToolDescriptor}

/-- What a tool's grant allows: the tool and, for a task, the submission of tasks. -/
structure Usable (registry : ToolRegistry) (grant : CapabilityGrant)
    (descriptor : ToolDescriptor) : Prop where
  own : Allows grant descriptor.toCapabilityDescriptor
  submission : descriptor.kind = .task → ∃ submit, getTool registry "task.submit" = some submit ∧
    Allows grant submit.toCapabilityDescriptor

theorem toolPrerequisites_allowed
    (filled : toolPrerequisites registry descriptor ≠ [])
    (allowed : ((toolPrerequisites registry descriptor).any fun item =>
      !capabilityAllowed grant item) = false) : Usable registry grant descriptor := by
  rw [List.any_eq_false] at allowed
  simp only [Bool.not_eq_true', Bool.not_eq_false, capabilityAllowed_iff] at allowed
  unfold toolPrerequisites at filled allowed
  split at allowed
  · rename_i surface
    exact ⟨allowed _ List.mem_cons_self, fun task => absurd task surface⟩
  · rename_i task
    rw [if_neg task] at filled
    unfold taskSubmitSurface at filled allowed
    cases found : getTool registry "task.submit" with
    | none =>
      rw [found] at filled
      exact absurd rfl filled
    | some submit =>
      rw [found] at allowed
      exact ⟨allowed _ (List.mem_cons_of_mem _ List.mem_cons_self),
        fun _ => ⟨submit, found, allowed _ List.mem_cons_self⟩⟩

theorem mcpTool_some {tool : McpTool}
    (h : mcpTool registry collate grant availability descriptor = some tool) :
    tool.name = descriptor.name ∧ Usable registry grant descriptor := by
  unfold mcpTool at h
  dsimp only at h
  split at h
  · cases h
  · rename_i passed
    obtain ⟨schema, _, rfl⟩ := Option.map_eq_some_iff.mp h
    rw [not_or, not_or, Bool.not_eq_true] at passed
    exact ⟨rfl, toolPrerequisites_allowed passed.1 passed.2.1⟩

/-- What a name calls: a tool that can be discovered, used and described. -/
def Offered (registry : ToolRegistry) (collate : String → String → Bool) (grant : CapabilityGrant)
    (availability : CapabilityAvailabilitySnapshot) (name : String) : Prop :=
  ∃ descriptor, getTool registry name = some descriptor ∧ descriptor.publiclyDiscoverable = true ∧
    (mcpTool registry collate grant availability descriptor).isSome

theorem mem_listTools_iff (coherent : Coherent registry) (name : String) :
    (∃ tool ∈ listTools registry collate grant availability, tool.name = name) ↔
      Offered registry collate grant availability name := by
  unfold listTools Offered
  simp only [List.mem_filterMap, List.mem_mergeSort, List.mem_filter, List.mem_map]
  constructor
  · rintro ⟨tool, ⟨descriptor, ⟨⟨entry, mem, rfl⟩, shown⟩, made⟩, rfl⟩
    rw [(mcpTool_some made).1]
    exact ⟨entry.2, getTool_of_mem coherent mem, shown, Option.isSome_of_eq_some made⟩
  · rintro ⟨descriptor, found, shown, made⟩
    obtain ⟨tool, made⟩ := Option.isSome_iff_exists.mp made
    refine ⟨tool, ⟨descriptor, ⟨⟨_, mem_of_getTool found, rfl⟩, shown⟩, made⟩, ?_⟩
    rw [(mcpTool_some made).1]
    exact name_of_getTool coherent found

variable {web : WebRuntime} {source : Request} {name : String} {fields : List (String × Json)}

/-- The gateway refuses a name as unknown exactly if it offers no such tool. -/
theorem handleToolsCall_unknown_iff {arguments : Option Json}
    (record : argumentsOf arguments = .obj fields) :
    (handleToolsCall web registry collate source grant availability (some (.str name))
      arguments).unknown = true ↔ ¬ Offered registry collate grant availability name := by
  unfold handleToolsCall Offered
  simp only [record]
  split
  · rename_i missing
    refine iff_of_true rfl ?_
    rintro ⟨descriptor, found, shown, _⟩
    rw [found, Option.filter_some, if_pos shown] at missing
    cases missing
  · rename_i descriptor found
    obtain ⟨found, shown⟩ := Option.filter_eq_some_iff.mp found
    split
    · rename_i hidden
      refine iff_of_true rfl ?_
      rintro ⟨other, found', _, made⟩
      rw [found] at found'
      cases found'
      rw [Option.isNone_iff_eq_none] at hidden
      rw [hidden] at made
      cases made
    · rename_i made
      rw [Bool.not_eq_true, Option.isNone_eq_false_iff] at made
      refine iff_of_false ?_ (not_not_intro ⟨descriptor, found, shown, made⟩)
      split
      · exact Bool.false_ne_true
      · exact Bool.false_ne_true

end Listing

/-! ### Registered processes -/

/-- Commands have names of their own, and the scope their name gives them. -/
structure Registered (commands : List RegisteredProcessDescriptor) : Prop where
  distinct : (commands.map fun command => command.name).Nodup
  named : ∀ command ∈ commands, commandName command.name = true
  scope : ∀ command ∈ commands, command.requiredScope = "process.command." ++ command.name

theorem required_ok {α : Type} {value : Option α} {message : String} {read : α}
    (h : required value message = .ok read) : value = some read := by
  cases value with
  | none => cases h
  | some value =>
    cases h
    rfl

theorem validateProcessPolicy_ok {name : String} {authority requiredScope mutatesState : Option Json}
    {policy : RegisteredProcessAuthority × String × Bool}
    (h : validateProcessPolicy name authority requiredScope mutatesState = .ok policy) :
    policy.2.1 = "process.command." ++ name := by
  unfold validateProcessPolicy at h
  split at h
  · cases h
  split at h
  · split at h
    · cases h
    split at h
    · split at h
      · rename_i valid
        cases h
        rw [Bool.and_eq_true, decide_eq_true_eq] at valid
        exact valid.2
      · cases h
    · cases h
  · cases h

theorem parseDescriptor_ok {item : Json} {command : RegisteredProcessDescriptor}
    (h : parseDescriptor item = .ok command) : commandName command.name = true ∧
      command.requiredScope = "process.command." ++ command.name := by
  unfold parseDescriptor at h
  obtain ⟨_, _, h⟩ := bind_ok h
  obtain ⟨name, valid, h⟩ := bind_ok h
  obtain ⟨_, _, h⟩ := bind_ok h
  obtain ⟨_, _, h⟩ := bind_ok h
  obtain ⟨_, _, h⟩ := bind_ok h
  obtain ⟨_, _, h⟩ := bind_ok h
  obtain ⟨policy, governed, h⟩ := bind_ok h
  obtain ⟨_, _, h⟩ := bind_ok h
  obtain ⟨_, _, h⟩ := bind_ok h
  cases h
  exact ⟨(Option.filter_eq_some_iff.mp (required_ok valid)).2, validateProcessPolicy_ok governed⟩

theorem Registered.enter {files : FileSystem} {writableRoot : Option String}
    {commands commands' : List RegisteredProcessDescriptor} {item : Json}
    (before : Registered commands)
    (h : admitCommand files writableRoot commands item = .ok commands') :
    Registered commands' := by
  unfold admitCommand at h
  obtain ⟨descriptor, parsed, h⟩ := bind_ok h
  obtain ⟨_, fresh, h⟩ := bind_ok h
  obtain ⟨_, _, h⟩ := bind_ok h
  obtain ⟨_, _, h⟩ := bind_ok h
  obtain ⟨_, _, h⟩ := bind_ok h
  obtain ⟨_, _, h⟩ := bind_ok h
  cases h
  have fresh := refuse_ok fresh
  rw [List.any_eq_false] at fresh
  obtain ⟨valid, scope⟩ := parseDescriptor_ok parsed
  constructor
  · rw [List.map_append, List.nodup_append]
    refine ⟨before.distinct, List.nodup_singleton _, ?_⟩
    rintro name taken other new rfl
    obtain ⟨command, mem, rfl⟩ := List.mem_map.mp taken
    exact fresh command mem (decide_eq_true (List.mem_singleton.mp new))
  · intro command mem
    rcases List.mem_append.mp mem with mem | mem
    · exact before.named command mem
    · rw [List.mem_singleton.mp mem]
      exact valid
  · intro command mem
    rcases List.mem_append.mp mem with mem | mem
    · exact before.scope command mem
    · rw [List.mem_singleton.mp mem]
      exact scope

theorem Registered.admitAll {files : FileSystem} {writableRoot : Option String} {items : List Json}
    {commands commands' : List RegisteredProcessDescriptor} (before : Registered commands)
    (h : items.foldlM (admitCommand files writableRoot) commands = .ok commands') :
    Registered commands' := by
  induction items generalizing commands with
  | nil =>
    cases h
    exact before
  | cons item rest ih =>
    rw [List.foldlM_cons] at h
    obtain ⟨next, admitted, later⟩ := bind_ok h
    exact ih (before.enter admitted) later

theorem registered_of_loaded {rt : Runtime} {files : FileSystem} {config : Config}
    {provider : RegisteredProcessProvider}
    (loaded : loadRegisteredProcessProvider rt files config = some provider) :
    Registered provider.registry.commands := by
  unfold loadRegisteredProcessProvider at loaded
  split at loaded
  · split at loaded
    · cases loaded
    split at loaded
    · rename_i registry accepted
      cases loaded
      unfold loadRegisteredProcessRegistry at accepted
      obtain ⟨_, _, h⟩ := bind_ok accepted
      obtain ⟨_, _, h⟩ := bind_ok h
      obtain ⟨_, _, h⟩ := bind_ok h
      obtain ⟨_, _, h⟩ := bind_ok h
      obtain ⟨_, _, h⟩ := bind_ok h
      obtain ⟨_, _, h⟩ := bind_ok h
      obtain ⟨_, _, h⟩ := bind_ok h
      obtain ⟨_, _, h⟩ := bind_ok h
      obtain ⟨commands, admitted, h⟩ := bind_ok h
      cases h
      have empty : Registered [] :=
        ⟨List.nodup_nil, fun c mem => absurd mem List.not_mem_nil,
          fun c mem => absurd mem List.not_mem_nil⟩
      exact empty.admitAll admitted
    · cases loaded
  · cases loaded

section Processes
variable {collate : String → String → Bool} {provider : Option RegisteredProcessProvider}
variable {grant : CapabilityGrant} {name : String} {descriptor : ToolDescriptor}

theorem mem_registeredProcessCapabilities :
    descriptor ∈ registeredProcessCapabilities collate provider ↔
      ∃ loaded, provider = some loaded ∧ ∃ command ∈ loaded.registry.commands,
        registeredProcessCapability command = descriptor := by
  unfold registeredProcessCapabilities
  cases provider with
  | none => simp only [List.not_mem_nil, reduceCtorEq, false_and, exists_false]
  | some loaded =>
    simp only [List.mem_map, List.mem_mergeSort, Option.some.injEq, exists_eq_left']

/-- The capabilities of registered processes are told apart by their names. -/
theorem registeredProcessCapabilities_injective
    (registered : ∀ loaded, provider = some loaded → Registered loaded.registry.commands)
    {left right : ToolDescriptor} (memLeft : left ∈ registeredProcessCapabilities collate provider)
    (memRight : right ∈ registeredProcessCapabilities collate provider)
    (same : left.name = right.name) : left = right := by
  obtain ⟨loaded, rfl, command, mem, rfl⟩ := mem_registeredProcessCapabilities.mp memLeft
  obtain ⟨_, h, command', mem', rfl⟩ := mem_registeredProcessCapabilities.mp memRight
  cases h
  have commands := registered loaded rfl
  have scopes : command.requiredScope = command'.requiredScope := same
  rw [commands.scope _ mem, commands.scope _ mem', String.append_right_inj] at scopes
  rw [List.inj_on_of_nodup_map commands.distinct mem mem' scopes]

theorem mem_processToolsForRequest_iff
    (registered : ∀ loaded, provider = some loaded → Registered loaded.registry.commands)
    (name : String) :
    (∃ tool ∈ processToolsForRequest collate provider grant, tool.name = name) ↔
      (processDescriptorForCall collate provider grant name).isSome := by
  unfold processToolsForRequest processDescriptorForCall
  simp only [List.mem_map, List.mem_filter]
  constructor
  · rintro ⟨tool, ⟨descriptor, ⟨mem, allowed⟩, rfl⟩, rfl⟩
    cases found : (registeredProcessCapabilities collate provider).find? fun candidate =>
        decide (candidate.name = (processTool descriptor).name) with
    | none =>
      rw [List.find?_eq_none] at found
      exact absurd (decide_eq_true rfl) (found descriptor mem)
    | some candidate =>
      have named := List.find?_some found
      rw [decide_eq_true_eq] at named
      have same : candidate = descriptor := registeredProcessCapabilities_injective registered
        (List.mem_of_find?_eq_some found) mem named
      rw [same, Option.filter_some, if_pos allowed]
      rfl
  · intro callable
    obtain ⟨descriptor, callable⟩ := Option.isSome_iff_exists.mp callable
    obtain ⟨found, allowed⟩ := Option.filter_eq_some_iff.mp callable
    have named := List.find?_some found
    rw [decide_eq_true_eq] at named
    exact ⟨_, ⟨descriptor, ⟨List.mem_of_find?_eq_some found, allowed⟩, rfl⟩, named⟩

theorem commandName_of_registered (valid : commandName name = true) :
    segmentBetween "/v1/process/" "" ("/v1/process/" ++ name) = some name ∧
      processName ("/v1/process/" ++ name) = some name := by
  have text : ∀ first rest, name.toList = first :: rest →
      (decide ('a' ≤ first ∧ first ≤ 'z') && decide (rest.length ≤ 63) &&
        rest.all fun c => decide ('a' ≤ c ∧ c ≤ 'z') || c.isDigit || c == '.' || c == '_' ||
          c == '-') = true := by
    intro first rest shape
    rw [commandName, shape] at valid
    exact valid
  have filled : name.toList ≠ [] := by
    intro empty
    rw [commandName, empty] at valid
    cases valid
  obtain ⟨first, rest, shape⟩ := List.exists_cons_of_ne_nil filled
  have chars := text first rest shape
  simp only [Bool.and_eq_true, decide_eq_true_eq, List.all_eq_true, Bool.or_eq_true,
    beq_iff_eq] at chars
  obtain ⟨⟨lower, short⟩, all⟩ := chars
  have whole : '/' ∉ name.toList := by
    rw [shape]
    intro mem
    rcases List.mem_cons.mp mem with rfl | mem
    · exact absurd lower (by decide)
    · exact absurd (all _ mem) (by decide)
  have here : segmentBetween "/v1/process/" "" ("/v1/process/" ++ name ++ "") = some name :=
    segmentBetween_of filled whole
  rw [String.append_empty] at here
  refine ⟨here, ?_⟩
  unfold processName
  rw [here, Option.filter_some, if_pos]
  rw [shape]
  simp only [Bool.and_eq_true, decide_eq_true_eq, List.all_eq_true, Bool.or_eq_true]
  refine ⟨⟨lower, short⟩, fun c mem => ?_⟩
  rcases all c mem with (((letter | digit) | rfl) | rfl) | rfl
  · exact Or.inl (Or.inl letter)
  · rw [Char.isDigit, Bool.and_eq_true, decide_eq_true_eq, decide_eq_true_eq] at digit
    exact Or.inl (Or.inr digit)
  · exact Or.inr (by decide)
  · exact Or.inr (by decide)
  · exact Or.inr (by decide)

theorem surface_process {rest : String} : requiredSurface ("/v1/process/" ++ rest) "POST" = none := by
  have other : ∀ path : String, path.toList.take 9 ≠ "/v1/proce".toList →
      "/v1/process/" ++ rest ≠ path := by
    rintro path different rfl
    apply different
    rw [String.toList_append]
    rfl
  have cancel : segmentBetween "/v1/workflows/" "/cancel" ("/v1/process/" ++ rest) = none := by
    apply segmentBetween_elsewhere
    rw [String.toList_append]
    rfl
  unfold requiredSurface
  rw [if_neg fun h => other _ (by decide) h.1, if_neg fun h => absurd h.2 (by decide),
    if_neg fun h => other _ (by decide) h.1, if_neg fun h => absurd h.2 (by decide),
    if_neg fun h => absurd h.2 (by decide), cancel, if_neg fun h => absurd h.1 Bool.false_ne_true,
    if_neg fun h => other _ (by decide) h.1, if_neg fun h => other _ (by decide) h.1,
    if_neg fun h => other _ (by decide) h.1, if_neg fun h => other _ (by decide) h.1,
    if_neg fun h => other _ (by decide) h.1, if_neg fun h => other _ (by decide) h.1,
    if_neg fun h => other _ (by decide) h.1, if_neg fun h => other _ (by decide) h.1]

/-- Only the authorization header tells who is asking. -/
theorem resolve_of_header {web : WebRuntime} {request source : Request}
    (same : request.header "authorization" = source.header "authorization")
    (config : GatewayConfig) (nowMs : Int) :
    resolveAuthorizationContext web request config nowMs =
      resolveAuthorizationContext web source config nowMs := by
  have token : bearerToken request = bearerToken source := by
    rw [bearerToken, bearerText, same]
    rfl
  rw [resolveAuthorizationContext, token]
  rfl

theorem header_gatewayRequest (web : WebRuntime) (source : Request) (path method : String)
    (body : Option Json) (key : Option String) :
    (gatewayRequest web source path method body key).header "authorization" =
      source.header "authorization" := rfl

/-- The process a call names is started by the process API. -/
theorem processApi_ok {web : WebRuntime} {config : GatewayConfig} {source : Request} {nowMs : Int}
    {auth : AuthorizationContext}
    (registered : ∀ loaded, provider = some loaded → Registered loaded.registry.commands)
    (resolved : resolveAuthorizationContext web source config nowMs = some auth)
    (callable : processDescriptorForCall collate provider auth.grant name = some descriptor) :
    ∃ command, descriptor = registeredProcessCapability command ∧
      processApi web config provider
        (gatewayRequest web source (descriptor.route.getD "") "POST" none none) nowMs =
          some (.ok command) := by
  obtain ⟨found, allowed⟩ := Option.filter_eq_some_iff.mp callable
  obtain ⟨loaded, rfl, command, mem, rfl⟩ :=
    mem_registeredProcessCapabilities.mp (List.mem_of_find?_eq_some found)
  have commands := registered loaded rfl
  have lookup : loaded.registry.commands.find? (fun c => decide (c.name = command.name)) =
      some command := by
    cases search : loaded.registry.commands.find? fun c => decide (c.name = command.name) with
    | none =>
      rw [List.find?_eq_none] at search
      exact absurd (decide_eq_true rfl) (search command mem)
    | some candidate =>
      have named := List.find?_some search
      rw [decide_eq_true_eq] at named
      rw [List.inj_on_of_nodup_map commands.distinct (List.mem_of_find?_eq_some search) mem named]
  have runner : (evaluateRegisteredProcessGrant command auth.grant).allowed = true := allowed
  refine ⟨command, rfl, ?_⟩
  have bare : ∀ path, (gatewayRequest web source path "POST" none none).method = "POST" ∧
      (gatewayRequest web source path "POST" none none).search = "" ∧
      (gatewayRequest web source path "POST" none none).body = "" := fun _ => ⟨rfl, rfl, rfl⟩
  have asking : ∀ path, resolveAuthorizationContext web
      (gatewayRequest web source path "POST" none none) config nowMs = some auth := by
    intro path
    rw [← resolved]
    exact resolve_of_header rfl config nowMs
  have path : (gatewayRequest web source ((registeredProcessCapability command).route.getD "") "POST"
      none none).pathname = "/v1/process/" ++ command.name := rfl
  rw [processApi, path, (commandName_of_registered (commands.named _ mem)).2, Option.map_some,
    (bare _).1, (bare _).2.1, (bare _).2.2, asking]
  simp only [ne_eq, not_true_eq_false, lookup, allowed, runner, Bool.not_true, Bool.false_eq_true,
    if_false]

end Processes

/-! ### The request a call becomes -/

/-- The platform reads back what it writes. -/
def ReadsBack (web : WebRuntime) (format : NumberFormat) : Prop :=
  ∀ value, JsonText.Normal format value → web.parse (web.stringify value) = some value

section Bodies
variable {format : NumberFormat} {args : Json} {name : String} {value : Json}

theorem normalFields_append {left right : List (String × Json)} (normal : NormalFields format left)
    (normal' : NormalFields format right) : NormalFields format (left ++ right) := by
  induction left with
  | nil => exact normal'
  | cons field rest ih =>
    obtain ⟨key, held⟩ := field
    rw [NormalFields] at normal
    rw [List.cons_append, NormalFields]
    exact ⟨normal.1, ih normal.2⟩

theorem normalFields_given (normal : JsonText.Normal format args) (name : String) :
    NormalFields format (given args name) := by
  unfold given
  cases found : args.field name with
  | none => exact trivial
  | some value =>
    rw [Option.map_some, Option.toList_some, NormalFields, NormalFields]
    exact ⟨normal_field normal found, trivial⟩

theorem keys_given (args : Json) (name : String) : ((given args name).map Prod.fst).Sublist [name] := by
  unfold given
  cases args.field name with
  | none => exact List.nil_sublist _
  | some value => exact List.Sublist.refl _

/-- The body of a submission, but for its type. -/
def submissionFields (args payload : Json) : List (String × Json) :=
  [("payload", payload)] ++ given args "priority" ++ given args "max_retries"

theorem taskArguments_some {includeType : Bool} {body : List (String × Json)} {key : String}
    (h : taskArguments args includeType = some (body, key)) :
    ∃ payload, args.field "payload" = some payload ∧
      body = (if includeType then given args "type" else []) ++ submissionFields args payload := by
  unfold taskArguments at h
  dsimp only at h
  generalize (if includeType then given args "type" else []) = typed at h ⊢
  generalize (if includeType then ["type"] else []) = extra at h
  split at h
  · cases h
  split at h
  · rename_i payload _ found _
    split at h
    · cases h
    split at h
    · cases h
    split at h
    · cases h
    · cases h
      exact ⟨payload, found, by
        rw [submissionFields, List.append_assoc, List.append_assoc, List.append_assoc]⟩
  · cases h

theorem textOf_eq {value : Json} {text : String} (h : textOf value = some text) :
    value = .str text := by
  cases value with
  | str value =>
    cases h
    rfl
  | null | bool | num | arr | obj => cases h

/-- A submission names its type first, and is read back as it was written. -/
theorem normal_submission (normal : JsonText.Normal format args) {payload : Json} {type : String}
    (found : args.field "payload" = some payload) :
    JsonText.Normal format (.obj (("type", .str type) :: submissionFields args payload)) := by
  rw [JsonText.Normal, NormalFields, JsonText.Normal]
  have keys : ((("type", Json.str type) :: submissionFields args payload).map Prod.fst).Sublist
      ["type", "payload", "priority", "max_retries"] := by
    unfold submissionFields
    rw [List.map_cons, List.map_append, List.map_append]
    exact ((List.Sublist.refl ["payload"]).append (keys_given args "priority") |>.append
      (keys_given args "max_retries")).cons_cons _
  have own : NormalFields format [("payload", payload)] := by
    rw [NormalFields, NormalFields]
    exact ⟨normal_field normal found, trivial⟩
  refine ⟨List.Pairwise.sublist keys (by decide), trivial, ?_⟩
  exact normalFields_append (normalFields_append own (normalFields_given normal _))
    (normalFields_given normal _)

end Bodies

section Invocations
variable {web : WebRuntime} {format : NumberFormat} {registry : ToolRegistry} {source : Request}
variable {grant : CapabilityGrant} {availability : CapabilityAvailabilitySnapshot}
variable {descriptor : ToolDescriptor} {args : Json} {invocation : Request}

/-- The request asks for the tool's own surface, or submits a task the grant allows. -/
structure Answerable (web : WebRuntime) (registry : ToolRegistry) (source : Request)
    (grant : CapabilityGrant) (descriptor : ToolDescriptor) (invocation : Request) : Prop where
  caller : invocation.header "authorization" = source.header "authorization"
  surface : ∀ surface, requiredSurface invocation.pathname invocation.method = some surface →
    surface = descriptor.name ∨ (surface = "task.submit" ∧ descriptor.kind = .task)
  task : invocation.pathname = "/v1/tasks" → invocation.method = "POST" →
    ∀ target, taskDescriptorFromRequest web (capabilities registry) invocation = some target →
      Allows grant target

/-- A request to a path of the descriptor's own surface that is not the submission of tasks. -/
theorem answerable_path {path method : String} {body : Option Json} {key : Option String}
    (surface : ∀ surface, requiredSurface path method = some surface → surface = descriptor.name)
    (other : ¬ (path = "/v1/tasks" ∧ method = "POST")) :
    Answerable web registry source grant descriptor
      (gatewayRequest web source path method body key) where
  caller := rfl
  surface := fun name listed => Or.inl (surface name listed)
  task := fun here posted => absurd ⟨here, posted⟩ other

theorem surface_tasks : requiredSurface "/v1/tasks" "POST" = some "task.submit" := by
  decide

theorem answerable_routed {method : String} {body : Option Json}
    (own : ∀ surface ∈ routedSurface descriptor, surface = descriptor.name)
    (apart : descriptor.name ≠ "task.submit")
    (h : routed web source descriptor method body = some invocation) :
    Answerable web registry source grant descriptor invocation := by
  unfold routed at h
  split at h
  · cases h
  · rename_i posted
    obtain ⟨route, given, rfl⟩ := Option.map_eq_some_iff.mp h
    obtain ⟨given, _⟩ := Option.filter_eq_some_iff.mp given
    have surface : routedSurface descriptor = requiredSurface route method := by
      unfold routedSurface
      rw [given, Option.bind_some, not_not.mp posted, Option.bind_some]
    apply answerable_path
    · intro name listed
      exact own name (surface.trans listed)
    · rintro ⟨rfl, rfl⟩
      exact apart (own _ (surface.trans surface_tasks)).symm

/-- The submission of a task that the grant allows. -/
theorem answerable_submission (back : ReadsBack web format) (normal : JsonText.Normal format args)
    {payload : Json} {type : String} {key : Option String}
    (found : args.field "payload" = some payload)
    (named : descriptor.name = "task.submit" ∨ descriptor.kind = .task)
    (allowed : ∀ target, getTool registry type = some target → target.kind = .task →
      Allows grant target.toCapabilityDescriptor) :
    Answerable web registry source grant descriptor
      (gatewayRequest web source "/v1/tasks" "POST"
        (some (.obj (("type", .str type) :: submissionFields args payload))) key) where
  caller := rfl
  surface := fun surface listed => by
    cases surface_tasks.symm.trans listed
    exact named.imp Eq.symm fun task => ⟨rfl, task⟩
  task := fun _ _ target described => by
    have written : JsonText.Normal format (.obj (("type", .str type) :: submissionFields args payload)) :=
      normal_submission normal found
    have parsed := back _ written
    unfold taskDescriptorFromRequest gatewayRequest at described
    dsimp only [Option.map_some, Option.getD_some] at described
    rw [parsed] at described
    have type' : (Json.obj (("type", .str type) :: submissionFields args payload)).field "type" =
        some (.str type) := rfl
    dsimp only at described
    rw [type'] at described
    dsimp only at described
    rw [getCapability_capabilities] at described
    obtain ⟨found, task⟩ := Option.filter_eq_some_iff.mp described
    obtain ⟨tool, registered, rfl⟩ := Option.map_eq_some_iff.mp found
    exact allowed tool registered (of_decide_eq_true task)

theorem answerable_id {id : Option Int} {request : Int → Request}
    (path : ∀ n, Answerable web registry source grant descriptor (request n))
    (h : id.map request = some invocation) :
    Answerable web registry source grant descriptor invocation := by
  obtain ⟨n, _, rfl⟩ := Option.map_eq_some_iff.mp h
  exact path n

theorem answerable_fixed {exact : Bool} {path : String} (unlisted : requiredSurface path "GET" = none)
    (h : (if exact then some (gatewayRequest web source path "GET" none none) else none) =
      some invocation) : Answerable web registry source grant descriptor invocation := by
  split at h
  · cases h
    refine answerable_path (fun surface listed => ?_) fun posted => absurd posted.2 (by decide)
    rw [unlisted] at listed
    cases listed
  · cases h

theorem invocation_delegated (coherent : Coherent registry)
    (found : getTool registry descriptor.name = some descriptor) (delegated : Delegated descriptor)
    (h : invocationForTool web registry source grant availability descriptor args =
      some invocation) : Answerable web registry source grant descriptor invocation := by
  have own := coherent.routed _ (mem_of_getTool found) delegated
  have apart : descriptor.name ≠ "task.submit" := by
    intro submits
    rw [submits] at found
    exact (coherent.submission _ found).2.2 delegated
  unfold invocationForTool at h
  dsimp only at h
  split at h
  · split at h
    · cases h
    · obtain ⟨path, _, h⟩ := Option.bind_eq_some_iff.mp h
      exact answerable_routed own apart h
  split at h
  · split at h
    · split at h
      · cases h
      split at h
      · exact answerable_routed own apart h
      · cases h
    split at h
    · split at h
      · cases h
      · obtain ⟨path, _, h⟩ := Option.bind_eq_some_iff.mp h
        exact answerable_routed own apart h
    · cases h
  split at h
  · split at h
    · cases h
    · exact answerable_routed own apart h
  · rename_i notFiles notMutator notGit
    rcases delegated with files | mutator | git
    · exact absurd files notFiles
    · exact absurd mutator notMutator
    · exact absurd git notGit

/-- Whatever a usable tool is called with, the request it becomes is its own. -/
theorem invocation_answerable (coherent : Coherent registry) (back : ReadsBack web format)
    (normal : JsonText.Normal format args) (found : getTool registry descriptor.name = some descriptor)
    (usable : Usable registry grant descriptor)
    (h : invocationForTool web registry source grant availability descriptor args =
      some invocation) : Answerable web registry source grant descriptor invocation := by
  by_cases delegated : Delegated descriptor
  · exact invocation_delegated coherent found delegated h
  unfold Delegated at delegated
  rw [not_or, not_or] at delegated
  unfold invocationForTool at h
  dsimp only at h
  rw [if_neg delegated.1, if_neg delegated.2.1, if_neg delegated.2.2] at h
  split at h
  · exact answerable_fixed (by decide) h
  · exact answerable_fixed (by decide) h
  · exact answerable_fixed (by decide) h
  · rename_i name
    refine answerable_id (fun n => answerable_path (fun surface listed => ?_) fun posted =>
      absurd posted.2 (by decide)) h
    rw [surface_task (segment_toString n)] at listed
    cases listed
    exact name.symm
  · rename_i name
    split at h
    · cases h
    rename_i body key parsed
    split at h
    · cases h
    rename_i target named
    split at h
    · cases h
    rename_i executable
    cases h
    obtain ⟨value, typed, texted⟩ := Option.bind_eq_some_iff.mp named
    obtain ⟨type, typed, text⟩ := Option.bind_eq_some_iff.mp typed
    cases textOf_eq text
    obtain ⟨payload, given', rfl⟩ := taskArguments_some parsed
    have body : (if true = true then given args "type" else []) ++ submissionFields args payload =
        ("type", .str value) :: submissionFields args payload := by
      rw [if_pos rfl, given, typed]
      rfl
    rw [body]
    refine answerable_submission back normal given' (Or.inl name) fun other registered _ => ?_
    rw [texted] at registered
    cases registered
    rw [not_or, Bool.not_eq_true, Bool.not_eq_false', capabilityExecutable, Bool.and_eq_true] at executable
    exact capabilityAllowed_iff.mp executable.2.1
  · rename_i name
    refine answerable_id (fun n => answerable_path (fun surface listed => ?_) fun posted =>
      absurd posted.2 (by decide)) h
    rw [surface_workflow (segment_toString n)] at listed
    cases listed
    exact name.symm
  · rename_i name
    refine answerable_id (fun n => answerable_path (fun surface listed => ?_) fun posted =>
      absurd posted.2 (by decide)) h
    rw [surface_result (segment_toString n)] at listed
    cases listed
    exact name.symm
  · rename_i name
    refine answerable_id (fun n => answerable_path (fun surface listed => ?_) fun posted => ?_) h
    · rw [surface_cancel (segment_toString n)] at listed
      cases listed
      exact name.symm
    · have surface := surface_cancel (segment_toString n)
      rw [posted.1] at surface
      exact absurd surface (by decide)
  · rename_i name
    split at h
    · cases h
    split at h
    · cases h
      refine answerable_path (fun surface listed => ?_) fun posted => absurd posted.1 (by decide)
      rw [show requiredSurface "/v1/workflows" "POST" = some "workflow.submit" by decide] at listed
      cases listed
      exact name.symm
    · cases h
  · split at h
    · cases h
    rename_i task
    obtain ⟨parsed, arguments, rfl⟩ := Option.map_eq_some_iff.mp h
    obtain ⟨payload, given', body⟩ := taskArguments_some arguments
    rw [body, if_neg Bool.false_ne_true, List.nil_append]
    refine answerable_submission back normal given' (Or.inr (not_not.mp task)) ?_
    intro other registered _
    rw [found] at registered
    cases registered
    exact usable.own

end Invocations

/-! ### Agreement -/

section Calls
variable {web : WebRuntime} {format : NumberFormat} {registry : ToolRegistry}
variable {collate : String → String → Bool} {provider : Option RegisteredProcessProvider}
variable {config : GatewayConfig} {source : Request} {grant : CapabilityGrant}
variable {availability : CapabilityAvailabilitySnapshot}

theorem handleToolsCall_invoke {name arguments : Option Json} {invocation : Request}
    (h : handleToolsCall web registry collate source grant availability name arguments =
      .invoke invocation) :
    ∃ text descriptor, getTool registry text = some descriptor ∧
      Usable registry grant descriptor ∧
      invocationForTool web registry source grant availability descriptor (argumentsOf arguments) =
        some invocation := by
  unfold handleToolsCall at h
  split at h
  · rename_i text fields record
    split at h
    · cases h
    rename_i descriptor found
    obtain ⟨found, _⟩ := Option.filter_eq_some_iff.mp found
    split at h
    · cases h
    rename_i made
    split at h
    · cases h
    · rename_i translated
      cases h
      rw [Bool.not_eq_true, Option.isNone_eq_false_iff] at made
      obtain ⟨tool, made⟩ := Option.isSome_iff_exists.mp made
      rw [record]
      exact ⟨text, descriptor, found, (mcpTool_some made).2, translated⟩
  · cases h

/-- A request of the tool's own passes the check at the router. -/
theorem enforced_of_answerable {descriptor : ToolDescriptor}
    {invocation : Request} {auth : AuthorizationContext} {nowMs : Int}
    (found : getTool registry descriptor.name = some descriptor)
    (usable : Usable registry auth.grant descriptor)
    (resolved : resolveAuthorizationContext web source config nowMs = some auth)
    (answerable : Answerable web registry source auth.grant descriptor invocation) :
    ∃ enforced, enforceCapabilityAccess web (capabilities registry) config invocation nowMs =
      .ok enforced := by
  have asking := (resolve_of_header answerable.caller config nowMs).trans resolved
  apply enforceCapabilityAccess_of_passed asking
  intro surfaceName listed
  refine ⟨?_, answerable.task⟩
  rw [getCapability_capabilities]
  rcases answerable.surface surfaceName listed with rfl | ⟨rfl, task⟩
  · rw [found]
    exact ⟨_, rfl, usable.own⟩
  · obtain ⟨submit, submission, allowed⟩ := usable.submission task
    rw [submission]
    exact ⟨_, rfl, allowed⟩

theorem mem_toolsList_iff (tool : McpTool) :
    tool ∈ toolsList collate provider registry grant availability ↔
      tool ∈ listTools registry collate grant availability ∨
        tool ∈ processToolsForRequest collate provider grant := by
  unfold toolsList
  dsimp only
  split
  · rename_i none'
    rw [none', List.mem_nil_iff, or_false]
  · rw [List.mem_mergeSort, List.mem_append]

theorem toolsCall_unknown_iff {name : String} {arguments : Option Json}
    {fields : List (String × Json)} (record : argumentsOf arguments = .obj fields) :
    (toolsCall collate provider web registry source grant availability (some (.str name))
      arguments).unknown = true ↔
      ¬ Offered registry collate grant availability name ∧
        processDescriptorForCall collate provider grant name = none := by
  have base : (handleToolsCall web registry collate source grant availability (some (.str name))
      arguments).unknown = true ↔ ¬ Offered registry collate grant availability name :=
    handleToolsCall_unknown_iff record
  rw [← base]
  unfold toolsCall
  dsimp only
  have text : ((some (Json.str name)).bind textOf).bind
      (processDescriptorForCall collate provider grant) =
      processDescriptorForCall collate provider grant name := rfl
  rw [text]
  split
  · rename_i known
    rw [Bool.not_eq_true'] at known
    rw [known]
    exact iff_of_false Bool.false_ne_true fun unknown => absurd unknown.1 Bool.false_ne_true
  · rename_i unknown
    rw [Bool.not_eq_true', Bool.not_eq_false] at unknown
    split
    · rename_i missing
      exact iff_of_true unknown ⟨unknown, missing⟩
    · rename_i descriptor found
      refine iff_of_false ?_ fun missing => ?_
      · split
        · exact Bool.false_ne_true
        · exact Bool.false_ne_true
      · rw [found] at missing
        cases missing.2

theorem toolsCall_invoke {name arguments : Option Json} {invocation : Request}
    (h : toolsCall collate provider web registry source grant availability name arguments =
      .invoke invocation) :
    handleToolsCall web registry collate source grant availability name arguments =
        .invoke invocation ∨
      ∃ text descriptor, processDescriptorForCall collate provider grant text = some descriptor ∧
        invocation = gatewayRequest web source (descriptor.route.getD "") "POST" none none := by
  unfold toolsCall at h
  dsimp only at h
  split at h
  · exact Or.inl h
  split at h
  · exact Or.inl h
  · rename_i descriptor found
    obtain ⟨text, _, found⟩ := Option.bind_eq_some_iff.mp found
    split at h
    · cases h
      exact Or.inr ⟨text, descriptor, found, rfl⟩
    · cases h

/-- A task that the grant may submit, and that can be run, is among the task tool's types. -/
theorem submittable_offered (coherent : Coherent registry) {submit target : ToolDescriptor}
    {type : String} (submission : getTool registry "task.submit" = some submit)
    (allowed : Allows grant submit.toCapabilityDescriptor)
    (found : getTool registry type = some target) (task : target.kind = .task)
    (own : Allows grant target.toCapabilityDescriptor)
    (available : isCapabilityAvailable target availability = true) :
    ∃ tool ∈ listTools registry collate grant availability, tool.name = "task.submit" ∧
      ∃ taskNames, tool.inputSchema = .taskEnvelope (some taskNames) ∧ type ∈ taskNames := by
  obtain ⟨shown, surface, direct⟩ := coherent.submission submit submission
  have name := name_of_getTool coherent submission
  have mem : type ∈ executableTaskNames registry collate grant availability := by
    unfold executableTaskNames
    rw [taskSubmitSurface, submission]
    dsimp only
    rw [capabilityAllowed_iff.mpr allowed, Bool.not_true, if_neg Bool.false_ne_true,
      List.mem_mergeSort, List.mem_map]
    refine ⟨target, List.mem_filter.mpr ⟨List.mem_filter.mpr ⟨?_, ?_⟩, ?_⟩,
      name_of_getTool coherent found⟩
    · exact List.mem_map.mpr ⟨_, mem_of_getTool found, rfl⟩
    · rw [coherent.discoverable _ (mem_of_getTool found) task, task]
      rfl
    · rw [capabilityExecutable, capabilityAllowed_iff.mpr own, available]
      rfl
  unfold Delegated at direct
  rw [not_or, not_or] at direct
  have ready : isCapabilityAvailable submit availability = true := by
    unfold isCapabilityAvailable
    rw [if_neg direct.1, if_neg direct.2.1, if_neg direct.2.2, if_neg surface, name]
    rfl
  have schema : toolSchema registry collate grant availability submit =
      some (.taskEnvelope (some (executableTaskNames registry collate grant availability))) := by
    unfold toolSchema
    rw [if_neg direct.1, if_neg direct.2.1, if_neg direct.2.2, name]
    dsimp only
    rw [if_neg (List.ne_nil_of_mem mem)]
    rfl
  refine ⟨⟨submit.name, .taskEnvelope (some (executableTaskNames registry collate grant
    availability)), submit⟩, ?_, name, _, rfl, mem⟩
  unfold listTools
  rw [List.mem_filterMap]
  refine ⟨submit, ?_, ?_⟩
  · rw [List.mem_mergeSort, List.mem_filter, List.mem_map]
    exact ⟨⟨_, mem_of_getTool submission, rfl⟩, shown⟩
  · unfold mcpTool
    dsimp only
    rw [toolPrerequisites, if_pos surface, ready, schema, if_neg]
    · rfl
    · simp only [List.cons_ne_nil, List.any_cons, List.any_nil, capabilityAllowed_iff.mpr allowed,
        Bool.not_true, Bool.or_false, Bool.false_eq_true, or_self, not_false_eq_true]

end Calls

/-- On a coherent registry, a tool is invoked only where the router, and for a process
the process API, lets its request through; a tool is listed exactly if calling it is not
refused as unknown or unavailable; and the task tool offers every task that can be run
and that the grant may submit over HTTP. -/
theorem mcp_http_agree (web : WebRuntime) (format : NumberFormat) (registry : ToolRegistry)
    (collate : String → String → Bool) (rt : Runtime) (files : FileSystem) (settings : Config)
    (config : GatewayConfig) (source : Request) (availability : CapabilityAvailabilitySnapshot)
    (nowMs : Int) (auth : AuthorizationContext)
    (coherent : Coherent registry) (back : ReadsBack web format)
    (resolved : resolveAuthorizationContext web source config nowMs = some auth) :
    let provider := loadRegisteredProcessProvider rt files settings
    let call := toolsCall collate provider web registry source auth.grant availability
    let tools := toolsList collate provider registry auth.grant availability
    (∀ name arguments invocation, JsonText.Normal format (argumentsOf arguments) →
      call name arguments = .invoke invocation →
      (∃ enforced, enforceCapabilityAccess web (capabilities registry) config invocation nowMs =
        .ok enforced) ∧
      ((handleToolsCall web registry collate source auth.grant availability name
          arguments).unknown = true →
        ∃ command, processApi web config provider invocation nowMs = some (.ok command))) ∧
    (∀ name arguments fields, argumentsOf arguments = .obj fields →
      ((∃ tool ∈ tools, tool.name = name) ↔ (call (some (.str name)) arguments).unknown = false)) ∧
    (∀ request enforced type target, request.pathname = "/v1/tasks" → request.method = "POST" →
      resolveAuthorizationContext web request config nowMs = some auth →
      enforceCapabilityAccess web (capabilities registry) config request nowMs = .ok enforced →
      ((web.parse request.body).bind fun body => body.field "type") = some (.str type) →
      (TaskFacade.getTaskPolicy TASK_REGISTRY type).isSome →
      getTool registry type = some target → isCapabilityAvailable target availability = true →
      ∃ tool ∈ tools, tool.name = "task.submit" ∧
        ∃ taskNames, tool.inputSchema = .taskEnvelope (some taskNames) ∧ type ∈ taskNames) := by
  intro provider call tools
  have registered : ∀ loaded, provider = some loaded → Registered loaded.registry.commands :=
    fun loaded h => registered_of_loaded h
  refine ⟨?_, ?_, ?_⟩
  · intro name arguments invocation normal invoked
    rcases toolsCall_invoke invoked with direct | ⟨text, descriptor, callable, rfl⟩
    · obtain ⟨text, descriptor, found, usable, translated⟩ := handleToolsCall_invoke direct
      have own : getTool registry descriptor.name = some descriptor := by
        rw [name_of_getTool coherent found, found]
      refine ⟨enforced_of_answerable own usable resolved
        (invocation_answerable coherent back normal own usable translated), fun unknown => ?_⟩
      rw [direct] at unknown
      cases unknown
    · obtain ⟨command, rfl, started⟩ := processApi_ok registered resolved callable
      exact ⟨⟨_, enforceCapabilityAccess_unlisted surface_process⟩, fun _ => ⟨command, started⟩⟩
  · intro name arguments fields record
    have unknown : (call (some (.str name)) arguments).unknown = true ↔ _ :=
      toolsCall_unknown_iff record
    rw [← Bool.not_eq_true, unknown]
    simp only [tools, mem_toolsList_iff, or_and_right, exists_or]
    rw [mem_listTools_iff coherent, mem_processToolsForRequest_iff registered,
      ← Option.ne_none_iff_isSome]
    tauto
  · intro request enforced type target path method asking passed typed policy found available
    obtain ⟨_, checked⟩ := enforceCapabilityAccess_ok passed
    have listed : requiredSurface request.pathname request.method = some "task.submit" := by
      rw [path, method, surface_tasks]
    obtain ⟨auth', resolved', ⟨surface, submission, allowed⟩, task⟩ := checked _ listed
    rw [asking] at resolved'
    cases resolved'
    rw [getCapability_capabilities] at submission
    obtain ⟨submit, registeredSubmit, rfl⟩ := Option.map_eq_some_iff.mp submission
    obtain ⟨policy, accepted⟩ := Option.isSome_iff_exists.mp policy
    obtain ⟨before, after, shape, _⟩ := List.lookup_eq_some_iff.mp accepted
    have mem : (type, policy) ∈ TASK_REGISTRY := by
      rw [shape]
      exact List.mem_append_right _ List.mem_cons_self
    obtain ⟨target', found', kind⟩ := coherent.described _ mem
    rw [found] at found'
    cases found'
    have described : taskDescriptorFromRequest web (capabilities registry) request =
        some target.toCapabilityDescriptor := by
      obtain ⟨body, parsed, typed⟩ := Option.bind_eq_some_iff.mp typed
      unfold taskDescriptorFromRequest
      rw [parsed]
      cases body with
      | obj fields =>
        dsimp only
        rw [typed]
        dsimp only
        rw [getCapability_capabilities, found, Option.map_some, Option.filter_some, kind]
        rfl
      | null | bool | num | str | arr => cases typed
    obtain ⟨tool, listed, name, offered⟩ := submittable_offered coherent registeredSubmit allowed found
      kind (task path method _ described) available
    exact ⟨tool, (mem_toolsList_iff tool).mpr (Or.inl listed), name, offered⟩

/-! ### Two callers -/

open CapabilitySessions (sampleWeb sampleGrant sampleSid issueCapabilitySession)
open ProviderIsolation (noFiles configured)

theorem readsBack_sample : ReadsBack sampleWeb JsonText.integers := fun value normal => by
  change JsonText.read _ (String.ofList (JsonText.render _ value)).toList = some value
  rw [String.toList_ofList]
  exact JsonText.read_render normal

def bearer (token : String) : Request where
  method := "POST"
  pathname := "/mcp"
  header := fun name => if name = "authorization" then some ("Bearer " ++ token) else none

theorem bearerToken_bearer {token : String} (given : token ≠ "") :
    bearerToken (bearer token) = some token := by
  have text : bearerText (bearer token) = some token := by
    have header : (bearer token).header "authorization" = some ("Bearer " ++ token) := rfl
    rw [bearerText, header, Option.bind_some, String.toList_append,
      List.isPrefixOf_iff_prefix.mpr (List.prefix_append _ _), if_pos rfl]
    exact congrArg some String.ofList_toList
  rw [bearerToken, text, Option.filter_some, if_pos (decide_eq_true given)]

def sampleConfig : GatewayConfig where
  apiToken := some "root-token"

def alphabetical (left right : String) : Bool := decide (left ≤ right)

/-- A pool that hashes, and nothing else. -/
def hashing : CapabilityAvailabilitySnapshot := ⟨true, false, false, false, ["hash.compute"]⟩

def rootAuth : AuthorizationContext := ⟨.root, LEGACY_COMPAT_GRANT, none, none⟩

def hashBody : Json := .obj [("type", .str "hash.compute"), ("payload", .num 7)]

/-- The root's call of a task is a submission that passes, and the type is offered. -/
theorem mcp_http_agree_root :
    (∃ enforced, enforceCapabilityAccess sampleWeb (capabilities CAPABILITY_REGISTRY) sampleConfig
      (gatewayRequest sampleWeb (bearer "root-token") "/v1/tasks" "POST" (some hashBody)
        (some "hash-1")) 0 = .ok enforced) ∧
    ∃ tool ∈ toolsList alphabetical none CAPABILITY_REGISTRY LEGACY_COMPAT_GRANT hashing,
      tool.name = "hash.compute" := by
  obtain ⟨passes, listed, _⟩ := mcp_http_agree sampleWeb JsonText.integers CAPABILITY_REGISTRY
    alphabetical sampleWeb.toRuntime noFiles (configured "/srv/repo/src") sampleConfig
    (bearer "root-token") hashing 0 rootAuth coherent_own readsBack_sample
    (resolve_root rfl (bearerToken_bearer (by decide)) 0)
  let args : Json := .obj [("payload", .num 7), ("idempotency_key", .str "hash-1")]
  have normal : JsonText.Normal JsonText.integers (argumentsOf (some args)) := by
    refine ⟨by decide, ?_, trivial, trivial⟩
    exact rfl
  have invoked : toolsCall alphabetical none sampleWeb CAPABILITY_REGISTRY (bearer "root-token")
      LEGACY_COMPAT_GRANT hashing (some (.str "hash.compute")) (some args) =
        .invoke (gatewayRequest sampleWeb (bearer "root-token") "/v1/tasks" "POST" (some hashBody)
          (some "hash-1")) := rfl
  refine ⟨(passes (some (.str "hash.compute")) (some args) _ normal invoked).1,
    (listed "hash.compute" (some args) _ rfl).mpr ?_⟩
  change CallOutcome.unknown (toolsCall alphabetical none sampleWeb CAPABILITY_REGISTRY
    (bearer "root-token") LEGACY_COMPAT_GRANT hashing (some (.str "hash.compute"))
    (some args)) = false
  rw [invoked]
  rfl

/-- A session of the sample grant under the root token. -/
def sessionToken : String :=
  match issueCapabilitySession sampleWeb sampleSid "root-token" sampleGrant 900 1760000000123 with
  | .ok issue => issue.token
  | .error _ => ""

def sessionAuth : AuthorizationContext := ⟨.session, sampleGrant, some sampleSid, some 1760000900⟩

theorem resolve_session :
    resolveAuthorizationContext sampleWeb (bearer sessionToken) sampleConfig 1760000000123 =
      some sessionAuth := by
  obtain ⟨issue, made⟩ : ∃ issue, issueCapabilitySession sampleWeb sampleSid "root-token"
      sampleGrant 900 1760000000123 = .ok issue := ⟨_, rfl⟩
  have token : sessionToken = issue.token := by
    rw [sessionToken, made]
  obtain ⟨wellFormed, lifetime⟩ := CapabilitySessions.issued_wellFormed
    CapabilitySessions.sampleWeb_writesJson CapabilitySessions.sampleWeb_tags
    CapabilitySessions.sampleSid_uuid (by decide) made
  have claims : issue.claims = ⟨sampleSid, 1760000000, 1760000900, sampleGrant.depth,
      sampleGrant.authority, sampleGrant.scopes⟩ := by
    cases made
    rfl
  have verified : verifyCapabilitySession sampleWeb sessionToken "root-token" 1760000000123 =
      some sessionAuth := by
    rw [token, CapabilitySessions.verify_wellFormed wellFormed lifetime, claims]
    exact if_pos (by decide)
  have filled : sessionToken ≠ "" := by
    intro empty
    rw [empty] at verified
    exact absurd verified (by decide)
  have other : constantTimeEqual sessionToken "root-token" = false := by
    rw [← Bool.not_eq_true, constantTimeEqual_iff]
    intro root
    rw [root] at verified
    exact absurd verified (by decide)
  have configured : sampleConfig.token? = some "root-token" := rfl
  rw [resolveAuthorizationContext, configured, bearerToken_bearer filled]
  simp only [reduceCtorEq, and_false, if_false, other, Bool.false_eq_true, verified]

/-- A registry with a second tool at the route of `filesystem.read`, for less. -/
def strayRegistry : ToolRegistry :=
  CAPABILITY_REGISTRY ++ [described "bun-filesystem"
    ⟨"notes.read", .surface, CapabilityDepth.DISCOVER, CapabilityAuthority.OBSERVE,
      ["capability.read"]⟩ (some "/v1/filesystem/read") (some "POST")]

def strayInvocation : Request :=
  gatewayRequest sampleWeb (bearer sessionToken) "/v1/filesystem/read" "POST"
    (some (.obj [("path", .str "a.md")])) none

theorem stray_invoked (source : Request) :
    toolsCall alphabetical none sampleWeb strayRegistry source sampleGrant
      ⟨true, true, false, false, []⟩ (some (.str "notes.read"))
        (some (.obj [("path", .str "a.md")])) =
      .invoke (gatewayRequest sampleWeb source "/v1/filesystem/read" "POST"
        (some (.obj [("path", .str "a.md")])) none) := rfl

theorem stray_refused {request : Request}
    (surface : requiredSurface request.pathname request.method = some "filesystem.read")
    (asking : resolveAuthorizationContext sampleWeb request sampleConfig 1760000000123 =
      some sessionAuth) :
    enforceCapabilityAccess sampleWeb (capabilities strayRegistry) sampleConfig request
      1760000000123 =
        .error (.coded 403 "capability_denied" "filesystem.read denied by depth,scope") := by
  rw [enforceCapabilityAccess, surface]
  simp only [asking]
  rfl

/-- The session may call the second tool, and may not send the request it becomes. -/
theorem stray_route_refused :
    resolveAuthorizationContext sampleWeb (bearer sessionToken) sampleConfig 1760000000123 =
      some sessionAuth ∧
    toolsCall alphabetical none sampleWeb strayRegistry (bearer sessionToken) sampleGrant
      ⟨true, true, false, false, []⟩ (some (.str "notes.read"))
        (some (.obj [("path", .str "a.md")])) = .invoke strayInvocation ∧
    enforceCapabilityAccess sampleWeb (capabilities strayRegistry) sampleConfig strayInvocation
      1760000000123 =
        .error (.coded 403 "capability_denied" "filesystem.read denied by depth,scope") := by
  refine ⟨resolve_session, stray_invoked _, ?_⟩
  have caller : strayInvocation.header "authorization" =
      (bearer sessionToken).header "authorization" := header_gatewayRequest _ _ _ _ _ _
  have asking := (resolve_of_header caller sampleConfig 1760000000123).trans resolve_session
  exact stray_refused (show requiredSurface "/v1/filesystem/read" "POST" = _ by decide) asking

end McpAgreement
