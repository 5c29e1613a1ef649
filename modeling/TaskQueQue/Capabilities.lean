/-!
# Capabilities

Descriptors of what the gateway offers, the grant a credential carries, and the
check of one against the other. A grant passes when both levels reach the
descriptor's and its scopes cover the descriptor's scopes; a scope that ends in
`.*` covers every longer scope with the same stem.

Fields that only the catalogue projection shows are left out.
-/

namespace Capabilities

/-- D0 to D6. -/
abbrev CapabilityDepth := Fin 7

/-- A0 to A4. -/
abbrev CapabilityAuthority := Fin 5

namespace CapabilityDepth

def DISCOVER : CapabilityDepth := 0
def INSPECT : CapabilityDepth := 1
def REASON : CapabilityDepth := 2
def EXECUTE : CapabilityDepth := 3
def ORCHESTRATE : CapabilityDepth := 4
def DELEGATED_SYSTEM : CapabilityDepth := 5
def OPERATOR : CapabilityDepth := 6

end CapabilityDepth

namespace CapabilityAuthority

def OBSERVE : CapabilityAuthority := 0
def INVOKE : CapabilityAuthority := 1
def COMPOSE : CapabilityAuthority := 2
def MUTATE_SCOPED : CapabilityAuthority := 3
def PRIVILEGED_DELEGATED : CapabilityAuthority := 4

end CapabilityAuthority

inductive CapabilityKind
  | surface
  | task
  | workflow
  | operator
deriving DecidableEq

structure CapabilityDescriptor where
  name : String
  kind : CapabilityKind
  minDepth : CapabilityDepth
  minAuthority : CapabilityAuthority
  requiredScopes : List String
deriving DecidableEq

abbrev CapabilityRegistry := List (String × CapabilityDescriptor)

structure CapabilityGrant where
  depth : CapabilityDepth
  authority : CapabilityAuthority
  scopes : List String
deriving DecidableEq

inductive CapabilityBlocker
  | depth
  | authority
  | scope
deriving DecidableEq

def CapabilityBlocker.asStr : CapabilityBlocker → String
  | .depth => "depth"
  | .authority => "authority"
  | .scope => "scope"

structure CapabilityDecision where
  allowed : Bool
  blockedBy : List CapabilityBlocker

def capability (descriptor : CapabilityDescriptor) : String × CapabilityDescriptor :=
  (descriptor.name, descriptor)

open CapabilityDepth CapabilityAuthority in
def CAPABILITY_REGISTRY : CapabilityRegistry := [
  capability ⟨"system.health", .surface, DISCOVER, OBSERVE, []⟩,
  capability ⟨"system.readiness", .surface, DISCOVER, OBSERVE, []⟩,
  capability ⟨"system.capabilities", .surface, DISCOVER, OBSERVE, ["capability.read"]⟩,
  capability ⟨"task.inspect", .surface, INSPECT, OBSERVE, ["task.read"]⟩,
  capability ⟨"task.submit", .surface, EXECUTE, INVOKE, ["task.invoke"]⟩,
  capability ⟨"workflow.inspect", .workflow, INSPECT, OBSERVE, ["workflow.read"]⟩,
  capability ⟨"workflow.result", .workflow, INSPECT, OBSERVE, ["workflow.read"]⟩,
  capability ⟨"workflow.cancel", .workflow, EXECUTE, INVOKE, ["workflow.cancel"]⟩,
  capability ⟨"workflow.submit", .workflow, ORCHESTRATE, COMPOSE, ["workflow.compose"]⟩,
  capability ⟨"filesystem.list", .surface, DELEGATED_SYSTEM, OBSERVE, ["filesystem.inspect"]⟩,
  capability ⟨"filesystem.stat", .surface, DELEGATED_SYSTEM, OBSERVE, ["filesystem.inspect"]⟩,
  capability ⟨"filesystem.read", .surface, DELEGATED_SYSTEM, OBSERVE, ["filesystem.read"]⟩,
  capability ⟨"filesystem.write", .surface, DELEGATED_SYSTEM, MUTATE_SCOPED, ["filesystem.write"]⟩,
  capability ⟨"filesystem.mkdir", .surface, DELEGATED_SYSTEM, MUTATE_SCOPED, ["filesystem.mkdir"]⟩,
  capability ⟨"git.head", .surface, DELEGATED_SYSTEM, OBSERVE, ["git.inspect"]⟩,
  capability ⟨"git.log", .surface, DELEGATED_SYSTEM, OBSERVE, ["git.inspect"]⟩,
  capability ⟨"git.refs", .surface, DELEGATED_SYSTEM, OBSERVE, ["git.inspect"]⟩,
  capability ⟨"document.process", .task, EXECUTE, INVOKE, ["task:document.process"]⟩,
  capability ⟨"hash.compute", .task, EXECUTE, INVOKE, ["task:hash.compute"]⟩,
  capability ⟨"vector.dot", .task, EXECUTE, INVOKE, ["task:vector.dot"]⟩,
  capability ⟨"agent.invoke", .task, DELEGATED_SYSTEM, MUTATE_SCOPED, ["task:agent.invoke"]⟩,
  capability ⟨"workflow.run", .task, ORCHESTRATE, COMPOSE, ["task:workflow.run"]⟩]

open CapabilityDepth CapabilityAuthority in
def LEGACY_COMPAT_GRANT : CapabilityGrant := ⟨OPERATOR, PRIVILEGED_DELEGATED, ["*"]⟩

/-- An own property of the registry. -/
def getCapability (registry : CapabilityRegistry) (name : String) : Option CapabilityDescriptor :=
  registry.lookup name

def scopeMatches (granted required : String) : Bool :=
  if granted = "*" then true
  else if granted = required then true
  else if !".*".toList.isSuffixOf granted.toList then false
  else
    let stem := granted.toList.dropLast
    stem.isPrefixOf required.toList && decide (stem.length < required.toList.length)

def hasRequiredScopes (grantedScopes requiredScopes : List String) : Bool :=
  requiredScopes.all fun required => grantedScopes.any fun granted => scopeMatches granted required

def evaluateCapabilityGrant (grant : CapabilityGrant) (descriptor : CapabilityDescriptor) :
    CapabilityDecision :=
  let blockedBy :=
    (if grant.depth < descriptor.minDepth then [.depth] else []) ++
    (if grant.authority < descriptor.minAuthority then [.authority] else []) ++
    (if !hasRequiredScopes grant.scopes descriptor.requiredScopes then [.scope] else [])
  { allowed := blockedBy.isEmpty, blockedBy }

/-- The grant's levels are at least the descriptor's, and its scopes cover the
descriptor's. -/
structure Allows (grant : CapabilityGrant) (descriptor : CapabilityDescriptor) : Prop where
  depth : descriptor.minDepth ≤ grant.depth
  authority : descriptor.minAuthority ≤ grant.authority
  scopes : ∀ required ∈ descriptor.requiredScopes,
    ∃ granted ∈ grant.scopes, scopeMatches granted required = true

theorem hasRequiredScopes_iff {grantedScopes requiredScopes : List String} :
    hasRequiredScopes grantedScopes requiredScopes = true ↔
      ∀ required ∈ requiredScopes, ∃ granted ∈ grantedScopes,
        scopeMatches granted required = true := by
  simp only [hasRequiredScopes, List.all_eq_true, List.any_eq_true]

theorem allowed_iff {grant : CapabilityGrant} {descriptor : CapabilityDescriptor} :
    (evaluateCapabilityGrant grant descriptor).allowed = true ↔ Allows grant descriptor := by
  simp only [evaluateCapabilityGrant, List.isEmpty_iff, List.append_eq_nil_iff, ite_eq_right_iff,
    List.cons_ne_nil, imp_false, Fin.not_lt, Bool.not_eq_true', Bool.not_eq_false,
    hasRequiredScopes_iff]
  constructor
  · rintro ⟨⟨depth, authority⟩, scopes⟩
    exact ⟨depth, authority, scopes⟩
  · rintro ⟨depth, authority, scopes⟩
    exact ⟨⟨depth, authority⟩, scopes⟩

instance (grant : CapabilityGrant) (descriptor : CapabilityDescriptor) :
    Decidable (Allows grant descriptor) :=
  decidable_of_iff _ allowed_iff

end Capabilities
