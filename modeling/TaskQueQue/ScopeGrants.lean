import Mathlib.Order.Bounds.Basic
import TaskQueQue.OAuthTokens

/-!
# Scopes yield the least sufficient grant

An approved list of scopes is turned into a grant. Its scopes are those of the list
and its levels the highest that any descriptor naming one of them needs. Both are
collected apart, over all registries; no combination of scopes admits a capability
that was not asked for, and none falls short.
-/

namespace ScopeGrants

open Capabilities UrlValues OAuthTokens

/-! ### Greatest elements -/

section Greatest
variable {α β : Type} [LinearOrder α]

theorem foldl_max_isGreatest (f : β → α) (items : List β) (start : α) :
    IsGreatest {x | x = start ∨ ∃ item ∈ items, f item = x}
      (items.foldl (fun greatest item => max greatest (f item)) start) := by
  induction items generalizing start with
  | nil =>
    refine ⟨Or.inl rfl, ?_⟩
    rintro x (rfl | ⟨item, mem, _⟩)
    · exact le_rfl
    · cases mem
  | cons first rest ih =>
    rw [List.foldl_cons]
    obtain ⟨attained, bound⟩ := ih (max start (f first))
    constructor
    · rcases attained with same | ⟨item, mem, same⟩
      · rw [same]
        rcases max_choice start (f first) with left | right
        · exact Or.inl left
        · exact Or.inr ⟨first, List.mem_cons_self, right.symm⟩
      · exact Or.inr ⟨item, List.mem_cons_of_mem _ mem, same⟩
    · have start' := bound (Or.inl rfl)
      rintro x (rfl | ⟨item, mem, rfl⟩)
      · exact (le_max_left _ _).trans start'
      · rcases List.mem_cons.mp mem with rfl | mem
        · exact (le_max_right _ _).trans start'
        · exact bound (Or.inr ⟨item, mem, rfl⟩)

/-- The greatest of some elements, raised by others, is the greatest of all. -/
theorem IsGreatest.raise {s t : Set α} {x y : α} (first : IsGreatest s x)
    (second : IsGreatest {z | z = x ∨ z ∈ t} y) : IsGreatest (s ∪ t) y := by
  constructor
  · rcases second.1 with rfl | mem
    · exact Or.inl first.1
    · exact Or.inr mem
  · rintro z (mem | mem)
    · exact (first.2 mem).trans (second.2 (Or.inl rfl))
    · exact second.2 (Or.inr mem)

end Greatest

/-! ### What the derivation takes -/

def Wildcard (scope : String) : Prop := scope = "*" ∨ endsWith scope ".*" = true

def descriptors (registry : CapabilityRegistry) : List CapabilityDescriptor :=
  registry.map Prod.snd

/-- Some descriptor requires the scope. -/
def Mapped (registry : CapabilityRegistry) (scope : String) : Prop :=
  ∃ descriptor ∈ descriptors registry, scope ∈ descriptor.requiredScopes

/-- The descriptor names one of the scopes. -/
def Names (scopes : List String) (descriptor : CapabilityDescriptor) : Prop :=
  ∃ scope ∈ scopes, scope ∈ descriptor.requiredScopes

structure Derivable (registry : CapabilityRegistry) (scopes : List String) : Prop where
  filled : scopes ≠ []
  distinct : scopes.Nodup
  plain : ∀ scope ∈ scopes, ¬ Wildcard scope
  mapped : ∀ scope ∈ scopes, Mapped registry scope

section Levels
variable {registry : CapabilityRegistry}

/-- The levels of the descriptors that name one of the scopes. -/
def levelsOf {α : Type} (registry : CapabilityRegistry) (level : CapabilityDescriptor → α)
    (scopes : List String) : Set α :=
  {x | ∃ descriptor ∈ descriptors registry, Names scopes descriptor ∧ level descriptor = x}

theorem levelsOf_cons {α : Type} (level : CapabilityDescriptor → α) (scope : String)
    (rest : List String) :
    levelsOf registry level (scope :: rest) =
      levelsOf registry level [scope] ∪ levelsOf registry level rest := by
  ext x
  simp only [levelsOf, Names, Set.mem_ofPred_eq, Set.mem_union, List.exists_mem_cons_iff,
    List.not_mem_nil, false_and, exists_false, or_false]
  constructor
  · rintro ⟨descriptor, mem, first | later, same⟩
    · exact Or.inl ⟨descriptor, mem, first, same⟩
    · exact Or.inr ⟨descriptor, mem, later, same⟩
  · rintro (⟨descriptor, mem, first, same⟩ | ⟨descriptor, mem, later, same⟩)
    · exact ⟨descriptor, mem, Or.inl first, same⟩
    · exact ⟨descriptor, mem, Or.inr later, same⟩

/-- The descriptors that require a scope, as the derivation selects them. -/
def requiring (registry : CapabilityRegistry) (scope : String) : List CapabilityDescriptor :=
  (descriptors registry).filter fun descriptor => descriptor.requiredScopes.contains scope

theorem mem_requiring_iff {scope : String} {descriptor : CapabilityDescriptor} :
    descriptor ∈ requiring registry scope ↔
      descriptor ∈ descriptors registry ∧ scope ∈ descriptor.requiredScopes := by
  rw [requiring, List.mem_filter, List.contains_iff_mem]

theorem requiring_isEmpty_iff {scope : String} :
    (requiring registry scope).isEmpty = true ↔ ¬ Mapped registry scope := by
  rw [List.isEmpty_iff, List.eq_nil_iff_forall_not_mem]
  simp only [mem_requiring_iff, Mapped, not_exists]

variable {seen rest scopes : List String} {scope : String} {depth : CapabilityDepth}
variable {authority : CapabilityAuthority} {levels : CapabilityDepth × CapabilityAuthority}

/-- One scope is taken if it is new, no wildcard, and required by a descriptor. -/
theorem raiseLevels_cons_iff :
    raiseLevels registry seen depth authority (scope :: rest) = .ok levels ↔
      (scope ∉ seen ∧ ¬ Wildcard scope ∧ Mapped registry scope) ∧
      raiseLevels registry (scope :: seen)
        ((requiring registry scope).foldl (fun depth descriptor => max depth descriptor.minDepth)
          depth)
        ((requiring registry scope).foldl
          (fun authority descriptor => max authority descriptor.minAuthority) authority)
        rest = .ok levels := by
  rw [raiseLevels]
  constructor
  · intro h
    split at h
    · cases h
    rename_i fresh
    split at h
    · cases h
    rename_i plain
    dsimp only at h
    split at h
    · cases h
    rename_i mapped
    exact ⟨⟨fresh, plain, not_not.mp fun unmapped => mapped (requiring_isEmpty_iff.mpr unmapped)⟩, h⟩
  · rintro ⟨⟨fresh, plain, mapped⟩, h⟩
    have filled : (requiring registry scope).isEmpty ≠ true :=
      fun empty => requiring_isEmpty_iff.mp empty mapped
    rw [if_neg fresh]
    exact (if_neg plain).trans ((if_neg filled).trans h)

theorem raiseLevels_ok_iff :
    (∃ levels, raiseLevels registry seen depth authority scopes = .ok levels) ↔
      (∀ scope ∈ scopes, scope ∉ seen) ∧ scopes.Nodup ∧ (∀ scope ∈ scopes, ¬ Wildcard scope) ∧
      ∀ scope ∈ scopes, Mapped registry scope := by
  induction scopes generalizing seen depth authority with
  | nil =>
    refine iff_of_true ⟨_, rfl⟩ ⟨?_, List.nodup_nil, ?_, ?_⟩
    all_goals exact fun scope mem => absurd mem List.not_mem_nil
  | cons scope rest ih =>
    simp only [raiseLevels_cons_iff, exists_and_left, ih, List.forall_mem_cons, List.nodup_cons]
    constructor
    · rintro ⟨⟨fresh, plain, mapped⟩, others, distinct, plains, mappeds⟩
      refine ⟨⟨fresh, fun s mem held => ?_⟩, ⟨fun mem => ?_, distinct⟩, ⟨plain, plains⟩, mapped,
        mappeds⟩
      · exact others s mem (List.mem_cons_of_mem _ held)
      · exact others scope mem List.mem_cons_self
    · rintro ⟨⟨fresh, others⟩, ⟨apart, distinct⟩, ⟨plain, plains⟩, mapped, mappeds⟩
      refine ⟨⟨fresh, plain, mapped⟩, fun s mem held => ?_, distinct, plains, mappeds⟩
      rcases List.mem_cons.mp held with rfl | held
      · exact apart mem
      · exact others s mem held

theorem levelsOf_requiring {α : Type} (level : CapabilityDescriptor → α) (scope : String) :
    {x | ∃ descriptor ∈ requiring registry scope, level descriptor = x} =
      levelsOf registry level [scope] := by
  ext x
  simp only [levelsOf, Names, mem_requiring_iff, Set.mem_ofPred_eq, List.mem_singleton,
    exists_eq_left, and_assoc]

/-- After a scope and the rest, a level is the greatest it began with or met. -/
theorem isGreatest_cons {α : Type} [LinearOrder α] (level : CapabilityDescriptor → α) {start greatest : α}
    (later : IsGreatest {x | x = (requiring registry scope).foldl (fun start descriptor =>
        max start (level descriptor)) start ∨ x ∈ levelsOf registry level rest} greatest) :
    IsGreatest {x | x = start ∨ x ∈ levelsOf registry level (scope :: rest)} greatest := by
  have first := foldl_max_isGreatest level (requiring registry scope) start
  have all := IsGreatest.raise first later
  rw [levelsOf_cons, ← levelsOf_requiring]
  have same : {x | x = start ∨ x ∈ {x | ∃ descriptor ∈ requiring registry scope,
        level descriptor = x} ∪ levelsOf registry level rest} =
      {x | x = start ∨ ∃ descriptor ∈ requiring registry scope, level descriptor = x} ∪
        levelsOf registry level rest := by
    ext x
    exact or_assoc.symm
  rw [same]
  exact all

theorem raiseLevels_isGreatest
    (h : raiseLevels registry seen depth authority scopes = .ok levels) :
    IsGreatest {x | x = depth ∨ x ∈ levelsOf registry (fun d => d.minDepth) scopes} levels.1 ∧
      IsGreatest {x | x = authority ∨ x ∈ levelsOf registry (fun d => d.minAuthority) scopes}
        levels.2 := by
  induction scopes generalizing seen depth authority with
  | nil =>
    cases h
    have nothing : ∀ (α : Type) (level : CapabilityDescriptor → α) x,
        x ∉ levelsOf registry level [] := by
      rintro α level x ⟨descriptor, _, ⟨scope, mem, _⟩, _⟩
      cases mem
    refine ⟨⟨Or.inl rfl, ?_⟩, Or.inl rfl, ?_⟩
    · rintro x (rfl | mem)
      · exact le_rfl
      · exact absurd mem (nothing _ _ _)
    · rintro x (rfl | mem)
      · exact le_rfl
      · exact absurd mem (nothing _ _ _)
  | cons scope rest ih =>
    obtain ⟨_, h⟩ := raiseLevels_cons_iff.mp h
    obtain ⟨depths, authorities⟩ := ih h
    exact ⟨isGreatest_cons _ depths, isGreatest_cons _ authorities⟩

end Levels

/-! ### The grant -/

section Grants
variable {registry : CapabilityRegistry} {scopes : List String} {grant : CapabilityGrant}

theorem derive_eq_ok_iff :
    deriveOAuthCapabilityGrant scopes registry = .ok grant ↔ scopes ≠ [] ∧ ∃ levels,
      raiseLevels registry [] CapabilityDepth.DISCOVER CapabilityAuthority.OBSERVE scopes =
        .ok levels ∧ grant = ⟨levels.1, levels.2, scopes⟩ := by
  unfold deriveOAuthCapabilityGrant
  by_cases empty : scopes = []
  · rw [if_pos empty]
    exact iff_of_false (fun h => nomatch h) fun h => h.1 empty
  · rw [if_neg empty]
    cases raiseLevels registry [] CapabilityDepth.DISCOVER CapabilityAuthority.OBSERVE scopes with
    | error error => exact iff_of_false (fun h => nomatch h) fun ⟨_, _, h, _⟩ => nomatch h
    | ok levels =>
      constructor
      · rintro ⟨⟩
        exact ⟨empty, levels, rfl, rfl⟩
      · rintro ⟨_, _, ⟨⟩, rfl⟩
        rfl

theorem derive_ok_iff :
    (∃ grant, deriveOAuthCapabilityGrant scopes registry = .ok grant) ↔
      Derivable registry scopes := by
  have taken : (∃ levels, raiseLevels registry [] CapabilityDepth.DISCOVER
      CapabilityAuthority.OBSERVE scopes = .ok levels) ↔ _ := raiseLevels_ok_iff
  constructor
  · rintro ⟨grant, h⟩
    obtain ⟨filled, levels, h, _⟩ := derive_eq_ok_iff.mp h
    obtain ⟨_, distinct, plain, mapped⟩ := taken.mp ⟨levels, h⟩
    exact ⟨filled, distinct, plain, mapped⟩
  · rintro ⟨filled, distinct, plain, mapped⟩
    obtain ⟨levels, h⟩ := taken.mpr ⟨fun scope _ => List.not_mem_nil, distinct, plain, mapped⟩
    exact ⟨_, derive_eq_ok_iff.mpr ⟨filled, levels, h, rfl⟩⟩

/-- What a derived grant holds: the scopes, and the highest levels that go with them. -/
structure Derived (registry : CapabilityRegistry) (scopes : List String) (grant : CapabilityGrant) :
    Prop where
  held : grant.scopes = scopes
  depth : IsGreatest (levelsOf registry (fun d => d.minDepth) scopes) grant.depth
  authority : IsGreatest (levelsOf registry (fun d => d.minAuthority) scopes) grant.authority

/-- The level a derivation begins with is no higher than any it meets. -/
theorem isGreatest_of_least {n : Nat} [NeZero n] {level : CapabilityDescriptor → Fin n}
    {greatest : Fin n} (derivable : Derivable registry scopes)
    (h : IsGreatest {x | x = 0 ∨ x ∈ levelsOf registry level scopes} greatest) :
    IsGreatest (levelsOf registry level scopes) greatest := by
  refine ⟨?_, fun x mem => h.2 (Or.inr mem)⟩
  rcases h.1 with rfl | mem
  · obtain ⟨scope, requested⟩ := List.exists_mem_of_ne_nil _ derivable.filled
    obtain ⟨descriptor, mem, names⟩ := derivable.mapped scope requested
    have met : level descriptor ∈ levelsOf registry level scopes :=
      ⟨descriptor, mem, ⟨scope, requested, names⟩, rfl⟩
    have least : level descriptor = 0 := le_antisymm (h.2 (Or.inr met)) (Fin.zero_le _)
    rw [← least]
    exact met
  · exact mem

theorem derived_of_ok (h : deriveOAuthCapabilityGrant scopes registry = .ok grant) :
    Derived registry scopes grant := by
  have derivable := derive_ok_iff.mp ⟨grant, h⟩
  obtain ⟨_, levels, raised, rfl⟩ := derive_eq_ok_iff.mp h
  obtain ⟨depth, authority⟩ := raiseLevels_isGreatest raised
  exact ⟨rfl, isGreatest_of_least derivable depth, isGreatest_of_least derivable authority⟩

theorem scopeMatches_plain {granted required : String} (plain : ¬ Wildcard granted) :
    scopeMatches granted required = true ↔ granted = required := by
  unfold Wildcard at plain
  rw [not_or, Bool.not_eq_true] at plain
  unfold scopeMatches
  rw [if_neg plain.1]
  constructor
  · intro h
    split at h
    · rename_i same
      exact same
    · rw [show ".*".toList.isSuffixOf granted.toList = false from plain.2, Bool.not_false,
        if_pos rfl] at h
      cases h
  · intro same
    rw [if_pos same]

/-- A descriptor that requires scopes is allowed exactly if they are all requested. -/
theorem allows_iff (derivable : Derivable registry scopes) (derived : Derived registry scopes grant)
    {descriptor : CapabilityDescriptor} (mem : descriptor ∈ descriptors registry)
    (requires : descriptor.requiredScopes ≠ []) :
    Allows grant descriptor ↔ ∀ scope ∈ descriptor.requiredScopes, scope ∈ scopes := by
  constructor
  · intro allows scope required
    obtain ⟨granted, held, covers⟩ := allows.scopes scope required
    rw [derived.held] at held
    rw [(scopeMatches_plain (derivable.plain granted held)).mp covers] at held
    exact held
  · intro requested
    obtain ⟨scope, required⟩ := List.exists_mem_of_ne_nil _ requires
    have names : Names scopes descriptor := ⟨scope, requested scope required, required⟩
    refine ⟨derived.depth.2 ⟨descriptor, mem, names, rfl⟩,
      derived.authority.2 ⟨descriptor, mem, names, rfl⟩, fun scope required => ?_⟩
    have held := requested scope required
    refine ⟨scope, derived.held ▸ held, ?_⟩
    exact (scopeMatches_plain (derivable.plain scope held)).mpr rfl

theorem levelsOf_mono {α : Type} (level : CapabilityDescriptor → α) {more : List String}
    (sub : scopes ⊆ more) : levelsOf registry level scopes ⊆ levelsOf registry level more := by
  rintro x ⟨descriptor, mem, ⟨scope, requested, names⟩, same⟩
  exact ⟨descriptor, mem, ⟨scope, sub requested, names⟩, same⟩

theorem allows_mono {more : List String} {grant' : CapabilityGrant} (sub : scopes ⊆ more)
    (derived : Derived registry scopes grant) (derived' : Derived registry more grant')
    {descriptor : CapabilityDescriptor} (allows : Allows grant descriptor) :
    Allows grant' descriptor := by
  refine ⟨allows.depth.trans (derived'.depth.2 (levelsOf_mono _ sub derived.depth.1)),
    allows.authority.trans (derived'.authority.2 (levelsOf_mono _ sub derived.authority.1)),
    fun scope required => ?_⟩
  obtain ⟨granted, held, covers⟩ := allows.scopes scope required
  rw [derived.held] at held
  exact ⟨granted, derived'.held ▸ sub held, covers⟩

end Grants

/-- A grant is derived exactly from distinct, plain, mapped scopes. It then allows the
descriptors that require only requested scopes and no other that requires any, holds the
greatest levels of the descriptors it names, and grows with the scopes. -/
theorem least_sufficient_grant (registry : CapabilityRegistry) (scopes : List String) :
    ((∃ grant, deriveOAuthCapabilityGrant scopes registry = .ok grant) ↔
      scopes ≠ [] ∧ scopes.Nodup ∧ (∀ scope ∈ scopes, ¬ Wildcard scope) ∧
        ∀ scope ∈ scopes, Mapped registry scope) ∧
    ∀ grant, deriveOAuthCapabilityGrant scopes registry = .ok grant →
      (∀ descriptor ∈ descriptors registry, descriptor.requiredScopes ≠ [] →
        ((evaluateCapabilityGrant grant descriptor).allowed = true ↔
          ∀ scope ∈ descriptor.requiredScopes, scope ∈ scopes)) ∧
      IsGreatest (levelsOf registry (fun d => d.minDepth) scopes) grant.depth ∧
      IsGreatest (levelsOf registry (fun d => d.minAuthority) scopes) grant.authority ∧
      ∀ more grant', scopes ⊆ more → deriveOAuthCapabilityGrant more registry = .ok grant' →
        ∀ descriptor, (evaluateCapabilityGrant grant descriptor).allowed = true →
          (evaluateCapabilityGrant grant' descriptor).allowed = true := by
  constructor
  · rw [derive_ok_iff]
    exact ⟨fun h => ⟨h.filled, h.distinct, h.plain, h.mapped⟩,
      fun h => ⟨h.1, h.2.1, h.2.2.1, h.2.2.2⟩⟩
  · intro grant h
    have derivable := derive_ok_iff.mp ⟨grant, h⟩
    have derived := derived_of_ok h
    refine ⟨fun descriptor mem requires => ?_, derived.depth, derived.authority, ?_⟩
    · rw [allowed_iff]
      exact allows_iff derivable derived mem requires
    · intro more grant' sub h' descriptor allowed
      exact allowed_iff.mpr (allows_mono sub derived (derived_of_ok h') (allowed_iff.mp allowed))

end ScopeGrants
