import Mathlib.Logic.Relation
import Mathlib.Data.List.Basic

/-!
# Depth-first searches

Two recursive walks of a directed graph that is given by the successors of each
node. The first collects what a node reaches and marks a node before it walks on
from it. The second marks a node while it is being explored and again when it is
done, and stops at a node it is exploring already: that is a cycle.

Both recur to the depth of the graph, and a budget of one more than the number of
nodes is enough for them. The nodes are those of a list; what they are does not
matter.
-/

namespace DepthFirstSearch

open Relation

variable {Node : Type*}

def Edge (succ : Node → List Node) (x y : Node) : Prop := y ∈ succ x

variable [DecidableEq Node]

/-- How many of the nodes are not in a list. -/
def unseen (nodes seen : List Node) : Nat := nodes.countP fun x => decide (x ∉ seen)

theorem unseen_mono {nodes seen seen' : List Node} (more : ∀ x ∈ seen, x ∈ seen') :
    unseen nodes seen' ≤ unseen nodes seen := by
  apply List.countP_mono_left
  intro x _ absent
  rw [decide_eq_true_eq] at absent ⊢
  exact fun mem => absent (more x mem)

theorem unseen_lt {nodes seen seen' : List Node} (more : ∀ x ∈ seen, x ∈ seen') {x : Node}
    (node : x ∈ nodes) (new : x ∉ seen) (marked : x ∈ seen') :
    unseen nodes seen' < unseen nodes seen := by
  obtain ⟨before, after, rfl⟩ := List.append_of_mem node
  have left : unseen before seen' ≤ unseen before seen := unseen_mono more
  have right : unseen after seen' ≤ unseen after seen := unseen_mono more
  unfold unseen at left right ⊢
  rw [List.countP_append, List.countP_append, List.countP_cons, List.countP_cons,
    decide_eq_true new, decide_eq_false (not_not.mpr marked)]
  simp only [if_true, Bool.false_eq_true, if_false]
  omega

theorem unseen_le_length (nodes seen : List Node) : unseen nodes seen ≤ nodes.length :=
  List.countP_le_length

/-! ### Collecting what a node reaches -/

def collect (succ : Node → List Node) : Nat → Node → List Node → List Node
  | 0, _, found => found
  | budget + 1, x, found =>
    (succ x).foldl (fun found y =>
      if y ∈ found then found else collect succ budget y (found ++ [y])) found

/-- What is found on the way from `x` through some of its successors. -/
structure Collected (succ : Node → List Node) (x : Node) (through found result : List Node) :
    Prop where
  keeps : ∀ y ∈ found, y ∈ result
  takes : ∀ y ∈ through, y ∈ result
  reached : ∀ y ∈ result, y ∈ found ∨ TransGen (Edge succ) x y
  closed : ∀ y ∈ result, y ∉ found → ∀ z ∈ succ y, z ∈ result

section Collect
variable {succ : Node → List Node} {nodes : List Node}

theorem collect_fold (inside : ∀ x, ∀ y ∈ succ x, y ∈ nodes) {budget : Nat}
    (ih : ∀ x found, unseen nodes found < budget →
      Collected succ x (succ x) found (collect succ budget x found))
    {x : Node} {through : List Node} (edges : ∀ y ∈ through, y ∈ succ x) {found : List Node}
    (enough : unseen nodes found ≤ budget) :
    Collected succ x through found (through.foldl (fun found y =>
      if y ∈ found then found else collect succ budget y (found ++ [y])) found) := by
  induction through generalizing found with
  | nil =>
    refine ⟨fun y mem => mem, fun y mem => absurd mem List.not_mem_nil, fun y mem => Or.inl mem, ?_⟩
    intro y mem new
    exact absurd mem new
  | cons y rest step =>
    have later := fun z mem => edges z (List.mem_cons_of_mem y mem)
    rw [List.foldl_cons]
    by_cases seen : y ∈ found
    · rw [if_pos seen]
      have done := step later enough
      refine ⟨done.keeps, ?_, done.reached, done.closed⟩
      intro z mem
      rcases List.mem_cons.mp mem with rfl | mem
      · exact done.keeps z seen
      · exact done.takes z mem
    · rw [if_neg seen]
      have edge : Edge succ x y := edges y List.mem_cons_self
      have grows : ∀ z ∈ found, z ∈ found ++ [y] := fun z mem => List.mem_append_left [y] mem
      have less := unseen_lt grows (inside x y edge) seen
        (List.mem_append_right found (List.mem_singleton_self y))
      have first := ih y (found ++ [y]) (Nat.lt_of_lt_of_le less enough)
      have mono : unseen nodes _ ≤ unseen nodes (found ++ [y]) := unseen_mono first.keeps
      have done := @step later (collect succ budget y (found ++ [y])) (by omega)
      have marked : y ∈ collect succ budget y (found ++ [y]) :=
        first.keeps y (List.mem_append_right found (List.mem_singleton_self y))
      constructor
      · intro z mem
        exact done.keeps z (first.keeps z (grows z mem))
      · intro z mem
        rcases List.mem_cons.mp mem with rfl | mem
        · exact done.keeps z marked
        · exact done.takes z mem
      · intro z mem
        rcases done.reached z mem with early | far
        · rcases first.reached z early with old | far
          · rcases List.mem_append.mp old with old | new
            · exact Or.inl old
            · rw [List.mem_singleton.mp new]
              exact Or.inr (.single edge)
          · exact Or.inr (.head edge far)
        · exact Or.inr far
      · intro z mem new w next
        by_cases early : z ∈ collect succ budget y (found ++ [y])
        · apply done.keeps
          by_cases mark : z ∈ found ++ [y]
          · rcases List.mem_append.mp mark with old | mark
            · exact absurd old new
            · rw [List.mem_singleton.mp mark] at next
              exact first.takes w next
          · exact first.closed z early mark w next
        · exact done.closed z mem early w next

theorem collect_spec (inside : ∀ x, ∀ y ∈ succ x, y ∈ nodes) (budget : Nat) (x : Node)
    (found : List Node) (enough : unseen nodes found < budget) :
    Collected succ x (succ x) found (collect succ budget x found) := by
  induction budget generalizing x found with
  | zero => exact absurd enough (Nat.not_lt_zero _)
  | succ budget ih =>
    exact collect_fold inside ih (fun y mem => mem) (Nat.le_of_lt_succ enough)

/-- The walk from a node finds exactly what the node reaches. -/
theorem mem_collect_iff (inside : ∀ x, ∀ y ∈ succ x, y ∈ nodes) {budget : Nat}
    (enough : nodes.length < budget) {x y : Node} :
    y ∈ collect succ budget x [] ↔ TransGen (Edge succ) x y := by
  have spec := collect_spec inside budget x []
    (Nat.lt_of_le_of_lt (unseen_le_length nodes []) enough)
  constructor
  · intro mem
    rcases spec.reached y mem with old | far
    · exact absurd old List.not_mem_nil
    · exact far
  · intro far
    induction far with
    | single edge => exact spec.takes _ edge
    | tail _ edge ih => exact spec.closed _ ih List.not_mem_nil _ edge

end Collect

/-! ### Exploring until a cycle is met -/

inductive Fault (Node : Type*)
  | cycle
  | unknown (x : Node)
  | budget

structure Marks (Node : Type*) where
  visiting : List Node
  visited : List Node

/-- Visit the nodes of a list in order, unless a visit faults. -/
def visitAll (visit : Node → Marks Node → Except (Fault Node) (Marks Node)) :
    List Node → Marks Node → Except (Fault Node) (Marks Node)
  | [], marks => .ok marks
  | x :: rest, marks =>
    match visit x marks with
    | .error fault => .error fault
    | .ok marks => visitAll visit rest marks

def explore (lookup : Node → Option (List Node)) :
    Nat → Node → Marks Node → Except (Fault Node) (Marks Node)
  | 0, _, _ => .error .budget
  | budget + 1, x, marks =>
    if x ∈ marks.visiting then .error .cycle
    else if x ∈ marks.visited then .ok marks
    else
      match lookup x with
      | none => .error (.unknown x)
      | some next =>
        match visitAll (explore lookup budget) next ⟨x :: marks.visiting, marks.visited⟩ with
        | .error fault => .error fault
        | .ok marks => .ok ⟨marks.visiting.erase x, x :: marks.visited⟩

/-- The successors of a node, none if it is unknown. -/
def successors (lookup : Node → Option (List Node)) (x : Node) : List Node :=
  (lookup x).getD []

/-- Nodes that are explored: with their successors, and on no cycle. -/
structure Done (lookup : Node → Option (List Node)) (visited : List Node) : Prop where
  closed : ∀ x ∈ visited, ∀ y ∈ successors lookup x, y ∈ visited
  acyclic : ∀ x ∈ visited, ¬ TransGen (Edge (successors lookup)) x x

omit [DecidableEq Node] in
theorem Done.reach {lookup : Node → Option (List Node)} {visited : List Node}
    (done : Done lookup visited) {x y : Node} (mem : x ∈ visited)
    (far : ReflTransGen (Edge (successors lookup)) x y) : y ∈ visited := by
  induction far with
  | refl => exact mem
  | tail _ edge ih => exact done.closed _ ih _ edge

/-- What visits that did not fault have done. -/
structure Explored (lookup : Node → Option (List Node)) (through : List Node)
    (marks marks' : Marks Node) : Prop where
  visiting : marks'.visiting = marks.visiting
  keeps : ∀ x ∈ marks.visited, x ∈ marks'.visited
  takes : ∀ x ∈ through, x ∈ marks'.visited
  apart : ∀ x ∈ marks'.visited, x ∈ marks.visited ∨ x ∉ marks.visiting
  done : Done lookup marks.visited → Done lookup marks'.visited

section Explore
variable {lookup : Node → Option (List Node)}

omit [DecidableEq Node] in
theorem Explored.refl (marks : Marks Node) : Explored lookup [] marks marks where
  visiting := rfl
  keeps := fun _ mem => mem
  takes := fun _ mem => absurd mem List.not_mem_nil
  apart := fun _ mem => Or.inl mem
  done := id

omit [DecidableEq Node] in
theorem Explored.cons {x : Node} {rest : List Node} {m m' m'' : Marks Node}
    (first : Explored lookup [x] m m') (later : Explored lookup rest m' m'') :
    Explored lookup (x :: rest) m m'' where
  visiting := later.visiting.trans first.visiting
  keeps := fun y mem => later.keeps y (first.keeps y mem)
  takes := by
    intro y mem
    rcases List.mem_cons.mp mem with rfl | mem
    · exact later.keeps y (first.takes y (List.mem_singleton_self y))
    · exact later.takes y mem
  apart := by
    intro y mem
    rcases later.apart y mem with old | new
    · exact first.apart y old
    · exact Or.inr (first.visiting ▸ new)
  done := fun before => later.done (first.done before)

omit [DecidableEq Node] in
theorem visitAll_explored {visit : Node → Marks Node → Except (Fault Node) (Marks Node)}
    (each : ∀ x m m', visit x m = .ok m' → Explored lookup [x] m m') {through : List Node}
    {m m' : Marks Node} (h : visitAll visit through m = .ok m') :
    Explored lookup through m m' := by
  induction through generalizing m with
  | nil =>
    cases h
    exact .refl _
  | cons x rest ih =>
    unfold visitAll at h
    split at h
    · cases h
    · rename_i visited
      exact (each x _ _ visited).cons (ih h)

theorem explore_explored (budget : Nat) {x : Node} {m m' : Marks Node}
    (h : explore lookup budget x m = .ok m') : Explored lookup [x] m m' := by
  induction budget generalizing x m m' with
  | zero => cases h
  | succ budget ih =>
    unfold explore at h
    split at h
    · cases h
    rename_i idle
    split at h
    · rename_i old
      cases h
      refine ⟨rfl, fun _ mem => mem, ?_, fun _ mem => Or.inl mem, id⟩
      intro y mem
      rwa [List.mem_singleton.mp mem]
    rename_i fresh
    split at h
    · cases h
    rename_i next found
    split at h
    · cases h
    rename_i m₂ walked
    cases h
    have inner := visitAll_explored (fun y m m' => ih) walked
    have edges : successors lookup x = next := by rw [successors, found, Option.getD_some]
    constructor
    case visiting =>
      dsimp only
      rw [inner.visiting, List.erase_cons_head]
    case keeps => exact fun y mem => List.mem_cons_of_mem x (inner.keeps y mem)
    case takes =>
      intro y mem
      rw [List.mem_singleton.mp mem]
      exact List.mem_cons_self
    case apart =>
      intro y mem
      rcases List.mem_cons.mp mem with rfl | mem
      · exact Or.inr idle
      · rcases inner.apart y mem with old | new
        · exact Or.inl old
        · exact Or.inr fun held => new (List.mem_cons_of_mem x held)
    case done =>
      intro before
      have after := inner.done before
      have outside : x ∉ m₂.visited := by
        intro mem
        rcases inner.apart x mem with old | new
        · exact fresh old
        · exact new List.mem_cons_self
      constructor
      · intro y mem z edge
        rcases List.mem_cons.mp mem with rfl | mem
        · rw [edges] at edge
          exact List.mem_cons_of_mem y (inner.takes z edge)
        · exact List.mem_cons_of_mem x (after.closed y mem z edge)
      · intro y mem
        rcases List.mem_cons.mp mem with rfl | mem
        · intro round
          -- the round leaves by a successor, which is explored, and so is all it reaches
          obtain ⟨z, edge, back⟩ := TransGen.head'_iff.mp round
          unfold Edge at edge
          rw [edges] at edge
          exact outside (after.reach (inner.takes z edge) back)
        · exact after.acyclic y mem

/-! ### No fault without a cycle -/

variable {nodes : List Node}

/-- A budget of the nodes that are not being visited is never used up. -/
theorem explore_budget (inside : ∀ x, ∀ y ∈ successors lookup x, y ∈ nodes) (budget : Nat)
    {x : Node} {m : Marks Node} (node : x ∈ nodes) (enough : unseen nodes m.visiting < budget) :
    explore lookup budget x m ≠ .error .budget := by
  induction budget generalizing x m with
  | zero => exact absurd enough (Nat.not_lt_zero _)
  | succ budget ih =>
    unfold explore
    split
    · rintro ⟨⟩
    rename_i idle
    split
    · rintro ⟨⟩
    split
    · rintro ⟨⟩
    rename_i next found
    have edges : successors lookup x = next := by rw [successors, found, Option.getD_some]
    have less := unseen_lt (fun y mem => List.mem_cons_of_mem x mem) node idle List.mem_cons_self
    have all : ∀ (through : List Node) (m₁ : Marks Node), m₁.visiting = x :: m.visiting →
        (∀ y ∈ through, y ∈ nodes) →
        visitAll (explore lookup budget) through m₁ ≠ .error .budget := by
      intro through
      induction through with
      | nil =>
        rintro m₁ _ _ ⟨⟩
      | cons y rest step =>
        intro m₁ same known
        unfold visitAll
        have first := @ih y m₁ (known y List.mem_cons_self) (by rw [same]; omega)
        cases visited : explore lookup budget y m₁ with
        | error fault =>
          rintro ⟨⟩
          exact first visited
        | ok m₂ =>
          exact step m₂ ((explore_explored budget visited).visiting.trans same)
            fun z mem => known z (List.mem_cons_of_mem y mem)
    have inner := all next ⟨x :: m.visiting, m.visited⟩ rfl
      fun y mem => inside x y (edges ▸ mem)
    split
    · rename_i fault faulted
      rintro ⟨⟩
      exact inner faulted
    · rintro ⟨⟩

/-- On a graph without cycles, whose nodes are all known, exploring does not fault. -/
theorem explore_ok (inside : ∀ x, ∀ y ∈ successors lookup x, y ∈ nodes)
    (known : ∀ x ∈ nodes, (lookup x).isSome)
    (acyclic : ∀ x, ¬ TransGen (Edge (successors lookup)) x x) (budget : Nat) {x : Node}
    {m : Marks Node} (node : x ∈ nodes)
    (path : ∀ y ∈ m.visiting, TransGen (Edge (successors lookup)) y x)
    (enough : unseen nodes m.visiting < budget) :
    ∃ m', explore lookup budget x m = .ok m' := by
  induction budget generalizing x m with
  | zero => exact absurd enough (Nat.not_lt_zero _)
  | succ budget ih =>
    have idle : x ∉ m.visiting := fun mem => acyclic x (path x mem)
    unfold explore
    rw [if_neg idle]
    by_cases old : x ∈ m.visited
    · rw [if_pos old]
      exact ⟨m, rfl⟩
    rw [if_neg old]
    obtain ⟨next, found⟩ := Option.isSome_iff_exists.mp (known x node)
    have edges : successors lookup x = next := by rw [successors, found, Option.getD_some]
    have less := unseen_lt (fun y mem => List.mem_cons_of_mem x mem) node idle List.mem_cons_self
    have all : ∀ (through : List Node) (m₁ : Marks Node), m₁.visiting = x :: m.visiting →
        (∀ y ∈ through, y ∈ successors lookup x) →
        ∃ m₂, visitAll (explore lookup budget) through m₁ = .ok m₂ := by
      intro through
      induction through with
      | nil => exact fun m₁ _ _ => ⟨m₁, rfl⟩
      | cons y rest step =>
        intro m₁ same edge
        have here : Edge (successors lookup) x y := edge y List.mem_cons_self
        have paths : ∀ z ∈ m₁.visiting, TransGen (Edge (successors lookup)) z y := by
          intro z mem
          rw [same] at mem
          rcases List.mem_cons.mp mem with rfl | mem
          · exact .single here
          · exact (path z mem).tail here
        obtain ⟨m₂, visited⟩ := @ih y m₁ (inside x y here) paths (by rw [same]; omega)
        unfold visitAll
        rw [visited]
        exact step m₂ ((explore_explored budget visited).visiting.trans same)
          fun z mem => edge z (List.mem_cons_of_mem y mem)
    obtain ⟨m₂, walked⟩ := all next ⟨x :: m.visiting, m.visited⟩ rfl
      fun y mem => edges.symm ▸ mem
    rw [found]
    dsimp only
    rw [walked]
    exact ⟨_, rfl⟩

/-! ### Exploring a whole graph -/

variable (graph : ∀ x, (lookup x).isSome ↔ x ∈ nodes)
  (inside : ∀ x, ∀ y ∈ successors lookup x, y ∈ nodes)

include inside in
/-- Visits of nodes, on their own, do not use the budget up. -/
theorem search_budget {budget : Nat} (enough : nodes.length < budget) {through : List Node}
    (known : ∀ x ∈ through, x ∈ nodes) {m : Marks Node} (idle : m.visiting = []) :
    visitAll (explore lookup budget) through m ≠ .error .budget := by
  induction through generalizing m with
  | nil => rintro ⟨⟩
  | cons x rest ih =>
    have spare : unseen nodes m.visiting < budget :=
      Nat.lt_of_le_of_lt (unseen_le_length nodes _) enough
    have first := explore_budget inside budget (known x List.mem_cons_self) spare
    unfold visitAll
    cases visited : explore lookup budget x m with
    | error fault =>
      rintro ⟨⟩
      exact first visited
    | ok m₂ =>
      exact ih (fun y mem => known y (List.mem_cons_of_mem x mem))
        ((explore_explored budget visited).visiting.trans idle)

include graph inside in
theorem search_ok (acyclic : ∀ x, ¬ TransGen (Edge (successors lookup)) x x) {budget : Nat}
    (enough : nodes.length < budget) {through : List Node} (known : ∀ x ∈ through, x ∈ nodes)
    {m : Marks Node} (idle : m.visiting = []) :
    ∃ m', visitAll (explore lookup budget) through m = .ok m' := by
  induction through generalizing m with
  | nil => exact ⟨m, rfl⟩
  | cons x rest ih =>
    obtain ⟨m₂, visited⟩ := explore_ok (m := m) inside (fun y mem => (graph y).mpr mem) acyclic
      budget (known x List.mem_cons_self)
      (fun y mem => absurd (idle ▸ mem : y ∈ []) List.not_mem_nil)
      (Nat.lt_of_le_of_lt (unseen_le_length nodes _) enough)
    unfold visitAll
    rw [visited]
    exact ih (fun y mem => known y (List.mem_cons_of_mem x mem))
      ((explore_explored budget visited).visiting.trans idle)

include graph inside in
/-- Exploring every node of a graph finds a cycle exactly if there is one. -/
theorem search_ok_iff {budget : Nat} (enough : nodes.length < budget) :
    (∃ m, visitAll (explore lookup budget) nodes ⟨[], []⟩ = .ok m) ↔
      ∀ x, ¬ TransGen (Edge (successors lookup)) x x := by
  constructor
  · rintro ⟨m, walked⟩ x round
    have explored := visitAll_explored (fun y m m' => explore_explored budget) walked
    have done : Done lookup m.visited := explored.done
      ⟨fun y mem => absurd mem List.not_mem_nil, fun y mem => absurd mem List.not_mem_nil⟩
    obtain ⟨y, edge, _⟩ := TransGen.head'_iff.mp round
    have known : x ∈ nodes := by
      rw [← graph x]
      unfold Edge successors at edge
      cases found : lookup x with
      | none =>
        rw [found] at edge
        exact absurd edge List.not_mem_nil
      | some next => rfl
    exact done.acyclic x (explored.takes x known) round
  · intro acyclic
    exact search_ok graph inside acyclic enough (fun x mem => mem) rfl

end Explore

end DepthFirstSearch
