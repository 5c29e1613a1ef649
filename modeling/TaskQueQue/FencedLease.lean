import Mathlib.Order.Basic
import Mathlib.Data.List.Induction
import Mathlib.Algebra.Order.Group.Nat

/-!
# Fenced leases

A resource is leased to one holder at a time. Every grant carries a generation
number larger than those of all earlier grants; the holder may settle the lease
by quoting holder and generation, and the lease can be revoked. This module says
what such a trace guarantees, for any type of holders and any ordered type of
generations: who holds the lease is decided by the most recent grant and the
events after it, and no generation is settled twice.
-/

namespace FencedLease

inductive Event (Holder Gen : Type*)
  | grant (holder : Holder) (generation : Gen)
  | settle (holder : Holder) (generation : Gen)
  | revoke
  | quiet
deriving DecidableEq

variable {Holder Gen : Type*}

/-- The lease after one event, from the lease before it. -/
def heldAfter (held : Option (Holder × Gen)) : Event Holder Gen → Option (Holder × Gen)
  | .grant w g => some (w, g)
  | .settle _ _ => none
  | .revoke => none
  | .quiet => held

def holder (trace : List (Event Holder Gen)) : Option (Holder × Gen) :=
  trace.foldl heldAfter none

@[simp] theorem holder_nil : holder ([] : List (Event Holder Gen)) = none := rfl

@[simp] theorem holder_concat (trace : List (Event Holder Gen)) (e : Event Holder Gen) :
    holder (trace ++ [e]) = heldAfter (holder trace) e := by
  simp [holder, List.foldl_append]

theorem holder_append_quiet {trace after : List (Event Holder Gen)}
    (h : ∀ e ∈ after, e = .quiet) : holder (trace ++ after) = holder trace := by
  induction after generalizing trace with
  | nil => simp
  | cons e after ih =>
    have he := h e List.mem_cons_self
    subst he
    have rest : holder ((trace ++ [.quiet]) ++ after) = holder (trace ++ [.quiet]) :=
      ih fun f hf => h f (List.mem_cons_of_mem _ hf)
    simpa [heldAfter] using rest

/-- The lease is held exactly by the most recent grant, when nothing but quiet
events followed it. -/
theorem holder_eq_some_iff {trace : List (Event Holder Gen)} {w : Holder} {g : Gen} :
    holder trace = some (w, g) ↔
      ∃ before after, trace = before ++ .grant w g :: after ∧ ∀ e ∈ after, e = .quiet := by
  constructor
  · intro h
    induction trace using List.reverseRecOn with
    | nil => cases h
    | append_singleton trace e ih =>
      rw [holder_concat] at h
      cases e with
      | grant w' g' =>
        cases h
        exact ⟨trace, [], rfl, by simp⟩
      | settle w' g' => cases h
      | revoke => cases h
      | quiet =>
        obtain ⟨before, after, rfl, hquiet⟩ := ih h
        refine ⟨before, after ++ [.quiet], by simp, ?_⟩
        intro e he
        rcases List.mem_append.mp he with he | he
        · exact hquiet e he
        · simpa using he
  · rintro ⟨before, after, rfl, hquiet⟩
    have split : before ++ Event.grant w g :: after = (before ++ [.grant w g]) ++ after := by simp
    rw [split, holder_append_quiet hquiet, holder_concat]
    rfl

/-! ### Lawful traces -/

section Lawful
variable [LT Gen]

/-- What may happen next: a grant with a fresh, larger generation, or a
settlement by the present holder. Revocations and quiet events are free. -/
def Admits (trace : List (Event Holder Gen)) : Event Holder Gen → Prop
  | .grant _ g => ∀ w' g', Event.grant w' g' ∈ trace → g' < g
  | .settle w g => holder trace = some (w, g)
  | .revoke => True
  | .quiet => True

inductive Lawful : List (Event Holder Gen) → Prop
  | nil : Lawful []
  | concat {trace e} : Lawful trace → Admits trace e → Lawful (trace ++ [e])

end Lawful

section Settlements
variable [DecidableEq Gen]

def Settles (g : Gen) : Event Holder Gen → Bool
  | .settle _ g' => decide (g' = g)
  | _ => false

/-- Settlements of a generation, counting a lease still open under it. -/
def spent (trace : List (Event Holder Gen)) (g : Gen) : Nat :=
  trace.countP (Settles g) + if (holder trace).any (fun l => decide (l.2 = g)) then 1 else 0

variable [Preorder Gen]

theorem spent_le_one_and_granted {trace : List (Event Holder Gen)} (h : Lawful trace) (g : Gen) :
    spent trace g ≤ 1 ∧ (0 < spent trace g → ∃ w, Event.grant w g ∈ trace) := by
  induction h with
  | nil => simp [spent]
  | @concat trace e _ admitted ih =>
    obtain ⟨hle, hgranted⟩ := ih
    have keep : (0 < spent trace g → ∃ w, Event.grant w g ∈ trace ++ [e]) := by
      intro hpos
      obtain ⟨w, hw⟩ := hgranted hpos
      exact ⟨w, List.mem_append_left _ hw⟩
    have bound : trace.countP (Settles g) ≤ spent trace g := Nat.le_add_right _ _
    cases e with
    | grant w g' =>
      by_cases hg : g' = g
      · subst hg
        have fresh : spent trace g' = 0 := by
          by_contra hne
          obtain ⟨w', hw'⟩ := hgranted (Nat.pos_of_ne_zero hne)
          exact lt_irrefl _ (admitted w' g' hw')
        refine ⟨?_, fun _ => ⟨w, by simp⟩⟩
        simp only [spent, holder_concat, heldAfter, List.countP_append, List.countP_singleton,
          Settles, Option.any_some, decide_true, if_true, Bool.false_eq_true, if_false]
        omega
      · have same : spent (trace ++ [.grant w g']) g ≤ spent trace g := by
          simp only [spent, holder_concat, heldAfter, List.countP_append, List.countP_singleton,
            Settles, Option.any_some, hg, decide_false, Bool.false_eq_true, if_false]
          omega
        exact ⟨same.trans hle, fun hpos => keep (hpos.trans_le same)⟩
    | settle w g' =>
      have held : holder trace = some (w, g') := admitted
      have same : spent (trace ++ [.settle w g']) g = spent trace g := by
        by_cases hg : g' = g <;>
          simp [spent, held, heldAfter, List.countP_append, Settles, hg]
      exact ⟨same ▸ hle, fun hpos => keep (same ▸ hpos)⟩
    | revoke =>
      have same : spent (trace ++ [.revoke]) g ≤ spent trace g := by
        simp [spent, heldAfter, List.countP_append, Settles]
      exact ⟨same.trans hle, fun hpos => keep (hpos.trans_le same)⟩
    | quiet =>
      have same : spent (trace ++ [.quiet]) g = spent trace g := by
        simp [spent, heldAfter, List.countP_append, Settles]
      exact ⟨same ▸ hle, fun hpos => keep (same ▸ hpos)⟩

/-- No generation is settled twice. -/
theorem settled_at_most_once {trace : List (Event Holder Gen)} (h : Lawful trace) (g : Gen) :
    trace.countP (Settles g) ≤ 1 :=
  (Nat.le_add_right _ _).trans (spent_le_one_and_granted h g).1

end Settlements

end FencedLease
