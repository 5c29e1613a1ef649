import Mathlib.Logic.Basic

/-!
# Runs of a labelled step relation

A run starts at a state and takes steps, each with a label; its labels in order are
its history. An invariant relates the history so far to the state reached. What is
known of one step of a run is read off the state it starts from, to which the
history before it leads.
-/

namespace LabelledRuns

variable {State Label : Type*}

inductive Runs (Step : State → Label → State → Prop) (first : State) : List Label → State → Prop
  | start : Runs Step first [] first
  | step {past : List Label} {s s' : State} {label : Label} (run : Runs Step first past s)
      (last : Step s label s') : Runs Step first (past ++ [label]) s'

variable {Step : State → Label → State → Prop} {first last : State}

/-- The invariant rule. -/
theorem Runs.invariant {R : List Label → State → Prop} (holds : R [] first)
    (kept : ∀ past s label s', R past s → Step s label s' → R (past ++ [label]) s')
    {history : List Label} (run : Runs Step first history last) : R history last := by
  induction run with
  | start => exact holds
  | step _ taken ih => exact kept _ _ _ _ ih taken

theorem Runs.trans {middle : State} {before after : List Label}
    (run : Runs Step first before middle) (later : Runs Step middle after last) :
    Runs Step first (before ++ after) last := by
  induction later with
  | start =>
    rw [List.append_nil]
    exact run
  | step _ taken ih =>
    rw [← List.append_assoc]
    exact ih.step taken

/-- A place in the history is a step of the run. -/
theorem Runs.split {before after : List Label} {label : Label}
    (run : Runs Step first (before ++ label :: after) last) :
    ∃ s s', Runs Step first before s ∧ Step s label s' ∧ Runs Step s' after last := by
  generalize whole : before ++ label :: after = history at run
  induction run generalizing after with
  | start => exact absurd whole (List.append_ne_nil_of_right_ne_nil _ (List.cons_ne_nil _ _))
  | @step past s s' last' run taken ih =>
    rcases List.eq_nil_or_concat after with rfl | ⟨front, final, rfl⟩
    · obtain ⟨rfl, same⟩ := List.append_inj' whole rfl
      cases same
      exact ⟨s, s', run, taken, .start⟩
    · rw [List.concat_eq_append] at whole ⊢
      have whole' : (before ++ label :: front) ++ [final] = past ++ [last'] := by
        rw [← whole, List.append_assoc, List.cons_append]
      obtain ⟨rfl, same⟩ := List.append_inj' whole' rfl
      cases same
      obtain ⟨t, t', reached, here, later⟩ := ih rfl
      exact ⟨t, t', reached, here, later.step taken⟩

/-- Nothing happens after a state without steps. -/
theorem Runs.stuck {history : List Label} (run : Runs Step first history last)
    (none : ∀ label s', ¬ Step first label s') : history = [] ∧ last = first := by
  induction run with
  | start => exact ⟨rfl, rfl⟩
  | step _ taken ih =>
    obtain ⟨_, rfl⟩ := ih
    exact absurd taken (none _ _)

end LabelledRuns
