import Mathlib.Data.List.Basic

/-!
# Runs of a deterministic step and the notes they leave

A step function takes an event and a state. A run applies a list of events in
order; the notes of a run are what an observer writes down at each step, read
from the event and the state before it. An invariant that relates the notes so
far to the current state is proved once per step and holds of the whole run.

`AllSteps` restricts a run to events allowed where they happen. It is the form
in which a conditional guarantee about a run is stated: the condition is asked
of every step, in the state the step starts from.
-/

namespace Histories

variable {State Event Note : Type*}

def run (step : Event → State → State) : State → List Event → State
  | s, [] => s
  | s, e :: es => run step (step e s) es

def notes (step : Event → State → State) (note : Event → State → Note) :
    State → List Event → List Note
  | _, [] => []
  | s, e :: es => note e s :: notes step note (step e s) es

def AllSteps (step : Event → State → State) (ok : Event → State → Prop) :
    State → List Event → Prop
  | _, [] => True
  | s, e :: es => ok e s ∧ AllSteps step ok (step e s) es

variable {step : Event → State → State} {note : Event → State → Note}
variable {ok : Event → State → Prop}

@[simp] theorem run_nil (s : State) : run step s [] = s := rfl

@[simp] theorem run_cons (s : State) (e : Event) (es : List Event) :
    run step s (e :: es) = run step (step e s) es := rfl

theorem run_append (s : State) (es fs : List Event) :
    run step s (es ++ fs) = run step (run step s es) fs := by
  induction es generalizing s with
  | nil => rfl
  | cons e es ih => exact ih (step e s)

@[simp] theorem notes_nil (s : State) : notes step note s [] = [] := rfl

@[simp] theorem notes_cons (s : State) (e : Event) (es : List Event) :
    notes step note s (e :: es) = note e s :: notes step note (step e s) es := rfl

theorem notes_append (s : State) (es fs : List Event) :
    notes step note s (es ++ fs) =
      notes step note s es ++ notes step note (run step s es) fs := by
  induction es generalizing s with
  | nil => rfl
  | cons e es ih =>
    simp only [List.cons_append, notes_cons, run_cons, ih]

theorem allSteps_append {s : State} {es fs : List Event} :
    AllSteps step ok s (es ++ fs) ↔
      AllSteps step ok s es ∧ AllSteps step ok (run step s es) fs := by
  induction es generalizing s with
  | nil => simp [AllSteps]
  | cons e es ih => simp [AllSteps, ih, and_assoc]

theorem allSteps_of_forall (h : ∀ e s, ok e s) (s : State) (es : List Event) :
    AllSteps step ok s es := by
  induction es generalizing s with
  | nil => trivial
  | cons e es ih => exact ⟨h e s, ih (step e s)⟩

instance decidableAllSteps [∀ e s, Decidable (ok e s)] :
    ∀ (s : State) (es : List Event), Decidable (AllSteps step ok s es)
  | _, [] => isTrue trivial
  | s, e :: es =>
    have : Decidable (AllSteps step ok (step e s) es) := decidableAllSteps (step e s) es
    inferInstanceAs (Decidable (ok e s ∧ AllSteps step ok (step e s) es))

/-- A condition of the event alone is asked of the events in the list. -/
theorem allSteps_of_mem {p : Event → Prop} {s : State} {es : List Event}
    (h : ∀ e ∈ es, p e) : AllSteps step (fun e _ => p e) s es := by
  induction es generalizing s with
  | nil => trivial
  | cons e es ih =>
    exact ⟨h e List.mem_cons_self, ih fun f hf => h f (List.mem_cons_of_mem e hf)⟩

/-! ### Invariants -/

theorem run_preserves_allowed {P : State → Prop}
    (preserved : ∀ e s, ok e s → P s → P (step e s)) {s : State} {es : List Event}
    (allowed : AllSteps step ok s es) (h : P s) : P (run step s es) := by
  induction es generalizing s with
  | nil => exact h
  | cons e es ih => exact ih allowed.2 (preserved e s allowed.1 h)

theorem run_preserves {P : State → Prop} (preserved : ∀ e s, P s → P (step e s))
    {s : State} (h : P s) (es : List Event) : P (run step s es) := by
  have allowed : AllSteps step (fun _ _ => True) s es :=
    allSteps_of_forall (fun _ _ => trivial) s es
  exact run_preserves_allowed (fun e s _ => preserved e s) allowed h

/-- The invariant rule for histories: `R` relates the notes so far to the state. -/
theorem history_preserves_allowed {R : List Note → State → Prop}
    (preserved : ∀ past e s, ok e s → R past s → R (past ++ [note e s]) (step e s))
    {past : List Note} {s : State} {es : List Event} (allowed : AllSteps step ok s es)
    (h : R past s) : R (past ++ notes step note s es) (run step s es) := by
  induction es generalizing s past with
  | nil => simpa using h
  | cons e es ih =>
    have next := ih allowed.2 (preserved past e s allowed.1 h)
    simpa [List.append_assoc] using next

theorem history_invariant {R : List Note → State → Prop}
    (preserved : ∀ past e s, R past s → R (past ++ [note e s]) (step e s))
    {s : State} (h : R [] s) (es : List Event) :
    R (notes step note s es) (run step s es) := by
  have allowed : AllSteps step (fun _ _ => True) s es :=
    allSteps_of_forall (fun _ _ => trivial) s es
  simpa using history_preserves_allowed (fun past e s _ => preserved past e s) allowed h

/-- A note of the run was written at one of its steps. -/
theorem exists_step_of_mem_notes {s : State} {es : List Event} {n : Note}
    (h : n ∈ notes step note s es) :
    ∃ before e after, es = before ++ e :: after ∧ n = note e (run step s before) := by
  induction es generalizing s with
  | nil => cases h
  | cons e es ih =>
    rcases List.mem_cons.mp h with rfl | h
    · exact ⟨[], e, es, rfl, rfl⟩
    · obtain ⟨before, f, after, rfl, hn⟩ := ih h
      exact ⟨e :: before, f, after, rfl, hn⟩

/-- A split of the notes is a split of the run. -/
theorem split_of_notes_eq {s : State} {es : List Event} {past later : List Note} {n : Note}
    (h : notes step note s es = past ++ n :: later) :
    ∃ before e after, es = before ++ e :: after ∧ notes step note s before = past ∧
      note e (run step s before) = n ∧
      notes step note (run step s (before ++ [e])) after = later := by
  induction es generalizing s past with
  | nil => simp at h
  | cons e es ih =>
    cases past with
    | nil =>
      simp only [notes_cons, List.nil_append, List.cons.injEq] at h
      exact ⟨[], e, es, rfl, rfl, h.1, h.2⟩
    | cons first past =>
      simp only [notes_cons, List.cons_append, List.cons.injEq] at h
      obtain ⟨before, f, after, rfl, hpast, hn, hlater⟩ := ih h.2
      refine ⟨e :: before, f, after, rfl, ?_, hn, hlater⟩
      rw [notes_cons, h.1, hpast]

theorem notes_map {Note' : Type*} (f : Note → Note') (s : State) (es : List Event) :
    notes step (fun e s => f (note e s)) s es = (notes step note s es).map f := by
  induction es generalizing s with
  | nil => rfl
  | cons e es ih => simp only [notes_cons, List.map_cons, ih]

/-- The step a condition is asked of, at its place in the run. -/
theorem allSteps_at {s : State} {before after : List Event} {e : Event}
    (h : AllSteps step ok s (before ++ e :: after)) : ok e (run step s before) :=
  (allSteps_append.mp h).2.1

theorem allSteps_iff_at {s : State} {es : List Event} : AllSteps step ok s es ↔
    ∀ before e after, es = before ++ e :: after → ok e (run step s before) := by
  constructor
  · rintro h before e after rfl
    exact allSteps_at h
  · intro h
    induction es generalizing s with
    | nil => trivial
    | cons e es ih =>
      refine ⟨h [] e es rfl, ih fun before f after hes => ?_⟩
      exact h (e :: before) f after (by rw [hes, List.cons_append])

end Histories
