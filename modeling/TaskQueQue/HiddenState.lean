/-!
# Steps confined away from a part of the state

A part of a state can be read and replaced. A step is confined away from the part,
at this state, when replacing the part beforehand replaces it in the outcome and
changes nothing else, neither the reply nor the rest: such a step writes the part
nowhere, and its reply tells nothing of it. It also keeps some other view of the
state, on which the confinement of later steps may rest.

Confinement is asked of the states a run meets, not of all states; `serve_confined`
carries it along a run.
-/

namespace HiddenState

universe u v w x y

structure Part (S : Type u) (H : Type v) where
  get : S → H
  put : H → S → S
  get_put : ∀ h s, get (put h s) = h
  put_get : ∀ s, put (get s) s = s

section

variable {S : Type u} {H : Type v} {R : Type w} {E : Type x} {V : Type y}

structure Confined (part : Part S H) (kept : S → V) (f : S → R × S) (s : S) : Prop where
  blind : ∀ h, f (part.put h s) = ((f s).1, part.put h (f s).2)
  keeps : kept (f s).2 = kept s

theorem Confined.hidden {part : Part S H} {kept : S → V} {f : S → R × S} {s : S}
    (confined : Confined part kept f s) : part.get (f s).2 = part.get s := by
  have same := congrArg Prod.snd (confined.blind (part.get s))
  rw [part.put_get] at same
  rw [same, part.get_put]

theorem confined_reply {part : Part S H} {kept : S → V} (r : R) (s : S) :
    Confined part kept (fun s => (r, s)) s :=
  ⟨fun _ => rfl, rfl⟩

/-- A handler that may decline: whether it does tells nothing of the part either. -/
structure ConfinedHandler (part : Part S H) (kept : S → V) (f : S → Option (R × S)) (s : S) :
    Prop where
  blind : ∀ h, f (part.put h s) = (f s).map fun result => (result.1, part.put h result.2)
  keeps : ∀ result, f s = some result → kept result.2 = kept s

theorem ConfinedHandler.declines {part : Part S H} {kept : S → V} {f : S → Option (R × S)}
    (h : ∀ s, f s = none) (s : S) : ConfinedHandler part kept f s := by
  constructor
  · intro x
    rw [h, h, Option.map_none]
  · intro result hresult
    rw [h] at hresult
    cases hresult

theorem Confined.answers {part : Part S H} {kept : S → V} {f : S → Option (R × S)}
    {g : S → R × S} {s : S} (confined : Confined part kept g s) (h : ∀ s, f s = some (g s)) :
    ConfinedHandler part kept f s := by
  constructor
  · intro x
    rw [h, h, confined.blind, Option.map_some]
  · intro result hresult
    rw [h] at hresult
    cases hresult
    exact confined.keeps

/-- Trying one handler and then the rest. -/
theorem ConfinedHandler.getD {part : Part S H} {kept : S → V} {f : S → Option (R × S)}
    {g : S → R × S} {s : S} (first : ConfinedHandler part kept f s)
    (rest : f s = none → Confined part kept g s) :
    Confined part kept (fun s => (f s).getD (g s)) s := by
  cases hf : f s with
  | none =>
    have confined := rest hf
    constructor
    · intro h
      simp only [first.blind h, hf, Option.map_none, Option.getD_none, confined.blind h]
    · simp only [hf, Option.getD_none, confined.keeps]
  | some result =>
    constructor
    · intro h
      simp only [first.blind h, hf, Option.map_some, Option.getD_some]
    · simp only [hf, Option.getD_some, first.keeps result hf]

/-- The replies to a list of events, and the state they end in. -/
def serve (step : E → S → R × S) : List E → S → List R × S
  | [], s => ([], s)
  | event :: rest, s =>
    let result := step event s
    let served := serve step rest result.2
    (result.1 :: served.1, served.2)

theorem serve_concat (step : E → S → R × S) (events : List E) (event : E) (s : S) :
    (serve step (events ++ [event]) s).2 = (step event (serve step events s).2).2 := by
  induction events generalizing s with
  | nil => rfl
  | cons first rest ih =>
    rw [List.cons_append]
    exact ih _

theorem serve_confined {part : Part S H} {kept : S → V} {step : E → S → R × S} {v : V}
    {events : List E}
    (confined : ∀ event ∈ events, ∀ s, kept s = v → Confined part kept (step event) s) {s : S}
    (starts : kept s = v) : Confined part kept (serve step events) s := by
  induction events generalizing s with
  | nil => exact confined_reply [] s
  | cons event rest ih =>
    have first := confined event List.mem_cons_self s starts
    have tail := ih (fun e he => confined e (List.mem_cons_of_mem _ he))
      (first.keeps.trans starts)
    constructor
    · intro h
      simp only [serve, first.blind h, tail.blind h]
    · exact tail.keeps.trans first.keeps

end

end HiddenState
