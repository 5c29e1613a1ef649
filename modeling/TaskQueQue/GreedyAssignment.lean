import Mathlib.Data.Finset.Card
import Mathlib.Data.Finset.Filter
import Mathlib.Logic.Function.Basic
import Mathlib.Algebra.BigOperators.Group.Finset.Basic

/-!
# Greedy assignment under capacities

Items are put into bins, each item into at most one bin and each bin up to its
capacity. Two passes are described. The first walks a list of candidate pairs
and takes a pair when its item is free and its bin has room; the second walks
the items left over and asks a chooser for a bin. Whatever order the candidates
come in and whatever the chooser prefers, loads and remaining room add up to the
capacities, and only allowed pairs are taken.
-/

namespace GreedyAssignment

variable {Item Bin : Type*}

structure State (Item Bin : Type*) where
  assignment : Item → Option Bin
  remaining : Bin → Nat

def start (capacity : Bin → Nat) : State Item Bin := ⟨fun _ => none, capacity⟩

variable [DecidableEq Bin]

def load (items : Finset Item) (s : State Item Bin) (j : Bin) : Nat :=
  (items.filter fun i => s.assignment i = some j).card

/-- Room and load account for the capacity of every bin, and only allowed pairs
of known items are assigned. -/
structure Valid (items : Finset Item) (capacity : Bin → Nat) (allowed : Item → Bin → Prop)
    (s : State Item Bin) : Prop where
  account : ∀ j, load items s j + s.remaining j = capacity j
  sound : ∀ i j, s.assignment i = some j → i ∈ items ∧ allowed i j

variable {items : Finset Item} {capacity : Bin → Nat} {allowed : Item → Bin → Prop}

theorem start_valid : Valid items capacity allowed (start capacity) := by
  constructor
  · intro j
    simp [load, start]
  · intro i j h
    cases h

/-- No bin ends above its capacity. -/
theorem load_le_capacity {s : State Item Bin} (h : Valid items capacity allowed s) (j : Bin) :
    load items s j ≤ capacity j := by
  have := h.account j
  omega

variable [DecidableEq Item]

def place (s : State Item Bin) (i : Item) (j : Bin) : State Item Bin where
  assignment := Function.update s.assignment i (some j)
  remaining := Function.update s.remaining j (s.remaining j - 1)

/-- Take a candidate pair when its item is free and its bin has room. -/
def offer (s : State Item Bin) (c : Item × Bin) : State Item Bin :=
  if s.assignment c.1 = none ∧ 0 < s.remaining c.2 then place s c.1 c.2 else s

def greedy (s : State Item Bin) (candidates : List (Item × Bin)) : State Item Bin :=
  candidates.foldl offer s

/-- Put each item of the list into the bin the chooser names, if it names one. -/
def fill (choose : State Item Bin → Item → Option Bin) :
    State Item Bin → List Item → State Item Bin
  | s, [] => s
  | s, i :: rest =>
    fill choose (match choose s i with
      | some j => place s i j
      | none => s) rest

theorem load_place {s : State Item Bin} {i : Item} {j : Bin} (hi : i ∈ items)
    (free : s.assignment i = none) (k : Bin) :
    load items (place s i j) k = load items s k + if j = k then 1 else 0 := by
  by_cases hk : j = k
  · subst hk
    have taken : (items.filter fun x => (place s i j).assignment x = some j) =
        insert i (items.filter fun x => s.assignment x = some j) := by
      ext x
      rw [Finset.mem_insert, Finset.mem_filter, Finset.mem_filter]
      by_cases hx : x = i
      · subst hx
        simp [place, hi]
      · simp [place, hx]
    have absent : i ∉ items.filter fun x => s.assignment x = some j := by
      simp [free]
    rw [load, taken, Finset.card_insert_of_notMem absent, if_pos rfl]
    rfl
  · have same : (items.filter fun x => (place s i j).assignment x = some k) =
        items.filter fun x => s.assignment x = some k := by
      ext x
      rw [Finset.mem_filter, Finset.mem_filter]
      by_cases hx : x = i
      · subst hx
        simp [place, free, hk]
      · simp [place, hx]
    rw [load, same, if_neg hk]
    rfl

theorem place_valid {s : State Item Bin} (h : Valid items capacity allowed s) {i : Item} {j : Bin}
    (hi : i ∈ items) (free : s.assignment i = none) (room : 0 < s.remaining j)
    (ok : allowed i j) : Valid items capacity allowed (place s i j) := by
  constructor
  · intro k
    have account := h.account k
    rw [load_place hi free]
    by_cases hk : j = k
    · subst hk
      simp only [place, Function.update_self, if_true]
      omega
    · simp only [place, Function.update_of_ne (Ne.symm hk), if_neg hk]
      omega
  · intro x k hx
    by_cases hxi : x = i
    · subst hxi
      simp only [place, Function.update_self, Option.some.injEq] at hx
      exact ⟨hi, hx ▸ ok⟩
    · simp only [place, Function.update_of_ne hxi] at hx
      exact h.sound x k hx

theorem greedy_valid {s : State Item Bin} (h : Valid items capacity allowed s)
    {candidates : List (Item × Bin)} (ok : ∀ c ∈ candidates, c.1 ∈ items ∧ allowed c.1 c.2) :
    Valid items capacity allowed (greedy s candidates) := by
  induction candidates generalizing s with
  | nil => exact h
  | cons c rest ih =>
    obtain ⟨hitem, hallowed⟩ := ok c List.mem_cons_self
    refine ih ?_ fun d hd => ok d (List.mem_cons_of_mem c hd)
    unfold offer
    split
    · rename_i guard
      exact place_valid h hitem guard.1 guard.2 hallowed
    · exact h

theorem fill_valid {choose : State Item Bin → Item → Option Bin}
    (chosen : ∀ s i j, choose s i = some j → 0 < s.remaining j ∧ allowed i j)
    {s : State Item Bin} (h : Valid items capacity allowed s) {rest : List Item}
    (distinct : rest.Nodup) (free : ∀ i ∈ rest, i ∈ items ∧ s.assignment i = none) :
    Valid items capacity allowed (fill choose s rest) := by
  induction rest generalizing s with
  | nil => exact h
  | cons i rest ih =>
    obtain ⟨hi, hfree⟩ := free i List.mem_cons_self
    obtain ⟨fresh, distinct⟩ := List.nodup_cons.mp distinct
    have later : ∀ x ∈ rest, x ∈ items ∧ s.assignment x = none := fun x hx =>
      free x (List.mem_cons_of_mem i hx)
    cases hc : choose s i with
    | none =>
      simp only [fill, hc]
      exact ih h distinct later
    | some j =>
      obtain ⟨room, ok⟩ := chosen s i j hc
      simp only [fill, hc]
      refine ih (place_valid h hi hfree room ok) distinct fun x hx => ?_
      have hne : x ≠ i := fun e => fresh (e ▸ hx)
      simpa [place, Function.update_of_ne hne] using later x hx

/-! ### When every item finds a bin -/

/-- A chooser that leaves assigned items alone may be asked about any items. -/
theorem fill_valid_of_free {choose : State Item Bin → Item → Option Bin}
    (chosen : ∀ s i j, choose s i = some j →
      s.assignment i = none ∧ 0 < s.remaining j ∧ allowed i j)
    {s : State Item Bin} (h : Valid items capacity allowed s) {rest : List Item}
    (known : ∀ i ∈ rest, i ∈ items) : Valid items capacity allowed (fill choose s rest) := by
  induction rest generalizing s with
  | nil => exact h
  | cons i rest ih =>
    have later : ∀ x ∈ rest, x ∈ items := fun x hx => known x (List.mem_cons_of_mem i hx)
    cases hc : choose s i with
    | none =>
      simp only [fill, hc]
      exact ih h later
    | some j =>
      obtain ⟨free, room, ok⟩ := chosen s i j hc
      simp only [fill, hc]
      exact ih (place_valid h (known i List.mem_cons_self) free room ok) later

theorem fill_keeps {choose : State Item Bin → Item → Option Bin} {s : State Item Bin} {i : Item}
    (held : (s.assignment i).isSome) (rest : List Item) :
    ((fill choose s rest).assignment i).isSome := by
  induction rest generalizing s with
  | nil => exact held
  | cons x rest ih =>
    cases hc : choose s x with
    | none =>
      simp only [fill, hc]
      exact ih held
    | some j =>
      simp only [fill, hc]
      apply ih
      by_cases same : i = x
      · simp [place, same]
      · simpa [place, Function.update_of_ne same] using held

omit [DecidableEq Item] in
/-- The loads count the items that are in bins. -/
theorem sum_load {s : State Item Bin} {bins : Finset Bin}
    (inside : ∀ i j, s.assignment i = some j → j ∈ bins) :
    ∑ j ∈ bins, load items s j = (items.filter fun i => (s.assignment i).isSome).card := by
  have image : ∀ i ∈ items.filter fun i => (s.assignment i).isSome,
      s.assignment i ∈ bins.image some := by
    intro i hi
    obtain ⟨j, hj⟩ := Option.isSome_iff_exists.mp (Finset.mem_filter.mp hi).2
    rw [hj]
    exact Finset.mem_image_of_mem some (inside i j hj)
  rw [Finset.card_eq_sum_card_fiberwise image, Finset.sum_image (fun _ _ _ _ h => Option.some.inj h)]
  apply Finset.sum_congr rfl
  intro j _
  rw [load, Finset.filter_filter]
  congr 1
  apply Finset.filter_congr
  intro i _
  constructor
  · intro h
    exact ⟨by rw [h]; rfl, h⟩
  · exact fun h => h.2

omit [DecidableEq Item] in
/-- While an item is free and the bins have capacity for all, some bin has room. -/
theorem room_left {s : State Item Bin} (h : Valid items capacity allowed s) {bins : Finset Bin}
    (inside : ∀ i j, allowed i j → j ∈ bins) (fits : items.card ≤ ∑ j ∈ bins, capacity j) {i : Item}
    (known : i ∈ items) (free : s.assignment i = none) : ∃ j ∈ bins, 0 < s.remaining j := by
  by_contra full
  have each : ∀ j ∈ bins, load items s j = capacity j := by
    intro j hj
    have account := h.account j
    have empty : s.remaining j = 0 := by
      by_contra room
      exact full ⟨j, hj, Nat.pos_of_ne_zero room⟩
    omega
  have assigned : ∑ j ∈ bins, load items s j =
      (items.filter fun i => (s.assignment i).isSome).card :=
    sum_load fun i j hij => inside i j (h.sound i j hij).2
  have total : ∑ j ∈ bins, load items s j = ∑ j ∈ bins, capacity j := Finset.sum_congr rfl each
  have fewer : (items.filter fun i => (s.assignment i).isSome).card < items.card := by
    apply Finset.card_lt_card
    refine Finset.filter_ssubset.mpr ⟨i, known, ?_⟩
    rw [free]
    exact Bool.false_ne_true
  omega

/-- If the chooser names a bin whenever one has room, and the bins have capacity for all
items, the second pass leaves no item over. -/
theorem fill_complete {choose : State Item Bin → Item → Option Bin}
    (chosen : ∀ s i j, choose s i = some j →
      s.assignment i = none ∧ 0 < s.remaining j ∧ allowed i j)
    (bins : Finset Bin)
    (answers : ∀ s i, s.assignment i = none → (∃ j ∈ bins, 0 < s.remaining j) →
      (choose s i).isSome)
    (inside : ∀ i j, allowed i j → j ∈ bins) (fits : items.card ≤ ∑ j ∈ bins, capacity j)
    {s : State Item Bin} (h : Valid items capacity allowed s) {rest : List Item}
    (known : ∀ i ∈ rest, i ∈ items) : ∀ i ∈ rest, ((fill choose s rest).assignment i).isSome := by
  induction rest generalizing s with
  | nil => exact fun i hi => absurd hi List.not_mem_nil
  | cons x rest ih =>
    have later : ∀ y ∈ rest, y ∈ items := fun y hy => known y (List.mem_cons_of_mem x hy)
    have here := known x List.mem_cons_self
    cases hc : choose s x with
    | none =>
      have held : (s.assignment x).isSome := by
        by_contra free
        rw [Option.not_isSome_iff_eq_none] at free
        have answer := answers s x free (room_left h inside fits here free)
        rw [hc] at answer
        cases answer
      simp only [fill, hc]
      intro i hi
      rcases List.mem_cons.mp hi with rfl | hi
      · exact fill_keeps held rest
      · exact ih h later i hi
    | some j =>
      obtain ⟨free, room, ok⟩ := chosen s x j hc
      simp only [fill, hc]
      intro i hi
      rcases List.mem_cons.mp hi with rfl | hi
      · apply fill_keeps
        simp [place]
      · exact ih (place_valid h here free room ok) later i hi

/-! ### What is left over -/

/-- An item keeps its bin and room only shrinks. -/
structure Grows (s s' : State Item Bin) : Prop where
  keeps : ∀ i j, s.assignment i = some j → s'.assignment i = some j
  shrinks : ∀ j, s'.remaining j ≤ s.remaining j

omit [DecidableEq Item] [DecidableEq Bin] in
theorem Grows.refl (s : State Item Bin) : Grows s s := ⟨fun _ _ h => h, fun _ => le_refl _⟩

omit [DecidableEq Item] [DecidableEq Bin] in
theorem Grows.trans {s t u : State Item Bin} (st : Grows s t) (tu : Grows t u) : Grows s u :=
  ⟨fun i j h => tu.keeps i j (st.keeps i j h), fun j => (tu.shrinks j).trans (st.shrinks j)⟩

theorem place_grows {s : State Item Bin} {i : Item} (free : s.assignment i = none) (j : Bin) :
    Grows s (place s i j) := by
  constructor
  · intro x k held
    have other : x ≠ i := by
      rintro rfl
      rw [free] at held
      cases held
    simpa [place, Function.update_of_ne other] using held
  · intro k
    by_cases same : k = j
    · simp [place, same]
    · simp [place, Function.update_of_ne same]

theorem offer_grows (s : State Item Bin) (c : Item × Bin) : Grows s (offer s c) := by
  unfold offer
  split
  · rename_i guard
    exact place_grows guard.1 c.2
  · exact .refl s

theorem greedy_grows (s : State Item Bin) (candidates : List (Item × Bin)) :
    Grows s (greedy s candidates) := by
  induction candidates generalizing s with
  | nil => exact .refl s
  | cons c rest ih => exact (offer_grows s c).trans (ih (offer s c))

/-- The first pass leaves a candidate's item free only if its bin is full. -/
theorem greedy_maximal (s : State Item Bin) {candidates : List (Item × Bin)} {c : Item × Bin}
    (mem : c ∈ candidates) (free : (greedy s candidates).assignment c.1 = none) :
    (greedy s candidates).remaining c.2 = 0 := by
  induction candidates generalizing s with
  | nil => exact absurd mem List.not_mem_nil
  | cons d rest ih =>
    rcases List.mem_cons.mp mem with rfl | later
    · have grows := greedy_grows (offer s c) rest
      change (greedy (offer s c) rest).assignment c.1 = none at free
      change (greedy (offer s c) rest).remaining c.2 = 0
      by_cases guard : s.assignment c.1 = none ∧ 0 < s.remaining c.2
      · have taken : (offer s c).assignment c.1 = some c.2 := by
          rw [offer, if_pos guard]
          exact Function.update_self _ _ _
        rw [grows.keeps _ _ taken] at free
        cases free
      · have before : s.assignment c.1 = none := by
          cases held : s.assignment c.1 with
          | none => rfl
          | some j =>
            rw [grows.keeps _ _ ((offer_grows s c).keeps _ _ held)] at free
            cases free
        have full : ¬ 0 < s.remaining c.2 := fun room => guard ⟨before, room⟩
        have still := (grows.shrinks c.2).trans ((offer_grows s c).shrinks c.2)
        omega
    · exact ih (offer s d) later free

/-- Candidates that together fit are all taken. -/
theorem greedy_takes {goal : Item → Option Bin} {candidates : List (Item × Bin)}
    (known : ∀ i j, (i, j) ∈ candidates ↔ i ∈ items ∧ goal i = some j)
    (fits : ∀ j, (items.filter fun i => goal i = some j).card ≤ capacity j) {i : Item} {j : Bin}
    (mem : (i, j) ∈ candidates) :
    (greedy (start capacity) candidates).assignment i = some j := by
  have valid : Valid items capacity (fun i j => goal i = some j)
      (greedy (start capacity) candidates) := by
    refine greedy_valid start_valid ?_
    rintro ⟨i, j⟩ mem
    exact (known i j).mp mem
  obtain ⟨here, aim⟩ := (known i j).mp mem
  cases taken : (greedy (start capacity) candidates).assignment i with
  | some k =>
    have same := (valid.sound i k taken).2
    rw [aim] at same
    exact same.symm
  | none =>
    -- its bin is full of items that aim at it, and this one is not among them
    have full := greedy_maximal (start capacity) mem taken
    have account := valid.account j
    have fewer : load items (greedy (start capacity) candidates) j <
        (items.filter fun i => goal i = some j).card := by
      apply Finset.card_lt_card
      rw [Finset.ssubset_iff_of_subset]
      · refine ⟨i, Finset.mem_filter.mpr ⟨here, aim⟩, ?_⟩
        rw [Finset.mem_filter, taken]
        simp
      · intro x hx
        obtain ⟨mem, held⟩ := Finset.mem_filter.mp hx
        exact Finset.mem_filter.mpr ⟨mem, (valid.sound x j held).2⟩
    have bound := fits j
    dsimp only at full
    omega

theorem fill_other {choose : State Item Bin → Item → Option Bin} {s : State Item Bin} {i : Item}
    {rest : List Item} (other : i ∉ rest) :
    (fill choose s rest).assignment i = s.assignment i := by
  induction rest generalizing s with
  | nil => rfl
  | cons x rest ih =>
    obtain ⟨apart, later⟩ := not_or.mp (List.mem_cons.not.mp other)
    cases hc : choose s x with
    | none =>
      simp only [fill, hc]
      exact ih later
    | some j =>
      simp only [fill, hc]
      rw [ih later]
      simp [place, Function.update_of_ne apart]

theorem fill_shrinks (choose : State Item Bin → Item → Option Bin) (s : State Item Bin)
    (rest : List Item) (j : Bin) : (fill choose s rest).remaining j ≤ s.remaining j := by
  induction rest generalizing s with
  | nil => exact le_refl _
  | cons x rest ih =>
    cases hc : choose s x with
    | none =>
      simp only [fill, hc]
      exact ih s
    | some k =>
      simp only [fill, hc]
      refine (ih (place s x k)).trans ?_
      by_cases same : j = k
      · simp [place, same]
      · simp [place, Function.update_of_ne same]

/-- The second pass leaves an item over only if every bin its chooser would name is full. -/
theorem fill_maximal {choose : State Item Bin → Item → Option Bin}
    (answers : ∀ s i j, allowed i j → 0 < s.remaining j → (choose s i).isSome)
    {s : State Item Bin} {rest : List Item} (distinct : rest.Nodup) {i : Item} {j : Bin}
    (mem : i ∈ rest) (ok : allowed i j) (left_out : (fill choose s rest).assignment i = none) :
    (fill choose s rest).remaining j = 0 := by
  induction rest generalizing s with
  | nil => exact absurd mem List.not_mem_nil
  | cons x rest ih =>
    obtain ⟨fresh, distinct⟩ := List.nodup_cons.mp distinct
    cases hc : choose s x with
    | none =>
      simp only [fill, hc] at left_out ⊢
      rcases List.mem_cons.mp mem with rfl | later
      · by_contra room
        have before := fill_shrinks choose s rest j
        have answer := answers s i j ok (by omega)
        rw [hc] at answer
        cases answer
      · exact ih distinct later left_out
    | some k =>
      simp only [fill, hc] at left_out ⊢
      rcases List.mem_cons.mp mem with rfl | later
      · rw [fill_other fresh] at left_out
        simp [place] at left_out
      · exact ih distinct later left_out

end GreedyAssignment
