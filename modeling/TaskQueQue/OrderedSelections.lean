import Mathlib.Data.List.Sort

/-!
# Ordered and limited selections

The first rows of a list in some order. A row is among the first `n` exactly when
fewer than `n` rows come before it, so what is selected depends on the set of rows
and the order, and not on how the rows are sorted.
-/

namespace OrderedSelections

universe u
variable {Row : Type u}

/-- The order tells the rows of the list apart. -/
structure Orders (before : Row → Row → Prop) (rows : List Row) : Prop where
  total : ∀ a b, before a b ∨ before b a
  trans : ∀ a b c, before a b → before b c → before a c
  antisymm : ∀ a ∈ rows, ∀ b ∈ rows, before a b → before b a → a = b
  nodup : rows.Nodup

/-- Strictly before. -/
def Precedes (before : Row → Row → Prop) (a b : Row) : Prop := before a b ∧ ¬ before b a

instance (before : Row → Row → Prop) [DecidableRel before] : DecidableRel (Precedes before) :=
  fun a b => inferInstanceAs (Decidable (before a b ∧ ¬ before b a))

section Orders
variable {before : Row → Row → Prop} {rows rows' : List Row}

theorem Orders.perm (h : Orders before rows) (perm : rows'.Perm rows) : Orders before rows' where
  total := h.total
  trans := h.trans
  antisymm := fun a ha b hb => h.antisymm a (perm.mem_iff.mp ha) b (perm.mem_iff.mp hb)
  nodup := perm.nodup_iff.mpr h.nodup

theorem Orders.refl (h : Orders before rows) (a : Row) : before a a := (h.total a a).elim id id

end Orders

variable (before : Row → Row → Prop) [DecidableRel before]

def firstRows (rows : List Row) (n : Nat) : List Row := (rows.insertionSort before).take n

/-- How many rows come before this one. -/
def rank (rows : List Row) (a : Row) : Nat := rows.countP fun b => decide (Precedes before b a)

/-- How many rows come after it. -/
def rankAfter (rows : List Row) (a : Row) : Nat :=
  rows.countP fun b => decide (Precedes before a b)

variable {before}

theorem sorted_precedes {rows : List Row} (h : Orders before rows) :
    (rows.insertionSort before).Pairwise (Precedes before) := by
  have : Std.Total before := ⟨h.total⟩
  have : IsTrans Row before := ⟨h.trans⟩
  have sorted := List.pairwise_insertionSort before rows
  have ordered := h.perm (List.perm_insertionSort before rows)
  refine (List.Pairwise.and sorted ordered.nodup).imp_of_mem ?_
  intro a b ha hb both
  exact ⟨both.1, fun back => both.2 (ordered.antisymm a ha b hb both.1 back)⟩

/-- In a list that is in order, a row's rank is its index. -/
theorem rank_getElem {rows : List Row} (sorted : rows.Pairwise (Precedes before)) {i : Nat}
    (inside : i < rows.length) : rank before rows rows[i] = i := by
  induction rows generalizing i with
  | nil => exact absurd inside (Nat.not_lt_zero i)
  | cons first rest ih =>
    obtain ⟨ahead, sorted⟩ := List.pairwise_cons.mp sorted
    rw [rank, List.countP_cons]
    cases i with
    | zero =>
      have none_before : rest.countP (fun b => decide (Precedes before b first)) = 0 := by
        apply List.countP_eq_zero.mpr
        intro b mem back
        exact (of_decide_eq_true back).2 (ahead b mem).1
      have self : ¬ Precedes before first first := fun own => own.2 own.1
      rw [List.getElem_cons_zero, none_before, decide_eq_false self]
      rfl
    | succ i =>
      have here : i < rest.length := Nat.lt_of_succ_lt_succ inside
      have one : Precedes before first rest[i] := ahead _ (List.getElem_mem here)
      have others := ih sorted here
      rw [rank] at others
      rw [List.getElem_cons_succ, others, decide_eq_true one]
      rfl

theorem mem_firstRows_iff {rows : List Row} (h : Orders before rows) {n : Nat} {a : Row} :
    a ∈ firstRows before rows n ↔ a ∈ rows ∧ rank before rows a < n := by
  have sorted := sorted_precedes h
  have same : rank before rows a = rank before (rows.insertionSort before) a :=
    ((List.perm_insertionSort before rows).countP_eq _).symm
  rw [same, firstRows]
  constructor
  · intro mem
    obtain ⟨i, inside, rfl⟩ := List.mem_iff_getElem.mp mem
    rw [List.length_take, Nat.lt_min] at inside
    rw [List.getElem_take, rank_getElem sorted inside.2]
    exact ⟨(List.mem_insertionSort before).mp (List.getElem_mem inside.2), inside.1⟩
  · rintro ⟨mem, first⟩
    obtain ⟨i, inside, rfl⟩ := List.mem_iff_getElem.mp ((List.mem_insertionSort before).mpr mem)
    rw [rank_getElem sorted inside] at first
    exact List.mem_take_iff_getElem.mpr ⟨i, by omega, rfl⟩

theorem firstRows_nodup {rows : List Row} (nodup : rows.Nodup) (n : Nat) :
    (firstRows before rows n).Nodup :=
  ((List.perm_insertionSort before rows).nodup_iff.mpr nodup).sublist (List.take_sublist _ _)

theorem length_firstRows (rows : List Row) (n : Nat) :
    (firstRows before rows n).length = min n rows.length := by
  rw [firstRows, List.length_take, List.length_insertionSort]

/-- Only a row itself is neither strictly before it nor strictly after it. -/
theorem ties_eq_one {rows : List Row} (h : Orders before rows) {a : Row} (mem : a ∈ rows) :
    rows.countP (fun b => decide (before a b ∧ before b a)) = 1 := by
  classical
  rw [← List.count_eq_one_of_mem h.nodup mem, List.count]
  apply List.countP_congr
  intro b hb
  rw [decide_eq_true_eq, beq_iff_eq]
  constructor
  · rintro ⟨ab, ba⟩
    exact h.antisymm b hb a mem ba ab
  · rintro rfl
    exact ⟨h.refl b, h.refl b⟩

theorem rank_add_rankAfter {rows : List Row} (h : Orders before rows) {a : Row} (mem : a ∈ rows) :
    rank before rows a + rankAfter before rows a + 1 = rows.length := by
  have split : ∀ rest : List Row, rank before rest a + rankAfter before rest a +
      rest.countP (fun b => decide (before a b ∧ before b a)) = rest.length := by
    intro rest
    induction rest with
    | nil => rfl
    | cons b rest ih =>
      have one : (if decide (Precedes before b a) = true then 1 else 0) +
          (if decide (Precedes before a b) = true then 1 else 0) +
          (if decide (before a b ∧ before b a) = true then 1 else 0) = 1 := by
        rcases h.total a b with ab | ba
        · by_cases ba : before b a <;> simp [Precedes, ab, ba]
        · by_cases ab : before a b <;> simp [Precedes, ab, ba]
      rw [rank, rankAfter] at ih ⊢
      rw [List.countP_cons, List.countP_cons, List.countP_cons, List.length_cons]
      omega
  rw [← split rows, ties_eq_one h mem]

/-- The rows past the first `n` are those with fewer rows after them than are left. -/
theorem mem_firstRows_iff_after {rows : List Row} (h : Orders before rows) {n : Nat} {a : Row}
    (mem : a ∈ rows) :
    a ∈ firstRows before rows n ↔ rows.length ≤ rankAfter before rows a + n := by
  have split := rank_add_rankAfter h mem
  rw [mem_firstRows_iff h]
  constructor
  · rintro ⟨_, first⟩
    omega
  · intro last
    exact ⟨mem, by omega⟩

end OrderedSelections
