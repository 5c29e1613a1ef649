import TaskQueQue.KeyedTable

/-!
# Bounded stores whose rows expire

A table with a primary key that holds at most so many rows, each with a time from
which it is gone. Every operation is told the time and purges first; what it may
do to the row of one key is said by the lemmas about `find?`.
-/

namespace ExpiringStores

open KeyedTable

universe u v

structure Store (Row : Type u) (Key : Type v) (key : Row → Key) (expiry : Row → Nat)
    (capacity : Nat) where
  table : Table Row Key key
  bounded : table.rows.length ≤ capacity

variable {Row : Type u} {Key : Type v} {key : Row → Key} {expiry : Row → Nat} {capacity : Nat}

/-- Tries so many candidates for one that is not taken; an invalid one ends the search. -/
def firstFree {α : Type v} (valid taken : α → Bool) (next : Nat → α) : Nat → Nat → Option α
  | 0, _ => none
  | attempts + 1, index =>
    if !valid (next index) then none
    else if !taken (next index) then some (next index)
    else firstFree valid taken next attempts (index + 1)

theorem firstFree_some {α : Type v} {valid taken : α → Bool} {next : Nat → α}
    {attempts index : Nat} {found : α} (h : firstFree valid taken next attempts index = some found) :
    valid found = true ∧ taken found = false := by
  induction attempts generalizing index with
  | zero => cases h
  | succ attempts ih =>
    rw [firstFree] at h
    split at h
    · cases h
    rename_i ok
    rw [Bool.not_eq_true', Bool.not_eq_false] at ok
    split at h
    · rename_i free
      cases h
      rw [Bool.not_eq_true'] at free
      exact ⟨ok, free⟩
    · exact ih h

namespace Store

def empty : Store Row Key key expiry capacity := ⟨Table.empty, Nat.zero_le _⟩

def size (s : Store Row Key key expiry capacity) : Nat := s.table.rows.length

/-- Rows are gone from their expiry on. -/
def purgeAt (s : Store Row Key key expiry capacity) (now : Nat) :
    Store Row Key key expiry capacity where
  table := s.table.delete fun row => decide (expiry row ≤ now)
  bounded := Nat.le_trans (List.length_filter_le _ _) s.bounded

def rewrite (s : Store Row Key key expiry capacity) (p : Row → Bool) (f : Row → Row)
    (keeps : ∀ row, key (f row) = key row) : Store Row Key key expiry capacity where
  table := s.table.update p f keeps
  bounded := by
    rw [Table.update, List.length_map]
    exact s.bounded

variable [DecidableEq Key]

def find? (s : Store Row Key key expiry capacity) (k : Key) : Option Row := s.table.find? k

def remove (s : Store Row Key key expiry capacity) (k : Key) :
    Store Row Key key expiry capacity where
  table := s.table.delete fun row => decide (key row = k)
  bounded := Nat.le_trans (List.length_filter_le _ _) s.bounded

/-- Fails when the store is full or the key is taken. -/
def insert? (s : Store Row Key key expiry capacity) (row : Row) :
    Option (Store Row Key key expiry capacity) :=
  if room : s.table.rows.length < capacity then
    match h : s.table.insert? row with
    | none => none
    | some table => some ⟨table, by
        rw [(Table.rows_of_insert? h).1, List.length_append]
        exact room⟩
  else none

/-! ### The row of one key -/

@[simp]
theorem find?_empty (k : Key) : (empty : Store Row Key key expiry capacity).find? k = none := rfl

theorem find?_purgeAt (s : Store Row Key key expiry capacity) (now : Nat) (k : Key) :
    (s.purgeAt now).find? k = (s.find? k).filter fun row => decide (now < expiry row) := by
  rw [find?, purgeAt, Table.find?_delete]
  congr 1
  funext row
  rw [← decide_not]
  exact decide_eq_decide.mpr Nat.not_le

/-- What is found after a purge was there and has not expired. -/
theorem find?_purgeAt_some {s : Store Row Key key expiry capacity} {now : Nat} {k : Key} {row : Row}
    (h : (s.purgeAt now).find? k = some row) : s.find? k = some row ∧ now < expiry row := by
  rw [find?_purgeAt, Option.filter_eq_some_iff, decide_eq_true_eq] at h
  exact h

theorem find?_remove (s : Store Row Key key expiry capacity) (k other : Key) :
    (s.remove k).find? other = if other = k then none else s.find? other := by
  rw [find?, remove, Table.find?_delete]
  cases found : s.table.find? other with
  | none => rw [Option.filter_none, find?, found, ite_self]
  | some row =>
    have named : key row = other := Table.key_of_find? found
    rw [find?, found]
    by_cases same : other = k
    · rw [if_pos same, Option.filter_eq_none_iff]
      intro row' h
      cases h
      rw [named, decide_eq_true same]
      decide
    · rw [if_neg same, Option.filter_eq_some_iff]
      refine ⟨rfl, ?_⟩
      rw [named, decide_eq_false same]
      rfl

theorem find?_rewrite (s : Store Row Key key expiry capacity) (p : Row → Bool) (f : Row → Row)
    (keeps : ∀ row, key (f row) = key row) (k : Key) :
    (s.rewrite p f keeps).find? k = (s.find? k).map fun row => if p row then f row else row :=
  Table.find?_update s.table p f keeps k

theorem find?_insert? {s s' : Store Row Key key expiry capacity} {row : Row}
    (h : s.insert? row = some s') (k : Key) :
    s'.find? k = if key row = k then some row else s.find? k := by
  rw [insert?] at h
  split at h
  · split at h
    · cases h
    · rename_i table inserted
      cases h
      exact Table.find?_of_insert? inserted k
  · cases h

theorem insert?_of_room {s : Store Row Key key expiry capacity} {row : Row}
    (room : s.size < capacity) (absent : s.find? (key row) = none) : ∃ s', s.insert? row = some s' := by
  obtain ⟨table, inserted⟩ := Table.insert?_of_absent absent
  rw [size] at room
  rw [insert?, dif_pos room]
  split
  · rename_i refused
    rw [inserted] at refused
    cases refused
  · exact ⟨_, rfl⟩

end Store

end ExpiringStores
