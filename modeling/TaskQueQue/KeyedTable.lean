import Mathlib.Data.List.Nodup
import Mathlib.Data.List.Perm.Subperm
import Mathlib.Logic.Basic

/-!
# Tables with a primary key

A table is a list of rows in insertion order together with the proof that no
two rows share their key, so a table violating its primary key cannot be built.
The operations are those a small SQL program uses: point lookup, insertion that
reports a key conflict, update and deletion of the rows a condition selects, and
counting them.

Every operation is described by what it does to `find?`. A program that touches
rows only through these operations is reasoned about one key at a time.
-/

namespace KeyedTable

universe u v

structure Table (Row : Type u) (Key : Type v) (key : Row → Key) where
  rows : List Row
  unique : (rows.map key).Nodup

variable {Row : Type u} {Key : Type v} {key : Row → Key}

namespace Table

@[ext]
theorem ext {s t : Table Row Key key} (h : s.rows = t.rows) : s = t := by
  cases s
  cases t
  cases h
  rfl

instance [DecidableEq Row] : DecidableEq (Table Row Key key) := fun s t =>
  decidable_of_iff (s.rows = t.rows) ⟨ext, fun h => congrArg rows h⟩

def empty : Table Row Key key := ⟨[], List.nodup_nil⟩

/-- The rows a condition selects, in insertion order. -/
def select (t : Table Row Key key) (p : Row → Bool) : List Row := t.rows.filter p

def count (t : Table Row Key key) (p : Row → Bool) : Nat := t.rows.countP p

def update (t : Table Row Key key) (p : Row → Bool) (f : Row → Row)
    (keeps : ∀ r, key (f r) = key r) : Table Row Key key where
  rows := t.rows.map fun r => if p r then f r else r
  unique := by
    have same : (t.rows.map fun r => if p r then f r else r).map key = t.rows.map key := by
      rw [List.map_map]
      apply List.map_congr_left
      intro r _
      by_cases hp : p r <;> simp [hp, keeps]
    rw [same]
    exact t.unique

def delete (t : Table Row Key key) (p : Row → Bool) : Table Row Key key where
  rows := t.rows.filter fun r => !p r
  unique := t.unique.sublist (List.filter_sublist.map key)

/-- Two rows of one key are one row. -/
theorem eq_of_key_eq {t : Table Row Key key} {r s : Row} (hr : r ∈ t.rows) (hs : s ∈ t.rows)
    (h : key r = key s) : r = s :=
  List.inj_on_of_nodup_map t.unique hr hs h

theorem update_eq_self {t : Table Row Key key} {p : Row → Bool} {f : Row → Row}
    {keeps : ∀ r, key (f r) = key r} (h : ∀ r ∈ t.rows, p r = false) :
    t.update p f keeps = t := by
  apply ext
  have each : ∀ r ∈ t.rows, (if p r then f r else r) = r := by
    intro r hr
    simp [h r hr]
  calc t.rows.map (fun r => if p r then f r else r)
      = t.rows.map id := List.map_congr_left each
    _ = t.rows := List.map_id _

/-- A condition counts what two conditions that share no row count between them. -/
theorem count_split {t : Table Row Key key} {p q r : Row → Bool}
    (split : ∀ row ∈ t.rows,
      (if p row then 1 else 0) + (if q row then 1 else 0) = if r row then 1 else 0) :
    t.count p + t.count q = t.count r := by
  unfold count
  revert split
  induction t.rows with
  | nil => exact fun _ => rfl
  | cons row rest ih =>
    intro split
    have here := split row List.mem_cons_self
    have later := ih fun other mem => split other (List.mem_cons_of_mem row mem)
    rw [List.countP_cons, List.countP_cons, List.countP_cons]
    omega

/-- An update of other rows does not show in a selection. -/
theorem select_update_of_disjoint (t : Table Row Key key) {p q : Row → Bool} {f : Row → Row}
    {keeps : ∀ r, key (f r) = key r} (other : ∀ r, q r = true → p r = false ∧ p (f r) = false) :
    (t.update q f keeps).select p = t.select p := by
  unfold select update
  dsimp only
  induction t.rows with
  | nil => rfl
  | cons r rest ih =>
    rw [List.map_cons]
    by_cases hq : q r = true
    · obtain ⟨before, after⟩ := other r hq
      rw [if_pos hq, List.filter_cons_of_neg (by simp [after]),
        List.filter_cons_of_neg (by simp [before]), ih]
    · rw [if_neg hq]
      by_cases hp : p r = true
      · rw [List.filter_cons_of_pos hp, List.filter_cons_of_pos hp, ih]
      · rw [List.filter_cons_of_neg hp, List.filter_cons_of_neg hp, ih]

theorem update_eq_self_of_count {t : Table Row Key key} {p : Row → Bool} {f : Row → Row}
    {keeps : ∀ r, key (f r) = key r} (h : t.count p = 0) : t.update p f keeps = t := by
  apply update_eq_self
  intro r hr
  simpa using List.countP_eq_zero.mp h r hr

variable [DecidableEq Key]

def find? (t : Table Row Key key) (k : Key) : Option Row :=
  t.rows.find? fun r => decide (key r = k)

/-- Insertion fails when the key is taken: the primary-key constraint. -/
def insert? (t : Table Row Key key) (r : Row) : Option (Table Row Key key) :=
  if h : key r ∈ t.rows.map key then none
  else some ⟨t.rows ++ [r], by
    rw [List.map_append, List.map_singleton]
    exact List.nodup_append.mpr ⟨t.unique, List.nodup_singleton _, by
      intro a ha b hb hab
      rw [List.mem_singleton] at hb
      exact h (hb ▸ hab ▸ ha)⟩⟩

/-- `INSERT … ON CONFLICT(key) DO UPDATE`: the row is inserted, or the row
holding its key is rewritten by `f`. -/
def upsert (t : Table Row Key key) (r : Row) (f : Row → Row)
    (keeps : ∀ x, key (f x) = key x) : Table Row Key key :=
  match t.insert? r with
  | some t' => t'
  | none => t.update (fun x => decide (key x = key r)) f keeps

/-! ### Point lookup -/

theorem key_of_find? {t : Table Row Key key} {k : Key} {r : Row} (h : t.find? k = some r) :
    key r = k := by
  simpa using List.find?_some h

theorem mem_of_find? {t : Table Row Key key} {k : Key} {r : Row} (h : t.find? k = some r) :
    r ∈ t.rows :=
  List.mem_of_find?_eq_some h

theorem find?_of_mem {t : Table Row Key key} {r : Row} (h : r ∈ t.rows) :
    t.find? (key r) = some r := by
  cases hf : t.find? (key r) with
  | none =>
    have absent := List.find?_eq_none.mp hf r h
    simp at absent
  | some s =>
    rw [eq_of_key_eq (mem_of_find? hf) h (key_of_find? hf)]

theorem find?_eq_some_iff {t : Table Row Key key} {k : Key} {r : Row} :
    t.find? k = some r ↔ r ∈ t.rows ∧ key r = k := by
  constructor
  · intro h
    exact ⟨mem_of_find? h, key_of_find? h⟩
  · rintro ⟨hr, rfl⟩
    exact find?_of_mem hr

theorem find?_eq_none_iff {t : Table Row Key key} {k : Key} :
    t.find? k = none ↔ k ∉ t.rows.map key := by
  simp [find?, List.find?_eq_none]

@[simp] theorem find?_empty (k : Key) : (empty : Table Row Key key).find? k = none := rfl

theorem find?_isSome_iff {t : Table Row Key key} {k : Key} :
    (t.find? k).isSome ↔ k ∈ t.rows.map key := by
  rw [← not_iff_not, Bool.not_eq_true, Option.isSome_eq_false_iff, Option.isNone_iff_eq_none,
    find?_eq_none_iff]

/-! ### Updates -/

@[simp]
theorem find?_update (t : Table Row Key key) (p : Row → Bool) (f : Row → Row)
    (keeps : ∀ r, key (f r) = key r) (k : Key) :
    (t.update p f keeps).find? k = (t.find? k).map fun r => if p r then f r else r := by
  have same : (fun r => decide (key r = k)) ∘ (fun r => if p r then f r else r) =
      fun r => decide (key r = k) := by
    funext r
    by_cases hp : p r <;> simp [hp, keeps]
  simp only [find?, update, List.find?_map, same]

/-- A condition that names the key selects the one row of that key, if any. -/
theorem count_key (t : Table Row Key key) {p : Row → Bool} {k : Key}
    (hp : ∀ r, p r = true → key r = k) :
    t.count p = if (t.find? k).any p then 1 else 0 := by
  cases hf : t.find? k with
  | none =>
    have none_match : ∀ r ∈ t.rows, ¬ p r = true := by
      intro r hr hpr
      exact find?_eq_none_iff.mp hf (List.mem_map.mpr ⟨r, hr, hp r hpr⟩)
    simp [count, List.countP_eq_zero.mpr none_match]
  | some s =>
    have hs := mem_of_find? hf
    obtain ⟨before, after, hsplit⟩ := List.append_of_mem hs
    have only : ∀ r ∈ t.rows, p r = true → r = s := by
      intro r hr hpr
      exact eq_of_key_eq hr hs ((hp r hpr).trans (key_of_find? hf).symm)
    have hnd : (before ++ s :: after).Nodup := hsplit ▸ List.Nodup.of_map key t.unique
    have out : ∀ r ∈ before ++ after, ¬ p r = true := by
      intro r hr hpr
      have hmem : r ∈ t.rows := by
        rw [hsplit]
        rcases List.mem_append.mp hr with h | h
        · exact List.mem_append_left _ h
        · exact List.mem_append_right _ (List.mem_cons_of_mem _ h)
      have hrs := only r hmem hpr
      have hmid := (List.nodup_middle.mp hnd)
      exact (List.nodup_cons.mp hmid).1 (hrs ▸ hr)
    have zero := List.countP_eq_zero.mpr out
    rw [List.countP_append] at zero
    simp only [count, hsplit, List.countP_append, List.countP_cons, Option.any_some]
    omega

/-! ### Deletion, insertion and upsert -/

@[simp]
theorem find?_delete (t : Table Row Key key) (p : Row → Bool) (k : Key) :
    (t.delete p).find? k = (t.find? k).filter fun r => !p r := by
  cases hf : t.find? k with
  | none =>
    rw [find?_eq_none_iff] at hf
    refine find?_eq_none_iff.mpr fun hk => hf ?_
    exact (List.filter_sublist.map key).subset hk
  | some r =>
    obtain ⟨hr, hkey⟩ := find?_eq_some_iff.mp hf
    by_cases hp : p r
    · simp only [Option.filter, hp, Bool.not_true, Bool.false_eq_true, if_false]
      refine find?_eq_none_iff.mpr fun hk => ?_
      obtain ⟨s, hs, hsk⟩ := List.mem_map.mp hk
      obtain ⟨hmem, hnot⟩ := List.mem_filter.mp hs
      have := eq_of_key_eq hmem hr (hsk.trans hkey.symm)
      simp [this, hp] at hnot
    · simp only [Option.filter, hp, Bool.not_false, if_true]
      exact find?_eq_some_iff.mpr ⟨List.mem_filter.mpr ⟨hr, by simp [hp]⟩, hkey⟩

theorem insert?_eq_none_iff {t : Table Row Key key} {r : Row} :
    t.insert? r = none ↔ (t.find? (key r)).isSome := by
  rw [find?_isSome_iff]
  by_cases h : key r ∈ t.rows.map key
  · simp only [insert?, h, dif_pos]
  · simp [insert?, h]

theorem rows_of_insert? {t t' : Table Row Key key} {r : Row} (h : t.insert? r = some t') :
    t'.rows = t.rows ++ [r] ∧ t.find? (key r) = none := by
  by_cases hk : key r ∈ t.rows.map key
  · simp only [insert?, hk, dif_pos] at h
    cases h
  · simp only [insert?, hk, dif_neg, not_false_eq_true] at h
    cases h
    exact ⟨rfl, find?_eq_none_iff.mpr hk⟩

theorem insert?_of_absent {t : Table Row Key key} {r : Row} (h : t.find? (key r) = none) :
    ∃ t', t.insert? r = some t' := by
  cases hi : t.insert? r with
  | none =>
    rw [insert?_eq_none_iff, h] at hi
    cases hi
  | some t' => exact ⟨t', rfl⟩

theorem find?_of_insert? {t t' : Table Row Key key} {r : Row} (h : t.insert? r = some t')
    (k : Key) : t'.find? k = if key r = k then some r else t.find? k := by
  obtain ⟨hrows, habsent⟩ := rows_of_insert? h
  by_cases hk : key r = k
  · subst hk
    rw [if_pos rfl]
    exact find?_eq_some_iff.mpr ⟨by simp [hrows], rfl⟩
  · rw [if_neg hk]
    simp [find?, hrows, List.find?_append, hk]

@[simp]
theorem find?_upsert (t : Table Row Key key) (r : Row) (f : Row → Row)
    (keeps : ∀ x, key (f x) = key x) (k : Key) :
    (t.upsert r f keeps).find? k =
      if key r = k then some ((t.find? k).elim r f) else t.find? k := by
  cases hi : t.insert? r with
  | some t' =>
    have habsent := (rows_of_insert? hi).2
    simp only [upsert, hi, find?_of_insert? hi]
    by_cases hk : key r = k
    · subst hk
      simp [habsent]
    · simp [hk]
  | none =>
    obtain ⟨s, hs⟩ := Option.isSome_iff_exists.mp (insert?_eq_none_iff.mp hi)
    simp only [upsert, hi, find?_update]
    by_cases hk : key r = k
    · subst hk
      simp [hs, key_of_find? hs]
    · simp only [if_neg hk]
      cases hf : t.find? k with
      | none => rfl
      | some x =>
        have hx := key_of_find? hf
        have : ¬ key x = key r := by
          rw [hx]
          exact fun h => hk h.symm
        simp [this]

/-! ### Counting selected rows -/

/-- Rows selected before and after are compared through their keys: a key
selected in the new table was selected in the old one or is one of the extra
keys. -/
theorem count_le_add_of_keys {s t : Table Row Key key} {p q : Row → Bool} {extra : List Key}
    (h : ∀ k r, t.find? k = some r → q r = true →
      (∃ r', s.find? k = some r' ∧ p r' = true) ∨ k ∈ extra) :
    t.count q ≤ s.count p + extra.length := by
  have hsub : (t.rows.filter q).map key ⊆ (s.rows.filter p).map key ++ extra := by
    intro k hk
    obtain ⟨r, hr, rfl⟩ := List.mem_map.mp hk
    obtain ⟨hmem, hq⟩ := List.mem_filter.mp hr
    rcases h _ r (find?_of_mem hmem) hq with ⟨r', hr', hp⟩ | hextra
    · refine List.mem_append_left _ (List.mem_map.mpr ⟨r', ?_, key_of_find? hr'⟩)
      exact List.mem_filter.mpr ⟨mem_of_find? hr', hp⟩
    · exact List.mem_append_right _ hextra
  have hnd : ((t.rows.filter q).map key).Nodup := t.unique.sublist (List.filter_sublist.map key)
  have hle := (List.subperm_of_subset hnd hsub).length_le
  simpa [count, List.countP_eq_length_filter] using hle

/-- Keys selected before that stay selected, and more keys selected now, are all counted. -/
theorem add_count_le_of_keys {s t : Table Row Key key} {p q : Row → Bool} {extra : List Key}
    (distinct : extra.Nodup)
    (old : ∀ k r, s.find? k = some r → p r = true →
      k ∉ extra ∧ ∃ r', t.find? k = some r' ∧ q r' = true)
    (new : ∀ k ∈ extra, ∃ r', t.find? k = some r' ∧ q r' = true) :
    s.count p + extra.length ≤ t.count q := by
  have selected : ∀ k, (∃ r', t.find? k = some r' ∧ q r' = true) →
      k ∈ (t.rows.filter q).map key := by
    rintro k ⟨r, found, hq⟩
    exact List.mem_map.mpr ⟨r, List.mem_filter.mpr ⟨mem_of_find? found, hq⟩, key_of_find? found⟩
  have hsub : (s.rows.filter p).map key ++ extra ⊆ (t.rows.filter q).map key := by
    intro k hk
    rcases List.mem_append.mp hk with hk | hk
    · obtain ⟨r, hr, rfl⟩ := List.mem_map.mp hk
      obtain ⟨mem, hp⟩ := List.mem_filter.mp hr
      exact selected _ (old _ r (find?_of_mem mem) hp).2
    · exact selected k (new k hk)
  have hnd : ((s.rows.filter p).map key ++ extra).Nodup := by
    refine List.nodup_append.mpr ⟨s.unique.sublist (List.filter_sublist.map key), distinct, ?_⟩
    rintro k hk _ hextra rfl
    obtain ⟨r, hr, rfl⟩ := List.mem_map.mp hk
    obtain ⟨mem, hp⟩ := List.mem_filter.mp hr
    exact (old _ r (find?_of_mem mem) hp).1 hextra
  have hle := (List.subperm_of_subset hnd hsub).length_le
  simpa [count, List.countP_eq_length_filter] using hle

theorem count_le_of_keys {s t : Table Row Key key} {p q : Row → Bool}
    (h : ∀ k r, t.find? k = some r → q r = true → ∃ r', s.find? k = some r' ∧ p r' = true) :
    t.count q ≤ s.count p := by
  have inside : ∀ k r, t.find? k = some r → q r = true →
      (∃ r', s.find? k = some r' ∧ p r' = true) ∨ k ∈ ([] : List Key) :=
    fun k r hr hq => Or.inl (h k r hr hq)
  exact count_le_add_of_keys inside

theorem count_of_insert? {t t' : Table Row Key key} {r : Row} (h : t.insert? r = some t')
    (p : Row → Bool) : t'.count p = t.count p + if p r then 1 else 0 := by
  simp [count, (rows_of_insert? h).1, List.countP_append, List.countP_singleton]

end Table

end KeyedTable
