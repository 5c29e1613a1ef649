import Mathlib.Data.List.Basic

/-!
# Absolute POSIX paths

A path is text. What an absolute path names is the list of its parts, with empty
parts and single dots left out and each double dot taken together with the part
before it. Normalizing a path rewrites its text and names the same; the relative
path between two is empty or starts with a part of its target exactly if the target
is the source or lies below it.
-/

namespace PosixPaths

abbrev Part := List Char

def split (path : String) : List Part := path.toList.splitOn '/'

def push (stack : List Part) (part : Part) : List Part :=
  if part = [] ∨ part = ['.'] then stack
  else if part = ['.', '.'] then stack.dropLast
  else stack ++ [part]

/-- What an absolute path names. -/
def segments (path : String) : List Part := (split path).foldl push []

def isAbsolute (path : String) : Bool := decide (path.toList.head? = some '/')

def joinParts (parts : List Part) : List Char := ['/'].intercalate parts

/-- `posix.normalize` of an absolute path: a slash at its end stays. -/
def normalize (path : String) : String :=
  if segments path = [] then "/"
  else
    String.ofList ('/' :: (joinParts (segments path) ++
      if path.toList.getLast? = some '/' then ['/'] else []))

/-- `posix.join` of an absolute path and a part. -/
def join (path part : String) : String := normalize (path ++ "/" ++ part)

def shared : List Part → List Part → Nat
  | p :: ps, q :: qs => if p = q then shared ps qs + 1 else 0
  | _, _ => 0

/-- `posix.relative` between absolute paths. -/
def relative (source target : String) : String :=
  let up := segments source
  let down := segments target
  let same := shared up down
  String.ofList (joinParts (List.replicate (up.length - same) ['.', '.'] ++ down.drop same))

/-! ### Parts -/

/-- A part that stands for itself. -/
structure Plain (part : Part) : Prop where
  filled : part ≠ []
  dot : part ≠ ['.']
  dots : part ≠ ['.', '.']
  whole : '/' ∉ part

/-- What lies between separators has none. -/
theorem notMem_of_mem_splitOn {α : Type*} [DecidableEq α] (a : α) (xs : List α) :
    ∀ part ∈ xs.splitOn a, a ∉ part := by
  induction xs with
  | nil =>
    intro part mem
    rw [List.splitOn_nil, List.mem_singleton] at mem
    rw [mem]
    exact List.not_mem_nil
  | cons x rest ih =>
    rw [List.splitOn_cons_eq_if_modifyHead]
    by_cases same : x = a
    · rw [if_pos (beq_iff_eq.mpr same)]
      exact List.forall_mem_cons.mpr ⟨List.not_mem_nil, ih⟩
    · rw [if_neg fun h => same (beq_iff_eq.mp h)]
      cases pieces : rest.splitOn a with
      | nil => exact fun part mem => absurd mem List.not_mem_nil
      | cons first later =>
        rw [pieces] at ih
        obtain ⟨head, tail⟩ := List.forall_mem_cons.mp ih
        rw [List.modifyHead_cons]
        refine List.forall_mem_cons.mpr ⟨?_, tail⟩
        intro mem
        rcases List.mem_cons.mp mem with equal | mem
        · exact same equal.symm
        · exact head mem

/-- The parts hold nothing but what the whole does. -/
theorem mem_of_mem_splitOnP {α : Type*} {p : α → Bool} (text : List α) :
    ∀ segment ∈ text.splitOnP p, ∀ c ∈ segment, c ∈ text := by
  induction text with
  | nil =>
    intro segment mem c inside
    rw [List.splitOnP_nil, List.mem_singleton] at mem
    rw [mem] at inside
    cases inside
  | cons d text ih =>
    rw [List.splitOnP_cons_eq_if_modifyHead]
    split
    · refine List.forall_mem_cons.mpr ⟨fun c inside => absurd inside List.not_mem_nil, ?_⟩
      exact fun segment mem c inside => List.mem_cons_of_mem _ (ih segment mem c inside)
    · cases pieces : text.splitOnP p with
      | nil => exact fun segment mem => absurd mem List.not_mem_nil
      | cons first later =>
        rw [pieces] at ih
        obtain ⟨head, tail⟩ := List.forall_mem_cons.mp ih
        rw [List.modifyHead_cons]
        refine List.forall_mem_cons.mpr ⟨fun c inside => ?_, fun segment mem c inside => ?_⟩
        · exact (List.mem_cons.mp inside).elim (fun same => same ▸ List.mem_cons_self)
            fun more => List.mem_cons_of_mem _ (head c more)
        · exact List.mem_cons_of_mem _ (tail segment mem c inside)

theorem whole_of_mem_splitOn (chars : List Char) :
    ∀ part ∈ chars.splitOn '/', '/' ∉ part :=
  notMem_of_mem_splitOn '/' chars

theorem foldl_push_plain (parts stack : List Part) (whole : ∀ part ∈ parts, '/' ∉ part)
    (plain : ∀ part ∈ stack, Plain part) : ∀ part ∈ parts.foldl push stack, Plain part := by
  induction parts generalizing stack with
  | nil => exact plain
  | cons part rest ih =>
    obtain ⟨first, later⟩ := List.forall_mem_cons.mp whole
    rw [List.foldl_cons]
    apply ih _ later
    unfold push
    split
    · exact plain
    rename_i own
    split
    · exact fun p mem => plain p (stack.dropLast_sublist.subset mem)
    rename_i forward
    intro p mem
    rcases List.mem_append.mp mem with mem | mem
    · exact plain p mem
    · rw [List.mem_singleton.mp mem]
      exact ⟨fun h => own (Or.inl h), fun h => own (Or.inr h), forward, first⟩

theorem segments_plain (path : String) : ∀ part ∈ segments path, Plain part :=
  foldl_push_plain _ [] (whole_of_mem_splitOn _) fun _ mem => absurd mem List.not_mem_nil

/-- Plain parts are pushed as they are. -/
theorem foldl_push_of_plain (parts stack : List Part) (plain : ∀ part ∈ parts, Plain part) :
    parts.foldl push stack = stack ++ parts := by
  induction parts generalizing stack with
  | nil => exact (List.append_nil stack).symm
  | cons part rest ih =>
    obtain ⟨first, later⟩ := List.forall_mem_cons.mp plain
    rw [List.foldl_cons, ih _ later, push, if_neg, if_neg first.dots, List.append_assoc,
      List.singleton_append]
    rintro (empty | dot)
    · exact first.filled empty
    · exact first.dot dot

/-! ### Normal forms -/

theorem split_join (parts : List Part) (plain : ∀ part ∈ parts, Plain part) (present : parts ≠ []) :
    (joinParts parts).splitOn '/' = parts :=
  List.splitOn_intercalate '/' (fun part mem => (plain part mem).whole) present

theorem segments_normalize (path : String) : segments (normalize path) = segments path := by
  have plain := segments_plain path
  unfold normalize
  by_cases top : segments path = []
  · rw [if_pos top, top]
    rfl
  rw [if_neg top]
  have front : ∀ rest : List Char, ('/' :: rest).splitOn '/' = [] :: rest.splitOn '/' := fun rest =>
    List.splitOn_append_cons_self [] rest
  generalize segments path = parts at plain top
  unfold segments split
  rw [String.toList_ofList, front]
  split
  · rw [List.splitOn_append_cons_self, split_join parts plain top, List.foldl_cons,
      List.foldl_append, foldl_push_of_plain parts _ plain]
    rfl
  · rw [List.append_nil, split_join parts plain top, List.foldl_cons,
      foldl_push_of_plain parts _ plain]
    rfl

/-- A path continued by plain parts names what lies below it. -/
theorem segments_below (path : String) {rest : String}
    (plain : ∀ part ∈ split rest, Plain part) :
    segments (path ++ "/" ++ rest) = segments path ++ split rest := by
  unfold segments split
  rw [String.toList_append, String.toList_append, List.append_assoc,
    show "/".toList = ['/'] from rfl, List.singleton_append, List.splitOn_append_cons_self,
    List.foldl_append]
  exact foldl_push_of_plain _ _ plain

theorem segments_join {path part : String} (plain : Plain part.toList) :
    segments (join path part) = segments path ++ [part.toList] := by
  have whole : split part = [part.toList] := List.splitOn_eq_singleton plain.whole
  unfold join
  rw [segments_normalize, segments_below path, whole]
  rw [whole]
  exact List.forall_mem_singleton.mpr plain

/-! ### Relative paths -/

theorem shared_append (ps rest : List Part) : shared ps (ps ++ rest) = ps.length := by
  induction ps with
  | nil =>
    cases rest with
    | nil => rfl
    | cons _ _ => rfl
  | cons p ps ih => rw [List.cons_append, shared, if_pos rfl, ih, List.length_cons]

theorem shared_lt_of_not_prefix {ps qs : List Part} (apart : ¬ ps <+: qs) :
    shared ps qs < ps.length := by
  induction ps generalizing qs with
  | nil => exact absurd (List.nil_prefix) apart
  | cons p ps ih =>
    cases qs with
    | nil => exact Nat.succ_pos _
    | cons q qs =>
      rw [shared]
      split
      · rename_i same
        exact Nat.succ_lt_succ (ih fun h => apart (List.cons_prefix_cons.mpr ⟨same, h⟩))
      · exact Nat.succ_pos _

theorem relative_inside {source target : String} {rest : List Part}
    (h : segments target = segments source ++ rest) :
    relative source target = String.ofList (joinParts rest) := by
  unfold relative
  rw [h]
  dsimp only
  rw [shared_append, Nat.sub_self, List.drop_left]
  rfl

theorem mem_intercalate {α : Type*} {separator : List α} {parts : List (List α)} {a : α}
    (mem : a ∈ separator.intercalate parts) : a ∈ separator ∨ ∃ part ∈ parts, a ∈ part := by
  induction parts with
  | nil => cases mem
  | cons first rest ih =>
    cases rest with
    | nil =>
      rw [List.intercalate_singleton] at mem
      exact Or.inr ⟨first, List.mem_cons_self, mem⟩
    | cons second rest =>
      rw [List.intercalate_cons_cons] at mem
      rcases List.mem_append.mp mem with front | later
      · rcases List.mem_append.mp front with inside | between
        · exact Or.inr ⟨first, List.mem_cons_self, inside⟩
        · exact Or.inl between
      · refine (ih later).imp_right ?_
        rintro ⟨part, listed, inside⟩
        exact ⟨part, List.mem_cons_of_mem _ listed, inside⟩

/-- The first part of joined parts, and what follows it. -/
theorem joinParts_cons (first : Part) (rest : List Part) :
    ∃ tail, joinParts (first :: rest) = first ++ tail ∧ (tail = [] ∨ tail.head? = some '/') := by
  cases rest with
  | nil =>
    refine ⟨[], ?_, Or.inl rfl⟩
    rw [List.append_nil, joinParts, List.intercalate_singleton]
  | cons second rest =>
    refine ⟨'/' :: joinParts (second :: rest), ?_, Or.inr rfl⟩
    unfold joinParts
    rw [List.intercalate_cons_cons, List.append_assoc, List.singleton_append]

theorem relative_outside {source target : String}
    (apart : ¬ segments source <+: segments target) :
    ∃ tail, (relative source target).toList = ['.', '.'] ++ tail ∧
      (tail = [] ∨ tail.head? = some '/') := by
  have less := shared_lt_of_not_prefix apart
  unfold relative
  obtain ⟨n, up⟩ := Nat.exists_eq_succ_of_ne_zero (Nat.sub_ne_zero_of_lt less)
  dsimp only
  rw [up, String.toList_ofList, List.replicate_succ, List.cons_append]
  exact joinParts_cons _ _

end PosixPaths
