/-!
# Reading a stream that arrives in pieces

A stream is the list of pieces in which its items come, however it was cut. A read
takes from the piece at hand what it has room for and leaves the rest for the next
read; an empty piece is no read at all.

`readUntil` grows a buffer by one read after another until a test of the buffer
tells it to stop. When the test says the same of every stretch of the stream at
which it could stop, the cut does not matter (`readUntil_eq_of_agree`).
-/

namespace ChunkedReading

universe u v w

section

variable {α : Type u} {R : Type v} {E : Type w}

/-- `none` is the end of the stream, and also what a read without room finds. -/
def read (capacity : Nat) : List (List α) → Option (List α × List (List α))
  | [] => none
  | [] :: rest => read capacity rest
  | (a :: piece) :: rest =>
    if capacity = 0 then none
    else some ((a :: piece).take capacity, (a :: piece).drop capacity :: rest)

theorem read_some {capacity : Nat} {pieces : List (List α)} {chunk : List α}
    {rest : List (List α)} (h : read capacity pieces = some (chunk, rest)) :
    chunk ≠ [] ∧ chunk ++ rest.flatten = pieces.flatten := by
  induction pieces with
  | nil => cases h
  | cons piece pieces ih =>
    cases piece with
    | nil => exact ih h
    | cons a piece =>
      rw [read] at h
      split at h
      · cases h
      · rename_i room
        obtain ⟨more, rfl⟩ := Nat.exists_eq_succ_of_ne_zero room
        cases h
        refine ⟨List.cons_ne_nil _ _, ?_⟩
        rw [List.flatten_cons, List.flatten_cons, ← List.append_assoc, List.take_append_drop]

theorem read_length_le {capacity : Nat} {pieces : List (List α)} {chunk : List α}
    {rest : List (List α)} (h : read capacity pieces = some (chunk, rest)) :
    chunk.length ≤ capacity := by
  induction pieces with
  | nil => cases h
  | cons piece pieces ih =>
    cases piece with
    | nil => exact ih h
    | cons a piece =>
      rw [read] at h
      split at h
      · cases h
      · cases h
        rw [List.length_take]
        exact Nat.min_le_left _ _

theorem read_none {capacity : Nat} {pieces : List (List α)} (room : 0 < capacity)
    (h : read capacity pieces = none) : pieces.flatten = [] := by
  induction pieces with
  | nil => rfl
  | cons piece pieces ih =>
    cases piece with
    | nil => exact ih h
    | cons a piece =>
      rw [read, if_neg (Nat.ne_of_gt room)] at h
      cases h

theorem read_shortens {capacity : Nat} {pieces : List (List α)} {chunk : List α}
    {rest : List (List α)} (h : read capacity pieces = some (chunk, rest)) :
    rest.flatten.length < pieces.flatten.length := by
  obtain ⟨nonempty, bytes⟩ := read_some h
  have positive := List.length_pos_iff.mpr nonempty
  rw [← bytes, List.length_append]
  omega

/-- What the test found, the buffer it found it in, and what was left unread; or how
the stream ended. -/
def readUntil (test : List α → Option R) (capacity : List α → Nat) (ending : E)
    (buffer : List α) (pieces : List (List α)) : Except E (R × List α × List (List α)) :=
  match test buffer with
  | some found => .ok (found, buffer, pieces)
  | none =>
    match _h : read (capacity buffer) pieces with
    | none => .error ending
    | some (chunk, rest) => readUntil test capacity ending (buffer ++ chunk) rest
termination_by pieces.flatten.length
decreasing_by exact read_shortens _h

variable {test : List α → Option R} {capacity : List α → Nat} {ending : E}

theorem readUntil_found {buffer : List α} {pieces : List (List α)} {found : R}
    (h : test buffer = some found) :
    readUntil test capacity ending buffer pieces = .ok (found, buffer, pieces) := by
  rw [readUntil, h]

theorem readUntil_read {buffer chunk : List α} {pieces rest : List (List α)}
    (undecided : test buffer = none) (h : read (capacity buffer) pieces = some (chunk, rest)) :
    readUntil test capacity ending buffer pieces =
      readUntil test capacity ending (buffer ++ chunk) rest := by
  rw [readUntil]
  split
  · rename_i decided
    rw [undecided] at decided
    cases decided
  split
  · rename_i ended
    rw [h] at ended
    cases ended
  · rename_i same
    rw [h] at same
    cases same
    rfl

/-- The reader stops at a stretch of the stream on which the test is decided. -/
theorem readUntil_ok {buffer : List α} {pieces : List (List α)} {found : R} {stretch : List α}
    {rest : List (List α)}
    (h : readUntil test capacity ending buffer pieces = .ok (found, stretch, rest)) :
    test stretch = some found ∧ buffer <+: stretch ∧
      stretch ++ rest.flatten = buffer ++ pieces.flatten := by
  fun_induction readUntil test capacity ending buffer pieces with
  | case1 buffer pieces found' decided =>
    cases h
    exact ⟨decided, List.prefix_refl _, rfl⟩
  | case2 => cases h
  | case3 buffer pieces undecided chunk rest' hread ih =>
    obtain ⟨decided, longer, same⟩ := ih h
    refine ⟨decided, (List.prefix_append _ _).trans longer, ?_⟩
    rw [same, List.append_assoc, (read_some hread).2]

/-- What no read within its capacity can break holds of the buffer at the stop. -/
theorem readUntil_preserves {P : List α → Prop}
    (step : ∀ buffer chunk, test buffer = none → chunk.length ≤ capacity buffer → P buffer →
      P (buffer ++ chunk))
    {buffer : List α} {pieces : List (List α)} (start : P buffer) {found : R} {stretch : List α}
    {rest : List (List α)}
    (h : readUntil test capacity ending buffer pieces = .ok (found, stretch, rest)) :
    P stretch := by
  fun_induction readUntil test capacity ending buffer pieces with
  | case1 buffer pieces found' decided =>
    cases h
    exact start
  | case2 => cases h
  | case3 buffer pieces undecided chunk rest' hread ih =>
    exact ih (step buffer chunk undecided (read_length_le hread) start) h

theorem readUntil_gives_ending {buffer : List α} {pieces : List (List α)} {e : E}
    (h : readUntil test capacity ending buffer pieces = .error e) : e = ending := by
  fun_induction readUntil test capacity ending buffer pieces with
  | case1 => cases h
  | case2 =>
    cases h
    rfl
  | case3 buffer pieces undecided chunk rest hread ih => exact ih h

/-- A reader that always has room gives up only where the whole stream leaves the
test undecided. -/
theorem readUntil_error {buffer : List α} {pieces : List (List α)} {e : E}
    (room : ∀ buffer, test buffer = none → 0 < capacity buffer)
    (h : readUntil test capacity ending buffer pieces = .error e) :
    e = ending ∧ test (buffer ++ pieces.flatten) = none := by
  fun_induction readUntil test capacity ending buffer pieces with
  | case1 => cases h
  | case2 buffer pieces undecided hread =>
    cases h
    rw [read_none (room buffer undecided) hread, List.append_nil]
    exact ⟨rfl, undecided⟩
  | case3 buffer pieces undecided chunk rest hread ih =>
    obtain ⟨ended, left⟩ := ih h
    rw [List.append_assoc, (read_some hread).2] at left
    exact ⟨ended, left⟩

/-- A piece is read to its end when no shorter stretch of it decides the test. -/
theorem readUntil_piece (room : ∀ buffer, test buffer = none → 0 < capacity buffer)
    {buffer piece : List α} {rest : List (List α)}
    (undecided : ∀ stem, stem <+: piece → stem ≠ piece → test (buffer ++ stem) = none) :
    readUntil test capacity ending buffer (piece :: rest) =
      readUntil test capacity ending (buffer ++ piece) ([] :: rest) := by
  induction hn : piece.length using Nat.strongRecOn generalizing buffer piece with
  | _ n ih =>
    cases piece with
    | nil => rw [List.append_nil]
    | cons a tail =>
      have start : test buffer = none := by
        simpa using undecided [] (List.nil_prefix) (List.cons_ne_nil a tail).symm
      have more := room buffer start
      have first : read (capacity buffer) ((a :: tail) :: rest) =
          some ((a :: tail).take (capacity buffer), (a :: tail).drop (capacity buffer) :: rest) := by
        rw [read, if_neg (Nat.ne_of_gt more)]
      rw [readUntil_read start first]
      have shorter : ((a :: tail).drop (capacity buffer)).length < n := by
        rw [← hn, List.length_drop, List.length_cons]
        omega
      rw [ih _ shorter _ rfl, List.append_assoc, List.take_append_drop]
      intro stem stemOf other
      rw [List.append_assoc]
      apply undecided
      · obtain ⟨tail', htail⟩ := stemOf
        exact ⟨tail', by rw [List.append_assoc, htail, List.take_append_drop]⟩
      · intro same
        apply other
        have both : (a :: tail).take (capacity buffer) ++ stem =
            (a :: tail).take (capacity buffer) ++ (a :: tail).drop (capacity buffer) := by
          rw [same, List.take_append_drop]
        exact List.append_cancel_left both

/-- Where a stop can find only one answer, every cut of the stream finds it. -/
theorem readUntil_of_agree (room : ∀ buffer, test buffer = none → 0 < capacity buffer)
    {pieces : List (List α)} {found : R}
    (decided : test pieces.flatten ≠ none)
    (agree : ∀ stretch, stretch <+: pieces.flatten → ∀ r, test stretch = some r → r = found) :
    ∃ stretch rest, readUntil test capacity ending [] pieces = .ok (found, stretch, rest) ∧
      stretch ++ rest.flatten = pieces.flatten := by
  cases h : readUntil test capacity ending [] pieces with
  | error e =>
    have undecided := (readUntil_error room h).2
    rw [List.nil_append] at undecided
    exact absurd undecided decided
  | ok result =>
    obtain ⟨found', stretch, rest⟩ := result
    obtain ⟨stopped, _, same⟩ := readUntil_ok h
    rw [List.nil_append] at same
    have sameFound := agree stretch ⟨_, same⟩ found' stopped
    exact ⟨stretch, rest, by rw [sameFound], same⟩

/-- Where no stretch of the stream decides the test, every cut of it runs to the end. -/
theorem readUntil_of_undecided {pieces : List (List α)}
    (undecided : ∀ stretch, stretch <+: pieces.flatten → test stretch = none) :
    readUntil test capacity ending [] pieces = .error ending := by
  cases h : readUntil test capacity ending [] pieces with
  | error e => rw [readUntil_gives_ending h]
  | ok result =>
    obtain ⟨found, stretch, rest⟩ := result
    obtain ⟨stopped, _, same⟩ := readUntil_ok h
    rw [List.nil_append] at same
    rw [undecided stretch ⟨_, same⟩] at stopped
    cases stopped

end

section

variable {α : Type u} [DecidableEq α]

/-- Where a pattern first stands in a list. -/
def firstOccurrence (pattern : List α) : List α → Option Nat
  | [] => if pattern = [] then some 0 else none
  | a :: rest =>
    if pattern <+: a :: rest then some 0 else (firstOccurrence pattern rest).map (· + 1)

variable {pattern : List α}

theorem firstOccurrence_le {l : List α} {n : Nat} (h : firstOccurrence pattern l = some n) :
    n + pattern.length ≤ l.length := by
  induction l generalizing n with
  | nil =>
    rw [firstOccurrence] at h
    split at h
    · rename_i nothing
      cases h
      rw [nothing]
      exact Nat.le_refl _
    · cases h
  | cons a rest ih =>
    rw [firstOccurrence] at h
    split at h
    · rename_i here
      cases h
      have := here.length_le
      omega
    · obtain ⟨m, hm, rfl⟩ := Option.map_eq_some_iff.mp h
      have := ih hm
      rw [List.length_cons]
      omega

/-- What is found in a stretch is found at the same place in the whole. -/
theorem firstOccurrence_append {l more : List α} {n : Nat}
    (h : firstOccurrence pattern l = some n) :
    firstOccurrence pattern (l ++ more) = some n := by
  induction l generalizing n with
  | nil =>
    rw [firstOccurrence] at h
    split at h
    · rename_i nothing
      cases h
      cases more with
      | nil => simp [firstOccurrence, nothing]
      | cons a more => simp [firstOccurrence, nothing]
    · cases h
  | cons a rest ih =>
    rw [firstOccurrence] at h
    rw [List.cons_append, firstOccurrence]
    split at h
    · rename_i here
      cases h
      exact if_pos (here.trans (List.prefix_append (a :: rest) more))
    · rename_i elsewhere
      obtain ⟨m, hm, rfl⟩ := Option.map_eq_some_iff.mp h
      have bound := firstOccurrence_le hm
      rw [if_neg, ih hm, Option.map_some]
      intro here
      apply elsewhere
      refine List.prefix_of_prefix_length_le here (List.prefix_append (a :: rest) more) ?_
      rw [List.length_cons]
      omega

/-- A stretch in which the pattern is not found ends before the pattern does. -/
theorem length_lt_of_firstOccurrence {l more : List α} {n : Nat}
    (absent : firstOccurrence pattern l = none)
    (h : firstOccurrence pattern (l ++ more) = some n) : l.length < n + pattern.length := by
  induction l generalizing n with
  | nil =>
    rw [firstOccurrence] at absent
    split at absent
    · cases absent
    · rename_i something
      have := List.length_pos_iff.mpr something
      rw [List.length_nil]
      omega
  | cons a rest ih =>
    rw [firstOccurrence] at absent
    rw [List.cons_append, firstOccurrence] at h
    split at absent
    · cases absent
    · rename_i elsewhere
      rw [Option.map_eq_none_iff] at absent
      split at h
      · rename_i here
        rcases Nat.lt_or_ge (a :: rest).length (n + pattern.length) with short | long
        · exact short
        · refine absurd ?_ elsewhere
          refine List.prefix_of_prefix_length_le here (List.prefix_append (a :: rest) more) ?_
          omega
      · obtain ⟨m, hm, rfl⟩ := Option.map_eq_some_iff.mp h
        have := ih absent hm
        rw [List.length_cons]
        omega

end

end ChunkedReading
