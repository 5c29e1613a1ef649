import TaskQueQue.PosixPaths
import TaskQueQue.RequestRendering

/-!
# Strings of code units

A JavaScript string is a list of UTF-16 code units, and need not be well formed. An
encoder writes it as bytes: pairs of surrogates become their character, each surrogate
that stands alone becomes U+FFFD. ASCII characters are units of their own, so whatever a
program finds or splits by them is found and split alike before and after.
-/

namespace Utf16Texts

open CapabilityAuth (encode)

abbrev Units := List UInt16

def highSurrogate (unit : UInt16) : Bool := decide (0xD800 ≤ unit.toNat ∧ unit.toNat ≤ 0xDBFF)

def lowSurrogate (unit : UInt16) : Bool := decide (0xDC00 ≤ unit.toNat ∧ unit.toNat ≤ 0xDFFF)

/-- A unit by itself. -/
def single (unit : UInt16) : Char :=
  if highSurrogate unit || lowSurrogate unit then '\uFFFD' else Char.ofNat unit.toNat

def pair (high low : UInt16) : Char :=
  Char.ofNat (0x10000 + (high.toNat - 0xD800) * 1024 + (low.toNat - 0xDC00))

/-- The characters an encoder finds. -/
def characters : Units → List Char
  | [] => []
  | [unit] => [single unit]
  | first :: second :: rest =>
    if highSurrogate first && lowSurrogate second then pair first second :: characters rest
    else single first :: characters (second :: rest)

/-- `TextEncoder.encode`. -/
def encodeUnits (units : Units) : List UInt8 := encode (String.ofList (characters units))

theorem characters_single (unit : UInt16) : characters [unit] = [single unit] := rfl

theorem characters_pair {first second : UInt16} (rest : Units)
    (paired : (highSurrogate first && lowSurrogate second) = true) :
    characters (first :: second :: rest) = pair first second :: characters rest := by
  rw [characters, if_pos paired]

theorem characters_apart {first second : UInt16} (rest : Units)
    (apart : ¬ (highSurrogate first && lowSurrogate second) = true) :
    characters (first :: second :: rest) = single first :: characters (second :: rest) := by
  rw [characters, if_neg apart]

/-! ### ASCII units -/

def asciiUnit (unit : UInt16) : Bool := decide (unit.toNat < 128)

theorem ascii_not_surrogate {unit : UInt16} (ascii : asciiUnit unit = true) :
    highSurrogate unit = false ∧ lowSurrogate unit = false := by
  have small := of_decide_eq_true ascii
  constructor
  · exact decide_eq_false (by omega)
  · exact decide_eq_false (by omega)

theorem single_ascii {unit : UInt16} (ascii : asciiUnit unit = true) :
    single unit = Char.ofNat unit.toNat := by
  obtain ⟨high, low⟩ := ascii_not_surrogate ascii
  rw [single, high, low]
  rfl

theorem characters_cons_ascii {unit : UInt16} (ascii : asciiUnit unit = true) (after : Units) :
    characters (unit :: after) = Char.ofNat unit.toNat :: characters after := by
  obtain ⟨high, _⟩ := ascii_not_surrogate ascii
  rw [← single_ascii ascii]
  cases after with
  | nil => rfl
  | cons next rest =>
    rw [characters_apart]
    rw [high]
    exact Bool.false_ne_true

/-- The characters on either side of an ASCII unit are those of its sides. -/
theorem characters_append {unit : UInt16} (ascii : asciiUnit unit = true) (before after : Units) :
    characters (before ++ unit :: after) =
      characters before ++ Char.ofNat unit.toNat :: characters after := by
  induction before using characters.induct with
  | case1 => exact characters_cons_ascii ascii after
  | case2 last =>
    obtain ⟨_, low⟩ := ascii_not_surrogate ascii
    have apart : ¬ (highSurrogate last && lowSurrogate unit) = true := by
      rw [low, Bool.and_false]
      exact Bool.false_ne_true
    rw [List.singleton_append, characters_apart after apart, characters_cons_ascii ascii,
      characters_single, List.singleton_append]
  | case3 first second rest paired ih =>
    rw [List.cons_append, List.cons_append, characters_pair _ paired, ih, characters_pair _ paired,
      List.cons_append]
  | case4 first second rest apart ih =>
    rw [List.cons_append, List.cons_append, characters_apart _ apart, ← List.cons_append, ih,
      characters_apart _ apart, List.cons_append]

theorem toNat_ofNat_small {n : Nat} (small : n < 0xD800) : (Char.ofNat n).toNat = n := by
  have valid : n.isValidChar := Or.inl small
  rw [Char.ofNat, dif_pos valid]
  rfl

theorem toNat_pair {high low : UInt16} (paired : (highSurrogate high && lowSurrogate low) = true) :
    0x10000 ≤ (pair high low).toNat := by
  rw [Bool.and_eq_true] at paired
  have first := of_decide_eq_true paired.1
  have second := of_decide_eq_true paired.2
  have valid : (0x10000 + (high.toNat - 0xD800) * 1024 + (low.toNat - 0xDC00)).isValidChar :=
    Or.inr ⟨by omega, by omega⟩
  rw [pair, Char.ofNat, dif_pos valid]
  show 0x10000 ≤ 0x10000 + (high.toNat - 0xD800) * 1024 + (low.toNat - 0xDC00)
  omega

theorem single_eq_iff {unit found : UInt16} (ascii : asciiUnit unit = true) :
    single found = Char.ofNat unit.toNat ↔ found = unit := by
  have small := of_decide_eq_true ascii
  constructor
  · intro same
    unfold single at same
    split at same
    · have number := congrArg Char.toNat same
      rw [toNat_ofNat_small (show unit.toNat < 0xD800 by omega)] at number
      have replaced : '\uFFFD'.toNat = 65533 := rfl
      omega
    · rename_i scalar
      rw [Bool.not_eq_true, Bool.or_eq_false_iff] at scalar
      have high := of_decide_eq_false scalar.1
      have low := of_decide_eq_false scalar.2
      have number := congrArg Char.toNat same
      rw [toNat_ofNat_small (show unit.toNat < 0xD800 by omega)] at number
      have valid : found.toNat.isValidChar := by
        have range := found.toNat_lt
        by_cases below : found.toNat < 0xD800
        · exact Or.inl below
        · exact Or.inr ⟨by omega, by omega⟩
      rw [Char.ofNat, dif_pos valid] at number
      exact UInt16.toNat_inj.mp number
  · rintro rfl
    exact single_ascii ascii

/-- An ASCII character is found where its unit is. -/
theorem mem_characters {unit : UInt16} (ascii : asciiUnit unit = true) (units : Units) :
    Char.ofNat unit.toNat ∈ characters units ↔ unit ∈ units := by
  have small := of_decide_eq_true ascii
  have alone : ∀ found, Char.ofNat unit.toNat = single found ↔ unit = found := fun found => by
    rw [eq_comm, single_eq_iff ascii, eq_comm]
  induction units using characters.induct with
  | case1 => simp [characters]
  | case2 last => rw [characters_single, List.mem_singleton, List.mem_singleton, alone]
  | case3 first second rest paired ih =>
    have beyond := toNat_pair paired
    have apart : Char.ofNat unit.toNat ≠ pair first second := by
      intro same
      have number := congrArg Char.toNat same
      rw [toNat_ofNat_small (show unit.toNat < 0xD800 by omega)] at number
      omega
    have plain := ascii_not_surrogate ascii
    have paired' := paired
    rw [Bool.and_eq_true] at paired'
    have one : unit ≠ first := by
      rintro rfl
      rw [plain.1] at paired'
      exact Bool.false_ne_true paired'.1
    have two : unit ≠ second := by
      rintro rfl
      rw [plain.2] at paired'
      exact Bool.false_ne_true paired'.2
    rw [characters_pair rest paired, List.mem_cons, List.mem_cons, List.mem_cons]
    simp only [apart, one, two, false_or, ih]
  | case4 first second rest separate ih =>
    rw [characters_apart rest separate]
    exact List.mem_cons.trans ((or_congr (alone first) ih).trans List.mem_cons.symm)

theorem characters_eq_nil {units : Units} : characters units = [] ↔ units = [] := by
  constructor
  · intro empty
    match units with
    | [] => rfl
    | [_] => exact absurd empty (List.cons_ne_nil _ _)
    | first :: second :: rest =>
      rw [characters] at empty
      split at empty
      · exact absurd empty (List.cons_ne_nil _ _)
      · exact absurd empty (List.cons_ne_nil _ _)
  · rintro rfl
    rfl

/-! ### Parts between ASCII units -/

theorem characters_intercalate {unit : UInt16} (ascii : asciiUnit unit = true)
    (parts : List Units) : characters ([unit].intercalate parts) =
      [Char.ofNat unit.toNat].intercalate (parts.map characters) := by
  induction parts with
  | nil => rfl
  | cons part rest ih =>
    cases rest with
    | nil =>
      rw [List.intercalate_singleton, List.map_singleton, List.intercalate_singleton]
    | cons next rest =>
      rw [List.map_cons, List.map_cons, List.intercalate_cons_cons, List.intercalate_cons_cons,
        List.append_assoc, List.singleton_append, characters_append ascii, ih, List.map_cons,
        List.append_assoc, List.singleton_append]

/-- A string is split at an ASCII unit as its characters are. -/
theorem characters_splitOn {unit : UInt16} (ascii : asciiUnit unit = true) (units : Units) :
    (characters units).splitOn (Char.ofNat unit.toNat) = (units.splitOn unit).map characters := by
  have whole := characters_intercalate ascii (units.splitOn unit)
  rw [List.intercalate_splitOn] at whole
  rw [whole]
  refine List.splitOn_intercalate _ ?_ ?_
  · intro part mem
    obtain ⟨source, inside, rfl⟩ := List.mem_map.mp mem
    rw [mem_characters ascii]
    exact PosixPaths.notMem_of_mem_splitOn unit units source inside
  · rw [Ne, List.map_eq_nil_iff]
    exact List.splitOn_ne_nil _ _

end Utf16Texts
