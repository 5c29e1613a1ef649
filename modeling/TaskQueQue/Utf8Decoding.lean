import TaskQueQue.WebUrls

/-!
# A platform for the URL parser

A decoder of UTF-8 that replaces what it cannot read, and the two laws the parser
asks of one. Bytes are replaced one by one, where the standard may replace several
at once; nothing below depends on their number.
-/

namespace Utf8Decoding

open WebUrls

/-- The first character of some bytes, if they begin with one. -/
def firstChar (bytes : List UInt8) : Option Char := bytes.toByteArray.utf8DecodeChar? 0

def decodeFrom : Nat → List UInt8 → List Char
  | _, [] => []
  | 0, _ => []
  | fuel + 1, byte :: rest =>
    match firstChar (byte :: rest) with
    | some c => c :: decodeFrom fuel ((byte :: rest).drop c.utf8Size)
    | none => '\uFFFD' :: decodeFrom fuel rest

def decodeLossy (bytes : List UInt8) : List Char := decodeFrom bytes.length bytes

theorem firstChar_encoded (c : Char) (rest : List UInt8) :
    firstChar (String.utf8EncodeChar c ++ rest) = some c := by
  rw [firstChar, List.toByteArray_append]
  exact ByteArray.utf8DecodeChar?_utf8EncodeChar_append

theorem firstChar_some {bytes : List UInt8} {c : Char} (h : firstChar bytes = some c) :
    ∃ rest, bytes = String.utf8EncodeChar c ++ rest := by
  have encoded := String.toByteArray_utf8EncodeChar_of_utf8DecodeChar?_eq_some h
  refine ⟨bytes.drop c.utf8Size, ?_⟩
  have start : String.utf8EncodeChar c = bytes.take c.utf8Size := by
    apply List.toByteArray_inj.mp
    rw [encoded]
    apply ByteArray.ext
    rw [ByteArray.data_extract, List.data_toByteArray, List.data_toByteArray, List.extract_toArray,
      List.extract_eq_take_drop, List.drop_zero, Nat.sub_zero]
  rw [start, List.take_append_drop]

theorem encoded_filled (c : Char) : ∃ byte rest, String.utf8EncodeChar c = byte :: rest :=
  List.exists_cons_of_ne_nil String.utf8EncodeChar_ne_nil

theorem decodeFrom_encoded (fuel : Nat) (c : Char) (rest : List UInt8) :
    decodeFrom (fuel + 1) (String.utf8EncodeChar c ++ rest) = c :: decodeFrom fuel rest := by
  obtain ⟨byte, others, shape⟩ := encoded_filled c
  have first := firstChar_encoded c rest
  have long := String.length_utf8EncodeChar c
  rw [shape, List.cons_append] at first ⊢
  rw [decodeFrom, first]
  dsimp only
  rw [← long, ← List.cons_append, shape, List.drop_left]

theorem decodeFrom_utf8 (text : List Char) : ∀ fuel, (utf8 text).length ≤ fuel →
    decodeFrom fuel (utf8 text) = text := by
  induction text with
  | nil =>
    intro fuel _
    cases fuel <;> rfl
  | cons c text ih =>
    intro fuel enough
    rw [utf8, List.flatMap_cons, ← utf8, List.length_append] at enough
    have some' := List.length_pos_iff.mpr (@String.utf8EncodeChar_ne_nil c)
    obtain ⟨fuel, rfl⟩ : ∃ fuel', fuel = fuel' + 1 := ⟨fuel - 1, by omega⟩
    rw [utf8, List.flatMap_cons, ← utf8, decodeFrom_encoded, ih fuel (by omega)]

theorem high_byte (byte : UInt8) : ¬ (byte ||| 0x80) < 128 := by
  intro low
  have bound := UInt8.lt_iff_toNat_lt.mp low
  rw [UInt8.toNat_or] at bound
  have top : 128 ≤ byte.toNat ||| 128 := Nat.right_le_or
  exact absurd bound (Nat.not_lt.mpr top)

/-- The last byte of a character of several bytes is not ASCII. -/
theorem encoded_last {c : Char} {bytes : List UInt8} {byte : UInt8} (filled : bytes ≠ [])
    (shape : String.utf8EncodeChar c = bytes ++ [byte]) : ¬ byte < 128 := by
  have last := congrArg List.getLast? shape
  rw [List.getLast?_concat] at last
  have size := congrArg List.length shape
  rw [String.length_utf8EncodeChar, List.length_append, List.length_singleton] at size
  have some' := List.length_pos_iff.mpr filled
  have bound := c.utf8Size_le_four
  rcases (by omega : c.utf8Size = 2 ∨ c.utf8Size = 3 ∨ c.utf8Size = 4) with two | three | four
  · rw [String.utf8EncodeChar_eq_cons_cons two] at last
    cases last
    exact high_byte _
  · rw [String.utf8EncodeChar_eq_cons_cons_cons three] at last
    cases last
    exact high_byte _
  · rw [String.utf8EncodeChar_eq_cons_cons_cons_cons four] at last
    cases last
    exact high_byte _

theorem ascii_encoded (byte : UInt8) (low : byte < 128) :
    String.utf8EncodeChar (Char.ofNat byte.toNat) = [byte] := by
  have table : ∀ n : Fin 128, String.utf8EncodeChar (Char.ofNat n) = [UInt8.ofNat n] := by
    decide +kernel
  have at_byte := table ⟨byte.toNat, UInt8.lt_iff_toNat_lt.mp low⟩
  rwa [UInt8.ofNat_toNat] at at_byte

/-- An ASCII byte at the end is read as its character, whatever came before. -/
theorem decodeFrom_ascii (byte : UInt8) (low : byte < 128) : ∀ (fuel : Nat) (bytes : List UInt8),
    bytes.length ≤ fuel → decodeFrom (fuel + 1) (bytes ++ [byte]) =
      decodeFrom fuel bytes ++ [Char.ofNat byte.toNat] := by
  intro fuel
  induction fuel with
  | zero =>
    intro bytes enough
    rw [List.length_eq_zero_iff.mp (Nat.le_zero.mp enough), List.nil_append, ← ascii_encoded byte low,
      ← List.append_nil (String.utf8EncodeChar _), decodeFrom_encoded]
    rfl
  | succ fuel ih =>
    intro bytes enough
    cases bytes with
    | nil =>
      rw [List.nil_append, ← ascii_encoded byte low, ← List.append_nil (String.utf8EncodeChar _),
        decodeFrom_encoded]
      rfl
    | cons first rest =>
      cases read : firstChar (first :: rest) with
      | some c =>
        obtain ⟨others, shape⟩ := firstChar_some read
        have some' := List.length_pos_iff.mpr (@String.utf8EncodeChar_ne_nil c)
        have size := congrArg List.length shape
        rw [List.length_append] at size
        rw [shape, List.append_assoc, decodeFrom_encoded, decodeFrom_encoded, ih others (by omega),
          List.cons_append]
      | none =>
        have unread : firstChar (first :: (rest ++ [byte])) = none := by
          cases again : firstChar (first :: (rest ++ [byte])) with
          | none => rfl
          | some c =>
            obtain ⟨others, shape⟩ := firstChar_some again
            exfalso
            by_cases alone : others = []
            · rw [alone, List.append_nil, ← List.cons_append] at shape
              exact encoded_last (List.cons_ne_nil _ _) shape.symm low
            · rw [← List.dropLast_append_getLast alone, ← List.append_assoc, ← List.cons_append]
                at shape
              have start := (List.append_inj' shape rfl).1
              rw [start, firstChar_encoded] at read
              cases read
        rw [List.cons_append, decodeFrom, unread, decodeFrom, read]
        dsimp only
        rw [ih rest (Nat.le_of_succ_le_succ enough), List.cons_append]

theorem decodeLossy_utf8 (text : List Char) : decodeLossy (utf8 text) = text :=
  decodeFrom_utf8 text _ (Nat.le_refl _)

theorem decodeLossy_ascii (bytes : List UInt8) (byte : UInt8) (low : byte < 128) :
    decodeLossy (bytes ++ [byte]) = decodeLossy bytes ++ [Char.ofNat byte.toNat] := by
  rw [decodeLossy, List.length_append]
  exact decodeFrom_ascii byte low _ bytes (Nat.le_refl _)

/-- A platform that knows names of letters, digits, dots and hyphens, and one scheme. -/
def namesOnly : Platform where
  host := fun text =>
    if text.all (fun c => c.isAlphanum || c == '.' || c == '-') then
      some (String.ofList (text.map Char.toLower))
    else none
  other := fun _ => none
  decode := decodeLossy
  host_visible := by
    intro text name known c mem
    split at known
    · rename_i all
      have own := List.all_eq_true.mp all c mem
      by_contra small
      let Other (c : Char) := (c.isAlphanum || c == '.' || c == '-') = false
      have table : ∀ n : Fin 33, Other (Char.ofNat n) := by decide
      have other : Other c := blank_induction table (decide_eq_true (Nat.not_lt.mp small))
      rw [show (c.isAlphanum || c == '.' || c == '-') = false from other] at own
      cases own
    · cases known
  other_protocol := by
    intro text url known
    cases known
  decode_utf8 := decodeLossy_utf8
  decode_ascii := decodeLossy_ascii

end Utf8Decoding
