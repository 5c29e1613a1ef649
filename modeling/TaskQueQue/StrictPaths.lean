import TaskQueQue.PosixPaths
import TaskQueQue.RequestRendering
import TaskQueQue.Utf8Decoding

/-!
# Paths taken component by component

Both helpers take a path's bytes as text and cut it at its slashes. Each component is
handed to the kernel as a C string of its own, so none may be empty, a dot or a double
dot, and none may hold a NUL. A backslash is refused anywhere.
-/

namespace StrictPaths

open PosixPaths
open Utf8Decoding (high_byte)
open CapabilityAuth (encode)

/-- Bytes of which none is NUL. -/
@[ext]
structure CString where
  bytes : List UInt8
  clear : (0 : UInt8) ∉ bytes
deriving DecidableEq

def CString.new (bytes : List UInt8) : Option CString :=
  if clear : (0 : UInt8) ∉ bytes then some ⟨bytes, clear⟩ else none

/-- `Path::to_str`. -/
def toStr (path : List UInt8) : Option String := String.fromUTF8? ⟨path.toArray⟩

def MAX_PATH_BYTES : Nat := 4096

def malformed (raw : String) : Bool :=
  decide (raw = "") || decide (MAX_PATH_BYTES < raw.utf8ByteSize) || (encode raw).contains 0 ||
    raw.toList.contains '\\'

def component (segment : Part) : Option CString :=
  if segment = [] ∨ segment = ['.'] ∨ segment = ['.', '.'] then none
  else CString.new (encode (String.ofList segment))

/-- The segments of a body, if each of them is exact. -/
def exactComponents (body : List Char) : Option (List CString) :=
  ((body.splitOn '/').mapM component).filter fun output => decide (output ≠ [])

/-! ### ASCII bytes -/

theorem high_lead (byte : UInt8) {lead : UInt8} (top : lead = lead ||| 0x80) :
    ¬ (byte ||| lead) < 128 := by
  rw [top, ← UInt8.or_assoc]
  exact high_byte _

/-- An ASCII byte is the encoding of its own character and part of no other. -/
theorem mem_utf8EncodeChar {byte : UInt8} (low : byte < 128) (c : Char) :
    byte ∈ String.utf8EncodeChar c ↔ c = Char.ofNat byte.toNat := by
  constructor
  · intro mem
    have apart : ∀ {x : UInt8}, ¬ x < 128 → byte ≠ x := by
      rintro x high rfl
      exact high low
    rcases c.utf8Size_eq with one | two | three | four
    · rw [String.utf8EncodeChar_eq_singleton one, List.mem_singleton] at mem
      have small := UInt32.le_iff_toNat_le.mp (Char.utf8Size_eq_one_iff.mp one)
      have value := congrArg UInt8.toNat mem
      rw [UInt32.toNat_toUInt8, Nat.mod_eq_of_lt (Nat.lt_of_le_of_lt small (by decide))] at value
      rw [value]
      exact (Char.ofNat_toNat c).symm
    · rw [String.utf8EncodeChar_eq_cons_cons two] at mem
      simp only [List.mem_cons, List.not_mem_nil, or_false] at mem
      rcases mem with mem | mem
      · exact absurd mem (apart (high_lead _ (by decide)))
      · exact absurd mem (apart (high_byte _))
    · rw [String.utf8EncodeChar_eq_cons_cons_cons three] at mem
      simp only [List.mem_cons, List.not_mem_nil, or_false] at mem
      rcases mem with mem | mem | mem
      · exact absurd mem (apart (high_lead _ (by decide)))
      · exact absurd mem (apart (high_byte _))
      · exact absurd mem (apart (high_byte _))
    · rw [String.utf8EncodeChar_eq_cons_cons_cons_cons four] at mem
      simp only [List.mem_cons, List.not_mem_nil, or_false] at mem
      rcases mem with mem | mem | mem | mem
      · exact absurd mem (apart (high_lead _ (by decide)))
      · exact absurd mem (apart (high_byte _))
      · exact absurd mem (apart (high_byte _))
      · exact absurd mem (apart (high_byte _))
  · rintro rfl
    rw [Utf8Decoding.ascii_encoded byte low]
    exact List.mem_singleton_self byte

theorem mem_encode {byte : UInt8} (low : byte < 128) (chars : List Char) :
    byte ∈ encode (String.ofList chars) ↔ Char.ofNat byte.toNat ∈ chars := by
  rw [RequestRendering.encode_ofList, List.mem_flatMap]
  constructor
  · rintro ⟨c, mem, inside⟩
    rw [← (mem_utf8EncodeChar low c).mp inside]
    exact mem
  · exact fun mem => ⟨_, mem, (mem_utf8EncodeChar low _).mpr rfl⟩

theorem encode_inj {left right : List Char} :
    encode (String.ofList left) = encode (String.ofList right) ↔ left = right := by
  rw [CapabilityAuth.encode_injective.eq_iff, String.ofList_inj]

/-! ### Components -/

/-- A segment that names an entry of a directory. -/
structure Exact (segment : Part) : Prop extends Plain segment where
  clear : Char.ofNat 0 ∉ segment

theorem component_eq_some {segment : Part} (whole : '/' ∉ segment) {output : CString} :
    component segment = some output ↔
      Exact segment ∧ output.bytes = encode (String.ofList segment) := by
  unfold component CString.new
  have nul := mem_encode (show (0 : UInt8) < 128 by decide) segment
  constructor
  · intro made
    split at made
    · exact nomatch made
    rename_i exact'
    rw [not_or, not_or] at exact'
    split at made
    · rename_i clear
      cases made
      exact ⟨⟨⟨exact'.1, exact'.2.1, exact'.2.2, whole⟩, fun mem => clear (nul.mpr mem)⟩, rfl⟩
    · exact nomatch made
  · rintro ⟨named, same⟩
    rw [if_neg (by
      rintro (h | h | h)
      · exact named.filled h
      · exact named.dot h
      · exact named.dots h), dif_pos fun mem => named.clear (nul.mp mem)]
    exact congrArg some (CString.ext same.symm)

theorem exactComponents_eq_some {body : List Char} {output : List CString} :
    exactComponents body = some output ↔
      (∀ segment ∈ body.splitOn '/', Exact segment) ∧
        output.map CString.bytes = (body.splitOn '/').map fun s => encode (String.ofList s) := by
  have whole := whole_of_mem_splitOn body
  have present := List.splitOn_ne_nil '/' body
  unfold exactComponents
  generalize body.splitOn '/' = segments at whole present
  have each : ∀ output, segments.mapM component = some output ↔
      (∀ segment ∈ segments, Exact segment) ∧
        output.map CString.bytes = segments.map fun s => encode (String.ofList s) := by
    clear present
    induction segments with
    | nil =>
      intro output
      rw [List.mapM_nil]
      cases output with
      | nil => simp
      | cons _ _ => simp
    | cons segment rest ih =>
      obtain ⟨first, later⟩ := List.forall_mem_cons.mp whole
      intro output
      rw [List.mapM_cons, Option.bind_eq_bind, Option.bind_eq_some_iff, List.forall_mem_cons,
        List.map_cons]
      constructor
      · rintro ⟨head, made, tail⟩
        obtain ⟨items, rest', same⟩ := Option.bind_eq_some_iff.mp tail
        cases same
        obtain ⟨named, bytes⟩ := (component_eq_some first).mp made
        obtain ⟨others, same⟩ := (ih later items).mp rest'
        exact ⟨⟨named, others⟩, by rw [List.map_cons, bytes, same]⟩
      · rintro ⟨⟨named, others⟩, same⟩
        cases output with
        | nil => exact absurd same.symm (List.cons_ne_nil _ _)
        | cons head items =>
          rw [List.map_cons, List.cons.injEq] at same
          exact ⟨head, (component_eq_some first).mpr ⟨named, same.1⟩,
            Option.bind_eq_some_iff.mpr ⟨items, (ih later items).mpr ⟨others, same.2⟩, rfl⟩⟩
  rw [Option.filter_eq_some_iff, each, decide_eq_true_iff]
  constructor
  · exact fun h => h.1
  · intro h
    refine ⟨h, ?_⟩
    rintro rfl
    exact present (List.map_eq_nil_iff.mp h.2.symm)

theorem exists_cStrings {α : Type*} (f : α → List UInt8) {items : List α}
    (clear : ∀ item ∈ items, 0 ∉ f item) :
    ∃ output : List CString, output.map CString.bytes = items.map f := by
  induction items with
  | nil => exact ⟨[], rfl⟩
  | cons item rest ih =>
    obtain ⟨first, later⟩ := List.forall_mem_cons.mp clear
    obtain ⟨output, same⟩ := ih later
    exact ⟨⟨f item, first⟩ :: output, congrArg (f item :: ·) same⟩

/-- Exact segments all become components. -/
theorem exists_exactComponents {body : List Char}
    (exact' : ∀ segment ∈ body.splitOn '/', Exact segment) :
    ∃ output, exactComponents body = some output := by
  obtain ⟨output, same⟩ := exists_cStrings (fun s => encode (String.ofList s))
    fun segment mem inside =>
      (exact' segment mem).clear ((mem_encode (by decide) segment).mp inside)
  exact ⟨output, exactComponents_eq_some.mpr ⟨exact', same⟩⟩

/-- A component in bytes is an entry's name as well. -/
theorem bytes_exact {segment : Part} (named : Exact segment) {bytes : List UInt8}
    (same : bytes = encode (String.ofList segment)) :
    bytes ≠ [] ∧ bytes ≠ [0x2e] ∧ bytes ≠ [0x2e, 0x2e] ∧ 0x2f ∉ bytes ∧ 0 ∉ bytes := by
  subst same
  refine ⟨?_, ?_, ?_, ?_, ?_⟩
  · exact fun h => named.filled (encode_inj.mp (h.trans (show [] = encode (String.ofList []) by rfl)))
  · exact fun h => named.dot (encode_inj.mp (h.trans (by decide)))
  · exact fun h => named.dots (encode_inj.mp (h.trans (by decide)))
  · exact fun mem => named.whole ((mem_encode (by decide) segment).mp mem)
  · exact fun mem => named.clear ((mem_encode (by decide) segment).mp mem)

theorem exactComponents_bytes {body : List Char} {output : List CString}
    (made : exactComponents body = some output) : ∀ part ∈ output, part.bytes ≠ [] ∧
      part.bytes ≠ [0x2e] ∧ part.bytes ≠ [0x2e, 0x2e] ∧ 0x2f ∉ part.bytes ∧ 0 ∉ part.bytes := by
  obtain ⟨exact', same⟩ := exactComponents_eq_some.mp made
  intro part mem
  have bytes := List.mem_map_of_mem (f := CString.bytes) mem
  rw [same] at bytes
  obtain ⟨segment, inside, equal⟩ := List.mem_map.mp bytes
  exact bytes_exact (exact' segment inside) equal.symm

/-- A body that starts with a slash starts with an empty segment. -/
theorem nil_mem_splitOn {α : Type*} [DecidableEq α] {a : α} {xs : List α}
    (front : xs.head? = some a) : [] ∈ xs.splitOn a := by
  cases xs with
  | nil => exact nomatch front
  | cons x rest =>
    rw [List.head?_cons, Option.some.injEq] at front
    rw [front, ← List.nil_append (a :: rest), List.splitOn_append_cons_self]
    exact List.mem_cons_self

end StrictPaths
