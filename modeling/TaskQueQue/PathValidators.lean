import TaskQueQue.FaultyDirectories
import TaskQueQue.GatewayValues
import TaskQueQue.StrictPaths
import TaskQueQue.Utf16Texts

/-!
# The two validators of a mutation's path

The gateway judges the path of a filesystem mutation as a string of code units, cut by
JavaScript. The helper judges the bytes it is given in an argument. Whatever the string,
they agree on whether it is a path and on the components it has, and those lead from the
root downwards.
-/

namespace PathValidators

open GatewayValues PosixPaths StrictPaths Utf16Texts
open CapabilityAuth (encode)
open FaultyDirectories (IoError)

/-! ### The gateway -/

structure FilesystemMutationBoundaryError where
  status : Nat
  code : String
  message : String
  details : List (String × Json) := []

def MAX_MUTATION_PATH_BYTES : Nat := 4096

def invalidMutationPath (message : String) : FilesystemMutationBoundaryError :=
  { status := 400, code := "invalid_path", message := message }

/-- A value that is no string is `none`. -/
def validateMutationPath : Option Units → Except FilesystemMutationBoundaryError Units
  | none => .error (invalidMutationPath "path must be a relative string")
  | some value =>
    if value.length = 0 ∨ MAX_MUTATION_PATH_BYTES < (encodeUnits value).length ∨ 0 ∈ value ∨
        0x5c ∈ value ∨ value.head? = some 0x2f then
      .error (invalidMutationPath "path is not a valid delegated relative path")
    else if (value.splitOn 0x2f).any fun segment =>
        decide (segment.length = 0 ∨ segment = [0x2e] ∨ segment = [0x2e, 0x2e]) then
      .error (invalidMutationPath "path components must be exact and may not contain dot traversal")
    else .ok value

/-! ### The helper -/

inductive MutationError
  | invalidRoot
  | invalidPath
  | payloadTooLarge
  | committedDurabilityUnknown (error : IoError)
  | io (error : IoError)
deriving DecidableEq

def invalidPath (absolute : Bool) : MutationError :=
  if absolute then .invalidRoot else .invalidPath

def startsWithSlash (raw : String) : Bool := decide (raw.toList.head? = some '/')

def strictComponents (path : List UInt8) (absolute : Bool) :
    Except MutationError (List CString) :=
  match toStr path with
  | none => .error (invalidPath absolute)
  | some raw =>
    if malformed raw then .error (invalidPath absolute)
    else if absolute && (!startsWithSlash raw || decide (raw = "/")) then .error .invalidRoot
    else if !absolute && startsWithSlash raw then .error .invalidPath
    else
      match exactComponents (if absolute then raw.toList.drop 1 else raw.toList) with
      | some output => .ok output
      | none => .error (invalidPath absolute)

/-! ### Agreement -/

/-- A text of ASCII units is the only one with its characters. -/
theorem characters_eq_ascii {text : Units} (ascii : ∀ unit ∈ text, asciiUnit unit = true)
    (units : Units) : characters units = text.map (fun unit => Char.ofNat unit.toNat) ↔
      units = text := by
  constructor
  · intro same
    induction text generalizing units with
    | nil => exact characters_eq_nil.mp same
    | cons unit rest ih =>
      obtain ⟨first, later⟩ := List.forall_mem_cons.mp ascii
      rw [List.map_cons] at same
      cases units with
      | nil => exact absurd same.symm (List.cons_ne_nil _ _)
      | cons found others =>
        have front : found = unit := by
          cases others with
          | nil =>
            rw [characters_single, List.cons.injEq] at same
            exact (single_eq_iff first).mp same.1
          | cons next others =>
            by_cases paired : (highSurrogate found && lowSurrogate next) = true
            · have inside := (mem_characters first (found :: next :: others)).mp (by
                rw [same]
                exact List.mem_cons_self)
              rw [characters_pair others paired, List.cons.injEq] at same
              have beyond := toNat_pair paired
              rw [same.1, toNat_ofNat_small (by
                have small := of_decide_eq_true first
                omega)] at beyond
              have range := unit.toNat_lt
              omega
            · rw [characters_apart others paired, List.cons.injEq] at same
              exact (single_eq_iff first).mp same.1
        subst front
        rw [characters_cons_ascii first, List.cons.injEq] at same
        rw [ih later others same.2]
  · rintro rfl
    induction units with
    | nil => rfl
    | cons unit rest ih =>
      obtain ⟨first, later⟩ := List.forall_mem_cons.mp ascii
      rw [characters_cons_ascii first, ih later, List.map_cons]

/-- The bytes that reach the helper are text. -/
theorem toStr_encodeUnits (value : Units) :
    toStr (encodeUnits value) = some (String.ofList (characters value)) :=
  RequestRendering.fromUTF8?_encode _

theorem utf8ByteSize_characters (value : Units) :
    (String.ofList (characters value)).utf8ByteSize = (encodeUnits value).length :=
  (RequestRendering.length_encode _).symm

theorem mem_encodeUnits {unit : UInt16} {byte : UInt8} (low : byte < 128)
    (same : unit.toNat = byte.toNat) (value : Units) : byte ∈ encodeUnits value ↔ unit ∈ value := by
  have small := UInt8.lt_iff_toNat_lt.mp low
  rw [encodeUnits, mem_encode low, ← same]
  exact mem_characters (decide_eq_true (by rw [same]; exact small)) value

theorem malformed_characters (value : Units) :
    malformed (String.ofList (characters value)) = true ↔
      value.length = 0 ∨ MAX_MUTATION_PATH_BYTES < (encodeUnits value).length ∨ 0 ∈ value ∨
        0x5c ∈ value := by
  have nul := @mem_encodeUnits 0 0 (by decide) rfl value
  have back : '\\' ∈ characters value ↔ (0x5c : UInt16) ∈ value :=
    @mem_characters 0x5c (by decide) value
  have empty : String.ofList (characters value) = "" ↔ value = [] := by
    rw [← characters_eq_nil]
    exact @String.ofList_inj (characters value) []
  unfold malformed
  simp only [Bool.or_eq_true, decide_eq_true_eq, List.contains_iff_mem, String.toList_ofList,
    utf8ByteSize_characters, empty, back, or_assoc, List.length_eq_zero_iff, MAX_MUTATION_PATH_BYTES,
    MAX_PATH_BYTES]
  rw [show encode (String.ofList (characters value)) = encodeUnits value from rfl, nul]

/-- What a segment of code units must be. -/
structure ExactUnits (segment : Units) : Prop where
  filled : segment ≠ []
  dot : segment ≠ [0x2e]
  dots : segment ≠ [0x2e, 0x2e]
  whole : 0x2f ∉ segment
  clear : 0 ∉ segment

theorem exact_characters (segment : Units) : Exact (characters segment) ↔ ExactUnits segment := by
  have dot := @characters_eq_ascii [0x2e] (List.forall_mem_singleton.mpr rfl) segment
  have dots := @characters_eq_ascii [0x2e, 0x2e]
    (List.forall_mem_cons.mpr ⟨rfl, List.forall_mem_singleton.mpr rfl⟩) segment
  have slash := @mem_characters 0x2f (by decide) segment
  have nul := @mem_characters 0 (by decide) segment
  constructor
  · rintro ⟨⟨filled, single, double, whole⟩, clear⟩
    exact ⟨fun h => filled (characters_eq_nil.mpr h), fun h => single (dot.mpr h),
      fun h => double (dots.mpr h), fun h => whole (slash.mpr h), fun h => clear (nul.mpr h)⟩
  · rintro ⟨filled, single, double, whole, clear⟩
    exact ⟨⟨fun h => filled (characters_eq_nil.mp h), fun h => single (dot.mp h),
      fun h => double (dots.mp h), fun h => whole (slash.mp h)⟩, fun h => clear (nul.mp h)⟩

/-- What either validator asks of a path. -/
structure Acceptable (value : Units) : Prop where
  bounded : (encodeUnits value).length ≤ MAX_MUTATION_PATH_BYTES
  clear : 0 ∉ value
  forward : 0x5c ∉ value
  exact : ∀ segment ∈ value.splitOn 0x2f, ExactUnits segment

/-- The empty string has an empty segment, and so has an absolute path. -/
theorem Acceptable.relative {value : Units} (ok : Acceptable value) :
    value ≠ [] ∧ value.head? ≠ some 0x2f := by
  constructor
  · rintro rfl
    exact (ok.exact [] (by decide)).filled rfl
  · exact fun front => (ok.exact [] (nil_mem_splitOn front)).filled rfl

theorem acceptable_iff (value : Units) : Acceptable value ↔
    ¬ (value.length = 0 ∨ MAX_MUTATION_PATH_BYTES < (encodeUnits value).length ∨ 0 ∈ value ∨
      0x5c ∈ value) ∧ ∀ segment ∈ value.splitOn 0x2f, ExactUnits segment := by
  constructor
  · intro ok
    refine ⟨?_, ok.exact⟩
    rintro (empty | long | nul | back)
    · exact ok.relative.1 (List.length_eq_zero_iff.mp empty)
    · exact absurd ok.bounded (Nat.not_le.mpr long)
    · exact ok.clear nul
    · exact ok.forward back
  · rintro ⟨sound, exact'⟩
    rw [not_or, not_or, not_or] at sound
    exact ⟨Nat.not_lt.mp sound.2.1, sound.2.2.1, sound.2.2.2, exact'⟩

theorem validateMutationPath_eq_ok (value path : Units) :
    validateMutationPath (some value) = .ok path ↔ path = value ∧ Acceptable value := by
  have own := notMem_of_mem_splitOn (0x2f : UInt16) value
  have inside : ∀ segment ∈ value.splitOn 0x2f, ∀ unit ∈ segment, unit ∈ value := by
    rw [List.splitOn_eq_splitOnP]
    exact mem_of_mem_splitOnP value
  constructor
  · intro accepted
    rw [validateMutationPath] at accepted
    split at accepted
    · exact nomatch accepted
    rename_i sound
    split at accepted
    · exact nomatch accepted
    rename_i segments
    cases accepted
    simp only [not_or] at sound
    refine ⟨rfl, Nat.not_lt.mp sound.2.1, sound.2.2.1, sound.2.2.2.1, fun segment mem => ?_⟩
    have plain : ¬ (segment.length = 0 ∨ segment = [0x2e] ∨ segment = [0x2e, 0x2e]) :=
      fun h => segments (List.any_eq_true.mpr ⟨segment, mem, decide_eq_true h⟩)
    rw [not_or, not_or, List.length_eq_zero_iff] at plain
    exact ⟨plain.1, plain.2.1, plain.2.2, own segment mem,
      fun nul => sound.2.2.1 (inside segment mem 0 nul)⟩
  · rintro ⟨rfl, ok⟩
    have sound := ((acceptable_iff path).mp ok).1
    simp only [not_or] at sound
    rw [validateMutationPath, if_neg, if_neg]
    · rw [List.any_eq_true]
      rintro ⟨segment, mem, dotted⟩
      have named := ok.exact segment mem
      rcases of_decide_eq_true dotted with h | h | h
      · exact named.filled (List.length_eq_zero_iff.mp h)
      · exact named.dot h
      · exact named.dots h
    · simp only [not_or]
      exact ⟨sound.1, sound.2.1, sound.2.2.1, sound.2.2.2, ok.relative.2⟩

/-- The helper takes a relative path's bytes exactly if the string is acceptable. -/
theorem strictComponents_encodeUnits (value : Units) (components : List CString) :
    strictComponents (encodeUnits value) false = .ok components ↔ Acceptable value ∧
      components.map CString.bytes = (value.splitOn 0x2f).map encodeUnits := by
  have split := @characters_splitOn 0x2f (by decide) value
  have segments : (∀ segment ∈ (characters value).splitOn '/', Exact segment) ↔
      ∀ segment ∈ value.splitOn 0x2f, ExactUnits segment := by
    rw [show '/' = Char.ofNat (0x2f : UInt16).toNat from rfl, split, List.forall_mem_map]
    exact forall₂_congr fun segment _ => exact_characters segment
  have bytes : ((characters value).splitOn '/').map (fun s => encode (String.ofList s)) =
      (value.splitOn 0x2f).map encodeUnits := by
    rw [show '/' = Char.ofNat (0x2f : UInt16).toNat from rfl, split, List.map_map]
    rfl
  have taken : exactComponents (characters value) = some components ↔
      (∀ segment ∈ value.splitOn 0x2f, ExactUnits segment) ∧
        components.map CString.bytes = (value.splitOn 0x2f).map encodeUnits := by
    rw [exactComponents_eq_some, segments, bytes]
  have absolute : startsWithSlash (String.ofList (characters value)) = true →
      ¬ ∀ segment ∈ value.splitOn 0x2f, ExactUnits segment := by
    intro front exact'
    have head := of_decide_eq_true front
    rw [String.toList_ofList] at head
    exact (segments.mpr exact' [] (nil_mem_splitOn head)).filled rfl
  rw [acceptable_iff, and_assoc, ← taken, ← malformed_characters]
  unfold strictComponents
  rw [toStr_encodeUnits]
  dsimp only
  rw [Bool.false_and, Bool.not_false, Bool.true_and, if_neg Bool.false_ne_true,
    if_neg Bool.false_ne_true, String.toList_ofList]
  constructor
  · intro accepted
    split at accepted
    · exact nomatch accepted
    rename_i sound
    split at accepted
    · exact nomatch accepted
    split at accepted
    · rename_i made
      cases accepted
      exact ⟨sound, made⟩
    · exact nomatch accepted
  · rintro ⟨sound, made⟩
    rw [if_neg sound, if_neg fun front => absolute front (taken.mp made).1, made]

/-- Both accept the same strings, and see the same components: names, each of which leads
one step further down from wherever the root is. -/
theorem validateMutationPath_iff_strictComponents (value : Units) :
    ((∃ path, validateMutationPath (some value) = .ok path) ↔
      ∃ components, strictComponents (encodeUnits value) false = .ok components) ∧
    (∀ path, validateMutationPath (some value) = .ok path → path = value) ∧
    ∀ components, strictComponents (encodeUnits value) false = .ok components →
      components.map CString.bytes = (value.splitOn 0x2f).map encodeUnits ∧
      (∀ segment ∈ value.splitOn 0x2f, ExactUnits segment) ∧
      (∀ component ∈ components, component.bytes ≠ [] ∧ component.bytes ≠ [0x2e] ∧
        component.bytes ≠ [0x2e, 0x2e] ∧ 0x2f ∉ component.bytes ∧ 0 ∉ component.bytes) ∧
      ∀ root : String, segments (root ++ "/" ++ String.ofList (characters value)) =
        segments root ++ (value.splitOn 0x2f).map characters := by
  refine ⟨?_, fun path accepted => ((validateMutationPath_eq_ok value path).mp accepted).1, ?_⟩
  · constructor
    · rintro ⟨path, accepted⟩
      have ok := ((validateMutationPath_eq_ok value path).mp accepted).2
      obtain ⟨components, same⟩ := exists_cStrings encodeUnits fun segment mem inside =>
        (ok.exact segment mem).clear ((mem_encodeUnits (by decide) rfl segment).mp inside)
      exact ⟨components, (strictComponents_encodeUnits value components).mpr ⟨ok, same⟩⟩
    · rintro ⟨components, accepted⟩
      have ok := ((strictComponents_encodeUnits value components).mp accepted).1
      exact ⟨value, (validateMutationPath_eq_ok value value).mpr ⟨rfl, ok⟩⟩
  · intro components accepted
    obtain ⟨ok, same⟩ := (strictComponents_encodeUnits value components).mp accepted
    have parts : split (String.ofList (characters value)) =
        (value.splitOn 0x2f).map characters := by
      rw [split, String.toList_ofList]
      exact @characters_splitOn 0x2f (by decide) value
    refine ⟨same, ok.exact, fun component mem => ?_, fun root => ?_⟩
    · have bytes := List.mem_map_of_mem (f := CString.bytes) mem
      rw [same] at bytes
      obtain ⟨segment, inside, equal⟩ := List.mem_map.mp bytes
      exact bytes_exact ((exact_characters segment).mpr (ok.exact segment inside)) equal.symm
    · rw [segments_below root, parts]
      rw [parts, List.forall_mem_map]
      exact fun segment mem => ((exact_characters segment).mpr (ok.exact segment mem)).toPlain

end PathValidators
