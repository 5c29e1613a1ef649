import TaskQueQue.IpAddresses

/-!
# Where client metadata may be fetched from

A resolved address is refused when it lies in a special-use block, and also when
its text cannot be read. Whether a text is an address at all, and of which
version, is the platform's `isIP`.
-/

namespace CimdNetwork

open IpAddresses JsonStrings

/-- `isIP` of `node:net`: `none` for 0. -/
abbrev IsIP := String → Option Version

def unbracket (value : List Char) : List Char :=
  if value.head? = some '[' ∧ value.getLast? = some ']' then (value.drop 1).dropLast else value

/-- `/^(0|[1-9][0-9]{0,2})$/`, and at most 255. -/
def parseByte (part : List Char) : Option Nat :=
  if part = ['0'] ∨ (part ≠ [] ∧ part.length ≤ 3 ∧ part.all Char.isDigit ∧ part.head? ≠ some '0')
  then (some (Nat.ofDigitChars 10 part 0)).filter fun byte => decide (byte ≤ 255)
  else none

def parseIpv4 (value : List Char) : Option (List Nat) :=
  let parts := value.splitOn '.'
  if parts.length ≠ 4 then none else parts.mapM parseByte

/-- `value.split("::")`. -/
def splitDouble : List Char → List (List Char)
  | [] => [[]]
  | [c] => [[c]]
  | c :: d :: rest =>
    if c = ':' ∧ d = ':' then [] :: splitDouble rest
    else (splitDouble (d :: rest)).modifyHead (c :: ·)

/-- What stands before the last colon and after it. Without one the whole is the
tail, and the slice up to it drops the last character. -/
def aroundLastColon (value : List Char) : List Char × List Char :=
  let tail := (value.reverse.takeWhile (· ≠ ':')).reverse
  if ':' ∈ value then (value.take (value.length - tail.length - 1), tail) else (value.dropLast, value)

/-- A trailing IPv4 address is rewritten as two groups. -/
def withoutQuad (value : List Char) : Option (List Char) :=
  let (before, tail) := aroundLastColon value
  if '.' ∈ tail then
    match parseIpv4 tail with
    | some [a, b, c, d] =>
      some (before ++ ':' :: (Nat.toDigits 16 (a * 256 + b) ++ ':' :: Nat.toDigits 16 (c * 256 + d)))
    | _ => none
  else some value

def pieces (half : List Char) : List (List Char) := if half = [] then [] else half.splitOn ':'

/-- `/^[0-9a-f]{1,4}$/`. -/
def groupText (part : List Char) : Bool :=
  decide (1 ≤ part.length ∧ part.length ≤ 4) &&
    part.all fun c => decide ('0' ≤ c ∧ c ≤ '9' ∨ 'a' ≤ c ∧ c ≤ 'f')

def expand (halves : List (List Char)) : Option (List (List Char)) :=
  let left := pieces (halves.getD 0 [])
  let right := if halves.length = 2 then pieces (halves.getD 1 []) else []
  if 2 < halves.length ∨ !left.all groupText ∨ !right.all groupText then none
  else if halves.length = 1 then if left.length ≠ 8 then none else some left
  else if 8 < left.length + right.length + 1 then none
  else some (left ++ List.replicate (8 - left.length - right.length) ['0'] ++ right)

def parseIpv6 (isIP : IsIP) (raw : List Char) : Option (List Nat) :=
  let value := unbracket (raw.map Char.toLower)
  if '%' ∈ value ∨ isIP (String.ofList value) ≠ some .v6 then none
  else
    (withoutQuad value).bind fun value =>
      (expand (splitDouble value)).map fun groups =>
        groups.flatMap fun group => [hexNumber group / 256 % 256, hexNumber group % 256]

def ipv4SpecialUse (bytes : List Nat) : Bool :=
  let a := bytes.getD 0 0
  let b := bytes.getD 1 0
  let c := bytes.getD 2 0
  decide (a = 0 ∨ a = 10 ∨ a = 127 ∨ (a = 100 ∧ 64 ≤ b ∧ b ≤ 127) ∨ (a = 169 ∧ b = 254) ∨
    (a = 172 ∧ 16 ≤ b ∧ b ≤ 31) ∨ (a = 192 ∧ b = 0 ∧ c = 0) ∨ (a = 192 ∧ b = 0 ∧ c = 2) ∨
    (a = 192 ∧ b = 88 ∧ c = 99) ∨ (a = 192 ∧ b = 168) ∨ (a = 198 ∧ (b = 18 ∨ b = 19)) ∨
    (a = 198 ∧ b = 51 ∧ c = 100) ∨ (a = 203 ∧ b = 0 ∧ c = 113) ∨ 224 ≤ a)

def prefixMatches (bytes stem : List Nat) (bits : Nat) : Bool :=
  let whole := bits / 8
  let remainder := bits % 8
  (List.range whole).all (fun index => bytes.getD index 0 == stem.getD index 0) &&
    (remainder == 0 ||
      let mask := (0xff <<< (8 - remainder)) &&& 0xff
      (bytes.getD whole 0 &&& mask) == (stem.getD whole 0 &&& mask))

def ipv6Prefixes : List (List Nat × Nat) :=
  [([0x00], 8), ([0x00, 0x64, 0xff, 0x9b, 0x00, 0x00, 0x00, 0x00, 0x00, 0x00, 0x00, 0x00], 96),
    ([0x01, 0x00, 0x00, 0x00, 0x00, 0x00, 0x00, 0x00], 64), ([0x20, 0x01, 0x00], 23),
    ([0x20, 0x01, 0x0d, 0xb8], 32), ([0x20, 0x02], 16), ([0x3f, 0xff, 0x00], 20), ([0xfc], 7),
    ([0xfe, 0x80], 10), ([0xff], 8)]

def ipv6SpecialUse (bytes : List Nat) : Bool :=
  ipv6Prefixes.any fun entry => prefixMatches bytes entry.1 entry.2

def isSpecialUseIpAddress (isIP : IsIP) (address : String) : Bool :=
  match isIP (String.ofList (unbracket address.toList)) with
  | some .v4 => (parseIpv4 address.toList).all ipv4SpecialUse
  | some .v6 => (parseIpv6 isIP address.toList).all ipv6SpecialUse
  | none => true

inductive CimdResolvedAddressValidation
  | ok (addresses : List String)
  | empty_resolution
  | too_many_addresses
  | invalid_address (address : String)
  | special_use_address (address : String)

/-- The set of the addresses seen, in the order they came. -/
def checkAddresses (isIP : IsIP) (unique : List String) :
    List String → CimdResolvedAddressValidation
  | [] => .ok unique
  | raw :: rest =>
    let address := String.ofList (unbracket raw.toList)
    if isIP address = none then .invalid_address raw
    else if isSpecialUseIpAddress isIP address then .special_use_address raw
    else checkAddresses isIP (if address ∈ unique then unique else unique ++ [address]) rest

def validateCimdResolvedAddresses (isIP : IsIP) (addresses : List String) :
    CimdResolvedAddressValidation :=
  if addresses.length = 0 then .empty_resolution
  else if 16 < addresses.length then .too_many_addresses
  else checkAddresses isIP [] addresses

/-! ### Reading the texts of addresses -/

theorem decimal_digits (n : Fin 256) : ∀ c ∈ Quad.decimal n, c.isDigit = true :=
  fun _ mem => Nat.isDigit_of_mem_toDigits (by decide) (by decide) mem

theorem decimal_apart {c : Char} (h : c.isDigit = false) (n : Fin 256) : c ∉ Quad.decimal n := by
  intro mem
  rw [decimal_digits n c mem] at h
  cases h

theorem parseByte_decimal : ∀ n : Fin 256, parseByte (Quad.decimal n) = some n.val := by
  decide +kernel

theorem parseIpv4_text (q : Quad) : parseIpv4 q.text = some q.bytes := by
  have dot := fun n => decimal_apart (c := '.') (by decide) n
  rw [parseIpv4, Quad.text, List.splitOn_append_cons_self_of_not_mem (dot q.a),
    List.splitOn_append_cons_self_of_not_mem (dot q.b),
    List.splitOn_append_cons_self_of_not_mem (dot q.c), List.splitOn_eq_singleton (dot q.d)]
  simp only [List.length_cons, List.length_nil, ne_eq, not_true_eq_false, if_false, List.mapM_cons,
    List.mapM_nil, parseByte_decimal, Option.pure_def, Option.bind_eq_bind, Option.bind_some]
  rfl

theorem quad_text_chars (q : Quad) : ∀ c ∈ q.text, c = '.' ∨ c.isDigit = true := by
  intro c mem
  simp only [Quad.text, List.mem_append, List.mem_cons] at mem
  have digits := fun n h => decimal_digits n c h
  rcases mem with h | h | h | h | h | h | h
  · exact Or.inr (digits _ h)
  · exact Or.inl h
  · exact Or.inr (digits _ h)
  · exact Or.inl h
  · exact Or.inr (digits _ h)
  · exact Or.inl h
  · exact Or.inr (digits _ h)

/-- A piece between colons. -/
def Plain (piece : List Char) : Prop := piece ≠ [] ∧ ':' ∉ piece

theorem splitDouble_piece {piece rest : List Char} (plain : ':' ∉ piece) :
    splitDouble (piece ++ rest) = (splitDouble rest).modifyHead (piece ++ ·) := by
  induction piece with
  | nil =>
    cases h : splitDouble rest with
    | nil => rw [List.nil_append, h]; rfl
    | cons half halves => rw [List.nil_append, h]; rfl
  | cons c piece ih =>
    rw [List.mem_cons, not_or] at plain
    rw [List.cons_append]
    cases h : piece ++ rest with
    | nil =>
      obtain ⟨rfl, rfl⟩ := List.append_eq_nil_iff.mp h
      rfl
    | cons d tail =>
      rw [splitDouble, if_neg (fun same => plain.1 same.1.symm), ← h, ih plain.2]
      cases splitDouble rest <;> rfl

/-- Pieces joined by single colons hold no double one, up to what follows them. -/
theorem splitDouble_join {parts : List (List Char)} (plain : ∀ part ∈ parts, Plain part)
    (rest : List Char) :
    splitDouble (join parts ++ rest) = (splitDouble rest).modifyHead (join parts ++ ·) := by
  induction parts with
  | nil => exact splitDouble_piece List.not_mem_nil
  | cons part parts ih =>
    rw [List.forall_mem_cons] at plain
    cases parts with
    | nil => exact splitDouble_piece plain.1.2
    | cons next parts =>
      have others := ih plain.2
      rw [join, List.append_assoc, splitDouble_piece plain.1.2]
      have single : splitDouble (':' :: (join (next :: parts) ++ rest)) =
          (splitDouble (join (next :: parts) ++ rest)).modifyHead (':' :: ·) := by
        obtain ⟨c, tail, shape, other⟩ : ∃ c tail, join (next :: parts) ++ rest = c :: tail ∧
            c ≠ ':' := by
          obtain ⟨c, tail, shape⟩ := List.exists_cons_of_ne_nil (plain.2 next List.mem_cons_self).1
          have other : c ≠ ':' := fun same => (plain.2 next List.mem_cons_self).2
            (by rw [shape, same]; exact List.mem_cons_self)
          cases parts with
          | nil => exact ⟨c, tail ++ rest, by rw [join, shape]; rfl, other⟩
          | cons after parts => exact ⟨c, _, by rw [join, shape]; rfl, other⟩
        rw [shape, splitDouble, if_neg (fun same => other same.2)]
      rw [List.cons_append, single, others]
      cases splitDouble rest with
      | nil => rfl
      | cons half halves => simp

theorem splitOn_join {parts : List (List Char)} (filled : parts ≠ [])
    (plain : ∀ part ∈ parts, Plain part) : (join parts).splitOn ':' = parts := by
  induction parts with
  | nil => exact absurd rfl filled
  | cons part parts ih =>
    rw [List.forall_mem_cons] at plain
    cases parts with
    | nil => exact List.splitOn_eq_singleton plain.1.2
    | cons next parts =>
      rw [join, List.splitOn_append_cons_self_of_not_mem plain.1.2, ih (List.cons_ne_nil _ _) plain.2]

theorem pieces_join {parts : List (List Char)} (plain : ∀ part ∈ parts, Plain part) :
    pieces (join parts) = parts := by
  cases parts with
  | nil => rfl
  | cons part parts =>
    rw [pieces, if_neg, splitOn_join (List.cons_ne_nil _ _) plain]
    rw [List.forall_mem_cons] at plain
    cases parts with
    | nil => exact plain.1.1
    | cons next parts =>
      rw [join]
      exact fun empty => plain.1.1 (List.append_eq_nil_iff.mp empty).1

theorem join_append {parts more : List (List Char)} (filled : parts ≠ []) (others : more ≠ []) :
    join (parts ++ more) = join parts ++ ':' :: join more := by
  induction parts with
  | nil => exact absurd rfl filled
  | cons part parts ih =>
    cases parts with
    | nil =>
      obtain ⟨next, more, rfl⟩ := List.exists_cons_of_ne_nil others
      rfl
    | cons next parts =>
      rw [List.cons_append, List.cons_append, join, ← List.cons_append, ih (List.cons_ne_nil _ _), join,
        List.append_assoc, List.cons_append]

theorem map_join {f : Char → Char} (colon : f ':' = ':') (parts : List (List Char)) :
    (join parts).map f = join (parts.map (List.map f)) := by
  induction parts with
  | nil => rfl
  | cons part parts ih =>
    cases parts with
    | nil => rfl
    | cons next parts =>
      rw [join, List.map_append, List.map_cons, colon, ih, List.map_cons, List.map_cons, List.map_cons,
        join]

theorem expand_full {groups : List (List Char)} (plain : ∀ group ∈ groups, Plain group)
    (good : ∀ group ∈ groups, groupText group = true) (full : groups.length = 8) :
    expand (splitDouble (join groups)) = some groups := by
  have halves := splitDouble_join plain []
  rw [List.append_nil] at halves
  have good' := List.all_eq_true.mpr good
  rw [halves]
  simp only [expand, splitDouble, List.modifyHead_cons, List.append_nil, List.getD_cons_zero,
    pieces_join plain, List.length_cons, List.length_nil, good', full]
  rfl

theorem expand_gap {left right : List (List Char)} (plainLeft : ∀ group ∈ left, Plain group)
    (plainRight : ∀ group ∈ right, Plain group) (goodLeft : ∀ group ∈ left, groupText group = true)
    (goodRight : ∀ group ∈ right, groupText group = true)
    (room : left.length + right.length < 8) :
    expand (splitDouble (join left ++ ':' :: ':' :: join right)) =
      some (left ++ List.replicate (8 - left.length - right.length) ['0'] ++ right) := by
  have rightHalf := splitDouble_join plainRight []
  rw [List.append_nil] at rightHalf
  have allLeft := List.all_eq_true.mpr goodLeft
  have allRight := List.all_eq_true.mpr goodRight
  rw [splitDouble_join plainLeft, splitDouble, if_pos ⟨rfl, rfl⟩, rightHalf]
  simp only [expand, splitDouble, List.modifyHead_cons, List.append_nil, List.getD_cons_zero,
    List.getD_cons_succ, pieces_join plainLeft, pieces_join plainRight, List.length_cons,
    List.length_nil, if_true, allLeft, allRight, Bool.not_true, Bool.false_eq_true, or_false]
  rw [if_neg (by omega), if_neg (by omega), if_neg (by omega)]

/-! ### The quad at the end -/

theorem aroundLastColon_append {before tail : List Char} (plain : ':' ∉ tail) :
    aroundLastColon (before ++ ':' :: tail) = (before, tail) := by
  have stop : ((before ++ ':' :: tail).reverse.takeWhile (· ≠ ':')).reverse = tail := by
    rw [List.reverse_append, List.reverse_cons, List.append_assoc, List.takeWhile_append_of_pos]
    · simp
    · intro c mem
      have inside := List.mem_reverse.mp mem
      exact decide_eq_true fun same => plain (same ▸ inside)
  rw [aroundLastColon]
  simp only [stop]
  rw [if_pos (List.mem_append_right _ List.mem_cons_self)]
  simp only [List.length_append, List.length_cons]
  rw [show before.length + (tail.length + 1) - tail.length - 1 = before.length by omega,
    List.take_left]

theorem withoutQuad_of_no_dot {value : List Char} (plain : '.' ∉ value) :
    withoutQuad value = some value := by
  have inside : '.' ∉ (aroundLastColon value).2 := by
    rw [aroundLastColon]
    split
    · intro mem
      exact plain (List.mem_reverse.mp ((List.takeWhile_sublist _).subset (List.mem_reverse.mp mem)))
    · exact plain
  rw [withoutQuad]
  simp only [inside, if_false]

/-- The digits of two bytes as one group. -/
def pair (high low : Fin 256) : List Char := Nat.toDigits 16 (high * 256 + low)

def quadGroups (q : Quad) : List (List Char) := [pair q.a q.b, pair q.c q.d]

theorem withoutQuad_quad (before : List Char) (q : Quad) :
    withoutQuad (before ++ ':' :: q.text) = some (before ++ ':' :: join (quadGroups q)) := by
  have plain : ':' ∉ q.text := fun mem => by
    rcases quad_text_chars q ':' mem with h | h
    · exact absurd h (by decide)
    · exact absurd h (by decide)
  have dot : '.' ∈ q.text := List.mem_append_right _ List.mem_cons_self
  rw [withoutQuad, aroundLastColon_append plain]
  simp only [dot, if_true, parseIpv4_text, Quad.bytes]
  rfl

/-! ### Groups of digits -/

theorem ascii_all {P : Char → Prop} (table : ∀ n : Fin 128, P (Char.ofNat n)) {c : Char}
    (low : c.toNat < 128) : P c := by
  have at_c := table ⟨c.toNat, low⟩
  rwa [Char.ofNat_toNat] at at_c

theorem hexadecimal_low {c : Char} (hex : hexadecimal c = true) : c.toNat < 128 := by
  have order : ∀ x y : Char, x ≤ y ↔ x.toNat ≤ y.toNat := fun _ _ => Iff.rfl
  rw [hexadecimal, hexValue?] at hex
  split at hex
  · rename_i h
    exact Nat.lt_of_le_of_lt ((order _ _).mp h.2) (by decide)
  split at hex
  · rename_i h
    exact Nat.lt_of_le_of_lt ((order _ _).mp h.2) (by decide)
  split at hex
  · rename_i h
    exact Nat.lt_of_le_of_lt ((order _ _).mp h.2) (by decide)
  · cases hex

/-- In lower case a hexadecimal digit has the same value, and the reader takes it. -/
theorem hexadecimal_lower {c : Char} (hex : hexadecimal c = true) :
    hexValue? c.toLower = hexValue? c ∧
      ('0' ≤ c.toLower ∧ c.toLower ≤ '9' ∨ 'a' ≤ c.toLower ∧ c.toLower ≤ 'f') ∧
      c.toLower ≠ ':' ∧ c.toLower ≠ '.' ∧ c.toLower ≠ '[' ∧ c.toLower ≠ '%' := by
  have table : ∀ n : Fin 128, hexadecimal (Char.ofNat n) = true →
      hexValue? (Char.ofNat n).toLower = hexValue? (Char.ofNat n) ∧
        ('0' ≤ (Char.ofNat n).toLower ∧ (Char.ofNat n).toLower ≤ '9' ∨
          'a' ≤ (Char.ofNat n).toLower ∧ (Char.ofNat n).toLower ≤ 'f') ∧
        (Char.ofNat n).toLower ≠ ':' ∧ (Char.ofNat n).toLower ≠ '.' ∧
        (Char.ofNat n).toLower ≠ '[' ∧ (Char.ofNat n).toLower ≠ '%' := by
    decide +kernel
  have at_c := table ⟨c.toNat, hexadecimal_low hex⟩
  rw [Char.ofNat_toNat] at at_c
  exact at_c hex

theorem hexNumber_append (digits : List Char) (c : Char) :
    hexNumber (digits ++ [c]) = hexNumber digits * 16 + (hexValue? c).getD 0 := by
  rw [hexNumber, hexNumber, List.foldl_append]
  rfl

theorem digitChar_hex : ∀ d : Fin 16, (hexValue? (Nat.digitChar d)).getD 0 = d.val ∧
    ('0' ≤ Nat.digitChar d ∧ Nat.digitChar d ≤ '9' ∨
      'a' ≤ Nat.digitChar d ∧ Nat.digitChar d ≤ 'f') := by
  decide

theorem hexNumber_toDigits (n : Nat) : hexNumber (Nat.toDigits 16 n) = n ∧
    ∀ c ∈ Nat.toDigits 16 n, '0' ≤ c ∧ c ≤ '9' ∨ 'a' ≤ c ∧ c ≤ 'f' := by
  induction n using Nat.strongRecOn with
  | ind n ih =>
    by_cases small : n < 16
    · rw [Nat.toDigits_of_lt_base small]
      have digit := digitChar_hex ⟨n, small⟩
      refine ⟨?_, List.forall_mem_singleton.mpr digit.2⟩
      rw [show [n.digitChar] = [] ++ [n.digitChar] from rfl, hexNumber_append, digit.1]
      exact Nat.zero_add n
    · rw [Nat.toDigits_of_base_le (by decide) (by omega)]
      have digit := digitChar_hex ⟨n % 16, by omega⟩
      obtain ⟨value, chars⟩ := ih (n / 16) (by omega)
      refine ⟨?_, fun c mem => ?_⟩
      · rw [hexNumber_append, value, digit.1]
        simp only
        omega
      · rcases List.mem_append.mp mem with mem | mem
        · exact chars c mem
        · rw [List.mem_singleton.mp mem]
          exact digit.2

/-- A group as the reader meets it. -/
structure Readable (group : List Char) (value : Nat) : Prop where
  plain : Plain group
  good : groupText group = true
  value : hexNumber group = value

theorem groupText_intro {group : List Char} (filled : group ≠ []) (short : group.length ≤ 4)
    (chars : ∀ c ∈ group, '0' ≤ c ∧ c ≤ '9' ∨ 'a' ≤ c ∧ c ≤ 'f') : groupText group = true := by
  rw [groupText, Bool.and_eq_true, decide_eq_true_eq, List.all_eq_true]
  exact ⟨⟨List.length_pos_iff.mpr filled, short⟩, fun c mem => decide_eq_true (chars c mem)⟩

theorem not_colon {c : Char} (h : '0' ≤ c ∧ c ≤ '9' ∨ 'a' ≤ c ∧ c ≤ 'f') : c ≠ ':' := by
  rintro rfl
  exact absurd h (by decide)

theorem pair_readable (high low : Fin 256) : Readable (pair high low) (high * 256 + low) := by
  obtain ⟨value, chars⟩ := hexNumber_toDigits (high * 256 + low)
  have filled : pair high low ≠ [] := Nat.toDigits_ne_nil
  have short : (pair high low).length ≤ 4 :=
    (Nat.length_toDigits_le_iff (by decide) (by decide)).mpr (by omega)
  exact ⟨⟨filled, fun mem => not_colon (chars _ mem) rfl⟩, groupText_intro filled short chars, value⟩

def lowerDigits (group : Group) : List Char := group.digits.map Char.toLower

theorem lowerDigits_chars (group : Group) :
    ∀ c ∈ lowerDigits group, ('0' ≤ c ∧ c ≤ '9' ∨ 'a' ≤ c ∧ c ≤ 'f') ∧
      c ≠ ':' ∧ c ≠ '.' ∧ c ≠ '[' ∧ c ≠ '%' := by
  intro c mem
  obtain ⟨d, inside, rfl⟩ := List.mem_map.mp mem
  exact (hexadecimal_lower (group.hex d inside)).2

theorem lowerDigits_readable (group : Group) :
    Readable (lowerDigits group) (hexNumber group.digits) := by
  have chars := lowerDigits_chars group
  have filled : lowerDigits group ≠ [] := fun empty => group.filled (List.map_eq_nil_iff.mp empty)
  refine ⟨⟨filled, fun mem => (chars _ mem).2.1 rfl⟩, groupText_intro filled ?_ fun c mem =>
    (chars c mem).1, ?_⟩
  · rw [lowerDigits, List.length_map]
    exact group.short
  · have same : ∀ digits : List Char, (∀ c ∈ digits, hexadecimal c = true) →
        ∀ n, (digits.map Char.toLower).foldl (fun n c => n * 16 + (hexValue? c).getD 0) n =
          digits.foldl (fun n c => n * 16 + (hexValue? c).getD 0) n := by
      intro digits
      induction digits with
      | nil => exact fun _ _ => rfl
      | cons c digits ih =>
        intro hex n
        rw [List.forall_mem_cons] at hex
        rw [List.map_cons, List.foldl_cons, List.foldl_cons, (hexadecimal_lower hex.1).1,
          ih hex.2]
    exact same group.digits group.hex 0

structure ReadableAll (groups : List (List Char)) (values : List Nat) : Prop where
  plain : ∀ group ∈ groups, Plain group
  good : ∀ group ∈ groups, groupText group = true
  value : groups.map hexNumber = values

theorem ReadableAll.append {left right : List (List Char)} {values others : List Nat}
    (hleft : ReadableAll left values) (hright : ReadableAll right others) :
    ReadableAll (left ++ right) (values ++ others) := by
  refine ⟨fun group mem => ?_, fun group mem => ?_, ?_⟩
  · exact (List.mem_append.mp mem).elim (hleft.plain group) (hright.plain group)
  · exact (List.mem_append.mp mem).elim (hleft.good group) (hright.good group)
  · rw [List.map_append, hleft.value, hright.value]

theorem lowerDigits_readableAll (groups : List Group) :
    ReadableAll (groups.map lowerDigits) (LongText.values groups) := by
  refine ⟨?_, ?_, ?_⟩
  · exact List.forall_mem_map.mpr fun group _ => (lowerDigits_readable group).plain
  · exact List.forall_mem_map.mpr fun group _ => (lowerDigits_readable group).good
  · rw [List.map_map]
    exact List.map_congr_left fun group _ => (lowerDigits_readable group).value

theorem quadGroups_readableAll (q : Quad) : ReadableAll (quadGroups q) q.groups := by
  have high := pair_readable q.a q.b
  have low := pair_readable q.c q.d
  refine ⟨?_, ?_, ?_⟩
  · simp only [quadGroups, List.forall_mem_cons, List.not_mem_nil, false_implies, implies_true,
      and_true]
    exact ⟨high.plain, low.plain⟩
  · simp only [quadGroups, List.forall_mem_cons, List.not_mem_nil, false_implies, implies_true,
      and_true]
    exact ⟨high.good, low.good⟩
  · rw [quadGroups, List.map_cons, List.map_cons, high.value, low.value]
    rfl

/-- The groups the reader gets from a text, the last bytes rewritten. -/
def lastGroups (t : LongText) : List (List Char) :=
  (t.right.getD []).map lowerDigits ++ t.quad.toList.flatMap quadGroups

def lastValues (t : LongText) : List Nat :=
  LongText.values (t.right.getD []) ++ t.quad.toList.flatMap Quad.groups

theorem lastGroups_readableAll (t : LongText) : ReadableAll (lastGroups t) (lastValues t) := by
  refine (lowerDigits_readableAll _).append ?_
  cases t.quad with
  | none => exact ⟨fun _ h => absurd h List.not_mem_nil, fun _ h => absurd h List.not_mem_nil, rfl⟩
  | some q =>
    rw [Option.toList_some, List.flatMap_singleton, List.flatMap_singleton]
    exact quadGroups_readableAll q

theorem length_lastGroups (t : LongText) :
    (lastGroups t).length = (t.right.getD []).length + 2 * t.quad.toList.length := by
  rw [lastGroups, List.length_append, List.length_map]
  cases t.quad <;> rfl

theorem quad_lower (q : Quad) : q.text.map Char.toLower = q.text := by
  refine (List.map_congr_left fun c mem => ?_).trans (List.map_id' _)
  rcases quad_text_chars q c mem with rfl | digit
  · rfl
  · have table : ∀ n : Fin 128, (Char.ofNat n).isDigit = true →
        (Char.ofNat n).toLower = Char.ofNat n := by decide +kernel
    have low : c.toNat < 128 := by
      rw [Char.isDigit, Bool.and_eq_true, decide_eq_true_eq, decide_eq_true_eq] at digit
      exact Nat.lt_of_le_of_lt digit.2 (by decide)
    have at_c := table ⟨c.toNat, low⟩
    rw [Char.ofNat_toNat] at at_c
    exact at_c digit

theorem no_dot_join {groups : List Group} : '.' ∉ join (groups.map lowerDigits) := by
  induction groups with
  | nil => exact List.not_mem_nil
  | cons group groups ih =>
    have own : '.' ∉ lowerDigits group := fun mem => (lowerDigits_chars group _ mem).2.2.1 rfl
    cases groups with
    | nil => exact own
    | cons next groups =>
      rw [List.map_cons, List.map_cons, join, List.mem_append, List.mem_cons]
      rintro (mem | mem | mem)
      · exact own mem
      · cases mem
      · exact ih mem

/-- The text in lower case. -/
theorem plain_lower (t : LongText) : t.plain.map Char.toLower =
    match t.right with
    | none => join (t.left.map lowerDigits ++ t.quad.toList.map Quad.text)
    | some right => join (t.left.map lowerDigits) ++
        ':' :: ':' :: join (right.map lowerDigits ++ t.quad.toList.map Quad.text) := by
  have groups : ∀ items : List Group,
      (items.map Group.digits).map (List.map Char.toLower) = items.map lowerDigits := fun items => by
    rw [List.map_map]
    rfl
  have quads : (t.quad.toList.map Quad.text).map (List.map Char.toLower) =
      t.quad.toList.map Quad.text := by
    rw [List.map_map]
    exact List.map_congr_left fun q _ => quad_lower q
  rw [LongText.plain, LongText.tail]
  cases t.right with
  | none =>
    simp only [Option.getD_none]
    rw [map_join rfl, List.map_append, groups, quads]
  | some right =>
    simp only [Option.getD_some]
    rw [List.map_append, List.map_cons, List.map_cons, map_join rfl, map_join rfl, List.map_append,
      groups, groups, quads]
    rfl

/-- What the reader makes of a text without a zone. -/
theorem read_plain (t : LongText) :
    (withoutQuad (t.plain.map Char.toLower)).bind (fun value => expand (splitDouble value)) =
      some (t.left.map lowerDigits ++
        List.replicate (8 - t.left.length - (lastGroups t).length) ['0'] ++ lastGroups t) := by
  have left := lowerDigits_readableAll t.left
  have last := lastGroups_readableAll t
  have count := length_lastGroups t
  rw [plain_lower]
  rcases t.fits with ⟨room, gap⟩ | ⟨full, noGap⟩
  · obtain ⟨right, hright⟩ := Option.isSome_iff_exists.mp gap
    rw [hright, Option.getD_some] at count room
    have result := expand_gap left.plain last.plain left.good last.good
      (by rw [List.length_map]; omega)
    rw [List.length_map] at result
    rw [← result, hright]
    cases hquad : t.quad with
    | none =>
      have text : lastGroups t = right.map lowerDigits := by
        rw [lastGroups, hright, hquad]
        exact List.append_nil _
      simp only [Option.toList_none, List.map_nil, List.append_nil, text]
      rw [withoutQuad_of_no_dot]
      · rfl
      · simp only [List.mem_append, List.mem_cons, not_or]
        exact ⟨no_dot_join, by decide, by decide, no_dot_join⟩
    | some q =>
      have text : lastGroups t = right.map lowerDigits ++ quadGroups q := by
        rw [lastGroups, hright, hquad]
        exact congrArg _ (List.flatMap_singleton _ _)
      simp only [Option.toList_some, List.map_cons, List.map_nil, text]
      cases right with
      | nil =>
        have quadText := withoutQuad_quad (join (t.left.map lowerDigits) ++ [':']) q
        simp only [List.append_assoc, List.singleton_append] at quadText
        simp only [List.map_nil, List.nil_append, join, quadText]
        rfl
      | cons group right =>
        have filled : (group :: right).map lowerDigits ≠ [] := List.cons_ne_nil _ _
        have quadText := withoutQuad_quad (join (t.left.map lowerDigits) ++
          ':' :: ':' :: join ((group :: right).map lowerDigits)) q
        rw [List.append_assoc, List.cons_append, List.cons_append, List.append_assoc,
          List.cons_append, List.cons_append] at quadText
        rw [join_append filled (List.cons_ne_nil _ _),
          join_append filled (show quadGroups q ≠ [] from List.cons_ne_nil _ _), join, quadText]
        rfl
  · rw [noGap, Option.getD_none, List.length_nil] at count
    rw [noGap]
    have both := left.append last
    have result := expand_full both.plain both.good
      (by rw [List.length_append, List.length_map]; omega)
    rw [show 8 - t.left.length - (lastGroups t).length = 0 by omega, List.replicate_zero,
      List.append_nil, ← result]
    cases hquad : t.quad with
    | none =>
      have text : lastGroups t = [] := by rw [lastGroups, noGap, hquad]; rfl
      simp only [Option.toList_none, List.map_nil, List.append_nil, text]
      rw [withoutQuad_of_no_dot no_dot_join]
      rfl
    | some q =>
      have text : lastGroups t = quadGroups q := by
        rw [lastGroups, noGap, hquad]
        exact List.flatMap_singleton _ _
      rw [hquad, Option.toList_some, List.length_singleton] at full
      have filled : t.left.map lowerDigits ≠ [] := fun empty => by
        rw [List.map_eq_nil_iff] at empty
        rw [empty] at full
        cases full
      simp only [Option.toList_some, List.map_cons, List.map_nil, text]
      rw [join_append filled (List.cons_ne_nil _ _),
        join_append filled (show quadGroups q ≠ [] from List.cons_ne_nil _ _), join, withoutQuad_quad]
      rfl

theorem mem_join {c : Char} {parts : List (List Char)} (mem : c ∈ join parts) :
    c = ':' ∨ ∃ part ∈ parts, c ∈ part := by
  induction parts with
  | nil => exact absurd mem List.not_mem_nil
  | cons part parts ih =>
    cases parts with
    | nil => exact Or.inr ⟨part, List.mem_cons_self, mem⟩
    | cons next parts =>
      rw [join, List.mem_append, List.mem_cons] at mem
      rcases mem with mem | mem | mem
      · exact Or.inr ⟨part, List.mem_cons_self, mem⟩
      · exact Or.inl mem
      · rcases ih mem with colon | ⟨other, among, inside⟩
        · exact Or.inl colon
        · exact Or.inr ⟨other, List.mem_cons_of_mem _ among, inside⟩

/-- The characters of a text without a zone, in lower case. -/
theorem plain_chars (t : LongText) : ∀ c ∈ t.plain.map Char.toLower,
    c = ':' ∨ c = '.' ∨ '0' ≤ c ∧ c ≤ '9' ∨ 'a' ≤ c ∧ c ≤ 'f' := by
  have groups : ∀ items : List Group, ∀ c ∈ join (items.map lowerDigits),
      c = ':' ∨ c = '.' ∨ '0' ≤ c ∧ c ≤ '9' ∨ 'a' ≤ c ∧ c ≤ 'f' := by
    intro items c mem
    rcases mem_join mem with colon | ⟨part, among, inside⟩
    · exact Or.inl colon
    · obtain ⟨group, _, rfl⟩ := List.mem_map.mp among
      exact Or.inr (Or.inr (lowerDigits_chars group c inside).1)
  have ending : ∀ items : List Group,
      ∀ c ∈ join (items.map lowerDigits ++ t.quad.toList.map Quad.text),
        c = ':' ∨ c = '.' ∨ '0' ≤ c ∧ c ≤ '9' ∨ 'a' ≤ c ∧ c ≤ 'f' := by
    intro items c mem
    rcases mem_join mem with colon | ⟨part, among, inside⟩
    · exact Or.inl colon
    · rcases List.mem_append.mp among with among | among
      · obtain ⟨group, _, rfl⟩ := List.mem_map.mp among
        exact Or.inr (Or.inr (lowerDigits_chars group c inside).1)
      · obtain ⟨q, _, rfl⟩ := List.mem_map.mp among
        rcases quad_text_chars q c inside with dot | digit
        · exact Or.inr (Or.inl dot)
        · rw [Char.isDigit, Bool.and_eq_true, decide_eq_true_eq, decide_eq_true_eq] at digit
          exact Or.inr (Or.inr (Or.inl digit))
  rw [plain_lower]
  cases t.right with
  | none => exact ending t.left
  | some right =>
    intro c mem
    simp only [List.mem_append, List.mem_cons] at mem
    rcases mem with before | colon | colon | after
    · exact groups t.left c before
    · exact Or.inl colon
    · exact Or.inl colon
    · exact ending right c after

theorem no_bracket (t : LongText) : '[' ∉ t.plain.map Char.toLower := by
  intro mem
  rcases plain_chars t '[' mem with colon | dot | digit
  · cases colon
  · cases dot
  · exact absurd digit (by decide)

theorem plain_filled (t : LongText) : t.plain ≠ [] := by
  rw [LongText.plain]
  rcases t.fits with ⟨_, gap⟩ | ⟨full, noGap⟩
  · obtain ⟨right, hright⟩ := Option.isSome_iff_exists.mp gap
    rw [hright]
    exact fun empty => List.cons_ne_nil _ _ (List.append_eq_nil_iff.mp empty).2
  · rw [noGap]
    simp only [LongText.tail, noGap, Option.getD_none]
    cases hleft : t.left with
    | nil =>
      rw [hleft] at full
      cases hquad : t.quad <;> rw [hquad] at full <;> cases full
    | cons group left =>
      intro empty
      rw [List.map_cons, List.cons_append] at empty
      cases hrest : left.map Group.digits ++ t.quad.toList.map Quad.text with
      | nil =>
        rw [hrest] at empty
        exact group.filled empty
      | cons next rest =>
        rw [hrest, join] at empty
        exact group.filled (List.append_eq_nil_iff.mp empty).1

theorem unbracket_text (t : LongText) :
    unbracket (t.text.map Char.toLower) = t.text.map Char.toLower := by
  rw [unbracket, if_neg]
  rintro ⟨head, _⟩
  obtain ⟨c, rest, shape⟩ := List.exists_cons_of_ne_nil (plain_filled t)
  have other : c.toLower ≠ '[' := fun same => no_bracket t
    (by rw [shape, List.map_cons, same]; exact List.mem_cons_self)
  rw [LongText.text] at head
  cases hzone : t.zone with
  | none =>
    rw [hzone, shape] at head
    exact other (Option.some.inj head)
  | some zone =>
    rw [hzone, shape] at head
    exact other (Option.some.inj head)

theorem map_bytes_eq {groups : List (List Char)} {values : List Nat}
    (h : groups.map hexNumber = values) :
    groups.flatMap (fun group => [hexNumber group / 256 % 256, hexNumber group % 256]) =
      values.flatMap fun group => [group / 256 % 256, group % 256] := by
  rw [← h, List.flatMap_map]

/-- The bytes of a text that is read are those it denotes. -/
theorem parseIpv6_sound {isIP : IsIP} {t : LongText} {bytes : List Nat}
    (h : parseIpv6 isIP t.text = some bytes) : bytes = t.bytes := by
  rw [parseIpv6, unbracket_text] at h
  cases hzone : t.zone with
  | some zone =>
    have sign : '%' ∈ t.text.map Char.toLower := by
      rw [LongText.text, hzone, List.map_append, List.map_cons]
      exact List.mem_append_right _ List.mem_cons_self
    rw [if_pos (Or.inl sign)] at h
    cases h
  | none =>
    split at h
    · cases h
    have text : t.text = t.plain := by rw [LongText.text, hzone]
    have values : (t.left.map lowerDigits ++
        List.replicate (8 - t.left.length - (lastGroups t).length) ['0'] ++ lastGroups t).map
          hexNumber = t.groups := by
      rw [List.map_append, List.map_append, (lowerDigits_readableAll t.left).value,
        (lastGroups_readableAll t).value, List.map_replicate, LongText.groups]
      have same : (lastGroups t).length = (lastValues t).length := by
        rw [← (lastGroups_readableAll t).value, List.length_map]
      rw [same]
      rfl
    have read := read_plain t
    rw [← text] at read
    obtain ⟨rewritten, found, expanded⟩ := Option.bind_eq_some_iff.mp read
    rw [found, Option.bind_some, expanded, Option.map_some] at h
    rw [← Option.some.inj h, LongText.bytes]
    exact map_bytes_eq values

/-! ### Special use -/

/-- The special-use blocks of version 4. -/
def ipv4Blocks : List (List Nat × Nat) :=
  [([0], 8), ([10], 8), ([127], 8), ([100, 64], 10), ([169, 254], 16), ([172, 16], 12),
    ([192, 0, 0], 24), ([192, 0, 2], 24), ([192, 88, 99], 24), ([192, 168], 16), ([198, 18], 15),
    ([198, 51, 100], 24), ([203, 0, 113], 24), ([224], 3)]

def SpecialUse (address : Address) : Prop :=
  (∃ entry ∈ ipv4Blocks, (Block.mk .v4 entry.1 entry.2).Contains address) ∨
    ∃ entry ∈ ipv6Prefixes, (Block.mk .v6 entry.1 entry.2).Contains address

/-- What is assumed of the platform: `isIP` knows the texts of addresses. -/
structure FollowsGrammar (isIP : IsIP) : Prop where
  four : ∀ text, isIP text = some .v4 ↔ ∃ q : Quad, text.toList = q.text
  six : ∀ text, isIP text = some .v6 ↔ ∃ t : LongText, text.toList = t.text

theorem getD_lt {bytes : List Nat} (small : ∀ byte ∈ bytes, byte < 256) (w : Nat) :
    bytes.getD w 0 < 256 := by
  rw [List.getD]
  cases entry : bytes[w]? with
  | none => exact Nat.zero_lt_succ _
  | some byte => exact small byte (List.mem_of_getElem? entry)

theorem masked_eq {x y r : Nat} (h : x / 2 ^ (8 - r) = y / 2 ^ (8 - r)) :
    x &&& ((0xff <<< (8 - r)) &&& 0xff) = y &&& ((0xff <<< (8 - r)) &&& 0xff) := by
  apply Nat.eq_of_testBit_eq
  intro i
  simp only [Nat.testBit_and, Nat.testBit_shiftLeft]
  by_cases high : 8 - r ≤ i
  · have top := congrArg (fun n => n.testBit (i - (8 - r))) h
    simp only [Nat.testBit_div_two_pow, show i - (8 - r) + (8 - r) = i by omega] at top
    rw [top]
  · rw [decide_eq_false high, Bool.false_and, Bool.false_and, Bool.and_false, Bool.and_false]

theorem prefixMatches_of_agree {bytes stem : List Nat} {bits : Nat}
    (agree : ∀ i < bits, bit bytes i = bit stem i) (hbytes : ∀ byte ∈ bytes, byte < 256)
    (hstem : ∀ byte ∈ stem, byte < 256) : prefixMatches bytes stem bits = true := by
  rw [prefixMatches, Bool.and_eq_true, List.all_eq_true]
  constructor
  · intro index mem
    have covered := List.mem_range.mp mem
    exact beq_iff_eq.mpr
      (whole_byte agree (by omega) (getD_lt hbytes index) (getD_lt hstem index))
  · rw [Bool.or_eq_true]
    right
    have top := top_bits (w := bits / 8) (r := bits % 8) agree (by omega) (by omega)
      (getD_lt hbytes _) (getD_lt hstem _)
    exact beq_iff_eq.mpr (masked_eq top)

theorem quad_bytes_small (q : Quad) : ∀ byte ∈ q.bytes, byte < 256 := by
  simp only [Quad.bytes, List.forall_mem_cons, List.not_mem_nil, false_implies, implies_true,
    and_true]
  exact ⟨q.a.isLt, q.b.isLt, q.c.isLt, q.d.isLt⟩

theorem long_bytes_small (t : LongText) : ∀ byte ∈ t.bytes, byte < 256 := by
  intro byte mem
  obtain ⟨group, _, inside⟩ := List.mem_flatMap.mp mem
  rw [List.mem_cons, List.mem_singleton] at inside
  omega

/-- What a block's bits say of the first three bytes. -/
structure Leads (bytes stem : List Nat) (bits : Nat) : Prop where
  whole : ∀ w, 8 * w + 8 ≤ bits → bytes.getD w 0 = stem.getD w 0
  top : ∀ w r, 8 * w + r ≤ bits → r < 8 → bytes.getD w 0 / 2 ^ (8 - r) = stem.getD w 0 / 2 ^ (8 - r)

theorem ipv4SpecialUse_of_block {bytes stem : List Nat} {bits : Nat}
    (listed : (stem, bits) ∈ ipv4Blocks) (leads : Leads bytes stem bits) :
    ipv4SpecialUse bytes = true := by
  have first : 8 ≤ bits → bytes.getD 0 0 = stem.getD 0 0 := leads.whole 0
  have second : 16 ≤ bits → bytes.getD 1 0 = stem.getD 1 0 := leads.whole 1
  have third : 24 ≤ bits → bytes.getD 2 0 = stem.getD 2 0 := leads.whole 2
  have high := leads.top 0 3
  have middle := leads.top 1
  rw [ipv4SpecialUse]
  apply decide_eq_true
  generalize bytes.getD 0 0 = a at *
  generalize bytes.getD 1 0 = b at *
  generalize bytes.getD 2 0 = c at *
  simp only [ipv4Blocks, List.mem_cons, List.not_mem_nil, or_false, Prod.mk.injEq] at listed
  rcases listed with ⟨rfl, rfl⟩ | ⟨rfl, rfl⟩ | ⟨rfl, rfl⟩ | ⟨rfl, rfl⟩ | ⟨rfl, rfl⟩ | ⟨rfl, rfl⟩ |
    ⟨rfl, rfl⟩ | ⟨rfl, rfl⟩ | ⟨rfl, rfl⟩ | ⟨rfl, rfl⟩ | ⟨rfl, rfl⟩ | ⟨rfl, rfl⟩ | ⟨rfl, rfl⟩ |
    ⟨rfl, rfl⟩
  · exact Or.inl (first (by decide))
  · iterate 1 right
    exact Or.inl (first (by decide))
  · iterate 2 right
    exact Or.inl (first (by decide))
  · have b0 : b / 64 = 1 := middle 2 (by decide) (by decide)
    iterate 3 right
    exact Or.inl ⟨first (by decide), by omega, by omega⟩
  · iterate 4 right
    exact Or.inl ⟨first (by decide), second (by decide)⟩
  · have b0 : b / 16 = 1 := middle 4 (by decide) (by decide)
    iterate 5 right
    exact Or.inl ⟨first (by decide), by omega, by omega⟩
  · iterate 6 right
    exact Or.inl ⟨first (by decide), second (by decide), third (by decide)⟩
  · iterate 7 right
    exact Or.inl ⟨first (by decide), second (by decide), third (by decide)⟩
  · iterate 8 right
    exact Or.inl ⟨first (by decide), second (by decide), third (by decide)⟩
  · iterate 9 right
    exact Or.inl ⟨first (by decide), second (by decide)⟩
  · have b0 : b / 2 = 9 := middle 7 (by decide) (by decide)
    iterate 10 right
    exact Or.inl ⟨first (by decide), by omega⟩
  · iterate 11 right
    exact Or.inl ⟨first (by decide), second (by decide), third (by decide)⟩
  · iterate 12 right
    exact Or.inl ⟨first (by decide), second (by decide), third (by decide)⟩
  · have a0 : a / 32 = 7 := high (by decide) (by decide)
    iterate 13 right
    omega

theorem ipv6SpecialUse_of_block {bytes : List Nat} (small : ∀ byte ∈ bytes, byte < 256)
    {entry : List Nat × Nat} (listed : entry ∈ ipv6Prefixes)
    (agree : ∀ i < entry.2, bit bytes i = bit entry.1 i) : ipv6SpecialUse bytes = true := by
  have stems : ∀ entry ∈ ipv6Prefixes, ∀ byte ∈ entry.1, byte < 256 := by decide
  exact List.any_eq_true.mpr ⟨entry, listed, prefixMatches_of_agree agree small (stems entry listed)⟩

theorem unbracket_of_head {value : List Char} (other : value.head? ≠ some '[') :
    unbracket value = value := by
  rw [unbracket, if_neg fun both => other both.1]

theorem quad_head (q : Quad) : q.text.head? ≠ some '[' := by
  intro head
  rcases quad_text_chars q '[' (List.mem_of_mem_head? head) with dot | digit
  · cases dot
  · exact absurd digit (by decide)

theorem long_head (t : LongText) : t.text.head? ≠ some '[' := by
  intro head
  obtain ⟨c, rest, shape⟩ := List.exists_cons_of_ne_nil (plain_filled t)
  have first : t.text.head? = some c := by
    rw [LongText.text]
    cases t.zone <;> rw [shape] <;> rfl
  rw [first] at head
  refine no_bracket t ?_
  rw [shape, List.map_cons, Option.some.inj head]
  exact List.mem_cons_self

/-- However an address is spelled, it is refused if it lies in a special-use block. -/
theorem special_detected {isIP : IsIP} (grammar : FollowsGrammar isIP) {text : String}
    {address : Address} (denotes : Denotes text.toList address) (special : SpecialUse address) :
    isSpecialUseIpAddress isIP text = true := by
  rw [isSpecialUseIpAddress]
  generalize spelled : text.toList = chars at denotes
  cases denotes with
  | quad q =>
    have four : isIP text = some .v4 := (grammar.four text).mpr ⟨q, spelled⟩
    rw [unbracket_of_head (quad_head q), ← spelled, String.ofList_toList, four]
    simp only [spelled, parseIpv4_text, Option.all_some]
    rcases special with ⟨⟨stem, bits⟩, listed, _, agree⟩ | ⟨_, _, other, _⟩
    · have stems : ∀ entry ∈ ipv4Blocks, ∀ byte ∈ entry.1, byte < 256 := by decide
      have hq := getD_lt (quad_bytes_small q)
      have hs := getD_lt (stems _ listed)
      exact ipv4SpecialUse_of_block listed
        ⟨fun w covered => whole_byte agree covered (hq w) (hs w),
          fun w r covered small => top_bits agree covered small (hq w) (hs w)⟩
    · cases other
  | long t =>
    have six : isIP text = some .v6 := (grammar.six text).mpr ⟨t, spelled⟩
    rw [unbracket_of_head (long_head t), ← spelled, String.ofList_toList, six]
    simp only [spelled]
    cases parsed : parseIpv6 isIP t.text with
    | none => rfl
    | some bytes =>
      rw [parseIpv6_sound parsed, Option.all_some]
      rcases special with ⟨_, _, other, _⟩ | ⟨entry, listed, _, agree⟩
      · cases other
      · exact ipv6SpecialUse_of_block (long_bytes_small t) listed agree

/-- An address the policy lets through. -/
structure Admitted (isIP : IsIP) (address : String) : Prop where
  version : isIP address ≠ none
  ordinary : isSpecialUseIpAddress isIP address = false

/-- An admitted text denotes an address, and none in a special-use block. -/
theorem Admitted.denotes {isIP : IsIP} (grammar : FollowsGrammar isIP) {text : String}
    (h : Admitted isIP text) :
    (∃ address, Denotes text.toList address) ∧
      ∀ address, Denotes text.toList address → ¬ SpecialUse address := by
  constructor
  · cases version : isIP text with
    | none => exact absurd version h.version
    | some version' =>
      cases version' with
      | v4 =>
        obtain ⟨q, spelled⟩ := (grammar.four text).mp version
        exact ⟨_, spelled ▸ Denotes.quad q⟩
      | v6 =>
        obtain ⟨t, spelled⟩ := (grammar.six text).mp version
        exact ⟨_, spelled ▸ Denotes.long t⟩
  · intro address denotes special
    have refused := special_detected grammar denotes special
    rw [h.ordinary] at refused
    cases refused

/-! ### Resolved sets -/

theorem checkAddresses_ok {isIP : IsIP} {unique answers addresses : List String}
    (distinct : unique.Nodup) (h : checkAddresses isIP unique answers = .ok addresses) :
    addresses.Nodup ∧ (∀ address ∈ unique, address ∈ addresses) ∧
      (∀ address ∈ addresses, address ∈ unique ∨
        ∃ raw ∈ answers, address = String.ofList (unbracket raw.toList)) ∧
      ∀ raw ∈ answers, Admitted isIP (String.ofList (unbracket raw.toList)) := by
  induction answers generalizing unique with
  | nil =>
    cases h
    exact ⟨distinct, fun _ mem => mem, fun _ mem => Or.inl mem, fun _ mem => absurd mem List.not_mem_nil⟩
  | cons raw answers ih =>
    rw [checkAddresses] at h
    split at h
    · cases h
    rename_i version
    split at h
    · cases h
    rename_i ordinary
    have admitted : Admitted isIP (String.ofList (unbracket raw.toList)) :=
      ⟨version, Bool.eq_false_iff.mpr ordinary⟩
    split at h
    · obtain ⟨nodup, kept, from', all⟩ := ih distinct h
      refine ⟨nodup, kept, fun address mem => ?_, List.forall_mem_cons.mpr ⟨admitted, all⟩⟩
      rcases from' address mem with mem | ⟨raw', among, same⟩
      · exact Or.inl mem
      · exact Or.inr ⟨raw', List.mem_cons_of_mem _ among, same⟩
    · rename_i fresh
      have distinct' : (unique ++ [String.ofList (unbracket raw.toList)]).Nodup := by
        rw [List.nodup_append]
        refine ⟨distinct, List.pairwise_singleton _ _, fun a ha b hb => ?_⟩
        rw [List.mem_singleton.mp hb]
        exact fun same => fresh (same ▸ ha)
      obtain ⟨nodup, kept, from', all⟩ := ih distinct' h
      refine ⟨nodup, fun address mem => kept address (List.mem_append_left _ mem),
        fun address mem => ?_, List.forall_mem_cons.mpr ⟨admitted, all⟩⟩
      rcases from' address mem with mem | ⟨raw', among, same⟩
      · rcases List.mem_append.mp mem with mem | mem
        · exact Or.inl mem
        · exact Or.inr ⟨raw, List.mem_cons_self, List.mem_singleton.mp mem⟩
      · exact Or.inr ⟨raw', List.mem_cons_of_mem _ among, same⟩

/-- The validated set: no address twice, each one an answer, and every answer admitted. -/
theorem validateCimdResolvedAddresses_ok {isIP : IsIP} {answers addresses : List String}
    (h : validateCimdResolvedAddresses isIP answers = .ok addresses) :
    addresses.Nodup ∧ (∀ address ∈ addresses,
        ∃ raw ∈ answers, address = String.ofList (unbracket raw.toList)) ∧
      ∀ raw ∈ answers, Admitted isIP (String.ofList (unbracket raw.toList)) := by
  rw [validateCimdResolvedAddresses] at h
  split at h
  · cases h
  split at h
  · cases h
  obtain ⟨nodup, _, from', all⟩ := checkAddresses_ok List.nodup_nil h
  exact ⟨nodup, fun address mem => (from' address mem).resolve_left List.not_mem_nil, all⟩

/-! ### A platform that follows the grammar -/

def readQuad (text : List Char) : Option Quad :=
  match parseIpv4 text with
  | some [a, b, c, d] =>
    if h : a < 256 ∧ b < 256 ∧ c < 256 ∧ d < 256 then
      let q : Quad := ⟨⟨a, h.1⟩, ⟨b, h.2.1⟩, ⟨c, h.2.2.1⟩, ⟨d, h.2.2.2⟩⟩
      if q.text = text then some q else none
    else none
  | _ => none

theorem readQuad_text (q : Quad) : readQuad q.text = some q := by
  have small : q.a.val < 256 ∧ q.b.val < 256 ∧ q.c.val < 256 ∧ q.d.val < 256 :=
    ⟨q.a.isLt, q.b.isLt, q.c.isLt, q.d.isLt⟩
  rw [readQuad, parseIpv4_text, Quad.bytes]
  dsimp only
  rw [dif_pos small, if_pos rfl]

theorem readQuad_some {text : List Char} {q : Quad} (h : readQuad text = some q) :
    text = q.text := by
  rw [readQuad] at h
  split at h
  · split at h
    · dsimp only at h
      split at h
      · rename_i same
        cases h
        exact same.symm
      · cases h
    · cases h
  · cases h

/-- An `isIP` that knows the grammar. -/
noncomputable def grammarIsIP : IsIP := fun text =>
  if (readQuad text.toList).isSome then some .v4
  else if ':' ∈ text.toList then
    open Classical in if ∃ t : LongText, text.toList = t.text then some .v6 else none
  else none

theorem colon_of_join {first second : List Char} {rest : List (List Char)} :
    ':' ∈ join (first :: second :: rest) := by
  rw [join]
  exact List.mem_append_right _ List.mem_cons_self

theorem colon_of_long (t : LongText) : ':' ∈ t.text := by
  have plain : ':' ∈ t.plain := by
    rw [LongText.plain]
    cases gap : t.right with
    | some right => exact List.mem_append_right _ List.mem_cons_self
    | none =>
      have long : 2 ≤ t.tail.length := by
        have quads : t.quad.toList.length ≤ 1 := Option.length_toList_le
        have fits := t.fits
        rw [gap] at fits
        rw [LongText.tail, gap, List.length_append, List.length_map, List.length_map]
        rcases fits with ⟨_, none⟩ | ⟨full, _⟩
        · cases none
        · rw [Option.getD_none]
          omega
      cases pieces : t.tail with
      | nil =>
        rw [pieces] at long
        cases long
      | cons first others =>
        cases others with
        | nil =>
          rw [pieces] at long
          exact absurd long (by rw [List.length_singleton]; decide)
        | cons second rest => exact colon_of_join
  rw [LongText.text]
  cases t.zone with
  | none => exact plain
  | some zone => exact List.mem_append_left _ plain

theorem no_colon_quad (q : Quad) : ':' ∉ q.text := by
  intro mem
  rcases quad_text_chars q ':' mem with dot | digit
  · cases dot
  · exact absurd digit (by decide)

theorem grammarIsIP_follows : FollowsGrammar grammarIsIP := by
  constructor
  · intro text
    rw [grammarIsIP]
    constructor
    · intro four
      split at four
      · rename_i isQuad
        obtain ⟨q, known⟩ := Option.isSome_iff_exists.mp isQuad
        exact ⟨q, readQuad_some known⟩
      · split at four
        · split at four <;> cases four
        · cases four
    · rintro ⟨q, spelled⟩
      rw [spelled, readQuad_text]
      rfl
  · intro text
    rw [grammarIsIP]
    constructor
    · intro six
      split at six
      · cases six
      · split at six
        · split at six
          · assumption
          · cases six
        · cases six
    · rintro ⟨t, spelled⟩
      have notQuad : ¬ (readQuad text.toList).isSome := by
        intro isQuad
        obtain ⟨q, known⟩ := Option.isSome_iff_exists.mp isQuad
        refine no_colon_quad q ?_
        rw [← readQuad_some known, spelled]
        exact colon_of_long t
      rw [if_neg notQuad, if_pos (spelled ▸ colon_of_long t), if_pos ⟨t, spelled⟩]

end CimdNetwork
