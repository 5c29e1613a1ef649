/-!
# String literals of JSON

A reader takes one character of a literal at a time, plain or escaped, and stops
at the quotation mark. A writer escapes each character by itself; it is sound
when the reader takes every escape back for the character it stands for, and
then whole literals are read back, whatever follows them.

Surrogate escapes are read in pairs. A text is a sequence of scalar values, so a
lone surrogate, which names none, is not read.
-/

namespace JsonStrings

def hexValue? (c : Char) : Option Nat :=
  if '0' ≤ c ∧ c ≤ '9' then some (c.toNat - '0'.toNat)
  else if 'a' ≤ c ∧ c ≤ 'f' then some (c.toNat - 'a'.toNat + 10)
  else if 'A' ≤ c ∧ c ≤ 'F' then some (c.toNat - 'A'.toNat + 10)
  else none

/-- The code unit four hexadecimal digits name. -/
def readUnit : List Char → Option (Nat × List Char)
  | a :: b :: c :: d :: rest =>
    match hexValue? a, hexValue? b, hexValue? c, hexValue? d with
    | some a, some b, some c, some d => some (((a * 16 + b) * 16 + c) * 16 + d, rest)
    | _, _, _, _ => none
  | _ => none

def readUnicode (text : List Char) : Option (Char × List Char) :=
  match readUnit text with
  | none => none
  | some (unit, rest) =>
    if unit < 0xD800 ∨ 0xDFFF < unit then some (Char.ofNat unit, rest)
    else
      match rest with
      | '\\' :: 'u' :: rest =>
        match readUnit rest with
        | none => none
        | some (low, rest) =>
          if unit ≤ 0xDBFF ∧ 0xDC00 ≤ low ∧ low ≤ 0xDFFF then
            some (Char.ofNat (0x10000 + (unit - 0xD800) * 1024 + (low - 0xDC00)), rest)
          else none
      | _ => none

/-- What follows a reverse solidus. -/
def readEscape : List Char → Option (Char × List Char)
  | [] => none
  | c :: rest =>
    if c = '"' ∨ c = '\\' ∨ c = '/' then some (c, rest)
    else if c = 'b' then some (Char.ofNat 8, rest)
    else if c = 'f' then some (Char.ofNat 12, rest)
    else if c = 'n' then some ('\n', rest)
    else if c = 'r' then some ('\r', rest)
    else if c = 't' then some ('\t', rest)
    else if c = 'u' then readUnicode rest
    else none

/-- One character of a literal; the quotation mark that ends it is none. -/
def readChar : List Char → Option (Char × List Char)
  | [] => none
  | c :: rest =>
    if c = '\\' then readEscape rest
    else if c = '"' ∨ c.toNat < 32 then none
    else some (c, rest)

/-- The rest of a literal and what follows it. -/
def readInside : Nat → List Char → Option (List Char × List Char)
  | 0, _ => none
  | fuel + 1, text =>
    if text.head? = some '"' then some ([], text.tail)
    else
      match readChar text with
      | none => none
      | some (c, rest) => (readInside fuel rest).map fun inside => (c :: inside.1, inside.2)

/-- A writer's escapes, one character at a time. -/
def Sound (escape : Char → List Char) : Prop :=
  ∀ c rest, readChar (escape c ++ rest) = some (c, rest)

section Writers

variable {escape : Char → List Char}

theorem escape_head (sound : Sound escape) (c : Char) :
    ∃ head tail, escape c = head :: tail ∧ head ≠ '"' := by
  cases h : escape c with
  | nil =>
    have stuck := sound c []
    rw [h, List.nil_append, readChar] at stuck
    cases stuck
  | cons head tail =>
    refine ⟨head, tail, rfl, ?_⟩
    rintro rfl
    have stuck := sound c []
    rw [h, List.cons_append, readChar, if_neg (by decide), if_pos (Or.inl rfl)] at stuck
    cases stuck

/-- One character is taken off, if it is not the end. -/
theorem readInside_step {text rest : List Char} {c : Char} {fuel : Nat}
    (taken : readChar text = some (c, rest)) (open_ : text.head? ≠ some '"') :
    readInside (fuel + 1) text =
      (readInside fuel rest).map fun inside => (c :: inside.1, inside.2) := by
  rw [readInside, if_neg open_, taken]

theorem readInside_flatMap (sound : Sound escape) (content rest : List Char) {fuel : Nat}
    (enough : content.length < fuel) :
    readInside fuel (content.flatMap escape ++ '"' :: rest) = some (content, rest) := by
  induction content generalizing fuel with
  | nil =>
    obtain ⟨fuel, rfl⟩ := Nat.exists_eq_add_of_lt enough
    rfl
  | cons c content ih =>
    obtain ⟨fuel, rfl⟩ : ∃ k, fuel = k + 1 := ⟨fuel - 1, by simp at enough; omega⟩
    obtain ⟨head, tail, shape, other⟩ := escape_head sound c
    rw [List.flatMap_cons, List.append_assoc]
    rw [readInside_step (sound c _) (by simpa [shape] using other)]
    rw [ih (by simp only [List.length_cons] at enough; omega)]
    rfl

end Writers

/-! ### The escapes of a code unit -/

def hexChar (n : Nat) : Char :=
  if n < 10 then Char.ofNat (48 + n) else Char.ofNat (87 + n)

theorem hexValue?_hexChar : ∀ n : Fin 16, hexValue? (hexChar n) = some n.val := by decide

/-- A control character, written as its code unit. -/
theorem readChar_unit {c : Char} (control : c.toNat < 32) (rest : List Char) :
    readChar ('\\' :: 'u' :: '0' :: '0' :: hexChar (c.toNat / 16) :: hexChar (c.toNat % 16) :: rest) =
      some (c, rest) := by
  have high := hexValue?_hexChar ⟨c.toNat / 16, by omega⟩
  have low := hexValue?_hexChar ⟨c.toNat % 16, by omega⟩
  have zero : hexValue? '0' = some 0 := by decide
  have unit : readUnit ('0' :: '0' :: hexChar (c.toNat / 16) :: hexChar (c.toNat % 16) :: rest) =
      some (c.toNat, rest) := by
    simp only [readUnit, zero, high, low, Option.some.injEq, Prod.mk.injEq, and_true]
    omega
  have scalar : c.toNat < 0xD800 ∨ 0xDFFF < c.toNat := by omega
  have taken : readUnicode
      ('0' :: '0' :: hexChar (c.toNat / 16) :: hexChar (c.toNat % 16) :: rest) = some (c, rest) := by
    rw [readUnicode, unit]
    simp only [scalar, if_true, Char.ofNat_toNat]
  exact taken

theorem readChar_plain {c : Char} (open_ : c ≠ '"') (solid : c ≠ '\\') (visible : 32 ≤ c.toNat)
    (rest : List Char) : readChar (c :: rest) = some (c, rest) := by
  rw [readChar, if_neg solid, if_neg]
  rintro (h | h)
  · exact open_ h
  · omega

/-- The escapes `JSON.stringify` writes. -/
def quoteChar (c : Char) : List Char :=
  if c = '"' ∨ c = '\\' then ['\\', c]
  else if c.toNat = 8 then ['\\', 'b']
  else if c.toNat = 9 then ['\\', 't']
  else if c.toNat = 10 then ['\\', 'n']
  else if c.toNat = 12 then ['\\', 'f']
  else if c.toNat = 13 then ['\\', 'r']
  else if c.toNat < 32 then
    ['\\', 'u', '0', '0', hexChar (c.toNat / 16), hexChar (c.toNat % 16)]
  else [c]

def quote (content : List Char) : List Char := '"' :: content.flatMap quoteChar ++ ['"']

theorem eq_of_toNat {c d : Char} (h : c.toNat = d.toNat) : c = d :=
  Char.toNat_inj.mp h

theorem quoteChar_sound : Sound quoteChar := by
  intro c rest
  unfold quoteChar
  split
  · rename_i h
    rcases h with rfl | rfl <;> rfl
  split
  · rename_i h
    rw [eq_of_toNat (d := Char.ofNat 8) h]
    rfl
  split
  · rename_i h
    rw [eq_of_toNat (d := '\t') h]
    rfl
  split
  · rename_i h
    rw [eq_of_toNat (d := '\n') h]
    rfl
  split
  · rename_i h
    rw [eq_of_toNat (d := Char.ofNat 12) h]
    rfl
  split
  · rename_i h
    rw [eq_of_toNat (d := '\r') h]
    rfl
  split
  · rename_i control
    exact readChar_unit control rest
  · rename_i special _ _ _ _ _ visible
    exact readChar_plain (fun h => special (Or.inl h)) (fun h => special (Or.inr h)) (by omega) rest

/-- A written literal is read back, whatever follows. -/
theorem readInside_quote (content rest : List Char) {fuel : Nat} (enough : content.length < fuel) :
    readInside fuel (content.flatMap quoteChar ++ '"' :: rest) = some (content, rest) :=
  readInside_flatMap quoteChar_sound content rest enough

/-! ### Texts that need no escapes -/

/-- A character `JSON.stringify` leaves as it is, in one byte. -/
def unescaped (c : Char) : Bool := decide (32 ≤ c.toNat ∧ c.toNat < 128 ∧ c ≠ '"' ∧ c ≠ '\\')

theorem quoteChar_unescaped {c : Char} (plain : unescaped c = true) :
    quoteChar c = [c] := by
  obtain ⟨visible, _, open_, solid⟩ := of_decide_eq_true plain
  rw [quoteChar, if_neg (by simp [open_, solid])]
  repeat rw [if_neg (by omega)]

theorem quote_unescaped {content : List Char} (plain : ∀ c ∈ content, unescaped c = true) :
    quote content = '"' :: (content ++ ['"']) := by
  have kept : content.flatMap quoteChar = content := by
    induction content with
    | nil => rfl
    | cons c content ih =>
      rw [List.forall_mem_cons] at plain
      rw [List.flatMap_cons, quoteChar_unescaped plain.1, ih plain.2]
      rfl
  rw [quote, kept]
  rfl

end JsonStrings
