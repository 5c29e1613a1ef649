import TaskQueQue.GatewayValues
import TaskQueQue.JsonStrings

/-!
# JSON values as texts

`JSON.stringify` writes no white space and keeps the order of an object's keys;
`JSON.parse` skips white space and reads any well-formed text. How numbers are
written and read is the platform's: a format names the numbers it can hold,
writes each of them so that reading gives it back, and writes safe integers in
decimal.

An object lists its array indices first and in ascending order, then its other
keys as they were set. Texts whose objects repeat a key or are not in that order
are read by the platform into another value; the laws below leave them out.
-/

namespace JsonText

open GatewayValues JsonStrings

def whiteSpace (c : Char) : Bool := c == ' ' || c == '\n' || c == '\r' || c == '\t'

def skipWhite (text : List Char) : List Char := text.dropWhile whiteSpace

def numberChar (c : Char) : Bool := c.isDigit || "+-.eE".toList.contains c

def MAX_SAFE_INTEGER : Nat := 9007199254740991

structure NumberFormat where
  exact : ℚ → Prop
  write : ℚ → List Char
  read : List Char → Option ℚ
  shape : ∀ q, exact q → write q ≠ [] ∧ ∀ c ∈ write q, numberChar c = true
  returns : ∀ q, exact q → read (write q) = some q
  lands : ∀ token q, read token = some q → exact q
  integer : ∀ n : Int, n.natAbs ≤ MAX_SAFE_INTEGER → exact n ∧ write n = (toString n).toList

variable (format : NumberFormat)

/-! ### Writing -/

mutual

def render : Json → List Char
  | .null => "null".toList
  | .bool true => "true".toList
  | .bool false => "false".toList
  | .num value => format.write value
  | .str value => quote value.toList
  | .arr items => '[' :: ((renderItems items).tail ++ [']'])
  | .obj fields => '\x7b' :: ((renderFields fields).tail ++ ['\x7d'])

/-- Each item after a comma; the first comma is dropped by the array. -/
def renderItems : List Json → List Char
  | [] => []
  | item :: items => ',' :: (render item ++ renderItems items)

def renderFields : List (String × Json) → List Char
  | [] => []
  | (key, value) :: fields => ',' :: (quote key.toList ++ ':' :: (render value ++ renderFields fields))

end

/-! ### Reading -/

def keyword (word : String) (value : Json) (text : List Char) : Option (Json × List Char) :=
  if word.toList.isPrefixOf text then some (value, text.drop word.length) else none

def readString (text : List Char) : Option (List Char × List Char) :=
  match text with
  | '"' :: rest => readInside (rest.length + 1) rest
  | _ => none

mutual

def readValue : Nat → List Char → Option (Json × List Char)
  | 0, _ => none
  | fuel + 1, text =>
    match skipWhite text with
    | [] => none
    | c :: rest =>
      if c = '"' then
        (readInside (rest.length + 1) rest).map fun inside => (.str (String.ofList inside.1), inside.2)
      else if c = '[' then
        if (skipWhite rest).head? = some ']' then some (.arr [], (skipWhite rest).tail)
        else (readItems fuel rest).map fun items => (.arr items.1, items.2)
      else if c = '\x7b' then
        if (skipWhite rest).head? = some '\x7d' then some (.obj [], (skipWhite rest).tail)
        else (readFields fuel rest).map fun fields => (.obj fields.1, fields.2)
      else if c = 'n' then keyword "null" .null (c :: rest)
      else if c = 't' then keyword "true" (.bool true) (c :: rest)
      else if c = 'f' then keyword "false" (.bool false) (c :: rest)
      else
        (format.read ((c :: rest).takeWhile numberChar)).map fun value =>
          (.num value, (c :: rest).dropWhile numberChar)

/-- Items up to and with the closing bracket. -/
def readItems : Nat → List Char → Option (List Json × List Char)
  | 0, _ => none
  | fuel + 1, text =>
    match readValue fuel text with
    | none => none
    | some (item, rest) =>
      match skipWhite rest with
      | [] => none
      | c :: rest =>
        if c = ']' then some ([item], rest)
        else if c = ',' then (readItems fuel rest).map fun items => (item :: items.1, items.2)
        else none

def readFields : Nat → List Char → Option (List (String × Json) × List Char)
  | 0, _ => none
  | fuel + 1, text =>
    match skipWhite text with
    | [] => none
    | c :: rest =>
      if c ≠ '"' then none
      else
        match readInside (rest.length + 1) rest with
        | none => none
        | some (key, rest) =>
          match skipWhite rest with
          | [] => none
          | c :: rest =>
            if c ≠ ':' then none
            else
              match readValue fuel rest with
              | none => none
              | some (value, rest) =>
                match skipWhite rest with
                | [] => none
                | c :: rest =>
                  if c = '\x7d' then some ([(String.ofList key, value)], rest)
                  else if c = ',' then
                    (readFields fuel rest).map fun fields =>
                      ((String.ofList key, value) :: fields.1, fields.2)
                  else none

end

def read (text : List Char) : Option Json :=
  match readValue format (text.length + 1) text with
  | none => none
  | some (value, rest) => if skipWhite rest = [] then some value else none

/-! ### Values a platform holds -/

/-- The array index a key spells, in its one canonical spelling. -/
def arrayIndex? (key : String) : Option Nat :=
  let digits := key.toList
  if digits = [] ∨ digits.all Char.isDigit = false ∨ (digits.head? = some '0' ∧ digits ≠ ['0']) then
    none
  else (some (Nat.ofDigitChars 10 digits 0)).filter fun n => decide (n < 4294967295)

/-- Which of two keys of an object comes first. -/
def Precedes (left right : String) : Prop :=
  match arrayIndex? left, arrayIndex? right with
  | some m, some n => m < n
  | none, some _ => False
  | _, none => left ≠ right

instance (left right : String) : Decidable (Precedes left right) := by
  unfold Precedes
  split <;> infer_instance

mutual

/-- Numbers the format holds, and objects in the order the platform keeps. -/
def Normal : Json → Prop
  | .num value => format.exact value
  | .arr items => NormalItems items
  | .obj fields => (fields.map Prod.fst).Pairwise Precedes ∧ NormalFields fields
  | .null => True
  | .bool _ => True
  | .str _ => True

def NormalItems : List Json → Prop
  | [] => True
  | item :: items => Normal item ∧ NormalItems items

def NormalFields : List (String × Json) → Prop
  | [] => True
  | (_, value) :: fields => Normal value ∧ NormalFields fields

end

mutual

/-- Numbers the format holds; keys may come in any order, and more than once. -/
def Exact : Json → Prop
  | .num value => format.exact value
  | .arr items => ExactItems items
  | .obj fields => ExactFields fields
  | .null => True
  | .bool _ => True
  | .str _ => True

def ExactItems : List Json → Prop
  | [] => True
  | item :: items => Exact item ∧ ExactItems items

def ExactFields : List (String × Json) → Prop
  | [] => True
  | (_, value) :: fields => Exact value ∧ ExactFields fields

end

/-! ### Reading back what was written -/

variable {format}

mutual

theorem Normal.exact : {value : Json} → Normal format value → Exact format value
  | .null, _ => trivial
  | .bool _, _ => trivial
  | .str _, _ => trivial
  | .num value, normal => by
    rw [Normal] at normal
    rwa [Exact]
  | .arr items, normal => by
    rw [Normal] at normal
    rw [Exact]
    exact NormalItems.exact normal
  | .obj fields, normal => by
    rw [Normal] at normal
    rw [Exact]
    exact NormalFields.exact normal.2

theorem NormalItems.exact : {items : List Json} → NormalItems format items →
    ExactItems format items
  | [], _ => trivial
  | item :: items, normal => by
    rw [NormalItems] at normal
    rw [ExactItems]
    exact ⟨Normal.exact normal.1, NormalItems.exact normal.2⟩

theorem NormalFields.exact : {fields : List (String × Json)} → NormalFields format fields →
    ExactFields format fields
  | [], _ => trivial
  | (key, value) :: fields, normal => by
    rw [NormalFields] at normal
    rw [ExactFields]
    exact ⟨Normal.exact normal.1, NormalFields.exact normal.2⟩

end

/-- What comes next is not part of a number. -/
def Apart (rest : List Char) : Prop := ∀ c ∈ rest.head?, numberChar c = false

theorem apart_nil : Apart [] := by
  intro c h
  cases h

theorem apart_cons {c : Char} {rest : List Char} (h : numberChar c = false) : Apart (c :: rest) := by
  intro d hd
  cases hd
  exact h

theorem skipWhite_cons {c : Char} {rest : List Char} (h : whiteSpace c = false) :
    skipWhite (c :: rest) = c :: rest := by
  rw [skipWhite, List.dropWhile_cons, h]
  rfl

theorem whiteSpace_of_numberChar {c : Char} (h : numberChar c = true) : whiteSpace c = false := by
  rw [← Bool.not_eq_true]
  intro white
  simp only [whiteSpace, Bool.or_eq_true, beq_iff_eq] at white
  rcases white with ((rfl | rfl) | rfl) | rfl <;> exact absurd h (by decide)

/-- The first character says what kind of value follows, and is not white. -/
theorem render_head {value : Json} (sound : Exact format value) :
    ∃ c rest, render format value = c :: rest ∧ whiteSpace c = false := by
  cases value with
  | null => exact ⟨_, _, rfl, by decide⟩
  | bool value => cases value <;> exact ⟨_, _, rfl, by decide⟩
  | num value =>
    rw [Exact] at sound
    obtain ⟨filled, chars⟩ := format.shape value sound
    obtain ⟨c, rest, shape⟩ := List.exists_cons_of_ne_nil filled
    refine ⟨c, rest, shape, whiteSpace_of_numberChar (chars c ?_)⟩
    rw [shape]
    exact List.mem_cons_self
  | str value => exact ⟨_, _, by rw [render, quote]; rfl, by decide⟩
  | arr items => exact ⟨_, _, by rw [render], by decide⟩
  | obj fields => exact ⟨_, _, by rw [render], by decide⟩

theorem span_number {token rest : List Char} (chars : ∀ c ∈ token, numberChar c = true)
    (apart : Apart rest) :
    (token ++ rest).takeWhile numberChar = token ∧ (token ++ rest).dropWhile numberChar = rest := by
  have stop : rest.takeWhile numberChar = [] ∧ rest.dropWhile numberChar = rest := by
    cases rest with
    | nil => exact ⟨rfl, rfl⟩
    | cons c rest => simp [apart c rfl]
  rw [List.takeWhile_append_of_pos chars, List.dropWhile_append_of_pos chars, stop.1, stop.2]
  exact ⟨List.append_nil _, rfl⟩

theorem keyword_append (word : String) (value : Json) (rest : List Char) :
    keyword word value (word.toList ++ rest) = some (value, rest) := by
  rw [keyword, if_pos (List.isPrefixOf_iff_prefix.mpr (List.prefix_append _ _))]
  rw [← String.length_toList, List.drop_left]

theorem number_not_special {c : Char} (h : numberChar c = true) :
    c ≠ '"' ∧ c ≠ '[' ∧ c ≠ '\x7b' ∧ c ≠ 'n' ∧ c ≠ 't' ∧ c ≠ 'f' := by
  refine ⟨?_, ?_, ?_, ?_, ?_, ?_⟩ <;> rintro rfl <;> exact absurd h (by decide)

theorem readValue_number {value : ℚ} (held : format.exact value) {rest : List Char}
    (apart : Apart rest) (fuel : Nat) :
    readValue format (fuel + 1) (format.write value ++ rest) = some (.num value, rest) := by
  obtain ⟨filled, chars⟩ := format.shape value held
  obtain ⟨c, tail, shape⟩ := List.exists_cons_of_ne_nil filled
  obtain ⟨token, after⟩ := span_number chars apart
  have first : numberChar c = true := chars c (by rw [shape]; exact List.mem_cons_self)
  obtain ⟨h1, h2, h3, h4, h5, h6⟩ := number_not_special first
  rw [shape, List.cons_append] at token after ⊢
  rw [readValue, skipWhite_cons (whiteSpace_of_numberChar first)]
  simp only [h1, h2, h3, h4, h5, h6, if_false, token, after]
  rw [← shape, format.returns value held]
  rfl

theorem readInside_quoted (content rest : List Char) :
    readInside ((content.flatMap quoteChar ++ '"' :: rest).length + 1)
      (content.flatMap quoteChar ++ '"' :: rest) = some (content, rest) := by
  apply readInside_quote
  rw [List.length_append]
  have longer : content.length ≤ (content.flatMap quoteChar).length := by
    induction content with
    | nil => exact Nat.le_refl _
    | cons c content ih =>
      obtain ⟨head, tail, shape, _⟩ := escape_head quoteChar_sound c
      rw [List.flatMap_cons, shape, List.length_append, List.length_cons, List.length_cons]
      omega
  omega

theorem quote_append (content rest : List Char) :
    quote content ++ rest = '"' :: (content.flatMap quoteChar ++ '"' :: rest) := by
  rw [quote, List.append_assoc]
  rfl

theorem items_text (item : Json) (items : List Json) (rest : List Char) :
    (renderItems format (item :: items)).tail ++ rest =
      render format item ++ (renderItems format items ++ rest) := by
  rw [renderItems, List.tail_cons, List.append_assoc]

theorem fields_text (key : String) (value : Json) (fields : List (String × Json))
    (rest : List Char) :
    (renderFields format ((key, value) :: fields)).tail ++ rest =
      '"' :: (key.toList.flatMap quoteChar ++
        '"' :: ':' :: (render format value ++ (renderFields format fields ++ rest))) := by
  rw [renderFields, List.tail_cons, List.append_assoc, quote_append, List.cons_append,
    List.append_assoc]

theorem renderItems_apart (items : List Json) (rest : List Char) :
    Apart (renderItems format items ++ ']' :: rest) := by
  cases items with
  | nil => exact apart_cons (by decide)
  | cons item items =>
    rw [renderItems]
    exact apart_cons (by decide)

theorem renderFields_apart (fields : List (String × Json)) (rest : List Char) :
    Apart (renderFields format fields ++ '\x7d' :: rest) := by
  cases fields with
  | nil => exact apart_cons (by decide)
  | cons entry fields =>
    rw [renderFields]
    exact apart_cons (by decide)

/-- What stands before an array's first item is not its closing bracket. -/
theorem items_open {item : Json} (items : List Json) (sound : Exact format item)
    (rest : List Char) :
    ∃ c tail, (renderItems format (item :: items)).tail ++ rest = c :: tail ∧
      whiteSpace c = false ∧ c ≠ ']' := by
  obtain ⟨c, tail, shape, dark⟩ := render_head sound
  refine ⟨c, _, by rw [items_text, shape, List.cons_append], dark, ?_⟩
  rintro rfl
  cases item with
  | num value =>
    rw [Exact] at sound
    rw [render] at shape
    have inside := (format.shape value sound).2 ']' (by rw [shape]; exact List.mem_cons_self)
    exact absurd inside (by decide)
  | bool value => cases value <;> exact absurd (congrArg List.head? shape) (by simp [render])
  | _ => exact absurd (congrArg List.head? shape) (by simp [render, quote])

mutual

/-- A written value is read back from before whatever ends it. -/
theorem readValue_render : (value : Json) → Exact format value → (rest : List Char) →
    Apart rest → (fuel : Nat) → (render format value).length < fuel →
    readValue format fuel (render format value ++ rest) = some (value, rest)
  | .null, _, rest, _, fuel + 1, _ => keyword_append "null" .null rest
  | .bool true, _, rest, _, fuel + 1, _ => keyword_append "true" (.bool true) rest
  | .bool false, _, rest, _, fuel + 1, _ => keyword_append "false" (.bool false) rest
  | .num value, held, rest, apart, fuel + 1, _ => by
    rw [Exact] at held
    exact readValue_number held apart fuel
  | .str value, _, rest, _, fuel + 1, _ => by
    rw [render, quote_append, readValue, skipWhite_cons (by decide)]
    simp only [if_true, readInside_quoted, Option.map_some, String.ofList_toList]
  | .arr [], _, rest, _, fuel + 1, _ => rfl
  | .arr (item :: items), sound, rest, _, fuel + 1, enough => by
    rw [Exact] at sound
    rw [render, List.length_cons, List.length_append, renderItems, List.tail_cons] at enough
    have back := readItems_render (item :: items) (List.cons_ne_nil _ _) sound rest fuel (by
      rw [renderItems, List.length_cons]
      simp only [List.length_cons, List.length_nil] at enough
      omega)
    rw [ExactItems] at sound
    obtain ⟨c, tail, shape, dark, other⟩ :=
      items_open items sound.1 (']' :: rest)
    rw [render, List.cons_append, List.append_assoc, readValue, skipWhite_cons (by decide)]
    simp only [List.singleton_append, Char.reduceEq, if_false, if_true]
    rw [shape, skipWhite_cons dark, if_neg (by simpa using other), ← shape, back]
    rfl
  | .obj [], _, rest, _, fuel + 1, _ => rfl
  | .obj ((key, value) :: fields), sound, rest, _, fuel + 1, enough => by
    rw [Exact] at sound
    rw [render, List.length_cons, List.length_append, renderFields, List.tail_cons] at enough
    have back := readFields_render ((key, value) :: fields) (List.cons_ne_nil _ _) sound rest fuel
      (by
        rw [renderFields, List.length_cons]
        simp only [List.length_cons, List.length_nil] at enough
        omega)
    rw [render, List.cons_append, List.append_assoc, readValue, skipWhite_cons (by decide)]
    simp only [List.singleton_append, Char.reduceEq, if_false, if_true]
    rw [fields_text, skipWhite_cons (by decide), if_neg (by simp), ← fields_text, back]
    rfl

theorem readItems_render : (items : List Json) → items ≠ [] → ExactItems format items →
    (rest : List Char) → (fuel : Nat) → (renderItems format items).length < fuel →
    readItems format fuel ((renderItems format items).tail ++ ']' :: rest) = some (items, rest)
  | item :: items, _, sound, rest, fuel + 1, enough => by
    rw [ExactItems] at sound
    rw [renderItems, List.length_cons, List.length_append] at enough
    have first := readValue_render item sound.1 (renderItems format items ++ ']' :: rest)
      (renderItems_apart items rest) fuel (by omega)
    rw [items_text, readItems, first]
    cases items with
    | nil =>
      simp only [renderItems, List.nil_append, skipWhite_cons (c := ']') (by decide), if_true]
    | cons next items =>
      have others := readItems_render (next :: items) (List.cons_ne_nil _ _) sound.2 rest fuel
        (by omega)
      have comma : renderItems format (next :: items) =
          ',' :: (renderItems format (next :: items)).tail := by rw [renderItems, List.tail_cons]
      rw [comma, List.cons_append]
      simp only [skipWhite_cons (c := ',') (by decide), Char.reduceEq, if_false, if_true, others,
        Option.map_some]

theorem readFields_render : (fields : List (String × Json)) → fields ≠ [] →
    ExactFields format fields → (rest : List Char) → (fuel : Nat) →
    (renderFields format fields).length < fuel →
    readFields format fuel ((renderFields format fields).tail ++ '\x7d' :: rest) =
      some (fields, rest)
  | (key, value) :: fields, _, sound, rest, fuel + 1, enough => by
    rw [ExactFields] at sound
    rw [renderFields, List.length_cons, List.length_append, List.length_cons,
      List.length_append] at enough
    have first := readValue_render value sound.1 (renderFields format fields ++ '\x7d' :: rest)
      (renderFields_apart fields rest) fuel (by omega)
    rw [fields_text, readFields, skipWhite_cons (by decide)]
    simp only [ne_eq, not_true_eq_false, if_false, readInside_quoted]
    rw [skipWhite_cons (by decide)]
    simp only [not_true_eq_false, if_false, first, String.ofList_toList]
    cases fields with
    | nil =>
      simp only [renderFields, List.nil_append, skipWhite_cons (c := '\x7d') (by decide), if_true]
    | cons next fields =>
      have others := readFields_render (next :: fields) (List.cons_ne_nil _ _) sound.2 rest fuel
        (by omega)
      have comma : renderFields format (next :: fields) =
          ',' :: (renderFields format (next :: fields)).tail := by
        rw [renderFields, List.tail_cons]
      rw [comma, List.cons_append]
      simp only [skipWhite_cons (c := ',') (by decide), Char.reduceEq, if_false, if_true, others,
        Option.map_some]

end

theorem read_render_exact {value : Json} (exact : Exact format value) :
    read format (render format value) = some value := by
  have back := readValue_render value exact [] apart_nil ((render format value).length + 1)
    (Nat.lt_succ_self _)
  rw [List.append_nil] at back
  rw [read, back]
  rfl

theorem read_render {value : Json} (normal : Normal format value) :
    read format (render format value) = some value :=
  read_render_exact normal.exact

theorem normal_of_lookup {fields : List (String × Json)} {name : String} {value : Json}
    (normal : NormalFields format fields)
    (found : fields.lookup name = some value) : Normal format value := by
  induction fields with
  | nil => cases found
  | cons field rest ih =>
    obtain ⟨key, held⟩ := field
    rw [NormalFields] at normal
    rw [List.lookup_cons] at found
    split at found
    · cases found
      exact normal.1
    · exact ih normal.2 found

theorem normal_field {args value : Json} {name : String} (normal : Normal format args)
    (found : args.field name = some value) :
    Normal format value := by
  cases args with
  | obj fields =>
    rw [Normal] at normal
    exact normal_of_lookup normal.2 found
  | null | bool | num | str | arr => cases found

/-! ### A platform of whole numbers -/

def readDigits (digits : List Char) : Option Nat :=
  if digits = [] ∨ digits.all Char.isDigit = false then none
  else some (Nat.ofDigitChars 10 digits 0)

def readInteger (token : List Char) : Option Int :=
  match token with
  | '-' :: digits => (readDigits digits).map fun n => -(n : Int)
  | digits => (readDigits digits).map Int.ofNat

theorem readDigits_toDigits (n : Nat) : readDigits (Nat.toDigits 10 n) = some n := by
  rw [readDigits, if_neg, Nat.ofDigitChars_toDigits (by decide) (by decide)]
  rintro (empty | other)
  · exact Nat.toDigits_ne_nil empty
  · rw [← Bool.not_eq_true, List.all_eq_true] at other
    exact other fun c mem => Nat.isDigit_of_mem_toDigits (by decide) (by decide) mem

theorem toList_toString (n : Int) :
    (toString n).toList = Nat.toDigits 10 n.toNat ∨
      (toString n).toList = '-' :: Nat.toDigits 10 n.natAbs := by
  cases n with
  | ofNat m => exact Or.inl Nat.toList_repr
  | negSucc m =>
    right
    rw [show toString (Int.negSucc m) = "-" ++ Nat.repr (m + 1) from rfl, String.toList_append,
      Nat.toList_repr]
    rfl

theorem readInteger_toString (n : Int) : readInteger (toString n).toList = some n := by
  cases n with
  | ofNat m =>
    rw [show (toString (Int.ofNat m)).toList = Nat.toDigits 10 m from Nat.toList_repr, readInteger,
      readDigits_toDigits]
    · rfl
    · intro digits shown
      have digit := Nat.isDigit_of_mem_toDigits (b := 10) (n := m) (c := '-') (by decide) (by decide)
        (by rw [shown]; exact List.mem_cons_self)
      exact absurd digit (by decide)
  | negSucc m =>
    rw [show toString (Int.negSucc m) = "-" ++ Nat.repr (m + 1) from rfl, String.toList_append,
      Nat.toList_repr, show "-".toList = ['-'] from rfl, List.singleton_append, readInteger,
      readDigits_toDigits]
    rfl

/-- Numbers held as whole numbers only, in decimal. -/
def integers : NumberFormat where
  exact value := value.den = 1
  write value := (toString value.num).toList
  read token := (readInteger token).map fun n : Int => (n : ℚ)
  shape := fun value _ => by
    have digits : ∀ m : Nat, ∀ c ∈ Nat.toDigits 10 m, numberChar c = true := fun m c mem => by
      rw [numberChar, Nat.isDigit_of_mem_toDigits (by decide) (by decide) mem, Bool.true_or]
    rcases toList_toString value.num with shown | shown
    · rw [shown]
      exact ⟨Nat.toDigits_ne_nil, digits _⟩
    · rw [shown]
      exact ⟨List.cons_ne_nil _ _, List.forall_mem_cons.mpr ⟨by decide, digits _⟩⟩
  returns := fun value whole => by
    rw [readInteger_toString, Option.map_some, Rat.coe_int_num_of_den_eq_one whole]
  lands := fun token value h => by
    obtain ⟨n, _, rfl⟩ := Option.map_eq_some_iff.mp h
    rfl
  integer := fun n _ => ⟨rfl, rfl⟩

end JsonText
