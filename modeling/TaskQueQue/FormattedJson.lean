import TaskQueQue.JsonText

/-!
# Documents put together by formatting

A writer need not go through values: it can put the texts of fields between the braces
of a template. What it writes is read as the object of these fields, if each of the
texts is read as a value wherever it stands. A string may be written with any escapes
that are read back.
-/

namespace FormattedJson

open GatewayValues JsonStrings JsonText

variable {format : NumberFormat}

/-- The text is read as the value, from before whatever ends it. -/
def Written (format : NumberFormat) (text : List Char) (value : Json) : Prop :=
  ∀ rest, Apart rest → ∀ fuel, text.length < fuel →
    readValue format fuel (text ++ rest) = some (value, rest)

theorem Written.read {text : List Char} {value : Json} (written : Written format text value) :
    read format text = some value := by
  have back := written [] apart_nil (text.length + 1) (Nat.lt_succ_self _)
  rw [List.append_nil] at back
  rw [JsonText.read, back]
  rfl

theorem written_render {value : Json} (exact : Exact format value) :
    Written format (render format value) value :=
  fun rest apart fuel enough => readValue_render value exact rest apart fuel enough

theorem written_number {value : ℚ} (held : format.exact value) :
    Written format (format.write value) (.num value) := by
  have exact : Exact format (.num value) := by
    rw [Exact]
    exact held
  have shape : render format (.num value) = format.write value := by
    rw [render]
  rw [← shape]
  exact written_render exact

/-! ### Strings -/

/-- A string literal with the writer's escapes. -/
def literal (escape : Char → List Char) (content : List Char) : List Char :=
  '"' :: content.flatMap escape ++ ['"']

theorem length_le_flatMap {escape : Char → List Char} (sound : Sound escape)
    (content : List Char) : content.length ≤ (content.flatMap escape).length := by
  induction content with
  | nil => exact Nat.le_refl _
  | cons c content ih =>
    obtain ⟨head, tail, shape, _⟩ := escape_head sound c
    rw [List.flatMap_cons, shape, List.length_append, List.length_cons, List.length_cons]
    omega

/-- A literal is well formed and denotes its content. -/
theorem readString_literal {escape : Char → List Char} (sound : Sound escape)
    (content rest : List Char) :
    readString (literal escape content ++ rest) = some (content, rest) := by
  have shape : literal escape content ++ rest =
      '"' :: (content.flatMap escape ++ '"' :: rest) := by
    rw [literal, List.append_assoc]
    rfl
  rw [shape, readString, readInside_flatMap sound]
  have longer := length_le_flatMap sound content
  rw [List.length_append]
  omega

theorem written_literal {escape : Char → List Char} (sound : Sound escape) (content : String) :
    Written format (literal escape content.toList) (.str content) := by
  intro rest _ fuel enough
  obtain ⟨fuel, rfl⟩ := Nat.exists_eq_succ_of_ne_zero (Nat.ne_of_gt (Nat.zero_lt_of_lt enough))
  have back := readString_literal sound content.toList rest
  have shape : literal escape content.toList ++ rest =
      '"' :: (content.toList.flatMap escape ++ '"' :: rest) := by
    rw [literal, List.append_assoc]
    rfl
  rw [shape] at back ⊢
  rw [readString] at back
  rw [readValue, skipWhite_cons (by decide)]
  simp only [if_true, back, Option.map_some, String.ofList_toList]

/-! ### Objects -/

/-- A field of a template: its key, its text and the value that is meant. -/
structure Member where
  key : String
  text : List Char
  value : Json

/-- Each field after a comma; the first comma is dropped by the object. -/
def members : List Member → List Char
  | [] => []
  | field :: fields => ',' :: (quote field.key.toList ++ ':' :: (field.text ++ members fields))

def object (fields : List Member) : List Char := '\x7b' :: ((members fields).tail ++ ['\x7d'])

theorem members_apart (fields : List Member) (rest : List Char) :
    Apart (members fields ++ '\x7d' :: rest) := by
  cases fields with
  | nil => exact apart_cons (by decide)
  | cons field fields => exact apart_cons (by decide)

theorem members_text (field : Member) (fields : List Member) (rest : List Char) :
    (members (field :: fields)).tail ++ rest = '"' :: (field.key.toList.flatMap quoteChar ++
      '"' :: ':' :: (field.text ++ (members fields ++ rest))) := by
  rw [members, List.tail_cons, List.append_assoc, quote_append, List.cons_append,
    List.append_assoc]

theorem readFields_members {fields : List Member} (filled : fields ≠ [])
    (each : ∀ field ∈ fields, Written format field.text field.value) (rest : List Char)
    {fuel : Nat} (enough : (members fields).length < fuel) :
    readFields format fuel ((members fields).tail ++ '\x7d' :: rest) =
      some (fields.map fun field => (field.key, field.value), rest) := by
  induction fields generalizing fuel with
  | nil => exact absurd rfl filled
  | cons field fields ih =>
    obtain ⟨fuel, rfl⟩ := Nat.exists_eq_succ_of_ne_zero (Nat.ne_of_gt (Nat.zero_lt_of_lt enough))
    obtain ⟨first, later⟩ := List.forall_mem_cons.mp each
    rw [members, List.length_cons, List.length_append, List.length_cons,
      List.length_append] at enough
    have value := first (members fields ++ '\x7d' :: rest) (members_apart fields rest) fuel
      (by omega)
    rw [members_text, readFields, skipWhite_cons (by decide)]
    simp only [ne_eq, not_true_eq_false, if_false, readInside_quoted]
    rw [skipWhite_cons (by decide)]
    simp only [not_true_eq_false, if_false, value, String.ofList_toList]
    cases fields with
    | nil =>
      simp only [members, List.nil_append, skipWhite_cons (c := '\x7d') (by decide), if_true,
        List.map_cons, List.map_nil]
    | cons next fields =>
      have others := ih (List.cons_ne_nil _ _) later
        (show (members (next :: fields)).length < fuel by omega)
      have comma : members (next :: fields) = ',' :: (members (next :: fields)).tail := rfl
      rw [comma, List.cons_append]
      simp only [skipWhite_cons (c := ',') (by decide), Char.reduceEq, if_false, if_true, others,
        Option.map_some, List.map_cons]

/-- A filled template is read as the object of its fields. -/
theorem written_object {fields : List Member} (filled : fields ≠ [])
    (each : ∀ field ∈ fields, Written format field.text field.value) :
    Written format (object fields) (.obj (fields.map fun field => (field.key, field.value))) := by
  intro rest _ fuel enough
  obtain ⟨fuel, rfl⟩ := Nat.exists_eq_succ_of_ne_zero (Nat.ne_of_gt (Nat.zero_lt_of_lt enough))
  obtain ⟨field, more, rfl⟩ := List.exists_cons_of_ne_nil filled
  have size : (members (field :: more)).length < fuel := by
    rw [object, List.length_cons, List.length_append, members, List.tail_cons] at enough
    rw [members, List.length_cons]
    simp only [List.length_cons, List.length_nil] at enough
    omega
  have back := readFields_members filled each rest size
  rw [object, List.cons_append, List.append_assoc, readValue, skipWhite_cons (by decide)]
  simp only [List.singleton_append, Char.reduceEq, if_false, if_true]
  rw [members_text, skipWhite_cons (by decide), if_neg (by simp), ← members_text, back]
  rfl

/-! ### Arrays of strings -/

/-- Each literal after a comma; the first comma is dropped by the array. -/
def elements (escape : Char → List Char) (contents : List String) : List Char :=
  contents.flatMap fun content => ',' :: literal escape content.toList

def array (escape : Char → List Char) (contents : List String) : List Char :=
  '[' :: ((elements escape contents).tail ++ [']'])

theorem elements_apart (escape : Char → List Char) (contents : List String) (rest : List Char) :
    Apart (elements escape contents ++ ']' :: rest) := by
  cases contents with
  | nil => exact apart_cons (by decide)
  | cons content contents => exact apart_cons (by decide)

theorem elements_text (escape : Char → List Char) (content : String) (contents : List String)
    (rest : List Char) : (elements escape (content :: contents)).tail ++ rest =
      literal escape content.toList ++ (elements escape contents ++ rest) := by
  rw [elements, List.flatMap_cons, List.cons_append, List.tail_cons, List.append_assoc]
  rfl

theorem readItems_elements {escape : Char → List Char} (sound : Sound escape)
    {contents : List String} (filled : contents ≠ []) (rest : List Char) {fuel : Nat}
    (enough : (elements escape contents).length < fuel) :
    readItems format fuel ((elements escape contents).tail ++ ']' :: rest) =
      some (contents.map Json.str, rest) := by
  induction contents generalizing fuel with
  | nil => exact absurd rfl filled
  | cons content contents ih =>
    obtain ⟨fuel, rfl⟩ := Nat.exists_eq_succ_of_ne_zero (Nat.ne_of_gt (Nat.zero_lt_of_lt enough))
    rw [elements, List.flatMap_cons, List.cons_append, List.length_cons,
      List.length_append] at enough
    have longer : (elements escape contents).length < fuel := by
      rw [elements]
      omega
    have item := @written_literal format escape sound content
      (elements escape contents ++ ']' :: rest) (elements_apart escape contents rest) fuel
      (by omega)
    rw [elements_text, readItems, item]
    cases contents with
    | nil =>
      simp only [elements, List.flatMap_nil, List.nil_append, skipWhite_cons (c := ']') (by decide),
        if_true, List.map_cons, List.map_nil]
    | cons next contents =>
      have others := ih (List.cons_ne_nil _ _) longer
      have comma : elements escape (next :: contents) =
          ',' :: (elements escape (next :: contents)).tail := rfl
      rw [comma, List.cons_append]
      simp only [skipWhite_cons (c := ',') (by decide), Char.reduceEq, if_false, if_true, others,
        Option.map_some, List.map_cons]

/-- An array of literals is read as the array of their contents. -/
theorem written_array {escape : Char → List Char} (sound : Sound escape) (contents : List String) :
    Written format (array escape contents) (.arr (contents.map Json.str)) := by
  intro rest _ fuel enough
  obtain ⟨fuel, rfl⟩ := Nat.exists_eq_succ_of_ne_zero (Nat.ne_of_gt (Nat.zero_lt_of_lt enough))
  rw [array, List.length_cons, List.length_append, List.length_singleton, List.length_tail] at enough
  rw [array, List.cons_append, List.append_assoc, readValue, skipWhite_cons (by decide)]
  simp only [List.singleton_append, Char.reduceEq, if_false, if_true]
  cases contents with
  | nil =>
    simp only [elements, List.flatMap_nil, List.tail_nil, List.nil_append,
      skipWhite_cons (c := ']') (by decide), List.head?_cons, if_true, List.tail_cons, List.map_nil]
  | cons content contents =>
    have size : (elements escape (content :: contents)).length < fuel := by omega
    have back := @readItems_elements format escape sound (content :: contents)
      (List.cons_ne_nil content contents) rest _ size
    have opening : (elements escape (content :: contents)).tail ++ ']' :: rest =
        '"' :: (content.toList.flatMap escape ++ '"' :: (elements escape contents ++ ']' :: rest)) := by
      rw [elements_text, literal, List.cons_append, List.cons_append, List.append_assoc]
      rfl
    rw [if_neg, back]
    · rfl
    · rw [opening, skipWhite_cons (by decide)]
      simp

end FormattedJson
