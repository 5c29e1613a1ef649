import TaskQueQue.JsonText

/-!
# How much of a text is read

Whatever the reader takes, it takes from the front and leaves the rest as it stands. So an
object is only read from a text that has a closing brace, and a text that is cut off before
its brace is no object.
-/

namespace JsonReading

open GatewayValues JsonStrings JsonText

theorem readUnit_suffix {text rest : List Char} {unit : Nat}
    (h : readUnit text = some (unit, rest)) : rest <:+ text := by
  unfold readUnit at h
  split at h
  · split at h
    · cases h
      exact ⟨[_, _, _, _], rfl⟩
    · contradiction
  · contradiction

theorem readUnicode_suffix {text rest : List Char} {c : Char}
    (h : readUnicode text = some (c, rest)) : rest <:+ text := by
  unfold readUnicode at h
  split at h
  · contradiction
  rename_i unit after first
  have front := readUnit_suffix first
  split at h
  · cases h
    exact front
  split at h
  · rename_i second
    split at h
    · contradiction
    rename_i low last read
    split at h
    · rw [Option.some.injEq, Prod.mk.injEq] at h
      rw [← h.2]
      exact ((readUnit_suffix read).trans ⟨['\\', 'u'], rfl⟩).trans front
    · contradiction
  · contradiction

theorem readEscape_suffix {text rest : List Char} {c : Char}
    (h : readEscape text = some (c, rest)) : rest <:+ text := by
  cases text with
  | nil => contradiction
  | cons d tail =>
    have own : tail <:+ d :: tail := List.suffix_cons d tail
    rw [readEscape] at h
    split at h
    · cases h
      exact own
    split at h
    · cases h
      exact own
    split at h
    · cases h
      exact own
    split at h
    · cases h
      exact own
    split at h
    · cases h
      exact own
    split at h
    · cases h
      exact own
    split at h
    · exact (readUnicode_suffix h).trans own
    · contradiction

theorem readChar_suffix {text rest : List Char} {c : Char}
    (h : readChar text = some (c, rest)) : rest <:+ text := by
  cases text with
  | nil => contradiction
  | cons d tail =>
    have own : tail <:+ d :: tail := List.suffix_cons d tail
    rw [readChar] at h
    split at h
    · exact (readEscape_suffix h).trans own
    split at h
    · contradiction
    · cases h
      exact own

theorem readInside_suffix {fuel : Nat} {text rest content : List Char}
    (h : readInside fuel text = some (content, rest)) : rest <:+ text := by
  induction fuel generalizing text content with
  | zero => contradiction
  | succ fuel ih =>
    rw [readInside] at h
    split at h
    · cases h
      exact List.tail_suffix text
    split at h
    · contradiction
    rename_i first
    obtain ⟨inside, read, same⟩ := Option.map_eq_some_iff.mp h
    cases same
    exact (ih read).trans (readChar_suffix first)

theorem skipWhite_suffix (text : List Char) : skipWhite text <:+ text :=
  List.dropWhile_suffix whiteSpace

theorem keyword_suffix {word : String} {value result : Json} {text rest : List Char}
    (h : keyword word value text = some (result, rest)) : rest <:+ text := by
  unfold keyword at h
  split at h
  · cases h
    exact List.drop_suffix _ _
  · contradiction

variable {format : NumberFormat}

/-- What the readers of one size leave. -/
structure Suffixes (format : NumberFormat) (fuel : Nat) : Prop where
  value : ∀ {text rest : List Char} {value : Json},
    readValue format fuel text = some (value, rest) → rest <:+ text
  items : ∀ {text rest : List Char} {items : List Json},
    readItems format fuel text = some (items, rest) → rest <:+ text
  fields : ∀ {text rest : List Char} {fields : List (String × Json)},
    readFields format fuel text = some (fields, rest) → rest <:+ text

theorem cons_suffix {text rest tail : List Char} {c : Char} (open' : skipWhite text = c :: tail)
    (h : rest <:+ tail) : rest <:+ text :=
  (h.trans (List.suffix_cons c tail)).trans (open' ▸ skipWhite_suffix text)

theorem Suffixes.readValue {fuel : Nat} (smaller : Suffixes format fuel) {text rest : List Char}
    {value : Json} (h : JsonText.readValue format (fuel + 1) text = some (value, rest)) :
    rest <:+ text := by
  rw [JsonText.readValue] at h
  split at h
  · contradiction
  rename_i c tail open'
  split at h
  · obtain ⟨inside, read, same⟩ := Option.map_eq_some_iff.mp h
    cases same
    exact cons_suffix open' (readInside_suffix read)
  split at h
  · split at h
    · cases h
      exact cons_suffix open' ((List.tail_suffix _).trans (skipWhite_suffix tail))
    · obtain ⟨items, read, same⟩ := Option.map_eq_some_iff.mp h
      cases same
      exact cons_suffix open' (smaller.items read)
  split at h
  · split at h
    · cases h
      exact cons_suffix open' ((List.tail_suffix _).trans (skipWhite_suffix tail))
    · obtain ⟨fields, read, same⟩ := Option.map_eq_some_iff.mp h
      cases same
      exact cons_suffix open' (smaller.fields read)
  have whole : c :: tail <:+ text := open' ▸ skipWhite_suffix text
  split at h
  · exact (keyword_suffix h).trans whole
  split at h
  · exact (keyword_suffix h).trans whole
  split at h
  · exact (keyword_suffix h).trans whole
  · obtain ⟨number, _, same⟩ := Option.map_eq_some_iff.mp h
    cases same
    exact (List.dropWhile_suffix _).trans whole

theorem Suffixes.readItems {fuel : Nat} (smaller : Suffixes format fuel) {text rest : List Char}
    {items : List Json} (h : JsonText.readItems format (fuel + 1) text = some (items, rest)) :
    rest <:+ text := by
  rw [JsonText.readItems] at h
  split at h
  · contradiction
  rename_i item after read
  have first := smaller.value read
  split at h
  · contradiction
  rename_i c tail open'
  split at h
  · cases h
    exact (cons_suffix open' (List.suffix_refl rest)).trans first
  split at h
  · obtain ⟨others, read, same⟩ := Option.map_eq_some_iff.mp h
    cases same
    exact (cons_suffix open' (smaller.items read)).trans first
  · contradiction

/-- The fields of an object end with its brace. -/
theorem readFields_step {fuel : Nat} (smaller : Suffixes format fuel) {text rest : List Char}
    {fields : List (String × Json)}
    (h : JsonText.readFields format (fuel + 1) text = some (fields, rest)) :
    '\x7d' :: rest <:+ text ∨ ∃ others after, after <:+ text ∧
      JsonText.readFields format fuel after = some (others, rest) := by
  rw [JsonText.readFields] at h
  split at h
  · contradiction
  rename_i c tail open'
  split at h
  · contradiction
  split at h
  · contradiction
  rename_i key afterKey readKey
  have first := cons_suffix open' (readInside_suffix readKey)
  split at h
  · contradiction
  rename_i c tail open'
  split at h
  · contradiction
  split at h
  · contradiction
  rename_i value afterValue readValue
  have second := (cons_suffix open' (smaller.value readValue)).trans first
  split at h
  · contradiction
  rename_i c tail open'
  split at h
  · rename_i brace
    cases h
    rw [brace] at open'
    exact Or.inl ((open' ▸ skipWhite_suffix afterValue).trans second)
  split at h
  · obtain ⟨others, read, same⟩ := Option.map_eq_some_iff.mp h
    cases same
    exact Or.inr ⟨others.1, tail, (cons_suffix open' (List.suffix_refl tail)).trans second, read⟩
  · contradiction

theorem suffixes (fuel : Nat) : Suffixes format fuel := by
  induction fuel with
  | zero =>
    refine ⟨fun h => ?_, fun h => ?_, fun h => ?_⟩
    · contradiction
    · contradiction
    · contradiction
  | succ fuel smaller =>
    refine ⟨smaller.readValue, smaller.readItems, fun h => ?_⟩
    rcases readFields_step smaller h with last | ⟨_, _, within, read⟩
    · exact (List.suffix_cons _ _).trans last
    · exact (smaller.fields read).trans within

theorem readFields_closed {fuel : Nat} {text rest : List Char} {fields : List (String × Json)}
    (h : JsonText.readFields format fuel text = some (fields, rest)) : '\x7d' ∈ text := by
  induction fuel generalizing text fields with
  | zero => contradiction
  | succ fuel ih =>
    rcases readFields_step (suffixes fuel) h with last | ⟨_, _, within, read⟩
    · exact last.subset List.mem_cons_self
    · exact within.subset (ih read)

/-- A text read as an object opens with a brace, and is empty or has fields after it. -/
theorem read_object {text : List Char} {fields : List (String × Json)}
    (h : read format text = some (.obj fields)) : ∃ tail rest, skipWhite text = '\x7b' :: tail ∧
      skipWhite rest = [] ∧ (skipWhite tail = '\x7d' :: rest ∨
        ∃ fuel, JsonText.readFields format fuel tail = some (fields, rest)) := by
  unfold JsonText.read at h
  split at h
  · contradiction
  rename_i value rest whole
  split at h
  · rename_i ended
    cases h
    rw [readValue] at whole
    split at whole
    · contradiction
    rename_i c tail open'
    split at whole
    · obtain ⟨_, _, same⟩ := Option.map_eq_some_iff.mp whole
      cases same
    split at whole
    · split at whole
      · cases whole
      · obtain ⟨_, _, same⟩ := Option.map_eq_some_iff.mp whole
        cases same
    split at whole
    · rename_i brace
      refine ⟨tail, rest, brace ▸ open', ended, ?_⟩
      split at whole
      · rename_i closed
        cases whole
        obtain ⟨more, same⟩ := List.head?_eq_some_iff.mp closed
        exact Or.inl (by rw [same, List.tail_cons])
      · obtain ⟨found, read, same⟩ := Option.map_eq_some_iff.mp whole
        cases same
        exact Or.inr ⟨_, read⟩
    have plain : ∀ {word : String} {value : Json} {chars : List Char}, value ≠ .obj fields →
        keyword word value chars ≠ some (.obj fields, rest) := by
      intro word value chars other same
      unfold keyword at same
      split at same
      · exact other (Prod.mk.inj (Option.some.inj same)).1
      · contradiction
    split at whole
    · exact absurd whole (plain (by rintro ⟨⟩))
    split at whole
    · exact absurd whole (plain (by rintro ⟨⟩))
    split at whole
    · exact absurd whole (plain (by rintro ⟨⟩))
    · obtain ⟨_, _, same⟩ := Option.map_eq_some_iff.mp whole
      cases same
  · contradiction

/-- An object is read from no text without a closing brace. -/
theorem read_object_closed {text : List Char} {fields : List (String × Json)}
    (h : read format text = some (.obj fields)) : '\x7d' ∈ text := by
  obtain ⟨tail, rest, open', _, inside⟩ := read_object h
  refine (cons_suffix open' (List.suffix_refl tail)).subset ?_
  rcases inside with closed | ⟨_, read⟩
  · exact (skipWhite_suffix tail).subset (closed ▸ List.mem_cons_self)
  · exact readFields_closed read

/-- Fields start with a key and a colon. -/
theorem readFields_opens {fuel : Nat} {text rest : List Char} {fields : List (String × Json)}
    (h : JsonText.readFields format fuel text = some (fields, rest)) :
    ∃ size more key after, skipWhite text = '"' :: more ∧
      readInside size more = some (key, after) ∧ (skipWhite after).head? = some ':' := by
  cases fuel with
  | zero => contradiction
  | succ fuel =>
    rw [JsonText.readFields] at h
    split at h
    · contradiction
    rename_i c more open'
    split at h
    · contradiction
    rename_i quoted
    split at h
    · contradiction
    rename_i key after inside
    split at h
    · contradiction
    rename_i d tail colon
    split at h
    · contradiction
    rename_i same
    rw [not_not] at quoted same
    refine ⟨_, more, key, after, quoted ▸ open', inside, ?_⟩
    rw [colon, same]
    rfl

end JsonReading
