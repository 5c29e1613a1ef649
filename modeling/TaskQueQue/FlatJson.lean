import Mathlib.Data.List.Basic
import Mathlib.Data.List.TakeWhile
import TaskQueQue.FormattedJson
import TaskQueQue.JsonReading

/-!
# Objects of plain values

An object of strings, numbers and the like is written here without white space, and no part of
it that starts behind its brace is read as an object. A brace further on stands inside a
string; the next quotation mark that is not escaped ends this string, and what lies between two
strings is no key.
-/

namespace FlatJson

open GatewayValues JsonStrings JsonText FormattedJson JsonReading

def White (text : List Char) : Prop := ∀ c ∈ text, whiteSpace c = true

/-- A text that starts as an object does: an empty one, or one with a key. -/
def Opens (text : List Char) : Prop :=
  ∃ front gap tail, White front ∧ White gap ∧
    ((text = front ++ '\x7b' :: (gap ++ '\x7d' :: tail) ∧ White tail) ∨
      (text = front ++ '\x7b' :: (gap ++ '"' :: tail) ∧ ∃ fuel key after,
        readInside fuel tail = some (key, after) ∧ (skipWhite after).head? = some ':'))

theorem white_skipWhite (text : List Char) :
    ∃ front, White front ∧ text = front ++ skipWhite text :=
  ⟨text.takeWhile whiteSpace, fun _ mem => List.mem_takeWhile_imp mem,
    List.takeWhile_append_dropWhile.symm⟩

theorem white_of_skipWhite {text : List Char} (h : skipWhite text = []) : White text :=
  List.dropWhile_eq_nil_iff.mp h

theorem opens_of_read {format : NumberFormat} {text : List Char} {fields : List (String × Json)}
    (h : read format text = some (.obj fields)) : Opens text := by
  obtain ⟨tail, rest, open', ended, inside⟩ := read_object h
  obtain ⟨front, before, shape⟩ := white_skipWhite text
  obtain ⟨gap, between, tailShape⟩ := white_skipWhite tail
  rw [open'] at shape
  refine ⟨front, gap, ?_⟩
  rcases inside with closed | ⟨fuel, read⟩
  · rw [closed] at tailShape
    exact ⟨rest, before, between, Or.inl ⟨tailShape ▸ shape, white_of_skipWhite ended⟩⟩
  · obtain ⟨size, more, key, after, quoted, key', colon⟩ := readFields_opens read
    rw [quoted] at tailShape
    exact ⟨more, before, between, Or.inr ⟨tailShape ▸ shape, size, key, after, key', colon⟩⟩

/-! ### Quotation marks inside strings -/

section Escapes
variable {escape : Char → List Char}

theorem hexValue?_quote : hexValue? '"' = none := by decide

theorem readUnit_quote {text rest : List Char} {unit : Nat}
    (h : readUnit text = some (unit, rest)) (mem : '"' ∈ text) : '"' ∈ rest := by
  unfold readUnit at h
  split at h
  · split at h
    · rename_i a b c d rest _ _ _ _ ha hb hc hd
      cases h
      have other : ∀ {e : Char} {n : Nat}, hexValue? e = some n → '"' ≠ e := by
        rintro e n value rfl
        rw [hexValue?_quote] at value
        contradiction
      rcases List.mem_cons.mp mem with same | mem
      · exact absurd same (other ha)
      rcases List.mem_cons.mp mem with same | mem
      · exact absurd same (other hb)
      rcases List.mem_cons.mp mem with same | mem
      · exact absurd same (other hc)
      rcases List.mem_cons.mp mem with same | mem
      · exact absurd same (other hd)
      · exact mem
    · contradiction
  · contradiction

theorem readUnicode_quote {text rest : List Char} {c : Char}
    (h : readUnicode text = some (c, rest)) (mem : '"' ∈ text) : '"' ∈ rest := by
  unfold readUnicode at h
  split at h
  · contradiction
  rename_i unit after first
  have later := readUnit_quote first mem
  split at h
  · cases h
    exact later
  split at h
  · rename_i second
    split at h
    · contradiction
    rename_i low last read
    split at h
    · rw [Option.some.injEq, Prod.mk.injEq] at h
      rw [← h.2]
      refine readUnit_quote read ?_
      rcases List.mem_cons.mp later with same | later
      · exact absurd same (by decide)
      rcases List.mem_cons.mp later with same | later
      · exact absurd same (by decide)
      · exact later
    · contradiction
  · contradiction

/-- In an escape, a quotation mark follows a reverse solidus. -/
theorem escape_quote (sound : Sound escape) {c : Char} {front back : List Char}
    (shape : escape c = front ++ '"' :: back) : front.getLast? = some '\\' := by
  obtain ⟨head, tail, own, other⟩ := escape_head sound c
  have taken := sound c []
  rw [List.append_nil, shape] at taken
  cases front with
  | nil =>
    rw [shape] at own
    exact absurd (List.cons.inj own).1.symm other
  | cons d front =>
    rw [List.cons_append, readChar] at taken
    split at taken
    · rename_i solidus
      cases front with
      | nil => rw [solidus]; rfl
      | cons e front =>
        have inside : '"' ∈ front ++ '"' :: back :=
          List.mem_append_right _ List.mem_cons_self
        have open' : front ++ '"' :: back ≠ [] := List.ne_nil_of_mem inside
        rw [List.cons_append, readEscape] at taken
        have ended : ∀ {f : Char}, some (f, front ++ '"' :: back) ≠ some (c, []) :=
          fun same => open' (Prod.mk.inj (Option.some.inj same)).2
        split at taken
        · exact absurd taken ended
        split at taken
        · exact absurd taken ended
        split at taken
        · exact absurd taken ended
        split at taken
        · exact absurd taken ended
        split at taken
        · exact absurd taken ended
        split at taken
        · exact absurd taken ended
        split at taken
        · exact absurd (readUnicode_quote taken inside) List.not_mem_nil
        · contradiction
    split at taken
    · contradiction
    · have ended := (Prod.mk.inj (Option.some.inj taken)).2
      exact absurd ended (List.append_ne_nil_of_right_ne_nil _ (List.cons_ne_nil _ _))

theorem body_quote (sound : Sound escape) (content : List Char) {front back : List Char}
    (shape : content.flatMap escape = front ++ '"' :: back) : front.getLast? = some '\\' := by
  induction content generalizing front with
  | nil => exact absurd shape.symm (List.append_ne_nil_of_right_ne_nil _ (List.cons_ne_nil _ _))
  | cons c content ih =>
    rw [List.flatMap_cons] at shape
    rcases List.append_eq_append_iff.mp shape with ⟨more, rfl, tail⟩ | ⟨more, own, tail⟩
    · have last := ih tail
      rw [List.getLast?_append, last]
      rfl
    · cases more with
      | nil =>
        have first := @ih [] tail.symm
        contradiction
      | cons d more =>
        cases tail
        exact escape_quote sound own

end Escapes

/-! ### No object behind the first brace -/

/-- Where no key is read, if the quotation mark before it is taken for the start of one. -/
def NoKey (text : List Char) : Prop :=
  ∀ fuel key after, readInside fuel text = some (key, after) → (skipWhite after).head? ≠ some ':'

/-- Neither white space nor a brace that opens. -/
def Solid (text : List Char) : Prop := ∀ c ∈ text, whiteSpace c = false ∧ c ≠ '\x7b'

theorem quote_not_white {text : List Char} (white : White text) : '"' ∉ text := by
  intro mem
  have other : whiteSpace '"' = false := by decide
  exact Bool.false_ne_true (other.symm.trans (white _ mem))

theorem opens_front {text : List Char} (h : Opens text) : ∃ front tail, White front ∧
    text = front ++ '\x7b' :: tail := by
  obtain ⟨front, gap, tail, before, _, ⟨shape, _⟩ | ⟨shape, _⟩⟩ := h
  · exact ⟨front, _, before, shape⟩
  · exact ⟨front, _, before, shape⟩

theorem not_opens_nil : ¬ Opens [] := by
  intro h
  obtain ⟨front, tail, _, shape⟩ := opens_front h
  exact List.append_ne_nil_of_right_ne_nil _ (List.cons_ne_nil _ _) shape.symm

/-- An object does not start inside a solid text. -/
theorem suffix_solid {first rest text : List Char} (solid : Solid first)
    (part : text <:+ first ++ rest) (h : Opens text) : text <:+ rest := by
  obtain ⟨before, same⟩ := part
  rcases List.append_eq_append_iff.mp same with ⟨more, own, rfl⟩ | ⟨more, _, own⟩
  · cases more with
    | nil => exact List.suffix_refl rest
    | cons c more =>
      obtain ⟨front, tail, white, shape⟩ := opens_front h
      obtain ⟨visible, other⟩ := solid c (own ▸ List.mem_append_right _ List.mem_cons_self)
      cases front with
      | nil => exact absurd (List.cons.inj shape).1 other
      | cons d front =>
        have blank := white d List.mem_cons_self
        rw [← (List.cons.inj shape).1, visible] at blank
        contradiction
  · exact ⟨more, own.symm⟩

/-- Nor inside a string, in front of a place where no key is read. -/
theorem not_opens_inside {escape : Char → List Char} (sound : Sound escape)
    {content part rest : List Char} (own : part <:+ content.flatMap escape) (none' : NoKey rest) :
    ¬ Opens (part ++ '"' :: rest) := by
  rintro ⟨front, gap, tail, before, between, inside⟩
  have split : ∃ inner, part = front ++ '\x7b' :: inner ∧
      ((inner ++ '"' :: rest = gap ++ '\x7d' :: tail ∧ White tail) ∨
        (inner ++ '"' :: rest = gap ++ '"' :: tail ∧ ∃ fuel key after,
          readInside fuel tail = some (key, after) ∧ (skipWhite after).head? = some ':')) := by
    have cut : ∀ {behind : List Char}, part ++ '"' :: rest = front ++ '\x7b' :: behind →
        ∃ inner, part = front ++ '\x7b' :: inner ∧ inner ++ '"' :: rest = behind := by
      intro behind shape
      rcases List.append_eq_append_iff.mp shape with ⟨more, rfl, same⟩ | ⟨more, rfl, same⟩
      · cases more with
        | nil => exact absurd (List.cons.inj same).1 (by decide)
        | cons d more =>
          have mark := quote_not_white before
          rw [← (List.cons.inj same).1] at mark
          exact absurd (List.mem_append_right _ List.mem_cons_self) mark
      · cases more with
        | nil => exact absurd (List.cons.inj same).1 (by decide)
        | cons d more =>
          obtain ⟨rfl, rfl⟩ := List.cons.inj same
          exact ⟨more, rfl, rfl⟩
    rcases inside with ⟨shape, ended⟩ | ⟨shape, keyed⟩
    · obtain ⟨inner, same, behind⟩ := cut shape
      exact ⟨inner, same, Or.inl ⟨behind, ended⟩⟩
    · obtain ⟨inner, same, behind⟩ := cut shape
      exact ⟨inner, same, Or.inr ⟨behind, keyed⟩⟩
  obtain ⟨inner, rfl, ⟨shape, ended⟩ | ⟨shape, fuel, key, after, read, colon⟩⟩ := split
  · have mem : '"' ∈ gap ++ '\x7d' :: tail :=
      shape ▸ List.mem_append_right _ List.mem_cons_self
    rcases List.mem_append.mp mem with mem | mem
    · exact quote_not_white between mem
    rcases List.mem_cons.mp mem with same | mem
    · exact absurd same (by decide)
    · exact quote_not_white ended mem
  · rcases List.append_eq_append_iff.mp shape with ⟨more, rfl, same⟩ | ⟨more, rfl, same⟩
    · cases more with
      | nil => exact none' fuel key after ((List.cons.inj same).2 ▸ read) colon
      | cons d more =>
        have mark := quote_not_white between
        rw [← (List.cons.inj same).1] at mark
        exact mark (List.mem_append_right _ List.mem_cons_self)
    · cases more with
      | nil => exact none' fuel key after ((List.cons.inj same).2 ▸ read) colon
      | cons d more =>
        -- The mark lies inside the string, so a reverse solidus would stand before it.
        obtain ⟨outer, whole⟩ := own
        obtain ⟨rfl, _⟩ := List.cons.inj same
        have last := @body_quote _ sound content (outer ++ (front ++ '\x7b' :: gap)) more
          (by rw [← whole]; simp only [List.append_assoc, List.cons_append])
        rw [← List.append_assoc, List.getLast?_append_cons] at last
        rcases List.mem_cons.mp (List.mem_of_getLast? last) with same | mem
        · exact absurd same (by decide)
        · have blank : whiteSpace '\\' = false := by decide
          exact Bool.false_ne_true (blank.symm.trans (between _ mem))

theorem suffix_literal {escape : Char → List Char} (sound : Sound escape) {content : List Char}
    {rest text : List Char} (none' : NoKey rest)
    (part : text <:+ literal escape content ++ rest) (h : Opens text) : text <:+ rest := by
  have mark : Solid ['"'] := by
    rw [Solid, List.forall_mem_singleton]
    decide
  have shape : literal escape content ++ rest =
      ['"'] ++ (content.flatMap escape ++ '"' :: rest) := by
    rw [literal, List.append_assoc]
    rfl
  obtain ⟨before, same⟩ := suffix_solid mark (shape ▸ part) h
  rcases List.append_eq_append_iff.mp same with ⟨more, own, rfl⟩ | ⟨more, _, own⟩
  · exact absurd h (not_opens_inside sound ⟨before, own.symm⟩ none')
  · exact suffix_solid mark ⟨more, own.symm⟩ h

/-- A key that is written as it is. -/
structure PlainKey (key : List Char) : Prop where
  filled : key ≠ []
  quoted : key.flatMap quoteChar = key
  solid : Solid key
  colon : ':' ∉ key

/-- A member with a plain key and a string, or with a value that has neither white space nor
braces. -/
structure Plain (escape : Char → List Char) (field : Member) : Prop where
  key : PlainKey field.key.toList
  text : Solid field.text ∨ ∃ content, field.text = literal escape content

theorem noKey_members {escape : Char → List Char} {fields : List Member}
    (each : ∀ field ∈ fields, Plain escape field) : NoKey (members fields ++ ['\x7d']) := by
  intro fuel key after read colon
  cases fields with
  | nil =>
    cases fuel with
    | zero => contradiction
    | succ fuel =>
      cases fuel with
      | zero => contradiction
      | succ fuel => contradiction
  | cons field fields =>
    have plain := (each field List.mem_cons_self).key
    obtain ⟨first, more, shape⟩ := List.exists_cons_of_ne_nil plain.filled
    have text : members (field :: fields) ++ ['\x7d'] =
        ',' :: '"' :: (first :: (more ++ '"' :: ':' :: (field.text ++ members fields ++
          ['\x7d']))) := by
      rw [members, quote, plain.quoted, shape]
      simp only [List.append_assoc, List.cons_append, List.nil_append]
    rw [text] at read
    cases fuel with
    | zero => contradiction
    | succ fuel =>
      cases fuel with
      | zero => contradiction
      | succ fuel =>
        cases read
        have visible := (plain.solid first (shape ▸ List.mem_cons_self)).1
        change (skipWhite (first :: _)).head? = some ':' at colon
        rw [skipWhite_cons visible] at colon
        refine plain.colon (shape ▸ ?_)
        rw [← Option.some.inj colon]
        exact List.mem_cons_self

theorem not_opens_members {escape : Char → List Char} (sound : Sound escape) {fields : List Member}
    (each : ∀ field ∈ fields, Plain escape field) {text : List Char}
    (part : text <:+ members fields ++ ['\x7d']) : ¬ Opens text := by
  intro h
  have single : ∀ {c : Char}, whiteSpace c = false → c ≠ '\x7b' → Solid [c] :=
    fun visible other => List.forall_mem_singleton.mpr ⟨visible, other⟩
  induction fields with
  | nil =>
    have ended := suffix_solid (single (by decide) (by decide))
      (show text <:+ ['\x7d'] ++ [] from part) h
    rw [List.suffix_nil.mp ended] at h
    exact not_opens_nil h
  | cons field fields ih =>
    obtain ⟨first, later⟩ := List.forall_mem_cons.mp each
    have mark := @single '"' (by decide) (by decide)
    have shape : members (field :: fields) ++ ['\x7d'] = [','] ++ (['"'] ++ (field.key.toList ++
        (['"'] ++ ([':'] ++ (field.text ++ (members fields ++ ['\x7d'])))))) := by
      rw [members, quote, first.key.quoted]
      simp only [List.append_assoc, List.cons_append, List.nil_append]
    rw [shape] at part
    have comma := suffix_solid (single (by decide) (by decide)) part h
    have key := suffix_solid first.key.solid (suffix_solid mark comma h) h
    have value := suffix_solid (single (by decide) (by decide)) (suffix_solid mark key h) h
    refine ih later ?_
    rcases first.text with solid | ⟨content, own⟩
    · exact suffix_solid solid value h
    · rw [own] at value
      exact suffix_literal sound (noKey_members later) value h

/-- Of the ends of the text, only the whole is read as an object. -/
theorem read_suffix {format : NumberFormat} {escape : Char → List Char} (sound : Sound escape)
    {fields : List Member} (each : ∀ field ∈ fields, Plain escape field) {text : List Char}
    (part : text <:+ object fields) {found : List (String × Json)}
    (h : read format text = some (.obj found)) : text = object fields := by
  rw [object, List.suffix_cons_iff] at part
  rcases part with whole | part
  · exact whole
  · refine absurd (opens_of_read h) (not_opens_members sound each ?_)
    refine part.trans ?_
    cases fields with
    | nil => exact List.suffix_refl _
    | cons field fields => exact List.suffix_cons _ _

end FlatJson
