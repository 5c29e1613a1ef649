import TaskQueQue.ResultReferences
import TaskQueQue.SerializedResults
import TaskQueQue.WorkerApi

/-!
# Texts that are escaped once more

The daemon puts the text of a stored result into a document as a string. A text that
`JSON.stringify` wrote has no control characters, so it grows to no more than twice its
size there.
-/

namespace EscapedTexts

open GatewayValues JsonStrings JsonText SerializedResults
open WorkerApi (escapeChar)

/-- No control characters. -/
def Printable (text : List Char) : Prop := ∀ c ∈ text, 32 ≤ c.toNat

theorem Printable.append {left right : List Char} (first : Printable left)
    (later : Printable right) : Printable (left ++ right) :=
  List.forall_mem_append.mpr ⟨first, later⟩

theorem Printable.cons {c : Char} {text : List Char} (first : 32 ≤ c.toNat)
    (later : Printable text) : Printable (c :: text) :=
  List.forall_mem_cons.mpr ⟨first, later⟩

theorem Printable.tail {text : List Char} (printable : Printable text) : Printable text.tail :=
  fun c mem => printable c (List.mem_of_mem_tail mem)

theorem printable_nil : Printable [] := List.forall_mem_nil _

theorem hexChar_printable : ∀ n : Fin 16, 32 ≤ (hexChar n).toNat := by decide

theorem quoteChar_printable (c : Char) : Printable (quoteChar c) := by
  have solidus : 32 ≤ '\\'.toNat := by decide
  have pair : ∀ d : Char, 32 ≤ d.toNat → Printable ['\\', d] :=
    fun d visible => .cons solidus (.cons visible printable_nil)
  unfold quoteChar
  split
  · rename_i mark
    rcases mark with rfl | rfl
    · exact pair '"' (by decide)
    · exact pair '\\' solidus
  iterate 5
    split
    · exact pair _ (by decide)
  split
  · have high := hexChar_printable ⟨c.toNat / 16, by omega⟩
    have low := hexChar_printable ⟨c.toNat % 16, by omega⟩
    have zero : 32 ≤ '0'.toNat := by decide
    exact .cons solidus (.cons (by decide) (.cons zero (.cons zero (.cons high
      (.cons low printable_nil)))))
  · rename_i visible
    exact .cons (Nat.not_lt.mp visible) printable_nil

theorem quote_printable (content : List Char) : Printable (quote content) := by
  have mark : 32 ≤ '"'.toNat := by decide
  refine .append (.cons mark fun c mem => ?_) (.cons mark printable_nil)
  obtain ⟨d, _, inside⟩ := List.mem_flatMap.mp mem
  exact quoteChar_printable d c inside

theorem numberChar_printable {c : Char} (number : numberChar c = true) : 32 ≤ c.toNat := by
  rw [numberChar, Bool.or_eq_true] at number
  rcases number with digit | sign
  · rw [Char.isDigit, Bool.and_eq_true, decide_eq_true_eq] at digit
    exact Nat.le_trans (by decide : 32 ≤ '0'.toNat) digit.1
  · have all : ("+-.eE".toList.all fun c => decide (32 ≤ c.toNat)) = true := by decide
    exact of_decide_eq_true (List.all_eq_true.mp all c (List.contains_iff_mem.mp sign))

/-- A written text has no control characters, whatever the strings in it have. -/
theorem render_printable {format : NumberFormat} (value : Json) :
    JsonText.Normal format value → Printable (render format value) := by
  refine ResultReferences.json_induction
    (P := fun value => JsonText.Normal format value → Printable (render format value))
    (Q := fun items => NormalItems format items → Printable (renderItems format items))
    (R := fun fields => NormalFields format fields → Printable (renderFields format fields))
    ?_ ?_ ?_ ?_ ?_ ?_ ?_ value
  · intro value flat normal
    have words : ∀ word ∈ ["null", "true", "false"], Printable word.toList := by
      intro word mem
      have all : (["null", "true", "false"].all fun word =>
          word.toList.all fun c => decide (32 ≤ c.toNat)) = true := by decide
      exact fun c inside =>
        of_decide_eq_true (List.all_eq_true.mp (List.all_eq_true.mp all word mem) c inside)
    cases value with
    | null =>
      rw [render]
      exact words _ (.head _)
    | bool value =>
      cases value
      · rw [render]
        exact words _ (.tail _ (.tail _ (.head _)))
      · rw [render]
        exact words _ (.tail _ (.head _))
    | num value =>
      rw [JsonText.Normal] at normal
      rw [render]
      exact fun c mem => numberChar_printable ((format.shape value normal).2 c mem)
    | str value =>
      rw [render]
      exact quote_printable _
    | arr _ | obj _ => cases flat
  · intro items ih normal
    rw [JsonText.Normal] at normal
    rw [render]
    exact .cons (by decide) (.append (ih normal).tail (.cons (by decide) printable_nil))
  · intro fields ih normal
    rw [JsonText.Normal] at normal
    rw [render]
    exact .cons (by decide) (.append (ih normal.2).tail (.cons (by decide) printable_nil))
  · intro _
    rw [renderItems]
    exact printable_nil
  · intro item items head tail normal
    rw [NormalItems] at normal
    rw [renderItems]
    exact .cons (by decide) (.append (head normal.1) (tail normal.2))
  · intro _
    rw [renderFields]
    exact printable_nil
  · intro key entry rest head tail normal
    rw [NormalFields] at normal
    rw [renderFields]
    exact .cons (by decide) (.append (quote_printable _)
      (.cons (by decide) (.append (head normal.1) (tail normal.2))))

/-! ### Sizes -/

theorem byteSize_escapeChar {c : Char} (visible : 32 ≤ c.toNat) :
    byteSize (escapeChar c) ≤ 2 * byteSize [c] := by
  have named : (['"', '\\', '\n', '\r', '\t'].all fun d =>
      decide (byteSize (escapeChar d) ≤ 2 * byteSize [d])) = true := by decide
  by_cases special : c ∈ ['"', '\\', '\n', '\r', '\t']
  · exact of_decide_eq_true (List.all_eq_true.mp named c special)
  · simp only [List.mem_cons, List.not_mem_nil, or_false, not_or] at special
    obtain ⟨mark, solidus, line, return', tab⟩ := special
    rw [escapeChar, if_neg mark, if_neg solidus, if_neg line, if_neg return', if_neg tab,
      if_neg (Nat.not_lt.mpr visible)]
    omega

theorem byteSize_escaped {text : List Char} (printable : Printable text) :
    byteSize (text.flatMap escapeChar) ≤ 2 * byteSize text := by
  induction text with
  | nil => exact Nat.zero_le _
  | cons c text ih =>
    obtain ⟨first, later⟩ := List.forall_mem_cons.mp printable
    have here := byteSize_escapeChar first
    have rest := ih later
    rw [List.flatMap_cons, byteSize_append, ← List.singleton_append, byteSize_append]
    omega

/-- What the daemon makes of a text that was written. -/
theorem escaped_size {format : NumberFormat} {value : Json}
    (normal : JsonText.Normal format value) :
    (LocalApi.jsonEscape (String.ofList (render format value))).utf8ByteSize ≤
      2 * (String.ofList (render format value)).utf8ByteSize := by
  have escaped := byteSize_escaped (render_printable value normal)
  rw [WorkerApi.jsonEscape_copies, WorkerApi.jsonEscape, String.toList_ofList]
  exact escaped

end EscapedTexts
