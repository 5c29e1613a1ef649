import TaskQueQue.JsonText
import TaskQueQue.RequestRendering
import TaskQueQue.TaskFacade

/-!
# The canonical text of a JSON value

A fingerprint is taken of a text in which the keys of every object are sorted. Two
values have one text exactly if they are the same up to the order of keys, at every
depth. Keys are compared by their UTF-16 code units.
-/

namespace CanonicalJson

open GatewayValues JsonText JsonStrings
open TaskFacade (utf16Units canonicalJson canonicalItems canonicalFields)

/-! ### Code units -/

def units (c : Char) : List Nat :=
  if c.toNat < 65536 then [c.toNat]
  else [55296 + (c.toNat - 65536) / 1024, 56320 + (c.toNat - 65536) % 1024]

/-- A character is told by the units it begins with, whatever follows. -/
theorem units_append {c d : Char} {rest rest' : List Nat} (h : units c ++ rest = units d ++ rest') :
    c = d ∧ rest = rest' := by
  have plain : ∀ e : Char, e.toNat < 55296 ∨ (57343 < e.toNat ∧ e.toNat < 1114112) := fun e => e.valid
  have hc := plain c
  have hd := plain d
  unfold units at h
  by_cases small : c.toNat < 65536
  · rw [if_pos small] at h
    by_cases small' : d.toNat < 65536
    · rw [if_pos small'] at h
      obtain ⟨same, rest⟩ := List.cons.inj h
      exact ⟨Char.toNat_inj.mp same, rest⟩
    · rw [if_neg small'] at h
      obtain ⟨same, _⟩ := List.cons.inj h
      omega
  · rw [if_neg small] at h
    by_cases small' : d.toNat < 65536
    · rw [if_pos small'] at h
      obtain ⟨same, _⟩ := List.cons.inj h
      omega
    · rw [if_neg small'] at h
      obtain ⟨high, h⟩ := List.cons.inj h
      obtain ⟨low, rest⟩ := List.cons.inj h
      exact ⟨Char.toNat_inj.mp (by omega), rest⟩

theorem utf16Units_injective {left right : String} (h : utf16Units left = utf16Units right) :
    left = right := by
  have chars : ∀ xs ys : List Char, xs.flatMap units = ys.flatMap units → xs = ys := by
    intro xs
    induction xs with
    | nil =>
      intro ys h
      cases ys with
      | nil => rfl
      | cons d ys =>
        have filled : units d ≠ [] := by
          unfold units
          split
          · exact List.cons_ne_nil _ _
          · exact List.cons_ne_nil _ _
        rw [List.flatMap_nil, List.flatMap_cons] at h
        exact absurd (List.append_eq_nil_iff.mp h.symm).1 filled
    | cons c xs ih =>
      intro ys h
      cases ys with
      | nil =>
        have filled : units c ≠ [] := by
          unfold units
          split
          · exact List.cons_ne_nil _ _
          · exact List.cons_ne_nil _ _
        rw [List.flatMap_nil, List.flatMap_cons] at h
        exact absurd (List.append_eq_nil_iff.mp h).1 filled
      | cons d ys =>
        rw [List.flatMap_cons, List.flatMap_cons] at h
        obtain ⟨rfl, rest⟩ := units_append h
        rw [ih ys rest]
  exact String.toList_inj.mp (chars _ _ h)

/-! ### Sorted keys -/

def KeyBefore {α : Type} (left right : String × α) : Prop := utf16Units left.1 ≤ utf16Units right.1

instance {α : Type} : DecidableRel (@KeyBefore α) := fun left right =>
  inferInstanceAs (Decidable (utf16Units left.1 ≤ utf16Units right.1))

instance {α : Type} : Std.Total (@KeyBefore α) where
  total left right := le_total (utf16Units left.1) (utf16Units right.1)

instance {α : Type} : IsTrans (String × α) KeyBefore where
  trans _ _ _ first second := le_trans (α := List Nat) first second

def sortByKey {α : Type} (fields : List (String × α)) : List (String × α) :=
  fields.insertionSort KeyBefore

theorem sortByKey_map {α β : Type} (f : α → β) (fields : List (String × α)) :
    (sortByKey fields).map (fun field => (field.1, f field.2)) =
      sortByKey (fields.map fun field => (field.1, f field.2)) :=
  List.map_insertionSort KeyBefore KeyBefore (fun field : String × α => (field.1, f field.2)) fields
    fun _ _ _ _ => Iff.rfl

/-- Entries with keys of their own are sorted in one way. -/
theorem sortByKey_eq_iff {α : Type} {fields fields' : List (String × α)}
    (distinct : (fields'.map Prod.fst).Nodup) :
    sortByKey fields = sortByKey fields' ↔ fields.Perm fields' := by
  constructor
  · intro same
    exact (List.perm_insertionSort KeyBefore fields).symm.trans
      ((List.Perm.of_eq same).trans (List.perm_insertionSort KeyBefore fields'))
  · intro perm
    refine List.Perm.eq_of_pairwise ?_ (List.pairwise_insertionSort _ _)
      (List.pairwise_insertionSort _ _) ((List.perm_insertionSort _ _).trans
        (perm.trans (List.perm_insertionSort _ _).symm))
    intro left right memLeft memRight first second
    have held : left ∈ fields' := perm.subset ((List.mem_insertionSort _).mp memLeft)
    have held' : right ∈ fields' := (List.mem_insertionSort _).mp memRight
    exact List.inj_on_of_nodup_map distinct held held'
      (utf16Units_injective (le_antisymm first second))

/-! ### The same value -/

mutual

/-- Equal, but for the order in which the keys of objects come. -/
def Same : Json → Json → Prop
  | .arr items, .arr items' => SameItems items items'
  | .obj fields, .obj fields' => fields.length = fields'.length ∧ SameFields fields fields'
  | .null, .null => True
  | .bool value, .bool value' => value = value'
  | .num value, .num value' => value = value'
  | .str value, .str value' => value = value'
  | _, _ => False

def SameItems : List Json → List Json → Prop
  | [], [] => True
  | item :: items, item' :: items' => Same item item' ∧ SameItems items items'
  | _, _ => False

/-- Every field is among the others, with the same value. -/
def SameFields : List (String × Json) → List (String × Json) → Prop
  | [], _ => True
  | (key, value) :: fields, fields' =>
    (∃ value', fields'.lookup key = some value' ∧ Same value value') ∧ SameFields fields fields'

end

mutual

/-- No object holds a key twice. -/
def Distinct : Json → Prop
  | .arr items => DistinctItems items
  | .obj fields => (fields.map Prod.fst).Nodup ∧ DistinctFields fields
  | .null => True
  | .bool _ => True
  | .num _ => True
  | .str _ => True

def DistinctItems : List Json → Prop
  | [] => True
  | item :: items => Distinct item ∧ DistinctItems items

def DistinctFields : List (String × Json) → Prop
  | [] => True
  | (_, value) :: fields => Distinct value ∧ DistinctFields fields

end

mutual

/-- The value with the keys of every object in order. -/
def sortKeys : Json → Json
  | .arr items => .arr (sortItems items)
  | .obj fields => .obj (sortByKey (sortFields fields))
  | .null => .null
  | .bool value => .bool value
  | .num value => .num value
  | .str value => .str value

def sortItems : List Json → List Json
  | [] => []
  | item :: items => sortKeys item :: sortItems items

def sortFields : List (String × Json) → List (String × Json)
  | [] => []
  | (key, value) :: fields => (key, sortKeys value) :: sortFields fields

end

theorem sortFields_eq_map (fields : List (String × Json)) :
    sortFields fields = fields.map fun field => (field.1, sortKeys field.2) := by
  induction fields with
  | nil => rfl
  | cons field rest ih =>
    obtain ⟨key, value⟩ := field
    rw [sortFields, List.map_cons, ih]

theorem keys_sortFields (fields : List (String × Json)) :
    (sortFields fields).map Prod.fst = fields.map Prod.fst := by
  rw [sortFields_eq_map, List.map_map]
  rfl

theorem distinctFields_mem {fields : List (String × Json)} (distinct : DistinctFields fields)
    {field : String × Json} (mem : field ∈ fields) : Distinct field.2 := by
  induction fields with
  | nil => cases mem
  | cons first rest ih =>
    obtain ⟨key, value⟩ := first
    rw [DistinctFields] at distinct
    rcases List.mem_cons.mp mem with rfl | mem
    · exact distinct.1
    · exact ih distinct.2 mem

theorem sameFields_iff {fields fields' : List (String × Json)} :
    SameFields fields fields' ↔ ∀ field ∈ fields, ∃ value', fields'.lookup field.1 = some value' ∧
      Same field.2 value' := by
  induction fields with
  | nil => exact iff_of_true trivial fun field mem => absurd mem List.not_mem_nil
  | cons first rest ih =>
    obtain ⟨key, value⟩ := first
    rw [SameFields, List.forall_mem_cons, ih]

/-- Lists of equal length, one with distinct entries that are all in the other. -/
theorem perm_of_subset {α : Type} {l l' : List α} (distinct : l.Nodup) (sub : l ⊆ l')
    (length : l'.length ≤ l.length) : l.Perm l' :=
  (List.subperm_of_subset distinct sub).perm_of_length_le length

/-- The fields of two objects, once their values are in order, are the same entries exactly
if every field of the one is found in the other with the same value. -/
theorem perm_sortFields_iff {fields fields' : List (String × Json)}
    (distinct : (fields.map Prod.fst).Nodup) (distinct' : (fields'.map Prod.fst).Nodup)
    (values : ∀ field ∈ fields, ∀ value', (field.1, value') ∈ fields' →
      (sortKeys field.2 = sortKeys value' ↔ Same field.2 value')) :
    (sortFields fields).Perm (sortFields fields') ↔
      fields.length = fields'.length ∧ SameFields fields fields' := by
  rw [sameFields_iff]
  constructor
  · intro perm
    have length := perm.length_eq
    rw [sortFields_eq_map, sortFields_eq_map, List.length_map, List.length_map] at length
    refine ⟨length, fun field mem => ?_⟩
    have found : (field.1, sortKeys field.2) ∈ sortFields fields' := by
      apply perm.subset
      rw [sortFields_eq_map]
      exact List.mem_map.mpr ⟨field, mem, rfl⟩
    rw [sortFields_eq_map] at found
    obtain ⟨⟨key', value'⟩, mem', entry⟩ := List.mem_map.mp found
    obtain ⟨rfl, same⟩ := Prod.mk.inj entry
    exact ⟨value', RequestRendering.lookup_of_mem distinct' mem',
      (values field mem value' mem').mp same.symm⟩
  · rintro ⟨length, same⟩
    apply perm_of_subset
    · apply List.Nodup.of_map Prod.fst
      rwa [keys_sortFields]
    · intro entry mem
      rw [sortFields_eq_map] at mem ⊢
      obtain ⟨field, held, rfl⟩ := List.mem_map.mp mem
      obtain ⟨value', found, alike⟩ := same field held
      have mem' : (field.1, value') ∈ fields' := by
        obtain ⟨before, after, shape, _⟩ := List.lookup_eq_some_iff.mp found
        rw [shape]
        exact List.mem_append_right _ List.mem_cons_self
      rw [(values field held value' mem').mpr alike]
      exact List.mem_map.mpr ⟨_, mem', rfl⟩
    · rw [sortFields_eq_map, sortFields_eq_map, List.length_map, List.length_map]
      exact length.ge

mutual

/-- Two values are in order the same exactly if they are the same but for their order. -/
theorem sortKeys_eq_iff : (value value' : Json) → Distinct value → Distinct value' →
    (sortKeys value = sortKeys value' ↔ Same value value')
  | .arr items, value', distinct, distinct' => by
    cases value' with
    | arr items' =>
      rw [Distinct] at distinct distinct'
      rw [sortKeys, sortKeys, Json.arr.injEq, Same]
      exact sortItems_eq_iff items items' distinct distinct'
    | null | bool | num | str | obj =>
      simp only [sortKeys, Same, reduceCtorEq]
  | .obj fields, value', distinct, distinct' => by
    cases value' with
    | obj fields' =>
      rw [Distinct] at distinct distinct'
      have values := sortFields_eq_iff fields distinct.2
      rw [sortKeys, sortKeys, Json.obj.injEq, Same, sortByKey_eq_iff, perm_sortFields_iff distinct.1
        distinct'.1]
      · exact fun field mem value' mem' =>
          values field mem value' (distinctFields_mem distinct'.2 mem')
      · rw [keys_sortFields]
        exact distinct'.1
    | null | bool | num | str | arr =>
      simp only [sortKeys, Same, reduceCtorEq]
  | .null, value', _, _ => by cases value' <;> simp [sortKeys, Same]
  | .bool value, value', _, _ => by cases value' <;> simp [sortKeys, Same]
  | .num value, value', _, _ => by cases value' <;> simp [sortKeys, Same]
  | .str value, value', _, _ => by cases value' <;> simp [sortKeys, Same]

theorem sortItems_eq_iff : (items items' : List Json) → DistinctItems items →
    DistinctItems items' → (sortItems items = sortItems items' ↔ SameItems items items')
  | [], [], _, _ => by simp [sortItems, SameItems]
  | [], _ :: _, _, _ => by simp [sortItems, SameItems]
  | _ :: _, [], _, _ => by simp [sortItems, SameItems]
  | item :: items, item' :: items', distinct, distinct' => by
    rw [DistinctItems] at distinct distinct'
    rw [sortItems, sortItems, List.cons.injEq, SameItems,
      sortKeys_eq_iff item item' distinct.1 distinct'.1,
      sortItems_eq_iff items items' distinct.2 distinct'.2]

theorem sortFields_eq_iff : (fields : List (String × Json)) → DistinctFields fields →
    ∀ field ∈ fields, ∀ value', Distinct value' →
      (sortKeys field.2 = sortKeys value' ↔ Same field.2 value')
  | [], _ => fun field mem => absurd mem List.not_mem_nil
  | (key, value) :: fields, distinct => by
    rw [DistinctFields] at distinct
    intro field mem value' distinct'
    rcases List.mem_cons.mp mem with rfl | mem
    · exact sortKeys_eq_iff value value' distinct.1 distinct'
    · exact sortFields_eq_iff fields distinct.2 field mem value' distinct'

end

/-! ### The text -/

theorem exactFields_iff {format : NumberFormat} {fields : List (String × Json)} :
    ExactFields format fields ↔ ∀ field ∈ fields, Exact format field.2 := by
  induction fields with
  | nil => exact iff_of_true trivial fun field mem => absurd mem List.not_mem_nil
  | cons first rest ih =>
    obtain ⟨key, value⟩ := first
    rw [ExactFields, List.forall_mem_cons, ih]

/-- The laws of the platform's JSON that the text rests on. -/
structure KeepsJson (web : WebRuntime) (format : NumberFormat) : Prop where
  stringify : ∀ value, JsonText.Normal format value →
    web.stringify value = String.ofList (render format value)
  parsed : ∀ text value, web.parse text = some value → JsonText.Normal format value
  back : ∀ value, JsonText.Normal format value → web.parse (web.stringify value) = some value

section Texts
variable {web : WebRuntime} {format : NumberFormat}

theorem toList_intercalate (text : String) (texts : List String) :
    (",".intercalate (text :: texts)).toList =
      text.toList ++ texts.flatMap fun other => ',' :: other.toList := by
  induction texts generalizing text with
  | nil => rw [String.intercalate_singleton, List.flatMap_nil, List.append_nil]
  | cons next rest ih =>
    rw [String.intercalate_cons_cons, String.toList_append, String.toList_append, ih,
      List.flatMap_cons, List.append_assoc]
    rfl

theorem toList_intercalate_tail (texts : List String) :
    (",".intercalate texts).toList = (texts.flatMap fun text => ',' :: text.toList).tail := by
  cases texts with
  | nil => rfl
  | cons text texts => exact toList_intercalate text texts

theorem renderItems_eq (items : List Json) :
    renderItems format items = items.flatMap fun item => ',' :: render format item := by
  induction items with
  | nil => rfl
  | cons item rest ih =>
    rw [renderItems, List.flatMap_cons, ih]
    rfl

theorem renderFields_eq (fields : List (String × Json)) :
    renderFields format fields = fields.flatMap fun field =>
      ',' :: (quote field.1.toList ++ ':' :: render format field.2) := by
  induction fields with
  | nil => rfl
  | cons field rest ih =>
    obtain ⟨key, value⟩ := field
    rw [renderFields, List.flatMap_cons, ih, List.cons_append, List.append_assoc]
    rfl

mutual

theorem canonicalJson_eq (keeps : KeepsJson web format) : (value : Json) → Exact format value →
    canonicalJson web value = String.ofList (render format (sortKeys value))
  | .null, _ => by
    rw [canonicalJson, sortKeys, keeps.stringify .null trivial]
  | .bool value, _ => by
    rw [canonicalJson, sortKeys, keeps.stringify (.bool value) trivial]
  | .num value, exact => by
    rw [Exact] at exact
    rw [canonicalJson, sortKeys, keeps.stringify]
    rwa [JsonText.Normal]
  | .str value, _ => by
    rw [canonicalJson, sortKeys, keeps.stringify (.str value) trivial]
  | .arr items, exact => by
    rw [Exact] at exact
    apply String.toList_inj.mp
    rw [canonicalJson, sortKeys, render, canonicalItems_eq keeps items exact, String.toList_append,
      String.toList_append, toList_intercalate_tail, String.toList_ofList, renderItems_eq,
      List.flatMap_map]
    simp only [String.toList_ofList]
    rfl
  | .obj fields, exact => by
    rw [Exact] at exact
    apply String.toList_inj.mp
    have sorted : (canonicalFields web fields).insertionSort
        (fun left right => utf16Units left.1 ≤ utf16Units right.1) =
        (sortByKey (sortFields fields)).map fun field =>
          (field.1, String.ofList (render format field.2)) := by
      rw [canonicalFields_eq keeps fields exact]
      exact (sortByKey_map (fun value => String.ofList (render format value)) _).symm
    have written : ∀ key text : String, (web.stringify (.str key) ++ ":" ++ text).toList =
        quote key.toList ++ ':' :: text.toList := by
      intro key text
      rw [keeps.stringify (.str key) trivial, render, String.toList_append,
        String.toList_append, String.toList_ofList, List.append_assoc]
      rfl
    rw [canonicalJson, sortKeys, render, sorted, String.toList_append, String.toList_append,
      toList_intercalate_tail, String.toList_ofList, renderFields_eq, List.flatMap_map,
      List.flatMap_map]
    simp only [written, String.toList_ofList]
    rfl

theorem canonicalItems_eq (keeps : KeepsJson web format) : (items : List Json) →
    ExactItems format items → canonicalItems web items =
      (sortItems items).map fun item => String.ofList (render format item)
  | [], _ => rfl
  | item :: items, exact => by
    rw [ExactItems] at exact
    rw [canonicalItems, sortItems, List.map_cons, canonicalJson_eq keeps item exact.1,
      canonicalItems_eq keeps items exact.2]

theorem canonicalFields_eq (keeps : KeepsJson web format) : (fields : List (String × Json)) →
    ExactFields format fields → canonicalFields web fields =
      (sortFields fields).map fun field => (field.1, String.ofList (render format field.2))
  | [], _ => rfl
  | (key, value) :: fields, exact => by
    rw [ExactFields] at exact
    rw [canonicalFields, sortFields, List.map_cons, canonicalJson_eq keeps value exact.1,
      canonicalFields_eq keeps fields exact.2]

end

mutual

theorem exact_sortKeys : {value : Json} → Exact format value → Exact format (sortKeys value)
  | .null, _ => trivial
  | .bool _, _ => trivial
  | .num _, exact => exact
  | .str _, _ => trivial
  | .arr items, exact => by
    rw [Exact] at exact
    rw [sortKeys, Exact]
    exact exact_sortItems exact
  | .obj fields, exact => by
    rw [Exact] at exact
    rw [sortKeys, Exact, exactFields_iff]
    intro field mem
    exact exact_sortFields exact field ((List.mem_insertionSort _).mp mem)

theorem exact_sortItems : {items : List Json} → ExactItems format items →
    ExactItems format (sortItems items)
  | [], _ => trivial
  | item :: items, exact => by
    rw [ExactItems] at exact
    rw [sortItems, ExactItems]
    exact ⟨exact_sortKeys exact.1, exact_sortItems exact.2⟩

theorem exact_sortFields : {fields : List (String × Json)} → ExactFields format fields →
    ∀ field ∈ sortFields fields, Exact format field.2
  | [], _ => fun field mem => absurd mem List.not_mem_nil
  | (key, value) :: fields, exact => by
    rw [ExactFields] at exact
    rw [sortFields, List.forall_mem_cons]
    exact ⟨exact_sortKeys exact.1, exact_sortFields exact.2⟩

end

/-- Values have one canonical text exactly if they are the same but for the order of keys. -/
theorem canonicalJson_eq_iff (keeps : KeepsJson web format) {value value' : Json}
    (exact : Exact format value) (exact' : Exact format value') (distinct : Distinct value)
    (distinct' : Distinct value') :
    canonicalJson web value = canonicalJson web value' ↔ Same value value' := by
  rw [canonicalJson_eq keeps value exact, canonicalJson_eq keeps value' exact', String.ofList_inj,
    ← sortKeys_eq_iff value value' distinct distinct']
  constructor
  · intro same
    have back := read_render_exact (exact_sortKeys exact)
    rw [same, read_render_exact (exact_sortKeys exact')] at back
    exact (Option.some.inj back).symm
  · exact congrArg (render format)

end Texts

/-! ### Values of the platform -/

theorem nodup_of_precedes {keys : List String} (ordered : keys.Pairwise Precedes) : keys.Nodup := by
  refine ordered.imp ?_
  rintro left right first rfl
  unfold Precedes at first
  split at first
  · rename_i m n index index'
    rw [index] at index'
    cases index'
    exact Nat.lt_irrefl _ first
  · exact first
  · exact first rfl

section Platform
variable {format : NumberFormat}

mutual

theorem distinct_of_normal : {value : Json} → JsonText.Normal format value → Distinct value
  | .null, _ => trivial
  | .bool _, _ => trivial
  | .num _, _ => trivial
  | .str _, _ => trivial
  | .arr items, normal => by
    rw [JsonText.Normal] at normal
    rw [Distinct]
    exact distinctItems_of_normal normal
  | .obj fields, normal => by
    rw [JsonText.Normal] at normal
    rw [Distinct]
    exact ⟨nodup_of_precedes normal.1, distinctFields_of_normal normal.2⟩

theorem distinctItems_of_normal : {items : List Json} → NormalItems format items →
    DistinctItems items
  | [], _ => trivial
  | item :: items, normal => by
    rw [NormalItems] at normal
    rw [DistinctItems]
    exact ⟨distinct_of_normal normal.1, distinctItems_of_normal normal.2⟩

theorem distinctFields_of_normal : {fields : List (String × Json)} → NormalFields format fields →
    DistinctFields fields
  | [], _ => trivial
  | (key, value) :: fields, normal => by
    rw [NormalFields] at normal
    rw [DistinctFields]
    exact ⟨distinct_of_normal normal.1, distinctFields_of_normal normal.2⟩

end

end Platform

end CanonicalJson
