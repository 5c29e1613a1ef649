import TaskQueQue.CimdNetwork

/-!
# One address, many texts

The reader of addresses depends on the text only through the address it denotes:
compression, leading zeros, the case of digits and a decimal tail make no
difference. So neither does the verdict on special use.

A text with a zone is no spelling of an address here. Node's `isIP` knows such
texts, and nothing is assumed of what it says of them: they are always refused.
-/

namespace AddressSpellings

open IpAddresses CimdNetwork

/-- The texts of an address, without a zone. -/
def Spells (text : List Char) (address : Address) : Prop := '%' ∉ text ∧ Denotes text address

/-- `isIP` accepts the textual grammars, as far as there is no zone. -/
structure KnowsTexts (isIP : IsIP) : Prop where
  four : ∀ text, isIP text = some .v4 ↔ ∃ q : Quad, text.toList = q.text
  six : ∀ text, '%' ∉ text.toList → (isIP text = some .v6 ↔ ∃ t : LongText, text.toList = t.text)

theorem knows_of_grammar {isIP : IsIP} (grammar : FollowsGrammar isIP) : KnowsTexts isIP :=
  ⟨grammar.four, fun text _ => grammar.six text⟩

/-- An IPv4 address inside the block `::ffff:0:0/96`. -/
def mapped (q : Quad) : Address := ⟨.v6, List.replicate 10 0 ++ ([255, 255] ++ q.bytes)⟩

/-- The verdict on an address, whatever its text. -/
def verdict (address : Address) : Bool :=
  match address.version with
  | .v4 => ipv4SpecialUse address.bytes
  | .v6 => ipv6SpecialUse address.bytes

/-! ### Lower case -/

def lowerGroup (group : Group) : Group where
  digits := lowerDigits group
  filled := (lowerDigits_readable group).plain.1
  short := by
    rw [lowerDigits, List.length_map]
    exact group.short
  hex := by
    intro c mem
    obtain ⟨d, inside, rfl⟩ := List.mem_map.mp mem
    have same := (hexadecimal_lower (group.hex d inside)).1
    rw [hexadecimal, same]
    exact group.hex d inside

theorem digits_lowerGroup (groups : List Group) :
    (groups.map lowerGroup).map Group.digits = groups.map lowerDigits := by
  rw [List.map_map]
  rfl

/-- The same text in lower case. -/
def lowerText (t : LongText) : LongText where
  left := t.left.map lowerGroup
  right := t.right.map (List.map lowerGroup)
  quad := t.quad
  fits := by
    have fits := t.fits
    cases gap : t.right with
    | none =>
      rw [gap] at fits
      rw [List.length_map]
      exact fits
    | some right =>
      rw [gap] at fits
      simp only [Option.map_some, Option.getD_some, List.length_map, Option.isSome_some,
        reduceCtorEq, and_true, and_false, or_false] at fits ⊢
      exact fits

theorem lowerText_text {t : LongText} (noZone : t.zone = none) :
    (lowerText t).text = t.text.map Char.toLower := by
  have text : t.text = t.plain := by rw [LongText.text, noZone]
  rw [text, plain_lower]
  cases gap : t.right with
  | none =>
    simp only [lowerText, LongText.text, LongText.plain, LongText.tail, gap, Option.map_none,
      Option.getD_none, digits_lowerGroup]
  | some right =>
    simp only [lowerText, LongText.text, LongText.plain, LongText.tail, gap, Option.map_some,
      Option.getD_some, digits_lowerGroup]

theorem no_percent_lower {t : LongText} (noZone : t.zone = none) :
    '%' ∉ t.text.map Char.toLower := by
  intro mem
  rw [LongText.text, noZone] at mem
  rcases plain_chars t '%' mem with colon | dot | digit
  · cases colon
  · cases dot
  · exact absurd digit (by decide)

theorem no_percent {t : LongText} (noZone : t.zone = none) : '%' ∉ t.text :=
  fun mem => no_percent_lower noZone (List.mem_map.mpr ⟨'%', mem, rfl⟩)

theorem zone_of_no_percent {t : LongText} (plain : '%' ∉ t.text) : t.zone = none := by
  cases hzone : t.zone with
  | none => rfl
  | some zone =>
    rw [LongText.text, hzone] at plain
    exact absurd (List.mem_append_right _ List.mem_cons_self) plain

/-! ### What the readers return -/

theorem parseIpv6_text {isIP : IsIP} (knows : KnowsTexts isIP) {t : LongText}
    (noZone : t.zone = none) : parseIpv6 isIP t.text = some t.bytes := by
  have plain := no_percent_lower noZone
  have six : isIP (String.ofList (t.text.map Char.toLower)) = some .v6 := by
    rw [knows.six _ (by rwa [String.toList_ofList]), String.toList_ofList]
    exact ⟨lowerText t, (lowerText_text noZone).symm⟩
  have read := read_plain t
  have text : t.text = t.plain := by rw [LongText.text, noZone]
  rw [← text] at read
  obtain ⟨rewritten, found, expanded⟩ := Option.bind_eq_some_iff.mp read
  have result : ∃ bytes, parseIpv6 isIP t.text = some bytes := by
    rw [parseIpv6, unbracket_text, if_neg (not_or.mpr ⟨plain, not_not.mpr six⟩), found,
      Option.bind_some, expanded, Option.map_some]
    exact ⟨_, rfl⟩
  obtain ⟨bytes, parsed⟩ := result
  rw [parsed, parseIpv6_sound parsed]

/-- The verdict on a text is the verdict on the address it spells. -/
theorem isSpecialUse_of_spelling {isIP : IsIP} (knows : KnowsTexts isIP) {text : String}
    {address : Address} (spells : Spells text.toList address) :
    isSpecialUseIpAddress isIP text = verdict address := by
  obtain ⟨plain, denotes⟩ := spells
  rw [isSpecialUseIpAddress]
  generalize spelled : text.toList = chars at denotes
  cases denotes with
  | quad q =>
    have four : isIP text = some .v4 := (knows.four text).mpr ⟨q, spelled⟩
    rw [unbracket_of_head (quad_head q), ← spelled, String.ofList_toList, four]
    simp only [spelled, parseIpv4_text, Option.all_some]
    rfl
  | long t =>
    have six : isIP text = some .v6 := (knows.six text plain).mpr ⟨t, spelled⟩
    rw [spelled] at plain
    rw [unbracket_of_head (long_head t), ← spelled, String.ofList_toList, six]
    simp only [spelled, parseIpv6_text knows (zone_of_no_percent plain), Option.all_some]
    rfl

theorem verdict_of_special {text : List Char} {address : Address} (denotes : Denotes text address)
    (special : SpecialUse address) : verdict address = true := by
  cases denotes with
  | quad q =>
    rcases special with ⟨⟨stem, bits⟩, listed, _, agree⟩ | ⟨_, _, other, _⟩
    · have stems : ∀ entry ∈ ipv4Blocks, ∀ byte ∈ entry.1, byte < 256 := by decide
      have hq := getD_lt (quad_bytes_small q)
      have hs := getD_lt (stems _ listed)
      exact ipv4SpecialUse_of_block listed
        ⟨fun w covered => whole_byte agree covered (hq w) (hs w),
          fun w r covered small => top_bits agree covered small (hq w) (hs w)⟩
    · cases other
  | long t =>
    rcases special with ⟨_, _, other, _⟩ | ⟨entry, listed, _, agree⟩
    · cases other
    · exact ipv6SpecialUse_of_block (long_bytes_small t) listed agree

/-- Mapped addresses lie in the first block of all, `::/8`. -/
theorem verdict_mapped (q : Quad) : verdict (mapped q) = true :=
  List.any_eq_true.mpr ⟨([0], 8), List.mem_cons_self, rfl⟩

/-! ### Texts with a zone -/

theorem mem_unbracket {c : Char} {value : List Char} (mem : c ∈ value) (notLeft : c ≠ '[')
    (notRight : c ≠ ']') : c ∈ unbracket value := by
  rw [unbracket]
  split
  · rename_i both
    obtain ⟨rest, rfl⟩ := List.head?_eq_some_iff.mp both.1
    have inside := (List.mem_cons.mp mem).resolve_left notLeft
    obtain ⟨inner, shape⟩ := List.getLast?_eq_some_iff.mp both.2
    cases inner with
    | nil => cases shape
    | cons d inner =>
      rw [List.cons_append, List.cons.injEq] at shape
      rw [shape.2, List.mem_append, List.mem_singleton] at inside
      rw [List.drop_one, List.tail_cons, shape.2, List.dropLast_concat]
      exact inside.resolve_right notRight
  · exact mem

theorem special_of_percent {isIP : IsIP} (knows : KnowsTexts isIP) {text : String}
    (zone : '%' ∈ text.toList) : isSpecialUseIpAddress isIP text = true := by
  have kept := mem_unbracket zone (by decide) (by decide)
  rw [isSpecialUseIpAddress]
  split
  · rename_i four
    obtain ⟨q, spelled⟩ := (knows.four _).mp four
    rw [String.toList_ofList] at spelled
    rw [spelled] at kept
    rcases quad_text_chars q '%' kept with dot | digit
    · cases dot
    · exact absurd digit (by decide)
  · have lowered : '%' ∈ text.toList.map Char.toLower := List.mem_map.mpr ⟨'%', zone, rfl⟩
    rw [parseIpv6, if_pos (Or.inl (mem_unbracket lowered (by decide) (by decide)))]
    rfl
  · rfl

/-- An admitted text spells an address, and no special one. -/
theorem spells_of_admitted {isIP : IsIP} (knows : KnowsTexts isIP) {text : String}
    (h : Admitted isIP text) :
    ∃ address, Spells text.toList address ∧ verdict address = false ∧ ¬ SpecialUse address := by
  have plain : '%' ∉ text.toList := by
    intro zone
    have refused := special_of_percent knows zone
    rw [h.ordinary] at refused
    cases refused
  have spelled : ∃ address, Denotes text.toList address := by
    cases version : isIP text with
    | none => exact absurd version h.version
    | some version' =>
      cases version' with
      | v4 =>
        obtain ⟨q, spelled⟩ := (knows.four text).mp version
        exact ⟨_, spelled ▸ Denotes.quad q⟩
      | v6 =>
        obtain ⟨t, spelled⟩ := (knows.six text plain).mp version
        exact ⟨_, spelled ▸ Denotes.long t⟩
  obtain ⟨address, denotes⟩ := spelled
  have ordinary : verdict address = false := by
    rw [← isSpecialUse_of_spelling knows ⟨plain, denotes⟩]
    exact h.ordinary
  refine ⟨address, ⟨plain, denotes⟩, ordinary, fun special => ?_⟩
  rw [verdict_of_special denotes special] at ordinary
  cases ordinary

theorem unbracket_cases (text : String) :
    String.ofList (unbracket text.toList) = text ∨
      text = "[" ++ String.ofList (unbracket text.toList) ++ "]" := by
  rw [unbracket]
  split
  · rename_i both
    right
    obtain ⟨rest, start⟩ := List.head?_eq_some_iff.mp both.1
    obtain ⟨inner, shape⟩ := List.getLast?_eq_some_iff.mp both.2
    cases inner with
    | nil =>
      rw [shape] at both
      exact absurd both.1 (by decide)
    | cons d inner =>
      rw [start, List.cons_append, List.cons.injEq] at shape
      apply String.toList_inj.mp
      rw [start, List.drop_one, List.tail_cons, shape.2, List.dropLast_concat, String.toList_append,
        String.toList_append, @String.toList_ofList inner, List.append_assoc]
      rfl
  · left
    exact String.ofList_toList

/-! ### Results -/

/-- The verdict depends on the address alone, and a validated set is one of ordinary
addresses, each as it was answered or without the brackets around it. -/
theorem classified_by_address {isIP : IsIP} (knows : KnowsTexts isIP) :
    (∀ q : Quad, parseIpv4 q.text = some q.bytes) ∧
      (∀ t : LongText, t.zone = none → parseIpv6 isIP t.text = some t.bytes) ∧
      (∀ (text other : String) (address : Address), Spells text.toList address →
        Spells other.toList address →
          isSpecialUseIpAddress isIP text = isSpecialUseIpAddress isIP other) ∧
      (∀ (text : String) (address : Address), Spells text.toList address →
        SpecialUse address ∨ (∃ q, address = mapped q) → isSpecialUseIpAddress isIP text = true) ∧
      ∀ answers addresses, validateCimdResolvedAddresses isIP answers = .ok addresses →
        answers ≠ [] ∧
          (∀ raw ∈ answers, ∃ address, Spells (unbracket raw.toList) address ∧
            verdict address = false ∧ ¬ SpecialUse address) ∧
          ∀ address ∈ addresses, ∃ raw ∈ answers, address = raw ∨ raw = "[" ++ address ++ "]" := by
  refine ⟨parseIpv4_text, fun t => parseIpv6_text knows, ?_, ?_, ?_⟩
  · intro text other address first second
    rw [isSpecialUse_of_spelling knows first, isSpecialUse_of_spelling knows second]
  · rintro text address spells (special | ⟨q, rfl⟩)
    · rw [isSpecialUse_of_spelling knows spells, verdict_of_special spells.2 special]
    · rw [isSpecialUse_of_spelling knows spells, verdict_mapped]
  · intro answers addresses valid
    obtain ⟨_, among, all⟩ := validateCimdResolvedAddresses_ok valid
    refine ⟨?_, fun raw mem => ?_, fun address mem => ?_⟩
    · rintro rfl
      cases valid
    · have spelled := spells_of_admitted knows (all raw mem)
      rwa [String.toList_ofList] at spelled
    · obtain ⟨raw, answered, rfl⟩ := among address mem
      exact ⟨raw, answered, unbracket_cases raw⟩

/-! ### One mapped address, and one in brackets -/

def resolver : Quad := ⟨8, 8, 8, 8⟩

def ones : Group := ⟨['f', 'F', 'f', 'f'], by decide, by decide, List.all_eq_true.mp (by decide)⟩

def mappedText : LongText where
  left := []
  right := some [ones]
  quad := some resolver
  fits := by decide

theorem mappedText_spells : Spells "::fFff:8.8.8.8".toList (mapped resolver) :=
  ⟨by decide, Denotes.long mappedText⟩

theorem grammar_resolver : grammarIsIP "8.8.8.8" = some .v4 :=
  (grammarIsIP_follows.four _).mpr ⟨resolver, rfl⟩

theorem resolver_bracketed :
    validateCimdResolvedAddresses grammarIsIP ["[8.8.8.8]"] = .ok ["8.8.8.8"] := by
  have bare : String.ofList (unbracket "[8.8.8.8]".toList) = "8.8.8.8" := by decide
  have ordinary : isSpecialUseIpAddress grammarIsIP "8.8.8.8" = false := by
    have spells : Spells "8.8.8.8".toList ⟨.v4, resolver.bytes⟩ :=
      ⟨by decide, Denotes.quad resolver⟩
    rw [isSpecialUse_of_spelling (knows_of_grammar grammarIsIP_follows) spells]
    decide
  rw [validateCimdResolvedAddresses, if_neg (by decide), if_neg (by decide), checkAddresses]
  simp only [bare, grammar_resolver, ordinary]
  rfl

theorem classified_by_address_mapped :
    isSpecialUseIpAddress grammarIsIP "::fFff:8.8.8.8" = true ∧
      ∃ raw ∈ ["[8.8.8.8]"], "8.8.8.8" = raw ∨ raw = "[" ++ "8.8.8.8" ++ "]" := by
  obtain ⟨_, _, _, special, resolved⟩ := classified_by_address (knows_of_grammar grammarIsIP_follows)
  exact ⟨special _ _ mappedText_spells (Or.inr ⟨resolver, rfl⟩),
    (resolved _ _ resolver_bracketed).2.2 _ List.mem_cons_self⟩

/-- A bracketed answer comes back without its brackets. -/
theorem brackets_dropped :
    KnowsTexts grammarIsIP ∧
      ∃ answers addresses, validateCimdResolvedAddresses grammarIsIP answers = .ok addresses ∧
        ∃ address ∈ addresses, address ∉ answers :=
  ⟨knows_of_grammar grammarIsIP_follows, ["[8.8.8.8]"], ["8.8.8.8"], resolver_bracketed, "8.8.8.8",
    List.mem_cons_self, by decide⟩

end AddressSpellings
