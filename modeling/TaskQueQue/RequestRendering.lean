import TaskQueQue.HttpFraming
import TaskQueQue.CapabilityAuth

/-!
# Requests as a client writes them

The bytes an HTTP client writes for a request, and that the daemon's reader gets the
request back from them however they are cut. The client's head is ASCII, its field
names are tokens, and the head is small enough to keep clear of the reader's limit.
-/

namespace RequestRendering

open ChunkedReading GatewayValues HttpFraming CapabilityAuth

structure ClientRequest where
  method : String
  path : String
  fields : List (String × String)
  body : String

def lowerName (name : String) : String := toAsciiLowercase name.toList

def tokenChar (c : Char) : Bool := asciiAlphanumeric c || "-_.".toList.contains c

def visible (c : Char) : Bool := decide ('!' ≤ c ∧ c ≤ '~')

def printable (c : Char) : Bool := decide (' ' ≤ c ∧ c ≤ '~')

def Token (name : String) : Prop := name ≠ "" ∧ ∀ c ∈ name.toList, tokenChar c = true

/-- A field's value, without the white space a reader trims. -/
structure FieldValue (value : String) : Prop where
  printable : ∀ c ∈ value.toList, printable c = true
  start : value.toList.head? ≠ some ' '
  stop : value.toList.getLast? ≠ some ' '

def fieldLine (field : String × String) : List Char :=
  field.1.toList ++ ':' :: ' ' :: field.2.toList

def requestLine (r : ClientRequest) : List Char :=
  r.method.toList ++ ' ' :: (r.path.toList ++ " HTTP/1.1".toList)

def joinLines : List (List Char) → List Char
  | [] => []
  | [line] => line
  | line :: lines => line ++ '\r' :: '\n' :: joinLines lines

def headText (r : ClientRequest) : List Char :=
  joinLines (requestLine r :: r.fields.map fieldLine)

def ClientRequest.bytes (r : ClientRequest) : List UInt8 :=
  encode (String.ofList (headText r)) ++ (headerEnd ++ encode r.body)

structure WellFormed (r : ClientRequest) : Prop where
  method : r.method ≠ "" ∧ ∀ c ∈ r.method.toList, visible c = true
  path : r.path.toList.head? = some '/' ∧ ∀ c ∈ r.path.toList, visible c = true
  names : ∀ field ∈ r.fields, Token field.1
  values : ∀ field ∈ r.fields, FieldValue field.2
  distinct : (r.fields.map fun field => lowerName field.1).Nodup
  unchunked : "transfer-encoding" ∉ r.fields.map fun field => lowerName field.1
  length : ("content-length", toString r.body.utf8ByteSize) ∈
    r.fields.map fun field => (lowerName field.1, field.2)
  small : (headText r).length + 4 ≤ MAX_HEADER_BYTES

/-- The request the daemon's reader makes of it. -/
def ClientRequest.received (r : ClientRequest) : HttpRequest where
  method := r.method
  path := r.path
  headers := (r.fields.map fun field => (lowerName field.1, field.2)).reverse
  body := encode r.body

/-! ### Lines -/

theorem splitLines_line {line rest : List Char} (plain : '\r' ∉ line) :
    splitLines (line ++ '\r' :: '\n' :: rest) = line :: splitLines rest := by
  induction line with
  | nil => rfl
  | cons c line ih =>
    rw [List.mem_cons, not_or] at plain
    have tail := ih plain.2
    rw [List.cons_append]
    rw [splitLines]
    · rw [tail]
    · rintro rest' rfl same
      exact plain.1 rfl

theorem splitLines_last {line : List Char} (plain : '\r' ∉ line) : splitLines line = [line] := by
  induction line with
  | nil => rfl
  | cons c line ih =>
    rw [List.mem_cons, not_or] at plain
    rw [splitLines]
    · rw [ih plain.2]
    · rintro rest' rfl same
      exact plain.1 rfl

theorem joinLines_cons (line next : List Char) (lines : List (List Char)) :
    joinLines (line :: next :: lines) = line ++ '\r' :: '\n' :: joinLines (next :: lines) := rfl

theorem splitLines_joinLines {lines : List (List Char)} (nonempty : lines ≠ [])
    (plain : ∀ line ∈ lines, '\r' ∉ line) : splitLines (joinLines lines) = lines := by
  induction lines with
  | nil => exact absurd rfl nonempty
  | cons line lines ih =>
    rw [List.forall_mem_cons] at plain
    cases lines with
    | nil => exact splitLines_last plain.1
    | cons next lines =>
      rw [joinLines_cons, splitLines_line plain.1, ih (List.cons_ne_nil _ _) plain.2]

/-! ### The bytes of an ASCII text -/

def ascii (c : Char) : Bool := decide (c.toNat < 128)

theorem encode_ofList (chars : List Char) :
    encode (String.ofList chars) = chars.flatMap String.utf8EncodeChar := by
  rw [encode, String.toUTF8, String.toByteArray_ofList, List.utf8Encode]
  simp

def byteOf (c : Char) : UInt8 := c.val.toUInt8

theorem encode_ascii {chars : List Char} (plain : ∀ c ∈ chars, ascii c = true) :
    encode (String.ofList chars) = chars.map byteOf := by
  rw [encode_ofList]
  induction chars with
  | nil => rfl
  | cons c chars ih =>
    rw [List.forall_mem_cons] at plain
    have single : c.utf8Size = 1 := by
      have small := of_decide_eq_true plain.1
      rw [Char.utf8Size_eq_one_iff, UInt32.le_iff_toNat_le]
      exact Nat.le_of_lt_succ small
    rw [List.flatMap_cons, List.map_cons, ih plain.2, String.utf8EncodeChar_eq_singleton single]
    rfl

theorem byteOf_ne {c : Char} (plain : ascii c = true) (other : c ≠ '\r') : byteOf c ≠ 13 := by
  intro same
  apply other
  have small := of_decide_eq_true plain
  have value := congrArg UInt8.toNat same
  rw [byteOf, UInt32.toNat_toUInt8] at value
  apply Char.ext
  apply UInt32.toNat.inj
  change c.toNat % 256 = 13 at value
  change c.toNat = 13
  omega

theorem ascii_of_printable {c : Char} (h : printable c = true) : ascii c = true := by
  have range := of_decide_eq_true h
  have upper : c.toNat ≤ '~'.toNat := range.2
  exact decide_eq_true (Nat.lt_of_le_of_lt upper (by decide))

theorem ne_cr_of_printable {c : Char} (h : printable c = true) : c ≠ '\r' := by
  rintro rfl
  exact absurd h (by decide)

/-! ### Where the head ends -/

theorem findHeaderEnd_plain {bytes rest : List UInt8} (plain : 13 ∉ bytes) :
    findHeaderEnd (bytes ++ rest) = (findHeaderEnd rest).map (· + bytes.length) := by
  induction bytes with
  | nil => simp
  | cons b bytes ih =>
    rw [List.mem_cons, not_or] at plain
    have other : ¬ headerEnd <+: b :: (bytes ++ rest) := by
      rw [headerEnd, List.cons_prefix_cons]
      exact fun first => plain.1 first.1
    have tail := ih plain.2
    rw [findHeaderEnd] at tail ⊢
    rw [List.cons_append, firstOccurrence, if_neg other, tail, Option.map_map]
    rfl

theorem findHeaderEnd_separator {rest : List UInt8} (next : rest.head? ≠ some 13) :
    findHeaderEnd (13 :: 10 :: rest) = (findHeaderEnd rest).map (· + 2) := by
  have first : ¬ headerEnd <+: 13 :: 10 :: rest := by
    rintro ⟨more, same⟩
    rw [headerEnd, List.cons_append, List.cons_append, List.cons_append, List.cons.injEq,
      List.cons.injEq] at same
    rw [← same.2.2] at next
    exact next rfl
  have second : ¬ headerEnd <+: 10 :: rest := by
    rw [headerEnd, List.cons_prefix_cons]
    exact fun same => absurd same.1 (by decide)
  rw [findHeaderEnd, firstOccurrence, if_neg first, firstOccurrence, if_neg second, Option.map_map]
  rfl

/-- Lines of printable characters, none of them empty. -/
structure PlainLine (line : List Char) : Prop where
  nonempty : line ≠ []
  printable : ∀ c ∈ line, printable c = true

theorem PlainLine.bytes {line : List Char} (plain : PlainLine line) :
    13 ∉ line.map byteOf := by
  intro mem
  obtain ⟨c, hc, same⟩ := List.mem_map.mp mem
  exact byteOf_ne (ascii_of_printable (plain.printable c hc))
    (ne_cr_of_printable (plain.printable c hc)) same

theorem findHeaderEnd_joinLines {lines : List (List Char)} (nonempty : lines ≠ [])
    (plain : ∀ line ∈ lines, PlainLine line) (rest : List UInt8) :
    findHeaderEnd ((joinLines lines).map byteOf ++ (headerEnd ++ rest)) =
      some (joinLines lines).length := by
  induction lines with
  | nil => exact absurd rfl nonempty
  | cons line lines ih =>
    rw [List.forall_mem_cons] at plain
    cases lines with
    | nil =>
      have here : findHeaderEnd (headerEnd ++ rest) = some 0 := by
        rw [findHeaderEnd, headerEnd, List.cons_append, firstOccurrence]
        exact if_pos (List.prefix_append headerEnd rest)
      rw [joinLines, findHeaderEnd_plain plain.1.bytes, here, Option.map_some, List.length_map,
        Nat.zero_add]
    | cons next lines =>
      have start : ((joinLines (next :: lines)).map byteOf ++ (headerEnd ++ rest)).head? ≠
          some 13 := by
        have second := plain.2 next List.mem_cons_self
        cases next with
        | nil => exact absurd rfl second.nonempty
        | cons c next =>
          have first : ∃ tail, joinLines ((c :: next) :: lines) = c :: tail := by
            cases lines with
            | nil => exact ⟨next, rfl⟩
            | cons => exact ⟨_, rfl⟩
          obtain ⟨tail, htail⟩ := first
          rw [htail, List.map_cons, List.cons_append, List.head?_cons, ne_eq, Option.some.injEq]
          have character := second.printable c List.mem_cons_self
          exact byteOf_ne (ascii_of_printable character) (ne_cr_of_printable character)
      have separated : (joinLines (line :: next :: lines)).map byteOf ++ (headerEnd ++ rest) =
          line.map byteOf ++ 13 :: 10 :: ((joinLines (next :: lines)).map byteOf ++
            (headerEnd ++ rest)) := by
        rw [joinLines_cons, List.map_append, List.map_cons, List.map_cons, List.append_assoc]
        rfl
      rw [separated, findHeaderEnd_plain plain.1.bytes, findHeaderEnd_separator start,
        ih (List.cons_ne_nil _ _) plain.2, joinLines_cons line, Option.map_some, Option.map_some,
        List.length_append, List.length_map, List.length_cons, List.length_cons, Option.some.injEq]
      omega

/-! ### Reading the lines -/

theorem trim_of_ends {chars : List Char}
    (start : ∀ c, chars.head? = some c → isWhitespace c = false)
    (stop : ∀ c, chars.getLast? = some c → isWhitespace c = false) : trim chars = chars := by
  have keep : ∀ l : List Char, (∀ c, l.head? = some c → isWhitespace c = false) →
      l.dropWhile isWhitespace = l := by
    intro l first
    cases l with
    | nil => rfl
    | cons c l =>
      rw [List.dropWhile_cons, if_neg]
      rw [first c rfl]
      exact Bool.false_ne_true
  rw [trim, keep chars start, keep chars.reverse, List.reverse_reverse]
  intro c last
  rw [List.head?_reverse] at last
  exact stop c last

theorem isWhitespace_printable {c : Char} (h : printable c = true) :
    isWhitespace c = true ↔ c = ' ' := by
  have range := of_decide_eq_true h
  have lower : ' '.toNat ≤ c.toNat := range.1
  have upper : c.toNat ≤ '~'.toNat := range.2
  have space : ' '.toNat = 32 := rfl
  have tilde : '~'.toNat = 126 := rfl
  constructor
  · intro white
    simp only [isWhitespace, List.contains_cons, List.contains_nil, Bool.or_eq_true,
      decide_eq_true_eq, beq_iff_eq, Bool.or_false] at white
    have value : c.toNat = 32 := by omega
    exact Char.toNat_inj.mp value
  · rintro rfl
    decide

theorem printable_of_between {low high c : Char} (h : low ≤ c ∧ c ≤ high)
    (range : ' ' ≤ low ∧ high ≤ '~') : printable c = true :=
  decide_eq_true ⟨Char.le_trans range.1 h.1, Char.le_trans h.2 range.2⟩

theorem printable_of_tokenChar {c : Char} (h : tokenChar c = true) :
    printable c = true ∧ c ≠ ' ' ∧ c ≠ ':' := by
  refine ⟨?_, by rintro rfl; exact absurd h (by decide), by rintro rfl; exact absurd h (by decide)⟩
  rw [tokenChar, Bool.or_eq_true, asciiAlphanumeric, Bool.or_eq_true, Bool.or_eq_true,
    decide_eq_true_eq, decide_eq_true_eq, decide_eq_true_eq] at h
  rcases h with ((lower | upper) | digit) | mark
  · exact printable_of_between lower (by decide)
  · exact printable_of_between upper (by decide)
  · exact printable_of_between digit (by decide)
  · rw [List.contains_iff_mem] at mark
    exact List.all_eq_true.mp (by decide : "-_.".toList.all printable = true) c mark

theorem splitColon_fieldLine {name value : String} (token : Token name) :
    splitColon (fieldLine (name, value)) = some (name.toList, ' ' :: value.toList) := by
  have plain : ∀ c ∈ name.toList, decide (c ≠ ':') = true := fun c mem =>
    decide_eq_true (printable_of_tokenChar (token.2 c mem)).2.2
  have dropped : (fieldLine (name, value)).dropWhile (· ≠ ':') = ':' :: ' ' :: value.toList := by
    rw [fieldLine, List.dropWhile_append_of_pos plain]
    rfl
  have taken : (fieldLine (name, value)).takeWhile (· ≠ ':') = name.toList := by
    rw [fieldLine, List.takeWhile_append_of_pos plain]
    simp
  rw [splitColon, dropped, taken]
  rfl

theorem trim_token {name : String} (token : Token name) : trim name.toList = name.toList := by
  refine trim_of_ends (fun c first => ?_) fun c last => ?_
  · have character := printable_of_tokenChar (token.2 c (List.mem_of_mem_head? first))
    rw [Bool.eq_false_iff, ne_eq, isWhitespace_printable character.1]
    exact character.2.1
  · have character := printable_of_tokenChar (token.2 c (List.mem_of_getLast? last))
    rw [Bool.eq_false_iff, ne_eq, isWhitespace_printable character.1]
    exact character.2.1

theorem trim_value {value : String} (ok : FieldValue value) :
    trim (' ' :: value.toList) = value.toList := by
  have dropped : (' ' :: value.toList).dropWhile isWhitespace =
      value.toList.dropWhile isWhitespace := rfl
  have whole : trim value.toList = value.toList := by
    refine trim_of_ends (fun c first => ?_) fun c last => ?_
    · rw [Bool.eq_false_iff, ne_eq,
        isWhitespace_printable (ok.printable c (List.mem_of_mem_head? first))]
      rintro rfl
      exact ok.start first
    · rw [Bool.eq_false_iff, ne_eq,
        isWhitespace_printable (ok.printable c (List.mem_of_getLast? last))]
      rintro rfl
      exact ok.stop last
  rw [trim, dropped]
  exact whole

theorem lowerName_ne_empty {name : String} (token : Token name) : lowerName name ≠ "" := by
  intro empty
  have chars := congrArg String.toList empty
  rw [lowerName, toAsciiLowercase, String.toList_ofList] at chars
  apply token.1
  exact String.toList_eq_nil_iff.mp (List.map_eq_nil_iff.mp chars)

theorem insertHeader_fieldLine {headers : List (String × String)} {field : String × String}
    (token : Token field.1) (ok : FieldValue field.2)
    (new : lowerName field.1 ∉ headers.map Prod.fst) :
    insertHeader headers (fieldLine field) = .ok ((lowerName field.1, field.2) :: headers) := by
  obtain ⟨name, value⟩ := field
  have line : fieldLine (name, value) ≠ [] := by
    intro empty
    rw [fieldLine, List.append_eq_nil_iff] at empty
    cases empty.2
  have absent : headers.lookup (lowerName name) = none := by
    rw [List.lookup_eq_none_iff]
    intro header mem
    rw [bne_iff_ne]
    rintro same
    exact new (List.mem_map.mpr ⟨header, mem, same.symm⟩)
  have lowered : toAsciiLowercase name.toList = lowerName name := rfl
  have single : ¬ (lowerName name = "content-length" ∧
      (headers.lookup (lowerName name)).isSome = true) := by
    rintro ⟨_, duplicate⟩
    rw [absent] at duplicate
    cases duplicate
  rw [insertHeader, if_neg line, splitColon_fieldLine token]
  simp only [trim_token token, trim_value ok, String.ofList_toList, lowered,
    if_neg (lowerName_ne_empty token), if_neg single]

theorem insertHeaders_fields {headers fields : List (String × String)}
    (names : ∀ field ∈ fields, Token field.1) (values : ∀ field ∈ fields, FieldValue field.2)
    (distinct : (headers.map Prod.fst ++ fields.map fun field => lowerName field.1).Nodup) :
    insertHeaders headers (fields.map fieldLine) =
      .ok ((fields.map fun field => (lowerName field.1, field.2)).reverse ++ headers) := by
  induction fields generalizing headers with
  | nil => rfl
  | cons field fields ih =>
    rw [List.forall_mem_cons] at names values
    rw [List.map_cons, List.nodup_append] at distinct
    have new : lowerName field.1 ∉ headers.map Prod.fst := fun mem =>
      distinct.2.2 _ mem _ List.mem_cons_self rfl
    rw [List.map_cons, insertHeaders, insertHeader_fieldLine names.1 values.1 new]
    simp only
    rw [ih names.2 values.2, List.map_cons, List.reverse_cons, List.append_assoc]
    · rfl
    · obtain ⟨before, after, apart⟩ := distinct
      rw [List.nodup_cons] at after
      rw [List.map_cons, List.cons_append, List.nodup_cons, List.mem_append, not_or,
        List.nodup_append]
      exact ⟨⟨new, after.1⟩, before, after.2, fun a ha b hb =>
        apart a ha b (List.mem_cons_of_mem _ hb)⟩

theorem isWhitespace_visible {c : Char} (h : visible c = true) : isWhitespace c = false := by
  have range := of_decide_eq_true h
  have shown : printable c = true := decide_eq_true ⟨Char.le_trans (by decide) range.1, range.2⟩
  rw [Bool.eq_false_iff, ne_eq, isWhitespace_printable shown]
  rintro rfl
  exact absurd h (by decide)

theorem parseRequestLine_line {r : ClientRequest} (ok : WellFormed r) :
    parseRequestLine (requestLine r) = .ok (r.method, r.path) := by
  obtain ⟨slash, shown⟩ := ok.path
  have words : splitWhitespace (requestLine r) =
      [r.method.toList, r.path.toList, "HTTP/1.1".toList] := by
    have method : ∀ c ∈ r.method.toList, isWhitespace c = false := fun c mem =>
      isWhitespace_visible (ok.method.2 c mem)
    have path : ∀ c ∈ r.path.toList, isWhitespace c = false := fun c mem =>
      isWhitespace_visible (shown c mem)
    have nonempty : r.method.toList ≠ [] := fun empty =>
      ok.method.1 (String.toList_eq_nil_iff.mp empty)
    have version : ∀ c ∈ "HTTP/1.1".toList, isWhitespace c = false := by
      have shown := List.all_eq_true.mp (by decide : "HTTP/1.1".toList.all visible = true)
      exact fun c mem => isWhitespace_visible (shown c mem)
    have rooted : r.path.toList ≠ [] := by
      intro empty
      rw [empty] at slash
      cases slash
    rw [splitWhitespace, requestLine,
      List.splitOnP_append_cons_of_forall_mem method ' ' (by decide),
      show r.path.toList ++ " HTTP/1.1".toList = r.path.toList ++ ' ' :: "HTTP/1.1".toList from rfl,
      List.splitOnP_append_cons_of_forall_mem path ' ' (by decide),
      List.splitOnP_eq_singleton version]
    simp [nonempty, rooted]
  have spaceless : r.path.toList.contains ' ' = false := by
    rw [Bool.eq_false_iff, ne_eq, List.contains_iff_mem]
    intro mem
    exact absurd (shown ' ' mem) (by decide)
  rw [parseRequestLine, words]
  simp only [slash, spaceless]
  simp

theorem plainLine_requestLine {r : ClientRequest} (ok : WellFormed r) :
    PlainLine (requestLine r) := by
  have printed : ∀ c : Char, visible c = true → printable c = true := by
    intro c shown
    have range := of_decide_eq_true shown
    exact decide_eq_true ⟨Char.le_trans (by decide) range.1, range.2⟩
  constructor
  · intro empty
    rw [requestLine, List.append_eq_nil_iff] at empty
    cases empty.2
  · intro c mem
    rw [requestLine, List.mem_append, List.mem_cons, List.mem_append] at mem
    rcases mem with method | rfl | path | version
    · exact printed c (ok.method.2 c method)
    · decide
    · exact printed c (ok.path.2 c path)
    · exact List.all_eq_true.mp (by decide : " HTTP/1.1".toList.all printable = true) c version

theorem plainLine_fieldLine {field : String × String} (token : Token field.1)
    (ok : FieldValue field.2) : PlainLine (fieldLine field) := by
  constructor
  · intro empty
    rw [fieldLine, List.append_eq_nil_iff] at empty
    cases empty.2
  · intro c mem
    rw [fieldLine, List.mem_append, List.mem_cons, List.mem_cons] at mem
    rcases mem with name | rfl | rfl | value
    · exact (printable_of_tokenChar (token.2 c name)).1
    · decide
    · decide
    · exact ok.printable c value

theorem plainLines {r : ClientRequest} (ok : WellFormed r) :
    ∀ line ∈ requestLine r :: r.fields.map fieldLine, PlainLine line := by
  rw [List.forall_mem_cons, List.forall_mem_map]
  exact ⟨plainLine_requestLine ok, fun field mem =>
    plainLine_fieldLine (ok.names field mem) (ok.values field mem)⟩

theorem parseHead_headText {r : ClientRequest} (ok : WellFormed r) :
    parseHead (String.ofList (headText r)) = .ok { r.received with body := [] } := by
  have lines : splitLines (headText r) = requestLine r :: r.fields.map fieldLine := by
    refine splitLines_joinLines (List.cons_ne_nil _ _) fun line mem cr => ?_
    exact ne_cr_of_printable ((plainLines ok line mem).printable _ cr) rfl
  have headers := insertHeaders_fields ok.names ok.values
    (show (([] : List (String × String)).map Prod.fst ++ _).Nodup from ok.distinct)
  rw [parseHead, String.toList_ofList, lines]
  simp only [parseRequestLine_line ok, headers, List.append_nil]
  rfl

/-! ### Reading it back -/

theorem lookup_of_mem {α : Type} {fields : List (String × α)} {name : String} {value : α}
    (distinct : (fields.map Prod.fst).Nodup) (mem : (name, value) ∈ fields) :
    fields.lookup name = some value := by
  induction fields with
  | nil => cases mem
  | cons field fields ih =>
    rw [List.map_cons, List.nodup_cons] at distinct
    rcases List.mem_cons.mp mem with rfl | later
    · rw [List.lookup_cons_self]
    · have other : name ≠ field.1 := by
        rintro rfl
        exact distinct.1 (List.mem_map.mpr ⟨_, later, rfl⟩)
      rw [List.lookup_cons, beq_eq_false_iff_ne.mpr other, ih distinct.2 later]

theorem received_header {r : ClientRequest} (ok : WellFormed r) {name value : String}
    (mem : (name, value) ∈ r.fields.map fun field => (lowerName field.1, field.2)) :
    r.received.header name = some value := by
  refine lookup_of_mem ?_ (List.mem_reverse.mpr mem)
  rw [ClientRequest.received, List.map_reverse, List.nodup_reverse, List.map_map]
  exact ok.distinct

theorem parseUsize_toString {n : Nat} (small : n < 2 ^ 64) : parseUsize (toString n) = some n := by
  have digits : (toString n).toList = Nat.toDigits 10 n := Nat.toList_repr
  have value := LocalApi.decimal?_toDigits n
  rw [parseUsize, digits]
  cases shown : Nat.toDigits 10 n with
  | nil => exact absurd shown Nat.toDigits_ne_nil
  | cons c rest =>
    have digit : c.isDigit = true := by
      refine Nat.isDigit_of_mem_toDigits (b := 10) (n := n) (by decide) (by decide) ?_
      rw [shown]
      exact List.mem_cons_self
    rw [shown] at value
    split
    · rename_i plus
      rw [List.cons.injEq] at plus
      rw [plus.1] at digit
      cases digit
    · rw [value]
      exact Option.filter_eq_some_iff.mpr ⟨rfl, decide_eq_true small⟩

theorem fromUTF8?_encode (text : String) : String.fromUTF8? ⟨(encode text).toArray⟩ = some text := by
  have bytes : (⟨(encode text).toArray⟩ : ByteArray) = text.toByteArray := by
    apply ByteArray.ext
    rw [encode, Array.toArray_toList]
    rfl
  rw [bytes, String.fromUTF8?, dif_pos text.isValidUTF8]
  rfl

theorem mem_joinLines {c : Char} {lines : List (List Char)} (mem : c ∈ joinLines lines) :
    c = '\r' ∨ c = '\n' ∨ ∃ line ∈ lines, c ∈ line := by
  induction lines with
  | nil => cases mem
  | cons line lines ih =>
    cases lines with
    | nil => exact Or.inr (Or.inr ⟨line, List.mem_cons_self, mem⟩)
    | cons next lines =>
      rw [joinLines_cons, List.mem_append, List.mem_cons, List.mem_cons] at mem
      rcases mem with here | rfl | rfl | later
      · exact Or.inr (Or.inr ⟨line, List.mem_cons_self, here⟩)
      · exact Or.inl rfl
      · exact Or.inr (Or.inl rfl)
      · rcases ih later with rfl | rfl | ⟨line', among, inside⟩
        · exact Or.inl rfl
        · exact Or.inr (Or.inl rfl)
        · exact Or.inr (Or.inr ⟨line', List.mem_cons_of_mem _ among, inside⟩)

theorem encode_headText {r : ClientRequest} (ok : WellFormed r) :
    encode (String.ofList (headText r)) = (headText r).map byteOf := by
  refine encode_ascii fun c mem => ?_
  rcases mem_joinLines mem with rfl | rfl | ⟨line, among, inside⟩
  · decide
  · decide
  · exact ascii_of_printable ((plainLines ok line among).printable c inside)

theorem decodeHead_bytes (api : HttpApi) {r : ClientRequest} (ok : WellFormed r) :
    decodeHead api (r.bytes.take (headText r).length) = .ok { r.received with body := [] } := by
  have length : (encode (String.ofList (headText r))).length = (headText r).length := by
    rw [encode_headText ok, List.length_map]
  rw [ClientRequest.bytes, ← length, List.take_left, decodeHead, fromUTF8?_encode]
  exact parseHead_headText ok

theorem length_encode (text : String) : (encode text).length = text.utf8ByteSize := by
  rw [encode, Array.length_toList]
  rfl

/-- However the request is cut, the reader gets it back. -/
theorem readRequest_bytes {api : HttpApi} {r : ClientRequest} (ok : WellFormed r)
    (fits : r.body.utf8ByteSize ≤ api.maxBodyBytes) (small : api.maxBodyBytes < 2 ^ 64)
    {pieces : List (List UInt8)} (cut : pieces.flatten = r.bytes) (ending : Ending) :
    readRequest api ending pieces = .ok r.received := by
  have found : findHeaderEnd r.bytes = some (headText r).length := by
    rw [ClientRequest.bytes, encode_headText ok]
    exact findHeaderEnd_joinLines (List.cons_ne_nil _ _) (plainLines ok) _
  have within := ok.small
  have clear : ¬ Straddles pieces.flatten := by
    rintro ⟨position, here, _, beyond⟩
    rw [cut, found, Option.some.injEq] at here
    omega
  have body : r.bytes.drop ((headText r).length + 4) = encode r.body := by
    have length : (encode (String.ofList (headText r)) ++ headerEnd).length =
        (headText r).length + 4 := by
      rw [List.length_append, encode_headText ok, List.length_map]
      rfl
    rw [ClientRequest.bytes, ← List.append_assoc, ← length, List.drop_left]
  have unchunked : ({ r.received with body := [] } : HttpRequest).header "transfer-encoding" =
      none := by
    rw [HttpRequest.header, List.lookup_eq_none_iff]
    intro header mem
    rw [bne_iff_ne]
    intro named
    obtain ⟨field, among, same⟩ := List.mem_map.mp (List.mem_reverse.mp mem)
    exact ok.unchunked (List.mem_map.mpr ⟨field, among, (congrArg Prod.fst same).trans named.symm⟩)
  have length : contentLength api { r.received with body := [] } = .ok r.body.utf8ByteSize := by
    have declared : ({ r.received with body := [] } : HttpRequest).header "content-length" =
        some (toString r.body.utf8ByteSize) := received_header ok ok.length
    rw [contentLength, unchunked, declared]
    simp only [Option.isSome_none, Bool.false_eq_true, if_false,
      parseUsize_toString (Nat.lt_of_le_of_lt fits small), if_neg (Nat.not_lt.mpr fits)]
  rw [readRequest_eq_framed clear, cut, framed, found]
  simp only
  rw [if_neg (by omega), requestAt, decodeHead_bytes api ok]
  simp only [length, bodyOf, body, length_encode, Nat.lt_irrefl, if_false]
  rw [List.take_of_length_le (Nat.le_of_eq (length_encode r.body))]
  rfl

end RequestRendering
