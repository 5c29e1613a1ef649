import TaskQueQue.PosixPaths
import TaskQueQue.JsonStrings
import Mathlib.Data.List.Basic
import Mathlib.Data.List.TakeWhile

/-!
# Parsing URLs as browsers do

The basic parser of the URL standard, for a text on its own (no base URL) that names
an `https` URL. The standard reads with a state machine; here the text is cut at
the characters the states stop at, in the order in which they are met.

The host parser and the decoder of UTF-8 are left to the platform, and so is every
other scheme.
-/

namespace WebUrls

open JsonStrings (hexValue?)

/-- The parts of a URL, as its getters return them. -/
structure WebUrl where
  protocol : String
  username : String
  password : String
  hostname : String
  port : String
  pathname : String
  search : String
  hash : String
  searchParams : List (String × String)

def utf8 (text : List Char) : List UInt8 := text.flatMap String.utf8EncodeChar

/-- What the parser leaves to others, with what the standard says of it: no host is read
from a text with blanks or controls, and the decoder inverts the encoder and reads
an ASCII byte as its character, whatever came before. -/
structure Platform where
  host : List Char → Option String
  other : List Char → Option WebUrl
  decode : List UInt8 → List Char
  host_visible : ∀ text name, host text = some name → ∀ c ∈ text, 32 < c.toNat
  other_protocol : ∀ text url, other text = some url → url.protocol ≠ "https:"
  decode_utf8 : ∀ text, decode (utf8 text) = text
  decode_ascii : ∀ (bytes : List UInt8) (byte : UInt8), byte < 128 →
    decode (bytes ++ [byte]) = decode bytes ++ [Char.ofNat byte.toNat]

/-! ### The text -/

/-- A C0 control or a space. -/
def blank (c : Char) : Bool := decide (c.toNat ≤ 32)

def lineOrTab (c : Char) : Bool := c == '\t' || c == '\n' || c == '\r'

/-- The text without blanks at its ends, and without tabs and line ends. -/
def cleaned (text : List Char) : List Char :=
  (((text.dropWhile blank).reverse.dropWhile blank).reverse).filter fun c => !lineOrTab c

/-- What stands before the first `c`, and after it if there is one. -/
def cutAt (c : Char) (text : List Char) : List Char × Option (List Char) :=
  (text.takeWhile (· != c), if c ∈ text then some ((text.dropWhile (· != c)).drop 1) else none)

/-! ### Percent encoding -/

def upperHexDigit (n : Nat) : Char := "0123456789ABCDEF".toList.getD n '0'

def percentByte (byte : UInt8) : List Char :=
  ['%', upperHexDigit (byte.toNat / 16), upperHexDigit (byte.toNat % 16)]

/-- The characters of a set are replaced by the escapes of their bytes. -/
def percentEncode (set : Char → Bool) (text : List Char) : List Char :=
  text.flatMap fun c => if set c then (String.utf8EncodeChar c).flatMap percentByte else [c]

def c0ControlSet (c : Char) : Bool := decide (c.toNat < 32 ∨ 126 < c.toNat)

def fragmentSet (c : Char) : Bool := c0ControlSet c || " \"<>`".toList.contains c

def querySet (c : Char) : Bool := c0ControlSet c || " \"#<>".toList.contains c

def specialQuerySet (c : Char) : Bool := querySet c || c == '\''

def pathSet (c : Char) : Bool := querySet c || "?^`\x7b\x7d".toList.contains c

def userinfoSet (c : Char) : Bool := pathSet c || "/:;=@[\\]|".toList.contains c

/-! ### The authority -/

/-- What stands before the last `@`, if there is one, and after it. -/
def cutUserinfo (authority : List Char) : Option (List Char) × List Char :=
  let after := (authority.reverse.takeWhile (· != '@')).reverse
  (if '@' ∈ authority then some (authority.take (authority.length - after.length - 1)) else none,
    after)

/-- The host ends at the first colon outside square brackets. -/
def cutPort (inside : Bool) : List Char → List Char × Option (List Char)
  | [] => ([], none)
  | c :: rest =>
    if c = ':' ∧ inside = false then ([], some rest)
    else
      let cut := cutPort (if c = '[' then true else if c = ']' then false else inside) rest
      (c :: cut.1, cut.2)

/-- The port's text; the default one is dropped. -/
def portText (digits : List Char) : Option String :=
  if digits.all Char.isDigit then
    let port := Nat.ofDigitChars 10 digits 0
    if 65535 < port then none
    else if digits = [] ∨ port = 443 then some ""
    else some (String.ofList (Nat.toDigits 10 port))
  else none

structure Authority where
  username : String
  password : String
  hostname : String
  port : String
deriving DecidableEq

def readAuthority (platform : Platform) (authority : List Char) : Option Authority :=
  let userinfo := cutUserinfo authority
  let credentials := cutAt ':' (userinfo.1.getD [])
  let host := cutPort false userinfo.2
  if host.1 = [] then none
  else
    (platform.host host.1).bind fun hostname =>
      (portText (host.2.getD [])).map fun port =>
        { username := String.ofList (percentEncode userinfoSet credentials.1)
          password := String.ofList (percentEncode userinfoSet (credentials.2.getD []))
          hostname, port }

/-! ### The path -/

def dotSpellings : List (List Char) := [".".toList, "%2e".toList, "%2E".toList]

def singleDot (segment : List Char) : Bool := dotSpellings.contains segment

def doubleDot (segment : List Char) : Bool :=
  dotSpellings.any fun first => dotSpellings.any fun second => segment == first ++ second

/-- A segment that a separator follows. -/
def enter (path : List (List Char)) (segment : List Char) : List (List Char) :=
  if doubleDot segment then path.dropLast
  else if singleDot segment then path
  else path ++ [segment]

/-- The last segment. -/
def settle (path : List (List Char)) (segment : List Char) : List (List Char) :=
  if doubleDot segment then path.dropLast ++ [[]]
  else if singleDot segment then path ++ [[]]
  else path ++ [segment]

def separator (c : Char) : Bool := c == '/' || c == '\\'

def readSegments (segments : List (List Char)) : List (List Char) :=
  settle (segments.dropLast.foldl enter []) (segments.getLastD [])

/-- The path of a text that is empty or begins with a separator. -/
def readPath (text : List Char) : List Char :=
  (readSegments (((text.drop 1).splitOnP separator).map (percentEncode pathSet))).flatMap
    fun segment => '/' :: segment

/-! ### Queries -/

/-- Bytes of a form's text: a plus is a space, and escapes are undone where they are two
digits. -/
def formBytes : List Char → List UInt8
  | [] => []
  | '%' :: a :: b :: rest =>
    match hexValue? a, hexValue? b with
    | some a, some b => UInt8.ofNat (a * 16 + b) :: formBytes rest
    | _, _ => 37 :: formBytes (a :: b :: rest)
  | c :: rest => (if c = '+' then [32] else String.utf8EncodeChar c) ++ formBytes rest

def formText (platform : Platform) (text : List Char) : String :=
  String.ofList (platform.decode (formBytes text))

def formPieces (query : List Char) : List (List Char) :=
  (query.splitOn '&').filter fun piece => !piece.isEmpty

def formPair (platform : Platform) (piece : List Char) : String × String :=
  let cut := cutAt '=' piece
  (formText platform cut.1, formText platform (cut.2.getD []))

/-- `URLSearchParams` of a query. -/
def formParams (platform : Platform) (query : List Char) : List (String × String) :=
  (formPieces query).map (formPair platform)

/-! ### The parser -/

def withMark (mark : Char) (text : List Char) : String :=
  if text = [] then "" else String.ofList (mark :: text)

def readHttps (platform : Platform) (rest : List Char) (query fragment : Option (List Char)) :
    Option WebUrl :=
  let text := rest.dropWhile separator
  let search := percentEncode specialQuerySet (query.getD [])
  (readAuthority platform (text.takeWhile fun c => !separator c)).map fun authority =>
    { protocol := "https:"
      username := authority.username
      password := authority.password
      hostname := authority.hostname
      port := authority.port
      pathname := String.ofList (readPath (text.dropWhile fun c => !separator c))
      search := withMark '?' search
      hash := withMark '#' (percentEncode fragmentSet (fragment.getD []))
      searchParams := formParams platform search }

/-- `new URL(text)`; `none` where it throws. -/
def parse (platform : Platform) (text : List Char) : Option WebUrl :=
  let fragment := cutAt '#' (cleaned text)
  let query := cutAt '?' fragment.1
  let scheme := cutAt ':' query.1
  match scheme.2 with
  | none => none
  | some rest =>
    if scheme.1.map Char.toLower = "https".toList then
      readHttps platform rest query.2 fragment.2
    else platform.other (cleaned text)

/-! ### Cutting -/

theorem cutAt_of_not_mem {c : Char} {text : List Char} (absent : c ∉ text) :
    cutAt c text = (text, none) := by
  rw [cutAt, if_neg absent, List.takeWhile_eq_self_iff.mpr]
  intro d mem
  rw [bne_iff_ne]
  rintro rfl
  exact absent mem

theorem cutAt_append {c : Char} {before : List Char} (absent : c ∉ before) (after : List Char) :
    cutAt c (before ++ c :: after) = (before, some after) := by
  have passed : ∀ d ∈ before, (d != c) = true := by
    intro d mem
    rw [bne_iff_ne]
    rintro rfl
    exact absent mem
  rw [cutAt, if_pos (List.mem_append_right _ List.mem_cons_self),
    List.takeWhile_append_of_pos passed, List.dropWhile_append_of_pos passed]
  simp

/-- Every text is one of the two. -/
theorem cutAt_cases (c : Char) (text : List Char) :
    (c ∉ text ∧ cutAt c text = (text, none)) ∨
      ∃ before after, text = before ++ c :: after ∧ c ∉ before ∧
        cutAt c text = (before, some after) := by
  by_cases mem : c ∈ text
  · obtain ⟨before, after, rfl, absent⟩ := List.eq_append_cons_of_mem mem
    exact Or.inr ⟨before, after, rfl, absent, cutAt_append absent after⟩
  · exact Or.inl ⟨mem, cutAt_of_not_mem mem⟩

/-! ### Cleaning -/

/-- Blanks at the end of a text that count once something follows them. -/
def trailing (text : List Char) : List Char :=
  ((text.reverse.takeWhile blank).reverse).filter fun c => !lineOrTab c

theorem blank_of_lineOrTab {c : Char} (h : lineOrTab c = true) : blank c = true := by
  rw [lineOrTab, Bool.or_eq_true, Bool.or_eq_true, beq_iff_eq, beq_iff_eq, beq_iff_eq] at h
  rcases h with (rfl | rfl) | rfl <;> rfl

theorem trailing_blank (text : List Char) : ∀ c ∈ trailing text, blank c = true := by
  intro c mem
  have inside := List.mem_reverse.mp (List.mem_filter.mp mem).1
  exact List.mem_takeWhile_imp inside

theorem filter_visible {tail : List Char} (visible : ∀ c ∈ tail, blank c = false) :
    tail.filter (fun c => !lineOrTab c) = tail := by
  rw [List.filter_eq_self]
  intro c mem
  cases line : lineOrTab c with
  | false => rfl
  | true =>
    have shown := visible c mem
    rw [blank_of_lineOrTab line] at shown
    cases shown

theorem mem_cleaned {c : Char} {text : List Char} (mem : c ∈ cleaned text) : c ∈ text := by
  have kept := List.mem_reverse.mp (List.mem_filter.mp mem).1
  have whole := (List.dropWhile_sublist _).subset kept
  exact (List.dropWhile_sublist _).subset (List.mem_reverse.mp whole)

theorem dropWhile_append_shown {text : List Char} (shown : ∃ c ∈ text, blank c = false)
    (more : List Char) : (text ++ more).dropWhile blank = text.dropWhile blank ++ more := by
  obtain ⟨c, mem, hc⟩ := shown
  rw [List.dropWhile_append, if_neg]
  rw [List.isEmpty_iff, List.dropWhile_eq_nil_iff]
  intro all
  rw [all c mem] at hc
  cases hc

theorem takeWhile_append_shown {text : List Char} (shown : ∃ c ∈ text, blank c = false)
    (more : List Char) : (text ++ more).takeWhile blank = text.takeWhile blank := by
  obtain ⟨c, mem, hc⟩ := shown
  rw [List.takeWhile_append, if_neg]
  intro full
  have whole : text.takeWhile blank = text := (List.takeWhile_prefix blank).eq_of_length full
  rw [← whole] at mem
  rw [List.mem_takeWhile_imp mem] at hc
  cases hc

/-- After a text that is not blank, a visible one is kept as it is, with the blanks
between them. -/
theorem cleaned_append {text tail : List Char} (shown : ∃ c ∈ text, blank c = false)
    (visible : ∀ c ∈ tail, blank c = false) (filled : tail ≠ []) :
    cleaned (text ++ tail) = cleaned text ++ (trailing text ++ tail) := by
  have split : text.takeWhile blank ++ text.dropWhile blank = text :=
    List.takeWhile_append_dropWhile
  have shownRest : ∃ c ∈ (text.dropWhile blank).reverse, blank c = false := by
    obtain ⟨c, mem, hc⟩ := shown
    rw [← split, List.mem_append] at mem
    rcases mem with early | late
    · rw [List.mem_takeWhile_imp early] at hc
      cases hc
    · exact ⟨c, List.mem_reverse.mpr late, hc⟩
  have shownTail : ∃ c ∈ tail.reverse, blank c = false := by
    obtain ⟨c, rest, rfl⟩ := List.exists_cons_of_ne_nil filled
    exact ⟨c, List.mem_reverse.mpr List.mem_cons_self, visible c List.mem_cons_self⟩
  have keptTail : tail.reverse.dropWhile blank = tail.reverse := by
    rw [List.dropWhile_eq_self_iff]
    intro long first
    have mem := List.mem_reverse.mp (List.getElem_mem long)
    rw [visible _ mem] at first
    cases first
  have ending : (text.dropWhile blank).reverse.takeWhile blank = text.reverse.takeWhile blank := by
    rw [← takeWhile_append_shown shownRest (text.takeWhile blank).reverse, ← List.reverse_append,
      split]
  have parts : ((text.dropWhile blank).reverse.dropWhile blank).reverse ++
      (text.reverse.takeWhile blank).reverse = text.dropWhile blank := by
    rw [← ending, ← List.reverse_append, List.takeWhile_append_dropWhile, List.reverse_reverse]
  calc cleaned (text ++ tail)
      = (text.dropWhile blank ++ tail).filter (fun c => !lineOrTab c) := by
        rw [cleaned, dropWhile_append_shown shown, List.reverse_append,
          dropWhile_append_shown shownTail, keptTail, ← List.reverse_append, List.reverse_reverse]
    _ = (text.dropWhile blank).filter (fun c => !lineOrTab c) ++ tail := by
        rw [List.filter_append, filter_visible visible]
    _ = cleaned text ++ trailing text ++ tail := by
        rw [← parts, List.filter_append, cleaned, trailing]
    _ = cleaned text ++ (trailing text ++ tail) := List.append_assoc _ _ _

theorem mem_cleaned_iff {c : Char} (visible : blank c = false) {text : List Char} :
    c ∈ cleaned text ↔ c ∈ text := by
  constructor
  · exact mem_cleaned
  · intro mem
    have first : c ∈ text.dropWhile blank := by
      have whole : c ∈ text.takeWhile blank ++ text.dropWhile blank := by
        rwa [List.takeWhile_append_dropWhile]
      refine (List.mem_append.mp whole).resolve_left fun early => ?_
      rw [List.mem_takeWhile_imp early] at visible
      cases visible
    have second : c ∈ (text.dropWhile blank).reverse.dropWhile blank := by
      have whole : c ∈ (text.dropWhile blank).reverse.takeWhile blank ++
          (text.dropWhile blank).reverse.dropWhile blank := by
        rw [List.takeWhile_append_dropWhile]
        exact List.mem_reverse.mpr first
      refine (List.mem_append.mp whole).resolve_left fun early => ?_
      rw [List.mem_takeWhile_imp early] at visible
      cases visible
    refine List.mem_filter.mpr ⟨List.mem_reverse.mpr second, ?_⟩
    cases line : lineOrTab c with
    | false => rfl
    | true =>
      rw [blank_of_lineOrTab line] at visible
      cases visible

theorem cleaned_of_visible {text : List Char} (visible : ∀ c ∈ text, blank c = false) :
    cleaned text = text := by
  have kept : ∀ part : List Char, (∀ c ∈ part, blank c = false) → part.dropWhile blank = part := by
    intro part shown
    rw [List.dropWhile_eq_self_iff]
    intro long first
    rw [shown _ (List.getElem_mem long)] at first
    cases first
  rw [cleaned, kept text visible, kept _ fun c mem => visible c (List.mem_reverse.mp mem),
    List.reverse_reverse, filter_visible visible]

/-! ### Escapes -/

theorem percentEncode_append (set : Char → Bool) (text more : List Char) :
    percentEncode set (text ++ more) = percentEncode set text ++ percentEncode set more :=
  List.flatMap_append

theorem percentEncode_of_plain {set : Char → Bool} {text : List Char}
    (plain : ∀ c ∈ text, set c = false) : percentEncode set text = text := by
  induction text with
  | nil => rfl
  | cons c text ih =>
    rw [List.forall_mem_cons] at plain
    rw [percentEncode, List.flatMap_cons, if_neg (by rw [plain.1]; decide), ← percentEncode,
      ih plain.2]
    rfl

/-- The escapes of some blanks. -/
def escaped (text : List Char) : List Char :=
  text.flatMap fun c => ['%', upperHexDigit (c.toNat / 16), upperHexDigit (c.toNat % 16)]

theorem blank_induction {P : Char → Prop} (table : ∀ n : Fin 33, P (Char.ofNat n)) {c : Char}
    (hc : blank c = true) : P c := by
  have small := of_decide_eq_true hc
  have at_c := table ⟨c.toNat, by omega⟩
  rwa [Char.ofNat_toNat] at at_c

theorem percentEncode_blank {set : Char → Bool}
    (table : ∀ n : Fin 33, set (Char.ofNat n) = true) {text : List Char}
    (blanks : ∀ c ∈ text, blank c = true) : percentEncode set text = escaped text := by
  let Escaped (c : Char) := (String.utf8EncodeChar c).flatMap percentByte =
    ['%', upperHexDigit (c.toNat / 16), upperHexDigit (c.toNat % 16)]
  have bytes : ∀ n : Fin 33, Escaped (Char.ofNat n) := by decide
  induction text with
  | nil => rfl
  | cons c text ih =>
    rw [List.forall_mem_cons] at blanks
    have inSet : set c = true := blank_induction (P := fun c => set c = true) table blanks.1
    have own : Escaped c := blank_induction bytes blanks.1
    rw [percentEncode, List.flatMap_cons, if_pos inSet, own, ← percentEncode, ih blanks.2]
    rfl

/-! ### Forms -/

theorem formBytes_plain {c : Char} (h : c ≠ '%') (rest : List Char) :
    formBytes (c :: rest) = (if c = '+' then [32] else String.utf8EncodeChar c) ++ formBytes rest := by
  rw [formBytes]
  rintro a b tail rfl
  exact absurd rfl h

theorem formBytes_escape {a b : Char} {x y : Nat} (ha : hexValue? a = some x)
    (hb : hexValue? b = some y) (rest : List Char) :
    formBytes ('%' :: a :: b :: rest) = UInt8.ofNat (x * 16 + y) :: formBytes rest := by
  rw [formBytes, ha, hb]

/-- A sign that is no escape stands for itself. -/
theorem formBytes_sign {a b : Char} (h : hexValue? a = none ∨ hexValue? b = none)
    (rest : List Char) :
    formBytes ('%' :: a :: b :: rest) = 37 :: formBytes (a :: b :: rest) := by
  rw [formBytes]
  cases ha : hexValue? a with
  | none => rfl
  | some x =>
    cases hb : hexValue? b with
    | none => rfl
    | some y =>
      rw [ha, hb] at h
      rcases h with h | h <;> cases h

/-- An escape does not join with what stands before it. -/
theorem formBytes_append (text rest : List Char) :
    formBytes (text ++ '%' :: rest) = formBytes text ++ formBytes ('%' :: rest) := by
  have sign : hexValue? '%' = none := by decide
  match text with
  | [] => rfl
  | [c] =>
    by_cases h : c = '%'
    · subst h
      cases rest with
      | nil => rfl
      | cons d rest => exact formBytes_sign (Or.inl sign) rest
    · rw [List.singleton_append, formBytes_plain h, formBytes_plain h [], formBytes,
        List.append_nil]
  | [c, d] =>
    by_cases h : c = '%'
    · subst h
      have later := formBytes_append [d] rest
      rw [List.singleton_append] at later
      have alone : formBytes ['%', d] = 37 :: formBytes [d] := by
        rw [formBytes]
        · rfl
        · rintro a b tail
          exact fun _ same => absurd same (by simp)
      rw [List.cons_append, List.singleton_append, formBytes_sign (Or.inr sign), later, alone,
        List.cons_append]
    · have later := formBytes_append [d] rest
      rw [List.cons_append, formBytes_plain h, later, formBytes_plain h, List.append_assoc]
  | c :: a :: b :: text =>
    by_cases h : c = '%'
    · subst h
      cases ha : hexValue? a with
      | none =>
        have later := formBytes_append (a :: b :: text) rest
        rw [List.cons_append, List.cons_append] at later
        rw [List.cons_append, List.cons_append, List.cons_append, formBytes_sign (Or.inl ha), later,
          formBytes_sign (Or.inl ha), List.cons_append]
      | some x =>
        cases hb : hexValue? b with
        | none =>
          have later := formBytes_append (a :: b :: text) rest
          rw [List.cons_append, List.cons_append] at later
          rw [List.cons_append, List.cons_append, List.cons_append, formBytes_sign (Or.inr hb),
            later, formBytes_sign (Or.inr hb), List.cons_append]
        | some y =>
          rw [List.cons_append, List.cons_append, List.cons_append, formBytes_escape ha hb,
            formBytes_append text rest, formBytes_escape ha hb, List.cons_append]
    · have later := formBytes_append (a :: b :: text) rest
      rw [List.cons_append, formBytes_plain h, later, formBytes_plain h, List.append_assoc]

theorem formBytes_escaped {text : List Char} (blanks : ∀ c ∈ text, blank c = true) :
    formBytes (escaped text) = text.map fun c => UInt8.ofNat c.toNat := by
  let Digits (c : Char) := hexValue? (upperHexDigit (c.toNat / 16)) = some (c.toNat / 16) ∧
    hexValue? (upperHexDigit (c.toNat % 16)) = some (c.toNat % 16)
  have table : ∀ n : Fin 33, Digits (Char.ofNat n) := by decide
  induction text with
  | nil => rfl
  | cons c text ih =>
    rw [List.forall_mem_cons] at blanks
    have digits : Digits c := blank_induction table blanks.1
    rw [escaped, List.flatMap_cons, ← escaped, List.cons_append, List.cons_append, List.cons_append,
      List.nil_append, formBytes_escape digits.1 digits.2, ih blanks.2, List.map_cons,
      show c.toNat / 16 * 16 + c.toNat % 16 = c.toNat by omega]

/-- Every escaped blank is one more character of the decoded text. -/
theorem length_formText_escaped (platform : Platform) (text : List Char) {blanks : List Char}
    (hblanks : ∀ c ∈ blanks, blank c = true) :
    (formText platform (text ++ escaped blanks)).length =
      (formText platform text).length + blanks.length := by
  have decoded : ∀ (bytes : List UInt8) (tail : List Char), (∀ c ∈ tail, blank c = true) →
      (platform.decode (bytes ++ tail.map fun c => UInt8.ofNat c.toNat)).length =
        (platform.decode bytes).length + tail.length := by
    intro bytes tail
    induction tail generalizing bytes with
    | nil =>
      intro _
      rw [List.map_nil, List.append_nil]
      rfl
    | cons c tail ih =>
      intro all
      rw [List.forall_mem_cons] at all
      let Ascii (c : Char) := UInt8.ofNat c.toNat < 128
      have table : ∀ n : Fin 33, Ascii (Char.ofNat n) := by decide
      have low : Ascii c := blank_induction table all.1
      have shape : bytes ++ (c :: tail).map (fun c => UInt8.ofNat c.toNat) =
          bytes ++ [UInt8.ofNat c.toNat] ++ tail.map fun c => UInt8.ofNat c.toNat := by
        rw [List.map_cons, List.append_assoc, List.singleton_append]
      rw [shape, ih _ all.2, platform.decode_ascii _ _ low, List.length_append,
        List.length_singleton, List.length_cons]
      omega
  have bytes : formBytes (text ++ escaped blanks) =
      formBytes text ++ blanks.map fun c => UInt8.ofNat c.toNat := by
    cases blanks with
    | nil => rw [escaped, List.flatMap_nil, List.append_nil, List.map_nil, List.append_nil]
    | cons c blanks =>
      rw [← formBytes_escaped hblanks]
      exact formBytes_append text _
  rw [formText, formText, String.length_ofList, String.length_ofList, bytes, decoded _ _ hblanks]

theorem formPieces_append (text more : List Char) :
    formPieces (text ++ '&' :: more) = formPieces text ++ formPieces more := by
  rw [formPieces, List.splitOn_append_cons_self, List.filter_append]
  rfl

theorem formParams_append (platform : Platform) (text more : List Char) :
    formParams platform (text ++ '&' :: more) =
      formParams platform text ++ formParams platform more := by
  rw [formParams, formPieces_append, List.map_append]
  rfl

theorem formPieces_single {piece : List Char} (filled : piece ≠ []) (plain : '&' ∉ piece) :
    formPieces piece = [piece] := by
  rw [formPieces, List.splitOn_eq_singleton plain, List.filter_cons_of_pos]
  · rfl
  · rwa [Bool.not_eq_true', List.isEmpty_eq_false_iff]

/-- A text has a last separator, or none. -/
theorem last_cases {α : Type} (p : α → Bool) (text : List α) :
    (∀ c ∈ text, p c = false) ∨
      ∃ before c after, text = before ++ c :: after ∧ p c = true ∧ ∀ d ∈ after, p d = false := by
  induction text with
  | nil => exact Or.inl fun _ mem => absurd mem List.not_mem_nil
  | cons c text ih =>
    rcases ih with none | ⟨before, d, after, rfl, hit, none⟩
    · cases own : p c with
      | false => exact Or.inl (List.forall_mem_cons.mpr ⟨own, none⟩)
      | true => exact Or.inr ⟨[], c, text, rfl, own, none⟩
    · exact Or.inr ⟨c :: before, d, after, rfl, hit, none⟩

theorem escaped_plain {text : List Char} (blanks : ∀ c ∈ text, blank c = true) :
    '&' ∉ escaped text ∧ '=' ∉ escaped text := by
  let Plain (c : Char) := '&' ∉ ['%', upperHexDigit (c.toNat / 16), upperHexDigit (c.toNat % 16)] ∧
    '=' ∉ ['%', upperHexDigit (c.toNat / 16), upperHexDigit (c.toNat % 16)]
  have table : ∀ n : Fin 33, Plain (Char.ofNat n) := by decide
  constructor
  · intro mem
    obtain ⟨c, among, inside⟩ := List.mem_flatMap.mp mem
    have own : Plain c := blank_induction table (blanks c among)
    exact own.1 inside
  · intro mem
    obtain ⟨c, among, inside⟩ := List.mem_flatMap.mp mem
    have own : Plain c := blank_induction table (blanks c among)
    exact own.2 inside

theorem escaped_filled {text : List Char} (filled : text ≠ []) : escaped text ≠ [] := by
  obtain ⟨c, rest, rfl⟩ := List.exists_cons_of_ne_nil filled
  exact List.cons_ne_nil _ _

/-- Blanks after a pair change its name or its value. -/
theorem formPair_escaped (platform : Platform) (piece : List Char) {blanks : List Char}
    (hblanks : ∀ c ∈ blanks, blank c = true) (filled : blanks ≠ []) :
    formPair platform (piece ++ escaped blanks) ≠ formPair platform piece := by
  intro same
  have long := List.length_pos_iff.mpr filled
  rcases cutAt_cases '=' piece with ⟨absent, cut⟩ | ⟨name, value, rfl, absent, cut⟩
  · have whole : '=' ∉ piece ++ escaped blanks := by
      rw [List.mem_append, not_or]
      exact ⟨absent, (escaped_plain hblanks).2⟩
    rw [formPair, formPair, cut, cutAt_of_not_mem whole] at same
    have lengths := congrArg (fun pair => pair.1.length) same
    simp only at lengths
    rw [length_formText_escaped platform piece hblanks] at lengths
    omega
  · rw [formPair, formPair, cut, List.append_assoc, List.cons_append, cutAt_append absent] at same
    have lengths := congrArg (fun pair => pair.2.length) same
    simp only [Option.getD_some] at lengths
    rw [length_formText_escaped platform value hblanks] at lengths
    omega

/-- Blanks at the end of a query change its last parameter, or add one. -/
theorem formParams_escaped (platform : Platform) (query : List Char) {blanks : List Char}
    (hblanks : ∀ c ∈ blanks, blank c = true) (filled : blanks ≠ []) :
    formParams platform (query ++ escaped blanks) ≠ formParams platform query := by
  have plain := (escaped_plain hblanks).1
  have single : ∀ piece : List Char, '&' ∉ piece →
      formParams platform (piece ++ escaped blanks) ≠ formParams platform piece := by
    intro piece absent same
    have whole : '&' ∉ piece ++ escaped blanks := by
      rw [List.mem_append, not_or]
      exact ⟨absent, plain⟩
    have some' : piece ++ escaped blanks ≠ [] := fun empty =>
      escaped_filled filled (List.append_eq_nil_iff.mp empty).2
    rw [formParams, formPieces_single some' whole] at same
    by_cases empty : piece = []
    · subst empty
      cases same
    · rw [formParams, formPieces_single empty absent] at same
      exact formPair_escaped platform piece hblanks filled (List.singleton_inj.mp same)
  rcases last_cases (· == '&') query with none | ⟨before, c, after, rfl, hit, none⟩
  · exact single query fun mem => absurd (none _ mem) (by decide)
  · rw [eq_of_beq hit, List.append_assoc, List.cons_append, formParams_append, formParams_append]
    intro same
    exact single after (fun mem => absurd (none _ mem) (by decide)) (List.append_cancel_left same)

/-! ### Paths -/

theorem last_segment (text : List Char) : ∃ (segments : List (List Char)) (last : List Char),
    ∀ tail : List Char, (∀ c ∈ tail, separator c = false) →
      (text ++ tail).splitOnP separator = segments ++ [last ++ tail] := by
  rcases last_cases separator text with none | ⟨before, c, after, rfl, hit, none⟩
  · refine ⟨[], text, fun tail plain => ?_⟩
    rw [List.splitOnP_eq_singleton, List.nil_append]
    intro c mem
    exact (List.mem_append.mp mem).elim (none c) (plain c)
  · refine ⟨before.splitOnP separator, after, fun tail plain => ?_⟩
    rw [List.append_assoc, List.cons_append, List.splitOnP_append_cons _ _ hit,
      @List.splitOnP_eq_singleton _ _ (after ++ tail)]
    intro c mem
    exact (List.mem_append.mp mem).elim (none c) (plain c)

theorem readSegments_last (segments : List (List Char)) (last : List Char) :
    readSegments (segments ++ [last]) = settle (segments.foldl enter []) last := by
  rw [readSegments, List.dropLast_concat]
  simp

/-- Escaped blanks end in the two digits of one. -/
theorem escaped_end {text : List Char} (blanks : ∀ c ∈ text, blank c = true) (filled : text ≠ []) :
    ∃ (stem : List Char) (n : Fin 33),
      escaped text = stem ++ [upperHexDigit (n / 16), upperHexDigit (n % 16)] := by
  obtain ⟨before, c, rfl⟩ : ∃ before c, text = before ++ [c] :=
    ⟨_, _, (List.dropLast_append_getLast filled).symm⟩
  have small := of_decide_eq_true (blanks c (List.mem_append_right _ (List.mem_singleton.mpr rfl)))
  refine ⟨escaped before ++ ['%'], ⟨c.toNat, by omega⟩, ?_⟩
  rw [escaped, List.flatMap_append, List.flatMap_singleton, ← escaped, List.append_assoc]
  rfl

/-- The last two characters. -/
def ending (text : List Char) : List Char := text.drop (text.length - 2)

theorem dots_ending (n : Fin 33) :
    (∀ dot ∈ dotSpellings, ending dot ≠ [upperHexDigit (n / 16), upperHexDigit (n % 16)]) ∧
      ∀ first ∈ dotSpellings, ∀ second ∈ dotSpellings,
        ending (first ++ second) ≠ [upperHexDigit (n / 16), upperHexDigit (n % 16)] := by
  decide +revert

/-- Escaped blanks at the end of a segment leave no spelling of a dot. -/
theorem escaped_not_dots {text : List Char} (blanks : ∀ c ∈ text, blank c = true)
    (filled : text ≠ []) (segment : List Char) :
    singleDot (segment ++ escaped text) = false ∧ doubleDot (segment ++ escaped text) = false := by
  obtain ⟨stem, n, shape⟩ := escaped_end blanks filled
  have last : ending (segment ++ escaped text) =
      [upperHexDigit (n / 16), upperHexDigit (n % 16)] := by
    rw [ending, shape, ← List.append_assoc, List.length_append]
    exact List.drop_left
  rw [← Bool.not_eq_true, ← Bool.not_eq_true, singleDot, doubleDot, List.contains_iff_mem]
  constructor
  · intro dot
    exact (dots_ending n).1 _ dot last
  · intro dots
    obtain ⟨first, hfirst, rest⟩ := List.any_eq_true.mp dots
    obtain ⟨second, hsecond, same⟩ := List.any_eq_true.mp rest
    rw [eq_of_beq same] at last
    exact (dots_ending n).2 first hfirst second hsecond last

/-- The text of a path. -/
def written (path : List (List Char)) : List Char := path.flatMap fun segment => '/' :: segment

theorem written_concat (path : List (List Char)) (segment : List Char) :
    written (path ++ [segment]) = written path ++ '/' :: segment := by
  rw [written, List.flatMap_append, List.flatMap_singleton, ← written]

theorem written_cons (segment : List Char) (path : List (List Char)) :
    written (segment :: path) = '/' :: segment ++ written path := by
  rw [written, List.flatMap_cons, ← written]

/-- Blanks at the end of a path that is not empty change it. -/
theorem readPath_blanks {text : List Char} (begun : text ≠ []) {blanks : List Char}
    (hblanks : ∀ c ∈ blanks, blank c = true) (filled : blanks ≠ []) :
    readPath (text ++ blanks) ≠ readPath text := by
  have inSet : ∀ n : Fin 33, pathSet (Char.ofNat n) = true := by decide
  let Inside (c : Char) := separator c = false
  have table : ∀ n : Fin 33, Inside (Char.ofNat n) := by decide
  obtain ⟨c, rest, rfl⟩ := List.exists_cons_of_ne_nil begun
  obtain ⟨segments, last, cut⟩ := last_segment rest
  have whole := cut [] fun _ mem => absurd mem List.not_mem_nil
  rw [List.append_nil, List.append_nil] at whole
  have more := cut blanks fun d mem => blank_induction (P := Inside) table (hblanks d mem)
  obtain ⟨path, hpath⟩ : ∃ path, path = (segments.map (percentEncode pathSet)).foldl enter [] :=
    ⟨_, rfl⟩
  have longer : readPath (c :: rest ++ blanks) =
      written (path ++ [percentEncode pathSet last ++ escaped blanks]) := by
    obtain ⟨notSingle, notDouble⟩ := escaped_not_dots hblanks filled (percentEncode pathSet last)
    rw [readPath, List.cons_append, List.drop_one, List.tail_cons, more, List.map_append,
      List.map_singleton, readSegments_last, ← hpath, percentEncode_append,
      percentEncode_blank inSet hblanks, settle, if_neg (by rw [notDouble]; decide),
      if_neg (by rw [notSingle]; decide), written]
  have plain : readPath (c :: rest) = written (settle path (percentEncode pathSet last)) := by
    rw [readPath, List.drop_one, List.tail_cons, whole, List.map_append, List.map_singleton,
      readSegments_last, ← hpath, written]
  -- a dot was settled as an empty segment, so the path read before ended in a slash
  have slash : ∀ path' : List (List Char), written (path' ++ [[]]) ≠
      written (path ++ [percentEncode pathSet last ++ escaped blanks]) := by
    obtain ⟨stem, n, shape⟩ := escaped_end hblanks filled
    intro path' same
    have digit : ∀ n : Fin 33, upperHexDigit (n % 16) ≠ '/' := by decide
    have lasts := congrArg List.getLast? same
    rw [written_concat, written_concat, shape] at lasts
    simp only [List.getLast?_append, List.getLast?_cons, List.getLast?_nil, Option.getD_none,
      Option.getD_some, Option.some_or, Option.some.injEq] at lasts
    exact digit n lasts.symm
  rw [longer, plain, settle]
  intro same
  split at same
  · exact slash _ same.symm
  split at same
  · exact slash _ same.symm
  · rw [written_concat, written_concat] at same
    have lengths := congrArg List.length (List.append_cancel_left same)
    rw [List.length_cons, List.length_cons, List.length_append] at lengths
    have some' := List.length_pos_iff.mpr (escaped_filled filled)
    omega

/-! ### Plain paths -/

theorem splitOnP_slash {text : List Char} (plain : '\\' ∉ text) :
    text.splitOnP separator = text.splitOn '/' := by
  rw [List.splitOn_eq_splitOnP]
  induction text with
  | nil => rfl
  | cons c text ih =>
    rw [List.mem_cons, not_or] at plain
    have same : separator c = (c == '/') := by
      rw [separator, beq_eq_false_iff_ne.mpr (Ne.symm plain.1), Bool.or_false]
    rw [List.splitOnP_cons_eq_if_modifyHead, List.splitOnP_cons_eq_if_modifyHead, same, ih plain.2]

theorem written_splitOn (text : List Char) : written (text.splitOn '/') = '/' :: text := by
  have intercalated : ∀ (segment : List Char) (rest : List (List Char)),
      written (segment :: rest) = '/' :: ['/'].intercalate (segment :: rest) := by
    intro segment rest
    induction rest generalizing segment with
    | nil => rw [List.intercalate_singleton, written, List.flatMap_singleton]
    | cons next rest ih =>
      rw [List.intercalate_cons_cons, written_cons, ih, List.append_assoc, List.singleton_append,
        List.cons_append]
  obtain ⟨segment, rest, shape⟩ := List.exists_cons_of_ne_nil (List.splitOn_ne_nil '/' text)
  rw [shape, intercalated, ← shape, List.intercalate_splitOn]

theorem mem_enter {path : List (List Char)} {segment entry : List Char}
    (mem : entry ∈ enter path segment) : entry ∈ path ∨ entry = segment := by
  rw [enter] at mem
  split at mem
  · exact Or.inl ((List.dropLast_sublist _).subset mem)
  split at mem
  · exact Or.inl mem
  · exact (List.mem_append.mp mem).imp_right List.mem_singleton.mp

theorem mem_entered {segments : List (List Char)} : ∀ {path : List (List Char)} {entry : List Char},
    entry ∈ segments.foldl enter path → entry ∈ path ∨ entry ∈ segments := by
  induction segments with
  | nil => exact fun mem => Or.inl mem
  | cons segment segments ih =>
    intro path entry mem
    rw [List.foldl_cons] at mem
    rcases ih mem with early | late
    · rcases mem_enter early with before | rfl
      · exact Or.inl before
      · exact Or.inr List.mem_cons_self
    · exact Or.inr (List.mem_cons_of_mem _ late)

theorem mem_readSegments {segments : List (List Char)} {entry : List Char}
    (filled : segments ≠ []) (mem : entry ∈ readSegments segments) :
    entry = [] ∨ entry ∈ segments := by
  have entered : entry ∈ segments.dropLast.foldl enter [] → entry = [] ∨ entry ∈ segments := by
    intro among
    rcases mem_entered among with none | among
    · cases none
    · exact Or.inr ((List.dropLast_sublist _).subset among)
  have last : segments.getLastD [] ∈ segments := by
    rw [List.getLastD_eq_getLast?, List.getLast?_eq_some_getLast filled]
    exact List.getLast_mem filled
  rw [readSegments, settle] at mem
  split at mem
  · rcases List.mem_append.mp mem with early | late
    · exact entered ((List.dropLast_sublist _).subset early)
    · exact Or.inl (List.mem_singleton.mp late)
  split at mem
  · rcases List.mem_append.mp mem with early | late
    · exact entered early
    · exact Or.inl (List.mem_singleton.mp late)
  · rcases List.mem_append.mp mem with early | late
    · exact entered early
    · exact Or.inr (List.mem_singleton.mp late ▸ last)

theorem percentEncode_chars {set : Char → Bool} (sign : set '%' = false)
    (digits : ∀ n : Fin 16, set (upperHexDigit n) = false) (text : List Char) :
    ∀ c ∈ percentEncode set text, set c = false := by
  intro c mem
  obtain ⟨d, _, inside⟩ := List.mem_flatMap.mp mem
  split at inside
  · obtain ⟨byte, _, among⟩ := List.mem_flatMap.mp inside
    have small := byte.toNat_lt
    simp only [percentByte, List.mem_cons, List.not_mem_nil, or_false] at among
    rcases among with rfl | rfl | rfl
    · exact sign
    · exact digits ⟨byte.toNat / 16, by omega⟩
    · exact digits ⟨byte.toNat % 16, by omega⟩
  · rename_i plain
    rw [List.mem_singleton.mp inside]
    exact Bool.eq_false_iff.mpr plain

/-- A path that was read needs no more escapes. -/
theorem readPath_chars (text : List Char) : ∀ c ∈ readPath text, pathSet c = false := by
  intro c mem
  obtain ⟨segment, among, inside⟩ := List.mem_flatMap.mp mem
  rcases List.mem_cons.mp inside with rfl | inside
  · decide
  have filled : (((text.drop 1).splitOnP separator).map (percentEncode pathSet)) ≠ [] :=
    fun empty => List.splitOnP_ne_nil _ _ (List.map_eq_nil_iff.mp empty)
  rcases mem_readSegments filled among with rfl | among
  · cases inside
  · obtain ⟨raw, _, rfl⟩ := List.mem_map.mp among
    exact percentEncode_chars (by decide) (by decide) raw c inside

theorem map_percentEncode {segments : List (List Char)}
    (plain : ∀ segment ∈ segments, ∀ c ∈ segment, pathSet c = false) :
    segments.map (percentEncode pathSet) = segments := by
  refine (List.map_congr_left fun segment mem => ?_).trans (List.map_id' _)
  exact percentEncode_of_plain (plain segment mem)

/-- The segments of a plain text. -/
theorem readPath_of_plain {text : List Char} (plain : ∀ c ∈ text, pathSet c = false)
    (slashes : '\\' ∉ text) :
    readPath ('/' :: text) = written (readSegments (text.splitOn '/')) := by
  rw [readPath, List.drop_one, List.tail_cons, map_percentEncode, splitOnP_slash slashes, written]
  intro segment mem c inside
  exact plain c (PosixPaths.mem_of_mem_splitOnP text segment mem c inside)

theorem readSegments_of_no_dots {segments : List (List Char)} (filled : segments ≠ [])
    (noDots : ∀ segment ∈ segments, singleDot segment = false ∧ doubleDot segment = false) :
    readSegments segments = segments := by
  have entered : ∀ (parts path : List (List Char)),
      (∀ segment ∈ parts, singleDot segment = false ∧ doubleDot segment = false) →
        parts.foldl enter path = path ++ parts := by
    intro parts
    induction parts with
    | nil => exact fun path _ => (List.append_nil path).symm
    | cons part parts ih =>
      intro path none
      rw [List.forall_mem_cons] at none
      rw [List.foldl_cons, enter, if_neg (by rw [none.1.2]; decide),
        if_neg (by rw [none.1.1]; decide), ih _ none.2, List.append_assoc, List.singleton_append]
  obtain ⟨before, last, rfl⟩ : ∃ before last, segments = before ++ [last] :=
    ⟨_, _, (List.dropLast_append_getLast filled).symm⟩
  have own := noDots last (List.mem_append_right _ (List.mem_singleton.mpr rfl))
  rw [readSegments_last, entered before [] fun segment mem =>
      noDots segment (List.mem_append_left _ mem), List.nil_append, settle,
    if_neg (by rw [own.2]; decide), if_neg (by rw [own.1]; decide)]

/-- Reading drops segments and adds none. -/
theorem length_readSegments {segments : List (List Char)} (filled : segments ≠ []) :
    (written (readSegments segments)).length ≤ (written segments).length := by
  have dropped : ∀ path : List (List Char),
      (written path.dropLast).length ≤ (written path).length := by
    intro path
    by_cases empty : path = []
    · rw [empty]
      exact Nat.le_refl _
    · obtain ⟨before, last, rfl⟩ : ∃ before last, path = before ++ [last] :=
        ⟨_, _, (List.dropLast_append_getLast empty).symm⟩
      rw [List.dropLast_concat, written_concat, List.length_append]
      omega
  have entered : ∀ (parts path : List (List Char)),
      (written (parts.foldl enter path)).length ≤ (written path).length + (written parts).length := by
    intro parts
    induction parts with
    | nil => exact fun path => Nat.le_refl _
    | cons part parts ih =>
      intro path
      have own : (written (enter path part)).length ≤ (written path).length + (part.length + 1) := by
        rw [enter]
        split
        · exact Nat.le_trans (dropped path) (Nat.le_add_right _ _)
        split
        · exact Nat.le_add_right _ _
        · rw [written_concat, List.length_append, List.length_cons]
      have later := ih (enter path part)
      rw [List.foldl_cons, written_cons, List.length_append, List.length_cons]
      omega
  obtain ⟨before, last, rfl⟩ : ∃ before last, segments = before ++ [last] :=
    ⟨_, _, (List.dropLast_append_getLast filled).symm⟩
  have start := entered before []
  have shorter := dropped (before.foldl enter [])
  rw [show (written []).length = 0 from rfl, Nat.zero_add] at start
  rw [readSegments_last, settle, written_concat before, List.length_append, List.length_cons]
  split
  · rw [written_concat, List.length_append, List.length_singleton]
    omega
  split
  · rw [written_concat, List.length_append, List.length_singleton]
    omega
  · rw [written_concat, List.length_append, List.length_cons]
    omega

theorem length_readPath {text : List Char} (plain : ∀ c ∈ text, pathSet c = false)
    (slashes : '\\' ∉ text) : (readPath ('/' :: text)).length ≤ text.length + 1 := by
  have bound := length_readSegments (List.splitOn_ne_nil '/' text)
  rw [readPath_of_plain plain slashes]
  rwa [written_splitOn, List.length_cons] at bound

theorem readPath_of_no_dots {text : List Char} (plain : ∀ c ∈ text, pathSet c = false)
    (slashes : '\\' ∉ text)
    (noDots : ∀ segment ∈ text.splitOn '/', singleDot segment = false ∧ doubleDot segment = false) :
    readPath ('/' :: text) = '/' :: text := by
  rw [readPath_of_plain plain slashes, readSegments_of_no_dots (List.splitOn_ne_nil '/' text) noDots,
    written_splitOn]

/-! ### Authorities -/

theorem cutPort_blank (inside : Bool) (text : List Char) {c : Char} (hc : blank c = true) :
    ((cutPort inside (text ++ [c])).2 = none ∧ c ∈ (cutPort inside (text ++ [c])).1) ∨
      ∃ port, (cutPort inside (text ++ [c])).2 = some port ∧ c ∈ port := by
  induction text generalizing inside with
  | nil =>
    have notColon : c ≠ ':' := by
      rintro rfl
      cases hc
    rw [List.nil_append, cutPort, if_neg fun both => notColon both.1]
    exact Or.inl ⟨rfl, List.mem_cons_self⟩
  | cons d text ih =>
    rw [List.cons_append, cutPort]
    split
    · exact Or.inr ⟨_, rfl, List.mem_append_right _ (List.mem_singleton.mpr rfl)⟩
    · rcases ih (if d = '[' then true else if d = ']' then false else inside) with ⟨none, mem⟩ | found
      · exact Or.inl ⟨none, List.mem_cons_of_mem _ mem⟩
      · exact Or.inr found

/-- An authority with a blank at its end is refused. -/
theorem readAuthority_blank (platform : Platform) (authority : List Char) {c : Char}
    (hc : blank c = true) : readAuthority platform (authority ++ [c]) = none := by
  have notAt : (c != '@') = true := by
    rw [bne_iff_ne]
    rintro rfl
    cases hc
  obtain ⟨host, hhost⟩ : ∃ host, (cutUserinfo (authority ++ [c])).2 = host ++ [c] := by
    refine ⟨(authority.reverse.takeWhile (· != '@')).reverse, ?_⟩
    rw [cutUserinfo, List.reverse_append, List.reverse_singleton, List.singleton_append,
      List.takeWhile_cons, if_pos notAt, List.reverse_cons]
  have small := of_decide_eq_true hc
  rw [readAuthority]
  simp only [hhost]
  split
  · rfl
  cases named : platform.host (cutPort false (host ++ [c])).1 with
  | none => rfl
  | some hostname =>
    rw [Option.bind_some]
    rcases cutPort_blank false host hc with ⟨_, mem⟩ | ⟨port, cut, mem⟩
    · have shown := platform.host_visible _ _ named c mem
      omega
    · have noDigit : ¬ (port.all Char.isDigit = true) := by
        rw [List.all_eq_true]
        intro all
        let Other (c : Char) := c.isDigit = false
        have table : ∀ n : Fin 33, Other (Char.ofNat n) := by decide
        have own : Other c := blank_induction table hc
        have digit := all c mem
        rw [show c.isDigit = false from own] at digit
        cases digit
      rw [cut, Option.getD_some, portText, if_neg noDigit]
      rfl

/-! ### Texts and longer texts -/

/-- How a text that is read as an `https` URL is cut. -/
structure Cut (text scheme rest : List Char) (query fragment : Option (List Char)) : Prop where
  whole : ∃ located body, cutAt '#' (cleaned text) = (located, fragment) ∧
    cutAt '?' located = (body, query) ∧ cutAt ':' body = (scheme, some rest)
  https : scheme.map Char.toLower = "https".toList

theorem Cut.parse {text scheme rest : List Char} {query fragment : Option (List Char)}
    (cut : Cut text scheme rest query fragment) (platform : Platform) :
    parse platform text = readHttps platform rest query fragment := by
  obtain ⟨located, body, hfragment, hquery, hscheme⟩ := cut.whole
  rw [WebUrls.parse]
  simp only [hfragment, hquery, hscheme, cut.https, if_true]

theorem cut_of_parse {platform : Platform} {text : List Char} {url : WebUrl}
    (read : parse platform text = some url) (https : url.protocol = "https:") :
    ∃ scheme rest query fragment, Cut text scheme rest query fragment ∧
      readHttps platform rest query fragment = some url := by
  rw [WebUrls.parse] at read
  split at read
  · cases read
  rename_i rest hscheme
  split at read
  · rename_i named
    exact ⟨_, rest, _, _, ⟨⟨_, _, rfl, rfl, Prod.ext rfl hscheme⟩, named⟩, read⟩
  · exact absurd https (platform.other_protocol _ _ read)

/-- The parts that do not depend on the query or the fragment. -/
structure SamePlace (url other : WebUrl) : Prop where
  protocol : url.protocol = other.protocol
  username : url.username = other.username
  password : url.password = other.password
  hostname : url.hostname = other.hostname
  port : url.port = other.port
  pathname : url.pathname = other.pathname

theorem readHttps_some {platform : Platform} {rest : List Char} {query fragment : Option (List Char)}
    {url : WebUrl} (h : readHttps platform rest query fragment = some url) :
    url.searchParams = formParams platform (percentEncode specialQuerySet (query.getD [])) ∧
      url.hash = withMark '#' (percentEncode fragmentSet (fragment.getD [])) ∧
      url.pathname = String.ofList
        (readPath ((rest.dropWhile separator).dropWhile fun c => !separator c)) ∧
      ∀ query' fragment', ∃ url', readHttps platform rest query' fragment' = some url' ∧
        SamePlace url' url := by
  obtain ⟨authority, hauthority, rfl⟩ := Option.map_eq_some_iff.mp h
  refine ⟨rfl, rfl, rfl, fun query' fragment' => ?_⟩
  rw [readHttps, hauthority, Option.map_some]
  exact ⟨_, rfl, rfl, rfl, rfl, rfl, rfl, rfl⟩

theorem percentEncode_filled {set : Char → Bool} {text : List Char} (filled : text ≠ []) :
    percentEncode set text ≠ [] := by
  obtain ⟨c, rest, rfl⟩ := List.exists_cons_of_ne_nil filled
  rw [percentEncode, List.flatMap_cons]
  intro empty
  have first := (List.append_eq_nil_iff.mp empty).1
  split at first
  · obtain ⟨byte, bytes, shape⟩ := List.exists_cons_of_ne_nil (@String.utf8EncodeChar_ne_nil c)
    rw [shape] at first
    cases first
  · cases first

theorem withMark_filled {mark : Char} {text : List Char} (filled : text ≠ []) :
    withMark mark text ≠ "" := by
  rw [withMark, if_neg filled]
  intro empty
  have chars := congrArg String.toList empty
  rw [String.toList_ofList] at chars
  cases chars

section Longer

variable {platform : Platform} {text tail : List Char} {url : WebUrl}

theorem colon_of_cut {scheme rest : List Char} {query fragment : Option (List Char)}
    (cut : Cut text scheme rest query fragment) : ':' ∈ text := by
  obtain ⟨located, body, hfragment, hquery, hscheme⟩ := cut.whole
  have colon : ':' ∈ body := by
    rcases cutAt_cases ':' body with ⟨_, none⟩ | ⟨_, _, shape, _, _⟩
    · rw [none] at hscheme
      cases hscheme
    · rw [shape]
      exact List.mem_append_right _ List.mem_cons_self
  have prefixes : ∀ (c : Char) (part : List Char), (cutAt c part).1 <+: part :=
    fun c part => List.takeWhile_prefix _
  have first := prefixes '?' located
  have second := prefixes '#' (cleaned text)
  rw [hquery] at first
  rw [hfragment] at second
  exact mem_cleaned (second.subset (first.subset colon))

theorem shown_of_cut {scheme rest : List Char} {query fragment : Option (List Char)}
    (cut : Cut text scheme rest query fragment) : ∃ c ∈ text, blank c = false :=
  ⟨':', colon_of_cut cut, rfl⟩

/-- A text with a mark of a fragment puts what follows into the fragment. -/
theorem hash_of_longer (read : parse platform text = some url) (https : url.protocol = "https:")
    (marked : '#' ∈ text) (visible : ∀ c ∈ tail, blank c = false) (filled : tail ≠ [])
    {longer : WebUrl} (again : parse platform (text ++ tail) = some longer) : longer.hash ≠ "" := by
  obtain ⟨scheme, rest, query, fragment, cut, _⟩ := cut_of_parse read https
  have shown := shown_of_cut cut
  obtain ⟨located, body, hfragment, hquery, hscheme⟩ := cut.whole
  rcases cutAt_cases '#' (cleaned text) with ⟨absent, _⟩ | ⟨before, after, shape, absent, cut'⟩
  · exact absurd ((mem_cleaned_iff rfl).mpr marked) absent
  · rw [cut'] at hfragment
    cases hfragment
    have longCut : Cut (text ++ tail) scheme rest query (some (after ++ (trailing text ++ tail))) := by
      refine ⟨⟨located, body, ?_, hquery, hscheme⟩, cut.https⟩
      rw [cleaned_append shown visible filled, shape, List.append_assoc, List.cons_append,
        cutAt_append absent]
    rw [longCut.parse] at again
    rw [(readHttps_some again).2.1, Option.getD_some]
    refine withMark_filled (percentEncode_filled fun empty => filled ?_)
    exact (List.append_eq_nil_iff.mp (List.append_eq_nil_iff.mp empty).2).2

theorem cut_no_fragment {scheme rest : List Char} {query fragment : Option (List Char)}
    (cut : Cut text scheme rest query fragment) (unmarked : '#' ∉ text) :
    fragment = none ∧ ∃ body, cutAt '?' (cleaned text) = (body, query) ∧
      cutAt ':' body = (scheme, some rest) := by
  obtain ⟨located, body, hfragment, hquery, hscheme⟩ := cut.whole
  rw [cutAt_of_not_mem fun mem => unmarked (mem_cleaned mem)] at hfragment
  cases hfragment
  exact ⟨rfl, body, hquery, hscheme⟩

theorem trailing_apart {c : Char} (visible : blank c = false) : c ∉ trailing text := by
  intro mem
  rw [trailing_blank text c mem] at visible
  cases visible

/-- What follows a text with a query belongs to the query. -/
theorem parse_query (read : parse platform text = some url) (https : url.protocol = "https:")
    (unmarked : '#' ∉ text) (asked : '?' ∈ text) :
    ∃ before query, cleaned text = before ++ '?' :: query ∧ '?' ∉ before ∧
      url.searchParams = formParams platform (percentEncode specialQuerySet query) ∧
      ∀ tail : List Char, (∀ c ∈ tail, blank c = false) → tail ≠ [] → '#' ∉ tail →
        ∃ longer, parse platform (text ++ tail) = some longer ∧ SamePlace longer url ∧
          longer.hash = "" ∧ longer.searchParams = formParams platform
            (percentEncode specialQuerySet (query ++ (trailing text ++ tail))) := by
  obtain ⟨scheme, rest, query, fragment, cut, here⟩ := cut_of_parse read https
  have shown := shown_of_cut cut
  obtain ⟨rfl, body, hquery, hscheme⟩ := cut_no_fragment cut unmarked
  rcases cutAt_cases '?' (cleaned text) with ⟨absent, _⟩ | ⟨before, after, shape, absent, cut'⟩
  · exact absurd ((mem_cleaned_iff rfl).mpr asked) absent
  rw [cut'] at hquery
  cases hquery
  obtain ⟨params, _, _, others⟩ := readHttps_some here
  refine ⟨body, after, shape, absent, params, fun tail visible filled plain => ?_⟩
  obtain ⟨longer, again, place⟩ := others (some (after ++ (trailing text ++ tail))) none
  have longCut : Cut (text ++ tail) scheme rest (some (after ++ (trailing text ++ tail))) none := by
    refine ⟨⟨cleaned (text ++ tail), body, cutAt_of_not_mem ?_, ?_, hscheme⟩, cut.https⟩
    · intro mem
      exact (List.mem_append.mp (mem_cleaned mem)).elim unmarked plain
    · rw [cleaned_append shown visible filled, shape, List.append_assoc, List.cons_append,
        cutAt_append absent]
  refine ⟨longer, by rw [longCut.parse, again], place, ?_, (readHttps_some again).1⟩
  rw [(readHttps_some again).2.1]
  rfl

/-- What follows a text without a query, up to a question mark, belongs to the rest. -/
theorem parse_unasked (read : parse platform text = some url) (https : url.protocol = "https:")
    (unmarked : '#' ∉ text) (unasked : '?' ∉ text) :
    ∃ rest, readHttps platform rest none none = some url ∧
      ∀ tail : List Char, (∀ c ∈ tail, blank c = false) → tail ≠ [] → '#' ∉ tail →
        parse platform (text ++ tail) =
          readHttps platform (rest ++ (trailing text ++ (cutAt '?' tail).1)) (cutAt '?' tail).2
            none := by
  obtain ⟨scheme, rest, query, fragment, cut, here⟩ := cut_of_parse read https
  have shown := shown_of_cut cut
  obtain ⟨rfl, body, hquery, hscheme⟩ := cut_no_fragment cut unmarked
  rw [cutAt_of_not_mem fun mem => unasked (mem_cleaned mem)] at hquery
  cases hquery
  refine ⟨rest, here, fun tail visible filled plain => ?_⟩
  rcases cutAt_cases ':' (cleaned text) with ⟨_, none⟩ | ⟨before, after, shape, absent, cut'⟩
  · rw [none] at hscheme
    cases hscheme
  rw [cut'] at hscheme
  cases hscheme
  have bare : '?' ∉ cleaned text ++ trailing text := by
    rw [List.mem_append, not_or]
    exact ⟨fun mem => unasked (mem_cleaned mem), trailing_apart rfl⟩
  have hcut : cutAt '?' (cleaned (text ++ tail)) =
      (cleaned text ++ (trailing text ++ (cutAt '?' tail).1), (cutAt '?' tail).2) := by
    rw [cleaned_append shown visible filled]
    rcases cutAt_cases '?' tail with ⟨absentTail, cutTail⟩ | ⟨first, second, rfl, absentTail, cutTail⟩
    · rw [cutTail, cutAt_of_not_mem]
      rw [← List.append_assoc, List.mem_append, not_or]
      exact ⟨bare, absentTail⟩
    · rw [cutTail, ← List.append_assoc, ← List.append_assoc, cutAt_append]
      · rw [List.append_assoc]
      · rw [List.mem_append, not_or]
        exact ⟨bare, absentTail⟩
  have longCut : Cut (text ++ tail) scheme
      (rest ++ (trailing text ++ (cutAt '?' tail).1)) (cutAt '?' tail).2 none := by
    refine ⟨⟨_, _, cutAt_of_not_mem ?_, hcut, ?_⟩, cut.https⟩
    · intro mem
      exact (List.mem_append.mp (mem_cleaned mem)).elim unmarked plain
    · rw [shape, List.append_assoc, List.cons_append, cutAt_append absent]
  exact longCut.parse platform

/-- Blanks that are kept at the end of the rest change the path, or spoil the host. -/
theorem readHttps_blanks {rest blanks : List Char} {query : Option (List Char)} {longer : WebUrl}
    (here : readHttps platform rest none none = some url) (hblanks : ∀ c ∈ blanks, blank c = true)
    (filled : blanks ≠ []) (again : readHttps platform (rest ++ blanks) query none = some longer) :
    longer.pathname ≠ url.pathname := by
  let Inside (c : Char) := separator c = false
  have table : ∀ n : Fin 33, Inside (Char.ofNat n) := by decide
  have plain : ∀ c ∈ blanks, separator c = false :=
    fun c mem => blank_induction (P := Inside) table (hblanks c mem)
  obtain ⟨authority, hauthority, _⟩ := Option.map_eq_some_iff.mp here
  obtain ⟨longAuthority, hlong, _⟩ := Option.map_eq_some_iff.mp again
  have begun : rest.dropWhile separator ≠ [] := by
    intro empty
    rw [empty] at hauthority
    cases hauthority
  have start : (rest ++ blanks).dropWhile separator = rest.dropWhile separator ++ blanks := by
    rw [List.dropWhile_append, if_neg]
    rwa [List.isEmpty_iff]
  rw [start] at hlong
  by_cases short : (rest.dropWhile separator).dropWhile (fun c => !separator c) = []
  · -- the whole is authority, with a blank at its end
    have all : ∀ c ∈ rest.dropWhile separator ++ blanks, (!separator c) = true := by
      intro c mem
      rcases List.mem_append.mp mem with early | late
      · exact List.dropWhile_eq_nil_iff.mp short c early
      · rw [plain c late]
        rfl
    rw [List.takeWhile_eq_self_iff.mpr all, ← List.dropLast_append_getLast filled,
      ← List.append_assoc,
      readAuthority_blank platform _ (hblanks _ (List.getLast_mem filled))] at hlong
    cases hlong
  · rw [(readHttps_some here).2.2.1, (readHttps_some again).2.2.1, start, List.dropWhile_append,
      if_neg (by rwa [List.isEmpty_iff])]
    intro same
    have paths := congrArg String.toList same
    rw [String.toList_ofList, String.toList_ofList] at paths
    exact readPath_blanks short hblanks filled paths

end Longer

end WebUrls
