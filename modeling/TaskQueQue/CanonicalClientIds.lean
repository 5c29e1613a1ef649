import TaskQueQue.CimdClientId
import TaskQueQue.AuthorizationResponses

/-!
# Client identifiers in one spelling

A client identifier is compared as text, so an accepted one should be the only
spelling of its URL: no query or fragment, no credentials, and the path written as the
parser returns it.

Some of the checks look at the parsed URL, where an empty part leaves no trace, and
some at the text.
-/

namespace CanonicalClientIds

open UrlValues CimdNetwork CimdClientId WebUrls
open AuthorizationResponses (urlParser toUrl)
open Utf8Decoding (namesOnly)

/-- The parts of an identifier's text. -/
structure Written (value : String) (scheme authority path : List Char) : Prop where
  whole : value.toList = scheme ++ ':' :: '/' :: '/' :: (authority ++ path)
  schemeEnds : ':' ∉ scheme
  authorityEnds : '/' ∉ authority
  pathBegins : path.head? = some '/'

/-- An identifier that says what its URL says. -/
structure Canonical (value : String) (url : WebUrl) : Prop where
  unasked : '?' ∉ value.toList
  unmarked : '#' ∉ value.toList
  bounded : value.utf8ByteSize ≤ MAX_CIMD_CLIENT_ID_BYTES
  https : url.protocol = "https:"
  shape : ∃ scheme authority path, Written value scheme authority path ∧ '@' ∉ authority ∧
    url.pathname = String.ofList path ∧ path ≠ ['/'] ∧
    ∀ segment ∈ path.splitOn '/', singleDot segment = false ∧ doubleDot segment = false

/-- Visible characters that a path shows only escaped. -/
def escapedInPaths : List Char := "\"<>^`\x7b\x7d".toList

/-- No query or fragment, not even an empty one; two slashes and no more after the
scheme; no at sign before the path; and a path that needs no escapes. -/
structure Tidy (value : String) : Prop where
  unasked : '?' ∉ value.toList
  unmarked : '#' ∉ value.toList
  shape : ∃ scheme rest, value.toList = scheme ++ ':' :: '/' :: '/' :: rest ∧
    scheme.map Char.toLower = "https".toList ∧ rest.head? ≠ some '/' ∧
    '@' ∉ rest.takeWhile (· != '/') ∧ ∀ c ∈ rest.dropWhile (· != '/'), c ∉ escapedInPaths

/-! ### What is accepted -/

/-- What the checks on the text establish. -/
structure TextChecked (value : String) (path : List Char) : Prop where
  slashes : '\\' ∉ value.toList
  raw : rawPath value = some path
  root : path ≠ ['/']
  dots : hasDotSegment path = false

theorem textChecked {parseUrl : UrlParser} {isIP : IsIP} {value : String}
    {validated : ValidatedCimdClientId}
    (h : validateCimdClientId parseUrl isIP value = .ok validated) :
    ∃ path, TextChecked value path := by
  rw [validateCimdClientId] at h
  obtain ⟨shape, h⟩ := guard_ok h
  obtain ⟨_, h⟩ := guard_ok h
  cases parsed : parseUrl value with
  | none =>
    rw [parsed] at h
    cases h
  | some url =>
    rw [parsed] at h
    obtain ⟨_, h⟩ := guard_ok h
    obtain ⟨_, h⟩ := guard_ok h
    obtain ⟨_, h⟩ := guard_ok h
    obtain ⟨_, h⟩ := guard_ok h
    cases raw : rawPath value with
    | none =>
      rw [raw] at h
      cases h
    | some path =>
      rw [raw] at h
      obtain ⟨root, h⟩ := guard_ok h
      obtain ⟨dots, h⟩ := guard_ok h
      rw [not_or, not_or, not_or] at shape
      exact ⟨path, shape.2.2.1, raw, root, Bool.eq_false_iff.mpr dots⟩

theorem afterScheme_append {scheme rest : List Char} (plain : ':' ∉ scheme) :
    afterScheme (scheme ++ ':' :: '/' :: '/' :: rest) = some rest := by
  induction scheme with
  | nil => rfl
  | cons c scheme ih =>
    rw [List.mem_cons, not_or] at plain
    have other : "://".toList.isPrefixOf (c :: (scheme ++ ':' :: '/' :: '/' :: rest)) = false := by
      rw [show "://".toList = [':', '/', '/'] from rfl, List.isPrefixOf,
        beq_eq_false_iff_ne.mpr plain.1, Bool.false_and]
    rw [List.cons_append, afterScheme, other, if_neg Bool.false_ne_true, ih plain.2]

theorem dots_decoded : (∀ dot ∈ dotSpellings, decodeURIComponent dot = some ".") ∧
    ∀ first ∈ dotSpellings, ∀ second ∈ dotSpellings,
      decodeURIComponent (first ++ second) = some ".." := by
  decide +kernel

/-- The scan for dot segments misses no spelling. -/
theorem no_dots_of_scan {path : List Char} (h : hasDotSegment path = false) :
    ∀ segment ∈ path.splitOn '/', singleDot segment = false ∧ doubleDot segment = false := by
  intro segment mem
  rw [hasDotSegment, List.any_eq_false] at h
  have clear := h segment mem
  constructor
  · by_contra dot
    rw [Bool.not_eq_false, singleDot, List.contains_iff_mem] at dot
    rw [dots_decoded.1 segment dot] at clear
    refine clear ?_
    have filled : segment.isEmpty = false := by
      rw [List.isEmpty_eq_false_iff]
      rintro rfl
      revert dot
      decide
    rw [filled]
    rfl
  · by_contra dots
    rw [Bool.not_eq_false, doubleDot] at dots
    obtain ⟨first, hfirst, rest⟩ := List.any_eq_true.mp dots
    obtain ⟨second, hsecond, same⟩ := List.any_eq_true.mp rest
    rw [eq_of_beq same] at clear
    rw [dots_decoded.2 first hfirst second hsecond] at clear
    refine clear ?_
    have filled : (first ++ second).isEmpty = false := by
      rw [List.isEmpty_eq_false_iff]
      intro empty
      rw [(List.append_eq_nil_iff.mp empty).1] at hfirst
      revert hfirst
      decide
    rw [filled]
    rfl

/-- In a visible text without a query or a fragment, the path needs escapes exactly for
these characters. -/
theorem pathSet_iff {c : Char} (visible : 33 ≤ c.toNat ∧ c.toNat ≤ 126) (notMark : c ≠ '?')
    (notHash : c ≠ '#') : pathSet c = false ↔ c ∉ escapedInPaths := by
  have table : ∀ n : Fin 127, 33 ≤ (Char.ofNat n).toNat → Char.ofNat n ≠ '?' →
      Char.ofNat n ≠ '#' → (pathSet (Char.ofNat n) = false ↔ Char.ofNat n ∉ escapedInPaths) := by
    decide +kernel
  have at_c := table ⟨c.toNat, by omega⟩
  rw [Char.ofNat_toNat] at at_c
  exact at_c visible.1 notMark notHash

/-- What is known of an accepted identifier. -/
structure Known (platform : Platform) (value : String) (url : WebUrl) : Prop where
  read : parse platform value.toList = some url
  https : url.protocol = "https:"
  bounded : value.utf8ByteSize ≤ MAX_CIMD_CLIENT_ID_BYTES
  visible : ∀ c ∈ value.toList, 33 ≤ c.toNat ∧ c.toNat ≤ 126

theorem known {platform : Platform} {isIP : IsIP} {value : String}
    {validated : ValidatedCimdClientId}
    (h : validateCimdClientId (urlParser platform) isIP value = .ok validated) :
    ∃ url, Known platform value url := by
  obtain ⟨parsed, accepted, _⟩ := validateCimdClientId_ok h
  obtain ⟨url, read, rfl⟩ := Option.map_eq_some_iff.mp accepted.parsed
  refine ⟨url, read, accepted.https, accepted.bounded, fun c mem => ?_⟩
  have visible := accepted.visible
  rw [visibleText, Bool.and_eq_true, List.all_eq_true] at visible
  exact of_decide_eq_true (visible.2 c mem)

theorem cleaned_of_known {platform : Platform} {value : String} {url : WebUrl}
    (h : Known platform value url) : cleaned value.toList = value.toList := by
  refine cleaned_of_visible fun c mem => decide_eq_false ?_
  have visible := h.visible c mem
  omega

/-- Without a query or a fragment, the text after the scheme is all the parser reads. -/
theorem read_of_known {platform : Platform} {value : String} {url : WebUrl}
    (h : Known platform value url) (unasked : '?' ∉ value.toList) (unmarked : '#' ∉ value.toList)
    {scheme rest : List Char} (whole : value.toList = scheme ++ ':' :: rest)
    (plain : ':' ∉ scheme) :
    scheme.map Char.toLower = "https".toList ∧ readHttps platform rest none none = some url := by
  obtain ⟨scheme', rest', query, fragment, cut, here⟩ := cut_of_parse h.read h.https
  obtain ⟨rfl, body, hquery, hscheme⟩ := cut_no_fragment cut unmarked
  rw [cleaned_of_known h, cutAt_of_not_mem unasked] at hquery
  cases hquery
  rw [whole, cutAt_append plain] at hscheme
  cases hscheme
  exact ⟨cut.https, here⟩

theorem notSlash_eq {text : List Char} (slashes : '\\' ∉ text) :
    text.takeWhile (fun c => !separator c) = text.takeWhile (· != '/') ∧
      text.dropWhile (fun c => !separator c) = text.dropWhile (· != '/') := by
  induction text with
  | nil => exact ⟨rfl, rfl⟩
  | cons c text ih =>
    rw [List.mem_cons, not_or] at slashes
    have same : separator c = (c == '/') := by
      rw [separator, beq_eq_false_iff_ne.mpr (Ne.symm slashes.1), Bool.or_false]
    have ih := ih slashes.2
    rw [List.takeWhile_cons, List.takeWhile_cons, List.dropWhile_cons, List.dropWhile_cons, same,
      ih.1, ih.2]
    exact ⟨rfl, rfl⟩

/-- A tidy identifier is canonical. -/
theorem canonical_of_tidy {platform : Platform} {value : String} {url : WebUrl} {path : List Char}
    (h : Known platform value url) (checked : TextChecked value path) (tidy : Tidy value) :
    Canonical value url := by
  obtain ⟨scheme, rest, whole, https, single, noAt, plain⟩ := tidy.shape
  have colon : ':' ∉ scheme := by
    intro mem
    have lowered := List.mem_map_of_mem (f := Char.toLower) mem
    rw [https] at lowered
    revert lowered
    decide
  obtain ⟨_, here⟩ := read_of_known h tidy.unasked tidy.unmarked whole colon
  have among : ∀ c ∈ rest, c ∈ value.toList := by
    intro c mem
    rw [whole]
    exact List.mem_append_right _ (List.mem_cons_of_mem _ (List.mem_cons_of_mem _
      (List.mem_cons_of_mem _ mem)))
  have slashes : '\\' ∉ rest := fun mem => checked.slashes (among _ mem)
  -- the text's own view of the path is the parser's
  have raw : path = rest.dropWhile (· != '/') ∧ path ≠ [] := by
    have scanned := checked.raw
    rw [rawPath, whole, afterScheme_append colon, Option.bind_some] at scanned
    have kept : rest.takeWhile (fun c => c != '?' && c != '#') = rest := by
      rw [List.takeWhile_eq_self_iff]
      intro c mem
      rw [Bool.and_eq_true, bne_iff_ne, bne_iff_ne]
      refine ⟨?_, ?_⟩
      · rintro rfl
        exact tidy.unasked (among _ mem)
      · rintro rfl
        exact tidy.unmarked (among _ mem)
    simp only [kept] at scanned
    split at scanned
    · cases scanned
    · rename_i filled
      cases scanned
      exact ⟨rfl, filled⟩
  have dropped : ('/' :: '/' :: rest).dropWhile separator = rest := by
    rw [List.dropWhile_cons_of_pos rfl, List.dropWhile_cons_of_pos rfl, List.dropWhile_eq_self_iff]
    intro long first
    rw [separator, Bool.or_eq_true, beq_iff_eq, beq_iff_eq] at first
    rcases first with slash | back
    · exact single (by rw [List.head?_eq_getElem?, List.getElem?_eq_getElem long, slash])
    · exact slashes (back ▸ List.getElem_mem long)
  obtain ⟨text, shape⟩ : ∃ text, path = '/' :: text := by
    obtain ⟨c, text, shape⟩ := List.exists_cons_of_ne_nil raw.2
    refine ⟨text, ?_⟩
    have first := List.head?_dropWhile_not (· != '/') rest
    rw [← raw.1, shape] at first
    simp only [List.head?_cons, bne_eq_false_iff_eq] at first
    rw [shape, first]
  have inside : ∀ c ∈ path, c ∈ rest := by
    intro c mem
    rw [raw.1] at mem
    exact (List.dropWhile_sublist _).subset mem
  have safe : ∀ c ∈ path, pathSet c = false := by
    intro c mem
    have value' := among c (inside c mem)
    rw [pathSet_iff (h.visible c value') (fun same => tidy.unasked (same ▸ value'))
      fun same => tidy.unmarked (same ▸ value')]
    exact plain c (raw.1 ▸ mem)
  have noDots := no_dots_of_scan checked.dots
  refine ⟨tidy.unasked, tidy.unmarked, h.bounded, h.https, scheme, rest.takeWhile (· != '/'), path,
    ⟨?_, colon, ?_, ?_⟩, noAt, ?_, checked.root, noDots⟩
  · rw [whole, raw.1, List.takeWhile_append_dropWhile]
  · intro mem
    have other := List.mem_takeWhile_imp mem
    exact absurd other (by decide)
  · rw [shape]
    rfl
  · rw [(readHttps_some here).2.2.1, dropped, (notSlash_eq slashes).2, ← raw.1]
    rw [shape] at safe inside noDots ⊢
    rw [readPath_of_no_dots (fun c mem => safe c (List.mem_cons_of_mem _ mem))
      (fun mem => slashes (inside _ (List.mem_cons_of_mem _ mem)))]
    intro segment mem
    refine noDots segment ?_
    rw [List.splitOn_cons_eq_if_modifyHead, if_pos (beq_self_eq_true '/')]
    exact List.mem_cons_of_mem _ mem

/-- Without an authority in the text, the parser takes the authority from the path. -/
theorem path_shorter {platform : Platform} {path : List Char} {url : WebUrl}
    (here : readHttps platform ('/' :: '/' :: path) none none = some url)
    (begun : path.head? = some '/') (slashes : '\\' ∉ path) (root : path ≠ ['/']) :
    url.pathname ≠ String.ofList path := by
  intro same
  rw [(readHttps_some here).2.2.1] at same
  have paths := congrArg String.toList same
  rw [String.toList_ofList, String.toList_ofList] at paths
  obtain ⟨text, rfl⟩ := List.head?_eq_some_iff.mp begun
  have start : ('/' :: '/' :: '/' :: text).dropWhile separator = text.dropWhile separator := by
    rw [List.dropWhile_cons_of_pos rfl, List.dropWhile_cons_of_pos rfl,
      List.dropWhile_cons_of_pos rfl]
  rw [start] at paths
  have safe : ∀ c ∈ '/' :: text, pathSet c = false := by
    rw [← paths]
    exact readPath_chars _
  obtain ⟨authority, hauthority, _⟩ := Option.map_eq_some_iff.mp here
  rw [start] at hauthority
  have short : ((text.dropWhile separator).dropWhile fun c => !separator c).length <
      (text.dropWhile separator).length := by
    cases shape : text.dropWhile separator with
    | nil =>
      rw [shape] at hauthority
      cases hauthority
    | cons c rest =>
      have first := List.head?_dropWhile_not separator text
      rw [shape] at first
      have other : separator c = false := first
      rw [List.dropWhile_cons, other]
      exact Nat.lt_succ_of_le (List.dropWhile_sublist _).length_le
  have within := (List.dropWhile_sublist (l := text) separator).length_le
  have lengths := congrArg List.length paths
  rw [List.length_cons] at lengths
  cases shape : (text.dropWhile separator).dropWhile fun c => !separator c with
  | nil =>
    rw [shape] at paths
    exact root paths.symm
  | cons c rest =>
    have sub : ∀ d ∈ c :: rest, d ∈ text := by
      intro d mem
      rw [← shape] at mem
      exact (List.dropWhile_sublist _).subset ((List.dropWhile_sublist _).subset mem)
    have first := List.head?_dropWhile_not (fun c => !separator c) (text.dropWhile separator)
    rw [shape] at first
    have slash : c = '/' := by
      have stops : (!separator c) = false := first
      rw [Bool.not_eq_false', separator, Bool.or_eq_true, beq_iff_eq, beq_iff_eq] at stops
      refine stops.resolve_right ?_
      rintro rfl
      exact slashes (List.mem_cons_of_mem _ (sub _ List.mem_cons_self))
    subst slash
    rw [shape, List.length_cons] at short
    rw [shape] at lengths
    have bound := length_readPath
      (fun d mem => safe d (List.mem_cons_of_mem _ (sub d (List.mem_cons_of_mem _ mem))))
      (fun mem => slashes (List.mem_cons_of_mem _ (sub _ (List.mem_cons_of_mem _ mem))))
    omega

/-- A canonical identifier is tidy. -/
theorem tidy_of_canonical {platform : Platform} {value : String} {url : WebUrl} {raw : List Char}
    (h : Known platform value url) (checked : TextChecked value raw)
    (canonical : Canonical value url) : Tidy value := by
  obtain ⟨scheme, authority, path, written, noAt, pathname, root, _⟩ := canonical.shape
  obtain ⟨https, here⟩ := read_of_known h canonical.unasked canonical.unmarked written.whole
    written.schemeEnds
  obtain ⟨text, hpath⟩ := List.head?_eq_some_iff.mp written.pathBegins
  have passed : ∀ c ∈ authority, (c != '/') = true := by
    intro c mem
    rw [bne_iff_ne]
    rintro rfl
    exact written.authorityEnds mem
  have before : (authority ++ path).takeWhile (· != '/') = authority := by
    rw [List.takeWhile_append_of_pos passed, hpath, List.takeWhile_cons_of_neg (by decide),
      List.append_nil]
  have after : (authority ++ path).dropWhile (· != '/') = path := by
    rw [List.dropWhile_append_of_pos passed, hpath, List.dropWhile_cons_of_neg (by decide)]
  have among : ∀ c ∈ path, c ∈ value.toList := by
    intro c mem
    rw [written.whole]
    exact List.mem_append_right _ (List.mem_cons_of_mem _ (List.mem_cons_of_mem _
      (List.mem_cons_of_mem _ (List.mem_append_right _ mem))))
  refine ⟨canonical.unasked, canonical.unmarked, scheme, authority ++ path, written.whole, https,
    ?_, by rwa [before], ?_⟩
  · cases authority with
    | nil =>
      intro _
      exact path_shorter here written.pathBegins (fun mem => checked.slashes (among _ mem)) root
        pathname
    | cons c authority =>
      intro slash
      exact written.authorityEnds (Option.some.inj slash ▸ List.mem_cons_self)
  · rw [after]
    intro c mem
    have shown : pathSet c = false := by
      rw [(readHttps_some here).2.2.1] at pathname
      have paths := congrArg String.toList pathname
      rw [String.toList_ofList, String.toList_ofList] at paths
      rw [← paths] at mem
      exact readPath_chars _ c mem
    have value' := among c mem
    rwa [pathSet_iff (h.visible c value') (fun same => canonical.unasked (same ▸ value'))
      fun same => canonical.unmarked (same ▸ value')] at shown

/-- An accepted identifier is canonical exactly if its text is tidy. -/
theorem accepted_canonical_iff {platform : Platform} {isIP : IsIP} {value : String}
    {validated : ValidatedCimdClientId}
    (h : validateCimdClientId (urlParser platform) isIP value = .ok validated) :
    (∃ url, parse platform value.toList = some url ∧ Canonical value url) ↔ Tidy value := by
  obtain ⟨url, hknown⟩ := known h
  obtain ⟨path, checked⟩ := textChecked h
  constructor
  · rintro ⟨url', read, canonical⟩
    rw [hknown.read] at read
    cases read
    exact tidy_of_canonical hknown checked canonical
  · intro tidy
    exact ⟨url, hknown.read, canonical_of_tidy hknown checked tidy⟩

/-! ### Two identifiers -/

/-- No name is an address. -/
def noAddresses : IsIP := fun _ => none

theorem accepted_of_value {value : String}
    (h : ((validateCimdClientId (urlParser namesOnly) noAddresses value).map
      ValidatedCimdClientId.value) = .ok value) :
    ∃ validated, validateCimdClientId (urlParser namesOnly) noAddresses value = .ok validated := by
  cases checked : validateCimdClientId (urlParser namesOnly) noAddresses value with
  | error error =>
    rw [checked] at h
    cases h
  | ok validated => exact ⟨validated, rfl⟩

theorem accepted_canonical_iff_editor :
    (∃ url, parse namesOnly "https://editor.example/client".toList = some url ∧
      Canonical "https://editor.example/client" url) ↔ Tidy "https://editor.example/client" := by
  have read : ((validateCimdClientId (urlParser namesOnly) noAddresses
      "https://editor.example/client").map ValidatedCimdClientId.value) =
        .ok "https://editor.example/client" := by
    decide +kernel
  obtain ⟨validated, accepted⟩ := accepted_of_value read
  exact accepted_canonical_iff accepted

/-- An empty query leaves no trace in the parsed URL. -/
theorem empty_query_accepted :
    (∃ validated, validateCimdClientId (urlParser namesOnly) noAddresses
      "https://editor.example/client?" = .ok validated) ∧
      '?' ∈ "https://editor.example/client?".toList ∧
      ¬ ∃ url, parse namesOnly "https://editor.example/client?".toList = some url ∧
        Canonical "https://editor.example/client?" url := by
  refine ⟨accepted_of_value (by decide +kernel), by decide, ?_⟩
  rintro ⟨_, _, canonical⟩
  exact canonical.unasked (by decide)

end CanonicalClientIds
