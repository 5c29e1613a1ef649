import TaskQueQue.OAuthRedirects
import TaskQueQue.RequestRendering
import TaskQueQue.Utf8Decoding

/-!
# What a client reads from a redirect

The answer to an authorization request is spliced into the registered redirect URI
by hand. Parsed as the client's browser does, it should name the same place, with
the registered parameters first and the answer's after them.

The splice looks at the last character and asks whether there is a question mark.
Four kinds of URI that the builders accept are not served by that.
-/

namespace AuthorizationResponses

open UrlValues OAuthRequests OAuthRedirects WebUrls
open Utf8Decoding (namesOnly)
open GatewayValues (asciiAlphanumeric)
open CapabilityAuth (encode)
open CimdDocument (plainHttps)

def toUrl (url : WebUrl) : Url where
  protocol := url.protocol
  username := url.username
  password := url.password
  hostname := url.hostname
  port := url.port
  search := url.search
  hash := url.hash
  searchParams := url.searchParams

/-- `new URL(text)`, as the standard has it. -/
def urlParser (platform : Platform) : UrlParser := fun text => (parse platform text.toList).map toUrl

inductive Answer
  | success (code : String)
  | failure (error : String) (description : Option String)
deriving DecidableEq

def Answer.params : Answer → List (String × String)
  | .success code => [("code", code)]
  | .failure error description =>
    ("error", error) :: description.toList.map fun text => ("error_description", text)

def build (parseUrl : UrlParser) (request : ValidatedOAuthAuthorizationRequest) (issuer : String) :
    Answer → Except OAuthAuthorizationResponseBuildError String
  | .success code => buildOAuthAuthorizationSuccessRedirect parseUrl request issuer code
  | .failure error description =>
    buildOAuthAuthorizationErrorRedirect parseUrl request issuer error description

/-- What the answer appends to the query. -/
def responseParams (request : ValidatedOAuthAuthorizationRequest) (issuer : String)
    (answer : Answer) : List (String × String) :=
  answer.params ++ commonResponseParams request issuer

/-- The location is the registered URI, with the answer after its own parameters. -/
def Faithful (platform : Platform) (redirectUri : String) (params : List (String × String))
    (location : String) : Prop :=
  ∃ registered returned, parse platform redirectUri.toList = some registered ∧
    parse platform location.toList = some returned ∧ SamePlace returned registered ∧
    returned.hash = "" ∧ returned.searchParams = registered.searchParams ++ params

/-- A URI that the response can be spliced into. -/
structure Spliceable (redirectUri : String) : Prop where
  unmarked : '#' ∉ redirectUri.toList
  /-- What the parser strips at the end is only tabs and line ends. -/
  unpadded : trailing redirectUri.toList = []
  /-- A question mark at the end is the only one. -/
  question : ∀ stem, redirectUri.toList = stem ++ ['?'] → '?' ∉ stem
  /-- An ampersand at the end stands in a query. -/
  ampersand : ∀ stem, redirectUri.toList = stem ++ ['&'] → '?' ∈ stem

/-! ### Form encoding and its inverse -/

theorem byte_cases {P : UInt8 → Prop}
    (table : ∀ high low : Fin 16, P (UInt8.ofNat (high * 16 + low))) (byte : UInt8) : P byte := by
  have small := byte.toNat_lt
  have at_byte := table ⟨byte.toNat / 16, by omega⟩ ⟨byte.toNat % 16, by omega⟩
  simp only at at_byte
  rwa [show byte.toNat / 16 * 16 + byte.toNat % 16 = byte.toNat by omega, UInt8.ofNat_toNat] at at_byte

theorem formByte_chars (byte : UInt8) : ∀ c ∈ formByte byte,
    blank c = false ∧ specialQuerySet c = false ∧ c ≠ '?' ∧ c ≠ '&' ∧ c ≠ '=' := by
  have all : (formByte byte).all (fun c => decide (blank c = false ∧ specialQuerySet c = false ∧
      c ≠ '?' ∧ c ≠ '&' ∧ c ≠ '=')) = true := by
    revert byte
    refine byte_cases ?_
    decide +kernel
  exact fun c mem => of_decide_eq_true (List.all_eq_true.mp all c mem)

theorem formByte_shape (byte : UInt8) : formByte byte = ['+'] ∧ byte = 32 ∨
    (formByte byte = [Char.ofNat byte.toNat] ∧ Char.ofNat byte.toNat ≠ '%' ∧
      Char.ofNat byte.toNat ≠ '+' ∧ String.utf8EncodeChar (Char.ofNat byte.toNat) = [byte]) ∨
    formByte byte = ['%', upperHex (byte.toNat / 16), upperHex (byte.toNat % 16)] ∧
      JsonStrings.hexValue? (upperHex (byte.toNat / 16)) = some (byte.toNat / 16) ∧
      JsonStrings.hexValue? (upperHex (byte.toNat % 16)) = some (byte.toNat % 16) := by
  revert byte
  refine byte_cases ?_
  decide +kernel

theorem formBytes_formByte (byte : UInt8) (rest : List Char) :
    formBytes (formByte byte ++ rest) = byte :: formBytes rest := by
  rcases formByte_shape byte with ⟨shape, rfl⟩ | ⟨shape, notSign, notPlus, own⟩ | ⟨shape, high, low⟩
  · rw [shape, List.singleton_append, formBytes_plain (by decide), if_pos rfl]
    rfl
  · rw [shape, List.singleton_append, formBytes_plain notSign, if_neg notPlus, own]
    rfl
  · rw [shape, List.cons_append, List.cons_append, List.cons_append, List.nil_append,
      formBytes_escape high low,
      show byte.toNat / 16 * 16 + byte.toNat % 16 = byte.toNat by omega, UInt8.ofNat_toNat]

theorem formBytes_formBytes (bytes : List UInt8) : formBytes (bytes.flatMap formByte) = bytes := by
  induction bytes with
  | nil => rfl
  | cons byte bytes ih => rw [List.flatMap_cons, formBytes_formByte, ih]

theorem encode_toList (value : String) : encode value = utf8 value.toList := by
  have chars := RequestRendering.encode_ofList value.toList
  rwa [String.ofList_toList] at chars

/-- A text written in a form is read back. -/
theorem formText_formText (platform : Platform) (value : String) :
    WebUrls.formText platform (OAuthRedirects.formText value).toList = value := by
  rw [WebUrls.formText, OAuthRedirects.formText, String.toList_ofList, formBytes_formBytes,
    encode_toList, platform.decode_utf8, String.ofList_toList]

theorem formText_chars (value : String) : ∀ c ∈ (OAuthRedirects.formText value).toList,
    blank c = false ∧ specialQuerySet c = false ∧ c ≠ '?' ∧ c ≠ '&' ∧ c ≠ '=' := by
  intro c mem
  rw [OAuthRedirects.formText, String.toList_ofList] at mem
  obtain ⟨byte, _, inside⟩ := List.mem_flatMap.mp mem
  exact formByte_chars byte c inside

/-- One parameter in a form. -/
def pairText (param : String × String) : List Char :=
  (OAuthRedirects.formText param.1).toList ++ '=' :: (OAuthRedirects.formText param.2).toList

theorem formEncode_single (param : String × String) : (formEncode [param]).toList = pairText param := by
  rw [formEncode, List.map_singleton, String.intercalate_singleton, String.toList_append,
    String.toList_append, List.append_assoc]
  rfl

theorem formEncode_cons (param next : String × String) (params : List (String × String)) :
    (formEncode (param :: next :: params)).toList =
      pairText param ++ '&' :: (formEncode (next :: params)).toList := by
  rw [formEncode, List.map_cons, List.map_cons, String.intercalate_cons_cons, String.toList_append,
    String.toList_append, String.toList_append, String.toList_append, List.append_assoc,
    List.append_assoc, List.append_assoc, pairText, List.append_assoc, formEncode, List.map_cons]
  rfl

theorem pairText_chars (param : String × String) : ∀ c ∈ pairText param,
    blank c = false ∧ specialQuerySet c = false ∧ c ≠ '?' ∧ c ≠ '&' := by
  intro c mem
  rw [pairText, List.mem_append, List.mem_cons] at mem
  rcases mem with mem | rfl | mem
  · obtain ⟨shown, plain, notMark, notAnd, _⟩ := formText_chars _ c mem
    exact ⟨shown, plain, notMark, notAnd⟩
  · decide
  · obtain ⟨shown, plain, notMark, notAnd, _⟩ := formText_chars _ c mem
    exact ⟨shown, plain, notMark, notAnd⟩

theorem formEncode_chars (params : List (String × String)) : ∀ c ∈ (formEncode params).toList,
    blank c = false ∧ specialQuerySet c = false ∧ c ≠ '?' := by
  induction params with
  | nil =>
    intro c mem
    cases mem
  | cons param params ih =>
    intro c mem
    have own : ∀ c ∈ pairText param, blank c = false ∧ specialQuerySet c = false ∧ c ≠ '?' := by
      intro c mem
      obtain ⟨shown, plain, notMark, _⟩ := pairText_chars param c mem
      exact ⟨shown, plain, notMark⟩
    cases params with
    | nil =>
      rw [formEncode_single] at mem
      exact own c mem
    | cons next params =>
      rw [formEncode_cons, List.mem_append, List.mem_cons] at mem
      rcases mem with mem | rfl | mem
      · exact own c mem
      · decide
      · exact ih c mem

theorem formPair_pairText (platform : Platform) (param : String × String) :
    formPair platform (pairText param) = param := by
  have absent : '=' ∉ (OAuthRedirects.formText param.1).toList :=
    fun mem => (formText_chars _ _ mem).2.2.2.2 rfl
  rw [formPair, pairText, cutAt_append absent]
  exact Prod.ext (formText_formText platform param.1) (formText_formText platform param.2)

theorem formParams_pairText (platform : Platform) (param : String × String) :
    formParams platform (pairText param) = [param] := by
  have filled : pairText param ≠ [] := fun empty =>
    List.cons_ne_nil _ _ (List.append_eq_nil_iff.mp empty).2
  rw [formParams, formPieces_single filled fun mem => (pairText_chars param _ mem).2.2.2 rfl,
    List.map_singleton, formPair_pairText]

/-- A form is read back. -/
theorem formParams_formEncode (platform : Platform) (params : List (String × String)) :
    formParams platform (formEncode params).toList = params := by
  induction params with
  | nil => rfl
  | cons param params ih =>
    cases params with
    | nil => rw [formEncode_single, formParams_pairText]
    | cons next params =>
      rw [formEncode_cons, formParams_append, formParams_pairText, ih, List.singleton_append]

/-! ### What the builders accept -/

/-- What is known of a built redirect. -/
structure Built (platform : Platform) (request : ValidatedOAuthAuthorizationRequest)
    (issuer : String) (answer : Answer) (location : String) : Prop where
  registered : ∃ url, parse platform request.redirectUri.toList = some url ∧
    url.protocol = "https:" ∧ url.hash = ""
  spliced : location = appendResponseQuery request.redirectUri (responseParams request issuer answer)

theorem registered_of_prepare {platform : Platform} {request : ValidatedOAuthAuthorizationRequest}
    {issuer issuer' : String} (h : prepareRedirect (urlParser platform) request issuer = .ok issuer') :
    issuer' = issuer ∧ ∃ url, parse platform request.redirectUri.toList = some url ∧
      url.protocol = "https:" ∧ url.hash = "" := by
  rw [prepareRedirect] at h
  cases parsed : parseRedirectUri (urlParser platform) request.redirectUri with
  | none =>
    rw [parsed] at h
    cases h
  | some redirect =>
    rw [parsed] at h
    obtain ⟨_, h⟩ := guard_ok h
    obtain ⟨_, h⟩ := guard_ok h
    cases named : normalizeIssuer (urlParser platform) issuer with
    | none =>
      rw [named] at h
      cases h
    | some issuer'' =>
      rw [named] at h
      cases h
      refine ⟨normalizeIssuer_some named, ?_⟩
      rw [parseRedirectUri] at parsed
      split at parsed
      · cases parsed
      · obtain ⟨known, plain⟩ := Option.filter_eq_some_iff.mp parsed
        obtain ⟨url, read, rfl⟩ := Option.map_eq_some_iff.mp known
        rw [plainHttps, Bool.and_eq_true, Bool.and_eq_true, Bool.and_eq_true, beq_iff_eq,
          beq_iff_eq, beq_iff_eq, beq_iff_eq] at plain
        exact ⟨url, read, plain.1.1.1, plain.2⟩

theorem built_of_build {platform : Platform} {request : ValidatedOAuthAuthorizationRequest}
    {issuer location : String} {answer : Answer}
    (h : build (urlParser platform) request issuer answer = .ok location) :
    Built platform request issuer answer location := by
  cases answer with
  | success code =>
    rw [build, buildOAuthAuthorizationSuccessRedirect] at h
    obtain ⟨_, h⟩ := guard_ok h
    cases prepared : prepareRedirect (urlParser platform) request issuer with
    | error error =>
      rw [prepared] at h
      cases h
    | ok issuer' =>
      rw [prepared] at h
      cases h
      obtain ⟨rfl, registered⟩ := registered_of_prepare prepared
      exact ⟨registered, rfl⟩
  | failure error description =>
    rw [build, buildOAuthAuthorizationErrorRedirect] at h
    obtain ⟨_, h⟩ := guard_ok h
    cases prepared : prepareRedirect (urlParser platform) request issuer with
    | error error =>
      rw [prepared] at h
      cases h
    | ok issuer' =>
      rw [prepared] at h
      cases h
      obtain ⟨rfl, registered⟩ := registered_of_prepare prepared
      exact ⟨registered, rfl⟩

/-! ### Different answers -/

/-- The parameters of an answer name its parts. -/
theorem responseParams_injective {request request' : ValidatedOAuthAuthorizationRequest}
    {issuer issuer' : String} {answer answer' : Answer}
    (same : responseParams request' issuer' answer' = responseParams request issuer answer) :
    answer' = answer ∧ request'.state = request.state ∧ issuer' = issuer := by
  unfold responseParams commonResponseParams at same
  generalize request.state = state at same ⊢
  generalize request'.state = state' at same ⊢
  cases answer with
  | success code =>
    cases answer' with
    | success code' => cases state <;> cases state' <;> simp_all [Answer.params]
    | failure error description => simp [Answer.params] at same
  | failure error description =>
    cases answer' with
    | success code' => simp [Answer.params] at same
    | failure error' description' =>
      cases description <;> cases description' <;> cases state <;> cases state' <;>
        simp_all [Answer.params]

/-- Locations for one redirect URI differ where the answers do. -/
theorem answer_of_location {platform : Platform}
    {request request' : ValidatedOAuthAuthorizationRequest} {issuer issuer' location : String}
    {answer answer' : Answer} (first : Built platform request issuer answer location)
    (second : Built platform request' issuer' answer' location)
    (uri : request'.redirectUri = request.redirectUri) :
    answer' = answer ∧ request'.state = request.state ∧ issuer' = issuer := by
  have same := second.spliced.symm.trans first.spliced
  rw [appendResponseQuery, appendResponseQuery, uri] at same
  have chars := congrArg String.toList same
  rw [String.toList_append, String.toList_append, String.toList_append, String.toList_append]
    at chars
  have forms := List.append_cancel_left chars
  have params := congrArg (formParams platform) forms
  rw [formParams_formEncode, formParams_formEncode] at params
  exact responseParams_injective params

/-! ### The splice -/

theorem endsWith_iff (value : String) (c : Char) :
    endsWith value (String.ofList [c]) = true ↔ ∃ stem, value.toList = stem ++ [c] := by
  rw [endsWith, String.toList_ofList, List.isSuffixOf_iff_suffix]
  exact ⟨fun ⟨stem, whole⟩ => ⟨stem, whole.symm⟩, fun ⟨stem, whole⟩ => ⟨stem, whole.symm⟩⟩

/-- The separator, by cases. -/
theorem appendResponseQuery_cases (redirectUri : String) (params : List (String × String)) :
    ((∃ stem c, (c = '?' ∨ c = '&') ∧ redirectUri.toList = stem ++ [c]) ∧
      (appendResponseQuery redirectUri params).toList =
        redirectUri.toList ++ (formEncode params).toList) ∨
    ((∀ stem, redirectUri.toList ≠ stem ++ ['?'] ∧ redirectUri.toList ≠ stem ++ ['&']) ∧
      (appendResponseQuery redirectUri params).toList = redirectUri.toList ++
        (if '?' ∈ redirectUri.toList then '&' else '?') :: (formEncode params).toList) := by
  have mark := endsWith_iff redirectUri '?'
  have ampersand := endsWith_iff redirectUri '&'
  rw [appendResponseQuery]
  by_cases ends : (endsWith redirectUri "?" || endsWith redirectUri "&") = true
  · left
    rw [if_pos ends, String.toList_append, String.toList_append]
    refine ⟨?_, by rw [String.toList_empty, List.append_nil]⟩
    rcases Bool.or_eq_true_iff.mp ends with h | h
    · obtain ⟨stem, shape⟩ := mark.mp h
      exact ⟨stem, '?', Or.inl rfl, shape⟩
    · obtain ⟨stem, shape⟩ := ampersand.mp h
      exact ⟨stem, '&', Or.inr rfl, shape⟩
  · right
    rw [if_neg ends, String.toList_append, String.toList_append, List.append_assoc]
    rw [Bool.or_eq_true, not_or] at ends
    refine ⟨fun stem => ⟨fun shape => ends.1 (mark.mpr ⟨stem, shape⟩),
      fun shape => ends.2 (ampersand.mpr ⟨stem, shape⟩)⟩, ?_⟩
    by_cases asked : '?' ∈ redirectUri.toList
    · rw [if_pos (List.contains_iff_mem.mpr asked), if_pos asked]
      rfl
    · rw [if_neg (fun h => asked (List.contains_iff_mem.mp h)), if_neg asked]
      rfl

/-- A form as the tail of a text. -/
structure FormTail (form : List Char) : Prop where
  filled : form ≠ []
  visible : ∀ c ∈ form, blank c = false
  unmarked : '#' ∉ form
  unasked : '?' ∉ form
  plain : ∀ c ∈ form, specialQuerySet c = false

theorem formTail {params : List (String × String)} (some' : params ≠ []) :
    FormTail (formEncode params).toList := by
  have chars := formEncode_chars params
  refine ⟨?_, fun c mem => (chars c mem).1, fun mem => ?_, fun mem => (chars _ mem).2.2 rfl,
    fun c mem => (chars c mem).2.1⟩
  · obtain ⟨param, rest, rfl⟩ := List.exists_cons_of_ne_nil some'
    have filled : pairText param ≠ [] := fun empty =>
      List.cons_ne_nil _ _ (List.append_eq_nil_iff.mp empty).2
    cases rest with
    | nil => rwa [formEncode_single]
    | cons next rest =>
      rw [formEncode_cons]
      exact fun empty => filled (List.append_eq_nil_iff.mp empty).1
  · have inSet := (chars _ mem).2.1
    cases inSet

/-- In a query the form stays as it is. -/
theorem percentEncode_joined {form : List Char} (tail : FormTail form) {c : Char}
    (hc : specialQuerySet c = false) (query : List Char) :
    percentEncode specialQuerySet (query ++ c :: form) =
      percentEncode specialQuerySet query ++ c :: form := by
  rw [percentEncode_append, percentEncode_of_plain (List.forall_mem_cons.mpr ⟨hc, tail.plain⟩)]

theorem responseParams_filled (request : ValidatedOAuthAuthorizationRequest) (issuer : String)
    (answer : Answer) : responseParams request issuer answer ≠ [] := by
  cases answer <;> exact List.cons_ne_nil _ _

/-- A character that a text ends in is kept, and ends the cleaned text. -/
theorem cleaned_concat {stem : List Char} {c : Char} (shown : ∃ d ∈ stem, blank d = false)
    (visible : blank c = false) :
    cleaned (stem ++ [c]) = cleaned stem ++ trailing stem ++ [c] := by
  rw [cleaned_append shown (List.forall_mem_singleton.mpr visible) (List.cons_ne_nil _ _),
    List.append_assoc]

theorem trailing_concat (stem : List Char) {c : Char} (visible : blank c = false) :
    trailing (stem ++ [c]) = [] := by
  rw [trailing, List.reverse_append, List.reverse_singleton, List.singleton_append,
    List.takeWhile_cons, if_neg (by rw [visible]; decide)]
  rfl

/-! ### URIs with a query -/

section Query

variable {platform : Platform} {request : ValidatedOAuthAuthorizationRequest}
  {issuer location : String} {answer : Answer} {url : WebUrl}

/-- What the location of a URI with a query is read as. -/
theorem read_of_asked (read : parse platform request.redirectUri.toList = some url)
    (https : url.protocol = "https:") (unmarked : '#' ∉ request.redirectUri.toList)
    (asked : '?' ∈ request.redirectUri.toList) {tail : List Char}
    (shape : location.toList = request.redirectUri.toList ++ tail)
    (visible : ∀ c ∈ tail, blank c = false) (filled : tail ≠ []) (plain : '#' ∉ tail)
    (params : List (String × String)) {before query : List Char}
    (cut : cleaned request.redirectUri.toList = before ++ '?' :: query) (first : '?' ∉ before) :
    Faithful platform request.redirectUri params location ↔
      formParams platform (percentEncode specialQuerySet
          (query ++ (trailing request.redirectUri.toList ++ tail))) =
        formParams platform (percentEncode specialQuerySet query) ++ params := by
  obtain ⟨before', query', cut', first', own, longer⟩ := parse_query read https unmarked asked
  have same : (before, some query) = (before', some query') := by
    rw [← cutAt_append first, ← cutAt_append first', ← cut, ← cut']
  cases same
  obtain ⟨returned, again, place, noHash, others⟩ := longer tail visible filled plain
  rw [← shape] at again
  rw [← others, ← own]
  constructor
  · rintro ⟨registered, returned', hregistered, hreturned, _, _, hparams⟩
    rw [read] at hregistered
    cases hregistered
    rw [again] at hreturned
    cases hreturned
    exact hparams
  · intro hparams
    exact ⟨url, returned, read, again, place, noHash, hparams⟩

end Query

/-- A query that ends in a question mark runs into the form: one piece fewer. -/
theorem length_formPieces_joined (query form : List Char) (begun : ∃ d ∈ form.head?, d ≠ '&') :
    (formPieces (query ++ '?' :: form)).length + 1 =
      (formPieces (query ++ ['?'])).length + (formPieces form).length := by
  have single : ∀ piece : List Char, '&' ∉ piece →
      (formPieces (piece ++ '?' :: form)).length + 1 =
        (formPieces (piece ++ ['?'])).length + (formPieces form).length := by
    intro piece absent
    have filled : ∀ more, piece ++ '?' :: more ≠ [] := fun more empty =>
      List.cons_ne_nil _ _ (List.append_eq_nil_iff.mp empty).2
    have plain : ∀ more, '&' ∉ more → '&' ∉ piece ++ '?' :: more := by
      intro more others mem
      rcases List.mem_append.mp mem with early | late
      · exact absent early
      · exact (List.mem_cons.mp late).elim (by decide) others
    rw [formPieces_single (filled []) (plain [] List.not_mem_nil), List.length_singleton]
    rcases cutAt_cases '&' form with ⟨none, _⟩ | ⟨first, rest, rfl, none, _⟩
    · have some' : form ≠ [] := by
        rintro rfl
        obtain ⟨_, mem, _⟩ := begun
        cases mem
      rw [formPieces_single (filled form) (plain form none), formPieces_single some' none]
      rfl
    · have some' : first ≠ [] := by
        rintro rfl
        obtain ⟨d, mem, other⟩ := begun
        exact other (Option.some.inj mem).symm
      have shape : piece ++ '?' :: (first ++ '&' :: rest) = (piece ++ '?' :: first) ++ '&' :: rest := by
        rw [List.append_assoc, List.cons_append]
      rw [shape, formPieces_append, formPieces_append, formPieces_single (filled first) (plain first none),
        formPieces_single some' none, List.length_append, List.length_append, List.length_singleton,
        List.length_singleton]
      omega
  rcases last_cases (· == '&') query with none | ⟨before, c, after, rfl, hit, none⟩
  · exact single query fun mem => absurd (none _ mem) (by decide)
  · have last := single after fun mem => absurd (none _ mem) (by decide)
    rw [eq_of_beq hit, List.append_assoc, List.append_assoc, List.cons_append, List.cons_append,
      formPieces_append, formPieces_append, List.length_append, List.length_append]
    omega

theorem formEncode_begun {params : List (String × String)} (some' : params ≠ []) :
    ∃ d ∈ (formEncode params).toList.head?, d ≠ '&' := by
  obtain ⟨param, rest, rfl⟩ := List.exists_cons_of_ne_nil some'
  obtain ⟨d, others, shape⟩ : ∃ d others, pairText param = d :: others := by
    apply List.exists_cons_of_ne_nil
    exact fun empty => List.cons_ne_nil _ _ (List.append_eq_nil_iff.mp empty).2
  have other : d ≠ '&' := (pairText_chars param d (by rw [shape]; exact List.mem_cons_self)).2.2.2
  cases rest with
  | nil =>
    rw [formEncode_single, shape]
    exact ⟨d, rfl, other⟩
  | cons next rest =>
    rw [formEncode_cons, shape]
    exact ⟨d, rfl, other⟩

/-! ### Results -/

section Results

variable {platform : Platform} {request : ValidatedOAuthAuthorizationRequest}
  {issuer location : String} {answer : Answer}

/-- A URI with a query serves if nothing is stripped at its end and a question mark there
is the only one. -/
theorem faithful_of_asked (built : Built platform request issuer answer location)
    (unmarked : '#' ∉ request.redirectUri.toList) (asked : '?' ∈ request.redirectUri.toList) :
    Faithful platform request.redirectUri (responseParams request issuer answer) location ↔
      trailing request.redirectUri.toList = [] ∧
        ∀ stem, request.redirectUri.toList = stem ++ ['?'] → '?' ∉ stem := by
  obtain ⟨url, read, https, noHash⟩ := built.registered
  obtain ⟨before, query, cut, first, _⟩ := parse_query read https unmarked asked
  have some' := responseParams_filled request issuer answer
  have tail := formTail some'
  obtain ⟨_, _, _, _, hcut, _⟩ := cut_of_parse read https
  have colon := colon_of_cut hcut
  rcases appendResponseQuery_cases request.redirectUri (responseParams request issuer answer) with
    ⟨⟨stem, last, mark, ends⟩, whole⟩ | ⟨other, whole⟩
  · have visible : blank last = false := by
      rcases mark with rfl | rfl <;> rfl
    have shown : ∃ c ∈ stem, blank c = false := by
      rw [ends, List.mem_append, List.mem_singleton] at colon
      refine ⟨':', colon.resolve_right fun same => ?_, rfl⟩
      rcases mark with rfl | rfl <;> cases same
    have bare : trailing request.redirectUri.toList = [] := by rw [ends, trailing_concat _ visible]
    have cleanedEnd := cleaned_concat shown visible
    rw [← ends, cut] at cleanedEnd
    rw [read_of_asked read https unmarked asked (built.spliced ▸ whole) tail.visible tail.filled
      tail.unmarked _ cut first, bare, List.nil_append]
    -- the query is what the stem's was, and the last character
    have split : ∀ {start more : List Char}, '?' ∉ start →
        cleaned stem ++ trailing stem = start ++ '?' :: more → query = more ++ [last] := by
      intro start more none shape
      rw [shape, List.append_assoc, List.cons_append] at cleanedEnd
      have cuts := congrArg (cutAt '?') cleanedEnd
      rw [cutAt_append first, cutAt_append none, Prod.mk.injEq, Option.some.injEq] at cuts
      exact cuts.2
    rcases cutAt_cases '?' (cleaned stem ++ trailing stem) with
      ⟨none, _⟩ | ⟨start, more, shape, none, _⟩
    · have unasked : '?' ∉ stem := fun mem =>
        none (List.mem_append_left _ ((mem_cleaned_iff rfl).mpr mem))
      rcases mark with rfl | rfl
      · have cuts := congrArg (cutAt '?') cleanedEnd
        rw [cutAt_append first, cutAt_append none, Prod.mk.injEq, Option.some.injEq] at cuts
        rw [cuts.2, List.nil_append, percentEncode_of_plain tail.plain, formParams_formEncode]
        refine ⟨fun _ => ⟨rfl, fun stem' ends' => ?_⟩, fun _ => rfl⟩
        rw [ends] at ends'
        rwa [← List.append_cancel_right ends']
      · rw [ends, List.mem_append, List.mem_singleton] at asked
        exact absurd asked (not_or.mpr ⟨unasked, by decide⟩)
    · have asked' : '?' ∈ stem := by
        have mem : '?' ∈ cleaned stem ++ trailing stem := by
          rw [shape]
          exact List.mem_append_right _ List.mem_cons_self
        rcases List.mem_append.mp mem with early | late
        · exact mem_cleaned early
        · exact absurd late (trailing_apart rfl)
      rw [split none shape, List.append_assoc, List.singleton_append]
      rcases mark with rfl | rfl
      · rw [percentEncode_joined tail rfl, percentEncode_append]
        constructor
        · intro same
          have pieces := length_formPieces_joined (percentEncode specialQuerySet more) _
            (formEncode_begun some')
          have lengths := congrArg List.length same
          rw [List.length_append, formParams, List.length_map, formParams, List.length_map] at lengths
          have count := congrArg List.length (formParams_formEncode platform
            (responseParams request issuer answer))
          rw [formParams, List.length_map] at count
          have single : percentEncode specialQuerySet ['?'] = ['?'] := by decide
          rw [single] at lengths
          omega
        · rintro ⟨_, question⟩
          exact absurd asked' (question stem ends)
      · rw [percentEncode_joined tail rfl, percentEncode_append]
        have single : percentEncode specialQuerySet ['&'] = ['&'] := by decide
        rw [single, formParams_append, formParams_formEncode, formParams_append]
        refine ⟨fun _ => ⟨rfl, fun stem' ends' => ?_⟩, fun _ => ?_⟩
        · rw [ends] at ends'
          have lasts := (List.append_inj' ends' rfl).2
          cases lasts
        · rw [show formParams platform [] = [] from rfl, List.append_nil]
  · rw [if_pos asked] at whole
    rw [read_of_asked read https unmarked asked (built.spliced ▸ whole)
      (List.forall_mem_cons.mpr ⟨rfl, tail.visible⟩) (List.cons_ne_nil _ _)
      (by rw [List.mem_cons, not_or]; exact ⟨by decide, tail.unmarked⟩) _ cut first,
      ← List.append_assoc, percentEncode_joined tail rfl, formParams_append, formParams_formEncode]
    constructor
    · intro same
      have kept := List.append_cancel_right same
      refine ⟨?_, fun stem ends => absurd ends (other stem).1⟩
      by_contra padded
      have blanks := trailing_blank request.redirectUri.toList
      rw [percentEncode_append, percentEncode_blank (by decide) blanks] at kept
      exact formParams_escaped platform _ blanks padded kept
    · rintro ⟨bare, _⟩
      rw [bare, List.append_nil]

/-- A URI without a query serves if nothing is stripped at its end and it does not end in
an ampersand. -/
theorem faithful_of_unasked (built : Built platform request issuer answer location)
    (unmarked : '#' ∉ request.redirectUri.toList) (unasked : '?' ∉ request.redirectUri.toList) :
    Faithful platform request.redirectUri (responseParams request issuer answer) location ↔
      trailing request.redirectUri.toList = [] ∧
        ∀ stem, request.redirectUri.toList ≠ stem ++ ['&'] := by
  obtain ⟨url, read, https, _⟩ := built.registered
  obtain ⟨rest, here, longer⟩ := parse_unasked read https unmarked unasked
  have some' := responseParams_filled request issuer answer
  have tail := formTail some'
  have bare : url.searchParams = [] := (readHttps_some here).1
  rcases appendResponseQuery_cases request.redirectUri (responseParams request issuer answer) with
    ⟨⟨stem, last, mark, ends⟩, whole⟩ | ⟨other, whole⟩
  · rw [← built.spliced] at whole
    constructor
    · rintro ⟨registered, returned, hregistered, hreturned, _, _, hparams⟩
      exfalso
      rw [whole, longer _ tail.visible tail.filled tail.unmarked,
        cutAt_of_not_mem tail.unasked] at hreturned
      rw [(readHttps_some hreturned).1] at hparams
      exact some' (List.append_eq_nil_iff.mp hparams.symm).2
    · rintro ⟨_, noEnd⟩
      rcases mark with rfl | rfl
      · rw [ends] at unasked
        exact absurd (List.mem_append_right _ (List.mem_singleton.mpr rfl)) unasked
      · exact absurd ends (noEnd stem)
  · rw [← built.spliced, if_neg unasked] at whole
    have again := longer _ (List.forall_mem_cons.mpr ⟨rfl, tail.visible⟩) (List.cons_ne_nil _ _)
      (show '#' ∉ '?' :: (formEncode (responseParams request issuer answer)).toList by
        rw [List.mem_cons, not_or]
        exact ⟨by decide, tail.unmarked⟩)
    rw [← whole, show '?' :: (formEncode (responseParams request issuer answer)).toList =
        [] ++ '?' :: (formEncode (responseParams request issuer answer)).toList from rfl,
      cutAt_append List.not_mem_nil, List.append_nil] at again
    constructor
    · rintro ⟨registered, returned, hregistered, hreturned, place, _, _⟩
      rw [read] at hregistered
      cases hregistered
      refine ⟨?_, fun stem => (other stem).2⟩
      by_contra padded
      rw [again] at hreturned
      exact readHttps_blanks here (trailing_blank _) padded hreturned place.pathname
    · rintro ⟨unpadded, _⟩
      obtain ⟨returned, reread, place⟩ := (readHttps_some here).2.2.2
        (some (formEncode (responseParams request issuer answer)).toList) none
      rw [unpadded, List.append_nil, reread] at again
      refine ⟨url, returned, read, again, place, (readHttps_some reread).2.1, ?_⟩
      rw [(readHttps_some reread).1, bare, Option.getD_some, percentEncode_of_plain tail.plain,
        formParams_formEncode, List.nil_append]

/-- A response is read as it was meant exactly where the redirect URI lets it be spliced
in. Which answer a location carries is never in doubt. -/
theorem response_faithful_iff (h : build (urlParser platform) request issuer answer = .ok location) :
    (Faithful platform request.redirectUri (responseParams request issuer answer) location ∧
      ∀ request' issuer' answer', request'.redirectUri = request.redirectUri →
        build (urlParser platform) request' issuer' answer' = .ok location →
          answer' = answer ∧ request'.state = request.state ∧ issuer' = issuer) ↔
      Spliceable request.redirectUri := by
  have built := built_of_build h
  have told : ∀ request' issuer' answer', request'.redirectUri = request.redirectUri →
      build (urlParser platform) request' issuer' answer' = .ok location →
        answer' = answer ∧ request'.state = request.state ∧ issuer' = issuer :=
    fun request' issuer' answer' uri h' => answer_of_location built (built_of_build h') uri
  rw [and_iff_left told]
  by_cases marked : '#' ∈ request.redirectUri.toList
  · constructor
    · rintro ⟨registered, returned, hregistered, hreturned, _, noHash, _⟩
      exfalso
      obtain ⟨url, read, https, _⟩ := built.registered
      have tail := formTail (responseParams_filled request issuer answer)
      rcases appendResponseQuery_cases request.redirectUri (responseParams request issuer answer) with
        ⟨_, whole⟩ | ⟨_, whole⟩
      · rw [built.spliced, whole] at hreturned
        exact hash_of_longer read https marked tail.visible tail.filled hreturned noHash
      · rw [built.spliced, whole] at hreturned
        refine hash_of_longer read https marked ?_ (List.cons_ne_nil _ _) hreturned noHash
        refine List.forall_mem_cons.mpr ⟨?_, tail.visible⟩
        split <;> rfl
    · intro spliceable
      exact absurd marked spliceable.unmarked
  · by_cases asked : '?' ∈ request.redirectUri.toList
    · rw [faithful_of_asked built marked asked]
      constructor
      · rintro ⟨unpadded, question⟩
        refine ⟨marked, unpadded, question, fun stem ends => ?_⟩
        rw [ends, List.mem_append, List.mem_singleton] at asked
        exact asked.resolve_right (by decide)
      · intro spliceable
        exact ⟨spliceable.unpadded, spliceable.question⟩
    · rw [faithful_of_unasked built marked asked]
      constructor
      · rintro ⟨unpadded, noEnd⟩
        refine ⟨marked, unpadded, fun stem ends => ?_, fun stem ends => absurd ends (noEnd stem)⟩
        exact absurd (by rw [ends]; exact List.mem_append_right _ (List.mem_singleton.mpr rfl)) asked
      · intro spliceable
        refine ⟨spliceable.unpadded, fun stem ends => asked ?_⟩
        rw [ends]
        exact List.mem_append_left _ (spliceable.ampersand stem ends)

end Results

/-! ### Two redirects -/

def asking (redirectUri : String) : ValidatedOAuthAuthorizationRequest where
  clientId := "editor"
  redirectUri := redirectUri
  resource := "https://gateway.example/mcp"
  scopes := ["task.submit"]
  state := some "a b&c"
  codeChallenge := ""

def issuer : String := "https://gateway.example"

def granted : Answer := .success "0123456789abcdefghijklmnopqrstuv"

theorem editor_built : build (urlParser namesOnly) (asking "https://editor.example/cb?from=menu&")
    issuer granted = .ok ("https://editor.example/cb?from=menu&" ++
      "code=0123456789abcdefghijklmnopqrstuv&state=a+b%26c&iss=https%3A%2F%2Fgateway.example") := by
  decide +kernel

theorem response_faithful_iff_editor :
    (Faithful namesOnly "https://editor.example/cb?from=menu&"
        (responseParams (asking "https://editor.example/cb?from=menu&") issuer granted)
        ("https://editor.example/cb?from=menu&" ++
          "code=0123456789abcdefghijklmnopqrstuv&state=a+b%26c&iss=https%3A%2F%2Fgateway.example") ∧
      ∀ request' issuer' answer', request'.redirectUri = "https://editor.example/cb?from=menu&" →
        build (urlParser namesOnly) request' issuer' answer' =
            .ok ("https://editor.example/cb?from=menu&" ++
              "code=0123456789abcdefghijklmnopqrstuv&state=a+b%26c&iss=https%3A%2F%2Fgateway.example") →
          answer' = granted ∧ request'.state = some "a b&c" ∧ issuer' = issuer) ↔
      Spliceable "https://editor.example/cb?from=menu&" :=
  response_faithful_iff editor_built

/-- An empty fragment is let through, and the response becomes the fragment. -/
theorem answer_in_fragment :
    build (urlParser namesOnly) (asking "https://editor.example/cb#") issuer granted =
        .ok ("https://editor.example/cb#" ++
          "?code=0123456789abcdefghijklmnopqrstuv&state=a+b%26c&iss=https%3A%2F%2Fgateway.example") ∧
      ¬ Faithful namesOnly "https://editor.example/cb#"
        (responseParams (asking "https://editor.example/cb#") issuer granted)
        ("https://editor.example/cb#" ++
          "?code=0123456789abcdefghijklmnopqrstuv&state=a+b%26c&iss=https%3A%2F%2Fgateway.example") := by
  refine ⟨by decide +kernel, ?_⟩
  rintro ⟨registered, returned, _, hreturned, _, noHash, _⟩
  have fragment : (parse namesOnly ("https://editor.example/cb#" ++
      "?code=0123456789abcdefghijklmnopqrstuv&state=a+b%26c&iss=https%3A%2F%2Fgateway.example").toList).map
        (fun url => url.hash == "") = some false := by
    decide +kernel
  rw [hreturned, Option.map_some, noHash] at fragment
  cases fragment

end AuthorizationResponses
