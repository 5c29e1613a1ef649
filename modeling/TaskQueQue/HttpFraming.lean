import TaskQueQue.ChunkedReading
import TaskQueQue.LocalApi

/-!
# Requests off a connection

`read_request` and `parse_head` of the daemon's two HTTP surfaces, which differ in
their limits, in how much one read takes and in the texts of their errors. A
connection brings its bytes in pieces and then closes, fails or falls silent.
-/

namespace HttpFraming

open ChunkedReading GatewayValues

structure HttpError where
  status : Nat
  reason : String
  message : String
deriving DecidableEq

def badRequest (message : String) : HttpError := ⟨400, "Bad Request", message⟩

structure HttpRequest where
  method : String
  path : String
  headers : List (String × String)
  body : List UInt8

def MAX_HEADER_BYTES : Nat := 16 * 1024

/-- The later of two headers of one name hides the earlier. -/
def HttpRequest.header (request : HttpRequest) (name : String) : Option String :=
  request.headers.lookup name

/-- A surface's limits and texts. A read of the head has room for a terminator. -/
structure HttpApi where
  maxBodyBytes : Nat
  headChunk : Nat
  bodyChunk : Nat
  headTooLarge : String
  headTimeout : String
  headClosed : String
  headNotUtf8 : String
  transferEncoding : String
  bodyTooLarge : String
  bodyTimeout : String
  bodyClosed : String
  headChunk_room : 4 < headChunk
  bodyChunk_room : 0 < bodyChunk

def localApi : HttpApi where
  maxBodyBytes := 1024 * 1024
  headChunk := 4096
  bodyChunk := 8192
  headTooLarge := "request headers exceed local API limit"
  headTimeout := "request header timeout"
  headClosed := "connection closed before request headers completed"
  headNotUtf8 := "request headers must be UTF-8"
  transferEncoding := "transfer-encoding is not supported by the local API"
  bodyTooLarge := "request body exceeds 1 MiB local API limit"
  bodyTimeout := "request body timeout"
  bodyClosed := "connection closed before request body completed"
  headChunk_room := by decide
  bodyChunk_room := by decide

def workerApi : HttpApi where
  maxBodyBytes := ResultProjection.maxResultProjectionBytes
  headChunk := 2048
  bodyChunk := 4096
  headTooLarge := "worker API headers exceed limit"
  headTimeout := "worker API header timeout"
  headClosed := "connection closed before worker request headers completed"
  headNotUtf8 := "worker API headers must be UTF-8"
  transferEncoding := "transfer-encoding is not supported by the worker API"
  bodyTooLarge := "worker API request body exceeds 256 KiB"
  bodyTimeout := "worker API body timeout"
  bodyClosed := "connection closed before worker request body completed"
  headChunk_room := by decide
  bodyChunk_room := by decide

/-- What follows the last byte. -/
inductive Ending
  | closed
  | failed (message : String)
  | silent

def Ending.error (closed timeout : String) : Ending → HttpError
  | .closed => badRequest closed
  | .failed message => badRequest message
  | .silent => ⟨408, "Request Timeout", timeout⟩

/-! ### The head -/

/-- `char::is_whitespace`. -/
def isWhitespace (c : Char) : Bool :=
  let n := c.toNat
  decide (9 ≤ n ∧ n ≤ 13) || decide (8192 ≤ n ∧ n ≤ 8202) ||
    [32, 133, 160, 5760, 8232, 8233, 8239, 8287, 12288].contains n

def splitWhitespace (chars : List Char) : List (List Char) :=
  (chars.splitOnP isWhitespace).filter fun word => !word.isEmpty

def trim (chars : List Char) : List Char :=
  ((chars.dropWhile isWhitespace).reverse.dropWhile isWhitespace).reverse

/-- `split("\r\n")`. -/
def splitLines : List Char → List (List Char)
  | [] => [[]]
  | '\r' :: '\n' :: rest => [] :: splitLines rest
  | c :: rest =>
    match splitLines rest with
    | [] => [[c]]
    | line :: lines => (c :: line) :: lines

/-- `split_once(':')`. -/
def splitColon (line : List Char) : Option (List Char × List Char) :=
  let value := line.dropWhile (· ≠ ':')
  if value = [] then none else some (line.takeWhile (· ≠ ':'), value.drop 1)

def toAsciiLowercase (chars : List Char) : String := String.ofList (chars.map Char.toLower)

def insertHeader (headers : List (String × String)) (line : List Char) :
    Except HttpError (List (String × String)) :=
  if line = [] then .ok headers
  else
    match splitColon line with
    | none => .error (badRequest "malformed header")
    | some (name, value) =>
      let name := toAsciiLowercase (trim name)
      if name = "" then .error (badRequest "empty header name")
      else if name = "content-length" ∧ (headers.lookup name).isSome then
        .error (badRequest "duplicate content-length header")
      else .ok ((name, String.ofList (trim value)) :: headers)

def insertHeaders (headers : List (String × String)) :
    List (List Char) → Except HttpError (List (String × String))
  | [] => .ok headers
  | line :: lines =>
    match insertHeader headers line with
    | .error e => .error e
    | .ok headers => insertHeaders headers lines

def parseRequestLine (line : List Char) : Except HttpError (String × String) :=
  match splitWhitespace line with
  | [] => .error (badRequest "missing method")
  | [_] => .error (badRequest "missing path")
  | [_, _] => .error (badRequest "missing HTTP version")
  | [method, path, version] =>
    if version ≠ "HTTP/1.1".toList ∧ version ≠ "HTTP/1.0".toList then
      .error ⟨505, "HTTP Version Not Supported", "only HTTP/1.0 and HTTP/1.1 are supported"⟩
    else if path.head? ≠ some '/' ∨ path.contains ' ' then
      .error (badRequest "invalid request path")
    else .ok (String.ofList method, String.ofList path)
  | _ :: _ :: _ :: _ :: _ => .error (badRequest "invalid request line")

/-- The body is filled in when it has been read. -/
def parseHead (headerText : String) : Except HttpError HttpRequest :=
  match splitLines headerText.toList with
  | [] => .error (badRequest "missing request line")
  | requestLine :: lines =>
    match parseRequestLine requestLine with
    | .error e => .error e
    | .ok (method, path) =>
      match insertHeaders [] lines with
      | .error e => .error e
      | .ok headers => .ok ⟨method, path, headers, []⟩

def decodeHead (api : HttpApi) (bytes : List UInt8) : Except HttpError HttpRequest :=
  match String.fromUTF8? ⟨bytes.toArray⟩ with
  | none => .error (badRequest api.headNotUtf8)
  | some headerText => parseHead headerText

/-- `parse::<usize>`. -/
def parseUsize (text : String) : Option Nat :=
  (match text.toList with
    | '+' :: digits => LocalApi.decimal? digits
    | digits => LocalApi.decimal? digits).filter fun n => decide (n < 2 ^ 64)

def contentLength (api : HttpApi) (request : HttpRequest) : Except HttpError Nat :=
  if (request.header "transfer-encoding").isSome then
    .error ⟨501, "Not Implemented", api.transferEncoding⟩
  else
    match (match request.header "content-length" with
      | some value => parseUsize value
      | none => some 0) with
    | none => .error (badRequest "invalid content-length")
    | some length =>
      if api.maxBodyBytes < length then .error ⟨413, "Payload Too Large", api.bodyTooLarge⟩
      else .ok length

/-! ### The reader -/

/-- `\r\n\r\n`. -/
def headerEnd : List UInt8 := [13, 10, 13, 10]

def findHeaderEnd : List UInt8 → Option Nat := firstOccurrence headerEnd

def HttpApi.tooLarge (api : HttpApi) : HttpError :=
  ⟨431, "Request Header Fields Too Large", api.headTooLarge⟩

/-- What the reader makes of its buffer before each read of the head. -/
def headFound (api : HttpApi) (buffer : List UInt8) : Option (Except HttpError Nat) :=
  match findHeaderEnd buffer with
  | some position => some (if MAX_HEADER_BYTES < position then .error api.tooLarge else .ok position)
  | none => if MAX_HEADER_BYTES ≤ buffer.length then some (.error api.tooLarge) else none

def bodyFound (length : Nat) (body : List UInt8) : Option Unit :=
  if body.length < length then none else some ()

def readBody (api : HttpApi) (ending : Ending) (length : Nat) (body : List UInt8)
    (pieces : List (List UInt8)) : Except HttpError (List UInt8) :=
  match readUntil (bodyFound length) (fun body => min (length - body.length) api.bodyChunk)
      (ending.error api.bodyClosed api.bodyTimeout) (body.take length) pieces with
  | .error e => .error e
  | .ok (_, body, _) => .ok body

def readRequest (api : HttpApi) (ending : Ending) (pieces : List (List UInt8)) :
    Except HttpError HttpRequest :=
  match readUntil (headFound api) (fun _ => api.headChunk)
      (ending.error api.headClosed api.headTimeout) [] pieces with
  | .error e => .error e
  | .ok (.error e, _, _) => .error e
  | .ok (.ok position, buffer, rest) =>
    match decodeHead api (buffer.take position) with
    | .error e => .error e
    | .ok request =>
      match contentLength api request with
      | .error e => .error e
      | .ok length =>
        match readBody api ending length (buffer.drop (position + 4)) rest with
        | .error e => .error e
        | .ok body => .ok { request with body }

/-! ### What the bytes alone decide -/

/-- The body of a request whose stream goes on with these bytes after the head. -/
def bodyOf (api : HttpApi) (ending : Ending) (length : Nat) (bytes : List UInt8) :
    Except HttpError (List UInt8) :=
  if bytes.length < length then .error (ending.error api.bodyClosed api.bodyTimeout)
  else .ok (bytes.take length)

/-- The request whose head ends at this position. -/
def requestAt (api : HttpApi) (ending : Ending) (position : Nat) (bytes : List UInt8) :
    Except HttpError HttpRequest :=
  match decodeHead api (bytes.take position) with
  | .error e => .error e
  | .ok request =>
    match contentLength api request with
    | .error e => .error e
    | .ok length =>
      match bodyOf api ending length (bytes.drop (position + 4)) with
      | .error e => .error e
      | .ok body => .ok { request with body }

theorem readBody_eq (api : HttpApi) (ending : Ending) (length : Nat) (body : List UInt8)
    (pieces : List (List UInt8)) :
    readBody api ending length body pieces = bodyOf api ending length (body ++ pieces.flatten) := by
  have room : ∀ body : List UInt8, bodyFound length body = none →
      0 < min (length - body.length) api.bodyChunk := by
    intro body undecided
    rw [bodyFound, ite_eq_left_iff, not_imp_comm] at undecided
    have short := undecided (by simp)
    have chunk := api.bodyChunk_room
    omega
  rw [readBody]
  split
  · rename_i e h
    obtain ⟨rfl, undecided⟩ := readUntil_error room h
    rw [bodyFound, ite_eq_left_iff, not_imp_comm] at undecided
    have short := undecided (by simp)
    rw [List.length_append, List.length_take] at short
    rw [bodyOf, List.length_append, if_pos]
    omega
  · rename_i found stretch rest h
    obtain ⟨stopped, _, same⟩ := readUntil_ok h
    have enough : length ≤ stretch.length := by
      rw [bodyFound] at stopped
      split at stopped
      · cases stopped
      · omega
    have within : stretch.length ≤ length := by
      refine readUntil_preserves (P := fun body => body.length ≤ length)
        (fun body chunk undecided fits short => ?_) ?_ h
      · rw [bodyFound, ite_eq_left_iff, not_imp_comm] at undecided
        have open_ := undecided (by simp)
        rw [List.length_append]
        omega
      · rw [List.length_take]
        exact Nat.min_le_left _ _
    have exact_ : stretch.length = length := Nat.le_antisymm within enough
    have taken : (body.take length ++ pieces.flatten).take length = stretch := by
      rw [← same, ← exact_, List.take_left]
    rcases Nat.le_total length body.length with long | short
    · rw [bodyOf, List.length_append, if_neg (by omega), List.take_append_of_le_length long]
      rw [List.take_append_of_le_length (by rw [List.length_take]; omega), List.take_take,
        Nat.min_self] at taken
      rw [taken]
    · rw [List.take_of_length_le short] at taken same
      have total := congrArg List.length same
      rw [List.length_append] at total
      rw [bodyOf, if_neg (by omega), taken]

theorem take_of_prefix {stretch more : List UInt8} {position : Nat} (fits : position ≤ stretch.length) :
    (stretch ++ more).take position = stretch.take position :=
  List.take_append_of_le_length fits

/-- Reading on from a head that was found comes to what the bytes say. -/
theorem readRequest_of_head {api : HttpApi} {ending : Ending} {pieces rest : List (List UInt8)}
    {position : Nat} {buffer : List UInt8}
    (h : readUntil (headFound api) (fun _ => api.headChunk)
      (ending.error api.headClosed api.headTimeout) [] pieces = .ok (.ok position, buffer, rest))
    (found : findHeaderEnd buffer = some position) :
    readRequest api ending pieces = requestAt api ending position pieces.flatten := by
  have same := (readUntil_ok h).2.2
  rw [List.nil_append] at same
  have bound : position + 4 ≤ buffer.length := firstOccurrence_le found
  rw [readRequest, h, requestAt, ← same, List.take_append_of_le_length (by omega),
    List.drop_append_of_le_length bound]
  simp only [readBody_eq]

/-- The head of these bytes ends within the limit, but its terminator does not. -/
def Straddles (bytes : List UInt8) : Prop :=
  ∃ position, findHeaderEnd bytes = some position ∧ position ≤ MAX_HEADER_BYTES ∧
    MAX_HEADER_BYTES < position + 4

def framed (api : HttpApi) (ending : Ending) (bytes : List UInt8) : Except HttpError HttpRequest :=
  match findHeaderEnd bytes with
  | some position =>
    if MAX_HEADER_BYTES < position then .error api.tooLarge
    else requestAt api ending position bytes
  | none =>
    if MAX_HEADER_BYTES ≤ bytes.length then .error api.tooLarge
    else .error (ending.error api.headClosed api.headTimeout)

theorem headFound_of_found {api : HttpApi} {stretch : List UInt8} {position : Nat}
    (h : findHeaderEnd stretch = some position) (fits : position ≤ MAX_HEADER_BYTES) :
    headFound api stretch = some (.ok position) := by
  rw [headFound, h]
  simp only [if_neg (Nat.not_lt.mpr fits)]

theorem headFound_of_absent {api : HttpApi} {stretch : List UInt8}
    (h : findHeaderEnd stretch = none) :
    headFound api stretch =
      if MAX_HEADER_BYTES ≤ stretch.length then some (.error api.tooLarge) else none := by
  rw [headFound, h]

/-- A stretch without the terminator falls short of where the terminator ends. -/
theorem short_of_absent {stretch bytes : List UInt8} (stem : stretch <+: bytes) {position : Nat}
    (found : findHeaderEnd bytes = some position) (absent : findHeaderEnd stretch = none) :
    stretch.length < position + 4 := by
  obtain ⟨more, rfl⟩ := stem
  exact length_lt_of_firstOccurrence absent found

theorem found_of_prefix {stretch bytes : List UInt8} (stem : stretch <+: bytes) {position : Nat}
    (found : findHeaderEnd stretch = some position) : findHeaderEnd bytes = some position := by
  obtain ⟨more, rfl⟩ := stem
  exact firstOccurrence_append found

theorem found_in_prefix {stretch bytes : List UInt8} (stem : stretch <+: bytes) {position : Nat}
    (found : findHeaderEnd bytes = some position) (enough : position + 4 ≤ stretch.length) :
    findHeaderEnd stretch = some position := by
  cases here : findHeaderEnd stretch with
  | none =>
    have := short_of_absent stem found here
    omega
  | some position' => rw [← found_of_prefix stem here, found]

/-- Unless the terminator straddles the limit, the cut does not matter. -/
theorem readRequest_eq_framed {api : HttpApi} {ending : Ending} {pieces : List (List UInt8)}
    (clear : ¬ Straddles pieces.flatten) :
    readRequest api ending pieces = framed api ending pieces.flatten := by
  have room : ∀ buffer : List UInt8, headFound api buffer = none → 0 < api.headChunk :=
    fun _ _ => Nat.lt_of_le_of_lt (Nat.zero_le 4) api.headChunk_room
  cases h : readUntil (headFound api) (fun _ => api.headChunk)
      (ending.error api.headClosed api.headTimeout) [] pieces with
  | error e =>
    obtain ⟨rfl, undecided⟩ := readUntil_error room h
    rw [List.nil_append] at undecided
    rw [readRequest, h, framed]
    cases found : findHeaderEnd pieces.flatten with
    | some position =>
      rw [headFound, found] at undecided
      cases undecided
    | none =>
      rw [headFound_of_absent found] at undecided
      split at undecided
      · cases undecided
      · rename_i short
        simp only [if_neg short]
  | ok result =>
    obtain ⟨stop, stretch, rest⟩ := result
    obtain ⟨stopped, _, same⟩ := readUntil_ok h
    rw [List.nil_append] at same
    have stem : stretch <+: pieces.flatten := ⟨_, same⟩
    cases here : findHeaderEnd stretch with
    | some position =>
      have found := found_of_prefix stem here
      rw [headFound, here, Option.some.injEq] at stopped
      rw [framed, found]
      simp only
      split at stopped
      · rename_i beyond
        rw [if_pos beyond, readRequest, h, ← stopped]
      · rename_i within
        rw [if_neg within]
        rw [← stopped] at h
        exact readRequest_of_head h here
    | none =>
      rw [headFound_of_absent here] at stopped
      split at stopped
      · rename_i full
        cases stopped
        rw [readRequest, h, framed]
        cases found : findHeaderEnd pieces.flatten with
        | some position =>
          have short := short_of_absent stem found here
          have beyond : MAX_HEADER_BYTES < position := by
            by_contra within
            exact clear ⟨position, found, by omega, by omega⟩
          simp only [if_pos beyond]
        | none =>
          have long := stem.length_le
          simp only [if_pos (Nat.le_trans full long)]
      · cases stopped

/-! ### Where the cut does matter -/

theorem insertHeader_error {headers : List (String × String)} {line : List Char} {e : HttpError}
    (h : insertHeader headers line = .error e) : e.status = 400 := by
  rw [insertHeader] at h
  split at h
  · cases h
  split at h
  · cases h
    rfl
  · dsimp only at h
    repeat' split at h
    all_goals cases h
    all_goals rfl

theorem insertHeaders_error {headers : List (String × String)} {lines : List (List Char)}
    {e : HttpError} (h : insertHeaders headers lines = .error e) : e.status = 400 := by
  induction lines generalizing headers with
  | nil => cases h
  | cons line lines ih =>
    rw [insertHeaders] at h
    split at h
    · rename_i first
      cases h
      exact insertHeader_error first
    · exact ih h

theorem parseRequestLine_error {line : List Char} {e : HttpError}
    (h : parseRequestLine line = .error e) : e.status = 400 ∨ e.status = 505 := by
  rw [parseRequestLine] at h
  repeat' split at h
  all_goals cases h
  all_goals first
    | exact Or.inl rfl
    | exact Or.inr rfl

theorem decodeHead_error {api : HttpApi} {bytes : List UInt8} {e : HttpError}
    (h : decodeHead api bytes = .error e) : e.status = 400 ∨ e.status = 505 := by
  rw [decodeHead] at h
  split at h
  · cases h
    exact Or.inl rfl
  rw [parseHead] at h
  split at h
  · cases h
    exact Or.inl rfl
  split at h
  · rename_i requestLine
    cases h
    exact parseRequestLine_error requestLine
  split at h
  · rename_i headers
    cases h
    exact Or.inl (insertHeaders_error headers)
  · cases h

/-- Once the head has been found, no error is about its size. -/
theorem requestAt_error {api : HttpApi} {ending : Ending} {position : Nat} {bytes : List UInt8}
    {e : HttpError} (h : requestAt api ending position bytes = .error e) : e.status ≠ 431 := by
  rw [requestAt] at h
  split at h
  · rename_i head
    cases h
    have := decodeHead_error head
    omega
  split at h
  · rename_i length
    cases h
    rw [contentLength] at length
    repeat' split at length
    all_goals cases length
    all_goals simp [badRequest]
  split at h
  · rename_i body
    cases h
    rw [bodyOf] at body
    split at body
    · cases body
      cases ending <;> simp [Ending.error, badRequest]
    · cases body
  · cases h

/-- Cut at the limit, the head is answered 431. -/
theorem refused_at_limit {api : HttpApi} {ending : Ending} {bytes : List UInt8}
    (straddles : Straddles bytes) :
    readRequest api ending [bytes.take MAX_HEADER_BYTES, bytes.drop MAX_HEADER_BYTES] =
      .error api.tooLarge := by
  obtain ⟨position, found, within, beyond⟩ := straddles
  have room : ∀ buffer : List UInt8, headFound api buffer = none → 0 < api.headChunk :=
    fun _ _ => Nat.lt_of_le_of_lt (Nat.zero_le 4) api.headChunk_room
  have bound : position + 4 ≤ bytes.length := firstOccurrence_le found
  have full : (bytes.take MAX_HEADER_BYTES).length = MAX_HEADER_BYTES := by
    rw [List.length_take]
    omega
  have absent : ∀ stem, stem <+: bytes.take MAX_HEADER_BYTES → findHeaderEnd stem = none := by
    intro stem stemOf
    cases here : findHeaderEnd stem with
    | none => rfl
    | some position' =>
      have same := found_of_prefix (stemOf.trans (List.take_prefix _ _)) here
      rw [found] at same
      cases same
      have := firstOccurrence_le here
      have := stemOf.length_le
      rw [headerEnd, List.length_cons] at *
      simp only [List.length_cons, List.length_nil] at *
      omega
  have stopped : headFound api (bytes.take MAX_HEADER_BYTES) = some (.error api.tooLarge) := by
    rw [headFound_of_absent (absent _ (List.prefix_refl _)), full, if_pos (Nat.le_refl _)]
  have undecided : ∀ stem, stem <+: bytes.take MAX_HEADER_BYTES →
      stem ≠ bytes.take MAX_HEADER_BYTES → headFound api ([] ++ stem) = none := by
    intro stem stemOf other
    rw [List.nil_append, headFound_of_absent (absent stem stemOf), if_neg]
    intro long
    exact other (stemOf.eq_of_length_le (by omega))
  rw [readRequest, readUntil_piece room undecided, List.nil_append, readUntil_found stopped]

/-- Cut just before the limit, the head is read. -/
theorem read_before_limit {api : HttpApi} {ending : Ending} {bytes : List UInt8} {position : Nat}
    (found : findHeaderEnd bytes = some position) (within : position ≤ MAX_HEADER_BYTES)
    (beyond : MAX_HEADER_BYTES < position + 4) :
    readRequest api ending [bytes.take (MAX_HEADER_BYTES - 1), bytes.drop (MAX_HEADER_BYTES - 1)] =
      requestAt api ending position bytes := by
  have room : ∀ buffer : List UInt8, headFound api buffer = none → 0 < api.headChunk :=
    fun _ _ => Nat.lt_of_le_of_lt (Nat.zero_le 4) api.headChunk_room
  have bound : position + 4 ≤ bytes.length := firstOccurrence_le found
  have large : MAX_HEADER_BYTES = 16384 := rfl
  have undecided : ∀ stem, stem <+: bytes.take (MAX_HEADER_BYTES - 1) → headFound api stem = none := by
    intro stem stemOf
    have short := stemOf.length_le
    rw [List.length_take] at short
    rw [headFound_of_absent, if_neg (by omega)]
    cases here : findHeaderEnd stem with
    | none => rfl
    | some position' =>
      have same := found_of_prefix (stemOf.trans (List.take_prefix _ _)) here
      have fits : position' + 4 ≤ stem.length := firstOccurrence_le here
      rw [found] at same
      cases same
      omega
  have split_ := List.take_append_drop (MAX_HEADER_BYTES - 1) bytes
  cases later : bytes.drop (MAX_HEADER_BYTES - 1) with
  | nil =>
    have := congrArg List.length later
    rw [List.length_drop, List.length_nil] at this
    omega
  | cons byte more =>
    rw [later] at split_
    have next : ChunkedReading.read api.headChunk ([] :: [byte :: more]) =
        some ((byte :: more).take api.headChunk, [(byte :: more).drop api.headChunk]) := by
      simp only [ChunkedReading.read, if_neg (Nat.ne_of_gt (room [] (undecided [] List.nil_prefix)))]
    have stem : bytes.take (MAX_HEADER_BYTES - 1) ++ (byte :: more).take api.headChunk <+: bytes := by
      refine ⟨(byte :: more).drop api.headChunk, ?_⟩
      rw [List.append_assoc, List.take_append_drop, split_]
    have here : findHeaderEnd (bytes.take (MAX_HEADER_BYTES - 1) ++
        (byte :: more).take api.headChunk) = some position := by
      refine found_in_prefix stem found ?_
      have chunk := api.headChunk_room
      have total := congrArg List.length split_
      rw [List.length_append, List.length_take] at total
      rw [List.length_append, List.length_take, List.length_take]
      omega
    have stopped : readUntil (headFound api) (fun _ => api.headChunk)
        (ending.error api.headClosed api.headTimeout) []
        [bytes.take (MAX_HEADER_BYTES - 1), byte :: more] =
          .ok (.ok position, bytes.take (MAX_HEADER_BYTES - 1) ++ (byte :: more).take api.headChunk,
            [(byte :: more).drop api.headChunk]) := by
      have open_ : ∀ stem, stem <+: bytes.take (MAX_HEADER_BYTES - 1) →
          stem ≠ bytes.take (MAX_HEADER_BYTES - 1) → headFound api ([] ++ stem) = none :=
        fun stem stemOf _ => undecided stem stemOf
      rw [readUntil_piece room open_, List.nil_append,
        readUntil_read (undecided _ (List.prefix_refl _)) next,
        readUntil_found (headFound_of_found here within)]
    rw [readRequest_of_head stopped here, List.flatten_cons, List.flatten_cons, List.flatten_nil,
      List.append_nil, split_]

theorem cut_matters {api : HttpApi} {ending : Ending} {bytes : List UInt8}
    (straddles : Straddles bytes) :
    readRequest api ending [bytes.take (MAX_HEADER_BYTES - 1), bytes.drop (MAX_HEADER_BYTES - 1)] ≠
      readRequest api ending [bytes.take MAX_HEADER_BYTES, bytes.drop MAX_HEADER_BYTES] := by
  rw [refused_at_limit straddles]
  obtain ⟨position, found, within, beyond⟩ := straddles
  rw [read_before_limit found within beyond]
  intro refused
  exact requestAt_error refused rfl

/-- Every two cuts of a stream come to the same exactly when the terminator of its
head does not straddle the limit. -/
theorem cut_irrelevant_iff (api : HttpApi) (ending : Ending) (bytes : List UInt8) :
    (∀ pieces pieces' : List (List UInt8), pieces.flatten = bytes → pieces'.flatten = bytes →
      readRequest api ending pieces = readRequest api ending pieces') ↔ ¬ Straddles bytes := by
  constructor
  · intro irrelevant straddles
    exact cut_matters straddles (irrelevant _ _ (by simp) (by simp))
  · rintro clear pieces pieces' rfl same
    rw [readRequest_eq_framed clear, readRequest_eq_framed (by rwa [same]), same]

/-- `GET /healthz HTTP/1.1` and the name of a header. -/
def healthLine : List UInt8 :=
  [71, 69, 84, 32, 47, 104, 101, 97, 108, 116, 104, 122, 32, 72, 84, 84, 80, 47, 49, 46, 49, 13,
    10, 120, 58]

/-- A probe whose head ends exactly at the limit. -/
def probeAtLimit : List UInt8 :=
  healthLine ++ (List.replicate (MAX_HEADER_BYTES - healthLine.length) 97 ++ headerEnd)

theorem findHeaderEnd_replicate (n : Nat) :
    findHeaderEnd (List.replicate n 97 ++ headerEnd) = some n := by
  induction n with
  | zero => rfl
  | succ n ih =>
    have other : ¬ headerEnd <+: 97 :: (List.replicate n 97 ++ headerEnd) := by
      simp [headerEnd]
    rw [List.replicate_succ, List.cons_append, findHeaderEnd, firstOccurrence, if_neg other]
    rw [findHeaderEnd] at ih
    rw [ih, Option.map_some]

theorem findHeaderEnd_healthLine (rest : List UInt8) {n : Nat} (h : findHeaderEnd rest = some n) :
    findHeaderEnd (healthLine ++ rest) = some (healthLine.length + n) := by
  rw [findHeaderEnd, headerEnd] at h
  simp [findHeaderEnd, healthLine, firstOccurrence, headerEnd, h]
  omega

theorem probeAtLimit_straddles : Straddles probeAtLimit := by
  refine ⟨MAX_HEADER_BYTES, ?_, Nat.le_refl _, Nat.lt_add_of_pos_right (by decide)⟩
  exact findHeaderEnd_healthLine _ (findHeaderEnd_replicate _)

/-- A stream comes to the same request or error however it is cut. -/
def CutIrrelevant (api : HttpApi) : Prop :=
  ∀ (ending : Ending) (bytes : List UInt8) (pieces pieces' : List (List UInt8)),
    pieces.flatten = bytes → pieces'.flatten = bytes →
      readRequest api ending pieces = readRequest api ending pieces'

/-- Both surfaces answer the probe 431 or not, depending on the cut. -/
theorem cut_relevant : ¬ CutIrrelevant localApi ∧ ¬ CutIrrelevant workerApi := by
  constructor <;> intro irrelevant
  · exact cut_matters probeAtLimit_straddles
      (irrelevant .closed probeAtLimit _ _ (by simp) (by simp))
  · exact cut_matters probeAtLimit_straddles
      (irrelevant .closed probeAtLimit _ _ (by simp) (by simp))

end HttpFraming
