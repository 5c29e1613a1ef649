import TaskQueQue.RequestRendering
import TaskQueQue.CimdDiscovery
import TaskQueQue.FlatJson

/-!
# What curl reports of a transfer

Both transports read the status, the content type and the peer of a transfer from the error
stream of curl, to which a template directs them. The portable one asks for three lines and
looks for the first line with each marker; the other asks for a JSON object of all variables
and reads the line after the last marker. The server chooses the content type, so the markers
and whatever else it likes may stand in it.
-/

namespace CurlMetadata

open GatewayValues UrlValues JsonText FormattedJson FlatJson CimdNetwork CimdClientId CimdDiscovery

/-! ### The commands and what they write -/

def CIMD_CURL_METADATA_MARKER : String := "__TQQ_CIMD_META__"

/-- The arguments of `buildCimdCurlInvocation`. -/
def cimdCurlArgs (env : Environment) (url : Url) (request : CimdPinnedFetchRequest)
    (addresses : List String) : List String :=
  ["--disable", "--globoff", "--silent", "--show-error", "--proxy", "", "--noproxy", "*",
    "--request", "GET", "--proto", "=https", "--proto-redir", "-all", "--max-redirs", "0",
    "--connect-timeout", seconds request.timeoutMs, "--max-time", seconds request.timeoutMs,
    "--max-filesize", toString request.maxBytes,
    "--header", "Accept: application/json, application/*+json",
    "--header", "User-Agent: task-que-que-cimd/1", "--resolve",
    resolveHost url ++ ":" ++ resolvePort url ++ ":" ++
      ",".intercalate (addresses.map (curlAddress env)),
    "--write-out", "%\x7bstderr\x7d\n" ++ CIMD_CURL_METADATA_MARKER ++ "%\x7bjson\x7d\n",
    request.url]

/-- A template with the values of its variables, from inside a name or outside. -/
def interpolate (value : String → List Char) : Option (List Char) → List Char → List Char
  | _, [] => []
  | some name, c :: rest =>
    if c = '\x7d' then value (String.ofList name) ++ interpolate value none rest
    else interpolate value (some (name ++ [c])) rest
  | none, '%' :: '\x7b' :: rest => interpolate value (some []) rest
  | none, c :: rest => c :: interpolate value none rest

/-- The text of curl's error stream after a successful transfer: nothing but what the template
in front of the URL asks for, if it starts with the switch to this stream. -/
def errorStream (value : String → List Char) (args : List String) : String :=
  let template := (args.dropLast.getLast?.getD "").toList
  let switch := "%\x7bstderr\x7d".toList
  String.ofList (if switch.isPrefixOf template
    then interpolate value none (template.drop switch.length) else [])

/-! ### The parser of the object -/

/-- What follows the last occurrence of the marker. -/
def afterLast (marker : List Char) : List Char → Option (List Char)
  | [] => none
  | c :: rest =>
    match afterLast marker rest with
    | some tail => some tail
    | none => if marker.isPrefixOf (c :: rest) then some ((c :: rest).drop marker.length) else none

/-- `Number` of a value; `none` for `NaN`. An array is read as the text of its only item. -/
def numberOf (web : WebRuntime) : Json → Option ℚ
  | .null | .arr [] | .arr [.null] => some 0
  | .bool value => some (if value then 1 else 0)
  | .num value => some value
  | .str value => web.number value
  | .arr [.num value] => some value
  | .arr [.str value] => web.number value
  | .arr [.arr items] => numberOf web (.arr items)
  | .arr _ | .obj _ => none

/-- Status, content type and peer; `none` where it throws. -/
def parseCurlMetadata (format : NumberFormat) (env : Environment) (stderr : String) :
    Option (Int × Option String × String) :=
  match afterLast CIMD_CURL_METADATA_MARKER.toList stderr.toList with
  | none => none
  | some tail =>
    match read format ((lines (String.ofList tail)).headD []) with
    | some (.obj fields) =>
      let metadata := Json.obj fields
      let peerAddress :=
        match metadata.field "remote_ip" with
        | some (.str address) => normalizedAddress address
        | _ => ""
      let contentType :=
        match metadata.field "content_type" with
        | some (.str type) => if type = "" then none else some type
        | _ => none
      match (metadata.field "http_code").bind (numberOf env.web) with
      | none => none
      | some status =>
        if status.den ≠ 1 ∨ status.num < 100 ∨ 599 < status.num ∨ env.isIP peerAddress = none
        then none
        else some (status.num, contentType, peerAddress)
    | _ => none

/-! ### Templates -/

section Templates
variable {value : String → List Char}

theorem interpolate_text {text : List Char} (plain : '%' ∉ text) (rest : List Char) :
    interpolate value none (text ++ rest) = text ++ interpolate value none rest := by
  induction text with
  | nil => rfl
  | cons c text ih =>
    rw [List.mem_cons, not_or] at plain
    rw [List.cons_append, interpolate, ih plain.2, List.cons_append]
    intro _ same
    exact absurd same.symm plain.1

theorem interpolate_name {name : List Char} (plain : '\x7d' ∉ name) (seen rest : List Char) :
    interpolate value (some seen) (name ++ '\x7d' :: rest) =
      value (String.ofList (seen ++ name)) ++ interpolate value none rest := by
  induction name generalizing seen with
  | nil => rw [List.nil_append, interpolate, if_pos rfl, List.append_nil]
  | cons c name ih =>
    rw [List.mem_cons, not_or] at plain
    rw [List.cons_append, interpolate, if_neg (Ne.symm plain.1), ih plain.2, List.append_assoc,
      List.singleton_append]

/-- A variable between two texts of a template. -/
theorem interpolate_variable {text : List Char} (plain : '%' ∉ text) (name : String)
    (closed : '\x7d' ∉ name.toList) (rest : List Char) :
    interpolate value none (text ++ '%' :: '\x7b' :: (name.toList ++ '\x7d' :: rest)) =
      text ++ (value name ++ interpolate value none rest) := by
  rw [interpolate_text plain, interpolate, interpolate_name closed, List.nil_append,
    String.ofList_toList]

theorem errorStream_eq {args : List String} {last : String} {template : List Char}
    (own : args.dropLast.getLast? = some last)
    (shape : last.toList = "%\x7bstderr\x7d".toList ++ template) :
    errorStream value args = String.ofList (interpolate value none template) := by
  have front : ("%\x7bstderr\x7d".toList.isPrefixOf
      ("%\x7bstderr\x7d".toList ++ template)) = true :=
    List.isPrefixOf_iff_prefix.mpr (List.prefix_append _ _)
  rw [errorStream, own, Option.getD_some, shape, if_pos front, List.drop_left]

/-- The three lines of the portable transport. -/
theorem errorStream_curlArgs (env : Environment) (url : Url) (request : CimdPinnedFetchRequest)
    (address : String) (timeoutMs : Int) :
    errorStream value (curlArgs env url request address timeoutMs) = String.ofList
      ('\n' :: (STATUS_MARKER.toList ++ value "http_code" ++ '\n' ::
        (TYPE_MARKER.toList ++ value "content_type" ++ '\n' ::
          (PEER_MARKER.toList ++ value "remote_ip" ++ ['\n'])))) := by
  have shape : ("%\x7bstderr\x7d\n" ++ STATUS_MARKER ++ "%\x7bhttp_code\x7d\n" ++ TYPE_MARKER ++
      "%\x7bcontent_type\x7d\n" ++ PEER_MARKER ++ "%\x7bremote_ip\x7d\n").toList =
      "%\x7bstderr\x7d".toList ++ (('\n' :: STATUS_MARKER.toList) ++ '%' :: '\x7b' ::
        ("http_code".toList ++ '\x7d' :: (('\n' :: TYPE_MARKER.toList) ++ '%' :: '\x7b' ::
          ("content_type".toList ++ '\x7d' :: (('\n' :: PEER_MARKER.toList) ++ '%' :: '\x7b' ::
            ("remote_ip".toList ++ '\x7d' :: ['\n'])))))) := by
    decide +kernel
  rw [errorStream_eq rfl shape, interpolate_variable (by decide) _ (by decide),
    interpolate_variable (by decide) _ (by decide), interpolate_variable (by decide) _ (by decide)]
  have ended : interpolate value none ['\n'] = ['\n'] := rfl
  rw [ended]
  simp only [List.cons_append, List.append_assoc]

theorem errorStream_cimdCurlArgs (env : Environment) (url : Url)
    (request : CimdPinnedFetchRequest) (addresses : List String) :
    errorStream value (cimdCurlArgs env url request addresses) = String.ofList
      ('\n' :: CIMD_CURL_METADATA_MARKER.toList ++ (value "json" ++ ['\n'])) := by
  have shape :
      ("%\x7bstderr\x7d\n" ++ CIMD_CURL_METADATA_MARKER ++ "%\x7bjson\x7d\n").toList =
      "%\x7bstderr\x7d".toList ++ (('\n' :: CIMD_CURL_METADATA_MARKER.toList) ++ '%' :: '\x7b' ::
        ("json".toList ++ '\x7d' :: ['\n'])) := by
    decide +kernel
  rw [errorStream_eq rfl shape, interpolate_variable (by decide) _ (by decide)]
  rfl

end Templates

/-! ### The portable report -/

theorem lines_cons {line rest : List Char} (single : '\n' ∉ line)
    (ended : line.getLast? ≠ some '\r') :
    lines (String.ofList (line ++ '\n' :: rest)) = line :: lines (String.ofList rest) := by
  have more : rest.splitOn '\n' ≠ [] := List.splitOn_ne_nil _ _
  obtain ⟨first, parts, shape⟩ := List.exists_cons_of_ne_nil more
  rw [lines, lines, String.toList_ofList, String.toList_ofList,
    List.splitOn_append_cons_self_of_not_mem single, shape, List.dropLast_cons_cons, List.map_cons, if_neg ended, List.getLast?_cons_cons,
    List.cons_append]

/-- Markers that differ somewhere are not taken for one another, whatever follows. -/
theorem marker_apart {marker other : String} (value : List Char) (i : Nat)
    (inside : i < marker.toList.length ∧ i < other.toList.length)
    (apart : marker.toList[i]? ≠ other.toList[i]?) :
    marker.toList.isPrefixOf (other.toList ++ value) = false := by
  rw [Bool.eq_false_iff]
  intro front
  obtain ⟨rest, same⟩ := List.isPrefixOf_iff_prefix.mp front
  have at' := congrArg (fun text => text[i]?) same
  rw [List.getElem?_append_left inside.1, List.getElem?_append_left inside.2] at at'
  exact apart at'

/-- What a parser returns, if anything, is what was reported. -/
def Truthful (result : Option (Int × Option String × String)) (status : Option ℚ)
    (contentType peer : List Char) : Prop :=
  ∀ code type address, result = some (code, type, address) → status = some (code : ℚ) ∧
    type = (if contentType = [] then none else some (String.ofList contentType)) ∧
    address = String.ofList (unbracket peer)

theorem markerValue_found {stderr marker : String} {front back : List (List Char)}
    {value : List Char} (shape : lines stderr = front ++ (marker.toList ++ value) :: back)
    (other : ∀ line ∈ front, marker.toList.isPrefixOf line = false) :
    markerValue stderr marker = some (String.ofList value) := by
  have none' : front.find? (fun line => marker.toList.isPrefixOf line) = none := by
    rw [List.find?_eq_none]
    intro line mem own
    exact Bool.false_ne_true ((other line mem).symm.trans own)
  have own : marker.toList.isPrefixOf (marker.toList ++ value) = true :=
    List.isPrefixOf_iff_prefix.mpr (List.prefix_append _ _)
  rw [markerValue, shape, List.find?_append, none', Option.none_or, List.find?_cons, own]
  dsimp only
  rw [Option.map_some, ← String.length_toList, List.drop_left]

/-- The parser finds each value on its own line. -/
theorem parseMetadata_truthful (env : Environment) {value : String → List Char}
    (single : ∀ name, '\n' ∉ value name) (ended : ∀ name, (value name).getLast? ≠ some '\r')
    (url : Url) (request : CimdPinnedFetchRequest) (address : String) (timeoutMs : Int) :
    Truthful (parseMetadata env (errorStream value (curlArgs env url request address timeoutMs)))
      (env.web.number (String.ofList (value "http_code"))) (value "content_type")
      (value "remote_ip") := by
  have line : ∀ {marker : String} (name : String), '\n' ∉ marker.toList →
      marker.toList.getLast? = some '_' → '\n' ∉ marker.toList ++ value name ∧
        (marker.toList ++ value name).getLast? ≠ some '\r' := by
    intro marker name plain last
    refine ⟨fun mem => (List.mem_append.mp mem).elim plain (single name), ?_⟩
    rw [List.getLast?_append, last]
    cases own : (value name).getLast? with
    | none => exact fun same => absurd (Option.some.inj same) (by decide)
    | some c => exact fun same => ended name (own.trans same)
  obtain ⟨statusLine, statusEnd⟩ := @line STATUS_MARKER "http_code" (by decide) (by decide)
  obtain ⟨typeLine, typeEnd⟩ := @line TYPE_MARKER "content_type" (by decide) (by decide)
  obtain ⟨peerLine, peerEnd⟩ := @line PEER_MARKER "remote_ip" (by decide) (by decide)
  have open' := @lines_cons [] (STATUS_MARKER.toList ++ value "http_code" ++ '\n' ::
    (TYPE_MARKER.toList ++ value "content_type" ++ '\n' ::
      (PEER_MARKER.toList ++ value "remote_ip" ++ ['\n']))) List.not_mem_nil (by decide)
  rw [List.nil_append, lines_cons statusLine statusEnd, lines_cons typeLine typeEnd,
    lines_cons peerLine peerEnd, ← errorStream_curlArgs env url request address timeoutMs] at open'
  have blank : ∀ marker : String, marker.toList ≠ [] → marker.toList.isPrefixOf [] = false := by
    intro marker filled
    cases own : marker.toList with
    | nil => exact absurd own filled
    | cons c rest => rfl
  have statusType := @marker_apart TYPE_MARKER STATUS_MARKER (value "http_code") 11 (by decide)
    (by decide)
  have statusPeer := @marker_apart PEER_MARKER STATUS_MARKER (value "http_code") 11 (by decide)
    (by decide)
  have typePeer := @marker_apart PEER_MARKER TYPE_MARKER (value "content_type") 11 (by decide)
    (by decide)
  have status := @markerValue_found _ STATUS_MARKER [[]] _ _ open'
    (List.forall_mem_singleton.mpr (blank _ (by decide)))
  have type := @markerValue_found _ TYPE_MARKER [[], _] _ _ open' (List.forall_mem_cons.mpr
    ⟨blank _ (by decide), List.forall_mem_singleton.mpr statusType⟩)
  have peer := @markerValue_found _ PEER_MARKER [[], _, _] _ _ open' (List.forall_mem_cons.mpr
    ⟨blank _ (by decide), List.forall_mem_cons.mpr
      ⟨statusPeer, List.forall_mem_singleton.mpr typePeer⟩⟩)
  intro code found at' h
  rw [parseMetadata, status, type, peer] at h
  dsimp only [Option.bind_some, Option.map_some, Option.getD_some] at h
  split at h
  · cases h
  rename_i number read
  split at h
  · cases h
  rename_i complete
  obtain ⟨rfl, rest⟩ := Prod.mk.inj (Option.some.inj h)
  obtain ⟨rfl, rfl⟩ := Prod.mk.inj rest
  rw [not_or, not_not] at complete
  refine ⟨?_, ?_, ?_⟩
  · rw [read, Rat.coe_int_num_of_den_eq_one complete.1]
  · by_cases none' : value "content_type" = []
    · rw [none', if_pos rfl]
      rfl
    · have filled : String.ofList (value "content_type") ≠ "" :=
        fun same => none' (String.ofList_eq_empty_iff.mp same)
      rw [if_neg none', Option.filter_some, if_pos (decide_eq_true filled)]
  · rw [normalizedAddress, String.toList_ofList]

/-! ### The report as an object -/

theorem afterLast_part {marker text tail : List Char} (h : afterLast marker text = some tail) :
    tail <:+ text ∧ tail.length + marker.length ≤ text.length := by
  induction text generalizing tail with
  | nil => cases h
  | cons c rest ih =>
    rw [afterLast] at h
    split at h
    · rename_i later found
      cases h
      obtain ⟨part, short⟩ := ih found
      refine ⟨part.trans (List.suffix_cons c rest), ?_⟩
      rw [List.length_cons]
      omega
    split at h
    · rename_i front
      cases h
      have within := (List.isPrefixOf_iff_prefix.mp front).length_le
      refine ⟨List.drop_suffix _ _, ?_⟩
      rw [List.length_drop]
      omega
    · cases h

/-- The marker that is there is the last one, or another one follows it. -/
theorem afterLast_marker {marker : List Char} (filled : marker ≠ []) (front rest : List Char) :
    ∃ tail, afterLast marker (front ++ (marker ++ rest)) = some tail ∧ tail <:+ rest := by
  induction front with
  | nil =>
    obtain ⟨c, more, rfl⟩ := List.exists_cons_of_ne_nil filled
    rw [List.nil_append, List.cons_append, afterLast]
    cases later : afterLast (c :: more) (more ++ rest) with
    | some tail =>
      obtain ⟨part, short⟩ := afterLast_part later
      refine ⟨tail, rfl, List.suffix_of_suffix_length_le part (List.suffix_append more rest) ?_⟩
      rw [List.length_cons, List.length_append] at short
      omega
    | none =>
      have own : (c :: more).isPrefixOf (c :: (more ++ rest)) = true :=
        List.isPrefixOf_iff_prefix.mpr ⟨rest, rfl⟩
      refine ⟨rest, ?_, List.suffix_refl rest⟩
      dsimp only
      rw [if_pos own, ← List.cons_append, List.drop_left]
  | cons c front ih =>
    obtain ⟨tail, found, part⟩ := ih
    rw [List.cons_append, afterLast, found]
    exact ⟨tail, rfl, part⟩

/-- A transfer as curl writes it into an object: each variable once, strings with escapes that
are read back and without line feeds, other values in texts that are read as these. -/
structure Report (format : NumberFormat) where
  escape : Char → List Char
  fields : List Member
  sound : JsonStrings.Sound escape
  line : ∀ c, '\n' ∉ escape c
  plain : ∀ field ∈ fields, Plain escape field
  written : ∀ field ∈ fields, Written format field.text field.value
  unique : (fields.map Member.key).Nodup
  status : ℚ
  contentType : Option String
  peer : String
  http_code : ∃ text, ⟨"http_code", text, .num status⟩ ∈ fields
  content_type : ∃ text, ⟨"content_type", text, contentType.elim .null .str⟩ ∈ fields
  remote_ip : ∃ text, ⟨"remote_ip", text, .str peer⟩ ∈ fields

section Reports
variable {format : NumberFormat} (report : Report format)

theorem Report.filled : report.fields ≠ [] := by
  obtain ⟨_, mem⟩ := report.http_code
  exact List.ne_nil_of_mem mem

theorem Report.field {name : String} {text : List Char} {value : Json}
    (mem : ⟨name, text, value⟩ ∈ report.fields) :
    (Json.obj (report.fields.map fun field => (field.key, field.value))).field name =
      some value := by
  refine RequestRendering.lookup_of_mem ?_ (List.mem_map.mpr ⟨_, mem, rfl⟩)
  rw [List.map_map]
  exact report.unique

theorem solid_line {text : List Char} (solid : Solid text) : '\n' ∉ text := fun mem =>
  absurd (solid _ mem).1 (by decide)

theorem members_line {escape : Char → List Char} (line : ∀ c, '\n' ∉ escape c)
    {fields : List Member} (plain : ∀ field ∈ fields, Plain escape field) :
    '\n' ∉ members fields := by
  induction fields with
  | nil => exact List.not_mem_nil
  | cons field fields ih =>
    obtain ⟨own, later⟩ := List.forall_mem_cons.mp plain
    have text : '\n' ∉ field.text := by
      rcases own.text with solid | ⟨content, shape⟩
      · exact solid_line solid
      · rw [shape, literal]
        intro mem
        rcases List.mem_cons.mp mem with same | mem
        · exact absurd same (by decide)
        rcases List.mem_append.mp mem with mem | mem
        · obtain ⟨c, _, inside⟩ := List.mem_flatMap.mp mem
          exact line c inside
        · exact absurd (List.mem_singleton.mp mem) (by decide)
    have key := solid_line own.key.solid
    have rest := ih later
    rw [members, JsonStrings.quote, own.key.quoted]
    simp only [List.mem_cons, List.mem_append, List.mem_nil_iff, or_false, not_or]
    exact ⟨by decide, ⟨⟨by decide, key⟩, by decide⟩, by decide, text, rest⟩

theorem Report.line' : '\n' ∉ object report.fields := by
  have inside := members_line report.line report.plain
  rw [object, List.mem_cons, List.mem_append, List.mem_singleton, not_or, not_or]
  exact ⟨by decide, fun mem => inside (List.mem_of_mem_tail mem), by decide⟩

/-- Of the lines that start inside the object, only its own is an object. -/
theorem Report.tail {tail : List Char} (part : tail <:+ object report.fields ++ ['\n'])
    {found : List (String × Json)}
    (h : read format ((lines (String.ofList tail)).headD []) = some (.obj found)) :
    found = report.fields.map fun field => (field.key, field.value) := by
  rcases List.suffix_concat_iff.mp part with rfl | ⟨line, rfl, inside⟩
  · cases h
  · have single : '\n' ∉ line := fun mem => report.line' (inside.subset mem)
    have ended : line.getLast? ≠ some '\r' := by
      intro last
      obtain ⟨before, whole⟩ := inside
      have own : (object report.fields).getLast? = some '\x7d' := by
        rw [object, ← List.cons_append, List.getLast?_concat]
      rw [← whole, List.getLast?_append, last] at own
      exact absurd (Option.some.inj own) (by decide)
    rw [lines_cons single ended, List.headD_cons] at h
    rw [read_suffix report.sound report.plain inside h,
      (written_object report.filled report.written).read] at h
    cases h
    rfl

theorem parseCurlMetadata_truthful (env : Environment) (url : Url)
    (request : CimdPinnedFetchRequest) (addresses : List String) :
    Truthful (parseCurlMetadata format env (errorStream (fun _ => object report.fields)
      (cimdCurlArgs env url request addresses))) (some report.status)
      (report.contentType.getD "").toList report.peer.toList := by
  intro code type address h
  obtain ⟨tail, last, part⟩ := @afterLast_marker CIMD_CURL_METADATA_MARKER.toList (by decide)
    ['\n'] (object report.fields ++ ['\n'])
  rw [errorStream_cimdCurlArgs, parseCurlMetadata, String.toList_ofList,
    show '\n' :: CIMD_CURL_METADATA_MARKER.toList ++ (object report.fields ++ ['\n']) =
      ['\n'] ++ (CIMD_CURL_METADATA_MARKER.toList ++ (object report.fields ++ ['\n'])) from rfl,
    last] at h
  dsimp only at h
  split at h
  · rename_i fields inside
    obtain ⟨_, codeMem⟩ := report.http_code
    obtain ⟨_, typeMem⟩ := report.content_type
    obtain ⟨_, peerMem⟩ := report.remote_ip
    rw [report.tail part inside, report.field codeMem, report.field typeMem,
      report.field peerMem] at h
    dsimp only [Option.bind_some, numberOf] at h
    split at h
    · cases h
    rename_i complete
    obtain ⟨rfl, rest⟩ := Prod.mk.inj (Option.some.inj h)
    obtain ⟨rfl, rfl⟩ := Prod.mk.inj rest
    rw [not_or, not_not] at complete
    refine ⟨?_, ?_, rfl⟩
    · rw [Rat.coe_int_num_of_den_eq_one complete.1]
    · cases report.contentType with
      | none => rfl
      | some type =>
        dsimp only [Option.elim_some, Option.getD_some]
        rw [String.ofList_toList]
        exact if_congr String.toList_eq_nil_iff.symm rfl rfl
  · cases h

end Reports

/-! ### No other report -/

/-- Neither parser returns anything that curl did not report, whatever the server says, as long
as no value in the portable template contains a line feed or ends in a carriage return. -/
theorem metadata_unspoofed {format : NumberFormat} (env : Environment)
    {value : String → List Char} (single : ∀ name, '\n' ∉ value name)
    (ended : ∀ name, (value name).getLast? ≠ some '\r') (report : Report format) (url : Url)
    (request : CimdPinnedFetchRequest) (address : String) (timeoutMs : Int)
    (addresses : List String) :
    Truthful (parseMetadata env (errorStream value (curlArgs env url request address timeoutMs)))
      (env.web.number (String.ofList (value "http_code"))) (value "content_type")
      (value "remote_ip") ∧
    Truthful (parseCurlMetadata format env (errorStream (fun _ => object report.fields)
      (cimdCurlArgs env url request addresses))) (some report.status)
      (report.contentType.getD "").toList report.peer.toList :=
  ⟨parseMetadata_truthful env single ended url request address timeoutMs,
    parseCurlMetadata_truthful report env url request addresses⟩

def sampleUrl : Url := { protocol := "https:", hostname := "c.example" }

def sampleRequest : CimdPinnedFetchRequest := ⟨sampleId, ["93.184.216.34"], 8192, 3000⟩

/-- The values of a transfer with the given content type. -/
def sampleValue (contentType : List Char) (name : String) : List Char :=
  if name = "http_code" then ['2', '0', '0']
  else if name = "content_type" then contentType
  else "93.184.216.34".toList

theorem sampleValue_line {contentType : List Char} (single : '\n' ∉ contentType) (name : String) :
    '\n' ∉ sampleValue contentType name := by
  rw [sampleValue]
  split
  · decide
  split
  · exact single
  · decide

theorem quoteChar_line (c : Char) : '\n' ∉ JsonStrings.quoteChar c := by
  have digit : ∀ n : Fin 16, JsonStrings.hexChar n ≠ '\n' := by decide
  unfold JsonStrings.quoteChar
  split
  · rename_i special
    rcases special with rfl | rfl
    · decide
    · decide
  split
  · decide
  split
  · decide
  split
  · decide
  split
  · decide
  split
  · decide
  rename_i feed _ _
  split
  · have high := digit ⟨c.toNat / 16, by omega⟩
    have low := digit ⟨c.toNat % 16, by omega⟩
    simp only [List.mem_cons, List.mem_nil_iff, or_false, not_or]
    exact ⟨by decide, by decide, by decide, by decide, high.symm, low.symm⟩
  · rw [List.mem_singleton]
    rintro rfl
    exact feed rfl

theorem solid_of_all {text : List Char}
    (h : (text.all fun c => !whiteSpace c && decide (c ≠ '\x7b')) = true) : Solid text := by
  intro c mem
  have own := List.all_eq_true.mp h c mem
  rw [Bool.and_eq_true, Bool.not_eq_true', decide_eq_true_eq] at own
  exact own

def sampleReport : Report integers where
  escape := JsonStrings.quoteChar
  fields := [⟨"http_code", ['2', '0', '0'], .num 200⟩,
    ⟨"content_type", literal JsonStrings.quoteChar "application/json".toList,
      .str "application/json"⟩,
    ⟨"remote_ip", literal JsonStrings.quoteChar "93.184.216.34".toList, .str "93.184.216.34"⟩]
  sound := JsonStrings.quoteChar_sound
  line := quoteChar_line
  plain := by
    refine List.forall_mem_cons.mpr ⟨⟨?_, Or.inl (solid_of_all (by decide))⟩,
      List.forall_mem_cons.mpr ⟨⟨?_, Or.inr ⟨_, rfl⟩⟩,
        List.forall_mem_singleton.mpr ⟨?_, Or.inr ⟨_, rfl⟩⟩⟩⟩
    · exact ⟨by decide, by decide, solid_of_all (by decide), by decide⟩
    · exact ⟨by decide, by decide, solid_of_all (by decide), by decide⟩
    · exact ⟨by decide, by decide, solid_of_all (by decide), by decide⟩
  written := by
    refine List.forall_mem_cons.mpr ⟨?_, List.forall_mem_cons.mpr
      ⟨written_literal JsonStrings.quoteChar_sound _, List.forall_mem_singleton.mpr
        (written_literal JsonStrings.quoteChar_sound _)⟩⟩
    obtain ⟨exact', shape⟩ := integers.integer 200 (by decide)
    have digits : (toString (200 : Int)).toList = ['2', '0', '0'] := by decide
    rw [digits] at shape
    exact shape ▸ written_number exact'
  unique := by decide
  status := 200
  contentType := some "application/json"
  peer := "93.184.216.34"
  http_code := ⟨_, List.mem_cons_self⟩
  content_type := ⟨_, List.mem_cons_of_mem _ List.mem_cons_self⟩
  remote_ip := ⟨_, List.mem_cons_of_mem _ (List.mem_cons_of_mem _ List.mem_cons_self)⟩

theorem metadata_unspoofed_sample : Truthful (parseMetadata sampleEnvironment
      (errorStream (sampleValue "application/json".toList)
        (curlArgs sampleEnvironment sampleUrl sampleRequest "93.184.216.34" 3000)))
      (some 200) "application/json".toList "93.184.216.34".toList ∧
    Truthful (parseCurlMetadata integers sampleEnvironment
      (errorStream (fun _ => object sampleReport.fields)
        (cimdCurlArgs sampleEnvironment sampleUrl sampleRequest ["93.184.216.34"]))) (some 200)
      "application/json".toList "93.184.216.34".toList := by
  have ended : ∀ name, (sampleValue "application/json".toList name).getLast? ≠ some '\r' := by
    intro name
    rw [sampleValue]
    split
    · decide
    split
    · decide
    · decide
  exact metadata_unspoofed sampleEnvironment (sampleValue_line (by decide)) ended sampleReport
    sampleUrl sampleRequest "93.184.216.34" 3000 ["93.184.216.34"]

/-- A carriage return at the end of the content type is lost. -/
theorem carriage_return_lost : ¬ ∀ (env : Environment) (value : String → List Char),
    (∀ name, '\n' ∉ value name) → ∀ (url : Url) (request : CimdPinnedFetchRequest)
      (address : String) (timeoutMs : Int),
      Truthful (parseMetadata env (errorStream value (curlArgs env url request address timeoutMs)))
        (env.web.number (String.ofList (value "http_code"))) (value "content_type")
        (value "remote_ip") := by
  intro truthful
  let type := "application/json\r".toList
  have found : parseMetadata sampleEnvironment (errorStream (sampleValue type)
      (curlArgs sampleEnvironment sampleUrl sampleRequest "93.184.216.34" 3000)) =
      some (200, some "application/json", "93.184.216.34") := by
    decide +kernel
  obtain ⟨_, same, _⟩ := truthful sampleEnvironment (sampleValue type)
    (sampleValue_line (by decide)) sampleUrl sampleRequest "93.184.216.34" 3000 _ _ _ found
  exact absurd same (by decide +kernel)

end CurlMetadata
