import TaskQueQue.FilesystemMutation
import TaskQueQue.FormattedJson
import TaskQueQue.JsonReading

/-!
# What is reported of a mutation

The helper ends with an exit code and, where it failed, one record on its standard error.
The gateway makes an answer of these, or of the helper's not starting, being killed or
taking too long. What the answer says of the target is compared with what is there.
-/

namespace MutationReports

open GatewayValues UrlValues FaultyDirectories StrictPaths PathValidators FilesystemMutation
open CapabilityAuth (encode)

/-! ### The helper -/

structure Exit where
  code : Nat
  stderr : String

def usage : Exit where
  code := 64
  stderr := "usage: robust-sinkhorn-fs-mutator <probe|write|mkdir> --root <absolute-root> " ++
    "[--path <relative-path>]\n"

/-- What follows the first argument of that name. -/
def parseFlag (name : String) : List String → Option String
  | [] => none
  | arg :: rest => if arg = name then rest.head? else parseFlag name rest

def errorCode : MutationError → String
  | .invalidRoot => "invalid_root"
  | .invalidPath => "invalid_path"
  | .payloadTooLarge => "payload_too_large"
  | .committedDurabilityUnknown _ => "committed_durability_unknown"
  | .io _ => "mutation_io_error"

def errorRecord (code : String) : String := "\x7b\"ok\":false,\"error\":\"" ++ code ++ "\"\x7d\n"

def exitOf : Except MutationError Unit → Exit
  | .ok _ => ⟨0, ""⟩
  | .error error => ⟨1, errorRecord (errorCode error)⟩

def reported (run : Directory CString × Except MutationError Unit) : Directory CString × Exit :=
  (run.1, exitOf run.2)

/-- The helper's run on its arguments and on what its standard input gives before it ends,
`none` if reading fails. -/
def main (k : Kernel) (args : List String) (stdin : Option (List UInt8)) (d : Directory CString) :
    Directory CString × Exit :=
  match args with
  | [] => (d, usage)
  | operation :: flags =>
    match parseFlag "--root" flags with
    | none => (d, usage)
    | some root =>
      if operation = "probe" then (d, exitOf (openRoot k (encode root)))
      else if operation = "mkdir" then
        match parseFlag "--path" flags with
        | none => (d, usage)
        | some path => reported (createDirectory k (encode root) (encode path) d)
      else if operation = "write" then
        match parseFlag "--path" flags with
        | none => (d, usage)
        | some path =>
          match stdin with
          | none => (d, ⟨1, errorRecord "stdin_read_error"⟩)
          | some bytes =>
            reported (atomicWrite k (encode root) (encode path) (bytes.take (1024 * 1024 + 1)) d)
      else (d, usage)

/-! ### The gateway's runner -/

structure FilesystemMutationResult where
  ok : Bool
  error : Option String

section Runner
variable (format : JsonText.NumberFormat)

/-- The error of a line that is one of the helper's records. -/
def recordedError (line : List Char) : Option String :=
  match JsonText.read format line with
  | some (.obj fields) =>
    match fields.lookup "ok", fields.lookup "error" with
    | some (.bool false), some (.str error) => some error
    | _, _ => none
  | _ => none

def parseMutatorError (stderr : String) : String :=
  ((lines (trim stderr)).reverse.findSome? (recordedError format)).getD "mutation_process_error"

def MAX_STDERR : Nat := 16384

def closed (code : Option Nat) (stderr : List Char) : FilesystemMutationResult :=
  if code = some 0 then ⟨true, none⟩
  else ⟨false, some (parseMutatorError format (String.ofList (stderr.take MAX_STDERR)))⟩

/-- How the helper's process ends. One that is killed has no exit code; it may have written
a part of its record by then, and otherwise leaves the directory in whatever state it was. -/
inductive Child
  | unavailable
  | finished
  | cut (written : Nat)
  | killed (left : Directory CString)
  | timeout (left : Directory CString)

def filesystemMutationRunner (child : Child) (helper : Directory CString × Exit)
    (before : Directory CString) : Directory CString × FilesystemMutationResult :=
  match child with
  | .unavailable => (before, ⟨false, some "mutation_process_unavailable"⟩)
  | .finished => (helper.1, closed format (some helper.2.code) helper.2.stderr.toList)
  | .cut written => (helper.1, closed format none (helper.2.stderr.toList.take written))
  | .killed left => (left, closed format none [])
  | .timeout left => (left, ⟨false, some "mutation_process_timeout"⟩)

end Runner

/-! ### The gateway's answer -/

def unknownOutcome : List (String × Json) :=
  [("committed", .str "unknown"), ("durability", .str "unknown"), ("retry_safe", .bool false)]

def mapMutationFailure (error : Option String) : FilesystemMutationBoundaryError :=
  match error with
  | some "invalid_root" | some "mutation_process_unavailable" =>
    ⟨503, "filesystem_mutator_unavailable", "filesystem mutation provider is unavailable", []⟩
  | some "mutation_process_timeout" =>
    ⟨504, "filesystem_mutation_outcome_unknown",
      "filesystem mutation timed out without a final proof; it may already have committed, " ++
        "so do not retry blindly", unknownOutcome⟩
  | some "mutation_process_error" =>
    ⟨500, "filesystem_mutation_outcome_unknown",
      "filesystem mutator exited without a final proof; it may already have committed, " ++
        "so do not retry blindly", unknownOutcome⟩
  | some "invalid_path" =>
    ⟨400, "invalid_path", "mutation path was rejected by the Rust boundary", []⟩
  | some "payload_too_large" =>
    ⟨413, "filesystem_payload_too_large", "filesystem mutation payload exceeds 1 MiB", []⟩
  | some "committed_durability_unknown" =>
    ⟨500, "filesystem_committed_durability_unknown",
      "filesystem mutation committed but durability could not be proven; do not retry blindly",
      [("committed", .bool true), ("durability", .str "unknown"), ("retry_safe", .bool false)]⟩
  | some "mutation_io_error" =>
    ⟨500, "filesystem_mutation_failed", "filesystem mutation failed before commit",
      [("committed", .bool false), ("retry_safe", .bool true)]⟩
  | _ =>
    ⟨500, "filesystem_mutation_outcome_unknown",
      "filesystem mutation ended without a recognized proof state; do not retry blindly",
      unknownOutcome⟩

def errorResponse (error : FilesystemMutationBoundaryError) : Response :=
  ⟨error.status, some (.obj [("error",
    .obj ([("code", .str error.code), ("message", .str error.message)] ++ error.details))])⟩

/-- The end of the handler, once the runner has a result. -/
def answer (operation path : String) (result : FilesystemMutationResult) : Response :=
  if result.ok then
    ⟨200, some (.obj [("operation", .str operation), ("path", .str path),
      ("committed", .bool true), ("durability", .str "synced")])⟩
  else errorResponse (mapMutationFailure result.error)

/-! ### A request from end to end -/

/-- The configured root, which the configuration takes only as an absolute path. -/
structure DelegatedRoot where
  path : String
  absolute : PosixPaths.isAbsolute path = true

inductive Mutation
  | write (payload : List UInt8)
  | mkdir

def Mutation.operation : Mutation → String
  | .write _ => "write"
  | .mkdir => "mkdir"

def Mutation.payload : Mutation → List UInt8
  | .write payload => payload
  | .mkdir => []

/-- What the target is to be. -/
def Mutation.node (k : Kernel) : Mutation → Node
  | .write payload => .file payload (k.mode 0o600)
  | .mkdir => .directory (k.mode 0o700)

def arguments (root : DelegatedRoot) (path : String) (m : Mutation) : List String :=
  [m.operation, "--root", root.path, "--path", path]

def perform (k : Kernel) (root : DelegatedRoot) (path : String) (m : Mutation)
    (d : Directory CString) : Directory CString × Except MutationError Unit :=
  match m with
  | .write payload => atomicWrite k (encode root.path) (encode path) payload d
  | .mkdir => createDirectory k (encode root.path) (encode path) d

/-- The target is what was asked for. -/
def Done (k : Kernel) (path : String) (m : Mutation) (after : Directory CString) : Prop :=
  ∃ leaf, target (encode path) = some leaf ∧ after leaf = some (m.node k)

/-- The target is as it was; without a target, so is everything. -/
def Unchanged (path : String) (before after : Directory CString) : Prop :=
  match target (encode path) with
  | some leaf => after leaf = before leaf
  | none => after = before

/-- What a mutation returns is so. -/
def Truthful (k : Kernel) (root : DelegatedRoot) (path : String) (m : Mutation)
    (d : Directory CString) : Prop :=
  match (perform k root path m d).2 with
  | .ok _ | .error (.committedDurabilityUnknown _) => Done k path m (perform k root path m d).1
  | .error _ => Unchanged path d (perform k root path m d).1

/-- What an answer says in one of its fields. -/
def stated (response : Response) (name : String) : Option Json :=
  response.body.bind fun body => ((body.field "error").getD body).field name

/-- An answer that says no more of the target than is so. -/
structure Consistent (response : Response) (done unchanged : Prop) : Prop where
  committed : stated response "committed" = some (.bool true) → done
  uncommitted : stated response "committed" = some (.bool false) → unchanged
  silent : stated response "committed" = none → unchanged
  retry : stated response "retry_safe" = some (.bool true) → unchanged
  unknown : stated response "committed" = some (.str "unknown") →
    stated response "retry_safe" = some (.bool false)

/-- The helper as the gateway starts it. -/
def helper (k : Kernel) (root : DelegatedRoot) (path : String) (m : Mutation)
    (stdin : Option (List UInt8)) (d : Directory CString) : Directory CString × Exit :=
  main k (arguments root path m) stdin d

/-- The target is absent, the first free name that is drawn is its own, the write stops before
it is renamed, and the file cannot be removed. -/
def Overlaps (k : Kernel) (root : DelegatedRoot) (path : String) (m : Mutation)
    (d : Directory CString) : Prop :=
  ∃ payload leaf, m = .write payload ∧
    Begun k (encode root.path) (encode path) payload d leaf leaf ∧ Stops k d leaf ∧
    k.unlink.isSome = true

theorem unchanged_refl (path : String) (d : Directory CString) : Unchanged path d d := by
  unfold Unchanged
  split
  · rfl
  · rfl

theorem unchanged_iff {path : String} {leaf : CString} {before after : Directory CString}
    (named : target (encode path) = some leaf) :
    Unchanged path before after ↔ after leaf = before leaf := by
  unfold Unchanged
  rw [named]

theorem done_iff {k : Kernel} {path : String} {m : Mutation} {leaf : CString}
    {after : Directory CString} (named : target (encode path) = some leaf) :
    Done k path m after ↔ after leaf = some (m.node k) := by
  constructor
  · rintro ⟨found, same, there⟩
    rw [named, Option.some.injEq] at same
    rw [same, there]
  · exact fun there => ⟨leaf, named, there⟩

theorem parseFlag_arguments (root : DelegatedRoot) (path : String) :
    parseFlag "--root" ["--root", root.path, "--path", path] = some root.path ∧
      parseFlag "--path" ["--root", root.path, "--path", path] = some path := by
  have apart : root.path ≠ "--path" := by
    intro same
    have absolute := root.absolute
    rw [same] at absolute
    exact absurd absolute (by decide)
  refine ⟨rfl, ?_⟩
  rw [parseFlag, if_neg (by decide), parseFlag, if_neg apart, parseFlag, if_pos rfl]
  rfl

/-- The helper reads one byte more than it takes. -/
theorem atomicWrite_take (k : Kernel) (root path bytes : List UInt8) (d : Directory CString) :
    atomicWrite k root path (bytes.take (1024 * 1024 + 1)) d = atomicWrite k root path bytes d := by
  by_cases large : MAX_WRITE_BYTES < bytes.length
  · unfold atomicWrite
    rw [if_pos large, if_pos]
    rw [List.length_take, Nat.lt_min]
    exact ⟨by decide, large⟩
  · rw [List.take_of_length_le]
    exact Nat.le_succ_of_le (Nat.not_lt.mp large)

/-- The helper writes what it is given, whatever was to be written. -/
theorem helper_write (k : Kernel) (root : DelegatedRoot) (path : String) (payload : List UInt8)
    (d : Directory CString) :
    helper k root path (.write payload) none d = (d, ⟨1, errorRecord "stdin_read_error"⟩) ∧
    ∀ bytes, helper k root path (.write payload) (some bytes) d =
      reported (perform k root path (.write bytes) d) := by
  obtain ⟨ofRoot, ofPath⟩ := parseFlag_arguments root path
  have run : ∀ stdin, helper k root path (.write payload) stdin d =
      match stdin with
      | none => (d, ⟨1, errorRecord "stdin_read_error"⟩)
      | some bytes => reported (atomicWrite k (encode root.path) (encode path)
          (bytes.take (1024 * 1024 + 1)) d) := by
    intro stdin
    show main k ("write" :: ["--root", root.path, "--path", path]) stdin d = _
    rw [main, ofRoot]
    dsimp only
    rw [if_neg (by decide), if_neg (by decide), if_pos rfl, ofPath]
  refine ⟨run none, fun bytes => ?_⟩
  exact (run (some bytes)).trans (congrArg reported (atomicWrite_take k _ _ bytes d))

theorem helper_mkdir (k : Kernel) (root : DelegatedRoot) (path : String)
    (stdin : Option (List UInt8)) (d : Directory CString) :
    helper k root path .mkdir stdin d = reported (perform k root path .mkdir d) := by
  obtain ⟨ofRoot, ofPath⟩ := parseFlag_arguments root path
  show main k ("mkdir" :: ["--root", root.path, "--path", path]) stdin d = _
  rw [main, ofRoot]
  dsimp only
  rw [if_neg (by decide), if_pos rfl, ofPath]
  rfl

/-! ### Truth -/

/-- How a mutation may have ended: done and said so, or refused with nothing changed. -/
inductive Settled (k : Kernel) (path : String) (m : Mutation) (before : Directory CString) :
    Directory CString × Except MutationError Unit → Prop
  | done {after : Directory CString} (there : Done k path m after) :
      Settled k path m before (after, syncedParent k)
  | refused {after : Directory CString} {error : MutationError} (plain : Uncommitted error)
      (same : Unchanged path before after) : Settled k path m before (after, .error error)

theorem perform_settled {k : Kernel} {root : DelegatedRoot} {path : String} {m : Mutation}
    {d : Directory CString} (apart : ¬ Overlaps k root path m d) :
    Settled k path m d (perform k root path m d) := by
  cases m with
  | write payload =>
    rw [perform]
    by_cases begun : ∃ leaf temp, Begun k (encode root.path) (encode path) payload d leaf temp
    · obtain ⟨leaf, temp, begun⟩ := begun
      have named := target_of_openParent begun.opened
      by_cases stops : Stops k d leaf
      · obtain ⟨io, run⟩ := atomicWrite_stops begun stops
        rw [run]
        refine .refused (fun _ same => nomatch same) ?_
        rw [unchanged_iff named, staged_unlinked (atomicWrite_begun begun).1, if_neg]
        rintro ⟨rfl, kept⟩
        exact apart ⟨payload, leaf, rfl, begun, stops, kept⟩
      · obtain ⟨after, run, content⟩ := atomicWrite_commits begun stops
        rw [run]
        exact .done ⟨leaf, named, content⟩
    · obtain ⟨error, run, plain⟩ := atomicWrite_refused begun
      rw [run]
      exact .refused plain (unchanged_refl path d)
  | mkdir =>
    rw [perform]
    rcases createDirectory_cases k (encode root.path) (encode path) d with
      ⟨error, run, plain⟩ | ⟨leaf, after, opened, run, made⟩
    · rw [run]
      exact .refused plain (unchanged_refl path d)
    · rw [run]
      exact .done ⟨leaf, target_of_openParent opened, made⟩

theorem truthful_of_settled {k : Kernel} {root : DelegatedRoot} {path : String} {m : Mutation}
    {d : Directory CString} (settled : Settled k path m d (perform k root path m d)) :
    Truthful k root path m d := by
  unfold Truthful
  generalize perform k root path m d = run at settled
  cases settled with
  | done there =>
    unfold syncedParent
    cases k.syncParent with
    | none => exact there
    | some io => exact there
  | refused plain same =>
    rename_i after error
    cases error with
    | committedDurabilityUnknown io => exact absurd rfl (plain io)
    | invalidRoot => exact same
    | invalidPath => exact same
    | payloadTooLarge => exact same
    | io _ => exact same

/-! ### The record -/

open FormattedJson (Member object) in
def recordMembers (code : String) : List Member :=
  [⟨"ok", "false".toList, .bool false⟩, ⟨"error", JsonStrings.quote code.toList, .str code⟩]

def record (code : String) : List Char := FormattedJson.object (recordMembers code)

/-- The codes of the helper need no escapes. -/
structure PlainCode (code : String) : Prop where
  quoted : code.toList.flatMap JsonStrings.quoteChar = code.toList
  line : '\n' ∉ code.toList
  brace : '\x7d' ∉ code.toList
  small : code.toList.length < 64

theorem errorCode_plain : ∀ error, PlainCode (errorCode error)
  | .invalidRoot => show PlainCode "invalid_root" by constructor <;> decide +kernel
  | .invalidPath => show PlainCode "invalid_path" by constructor <;> decide +kernel
  | .payloadTooLarge => show PlainCode "payload_too_large" by constructor <;> decide +kernel
  | .committedDurabilityUnknown _ =>
    show PlainCode "committed_durability_unknown" by constructor <;> decide +kernel
  | .io _ => show PlainCode "mutation_io_error" by constructor <;> decide +kernel

/-- The text of a record before its code. -/
def stem : List Char :=
  '\x7b' :: (JsonStrings.quote "ok".toList ++ ':' :: ("false".toList ++
    ',' :: (JsonStrings.quote "error".toList ++ [':', '"'])))

theorem record_shape {code : String} (plain : PlainCode code) :
    record code = stem ++ code.toList ++ ['"'] ++ ['\x7d'] := by
  simp only [stem, record, recordMembers, FormattedJson.object, FormattedJson.members,
    List.tail_cons, JsonStrings.quote, plain.quoted, List.append_assoc, List.cons_append,
    List.nil_append, List.append_nil]

theorem errorRecord_toList {code : String} (plain : PlainCode code) :
    (errorRecord code).toList = record code ++ ['\n'] := by
  have text : ∀ {first last : String}, first.toList = stem → last.toList = ['"', '\x7d', '\n'] →
      (first ++ code ++ last).toList = record code ++ ['\n'] := by
    intro first last front back
    rw [record_shape plain, String.toList_append, String.toList_append, front, back]
    simp only [List.append_assoc, List.cons_append, List.nil_append]
  exact text (by decide +kernel) (by decide +kernel)

variable {format : JsonText.NumberFormat}

theorem recordedError_record (code : String) : recordedError format (record code) = some code := by
  have falsity : FormattedJson.Written format "false".toList (.bool false) :=
    @FormattedJson.written_render format (.bool false) (by simp only [JsonText.Exact])
  have quoted : FormattedJson.Written format (JsonStrings.quote code.toList) (.str code) :=
    FormattedJson.written_literal JsonStrings.quoteChar_sound code
  have written : ∀ field ∈ recordMembers code,
      FormattedJson.Written format field.text field.value := by
    unfold recordMembers
    exact List.forall_mem_cons.mpr ⟨falsity, List.forall_mem_singleton.mpr quoted⟩
  have read := (FormattedJson.written_object (List.cons_ne_nil _ _) written).read
  unfold recordedError
  rw [show record code = FormattedJson.object (recordMembers code) from rfl, show
    JsonText.read format (FormattedJson.object (recordMembers code)) = _ from read]
  rfl

/-- A text between black characters is kept by `trim`, without the white after it. -/
theorem trimChars_framed {first last : Char} (middle : List Char) {tail : List Char}
    (front : isWhite first = false) (back : isWhite last = false)
    (white : ∀ c ∈ tail, isWhite c = true) :
    trimChars (first :: middle ++ [last] ++ tail) = first :: middle ++ [last] := by
  have ending : (tail.reverse ++ last :: (first :: middle).reverse).dropWhile isWhite =
      last :: (first :: middle).reverse := by
    rw [List.dropWhile_append_of_pos fun c mem => white c (List.mem_reverse.mp mem),
      List.dropWhile_cons_of_neg (by rw [back]; exact Bool.false_ne_true)]
  unfold trimChars
  rw [List.cons_append, List.cons_append,
    List.dropWhile_cons_of_neg (by rw [front]; exact Bool.false_ne_true), ← List.cons_append,
    ← List.cons_append, List.reverse_append, List.reverse_append, List.reverse_singleton,
    List.singleton_append, ending, List.reverse_cons, List.reverse_reverse]

theorem mem_of_mem_trimChars {chars : List Char} {c : Char} (mem : c ∈ trimChars chars) :
    c ∈ chars := by
  have inner := (List.dropWhile_suffix isWhite).subset (List.mem_reverse.mp mem)
  exact (List.dropWhile_suffix isWhite).subset (List.mem_reverse.mp inner)

theorem mem_of_mem_lines {chars line : List Char} (mem : line ∈ lines (String.ofList chars)) :
    ∀ c ∈ line, c ∈ chars := by
  have part : ∀ part ∈ chars.splitOn '\n', ∀ c ∈ part, c ∈ chars := by
    rw [List.splitOn_eq_splitOnP]
    exact PosixPaths.mem_of_mem_splitOnP chars
  rw [lines, String.toList_ofList] at mem
  rcases List.mem_append.mp mem with mem | mem
  · obtain ⟨source, inside, rfl⟩ := List.mem_map.mp mem
    have own := part source (List.dropLast_subset _ inside)
    split
    · exact fun c mem => own c (List.dropLast_subset _ mem)
    · exact own
  · exact part line (List.mem_of_getLast? (Option.mem_toList.mp mem))

theorem lines_single {chars : List Char} (whole : '\n' ∉ chars) :
    lines (String.ofList chars) = [chars] := by
  rw [lines, String.toList_ofList, List.splitOn_eq_singleton whole]
  rfl

/-- A record is read back, with its line end or without. -/
theorem parseMutatorError_record {code : String} (plain : PlainCode code) {tail : List Char}
    (white : ∀ c ∈ tail, isWhite c = true) :
    parseMutatorError format (String.ofList (record code ++ tail)) = code := by
  have trimmed : trim (String.ofList (record code ++ tail)) = String.ofList (record code) := by
    rw [trim, String.toList_ofList, record_shape plain]
    exact congrArg String.ofList (trimChars_framed _ (by decide) (by decide) white)
  have whole : '\n' ∉ record code := by
    rw [record_shape plain]
    simp only [List.mem_append, not_or]
    exact ⟨⟨⟨by decide, plain.line⟩, by decide⟩, by decide⟩
  rw [parseMutatorError, trimmed, lines_single whole, List.reverse_singleton,
    List.findSome?_singleton, recordedError_record]
  rfl

/-- Where no brace is closed, no record is found. -/
theorem parseMutatorError_open {chars : List Char} (open' : '\x7d' ∉ chars) :
    parseMutatorError format (String.ofList chars) = "mutation_process_error" := by
  have none' : ∀ line ∈ (lines (trim (String.ofList chars))).reverse,
      recordedError format line = none := by
    intro line mem
    rw [trim, String.toList_ofList] at mem
    have inside := mem_of_mem_lines (List.mem_reverse.mp mem)
    unfold recordedError
    split
    · rename_i fields read
      have brace := inside _ (JsonReading.read_object_closed read)
      exact absurd (mem_of_mem_trimChars brace) open'
    · rfl
  rw [parseMutatorError, List.findSome?_eq_none_iff.mpr none']
  rfl

/-- A record that is cut off before its last brace is none. -/
theorem parseMutatorError_cut {code : String} (plain : PlainCode code) (written : Nat) :
    parseMutatorError format
        (String.ofList (((errorRecord code).toList.take written).take MAX_STDERR)) ∈
      [code, "mutation_process_error"] := by
  have short : (record code).length < MAX_STDERR := by
    have small := plain.small
    rw [record_shape plain]
    simp only [List.length_append, List.length_singleton, show stem.length = 21 by decide,
      MAX_STDERR]
    omega
  rw [List.take_take, errorRecord_toList plain]
  by_cases few : min MAX_STDERR written < (record code).length
  · rw [parseMutatorError_open]
    · exact List.mem_cons_of_mem _ List.mem_cons_self
    · rw [record_shape plain] at few ⊢
      rw [List.length_append, List.length_singleton] at few
      rw [List.append_assoc, List.take_append_of_le_length (Nat.le_of_lt_succ few)]
      intro mem
      have inside := List.mem_of_mem_take mem
      simp only [List.mem_append] at inside
      rcases inside with (first | own) | last
      · exact absurd first (by decide)
      · exact plain.brace own
      · exact absurd last (by decide)
  · obtain ⟨more, rest⟩ := Nat.exists_eq_add_of_le (Nat.not_lt.mp few)
    rw [rest, List.take_length_add_append, parseMutatorError_record plain]
    · exact List.mem_cons_self
    · intro c mem
      rw [List.mem_singleton.mp (List.mem_of_mem_take mem)]
      decide

/-! ### What the answers say -/

theorem stated_errorResponse (error : FilesystemMutationBoundaryError) :
    stated (errorResponse error) "committed" = error.details.lookup "committed" ∧
      stated (errorResponse error) "retry_safe" = error.details.lookup "retry_safe" :=
  ⟨rfl, rfl⟩

section Answers
variable {operation path : String} {done unchanged : Prop}

theorem consistent_done (there : done) :
    Consistent (answer operation path ⟨true, none⟩) done unchanged := by
  have committed : stated (answer operation path ⟨true, none⟩) "committed" = some (.bool true) := rfl
  have retry : stated (answer operation path ⟨true, none⟩) "retry_safe" = none := rfl
  refine ⟨fun _ => there, fun h => ?_, fun h => ?_, fun h => ?_, fun h => ?_⟩
  · exact nomatch committed.symm.trans h
  · exact nomatch committed.symm.trans h
  · exact nomatch retry.symm.trans h
  · exact nomatch committed.symm.trans h

/-- An error that leaves the outcome open says nothing of the target. -/
theorem consistent_unknown {error : FilesystemMutationBoundaryError}
    (details : error.details = unknownOutcome) :
    Consistent (errorResponse error) done unchanged := by
  obtain ⟨committed, retry⟩ := stated_errorResponse error
  rw [details] at committed retry
  refine ⟨fun h => ?_, fun h => ?_, fun h => ?_, fun h => ?_, fun _ => retry⟩
  · exact nomatch committed.symm.trans h
  · exact nomatch committed.symm.trans h
  · exact nomatch committed.symm.trans h
  · exact nomatch retry.symm.trans h

/-- An error without details, or one that denies the commit, says that nothing changed. -/
theorem consistent_unchanged {error : FilesystemMutationBoundaryError}
    (details : error.details = [] ∨
      error.details = [("committed", .bool false), ("retry_safe", .bool true)])
    (same : unchanged) : Consistent (errorResponse error) done unchanged := by
  obtain ⟨committed, _⟩ := stated_errorResponse error
  rcases details with details | details
  · rw [details] at committed
    refine ⟨fun h => ?_, fun _ => same, fun _ => same, fun _ => same, fun h => ?_⟩
    · exact nomatch committed.symm.trans h
    · exact nomatch committed.symm.trans h
  · rw [details] at committed
    refine ⟨fun h => ?_, fun _ => same, fun _ => same, fun _ => same, fun h => ?_⟩
    · exact nomatch committed.symm.trans h
    · exact nomatch committed.symm.trans h

theorem consistent_durability (there : done) :
    Consistent (answer operation path ⟨false, some "committed_durability_unknown"⟩) done
      unchanged := by
  have committed : stated (answer operation path ⟨false, some "committed_durability_unknown"⟩)
      "committed" = some (.bool true) := rfl
  have retry : stated (answer operation path ⟨false, some "committed_durability_unknown"⟩)
      "retry_safe" = some (.bool false) := rfl
  refine ⟨fun _ => there, fun h => ?_, fun h => ?_, fun h => ?_, fun _ => retry⟩
  · exact nomatch committed.symm.trans h
  · exact nomatch committed.symm.trans h
  · exact nomatch retry.symm.trans h

/-- The answer made of the helper's own record. -/
theorem consistent_refused {error : MutationError} (plain : Uncommitted error)
    (same : unchanged) :
    Consistent (answer operation path ⟨false, some (errorCode error)⟩) done unchanged := by
  cases error with
  | invalidRoot => exact consistent_unchanged (Or.inl rfl) same
  | invalidPath => exact consistent_unchanged (Or.inl rfl) same
  | payloadTooLarge => exact consistent_unchanged (Or.inl rfl) same
  | committedDurabilityUnknown io => exact absurd rfl (plain io)
  | io _ => exact consistent_unchanged (Or.inr rfl) same

end Answers

section Runner
variable {k : Kernel} {path : String} {m : Mutation} {before : Directory CString}

theorem Settled.ok {after : Directory CString} {u : Unit}
    (settled : Settled k path m before (after, .ok u)) : Done k path m after := by
  generalize same : (after, Except.ok u) = run at settled
  cases settled with
  | done there => exact (Prod.mk.inj same).1 ▸ there
  | refused _ _ => exact nomatch (Prod.mk.inj same).2

theorem Settled.error {after : Directory CString} {error : MutationError}
    (settled : Settled k path m before (after, .error error)) :
    (Uncommitted error ∧ Unchanged path before after) ∨
      (∃ io, error = .committedDurabilityUnknown io) ∧ Done k path m after := by
  generalize same : (after, Except.error error) = run at settled
  cases settled with
  | done there =>
    obtain ⟨rfl, result⟩ := Prod.mk.inj same
    unfold syncedParent at result
    split at result
    · rename_i io _
      cases result
      exact Or.inr ⟨⟨io, rfl⟩, there⟩
    · exact nomatch result
  | refused plain unchanged =>
    obtain ⟨rfl, result⟩ := Prod.mk.inj same
    cases result
    exact Or.inl ⟨plain, unchanged⟩

/-- What is read of a failed helper that is let finish, or that is cut off in its record. -/
theorem closed_record {code : String} (plain : PlainCode code) :
    closed format (some 1) (errorRecord code).toList = ⟨false, some code⟩ ∧
    ∀ written, closed format none ((errorRecord code).toList.take written) = ⟨false, some code⟩ ∨
      closed format none ((errorRecord code).toList.take written) =
        ⟨false, some "mutation_process_error"⟩ := by
  constructor
  · have small := plain.small
    have fits : (errorRecord code).toList.length ≤ MAX_STDERR := by
      rw [errorRecord_toList plain, record_shape plain]
      simp only [List.length_append, List.length_singleton, show stem.length = 21 by decide,
        MAX_STDERR]
      omega
    rw [closed, if_neg (by decide), List.take_of_length_le fits, errorRecord_toList plain,
      parseMutatorError_record plain (List.forall_mem_singleton.mpr (by decide))]
  · intro written
    have read := @parseMutatorError_cut format code plain written
    rw [closed, if_neg (by rintro ⟨⟩)]
    rcases List.mem_cons.mp read with same | same
    · exact Or.inl (by rw [same])
    · exact Or.inr (by rw [List.mem_singleton.mp same])

theorem closed_silent : closed format none [] = ⟨false, some "mutation_process_error"⟩ := by
  rw [closed, if_neg (by rintro ⟨⟩), List.take_nil, parseMutatorError_open List.not_mem_nil]

theorem consistent_error {operation : String} {after : Directory CString} {error : MutationError}
    (settled : Settled k path m before (after, .error error)) :
    Consistent (answer operation path ⟨false, some (errorCode error)⟩) (Done k path m after)
      (Unchanged path before after) := by
  rcases settled.error with ⟨plain, same⟩ | ⟨⟨io, rfl⟩, there⟩
  · exact consistent_refused plain same
  · exact consistent_durability there

/-- A settled mutation is answered truthfully, however the helper's process ends. -/
theorem consistent_of_settled {run : Directory CString × Except MutationError Unit}
    (settled : Settled k path m before run) (child : Child) :
    Consistent
      (answer m.operation path (filesystemMutationRunner format child (reported run) before).2)
      (Done k path m (filesystemMutationRunner format child (reported run) before).1)
      (Unchanged path before (filesystemMutationRunner format child (reported run) before).1) := by
  obtain ⟨after, result⟩ := run
  cases child with
  | unavailable => exact consistent_unchanged (Or.inl rfl) (unchanged_refl path before)
  | timeout left => exact consistent_unknown rfl
  | killed left =>
    rw [filesystemMutationRunner, closed_silent]
    exact consistent_unknown rfl
  | finished =>
    cases result with
    | ok u => exact consistent_done settled.ok
    | error error =>
      dsimp only [filesystemMutationRunner, reported, exitOf]
      rw [(closed_record (errorCode_plain error)).1]
      exact consistent_error settled
  | cut written =>
    cases result with
    | ok u =>
      dsimp only [filesystemMutationRunner, reported, exitOf]
      rw [show "".toList = [] from rfl, List.take_nil, closed_silent]
      exact consistent_unknown rfl
    | error error =>
      dsimp only [filesystemMutationRunner, reported, exitOf]
      rcases (@closed_record format _ (errorCode_plain error)).2 written with read | read
      · rw [read]
        exact consistent_error settled
      · rw [read]
        exact consistent_unknown rfl

/-- A helper that cannot read its input changes nothing, and says what is not understood. -/
theorem consistent_unread {operation : String} {done : Prop} (child : Child) :
    Consistent
      (answer operation path (filesystemMutationRunner format child
        (before, ⟨1, errorRecord "stdin_read_error"⟩) before).2) done
      (Unchanged path before (filesystemMutationRunner format child
        (before, ⟨1, errorRecord "stdin_read_error"⟩) before).1) := by
  have plain : PlainCode "stdin_read_error" := by constructor <;> decide +kernel
  cases child with
  | unavailable => exact consistent_unchanged (Or.inl rfl) (unchanged_refl path before)
  | timeout left => exact consistent_unknown rfl
  | killed left =>
    rw [filesystemMutationRunner, closed_silent]
    exact consistent_unknown rfl
  | finished =>
    dsimp only [filesystemMutationRunner]
    rw [(closed_record plain).1]
    exact consistent_unknown rfl
  | cut written =>
    dsimp only [filesystemMutationRunner]
    rcases (@closed_record format _ plain).2 written with read | read
    · rw [read]
      exact consistent_unknown rfl
    · rw [read]
      exact consistent_unknown rfl

end Runner

/-- What is reported of a mutation is true, to its caller and in whatever answer becomes of it,
unless the temporary file was the target itself and stays behind. -/
theorem reports_truthful_iff (format : JsonText.NumberFormat) (k : Kernel) (root : DelegatedRoot)
    (path : String) (m : Mutation) (d : Directory CString) :
    (Truthful k root path m d ∧ ∀ stdin child, stdin = none ∨ stdin = some m.payload →
      let ended := filesystemMutationRunner format child (helper k root path m stdin d) d
      Consistent (answer m.operation path ended.2) (Done k path m ended.1)
        (Unchanged path d ended.1)) ↔
    ¬ Overlaps k root path m d := by
  constructor
  · rintro ⟨truthful, _⟩ ⟨payload, leaf, rfl, begun, stops, kept⟩
    obtain ⟨io, run⟩ := atomicWrite_stops begun stops
    have fresh := (atomicWrite_begun begun).1
    unfold Truthful at truthful
    rw [perform, run] at truthful
    dsimp only at truthful
    rw [unchanged_iff (target_of_openParent begun.opened), staged_unlinked fresh,
      if_pos ⟨rfl, kept⟩, fresh] at truthful
    exact nomatch truthful
  · intro apart
    have settled := perform_settled apart
    refine ⟨truthful_of_settled settled, ?_⟩
    intro stdin child fed
    cases m with
    | mkdir =>
      dsimp only
      rw [helper_mkdir]
      exact consistent_of_settled settled child
    | write payload =>
      obtain ⟨unread, whole⟩ := helper_write k root path payload d
      rcases fed with rfl | rfl
      · dsimp only
        rw [unread]
        exact consistent_unread child
      · dsimp only [Mutation.payload]
        rw [whole payload]
        exact consistent_of_settled settled child

section Sample

/-- No call meets a fault, and every draw is zero. -/
def calmKernel : Kernel where
  snapshot := some (1, 2)
  hostRoot := none
  rootStep _ := none
  opened := some (1, 2)
  again := some (1, 2)
  step _ := none
  parent := .ok (some (1, 2))
  reopen := none
  readable := .ok (some (1, 2))
  pid := 7
  umask := 0
  draw _ := 0
  create _ := none
  write := none
  sync := none
  rename := none
  unlink := none
  makeDirectory := none
  syncParent := none

/-- The disk fills up after one byte, and the file cannot be removed. -/
def fullKernel : Kernel :=
  { calmKernel with
    write := some (1, ⟨.other, "No space left on device"⟩)
    unlink := some ⟨.other, "Input/output error"⟩ }

def sampleRoot : DelegatedRoot := ⟨"/srv", by decide⟩

def ownName : String := ".tqq-write-7-0000000000000000"

/-- A write to a name that is then drawn leaves a part of its payload there, and is reported
as not committed and safe to try again. -/
theorem leftover_reported_uncommitted :
    let before : Directory CString := fun _ => none
    let run := perform fullKernel sampleRoot ownName (.write [0x61, 0x62]) before
    let ended := filesystemMutationRunner JsonText.integers .finished
      (helper fullKernel sampleRoot ownName (.write [0x61, 0x62]) (some [0x61, 0x62]) before) before
    target (encode ownName) = some (tempName 7 0) ∧
      run.1 (tempName 7 0) = some (.file [0x61] 0o600) ∧
      run.2 = .error (.io ⟨.other, "No space left on device"⟩) ∧
      ended.1 (tempName 7 0) = some (.file [0x61] 0o600) ∧
      stated (answer "write" ownName ended.2) "committed" = some (.bool false) ∧
      stated (answer "write" ownName ended.2) "retry_safe" = some (.bool true) := by
  intro before run ended
  have failed : ended.2.ok = false ∧ ended.2.error = some "mutation_io_error" := by decide +kernel
  have answered : answer "write" ownName ended.2 =
      answer "write" ownName ⟨false, some "mutation_io_error"⟩ := by
    rw [answer, answer, failed.1, failed.2]
  refine ⟨by decide +kernel, by decide +kernel, by decide +kernel, by decide +kernel, ?_, ?_⟩
  · rw [answered]
    rfl
  · rw [answered]
    rfl

end Sample

/-! ### Payloads cut short -/

/-- The target is as it was, or holds all that was asked for. -/
def AllOrNothing (k : Kernel) (path : String) (content : List UInt8)
    (before after : Directory CString) : Prop :=
  Unchanged path before after ∨ Done k path (.write content) after

/-- What the helper has received is all of the content, or is not written: the write does not
get to its temporary file, or stops before it is renamed and does not leave it as the target,
or the target held the very same already. -/
def Tolerates (k : Kernel) (root : DelegatedRoot) (path : String) (content received : List UInt8)
    (d : Directory CString) : Prop :=
  ∀ leaf temp, Begun k (encode root.path) (encode path) received d leaf temp →
    (¬ Stops k d leaf → received = content ∨ d leaf = some (.file received (k.mode 0o600))) ∧
    (Stops k d leaf → leaf = temp → k.unlink.isSome = true → k.written received = content)

/-- The helper takes the end of its input for the end of the content. -/
theorem all_or_nothing_iff (k : Kernel) (root : DelegatedRoot) (path : String)
    (content : List UInt8) (delivered : Nat) (d : Directory CString) :
    AllOrNothing k path content d
        (helper k root path (.write content) (some (content.take delivered)) d).1 ↔
      Tolerates k root path content (content.take delivered) d := by
  generalize content.take delivered = received
  rw [(helper_write k root path content d).2 received]
  dsimp only [reported]
  rw [perform]
  constructor
  · intro held leaf temp begun
    have named := target_of_openParent begun.opened
    constructor
    · intro goes
      obtain ⟨after, run, written⟩ := atomicWrite_commits begun goes
      rw [run] at held
      dsimp only at held
      rcases held with same | done
      · rw [unchanged_iff named, written] at same
        exact Or.inr same.symm
      · rw [done_iff named, written] at done
        exact Or.inl (Node.file.inj (Option.some.inj done)).1
    · rintro stops rfl kept
      obtain ⟨io, run⟩ := atomicWrite_stops begun stops
      have fresh := (atomicWrite_begun begun).1
      rw [run] at held
      dsimp only at held
      rcases held with same | done
      · rw [unchanged_iff named, staged_unlinked fresh, if_pos ⟨rfl, kept⟩, fresh] at same
        exact nomatch same
      · rw [done_iff named, staged_unlinked fresh, if_pos ⟨rfl, kept⟩] at done
        exact (Node.file.inj (Option.some.inj done)).1
  · intro tolerates
    by_cases begun : ∃ leaf temp, Begun k (encode root.path) (encode path) received d leaf temp
    · obtain ⟨leaf, temp, begun⟩ := begun
      have named := target_of_openParent begun.opened
      obtain ⟨committed, stopped⟩ := tolerates leaf temp begun
      by_cases stops : Stops k d leaf
      · obtain ⟨io, run⟩ := atomicWrite_stops begun stops
        have fresh := (atomicWrite_begun begun).1
        rw [run]
        dsimp only
        by_cases stays : leaf = temp ∧ k.unlink.isSome = true
        · refine Or.inr ((done_iff named).mpr ?_)
          rw [staged_unlinked fresh, if_pos stays, stopped stops stays.1 stays.2]
          rfl
        · refine Or.inl ((unchanged_iff named).mpr ?_)
          rw [staged_unlinked fresh, if_neg stays]
      · obtain ⟨after, run, written⟩ := atomicWrite_commits begun stops
        rw [run]
        dsimp only
        rcases committed stops with whole | already
        · exact Or.inr ((done_iff named).mpr (by rw [written, whole]; rfl))
        · exact Or.inl ((unchanged_iff named).mpr (by rw [written, already]))
    · obtain ⟨error, run, _⟩ := atomicWrite_refused begun
      rw [run]
      exact Or.inl (unchanged_refl path d)

/-- The first of two bytes arrives, and becomes the file. -/
theorem prefix_committed :
    let before : Directory CString := fun _ => none
    let after := (helper calmKernel sampleRoot "note" (.write [0x61, 0x62])
      (some ([0x61, 0x62].take 1)) before).1
    let leaf : CString := ⟨[0x6e, 0x6f, 0x74, 0x65], by decide⟩
    target (encode "note") = some leaf ∧ before leaf = none ∧
      after leaf = some (.file [0x61] 0o600) ∧
      ¬ AllOrNothing calmKernel "note" [0x61, 0x62] before after := by
  intro before after leaf
  have named : target (encode "note") = some leaf := by decide +kernel
  have written : after leaf = some (.file [0x61] 0o600) := by decide +kernel
  refine ⟨named, rfl, written, ?_⟩
  rintro (same | done)
  · exact nomatch written.symm.trans ((unchanged_iff named).mp same)
  · have content := written.symm.trans ((done_iff named).mp done)
    exact absurd (Node.file.inj (Option.some.inj content)).1 (by decide)

end MutationReports
