import TaskQueQue.FilesystemReads
import TaskQueQue.ProcessLaunch
import TaskQueQue.RequestFingerprints

/-!
# From a listing to its entries

A client that has listed a directory asks for an entry by the path that was answered, a slash
and the entry's name. The path that was answered is a normal form of the one asked for; the
walk to the entry goes where the listing was taken, by whatever links, and one step on.
-/

namespace ListedEntries

open GatewayValues UrlValues PosixPaths SymlinkTrees FilesystemReads

/-! ### Normal forms of relative paths -/

/-- No part of the path is a double dot. -/
def Level (path : String) : Prop := ['.', '.'] ∉ split path

theorem foldl_pushRelative {parts stack : List Part} (level : ['.', '.'] ∉ parts) :
    parts.foldl pushRelative stack = parts.foldl push stack := by
  induction parts generalizing stack with
  | nil => rfl
  | cons part rest ih =>
    obtain ⟨first, later⟩ := not_or.mp (mt List.mem_cons.mpr level)
    rw [List.foldl_cons, List.foldl_cons, ih later, pushRelative, push, if_neg (Ne.symm first),
      if_neg (Ne.symm first)]

/-- Without double dots, a path names the same below every place. -/
theorem foldl_push_level {parts : List Part} (level : ['.', '.'] ∉ parts) (stack : List Part) :
    parts.foldl push stack = stack ++ parts.foldl push [] := by
  induction parts generalizing stack with
  | nil => exact (List.append_nil stack).symm
  | cons part rest ih =>
    obtain ⟨first, later⟩ := not_or.mp (mt List.mem_cons.mpr level)
    rw [List.foldl_cons, List.foldl_cons, ih later, ih later (push [] part), ← List.append_assoc]
    congr 1
    rw [push, push, if_neg (Ne.symm first), if_neg (Ne.symm first)]
    split
    · exact (List.append_nil stack).symm
    · rfl

/-- The parts of a normal form: those of the path, or a dot, and one for a slash at the end. -/
theorem split_posixNormalize {path : String} (relative : isAbsolute path = false)
    (level : Level path) :
    split (posixNormalize path) =
      (if segments path = [] then [['.']] else segments path) ++
        (if path.toList.getLast? = some '/' then [[]] else []) := by
  have plain := segments_plain path
  have same : (split path).foldl pushRelative [] = segments path := foldl_pushRelative level
  rw [posixNormalize, relative, if_neg Bool.false_ne_true, same, split, String.toList_ofList]
  have whole : (if segments path = [] then ['.'] else joinParts (segments path)).splitOn '/' =
      if segments path = [] then [['.']] else segments path := by
    split
    · rfl
    · rename_i some_part
      exact split_join _ plain some_part
  by_cases slash : path.toList.getLast? = some '/'
  · rw [if_pos slash, if_pos slash, List.splitOn_append_cons_self, whole]
    rfl
  · rw [if_neg slash, if_neg slash, List.append_nil, List.append_nil, whole]

/-- The parts of a normal form are plain ones, a dot and an empty one. -/
theorem mem_split_posixNormalize {path : String} (relative : isAbsolute path = false)
    (level : Level path) {part : Part} (mem : part ∈ split (posixNormalize path)) :
    Plain part ∨ part = ['.'] ∨ part = [] := by
  rw [split_posixNormalize relative level] at mem
  rcases List.mem_append.mp mem with mem | mem
  · split at mem
    · exact Or.inr (Or.inl (List.mem_singleton.mp mem))
    · exact Or.inl (segments_plain path part mem)
  · split at mem
    · exact Or.inr (Or.inr (List.mem_singleton.mp mem))
    · cases mem

theorem level_posixNormalize {path : String} (relative : isAbsolute path = false)
    (level : Level path) : Level (posixNormalize path) := by
  intro mem
  rcases mem_split_posixNormalize relative level mem with plain | dot | empty
  · exact plain.dots rfl
  · cases dot
  · cases empty

/-- A normal form starts with a part that is not empty. -/
theorem head_split_posixNormalize {path : String} (relative : isAbsolute path = false)
    (level : Level path) : ∃ first rest, split (posixNormalize path) = first :: rest ∧
      first ≠ [] := by
  rw [split_posixNormalize relative level]
  split
  · exact ⟨['.'], _, rfl, List.cons_ne_nil _ _⟩
  · cases parts : segments path with
    | nil => exact absurd parts ‹_›
    | cons first rest =>
      have plain := segments_plain path first (by rw [parts]; exact List.mem_cons_self)
      exact ⟨first, _, rfl, plain.filled⟩

theorem segments_posixNormalize {path : String} (relative : isAbsolute path = false)
    (level : Level path) : segments (posixNormalize path) = segments path := by
  have plain := segments_plain path
  rw [segments, split_posixNormalize relative level, List.foldl_append]
  have named : (if segments path = [] then [['.']] else segments path).foldl push [] =
      segments path := by
    split
    · rename_i none
      rw [none]
      rfl
    · exact foldl_push_of_plain _ [] plain
  rw [named]
  split
  · rfl
  · rfl

/-- The slash of an absolute path has an empty part before it. -/
theorem isAbsolute_of_head {path : String} {first : Part} {rest : List Part}
    (parts : split path = first :: rest) (filled : first ≠ []) : isAbsolute path = false := by
  rw [isAbsolute, decide_eq_false_iff_not]
  intro slash
  obtain ⟨tail, text⟩ : ∃ tail, path.toList = '/' :: tail := by
    cases chars : path.toList with
    | nil =>
      rw [chars] at slash
      cases slash
    | cons c tail =>
      rw [chars] at slash
      cases slash
      exact ⟨tail, rfl⟩
  rw [split, text, show '/' :: tail = [] ++ '/' :: tail from rfl,
    List.splitOn_append_cons_self] at parts
  exact filled (List.cons.inj parts).1.symm

/-- Neither is it a double dot nor does it begin with one. -/
theorem not_climbing {path : String} (level : Level path) :
    path ≠ ".." ∧ ¬startsWith path "../" = true := by
  constructor
  · rintro rfl
    exact level (by decide)
  · intro up
    obtain ⟨rest, text⟩ := List.isPrefixOf_iff_prefix.mp up
    refine level ?_
    rw [split, ← text, show "../".toList ++ rest = ['.', '.'] ++ '/' :: rest from rfl,
      List.splitOn_append_cons_self]
    exact List.mem_cons_self

/-- What is accepted is answered in its normal form. -/
theorem normalizeRelativePath_eq {value : String} (filled : value ≠ "")
    (fits : value.utf8ByteSize ≤ MAX_RELATIVE_PATH_BYTES)
    (clean : ∀ c ∈ value.toList, c ≠ Char.ofNat 0 ∧ c ≠ '\\')
    (relative : isAbsolute value = false) (level : Level value) :
    normalizeRelativePath (some (.str value)) = .ok (posixNormalize value) := by
  have zero : value.toList.contains (Char.ofNat 0) = false :=
    Bool.eq_false_iff.mpr fun h => (clean _ (List.contains_iff_mem.mp h)).1 rfl
  have slash : value.toList.contains '\\' = false :=
    Bool.eq_false_iff.mpr fun h => (clean _ (List.contains_iff_mem.mp h)).2 rfl
  have climbs : (split value).contains ['.', '.'] = false :=
    Bool.eq_false_iff.mpr fun h => level (List.contains_iff_mem.mp h)
  obtain ⟨first, rest, parts, some_char⟩ := head_split_posixNormalize relative level
  obtain ⟨other, notUp⟩ := not_climbing (level_posixNormalize relative level)
  rw [normalizeRelativePath, if_neg, if_neg, climbs, if_neg Bool.false_ne_true]
  · dsimp only
    rw [if_neg]
    rintro (same | up | absolute)
    · exact other same
    · exact notUp up
    · rw [isAbsolute_of_head parts some_char] at absolute
      cases absolute
  · rw [zero, slash, relative]
    exact Bool.false_ne_true
  · rintro (empty | long)
    · exact filled empty
    · exact absurd fits (Nat.not_le.mpr long)

/-- What an accepted path is. -/
structure Accepted (value path : String) : Prop where
  clean : ∀ c ∈ value.toList, c ≠ Char.ofNat 0 ∧ c ≠ '\\'
  relative : isAbsolute value = false
  level : Level value
  normal : path = posixNormalize value

theorem accepted_of_ok {value path : String}
    (ok : normalizeRelativePath (some (.str value)) = .ok path) : Accepted value path := by
  unfold normalizeRelativePath at ok
  dsimp only at ok
  split at ok
  · cases ok
  split at ok
  · cases ok
  rename_i marks
  split at ok
  · cases ok
  rename_i level
  split at ok
  · cases ok
  cases ok
  rw [Bool.or_eq_true, Bool.or_eq_true, not_or, not_or, Bool.not_eq_true, Bool.not_eq_true,
    Bool.not_eq_true] at marks
  obtain ⟨⟨zero, slash⟩, relative⟩ := marks
  refine ⟨fun c mem => ⟨?_, ?_⟩, relative, fun mem => level (List.contains_iff_mem.mpr mem), rfl⟩
  · rintro rfl
    rw [List.contains_iff_mem.mpr mem] at zero
    cases zero
  · rintro rfl
    rw [List.contains_iff_mem.mpr mem] at slash
    cases slash

/-! ### The path of an entry -/

/-- A normal form holds the path's own characters, slashes and dots. -/
theorem mem_posixNormalize {path : String} {c : Char} (relative : isAbsolute path = false)
    (level : Level path) (mem : c ∈ (posixNormalize path).toList) :
    c ∈ path.toList ∨ c = '/' ∨ c = '.' := by
  have same : (split path).foldl pushRelative [] = segments path := foldl_pushRelative level
  rw [posixNormalize, relative, if_neg Bool.false_ne_true, same, String.toList_ofList] at mem
  rcases List.mem_append.mp mem with mem | mem
  · split at mem
    · exact Or.inr (Or.inr (List.mem_singleton.mp mem))
    · rcases mem_intercalate mem with slash | ⟨part, listed, inside⟩
      · exact Or.inr (Or.inl (List.mem_singleton.mp slash))
      · exact Or.inl (ProcessLaunch.mem_of_mem_segments listed c inside)
  · split at mem
    · exact Or.inr (Or.inl (List.mem_singleton.mp mem))
    · cases mem

section
variable {value path name : String}

theorem toList_entry (path name : String) :
    (path ++ "/" ++ name).toList = path.toList ++ '/' :: name.toList := by
  rw [String.toList_append, String.toList_append, List.append_assoc]
  rfl

theorem split_entry (plain : Plain name.toList) :
    split (path ++ "/" ++ name) = split path ++ [name.toList] := by
  rw [split, toList_entry, List.splitOn_append_cons_self,
    List.splitOn_eq_singleton plain.whole]
  rfl

theorem level_entry (accepted : Accepted value path) (plain : Plain name.toList) :
    isAbsolute (path ++ "/" ++ name) = false ∧ Level (path ++ "/" ++ name) := by
  obtain ⟨_, relative, level, rfl⟩ := accepted
  obtain ⟨first, rest, parts, filled⟩ := head_split_posixNormalize relative level
  constructor
  · have pieces : split (posixNormalize value ++ "/" ++ name) =
        first :: (rest ++ [name.toList]) := by
      rw [split_entry plain, parts, List.cons_append]
    exact isAbsolute_of_head pieces filled
  · intro mem
    rw [split_entry plain] at mem
    rcases List.mem_append.mp mem with inside | own
    · exact level_posixNormalize relative level inside
    · exact plain.dots (List.mem_singleton.mp own).symm

/-- The path of an entry of an accepted path is accepted, if it is short enough. -/
theorem entry_accepted (accepted : Accepted value path) (plain : Plain name.toList)
    (clean : ∀ c ∈ name.toList, c ≠ Char.ofNat 0 ∧ c ≠ '\\')
    (fits : (path ++ "/" ++ name).utf8ByteSize ≤ MAX_RELATIVE_PATH_BYTES) :
    normalizeRelativePath (some (.str (path ++ "/" ++ name))) =
      .ok (posixNormalize (path ++ "/" ++ name)) := by
  obtain ⟨below, straight⟩ := level_entry accepted plain
  obtain ⟨cleanValue, relative, level, rfl⟩ := accepted
  have slash := toList_entry (posixNormalize value) name
  refine normalizeRelativePath_eq ?_ fits ?_ below straight
  · intro empty
    rw [empty] at slash
    exact absurd slash.symm (List.append_ne_nil_of_right_ne_nil _ (List.cons_ne_nil _ _))
  · intro c mem
    rw [slash] at mem
    have mark : '/' ≠ Char.ofNat 0 ∧ '/' ≠ '\\' := by decide
    rcases List.mem_append.mp mem with inside | inside
    · rcases mem_posixNormalize relative level inside with old | rfl | rfl
      · exact cleanValue c old
      · exact mark
      · decide
    rcases List.mem_cons.mp inside with rfl | inside
    · exact mark
    · exact clean c inside

theorem segments_entry (plain : Plain name.toList) :
    segments (path ++ "/" ++ name) = segments path ++ [name.toList] := by
  have whole : split name = [name.toList] := List.splitOn_eq_singleton plain.whole
  rw [segments_below path, whole]
  rw [whole]
  exact List.forall_mem_singleton.mpr plain

end

/-! ### The walk to an entry -/

variable {host : Host} {top place : List Part}

/-- Without double dots, a path is resolved to what it names below the root. -/
theorem resolve_level {path : String} (plain : ∀ part ∈ top, Plain part) (level : Level path) :
    resolve (pathOf top) path = pathOf (top ++ segments path) := by
  rw [resolve]
  congr 1
  rw [segments, split, toList_entry, List.splitOn_append_cons_self, List.foldl_append]
  have start : ((pathOf top).toList.splitOn '/').foldl push [] = top := segments_pathOf plain
  rw [start]
  exact foldl_push_level level top

theorem reach_calm {call : Call} {path : String} (calm : host.fault call = none)
    (walked : host.tree.walk MAX_LINKS [] (steps path) = .ok place) :
    host.reach call path = .ok place := by
  rw [Host.reach, calm]
  dsimp only
  rw [walked]
  rfl

theorem stat_calm {call : Call} {node : Node Part (List UInt8)} (calm : host.fault call = none)
    (found : host.tree.node place = some node) (real : node.isLink = false) :
    host.stat call (pathOf place) = .ok (place, node) := by
  have reached : host.tree.Reached place := reached_iff.mpr ⟨node, found, real⟩
  rw [Host.stat, reach_pathOf call calm reached]
  dsimp only
  rw [found]

/-- Where the path of a directory leads, the path of its entry leads on. -/
theorem reach_entry {value path name : String} {call : Call}
    (plainTop : ∀ part ∈ top, Plain part) (accepted : Accepted value path)
    (plain : Plain name.toList)
    (reaches : host.reach call (resolve (pathOf top) path) = .ok place)
    (there : host.tree.Reached (place ++ [name.toList])) :
    host.reach call (resolve (pathOf top) (posixNormalize (path ++ "/" ++ name))) =
      .ok (place ++ [name.toList]) := by
  obtain ⟨relative, level⟩ := level_entry accepted plain
  obtain ⟨_, relativeValue, levelValue, rfl⟩ := accepted
  have below := level_posixNormalize relativeValue levelValue
  obtain ⟨calm, walked⟩ := reach_ok reaches
  have before : ∀ part ∈ top ++ segments (posixNormalize value), Plain part :=
    List.forall_mem_append.mpr ⟨plainTop, segments_plain _⟩
  have after : ∀ part ∈ top ++ (segments (posixNormalize value) ++ [name.toList]), Plain part := by
    rw [← List.append_assoc]
    exact List.forall_mem_append.mpr ⟨before, List.forall_mem_singleton.mpr plain⟩
  rw [resolve_level plainTop below, walk_pathOf MAX_LINKS before] at walked
  refine reach_calm calm ?_
  rw [resolve_level plainTop (level_posixNormalize relative level),
    segments_posixNormalize relative level, segments_entry plain, walk_pathOf MAX_LINKS after,
    ← List.append_assoc, List.map_append]
  exact walk_append walked (stride_down there)

theorem resolveTarget_calm {path : String} (plain : ∀ part ∈ top, Plain part)
    (level : Level path)
    (reaches : host.reach .realpathTarget (resolve (pathOf top) path) = .ok place)
    (inside : top <+: place) : resolveTarget host (pathOf top) path = .ok (pathOf place) := by
  have names : ∀ part ∈ top ++ segments path, Plain part :=
    List.forall_mem_append.mpr ⟨plain, segments_plain _⟩
  have candidate : containedBy (pathOf top) (resolve (pathOf top) path) = true := by
    rw [containedBy_iff, resolve_level plain level, segments_pathOf plain, segments_pathOf names]
    exact List.prefix_append _ _
  have canonical : containedBy (pathOf top) (pathOf place) = true := by
    rw [containedBy_iff, segments_pathOf plain,
      segments_pathOf (plain_of_reached (reach_reached reaches))]
    exact inside
  rw [resolveTarget, candidate, Host.realpath, reaches]
  dsimp only [Except.map]
  rw [canonical]
  rfl

/-! ### The entries of a listing -/

theorem mem_dirents {name kind : String} (mem : (name, kind) ∈ dirents host place) :
    ∃ node, host.tree.node (place ++ [name.toList]) = some node ∧ kind = entryType node := by
  obtain ⟨part, _, shown⟩ := List.mem_filterMap.mp mem
  obtain ⟨node, found, pair⟩ := Option.map_eq_some_iff.mp shown
  cases pair
  exact ⟨node, by rw [String.toList_ofList]; exact found, rfl⟩

theorem mem_listing {path name kind : String}
    (mem : entryJson (name, kind) ∈ Json.items ((listing host path place).field "entries")) :
    (name, kind) ∈ dirents host place := by
  obtain ⟨entry, listed, same⟩ := List.mem_map.mp mem
  have met := List.mem_of_mem_take (List.mem_mergeSort.mp listed)
  rw [entryJson, entryJson] at same
  cases same
  exact met

/-- A request that asks for a path. -/
structure Asks (web : WebRuntime) (request : Request) (operation : Operation)
    (value : String) : Prop where
  routed : operationOf request.pathname = some operation
  post : request.method = "POST"
  bounded : TaskFacade.boundedBody web request (request.header "content-length") =
    .ok request.body
  asked : web.parse request.body = some (.obj [("path", .str value)])

def respond : Except FilesystemBoundaryError Json → Response
  | .ok body => ⟨200, some body⟩
  | .error error => error.response

theorem handle_asked {web : WebRuntime} {filesystemRoot : Option String} {request : Request}
    {operation : Operation} {value path root : String} (asks : Asks web request operation value)
    (normal : normalizeRelativePath (some (.str value)) = .ok path)
    (canonical : canonicalRoot host filesystemRoot = .ok root) :
    handleFilesystemRequest web host filesystemRoot request =
      some (respond (operation.run host root path)) := by
  obtain ⟨routed, post, bounded, asked⟩ := asks
  have keys : (Json.obj [("path", .str value)]).keys = some ["path"] := rfl
  have field : (Json.obj [("path", .str value)]).field "path" = some (.str value) := rfl
  have read : readPathRequest web request = .ok path := by
    rw [readPathRequest, bounded]
    dsimp only
    rw [asked]
    dsimp only
    rw [if_neg (not_not_intro keys), field, normal]
    rfl
  rw [handleFilesystemRequest, routed, Option.map_some, if_neg (not_not_intro post), answer, read,
    SubmissionRoute.ok_bind, canonical]
  cases ran : operation.run host root path with
  | error error =>
    rw [Except.mapError, SubmissionRoute.ok_bind, ran]
    rfl
  | ok body =>
    rw [Except.mapError, SubmissionRoute.ok_bind, ran]
    rfl

/-- What follows from an entry's type for a request about the entry. -/
def Found (kind : String) (response : Option Response) : Operation → Prop
  | .list => kind = "directory" → ∃ body, response = some ⟨200, some body⟩
  | .stat => kind ≠ "symlink" →
      ∃ body, response = some ⟨200, some body⟩ ∧ body.field "type" = some (.str kind)
  | .read => kind = "file" → (∃ body, response = some ⟨200, some body⟩) ∨
      response = some tooLarge.response ∨ response = some notUtf8.response

theorem listFilesystem_calm {path : String} (calm : ∀ call, host.fault call = none)
    (plain : ∀ part ∈ top, Plain part) (level : Level path)
    (reaches : host.reach .realpathTarget (resolve (pathOf top) path) = .ok place)
    (inside : top <+: place) (found : host.tree.node place = some .directory) :
    listFilesystem host (pathOf top) path = .ok (listing host path place) := by
  rw [listFilesystem, resolveTarget_calm plain level reaches inside, SubmissionRoute.ok_bind,
    stat_calm (calm _) found rfl, Except.mapError, SubmissionRoute.ok_bind]
  dsimp only
  rw [if_neg (by decide), stat_calm (calm _) found rfl]
  rfl

/-- A calm host answers a request about an entry by what the entry is. -/
theorem run_found {node : Node Part (List UInt8)} {path : String} (operation : Operation)
    (calm : ∀ call, host.fault call = none) (plain : ∀ part ∈ top, Plain part)
    (level : Level path)
    (reaches : host.reach .realpathTarget (resolve (pathOf top) path) = .ok place)
    (inside : top <+: place) (found : host.tree.node place = some node) :
    Found (entryType node) (some (respond (operation.run host (pathOf top) path))) operation := by
  have resolved := resolveTarget_calm plain level reaches inside
  cases operation with
  | list =>
    intro kind
    cases node with
    | file | link | other =>
      rw [entryType] at kind
      exact absurd kind (by decide)
    | directory =>
      refine ⟨listing host path place, ?_⟩
      rw [Operation.run, listFilesystem_calm calm plain level reaches inside found]
      rfl
  | stat =>
    intro kind
    have real : node.isLink = false ∧ statType node = entryType node := by
      cases node with
      | file | directory | other => exact ⟨rfl, rfl⟩
      | link => exact absurd rfl kind
    refine ⟨description host path place node, ?_, ?_⟩
    · rw [Operation.run, statFilesystem, resolved, SubmissionRoute.ok_bind,
        stat_calm (calm _) found real.1]
      rfl
    · rw [← real.2]
      rfl
  | read =>
    intro kind
    cases node with
    | directory | link | other =>
      rw [entryType] at kind
      exact absurd kind (by decide)
    | file bytes =>
      have seen := stat_calm (calm .statTarget) found rfl
      have again := stat_calm (calm .readFile) found rfl
      rw [Operation.run, readFilesystem, resolved, SubmissionRoute.ok_bind, seen, Except.mapError,
        SubmissionRoute.ok_bind]
      dsimp only
      rw [FilesystemReads.sizeOf]
      split
      · exact Or.inr (Or.inl rfl)
      rw [again]
      dsimp only [Except.mapError]
      rw [readText]
      rename_i small
      rw [if_neg small]
      split
      · exact Or.inl ⟨_, rfl⟩
      · exact Or.inr (Or.inr rfl)

theorem found_of_link {node : Node Part (List UInt8)} (link : node.isLink = true)
    (response : Option Response) (operation : Operation) :
    Found (entryType node) response operation := by
  cases node with
  | file | directory | other => cases link
  | link absolute target =>
    cases operation with
    | list => exact fun kind => absurd kind (by rw [entryType]; decide)
    | stat => exact fun kind => absurd rfl kind
    | read => exact fun kind => absurd kind (by rw [entryType]; decide)

/-- Where an answered listing was taken. -/
theorem listing_of_answer {web : WebRuntime} {filesystemRoot : Option String} {request : Request}
    {body : Json} {path : String} (routed : operationOf request.pathname = some .list)
    (listed : handleFilesystemRequest web host filesystemRoot request = some ⟨200, some body⟩)
    (answered : body.field "path" = some (.str path)) :
    ∃ value top place, body = listing host path place ∧ Accepted value path ∧
      canonicalRoot host filesystemRoot = .ok (pathOf top) ∧ (∀ part ∈ top, Plain part) ∧
      host.reach .realpathTarget (resolve (pathOf top) path) = .ok place ∧ top <+: place := by
  have answers := reads_confined web host filesystemRoot request
  rw [listed] at answers
  cases answers with
  | refused refused =>
    obtain ⟨error, member, same⟩ := refused
    have other : ∀ error ∈ refusals, error.status ≠ 200 := by decide
    rw [FilesystemBoundaryError.response, Response.coded, Response.mk.injEq] at same
    exact absurd same.1.symm (other error member)
  | shown route asked normal canonical directory proper reaches inside shows =>
    cases routed.symm.trans route
    cases shows
    cases answered
    exact ⟨_, _, _, rfl, accepted_of_ok normal, canonical,
      plain_of_reached (reached_of_directory (directory_of_node directory)), reaches, inside⟩

/-- What a listing names is found under its name: while no call fails, an entry can be
described as the listing has it, a directory listed, and a file read unless it is too large or
no text. -/
theorem listed_entries_found {web : WebRuntime} {filesystemRoot : Option String}
    {request later : Request} {operation : Operation} {body : Json} {path name kind : String}
    (calm : ∀ call, host.fault call = none)
    (routed : operationOf request.pathname = some .list)
    (listed : handleFilesystemRequest web host filesystemRoot request = some ⟨200, some body⟩)
    (answered : body.field "path" = some (.str path))
    (entry : entryJson (name, kind) ∈ Json.items (body.field "entries"))
    (clean : ∀ c ∈ name.toList, c ≠ Char.ofNat 0 ∧ c ≠ '\\')
    (fits : (path ++ "/" ++ name).utf8ByteSize ≤ MAX_RELATIVE_PATH_BYTES)
    (asks : Asks web later operation (path ++ "/" ++ name)) :
    Found kind (handleFilesystemRequest web host filesystemRoot later) operation := by
  obtain ⟨value, top, place, rfl, accepted, canonical, plainTop, reaches, inside⟩ :=
    listing_of_answer routed listed answered
  obtain ⟨node, found, rfl⟩ := mem_dirents (mem_listing entry)
  have plain := host.named place name.toList (by rw [found]; rfl)
  have normal := entry_accepted accepted plain clean fits
  rw [handle_asked asks normal canonical]
  obtain ⟨relative, level⟩ := level_entry accepted plain
  by_cases real : node.isLink = false
  · have there : host.tree.Reached (place ++ [name.toList]) := reached_iff.mpr ⟨node, found, real⟩
    exact run_found operation calm plainTop (level_posixNormalize relative level)
      (reach_entry plainTop accepted plain reaches there)
      (inside.trans (List.prefix_append _ _)) found
  · exact found_of_link (Bool.eq_true_of_not_eq_false real) _ operation

/-! ### A listing through a link -/

def sampleNodes : List (List Part × Node Part (List UInt8)) :=
  [([], .directory), ([['s']], .directory), ([['s'], ['d']], .directory),
    ([['s'], ['d'], ['a']], .file [111, 107]), ([['s'], ['l']], .link false [.down ['d']])]

theorem sampleNodes_parents :
    ∀ pair ∈ sampleNodes, pair.1 ≠ [] → sampleNodes.lookup pair.1.dropLast = some .directory := by
  decide

theorem sampleNodes_plain : ∀ pair ∈ sampleNodes, ∀ part ∈ pair.1,
    part ≠ [] ∧ part ≠ ['.'] ∧ part ≠ ['.', '.'] ∧ '/' ∉ part := by
  decide

def entryOf (place : List Part) (pair : List Part × Node Part (List UInt8)) : Option Part :=
  if pair.1.dropLast = place then pair.1.getLast? else none

theorem entryOf_eq_some {place : List Part} {pair : List Part × Node Part (List UInt8)}
    {name : Part} : entryOf place pair = some name ↔ pair.1 = place ++ [name] := by
  rw [entryOf]
  constructor
  · intro named
    split at named
    · rename_i front
      rw [← front]
      exact (List.dropLast_append_getLast? name named).symm
    · cases named
  · intro whole
    rw [whole, List.dropLast_concat, if_pos rfl, List.getLast?_concat]

def sampleHost : Host where
  tree :=
    { node := fun place => sampleNodes.lookup place
      entries := fun place => sampleNodes.filterMap (entryOf place)
      rooted := rfl
      parents := fun place name found => by
        obtain ⟨pair, member, same⟩ := List.lookup_isSome_iff.mp found
        have whole := beq_iff_eq.mp same
        have above := sampleNodes_parents pair member
        rw [← whole, List.dropLast_concat] at above
        exact above (List.append_ne_nil_of_right_ne_nil _ (List.cons_ne_nil _ _))
      listed := fun place name => by
        rw [List.mem_filterMap, List.lookup_isSome_iff]
        exact exists_congr fun _ => and_congr_right fun _ =>
          entryOf_eq_some.trans (eq_comm.trans beq_iff_eq.symm) }
  named := fun place name found => by
    obtain ⟨pair, member, same⟩ := List.lookup_isSome_iff.mp found
    have listed : name ∈ pair.1 := by
      rw [← beq_iff_eq.mp same]
      exact List.mem_append_right _ (List.mem_singleton_self name)
    obtain ⟨filled, dot, dots, whole⟩ := sampleNodes_plain pair member name listed
    exact ⟨filled, dot, dots, whole⟩
  size := fun _ => 0
  fault := fun _ => none
  collate := fun _ _ => true

def sampleWeb : WebRuntime :=
  { Runtime.reading [("directory", .obj [("path", .str "l")]),
      ("entry", .obj [("path", .str "l/a")])] with
    number := fun _ => none
    sha256Hex := fun _ => ""
    hmac := fun _ _ => []
    parseBytes := fun _ => none }

def sampleRequest (pathname body : String) : Request where
  method := "POST"
  pathname := pathname
  header := fun name => if name = "content-type" then some "application/json" else none
  body := body

theorem sample_bounded (pathname body : String) (short : body.utf8ByteSize ≤ 64) :
    TaskFacade.boundedBody sampleWeb (sampleRequest pathname body) none = .ok body := by
  have media : "application/json".toList.isPrefixOf
      (((some "application/json").map String.toLower).getD "").toList = true := by decide +kernel
  have header : (sampleRequest pathname body).header "content-type" = some "application/json" := rfl
  rw [TaskFacade.boundedBody, header, media, if_neg (by decide), if_neg (by decide), if_neg]
  · rfl
  · rintro (declared | long)
    · cases declared
    · exact absurd short (Nat.not_le.mpr (lt_trans (by decide) long))

/-- The file that a listing through a link names is described under the link's path. -/
theorem listed_entries_found_sample :
    Found "file" (handleFilesystemRequest sampleWeb sampleHost (some "/s")
      (sampleRequest "/v1/filesystem/stat" "entry")) .stat := by
  have calm : ∀ call, sampleHost.fault call = none := fun _ => rfl
  have plain : ∀ part ∈ ([['s']] : List Part), Plain part :=
    List.forall_mem_singleton.mpr ⟨by decide, by decide, by decide, by decide⟩
  have canonical : canonicalRoot sampleHost (some "/s") = .ok (pathOf [['s']]) :=
    RequestFingerprints.ok_of_toOption (by decide +kernel)
  have normal : normalizeRelativePath (some (.str "l")) = .ok "l" :=
    RequestFingerprints.ok_of_toOption (by decide +kernel)
  have level : Level "l" := by
    rw [Level]
    decide
  have reaches : sampleHost.reach .realpathTarget (resolve (pathOf [['s']]) "l") =
      .ok [['s'], ['d']] := RequestFingerprints.ok_of_toOption (by decide +kernel)
  have asks : Asks sampleWeb (sampleRequest "/v1/filesystem/list" "directory") .list "l" :=
    ⟨rfl, rfl, sample_bounded _ _ (by decide +kernel), rfl⟩
  have listed : handleFilesystemRequest sampleWeb sampleHost (some "/s")
      (sampleRequest "/v1/filesystem/list" "directory") =
        some ⟨200, some (listing sampleHost "l" [['s'], ['d']])⟩ := by
    have ran := listFilesystem_calm calm plain level reaches (by decide) rfl
    exact (handle_asked asks normal canonical).trans (congrArg (fun r => some (respond r)) ran)
  have met : ("a", "file") ∈ (dirents sampleHost [['s'], ['d']]).take MAX_DIRECTORY_ENTRIES := by
    decide
  have clean : ∀ c ∈ "a".toList, c ≠ Char.ofNat 0 ∧ c ≠ '\\' :=
    List.forall_mem_singleton.mpr (by decide)
  have next : Asks sampleWeb (sampleRequest "/v1/filesystem/stat" "entry") .stat
      ("l" ++ "/" ++ "a") := ⟨rfl, rfl, sample_bounded _ _ (by decide +kernel), rfl⟩
  exact listed_entries_found calm rfl listed rfl
    (List.mem_map.mpr ⟨("a", "file"), List.mem_mergeSort.mpr met, rfl⟩)
    clean (by decide +kernel) next

end ListedEntries
