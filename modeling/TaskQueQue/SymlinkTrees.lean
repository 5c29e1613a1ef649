import Mathlib.Data.List.Induction

/-!
# Trees with symbolic links

A tree of files as the walk of a path meets it. What lies at a place is looked up by the
names that lead there from the top, through directories. A link holds steps that are taken
in its stead, and a walk follows a bounded number of them. Where it arrives is a place that
can be walked to without links.
-/

namespace SymlinkTrees

variable {Name Content : Type}

/-- A part of a path: an empty one or a dot, a double dot, a name. -/
inductive Step (Name : Type)
  | stay
  | up
  | down (name : Name)
deriving DecidableEq

inductive Node (Name Content : Type)
  | file (content : Content)
  | directory
  | link (absolute : Bool) (target : List (Step Name))
  | other
deriving DecidableEq

namespace Node

def isDirectory : Node Name Content → Bool
  | .directory => true
  | _ => false

def isLink : Node Name Content → Bool
  | .link .. => true
  | _ => false

end Node

/-- `entries` is the order in which a directory is listed. -/
structure Tree (Name Content : Type) where
  node : List Name → Option (Node Name Content)
  entries : List Name → List Name
  rooted : node [] = some .directory
  parents : ∀ place name, (node (place ++ [name])).isSome → node place = some .directory
  listed : ∀ place name, name ∈ entries place ↔ (node (place ++ [name])).isSome

inductive Failure
  | notFound
  | notDirectory
  | tooManyLinks
deriving DecidableEq

/-- Where a walk is when it has arrived, has met a link, or cannot go on. -/
inductive Stop (Name : Type)
  | arrived (place : List Name)
  | link (absolute : Bool) (target : List (Step Name)) (place : List Name)
      (rest : List (Step Name))
  | failed (failure : Failure)

namespace Tree
variable (tree : Tree Name Content)

/-- One step out of a directory, with what is left to do after it. -/
def advance (place : List Name) (rest : List (Step Name)) : Step Name → Stop Name
  | .stay => .arrived place
  | .up => .arrived place.dropLast
  | .down name =>
    match tree.node (place ++ [name]) with
    | none => .failed .notFound
    | some (.link absolute target) => .link absolute target place rest
    | some _ => .arrived (place ++ [name])

/-- The steps up to the first link. -/
def stride (place : List Name) : List (Step Name) → Stop Name
  | [] => .arrived place
  | step :: rest =>
    if (tree.node place).any Node.isDirectory then
      match tree.advance place rest step with
      | .arrived next => stride next rest
      | stop => stop
    else .failed .notDirectory

def afterLink (next : List Name → List (Step Name) → Except Failure (List Name)) :
    Stop Name → Except Failure (List Name)
  | .arrived place => .ok place
  | .failed failure => .error failure
  | .link absolute target place rest => next (if absolute then [] else place) (target ++ rest)

/-- A walk that follows at most so many links. -/
def walk : Nat → List Name → List (Step Name) → Except Failure (List Name)
  | 0, place, steps => afterLink (fun _ _ => .error .tooManyLinks) (tree.stride place steps)
  | links + 1, place, steps => afterLink (walk links) (tree.stride place steps)

/-- There is something at the place that is no link. -/
def Reached (place : List Name) : Prop := (tree.node place).any (fun node => !node.isLink) = true

end Tree

variable {tree : Tree Name Content} {place place' : List Name}

theorem reached_iff : tree.Reached place ↔ ∃ node, tree.node place = some node ∧
    node.isLink = false := by
  simp only [Tree.Reached, Option.any_eq_true, Bool.not_eq_true']

theorem reached_of_directory (directory : (tree.node place).any Node.isDirectory = true) :
    tree.Reached place := by
  obtain ⟨node, found, kind⟩ := (Option.any_eq_true _ _).mp directory
  refine reached_iff.mpr ⟨node, found, ?_⟩
  cases node with
  | directory => rfl
  | file | link | other => cases kind

theorem directory_of_node (found : tree.node place = some .directory) :
    (tree.node place).any Node.isDirectory = true := by
  rw [found]
  rfl

theorem reached_top (tree : Tree Name Content) : tree.Reached [] :=
  reached_of_directory (directory_of_node tree.rooted)

theorem directory_of_below {name : Name} (reached : tree.Reached (place ++ [name])) :
    (tree.node place).any Node.isDirectory = true := by
  obtain ⟨node, found, _⟩ := reached_iff.mp reached
  exact directory_of_node (tree.parents place name (by rw [found]; rfl))

theorem reached_parent (reached : tree.Reached place) : tree.Reached place.dropLast := by
  rcases List.eq_nil_or_concat place with rfl | ⟨front, last, rfl⟩
  · exact reached
  · rw [List.concat_eq_append] at reached ⊢
    rw [List.dropLast_concat]
    exact reached_of_directory (directory_of_below reached)

theorem reached_of_prefix {names : List Name} (reached : tree.Reached (place ++ names)) :
    tree.Reached place := by
  induction names using List.reverseRecOn with
  | nil => rwa [List.append_nil] at reached
  | append_singleton names name ih =>
    rw [← List.append_assoc] at reached
    exact ih (reached_of_directory (directory_of_below reached))

/-! ### Where a walk arrives -/

/-- A walk stops at places that are reached. -/
def Stop.Sound (tree : Tree Name Content) : Stop Name → Prop
  | .arrived place => tree.Reached place
  | .link _ _ place _ => tree.Reached place
  | .failed _ => True

theorem advance_sound (reached : tree.Reached place) (rest : List (Step Name))
    (step : Step Name) : (tree.advance place rest step).Sound tree := by
  cases step with
  | stay => exact reached
  | up => exact reached_parent reached
  | down name =>
    rw [Tree.advance]
    split
    · trivial
    · exact reached
    · rename_i node other found
      refine reached_iff.mpr ⟨node, found, ?_⟩
      cases node with
      | link absolute target => exact absurd rfl (other absolute target)
      | file | directory | other => rfl

theorem stride_sound (reached : tree.Reached place) (steps : List (Step Name)) :
    (tree.stride place steps).Sound tree := by
  induction steps generalizing place with
  | nil => exact reached
  | cons step rest ih =>
    rw [Tree.stride]
    split
    · have sound := advance_sound reached rest step
      cases stops : tree.advance place rest step with
      | arrived next =>
        rw [stops] at sound
        exact ih sound
      | link absolute target start left =>
        rw [stops] at sound
        exact sound
      | failed failure => trivial
    · trivial

theorem afterLink_reached
    {next : List Name → List (Step Name) → Except Failure (List Name)}
    (later : ∀ {start steps}, tree.Reached start → next start steps = .ok place →
      tree.Reached place) {stop : Stop Name} (sound : stop.Sound tree)
    (arrives : Tree.afterLink next stop = .ok place) : tree.Reached place := by
  cases stop with
  | arrived reached =>
    cases arrives
    exact sound
  | failed failure => cases arrives
  | link absolute target start rest =>
    refine later ?_ arrives
    split
    · exact reached_top tree
    · exact sound

theorem walk_reached {links : Nat} {start : List Name} {steps : List (Step Name)}
    (reached : tree.Reached start) (arrives : tree.walk links start steps = .ok place) :
    tree.Reached place := by
  induction links generalizing start steps with
  | zero =>
    refine afterLink_reached (fun _ never => ?_) (stride_sound reached steps) arrives
    cases never
  | succ links ih => exact afterLink_reached ih (stride_sound reached steps) arrives

/-! ### Walking on -/

/-- What is left to do after a stop, with more to do. -/
def Stop.andThen (tree : Tree Name Content) (more : List (Step Name)) : Stop Name → Stop Name
  | .arrived place => tree.stride place more
  | .link absolute target place rest => .link absolute target place (rest ++ more)
  | .failed failure => .failed failure

theorem stride_append (place : List Name) (steps more : List (Step Name)) :
    tree.stride place (steps ++ more) = (tree.stride place steps).andThen tree more := by
  induction steps generalizing place with
  | nil => rfl
  | cons step rest ih =>
    rw [List.cons_append, Tree.stride, Tree.stride]
    split
    · cases step with
      | stay => exact ih place
      | up => exact ih place.dropLast
      | down name =>
        rw [Tree.advance, Tree.advance]
        cases tree.node (place ++ [name]) with
        | none => rfl
        | some node =>
          cases node with
          | link absolute target => rfl
          | file | directory | other => exact ih (place ++ [name])
    · rfl

/-- A walk that arrives can go on from there. -/
theorem walk_append {links : Nat} {start next : List Name} {steps more : List (Step Name)}
    (arrives : tree.walk links start steps = .ok place)
    (on : tree.stride place more = .arrived next) :
    tree.walk links start (steps ++ more) = .ok next := by
  induction links generalizing start steps with
  | zero =>
    rw [Tree.walk, stride_append]
    rw [Tree.walk] at arrives
    cases stops : tree.stride start steps with
    | arrived met =>
      rw [stops] at arrives
      cases arrives
      rw [Stop.andThen, on]
      rfl
    | link | failed =>
      rw [stops] at arrives
      cases arrives
  | succ links ih =>
    rw [Tree.walk, stride_append]
    rw [Tree.walk] at arrives
    cases stops : tree.stride start steps with
    | arrived met =>
      rw [stops] at arrives
      cases arrives
      rw [Stop.andThen, on]
      rfl
    | link absolute target met rest =>
      rw [stops] at arrives
      rw [Stop.andThen, Tree.afterLink, ← List.append_assoc]
      exact ih arrives
    | failed =>
      rw [stops] at arrives
      cases arrives

/-! ### The straight walk -/

theorem advance_down {name : Name} (reached : tree.Reached (place ++ [name]))
    (rest : List (Step Name)) :
    tree.advance place rest (.down name) = .arrived (place ++ [name]) := by
  obtain ⟨node, found, real⟩ := reached_iff.mp reached
  rw [Tree.advance, found]
  cases node with
  | link => cases real
  | file | directory | other => rfl

theorem stride_down {names : List Name} (reached : tree.Reached (place ++ names)) :
    tree.stride place (names.map Step.down) = .arrived (place ++ names) := by
  induction names generalizing place with
  | nil => rw [List.map_nil, Tree.stride, List.append_nil]
  | cons name names ih =>
    rw [List.append_cons] at reached ⊢
    have first := reached_of_prefix reached
    rw [List.map_cons, Tree.stride, if_pos (directory_of_below first), advance_down first]
    exact ih reached

theorem walk_of_stride {links : Nat} {start : List Name} {steps : List (Step Name)}
    (stops : tree.stride start steps = .arrived place) :
    tree.walk links start steps = .ok place := by
  cases links with
  | zero => rw [Tree.walk, stops, Tree.afterLink]
  | succ links => rw [Tree.walk, stops, Tree.afterLink]

variable (place) in
/-- A reached place is where the walk by its own names leads. -/
theorem walk_down (links : Nat) {names : List Name} (reached : tree.Reached (place ++ names)) :
    tree.walk links place (names.map Step.down) = .ok (place ++ names) :=
  walk_of_stride (stride_down reached)

theorem stride_stay (directory : (tree.node place).any Node.isDirectory = true)
    (steps : List (Step Name)) : tree.stride place (.stay :: steps) = tree.stride place steps := by
  rw [Tree.stride, if_pos directory, Tree.advance]

/-- A walk from the top may begin with a stay. -/
theorem walk_top (tree : Tree Name Content) (links : Nat) (steps : List (Step Name)) :
    tree.walk links [] (.stay :: steps) = tree.walk links [] steps := by
  have same := stride_stay (directory_of_node tree.rooted) steps
  cases links with
  | zero => rw [Tree.walk, Tree.walk, same]
  | succ links => rw [Tree.walk, Tree.walk, same]

end SymlinkTrees
