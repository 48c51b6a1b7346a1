import DockerfileAudit.Log.Event
import DockerfileAudit.Tree.Path

/-!
Finding Dockerfiles below a directory. Candidates are regular files whose name has no extension and
contains the pattern; those that may be executed are left out. They come in the order of paths,
which are compared component by component and not as text, so what is below a directory stays
together.
-/
set_option autoImplicit false

namespace DockerfileAudit
namespace Path

inductive Component where
  | root
  | here
  | up
  | name (text : Text)
deriving DecidableEq

namespace Component

def rank : Component → Nat
  | .root => 0
  | .here => 1
  | .up => 2
  | .name _ => 3

def text : Component → Text
  | .name text => text
  | _ => []

instance : LT Component :=
  ⟨fun left right => left.rank < right.rank ∨ left.rank = right.rank ∧ left.text < right.text⟩

instance : DecidableLT Component := fun left right =>
  inferInstanceAs
    (Decidable (left.rank < right.rank ∨ left.rank = right.rank ∧ left.text < right.text))

def ofName (part : Text) : Component := if part = ['.', '.'] then .up else .name part

end Component

/-- What a path starts with. A dot counts only there. -/
def firstComponent (path : Text) : List Component :=
  if Text.startsWith path ['/'] then [.root]
  else if (parts path).head? = some ['.'] then [.here]
  else []

def components (path : Text) : List Component :=
  firstComponent path ++ (names path).map Component.ofName

def fileName? (path : Text) : Option Text :=
  match (components path).getLast? with
  | some (.name text) => some text
  | _ => none

def insert (path : Text) : List Text → List Text
  | [] => [path]
  | first :: rest =>
      if components first < components path then first :: insert path rest
      else path :: first :: rest

def sort (paths : List Text) : List Text := paths.foldr insert []

end Path

namespace Discover

def defaultPattern : Text := "dockerfile".toList

/-- A name has an extension if it has a dot after its first character; only the dot counts, not
what follows it. -/
def hasExtension (name : Text) : Bool := name.tail.contains '.'

/-- Whether a path ends in the name of a Dockerfile. A path without such an end is taken as a whole.
-/
def isWanted (pattern path : Text) : Bool :=
  !(Path.fileName? path).any hasExtension &&
    Text.holds (Text.lower pattern) (Text.lower ((Path.fileName? path).getD path))

/-- Permission to execute, for whomever. -/
def isExecutable (mode : Nat) : Bool := mode &&& 0o111 != 0

/-- What a walk comes to: a regular file, at a place below the start and with its permission bits if
they are to be had; another entry; or something that cannot be read. -/
inductive Visit where
  | file (place : List Text) (mode : Except Text Nat)
  | other (place : List Text)
  | failure (message : Text)

mutual

def visitsAt (place : List Text) : FileTree → List Visit
  | .file _ mode => [.file place (.ok mode)]
  | .link _ => [.other place]
  | .directory content => .other place :: visitsIn place content

def visitsIn (place : List Text) : Directory → List Visit
  | .empty => []
  | .entry name tree rest => visitsAt (place ++ [name]) tree ++ visitsIn place rest

end

/-- What a search starts from: the tree at the path. A link is followed if it leads to a
directory, and is no file otherwise. -/
def start (system : FileSystem) (path : Text) : Except PathError FileTree :=
  match Path.resolve system false path with
  | .error failure => .error failure
  | .ok (.link target) =>
      match Path.resolve system true path with
      | .error failure => .error failure
      | .ok (.directory content) => .ok (.directory content)
      | .ok _ => .ok (.link target)
  | .ok tree => .ok tree

/-- The walk from a path. A start that cannot be read is all that it comes to. -/
def walk (system : FileSystem) (path : Text) : List Visit :=
  match start system path with
  | .error failure =>
      [.failure ("IO error for operation on ".toList ++ path ++ ": ".toList ++ failure.message)]
  | .ok tree => visitsAt [] tree

def pathOf (path : Text) (place : List Text) : Text := place.foldl Path.join path

inductive Verdict where
  | passed
  | selected (path : Text)
  | reported (event : Event)

namespace Verdict

def path? : Verdict → Option Text
  | .selected path => some path
  | _ => none

def event? : Verdict → Option Event
  | .reported event => some event
  | _ => none

end Verdict

/-- The verdict on a visit of the walk from a path. Permission bits are asked for last. -/
def judge (path pattern : Text) : Visit → Verdict
  | .failure message => .reported (.pathSkipped message)
  | .other _ => .passed
  | .file place mode =>
      if isWanted pattern (pathOf path place) then
        match mode with
        | .ok mode =>
            if isExecutable mode then .reported (.executableIgnored (pathOf path place))
            else .selected (pathOf path place)
        | .error message => .reported (.fileUnknown (pathOf path place) message)
      else .passed

def select (path pattern : Text) (visits : List Visit) : List Text :=
  Path.sort (visits.filterMap fun visit => (judge path pattern visit).path?)

def discover (system : FileSystem) (path pattern : Text) : List Text :=
  select path pattern (walk system path)

def events (system : FileSystem) (path pattern : Text) : List Event :=
  (walk system path).filterMap fun visit => (judge path pattern visit).event?

end Discover
end DockerfileAudit
