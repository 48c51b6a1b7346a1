import DockerfileAudit.Text.Basic

/-!
Trees of files as values, and paths and what they lead to. A path is looked up name by name from the
top of a tree, following links on the way; only so many links are followed.
-/
set_option autoImplicit false

namespace DockerfileAudit

mutual

/-- A file with its bytes and its permission bits, a link to a path, or a directory. -/
inductive FileTree where
  | file (bytes : List Nat) (mode : Nat)
  | link (target : Text)
  | directory (content : Directory)

inductive Directory where
  | empty
  | entry (name : Text) (tree : FileTree) (rest : Directory)

end

namespace Directory

def find? (wanted : Text) : Directory → Option FileTree
  | .empty => none
  | .entry name tree rest => if name = wanted then some tree else find? wanted rest

/-- Replaces the entry of that name, or adds one at the end. -/
def put (wanted : Text) (new : FileTree) : Directory → Directory
  | .empty => .entry wanted new .empty
  | .entry name tree rest =>
      if name = wanted then .entry name new rest else .entry name tree (put wanted new rest)

end Directory

namespace FileTree

def emptyDirectory : FileTree := .directory .empty

def at? : List Text → FileTree → Option FileTree
  | [], tree => some tree
  | name :: rest, .directory content => (content.find? name).bind (at? rest)
  | _ :: _, _ => none

/-- The tree with another one at a place; directories on the way are made. -/
def put (new : FileTree) : List Text → FileTree → FileTree
  | [], _ => new
  | name :: rest, .directory content =>
      .directory (content.put name (put new rest ((content.find? name).getD emptyDirectory)))
  | name :: rest, _ => .directory (Directory.empty.put name (put new rest emptyDirectory))

end FileTree

structure FileSystem where
  root : FileTree
  here : List Text

inductive PathError where
  | notFound
  | notDirectory
  | isDirectory
  | nameTooLong
  | tooManyLinks
deriving DecidableEq

namespace PathError

def message : PathError → Text
  | .notFound => "No such file or directory (os error 2)".toList
  | .notDirectory => "Not a directory (os error 20)".toList
  | .isDirectory => "Is a directory (os error 21)".toList
  | .nameTooLong => "File name too long (os error 36)".toList
  | .tooManyLinks => "Too many levels of symbolic links (os error 40)".toList

end PathError

namespace Path

def parts (path : Text) : List Text :=
  (Text.fields (· = '/') path).filter fun part => !part.isEmpty

/-- The parts that are names; a dot stands for the directory that has been reached. -/
def names (path : Text) : List Text := (parts path).filter (· ≠ ['.'])

def wantsDirectory (path : Text) : Bool := path.getLast? = some '/'

def join (path name : Text) : Text :=
  if path.isEmpty || path.getLast? = some '/' then path ++ name else path ++ ['/'] ++ name

def byteLength (text : Text) : Nat := text.foldr (fun c length => Utf8.width c + length) 0

def longestName : Nat := 255

def longestPath : Nat := 4095

def mostLinks : Nat := 40

/-- What a lookup comes to: a tree and its place; a name that a directory does not have; or a link
on the way, with the names that are still to be looked up behind it. -/
inductive Lookup where
  | found (place : List Text) (tree : FileTree)
  | missing (place : List Text) (name : Text)
  | link (place : List Text) (target : Text) (rest : List Text)

/-- Goes down from a place by names up to the first link. The last link is not followed if
`follow` is off. -/
def descend (root : FileTree) (follow : Bool) :
    (place : List Text) → List Text → Except PathError Lookup
  | place, [] =>
      match root.at? place with
      | some tree => .ok (.found place tree)
      | none => .error .notFound
  | place, name :: rest =>
      if name = ['.'] then descend root follow place rest
      else if name = ['.', '.'] then descend root follow place.dropLast rest
      else if longestName < byteLength name then .error .nameTooLong
      else
        match root.at? (place ++ [name]) with
        | none => if rest.isEmpty then .ok (.missing place name) else .error .notFound
        | some (.file bytes mode) =>
            if rest.isEmpty then .ok (.found (place ++ [name]) (.file bytes mode))
            else .error .notDirectory
        | some (.link target) =>
            if rest.isEmpty && !follow then .ok (.found (place ++ [name]) (.link target))
            else .ok (.link place target rest)
        | some (.directory _) => descend root follow (place ++ [name]) rest

def origin (place : List Text) (path : Text) : List Text :=
  if Text.startsWith path ['/'] then [] else place

/-- Goes down by names and follows links, at most `links` of them. -/
def chase (root : FileTree) (follow : Bool) :
    (links : Nat) → (place rest : List Text) → (directory : Bool) →
      Except PathError (Lookup × Bool)
  | links, place, rest, directory =>
      match descend root (follow || directory) place rest with
      | .error failure => .error failure
      | .ok (.link place target rest) =>
          match links with
          | 0 => .error .tooManyLinks
          | links + 1 =>
              chase root follow links (origin place target) (parts target ++ rest)
                (directory || (rest.isEmpty && wantsDirectory target))
      | .ok found => .ok (found, directory)

def lookup (system : FileSystem) (follow : Bool) (path : Text) :
    Except PathError (Lookup × Bool) :=
  if path.isEmpty then .error .notFound
  else if longestPath < byteLength path then .error .nameTooLong
  else
    chase system.root follow mostLinks (origin system.here path) (parts path)
      (wantsDirectory path)

def resolve (system : FileSystem) (follow : Bool) (path : Text) : Except PathError FileTree :=
  match lookup system follow path with
  | .error failure => .error failure
  | .ok (.found _ tree, directory) =>
      match tree with
      | .directory content => .ok (.directory content)
      | other => if directory then .error .notDirectory else .ok other
  | .ok _ => .error .notFound

end Path

inductive ReadError where
  | path (failure : PathError)
  | notUtf8
deriving DecidableEq

def ReadError.message : ReadError → Text
  | .path failure => failure.message
  | .notUtf8 => "stream did not contain valid UTF-8".toList

namespace FileSystem

def read (system : FileSystem) (path : Text) : Except ReadError Text :=
  match Path.resolve system true path with
  | .error failure => .error (.path failure)
  | .ok (.file bytes _) =>
      match Utf8.decode bytes with
      | some text => .ok text
      | none => .error .notUtf8
  | .ok _ => .error (.path .isDirectory)

def newFileMode : Nat := 0o644

def put (system : FileSystem) (place : List Text) (tree : FileTree) : FileSystem :=
  { system with root := FileTree.put tree place system.root }

/-- These bytes in the file that a path leads to. A file that is not there is made, if its
directory is. -/
def write (system : FileSystem) (path : Text) (bytes : List Nat) :
    Except PathError FileSystem :=
  match Path.lookup system true path with
  | .error failure => .error failure
  | .ok (.found place (.file _ mode), wanted) =>
      if wanted then .error .isDirectory else .ok (system.put place (.file bytes mode))
  | .ok (.missing place name, wanted) =>
      if wanted then .error .isDirectory
      else .ok (system.put (place ++ [name]) (.file bytes newFileMode))
  | .ok _ => .error .isDirectory

end FileSystem
end DockerfileAudit
