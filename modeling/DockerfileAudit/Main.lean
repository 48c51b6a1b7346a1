import DockerfileAudit.CommandLine.Run

/-!
The program: it takes from the disk what a run can look at, lets the run decide, and prints and
writes what comes of it. Permission bits are not to be had here, so no file counts as one that may
be executed.
-/
set_option autoImplicit false

namespace DockerfileAudit
namespace Program

def logVariable : String := "DOCKERBENCH_LOG"

def deepest : Nat := Path.longestPath

def nothing : FileTree := .link []

def someFile : FileTree := .file [] FileSystem.newFileMode

/-- The name of a place below the root, as an entry of the directory that holds it. -/
def entryAt (place : List Text) (name : Text) : IO.FS.DirEntry :=
  ⟨String.ofList ('/' :: (place.intersperse ['/']).flatten), String.ofList name⟩

def kind? (entry : IO.FS.DirEntry) : IO (Option IO.FS.FileType) := do
  try return some (← entry.path.symlinkMetadata).type
  catch _ => return none

def target (entry : IO.FS.DirEntry) : IO Text :=
  return (← IO.FS.realPath entry.path).toString.toList

/-- The bytes of a file; one that cannot be read counts as nothing. -/
def loadFile (entry : IO.FS.DirEntry) : IO FileTree := do
  try
    let bytes ← IO.FS.readBinFile entry.path
    return .file (bytes.toList.map UInt8.toNat) FileSystem.newFileMode
  catch _ => return nothing

/-- What an entry of a directory holds, down to a depth. Only files with a wanted name are read. -/
def load (wanted : Text → Bool) : (depth : Nat) → IO.FS.DirEntry → IO FileTree
  | 0, _ => return nothing
  | depth + 1, entry => do
      match ← kind? entry with
      | some .file => if wanted entry.fileName.toList then loadFile entry else return someFile
      | some .symlink => return .link (← target entry)
      | some .dir =>
          let entries ← try entry.path.readDir catch _ => pure #[]
          let mut content := Directory.empty
          for below in entries do
            content := content.put below.fileName.toList (← load wanted depth below)
          return .directory content
      | _ => return nothing

/-- Walks by parts of a path and notes the directories and links on the way. Gives the place that
is reached in the end, if there is anything. -/
def walk : FileSystem → (place : List Text) → List Text → IO (FileSystem × Option (List Text))
  | system, place, [] => return (system, some place)
  | system, place, part :: rest => do
      if part = ['.'] then walk system place rest
      else if part = ['.', '.'] then walk system place.dropLast rest
      else
        let entry := entryAt place part
        let next := place ++ [part]
        match ← kind? entry with
        | some .dir =>
            let known := (FileTree.at? next system.root).isSome
            walk (if known then system else system.put next FileTree.emptyDirectory) next rest
        | some .symlink =>
            let target ← target entry
            if Path.names target = next then return (system, none)
            else walk (system.put next (.link target)) (Path.names target) rest
        | some .file =>
            let system := system.put next someFile
            if rest.isEmpty then return (system, some next) else return (system, none)
        | _ => return (system, none)

def reveal (system : FileSystem) (path : Text) : IO (FileSystem × Option (List Text)) :=
  walk system (Path.origin system.here path) (Path.parts path)

def revealAll (wanted : Text → Bool) (system : FileSystem) (path : Text) : IO FileSystem := do
  let (system, place) ← reveal system path
  match place with
  | none => return system
  | some place =>
      let entry := entryAt place.dropLast (place.getLast?.getD [])
      return system.put place (← load wanted deepest entry)

/-- The files that a run with these arguments can look at. -/
def survey (arguments : CommandLine.Arguments) : IO FileSystem := do
  let here := Path.names (← IO.currentDir).toString.toList
  let (system, _) ← reveal ⟨FileTree.emptyDirectory, []⟩ ((here.intersperse ['/']).flatten)
  let system : FileSystem := { system with here := here }
  let (system, _) ← reveal system (arguments.out.getD ['.'])
  revealAll (Discover.isWanted arguments.pattern) system arguments.directory

def writeOut (outcome : CommandLine.Outcome) (path : Text) : IO Unit := do
  match outcome.files.read path with
  | .ok text => IO.FS.writeFile (String.ofList path) (String.ofList text)
  | .error _ => return

def finish (outcome : CommandLine.Outcome) (out : Option Text) : IO UInt32 := do
  for event in outcome.log do
    IO.eprintln (String.ofList event.line)
  IO.print (String.ofList outcome.output)
  match outcome.failure, out with
  | some line, _ => IO.eprintln (String.ofList line)
  | none, some path => writeOut outcome path
  | none, none => pure ()
  return UInt32.ofNat outcome.exitCode

end Program
end DockerfileAudit

open DockerfileAudit in
def main (texts : List String) : IO UInt32 := do
  let texts := texts.map String.toList
  let environment := (← IO.getEnv Program.logVariable).map String.toList
  match CommandLine.Arguments.parse texts with
  | .error _ =>
      Program.finish (CommandLine.run ⟨FileTree.emptyDirectory, []⟩ environment texts) none
  | .ok arguments =>
      let system ← Program.survey arguments
      Program.finish (CommandLine.run system environment texts) arguments.out
