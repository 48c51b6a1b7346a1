import DockerfileAudit.Dockerfile.Statement
import DockerfileAudit.Pattern.Compile

/-!
The instructions that are known of a file, and what may be asked of them. Instructions are only ever
added at the end, so the position of an instruction is its identity.
-/
set_option autoImplicit false

namespace DockerfileAudit

structure Instruction where
  directive : Text
  flags : List Text
  content : List Text
deriving DecidableEq

namespace Instruction

def ofStatement (statement : Statement) : Instruction :=
  ⟨Text.lower statement.directive, statement.flags, statement.args⟩

/-- Directives are compared without regard to the case of ASCII letters. -/
def is (instruction : Instruction) (name : Text) : Bool :=
  Text.sameAscii instruction.directive name

def ofJson? (json : Json) : Option Instruction :=
  match json.record? ["directive".toList, "flags".toList, "content".toList] with
  | some [directive, flags, content] => do
      let directive ← directive.text?
      let flags ← flags.list? Json.text?
      let content ← content.list? Json.text?
      return ⟨directive, flags, content⟩
  | _ => none

end Instruction

structure InstructionSet where
  file : Text
  instructions : List Instruction
deriving DecidableEq

namespace InstructionSet

def empty (file : Text) : InstructionSet := ⟨file, []⟩

/-- A statement whose directive is blank is no instruction. -/
def accepts (statement : Statement) : Bool := !(Text.trim statement.directive).isEmpty

def append (set : InstructionSet) (statements : List Statement) : InstructionSet :=
  { set with
    instructions :=
      set.instructions ++ (statements.filter accepts).map Instruction.ofStatement }

def size (set : InstructionSet) : Nat := set.instructions.length

def ofJson? (json : Json) : Option InstructionSet :=
  match json.record? ["file_id".toList, "instructions".toList] with
  | some [file, instructions] => do
      let file ← file.text?
      let instructions ← instructions.list? Instruction.ofJson?
      return ⟨file, instructions⟩
  | _ => none

end InstructionSet

/-- Each element once, where it comes first. -/
def firstSeen {α : Type} [DecidableEq α] : List α → List α
  | [] => []
  | a :: rest => a :: (firstSeen rest).filter (· ≠ a)

namespace InstructionSet

def hasDirective (set : InstructionSet) (name : Text) : Bool :=
  set.instructions.any fun instruction => instruction.is name

def matchCount (name : Text) (regex : Pattern.Regex) (instruction : Instruction) : Nat :=
  if instruction.is name then (instruction.content.filter regex.isIn).length else 0

/-- Positions are counted from `start` on. -/
def positionsFrom (name : Text) (regex : Pattern.Regex) (start : Nat) :
    List Instruction → List Nat
  | [] => []
  | instruction :: rest =>
      List.replicate (matchCount name regex instruction) start ++
        positionsFrom name regex (start + 1) rest

/-- The positions of the instructions of that name with content that matches, once for each
content that does. -/
def positions (set : InstructionSet) (name : Text) (regex : Pattern.Regex) : List Nat :=
  positionsFrom name regex 0 set.instructions

def positionsOf (set : InstructionSet) (name pattern : Text) : List Nat :=
  match Pattern.compile pattern with
  | some regex => set.positions name regex
  | none => []

/-- The images that the file builds on, each once, in the order of the file. -/
def baseImages (set : InstructionSet) : List Text :=
  firstSeen
    ((set.instructions.filter fun instruction => instruction.is "from".toList).filterMap
      fun instruction => instruction.content.head?)

end InstructionSet

/-- The positions of the first list that are not in the second, ascending and each once. -/
def unmatchedPositions (updates installs : List Nat) : List Nat :=
  sortedSet (updates.filter fun position => !installs.contains position)

end DockerfileAudit
