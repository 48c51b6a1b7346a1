import DockerfileAudit.Dockerfile.Statement
import DockerfileAudit.Text.Case

/-!
From the lines of a Dockerfile to its statements. The reader goes line by line and keeps its place:
between statements, inside a statement that continues on the next line, or inside the body of a
heredoc. So the statements of two documents put together are those of the first and those of the
second, whenever the first ends between statements.
-/
set_option autoImplicit false

namespace DockerfileAudit
namespace Statement

def flagDirectives : List Text :=
  ["from".toList, "run".toList, "copy".toList, "add".toList, "healthcheck".toList]

/-- The directives that mean nothing without an argument. -/
def argumentDirectives : List Text :=
  ["from".toList, "run".toList, "user".toList, "copy".toList, "add".toList, "env".toList,
    "label".toList]

/-- The first word of a logical line, and the text after the blanks that follow it. -/
def splitDirective (text : Text) : Text × Text :=
  match Text.cutAt Text.isBlank text with
  | some (word, rest) => (word, Text.trimStart rest)
  | none => (text, [])

def ofLine (text : Text) (number : Nat) : Except ParseError Statement :=
  let (word, rest) := splitDirective text
  let directive := Text.lower word
  let (flags, rest) :=
    if directive ∈ flagDirectives then Argument.flags rest else ([], rest)
  let args := Argument.ofText directive (Text.trim rest)
  if args.isEmpty && directive ∈ argumentDirectives then
    .error (.missingArguments number directive)
  else .ok ⟨directive, flags, args⟩

end Statement

namespace Document

inductive Place where
  | between
  | continued (start : Nat) (text : Text)
  | body (start : Nat) (statement : Statement) (heredoc : Heredoc) (later : List Heredoc)
      (text : Text)
deriving DecidableEq

/-- The place after a statement without its bodies: done, or in the first body. -/
def settle (start : Nat) (statement : Statement) : List Heredoc → Place × List Statement
  | [] => (.between, [statement])
  | heredoc :: later => (.body start statement heredoc later [], [])

/-- A line that is blank or a comment says nothing, also between the lines of a statement. -/
def isSilent (trimmed : Text) : Bool := trimmed.isEmpty || Text.startsWith trimmed ['#']

/-- A line outside of bodies, after the text `sofar` of the same statement. -/
def stepLine (escape : Char) (start : Nat) (sofar trimmed : Text) :
    Except ParseError (Place × List Statement) :=
  match Text.before? escape trimmed with
  | some head => .ok (.continued start (sofar ++ Text.trimEnd head ++ [' ']), [])
  | none =>
      match Statement.ofLine (sofar ++ trimmed) start with
      | .error failure => .error failure
      | .ok statement => .ok (settle start statement (Heredoc.opened statement))

/-- The place after a line, with the statement that the line completes. -/
def step (escape : Char) (number : Nat) (line : Text) (place : Place) :
    Except ParseError (Place × List Statement) :=
  match place with
  | .between =>
      if isSilent (Text.trim line) then .ok (.between, [])
      else stepLine escape number [] (Text.trim line)
  | .continued start text =>
      if isSilent (Text.trim line) then .ok (.continued start text, [])
      else stepLine escape start text (Text.trim line)
  | .body start statement heredoc later text =>
      let line := heredoc.bodyLine line
      if line = heredoc.word then
        .ok (settle start { statement with args := statement.args ++ [text] } later)
      else .ok (.body start statement heredoc later (text ++ line ++ ['\n']), [])

/-- A statement that continues at the end of the document is complete; a body is not. -/
def finish : Place → Except ParseError (List Statement)
  | .between => .ok []
  | .continued start text =>
      if (Text.trim text).isEmpty then .ok []
      else (Statement.ofLine (Text.trim text) start).map fun statement => [statement]
  | .body start _ heredoc _ _ => .error (.unterminatedHeredoc start heredoc.word)

def read (escape : Char) : Place → (number : Nat) → List Text → Except ParseError (List Statement)
  | place, _, [] => finish place
  | place, number, line :: rest =>
      match step escape number line place with
      | .error failure => .error failure
      | .ok (place, done) => (read escape place (number + 1) rest).map (done ++ ·)

def backslash : Char := '\\'

def backtick : Char := '\x60'

def choosesBacktick (comment : Text) : Bool :=
  match Text.cutAt (· = '=') comment with
  | some (key, value) =>
      Text.sameAscii (Text.trim key) "escape".toList && Text.trim value = [backtick]
  | none => false

/-- The character that continues a line. The comments at the top may choose the backtick; the
first line that is no comment ends the search. -/
def escapeOf : List Text → Char
  | [] => backslash
  | line :: rest =>
      match Text.after? ['#'] (Text.trim line) with
      | none => backslash
      | some comment => if choosesBacktick comment then backtick else escapeOf rest

/-- A text without one byte order mark at its start. -/
def withoutMark (text : Text) : Text :=
  match text with
  | [] => []
  | c :: rest => if c = Char.ofNat 0xFEFF then rest else c :: rest

/-- The statements of a Dockerfile; a document without any is an error. -/
def parse (text : Text) : Except ParseError (List Statement) :=
  let lines := Text.lines (withoutMark text)
  match read (escapeOf lines) .between 1 lines with
  | .error failure => .error failure
  | .ok [] => .error .emptyDocument
  | .ok statements => .ok statements

end Document
end DockerfileAudit
