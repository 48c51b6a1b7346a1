import DockerfileAudit.Json.Reader
import DockerfileAudit.Text.CodeSet

/-!
The statements of a Dockerfile, how the text after a directive is divided into arguments, and the
here-documents that arguments open. Each directive has one of five ways to its arguments: a shell
command, words, name and value pairs, a health check, and in front of some of these the list of
strings that a JSON array gives. A word such as `<<END` opens a body that runs up to the line `END`.
-/
set_option autoImplicit false

namespace DockerfileAudit

/-- One statement: its directive in small letters, the flags between directive and arguments, and
the arguments, all in the order of the text. -/
structure Statement where
  directive : Text
  flags : List Text
  args : List Text
deriving DecidableEq

inductive ParseError where
  | missingArguments (line : Nat) (directive : Text)
  | unterminatedHeredoc (line : Nat) (word : Text)
  | emptyDocument
deriving DecidableEq

namespace ParseError

def atLine (line : Nat) : Text := "line ".toList ++ Text.ofNat line ++ ": ".toList

def message : ParseError → Text
  | .missingArguments line directive =>
      atLine line ++ directive ++ " requires at least one argument".toList
  | .unterminatedHeredoc line word =>
      atLine line ++ "heredoc ".toList ++ word ++ " is never terminated".toList
  | .emptyDocument => "no instructions found".toList

end ParseError

namespace Argument

/-- Takes words that start with two hyphens off the front of a text. A flag has two characters at
least, so as many steps as the text has characters are enough. -/
def takeFlags : (fuel : Nat) → Text → List Text × Text
  | 0, text => ([], text)
  | fuel + 1, text =>
      if Text.startsWith text ['-', '-'] then
        match Text.cutAt Text.isBlank text with
        | some (flag, rest) =>
            let (flags, rest) := takeFlags fuel (Text.trimStart rest)
            (flag :: flags, rest)
        | none => ([text], [])
      else ([], text)

def flags (text : Text) : List Text × Text := takeFlags text.length text

/-- The strings of a JSON array; a text that is no such array is not in this form. -/
def execForm? (text : Text) : Option (List Text) :=
  if Text.startsWith text ['['] then (Json.parse text).bind (Json.list? Json.text?) else none

/-- A text as a single argument, unless it is empty. -/
def whole (text : Text) : List Text := if text.isEmpty then [] else [text]

/-- The words of a text in which quotes hide blanks. The word being read is in `current`, in
reverse; `inside` tells whether a word has begun, for a pair of quotes alone is a word; `quote` is
the quote that is open. Between double quotes a backslash makes the next character plain. -/
def quotedWordsFrom (current : Text) (inside : Bool) (quote : Option Char) : Text → List Text
  | [] => if inside then [current.reverse] else []
  | c :: rest =>
      match quote with
      | some q =>
          if c = q then quotedWordsFrom current inside none rest
          else if q = '"' ∧ c = '\\' then
            match rest with
            | [] => if inside then [current.reverse] else []
            | d :: after => quotedWordsFrom (d :: current) inside quote after
          else quotedWordsFrom (c :: current) inside quote rest
      | none =>
          if c = '"' ∨ c = '\'' then quotedWordsFrom current true (some c) rest
          else if Text.isBlank c then
            if inside then current.reverse :: quotedWordsFrom [] false none rest
            else quotedWordsFrom current false none rest
          else quotedWordsFrom (c :: current) true none rest

def quotedWords (text : Text) : List Text := quotedWordsFrom [] false none text

/-- A word with an equals sign is a name and a value; any other word stands alone. -/
def nameAndValue (word : Text) : List Text :=
  match Text.cutAt (· = '=') word with
  | some (name, value) => [name, value]
  | none => [word]

/-- Names and values. If the first word has no equals sign, the text is one name and, after the
first blank, one value with all its blanks. -/
def nameValues (text : Text) : List Text :=
  match quotedWords text with
  | [] => []
  | first :: others =>
      if first.contains '=' then (first :: others).flatMap nameAndValue
      else
        match Text.cutAt Text.isBlank text with
        | some (_, value) => first :: whole (Text.trim value)
        | none => [first]

/-- A health check is none, or a command after its keyword, or else plain words. -/
def healthCheck (text : Text) : List Text :=
  if Text.sameAscii text "none".toList then ["none".toList]
  else
    match Text.cutAt Text.isBlank text with
    | some (word, command) =>
        if Text.sameAscii word "cmd".toList then
          "cmd".toList :: (execForm? (Text.trim command)).getD (whole (Text.trim command))
        else Text.words text
    | none => Text.words text

def commandDirectives : List Text :=
  ["run".toList, "cmd".toList, "entrypoint".toList, "shell".toList]

def pathDirectives : List Text := ["copy".toList, "add".toList, "volume".toList]

def pairDirectives : List Text := ["env".toList, "label".toList, "arg".toList]

def ofText (directive text : Text) : List Text :=
  if directive ∈ commandDirectives then (execForm? text).getD (whole text)
  else if directive ∈ pathDirectives then (execForm? text).getD (Text.words text)
  else if directive ∈ pairDirectives then nameValues text
  else if directive = "healthcheck".toList then healthCheck text
  else Text.words text

end Argument

/-- A body that a statement opens: the line that ends it, and whether tabs at the start of its
lines are dropped. -/
structure Heredoc where
  word : Text
  dropTabs : Bool
deriving DecidableEq

namespace Heredoc

def isQuote (c : Char) : Bool := c = '"' || c = '\''

def unquoted (text : Text) : Text :=
  ((text.dropWhile isQuote).reverse.dropWhile isQuote).reverse

def isWordChar (c : Char) : Bool :=
  Text.isDigit c || Text.isAsciiLetter c || c = '_' || c = '.' || c = '-'

def named (dropTabs : Bool) (text : Text) : Option Heredoc :=
  let word := unquoted text
  if word.isEmpty || !word.all isWordChar then none else some ⟨word, dropTabs⟩

def ofWord? (word : Text) : Option Heredoc :=
  match word with
  | '<' :: '<' :: '-' :: rest => named true rest
  | '<' :: '<' :: rest => named false rest
  | _ => none

def directives : List Text := ["run".toList, "copy".toList, "add".toList]

def opened (statement : Statement) : List Heredoc :=
  if statement.directive ∈ directives then
    (statement.args.flatMap Text.words).filterMap ofWord?
  else []

def bodyLine (heredoc : Heredoc) (line : Text) : Text :=
  if heredoc.dropTabs then line.dropWhile (· = '\t') else line

end Heredoc
end DockerfileAudit
