import DockerfileAudit.Text.Basic

/-!
JSON documents as far as this library needs them: texts, lists and records with named fields.
Numbers are recognised but carry no value, since nothing here reads one. Documents are written over
several lines, two blanks to each level, and only quotes, backslashes and control characters are
escaped.
-/
set_option autoImplicit false

namespace DockerfileAudit

/-- A JSON value. A string whose escapes hold half of a surrogate pair has no text; such a string
is well formed as long as nobody asks for the text. -/
inductive Json where
  | null
  | bool (value : Bool)
  | number
  | string (text : Option Text)
  | array (items : List Json)
  | object (members : List (Option Text × Json))

namespace Json

def text? : Json → Option Text
  | .string text => text
  | _ => none

def list? {α : Type} (read : Json → Option α) : Json → Option (List α)
  | .array items => items.mapM read
  | _ => none

def under (name : Text) (members : List (Option Text × Json)) : List Json :=
  (members.filter fun member => member.1 = some name).map Prod.snd

def only? (name : Text) (members : List (Option Text × Json)) : Option Json :=
  match under name members with
  | [value] => some value
  | _ => none

/-- The values of a record's fields. An object gives each field once, in any order and among other
members, but under names that are text; an array gives exactly the fields, in their order. -/
def record? (names : List Text) : Json → Option (List Json)
  | .array items => if items.length = names.length then some items else none
  | .object members =>
      if members.all fun member => member.1.isSome then names.mapM fun name => only? name members
      else none
  | _ => none

def writeChar (c : Char) : Text :=
  match c with
  | '"' => ['\\', '"']
  | '\\' => ['\\', '\\']
  | '\x08' => ['\\', 'b']
  | '\x0c' => ['\\', 'f']
  | '\n' => ['\\', 'n']
  | '\r' => ['\\', 'r']
  | '\t' => ['\\', 't']
  | _ =>
      if c.toNat < 0x20 then
        ['\\', 'u', '0', '0', Text.hexDigit (c.toNat / 16), Text.hexDigit (c.toNat % 16)]
      else [c]

def writeString (text : Text) : Text := ['"'] ++ text.flatMap writeChar ++ ['"']

def newline (level : Nat) : Text := '\n' :: List.replicate (2 * level) ' '

/-- Written parts between brackets, each on a line one level further in. -/
def writeBlock (opening closing : Char) (level : Nat) (parts : List Text) : Text :=
  if parts.isEmpty then [opening, closing]
  else
    [opening] ++ newline (level + 1) ++ Text.join (',' :: newline (level + 1)) parts ++
      newline level ++ [closing]

def writeArray (level : Nat) (items : List Text) : Text := writeBlock '[' ']' level items

def writeMember (name value : Text) : Text := writeString name ++ [':', ' '] ++ value

def writeObject (level : Nat) (members : List (Text × Text)) : Text :=
  writeBlock '{' '}' level (members.map fun member => writeMember member.1 member.2)

def writeStrings (items : List Text) : Text :=
  ['['] ++ Text.join [','] (items.map writeString) ++ [']']

end Json
end DockerfileAudit
