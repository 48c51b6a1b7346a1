import DockerfileAudit.Json.Basic

/-!
Reading JSON text. Every reader takes the text and gives what it read with the text after it.
Values may nest to any depth: the fuel is the length of the text, and each step takes a character.
-/
set_option autoImplicit false

namespace DockerfileAudit
namespace Json

def isSpace (c : Char) : Bool := c = ' ' || c = '\n' || c = '\t' || c = '\r'

def skipSpace (text : Text) : Text := text.dropWhile isSpace

/-- A part of a string: a character as it stands, or a unit of UTF-16 given by its number. -/
inductive Piece where
  | char (c : Char)
  | unit (n : Nat)

def escaped? (c : Char) : Option Char :=
  match c with
  | '"' => some '"'
  | '\\' => some '\\'
  | '/' => some '/'
  | 'b' => some '\x08'
  | 'f' => some '\x0c'
  | 'n' => some '\n'
  | 'r' => some '\r'
  | 't' => some '\t'
  | _ => none

def unit? (a b c d : Char) : Option Nat := do
  let a ← Text.hexValue? a
  let b ← Text.hexValue? b
  let c ← Text.hexValue? c
  let d ← Text.hexValue? d
  return ((a * 16 + b) * 16 + c) * 16 + d

def readPieces : Text → Option (List Piece × Text)
  | [] => none
  | '"' :: rest => some ([], rest)
  | '\\' :: 'u' :: a :: b :: c :: d :: rest =>
      match unit? a b c d, readPieces rest with
      | some n, some (pieces, after) => some (.unit n :: pieces, after)
      | _, _ => none
  | '\\' :: c :: rest =>
      match escaped? c, readPieces rest with
      | some c, some (pieces, after) => some (.char c :: pieces, after)
      | _, _ => none
  | c :: rest =>
      if c.toNat < 0x20 ∨ c = '\\' then none
      else
        match readPieces rest with
        | some (pieces, after) => some (.char c :: pieces, after)
        | none => none

def isHighSurrogate (n : Nat) : Bool := 0xD800 ≤ n && n ≤ 0xDBFF

def isLowSurrogate (n : Nat) : Bool := 0xDC00 ≤ n && n ≤ 0xDFFF

/-- The text of the pieces: two units make one character if they are a surrogate pair, and half
a pair has no text. -/
def textOf : List Piece → Option Text
  | [] => some []
  | .char c :: rest => (textOf rest).map (c :: ·)
  | .unit n :: .unit m :: rest =>
      if isHighSurrogate n then
        if isLowSurrogate m then
          (textOf rest).map (Char.ofNat (0x10000 + (n - 0xD800) * 1024 + (m - 0xDC00)) :: ·)
        else none
      else if isLowSurrogate n then none
      else (textOf (.unit m :: rest)).map (Char.ofNat n :: ·)
  | .unit n :: rest =>
      if isHighSurrogate n || isLowSurrogate n then none
      else (textOf rest).map (Char.ofNat n :: ·)

def readString (text : Text) : Option (Option Text × Text) :=
  (readPieces text).map fun read => (textOf read.1, read.2)

def skipDigits : Text → Option Text
  | c :: rest => if Text.isDigit c then some (rest.dropWhile Text.isDigit) else none
  | [] => none

def skipExponent : Text → Option Text
  | 'e' :: '+' :: rest => skipDigits rest
  | 'e' :: '-' :: rest => skipDigits rest
  | 'e' :: rest => skipDigits rest
  | 'E' :: '+' :: rest => skipDigits rest
  | 'E' :: '-' :: rest => skipDigits rest
  | 'E' :: rest => skipDigits rest
  | text => some text

def skipFraction : Text → Option Text
  | '.' :: rest => skipDigits rest
  | text => some text

/-- A whole part has no leading zero unless it is zero. -/
def skipWhole : Text → Option Text
  | '0' :: c :: rest => if Text.isDigit c then none else some (c :: rest)
  | text => skipDigits text

def skipNumber (text : Text) : Option Text :=
  let unsigned :=
    match text with
    | '-' :: rest => rest
    | other => other
  (skipWhole unsigned).bind fun text => (skipFraction text).bind skipExponent

mutual

def readValue : (fuel : Nat) → Text → Option (Json × Text)
  | 0, _ => none
  | fuel + 1, text =>
      match skipSpace text with
      | 'n' :: 'u' :: 'l' :: 'l' :: rest => some (.null, rest)
      | 't' :: 'r' :: 'u' :: 'e' :: rest => some (.bool true, rest)
      | 'f' :: 'a' :: 'l' :: 's' :: 'e' :: rest => some (.bool false, rest)
      | '"' :: rest => (readString rest).map fun read => (.string read.1, read.2)
      | '[' :: rest =>
          match skipSpace rest with
          | ']' :: after => some (.array [], after)
          | text => (readItems fuel text).map fun read => (.array read.1, read.2)
      | '{' :: rest =>
          match skipSpace rest with
          | '}' :: after => some (.object [], after)
          | text => (readMembers fuel text).map fun read => (.object read.1, read.2)
      | text => (skipNumber text).map fun rest => (.number, rest)

def readItems : (fuel : Nat) → Text → Option (List Json × Text)
  | 0, _ => none
  | fuel + 1, text =>
      match readValue fuel text with
      | none => none
      | some (item, rest) =>
          match skipSpace rest with
          | ']' :: after => some ([item], after)
          | ',' :: more => (readItems fuel more).map fun read => (item :: read.1, read.2)
          | _ => none

def readMembers : (fuel : Nat) → Text → Option (List (Option Text × Json) × Text)
  | 0, _ => none
  | fuel + 1, text =>
      match skipSpace text with
      | '"' :: rest =>
          match readString rest with
          | none => none
          | some (name, rest) =>
              match skipSpace rest with
              | ':' :: rest =>
                  match readValue fuel rest with
                  | none => none
                  | some (value, rest) =>
                      match skipSpace rest with
                      | '}' :: after => some ([(name, value)], after)
                      | ',' :: more =>
                          (readMembers fuel more).map fun read =>
                            ((name, value) :: read.1, read.2)
                      | _ => none
              | _ => none
      | _ => none

end

/-- The value that a whole text stands for; only space may follow it. -/
def parse (text : Text) : Option Json :=
  match readValue (2 * text.length + 2) text with
  | some (value, rest) => if (skipSpace rest).isEmpty then some value else none
  | none => none

end Json
end DockerfileAudit
