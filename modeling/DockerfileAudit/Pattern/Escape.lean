import DockerfileAudit.Pattern.Flags

/-!
What follows a backslash in a pattern.
-/
set_option autoImplicit false

namespace DockerfileAudit
namespace Pattern

/-- The smallest part of a pattern. A literal that is given as the number of a byte can stand only
for a character of ASCII where the pattern is not over Unicode. -/
inductive Atom where
  | literal (c : Char) (byte : Bool)
  | named (set : CodeSet)
  | look (condition : Look)

def charOf? (code : Nat) : Option Char :=
  if code < 0xD800 ∨ (0xDFFF < code ∧ code ≤ 0x10FFFF) then some (Char.ofNat code) else none

/-- The value of exactly `count` hexadecimal digits after those that gave `value`. -/
def readDigits (flags : Flags) : (count value : Nat) → Text → Option (Nat × Text)
  | 0, value, text => some (value, text)
  | _ + 1, _, [] => none
  | count + 1, value, c :: rest =>
      match Text.hexValue? c with
      | some digit => readDigits flags count (16 * value + digit) (flags.skip rest)
      | none => none

def readBraced (flags : Flags) : (fuel : Nat) → Text → Option (Text × Text)
  | 0, _ => none
  | fuel + 1, text =>
      match flags.skip text with
      | [] => none
      | '}' :: rest => some ([], rest)
      | c :: rest => (readBraced flags fuel rest).map fun read => (c :: read.1, read.2)

def hexNumber? (digits : Text) : Option Nat :=
  if digits.isEmpty then none
  else
    digits.foldl
      (fun value c =>
        match value, Text.hexValue? c with
        | some value, some digit => some (16 * value + digit)
        | _, _ => none)
      (some 0)

/-- A character by its number: `count` digits, or any number of digits between braces. -/
def readCode (flags : Flags) (count : Nat) (text : Text) : Option (Char × Bool × Text) :=
  match flags.skip text with
  | [] => none
  | '{' :: rest =>
      match readBraced flags (rest.length + 1) rest with
      | none => none
      | some (digits, rest) =>
          match (hexNumber? digits).bind charOf? with
          | some c => some (c, false, flags.skip rest)
          | none => none
  | text =>
      match readDigits flags count 0 text with
      | none => none
      | some (value, rest) =>
          match charOf? value with
          | some c => some (c, count == 2, rest)
          | none => none

def splitName (text : Text) : Text × Option Text :=
  let rec unequal : Text → Option (Text × Text)
    | [] => none
    | '!' :: '=' :: rest => some ([], rest)
    | c :: rest => (unequal rest).map fun parts => (c :: parts.1, parts.2)
  match unequal text with
  | some (name, value) => (name, some value)
  | none =>
      match Text.cutAt (· = ':') text with
      | some (name, value) => (name, some value)
      | none =>
          match Text.cutAt (· = '=') text with
          | some (name, value) => (name, some value)
          | none => (text, none)

def propertySet? (text : Text) : Option CodeSet :=
  match splitName text with
  | (name, none) => named? name
  | (name, some value) => valued? name value

def readProperty (flags : Flags) (negated : Bool) (text : Text) : Option (CodeSet × Text) :=
  let finish (name rest : Text) : Option (CodeSet × Text) :=
    if !flags.unicode then none
    else
      match (propertySet? name).bind (flags.settle negated) with
      | some set => some (set, rest)
      | none => none
  match flags.skip text with
  | [] => none
  | '{' :: rest =>
      match readBraced flags (rest.length + 1) rest with
      | some (name, rest) => finish name rest
      | none => none
  | c :: rest =>
      if c = '\\' ∨ !flags.unicode then none
      else
        match (named? [c]).bind (flags.settle negated) with
        | some set => some (set, flags.skip rest)
        | none => none

/-- Digits, white space and words; these sets hold both cases of each letter already. -/
def classLetter? (flags : Flags) (letter : Char) : Option CodeSet :=
  let set (wide ascii : CodeSet) (negated : Bool) : Option CodeSet :=
    flags.negate negated (if flags.unicode then wide else ascii)
  match letter with
  | 'd' => set digitSet asciiDigitSet false
  | 'D' => set digitSet asciiDigitSet true
  | 's' => set CodeSet.whiteSpace asciiSpaceSet false
  | 'S' => set CodeSet.whiteSpace asciiSpaceSet true
  | 'w' => set wordSet asciiWordSet false
  | 'W' => set wordSet asciiWordSet true
  | _ => none

def isClassLetter (letter : Char) : Bool := letter ∈ ['d', 'D', 's', 'S', 'w', 'W']

/-- A character that a backslash makes plain: one of ASCII that is neither letter nor digit, and
no angle bracket. -/
def isPlainable (c : Char) : Bool :=
  c.toNat < 0x80 && !Text.isDigit c && !Text.isAsciiLetter c && c != '<' && c != '>'

def controlLetter? (letter : Char) : Option Char :=
  match letter with
  | 'a' => some '\x07'
  | 'f' => some '\x0c'
  | 't' => some '\t'
  | 'n' => some '\n'
  | 'r' => some '\r'
  | 'v' => some '\x0b'
  | _ => none

def isBorderLetter (c : Char) : Bool := Text.isAsciiLetter c || c = '-'

def readLetters (flags : Flags) : (fuel : Nat) → Text → Text × Text
  | 0, text => ([], text)
  | _, [] => ([], [])
  | fuel + 1, c :: rest =>
      if isBorderLetter c then
        let read := readLetters flags fuel (flags.skip rest)
        (c :: read.1, read.2)
      else ([], c :: rest)

def borderKind? (alphabet : Alphabet) (name : Text) : Option Look :=
  if name = "start".toList then some (.wordStart alphabet)
  else if name = "end".toList then some (.wordEnd alphabet)
  else if name = "start-half".toList then some (.noWordBefore alphabet)
  else if name = "end-half".toList then some (.noWordAfter alphabet)
  else none

/-- A word border, of a special kind if letters follow between braces. Braces that do not start
with a letter are left to be read as a repetition. -/
def readWordBorder (flags : Flags) (text : Text) : Option (Atom × Text) :=
  match text with
  | '{' :: rest =>
      match flags.skip rest with
      | [] => none
      | c :: inner =>
          if isBorderLetter c then
            match readLetters flags (inner.length + 1) (c :: inner) with
            | (name, '}' :: rest) =>
                match borderKind? flags.alphabet name with
                | some condition => some (.look condition, rest)
                | none => none
            | _ => none
          else some (.look (.wordBorder flags.alphabet), text)
  | _ => some (.look (.wordBorder flags.alphabet), text)

def readEscape (flags : Flags) (text : Text) : Option (Atom × Text) :=
  match text with
  | [] => none
  | c :: rest =>
      let code (count : Nat) : Option (Atom × Text) :=
        match readCode flags count rest with
        | some (c, byte, rest) => some (.literal c byte, rest)
        | none => none
      let property (negated : Bool) : Option (Atom × Text) :=
        match readProperty flags negated rest with
        | some (set, rest) => some (.named set, rest)
        | none => none
      match c with
      | 'x' => code 2
      | 'u' => code 4
      | 'U' => code 8
      | 'p' => property false
      | 'P' => property true
      | 'A' => some (.look .textStart, rest)
      | 'z' => some (.look .textEnd, rest)
      | 'b' => readWordBorder flags rest
      | 'B' => some (.look (.noWordBorder flags.alphabet), rest)
      | '<' => some (.look (.wordStart flags.alphabet), rest)
      | '>' => some (.look (.wordEnd flags.alphabet), rest)
      | _ =>
          if isClassLetter c then
            match classLetter? flags c with
            | some set => some (.named set, rest)
            | none => none
          else if isPlainable c then some (.literal c false, rest)
          else
            match controlLetter? c with
            | some control => some (.literal control false, rest)
            | none => none

end Pattern
end DockerfileAudit
