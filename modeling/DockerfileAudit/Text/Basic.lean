/-!
Text as lists of characters: cutting, joining and searching, the letters of ASCII, lines, bytes in
UTF-8, and ascending lists. What needs a table of Unicode lives in the modules beside this one.
-/
set_option autoImplicit false

namespace DockerfileAudit

/-- Text is the list of its characters, so that readers and printers recurse on it directly. -/
abbrev Text := List Char

instance (text : Text) (texts : List Text) : Decidable (text ∈ texts) :=
  List.instDecidableMemOfLawfulBEq text texts

namespace Text

/-- The text before and after the first character that satisfies `p`; that character is in
neither part. -/
def cutAt (p : Char → Bool) : Text → Option (Text × Text)
  | [] => none
  | c :: rest =>
      if p c then some ([], rest)
      else (cutAt p rest).map fun parts => (c :: parts.1, parts.2)

/-- The fields between the characters that satisfy `p`. There is always one more field than there
are separators, so the empty text has one empty field. -/
def fields (p : Char → Bool) : Text → List Text
  | [] => [[]]
  | c :: rest =>
      if p c then [] :: fields p rest
      else
        match fields p rest with
        | [] => [[c]]
        | first :: others => (c :: first) :: others

def after? : (head text : Text) → Option Text
  | [], text => some text
  | _ :: _, [] => none
  | h :: head, c :: text => if h = c then after? head text else none

def startsWith (text head : Text) : Bool :=
  (after? head text).isSome

def before? (last : Char) (text : Text) : Option Text :=
  match text.reverse with
  | [] => none
  | c :: rest => if c = last then some rest.reverse else none

def holds (part : Text) : Text → Bool
  | [] => part.isEmpty
  | c :: rest => startsWith (c :: rest) part || holds part rest

def join (between : Text) : List Text → Text
  | [] => []
  | [text] => text
  | text :: others => text ++ between ++ join between others

def asciiLower (c : Char) : Char :=
  if 'A' ≤ c ∧ c ≤ 'Z' then Char.ofNat (c.toNat + 32) else c

def sameAscii (left right : Text) : Bool :=
  left.map asciiLower == right.map asciiLower

def isDigit (c : Char) : Bool := '0' ≤ c && c ≤ '9'

def isAsciiLetter (c : Char) : Bool :=
  ('a' ≤ c && c ≤ 'z') || ('A' ≤ c && c ≤ 'Z')

def hexValue? (c : Char) : Option Nat :=
  if '0' ≤ c ∧ c ≤ '9' then some (c.toNat - 48)
  else if 'a' ≤ c ∧ c ≤ 'f' then some (c.toNat - 87)
  else if 'A' ≤ c ∧ c ≤ 'F' then some (c.toNat - 55)
  else none

def hexDigit (n : Nat) : Char :=
  if n < 10 then Char.ofNat (48 + n) else Char.ofNat (87 + n)

def ofNat (n : Nat) : Text := Nat.toDigits 10 n

def toNat (digits : Text) : Nat :=
  digits.foldl (fun value c => 10 * value + (c.toNat - 48)) 0

/-- The line whose characters are given in reverse, when a line feed follows it. -/
def endedLine (reversed : Text) : Text :=
  match reversed with
  | '\r' :: rest => rest.reverse
  | other => other.reverse

/-- The lines of a text of which `current` holds, in reverse, the part of a line already read. -/
def linesFrom (current : Text) : Text → List Text
  | [] => if current.isEmpty then [] else [current.reverse]
  | c :: rest =>
      if c = '\n' then endedLine current :: linesFrom [] rest
      else linesFrom (c :: current) rest

def lines (text : Text) : List Text := linesFrom [] text

end Text

namespace Utf8

def isContinuation (byte : Nat) : Bool := 0x80 ≤ byte && byte ≤ 0xBF

/-- The text that the bytes encode, or nothing if they are not well formed. -/
def decode : List Nat → Option Text
  | [] => some []
  | a :: rest =>
      if a < 0x80 then (decode rest).map (Char.ofNat a :: ·)
      else if 0xC2 ≤ a ∧ a ≤ 0xDF then
        match rest with
        | b :: rest =>
            if isContinuation b then
              (decode rest).map (Char.ofNat ((a - 0xC0) * 64 + (b - 0x80)) :: ·)
            else none
        | _ => none
      else if 0xE0 ≤ a ∧ a ≤ 0xEF then
        match rest with
        | b :: c :: rest =>
            let code := (a - 0xE0) * 4096 + (b - 0x80) * 64 + (c - 0x80)
            if isContinuation b && isContinuation c && 0x800 ≤ code &&
                !(0xD800 ≤ code && code ≤ 0xDFFF) then
              (decode rest).map (Char.ofNat code :: ·)
            else none
        | _ => none
      else if 0xF0 ≤ a ∧ a ≤ 0xF4 then
        match rest with
        | b :: c :: d :: rest =>
            let code :=
              (a - 0xF0) * 262144 + (b - 0x80) * 4096 + (c - 0x80) * 64 + (d - 0x80)
            if isContinuation b && isContinuation c && isContinuation d && 0x10000 ≤ code &&
                code ≤ 0x10FFFF then
              (decode rest).map (Char.ofNat code :: ·)
            else none
        | _ => none
      else none

def encodeChar (c : Char) : List Nat :=
  let code := c.toNat
  if code < 0x80 then [code]
  else if code < 0x800 then [0xC0 + code / 64, 0x80 + code % 64]
  else if code < 0x10000 then
    [0xE0 + code / 4096, 0x80 + code / 64 % 64, 0x80 + code % 64]
  else
    [0xF0 + code / 262144, 0x80 + code / 4096 % 64, 0x80 + code / 64 % 64, 0x80 + code % 64]

def encode (text : Text) : List Nat := text.flatMap encodeChar

def width (c : Char) : Nat :=
  if c.toNat < 0x80 then 1
  else if c.toNat < 0x800 then 2
  else if c.toNat < 0x10000 then 3
  else 4

end Utf8

/-- Adds an element to an ascending list without repetition. -/
def insertSorted {α : Type} [DecidableEq α] [LT α] [DecidableLT α] (a : α) : List α → List α
  | [] => [a]
  | b :: rest =>
      if a = b then b :: rest
      else if a < b then a :: b :: rest
      else b :: insertSorted a rest

def sortedSet {α : Type} [DecidableEq α] [LT α] [DecidableLT α] (items : List α) : List α :=
  items.foldr insertSorted []

end DockerfileAudit
