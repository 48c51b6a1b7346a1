import DockerfileAudit.Text.Basic

/-!
Sets of code points as ascending, separated ranges, the tables that list them, and white space, the
set at which text is trimmed and split. Surrogates are no characters: a complement leaves them out,
and a range that runs over them means the characters on both sides.
-/
set_option autoImplicit false

namespace DockerfileAudit

/-- A set of code points: ranges with both ends included, ascending, no two of them touching. -/
structure CodeSet where
  ranges : List (Nat × Nat)
deriving DecidableEq

namespace CodeSet

def last : Nat := 0x10FFFF

def empty : CodeSet := ⟨[]⟩

def single (code : Nat) : CodeSet := ⟨[(code, code)]⟩

/-- Ranges ascend, so the search ends at the first range that starts above the code. -/
def inRanges (code : Nat) : List (Nat × Nat) → Bool
  | [] => false
  | (low, high) :: rest =>
      if code < low then false
      else if code ≤ high then true
      else inRanges code rest

def contains (set : CodeSet) (code : Nat) : Bool := inRanges code set.ranges

def insertRange (low high : Nat) : List (Nat × Nat) → List (Nat × Nat)
  | [] => [(low, high)]
  | (a, b) :: rest =>
      if high + 1 < a then (low, high) :: (a, b) :: rest
      else if b + 1 < low then (a, b) :: insertRange low high rest
      else insertRange (min low a) (max high b) rest

def insert (low high : Nat) (set : CodeSet) : CodeSet := ⟨insertRange low high set.ranges⟩

def ofRanges (ranges : List (Nat × Nat)) : CodeSet :=
  ranges.foldr (fun range set => set.insert range.1 range.2) empty

def union (left right : CodeSet) : CodeSet :=
  left.ranges.foldr (fun range set => set.insert range.1 range.2) right

/-- A gap without the surrogates at its ends, and nothing if it holds only surrogates. -/
def gap (low high : Nat) : List (Nat × Nat) :=
  let low := if 0xD800 ≤ low ∧ low ≤ 0xDFFF then 0xE000 else low
  let high := if 0xD800 ≤ high ∧ high ≤ 0xDFFF then 0xD7FF else high
  if low ≤ high then [(low, high)] else []

def gaps (start : Nat) : List (Nat × Nat) → List (Nat × Nat)
  | [] => if start ≤ last then gap start last else []
  | (low, high) :: rest =>
      if start < low then gap start (low - 1) ++ gaps (high + 1) rest
      else gaps (high + 1) rest

def complement (set : CodeSet) : CodeSet := ⟨gaps 0 set.ranges⟩

def inter (left right : CodeSet) : CodeSet :=
  (union left.complement right.complement).complement

def diff (left right : CodeSet) : CodeSet := inter left right.complement

def symmDiff (left right : CodeSet) : CodeSet :=
  diff (union left right) (inter left right)

def all : CodeSet := complement empty

def isAscii (set : CodeSet) : Bool := set.ranges.all fun range => range.2 < 0x80

def everySecond (low : Nat) : (count : Nat) → List (Nat × Nat)
  | 0 => []
  | count + 1 => (low, low) :: everySecond (low + 2) count

def readHex (digits : Text) : Nat :=
  digits.foldl (fun value c => 16 * value + (Text.hexValue? c).getD 0) 0

/-- One entry of a table: `A` is a code point, `A-B` a range, `A-B/2` every second code point
of a range. -/
def readEntry (entry : Text) : List (Nat × Nat) :=
  match Text.cutAt (· = '-') entry with
  | none => [(readHex entry, readHex entry)]
  | some (low, rest) =>
      match Text.cutAt (· = '/') rest with
      | none => [(readHex low, readHex rest)]
      | some (high, _) => everySecond (readHex low) ((readHex high - readHex low) / 2 + 1)

def ofTable (rows : List String) : CodeSet :=
  ⟨rows.flatMap fun row => (Text.fields (· = ' ') row.toList).flatMap readEntry⟩

end CodeSet

/-- A set of characters under its names; a name is spelled in small letters without blanks,
hyphens and low lines. The characters are given in rows of a table. -/
structure Property where
  names : List String
  rows : List String

namespace Property

def codes (property : Property) : CodeSet := CodeSet.ofTable property.rows

def isNamed (property : Property) (name : Text) : Bool :=
  property.names.any fun known => known.toList == name

def find? (properties : List Property) (name : Text) : Option Property :=
  properties.find? fun property => property.isNamed name

end Property

def CodeSet.whiteSpace : CodeSet :=
  ⟨[(0x9, 0xD), (0x20, 0x20), (0x85, 0x85), (0xA0, 0xA0), (0x1680, 0x1680), (0x2000, 0x200A),
    (0x2028, 0x2029), (0x202F, 0x202F), (0x205F, 0x205F), (0x3000, 0x3000)]⟩

namespace Text

def isBlank (c : Char) : Bool := CodeSet.whiteSpace.contains c.toNat

def trimStart (text : Text) : Text := text.dropWhile isBlank

def trimEnd (text : Text) : Text := (text.reverse.dropWhile isBlank).reverse

def trim (text : Text) : Text := trimEnd (trimStart text)

/-- The words of a text of which `current` holds, in reverse, the part of a word already read. -/
def wordsFrom (current : Text) : Text → List Text
  | [] => if current.isEmpty then [] else [current.reverse]
  | c :: rest =>
      if isBlank c then
        if current.isEmpty then wordsFrom [] rest else current.reverse :: wordsFrom [] rest
      else wordsFrom (c :: current) rest

def words (text : Text) : List Text := wordsFrom [] text

end Text
end DockerfileAudit
