import DockerfileAudit.Pattern.Expr

/-!
The modes in which a part of a pattern is read. They are chosen inside the pattern and hold up to
the end of the group in which they are chosen.
-/
set_option autoImplicit false

namespace DockerfileAudit
namespace Pattern

structure Flags where
  anyCase : Bool
  manyLines : Bool
  dotAll : Bool
  anyLineEnd : Bool
  unicode : Bool
  spaced : Bool
deriving DecidableEq

namespace Flags

def content : Flags := ⟨true, false, false, false, true, false⟩

/-- A mode by its letter. The letter `U` swaps greedy and reluctant repetitions, which makes no
difference to whether there is a match. -/
def choose (flags : Flags) (letter : Char) (value : Bool) : Option Flags :=
  match letter with
  | 'i' => some { flags with anyCase := value }
  | 'm' => some { flags with manyLines := value }
  | 's' => some { flags with dotAll := value }
  | 'R' => some { flags with anyLineEnd := value }
  | 'U' => some flags
  | 'u' => some { flags with unicode := value }
  | 'x' => some { flags with spaced := value }
  | _ => none

/-- Drops blanks and comments; a comment runs from a hash sign to the end of its line. -/
def skipSpaced (comment : Bool) : Text → Text
  | [] => []
  | c :: rest =>
      if comment then skipSpaced (c != '\n') rest
      else if Text.isBlank c then skipSpaced false rest
      else if c = '#' then skipSpaced true rest
      else c :: rest

def skip (flags : Flags) (text : Text) : Text :=
  if flags.spaced then skipSpaced false text else text

def alphabet (flags : Flags) : Alphabet := if flags.unicode then .unicode else .ascii

def fold (flags : Flags) (set : CodeSet) : CodeSet :=
  if !flags.anyCase then set
  else if flags.unicode then set.foldClosed
  else set.asciiClosed

/-- The characters outside of a set. Without Unicode these would be single bytes, which text has
not. -/
def negate (flags : Flags) (negated : Bool) (set : CodeSet) : Option CodeSet :=
  if !negated then some set
  else if flags.unicode then some set.complement
  else none

/-- Letter case is settled before the complement is taken. -/
def settle (flags : Flags) (negated : Bool) (set : CodeSet) : Option CodeSet :=
  flags.negate negated (flags.fold set)

def dot (flags : Flags) : Option CodeSet :=
  if !flags.unicode then none
  else if flags.dotAll then some CodeSet.all
  else if flags.anyLineEnd then some (CodeSet.ofRanges [(0xA, 0xA), (0xD, 0xD)]).complement
  else some (CodeSet.single 0xA).complement

def lineStart (flags : Flags) : Look :=
  if !flags.manyLines then .textStart
  else if flags.anyLineEnd then .anyLineStart
  else .lineStart

def lineEnd (flags : Flags) : Look :=
  if !flags.manyLines then .textEnd
  else if flags.anyLineEnd then .anyLineEnd
  else .lineEnd

end Flags
end Pattern
end DockerfileAudit
