import DockerfileAudit.Pattern.Class

/-!
Patterns as expressions: what has to be matched, with the choices of letter case and of character
classes already made.
-/
set_option autoImplicit false

namespace DockerfileAudit
namespace Pattern

structure Border where
  before : Option Char
  after : Option Char
deriving DecidableEq

inductive Alphabet where
  | unicode
  | ascii
deriving DecidableEq

inductive Look where
  | textStart
  | textEnd
  | lineStart
  | lineEnd
  | anyLineStart
  | anyLineEnd
  | wordBorder (alphabet : Alphabet)
  | noWordBorder (alphabet : Alphabet)
  | wordStart (alphabet : Alphabet)
  | wordEnd (alphabet : Alphabet)
  | noWordBefore (alphabet : Alphabet)
  | noWordAfter (alphabet : Alphabet)
deriving DecidableEq

def Alphabet.words : Alphabet → CodeSet
  | .unicode => wordSet
  | .ascii => asciiWordSet

def Alphabet.isWord (alphabet : Alphabet) (side : Option Char) : Bool :=
  match side with
  | none => false
  | some c => alphabet.words.contains c.toNat

namespace Look

/-- Lines end at a line feed; where any line end counts, also at a carriage return, and the two in
a row are one line end. -/
def holds (look : Look) (border : Border) : Bool :=
  match look with
  | .textStart => border.before.isNone
  | .textEnd => border.after.isNone
  | .lineStart => border.before.isNone || border.before = some '\n'
  | .lineEnd => border.after.isNone || border.after = some '\n'
  | .anyLineStart =>
      border.before.isNone || border.before = some '\n' ||
        (border.before = some '\r' && border.after != some '\n')
  | .anyLineEnd =>
      border.after.isNone || border.after = some '\r' ||
        (border.after = some '\n' && border.before != some '\r')
  | .wordBorder alphabet => alphabet.isWord border.before != alphabet.isWord border.after
  | .noWordBorder alphabet => alphabet.isWord border.before == alphabet.isWord border.after
  | .wordStart alphabet => !alphabet.isWord border.before && alphabet.isWord border.after
  | .wordEnd alphabet => alphabet.isWord border.before && !alphabet.isWord border.after
  | .noWordBefore alphabet => !alphabet.isWord border.before
  | .noWordAfter alphabet => !alphabet.isWord border.after

end Look

/-- A pattern as it is written. A group only marks a part; whether its text would be remembered
matters for the room that the pattern takes. -/
inductive Expr where
  | empty
  | set (codes : CodeSet)
  | look (condition : Look)
  | group (remembered : Bool) (inner : Expr)
  | concat (left right : Expr)
  | alt (left right : Expr)
  | repeat (inner : Expr) (least : Nat) (most : Option Nat)
deriving DecidableEq

namespace Expr

/-- No match has any characters. -/
def isHollow : Expr → Bool
  | .empty => true
  | .set _ => false
  | .look _ => true
  | .group _ inner => isHollow inner
  | .concat left right => isHollow left && isHollow right
  | .alt left right => isHollow left && isHollow right
  | .repeat inner _ most => isHollow inner || most == some 0

/-- An expression between `least` and `most` times. What has no characters is matched once or not
at all, since more often makes no difference. -/
def repeated (inner : Expr) (least : Nat) (most : Option Nat) : Expr :=
  if inner.isHollow then .repeat inner (min least 1) (some (min (most.getD 1) 1))
  else .repeat inner least most

end Expr
end Pattern
end DockerfileAudit
