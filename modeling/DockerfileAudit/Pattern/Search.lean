import DockerfileAudit.Pattern.Expr

/-!
Searching a text for a pattern. The text is read once from left to right. In a copy of the pattern
the places are marked where a match may have got to so far; a character moves every mark that it
fits. The work for one character is bounded by the size of the pattern.
-/
set_option autoImplicit false

namespace DockerfileAudit
namespace Pattern

inductive Regex where
  | empty
  | set (codes : CodeSet)
  | look (condition : Look)
  | seq (first second : Regex)
  | alt (left right : Regex)
  | star (inner : Regex)
deriving DecidableEq

namespace Regex

/-- The pattern `count` times in a row, halved so that the result is shallow. The depth of the
result is at most `fuel`, and a fuel of `count` is always enough. -/
def power (inner : Regex) : (fuel count : Nat) → Regex
  | _, 0 => .empty
  | _, 1 => inner
  | 0, _ => .empty
  | fuel + 1, count =>
      .seq (power inner fuel (count / 2)) (power inner fuel (count - count / 2))

def times (inner : Regex) (count : Nat) : Regex := power inner (count.log2 + 1) count

def atMost (inner : Regex) (count : Nat) : Regex := times (.alt inner .empty) count

def ofExpr : Expr → Regex
  | .empty => .empty
  | .set codes => .set codes
  | .look condition => .look condition
  | .group _ inner => ofExpr inner
  | .concat left right => .seq (ofExpr left) (ofExpr right)
  | .alt left right => .alt (ofExpr left) (ofExpr right)
  | .repeat inner least none => .seq (times (ofExpr inner) least) (.star (ofExpr inner))
  | .repeat inner least (some most) =>
      .seq (times (ofExpr inner) least) (atMost (ofExpr inner) (most - least))

def passes (border : Border) : Regex → Bool
  | .empty => true
  | .set _ => false
  | .look condition => condition.holds border
  | .seq first second => passes border first && passes border second
  | .alt left right => passes border left || passes border right
  | .star _ => true

end Regex

/-- A pattern with marks. A mark stands behind a set of which the last character read was a
member. A part without marks is kept as the pattern that it is. -/
inductive Marked where
  | idle (regex : Regex)
  | hit (codes : CodeSet)
  | seq (first second : Marked)
  | alt (left right : Marked)
  | star (inner : Marked)

namespace Marked

def mkSeq : Marked → Marked → Marked
  | .idle first, .idle second => .idle (.seq first second)
  | first, second => .seq first second

def mkAlt : Marked → Marked → Marked
  | .idle left, .idle right => .idle (.alt left right)
  | left, right => .alt left right

def mkStar : Marked → Marked
  | .idle inner => .idle (.star inner)
  | inner => .star inner

def enter (border : Border) (c : Char) : Regex → Marked
  | .empty => .idle .empty
  | .set codes => if codes.contains c.toNat then .hit codes else .idle (.set codes)
  | .look condition => .idle (.look condition)
  | .seq first second =>
      mkSeq (enter border c first)
        (if first.passes border then enter border c second else .idle second)
  | .alt left right => mkAlt (enter border c left) (enter border c right)
  | .star inner => mkStar (enter border c inner)

def passes (border : Border) : Marked → Bool
  | .idle regex => regex.passes border
  | .hit _ => false
  | .seq first second => passes border first && passes border second
  | .alt left right => passes border left || passes border right
  | .star _ => true

/-- Whether a mark has got to the end of the pattern, given what may be passed at the border. -/
def atEnd (border : Border) : Marked → Bool
  | .idle _ => false
  | .hit _ => true
  | .seq first second => atEnd border second || (atEnd border first && passes border second)
  | .alt left right => atEnd border left || atEnd border right
  | .star inner => atEnd border inner

/-- Moves the marks over a character; `entered` tells whether the pattern is also entered at the
border before it. -/
def advance (border : Border) (c : Char) : (entered : Bool) → Marked → Marked
  | entered, .idle regex => if entered then enter border c regex else .idle regex
  | entered, .hit codes =>
      if entered && codes.contains c.toNat then .hit codes else .idle (.set codes)
  | entered, .seq first second =>
      mkSeq (advance border c entered first)
        (advance border c (atEnd border first || (entered && passes border first)) second)
  | entered, .alt left right =>
      mkAlt (advance border c entered left) (advance border c entered right)
  | entered, .star inner =>
      mkStar (advance border c (entered || atEnd border inner) inner)

def succeeds (border : Border) (marked : Marked) : Bool :=
  atEnd border marked || passes border marked

/-- Reads on from a border; every border on the way may begin and may end a match. -/
def search (before : Option Char) (marked : Marked) : Text → Bool
  | [] => succeeds ⟨before, none⟩ marked
  | c :: rest =>
      succeeds ⟨before, some c⟩ marked ||
        search (some c) (advance ⟨before, some c⟩ c true marked) rest

end Marked

def Regex.isIn (regex : Regex) (text : Text) : Bool := Marked.search none (.idle regex) text

end Pattern
end DockerfileAudit
