import DockerfileAudit.Pattern.Automaton
import DockerfileAudit.Pattern.Reader
import DockerfileAudit.Pattern.Search

/-!
Content patterns ready for use. A pattern is refused if it cannot be read, nests too deep, or takes
too much room, which its automata do: one reads forwards and one backwards.
-/
set_option autoImplicit false

namespace DockerfileAudit
namespace Pattern

/-- What an expression comes to after parts without effect are dropped and alternatives are
merged. -/
inductive Form where
  | empty
  | char (code : Nat)
  | set (codes : CodeSet)
  | choice (branches : Nat)
  | other

/-- The room of an expression. For a choice it is that of the branches alone. `positive` tells
whether every match has characters, and is absent if there is no match at all. -/
structure Room where
  form : Form
  forward : Nat
  backward : Nat
  positive : Option Bool

namespace Room

open Automaton

def ofState (form : Form) : Room := ⟨form, stateRoom, stateRoom, some false⟩

def ofSet (codes : CodeSet) : Room :=
  match codes.ranges with
  | [] => ⟨.other, 2 * stateRoom, 2 * stateRoom, none⟩
  | [(low, high)] =>
      if low = high then
        let bytes := stateRoom * Utf8.width (Char.ofNat low)
        ⟨.char low, bytes, bytes, some true⟩
      else ⟨.set codes, forwardRoom codes, backwardRoom codes, some true⟩
  | _ => ⟨.set codes, forwardRoom codes, backwardRoom codes, some true⟩

/-- A choice has a state in front and one behind, and lists its branches. -/
def closed (room : Room) : Room :=
  match room.form with
  | .choice branches =>
      let extra := 2 * stateRoom + alternativeRoom * branches
      { room with form := .other, forward := room.forward + extra,
                  backward := room.backward + extra }
  | _ => room

def bothPositive (either : Bool → Bool → Bool) : Option Bool → Option Bool → Option Bool
  | some left, some right => some (either left right)
  | _, _ => none

/-- Parts without effect take no room beside others. -/
def concat (left right : Room) : Room :=
  match left.form, right.form with
  | .empty, _ => right
  | _, .empty => left
  | _, _ =>
      let left := left.closed
      let right := right.closed
      ⟨.other, left.forward + right.forward, left.backward + right.backward,
        bothPositive or left.positive right.positive⟩

def codes? (room : Room) : Option CodeSet :=
  match room.form with
  | .set codes => some codes
  | _ => none

def char? (room : Room) : Option Nat :=
  match room.form with
  | .char code => some code
  | _ => none

def branchCount (room : Room) : Nat :=
  match room.form with
  | .choice branches => branches
  | _ => 1

/-- Alternatives that are all characters, or all sets, are one set. -/
def alt (branches : List Room) : Room :=
  match branches with
  | [branch] => branch
  | _ =>
      match branches.mapM char?, branches.mapM codes? with
      | some codes, _ => ofSet (CodeSet.ofRanges (codes.map fun code => (code, code)))
      | _, some sets => ofSet (sets.foldr CodeSet.union CodeSet.empty)
      | none, none =>
          ⟨.choice (branches.foldr (fun branch count => branch.branchCount + count) 0),
            branches.foldr (fun branch room => branch.forward + room) 0,
            branches.foldr (fun branch room => branch.backward + room) 0,
            branches.foldr (fun branch => bothPositive and branch.positive) (some true)⟩

def repeated (positive : Bool) (least : Nat) (most : Option Nat) (inner : Nat) : Nat :=
  match least, most with
  | 0, some 1 => inner + 2 * stateRoom + 2 * alternativeRoom
  | 0, none =>
      if positive then inner + stateRoom + 2 * alternativeRoom
      else inner + 3 * stateRoom + 4 * alternativeRoom
  | least, none => least * inner + stateRoom + 2 * alternativeRoom
  | least, some most =>
      if least = most then least * inner
      else
        (if least = 0 then stateRoom else least * inner) + stateRoom +
          (most - least) * (inner + stateRoom + 2 * alternativeRoom)

/-- Not at all takes the room of nothing, and once that of the part itself. -/
def iterate (room : Room) (least : Nat) (most : Option Nat) : Room :=
  if most = some 0 then ofState .empty
  else if least = 1 ∧ most = some 1 then room
  else
    let room := room.closed
    let positive := room.positive = some true
    ⟨.other, repeated positive least most room.forward, repeated positive least most room.backward,
      room.positive.map (· && decide (0 < least))⟩

/-- Only the automaton that reads forwards remembers groups, with a state at either end. -/
def group (remembered : Bool) (room : Room) : Room :=
  if remembered then
    let room := room.closed
    { room with form := .other, forward := room.forward + 2 * stateRoom }
  else room

mutual

def ofExpr : Expr → Room
  | .empty => ofState .empty
  | .set codes => ofSet codes
  | .look _ => ofState .other
  | .group remembered inner => group remembered (ofExpr inner)
  | .concat left right => concat (ofExpr left) (ofExpr right)
  | .alt left right => alt (ofExpr left :: branches right)
  | .repeat inner least most => iterate (ofExpr inner) least most

/-- The alternatives of an expression that are written at one level. -/
def branches : Expr → List Room
  | .alt left right => ofExpr left :: branches right
  | .empty => [ofState .empty]
  | .set codes => [ofSet codes]
  | .look _ => [ofState .other]
  | .group remembered inner => [group remembered (ofExpr inner)]
  | .concat left right => [concat (ofExpr left) (ofExpr right)]
  | .repeat inner least most => [iterate (ofExpr inner) least most]

end

/-- Around the expression there are the states that skip to the start of a match and the state
that ends it; forwards the whole match is remembered. -/
def around : Nat := 4 * stateRoom + transitionRoom + 2 * alternativeRoom

def total (expr : Expr) : Nat :=
  let room := (ofExpr expr).closed
  max (room.forward + 2 * stateRoom) room.backward + around

end Room

def deepest : Nat := 250

def mostRoom : Nat := 10 * 1024 * 1024

def compile (text : Text) : Option Regex :=
  match read text with
  | none => none
  | some (expr, depth) =>
      if depth ≤ deepest ∧ Room.total expr ≤ mostRoom then some (Regex.ofExpr expr) else none

end Pattern
end DockerfileAudit
