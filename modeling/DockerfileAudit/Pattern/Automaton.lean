import DockerfileAudit.Text.CodeSet

/-!
A set of characters as an automaton over bytes, and the room that its states take. Characters are
spelled in UTF-8, so a range of characters falls apart into rows of byte ranges.
-/
set_option autoImplicit false

namespace DockerfileAudit
namespace Pattern
namespace Automaton

/-- A state takes 32 bytes, a transition that it lists 8, an alternative that it lists 4. -/
def stateRoom : Nat := 32

def transitionRoom : Nat := 8

def alternativeRoom : Nat := 4

abbrev ByteRange := Nat × Nat

/-- The rows of digits in base 64 that cover the numbers from `low` to `high`, of which `rest`
digits come after the first. The first digit is offset by the lead, all others by 0x80. -/
def rows (lead : Nat) : (rest low high : Nat) → List (List ByteRange)
  | 0, low, high => [[(lead + low, lead + high)]]
  | rest + 1, low, high =>
      let unit := 64 ^ (rest + 1)
      let first := low / unit
      let last := high / unit
      let after (digit : Nat) (tails : List (List ByteRange)) : List (List ByteRange) :=
        tails.map ((lead + digit, lead + digit) :: ·)
      if first = last then after first (rows 0x80 rest (low % unit) (high % unit))
      else
        let whole := low % unit = 0
        let full := high % unit = unit - 1
        let start := if whole then first else first + 1
        let stop := if full then last + 1 else last
        (if whole then [] else after first (rows 0x80 rest (low % unit) (unit - 1))) ++
          (if start < stop then
            [(lead + start, lead + (stop - 1)) :: List.replicate (rest + 1) (0x80, 0xBF)]
          else []) ++
          (if full then [] else after last (rows 0x80 rest 0 (high % unit)))

/-- The part of a range between two bounds, spelled with as many bytes as those bounds have. -/
def clipped (lead rest least most low high : Nat) : List (List ByteRange) :=
  if max low least ≤ min high most then rows lead rest (max low least) (min high most) else []

def spellings (low high : Nat) : List (List ByteRange) :=
  clipped 0 0 0 0x7F low high ++ clipped 0xC0 1 0x80 0x7FF low high ++
    clipped 0xE0 2 0x800 0xD7FF low high ++ clipped 0xE0 2 0xE000 0xFFFF low high ++
    clipped 0xF0 3 0x10000 0x10FFFF low high

/-- Rows that follow one another and start alike are put together. -/
def byHead : List (List ByteRange) → List (ByteRange × List (List ByteRange))
  | [] => []
  | [] :: others => byHead others
  | (head :: tail) :: others =>
      match byHead others with
      | [] => [(head, [tail])]
      | (next, tails) :: groups =>
          if next = head then (head, tail :: tails) :: groups
          else (head, [tail]) :: (next, tails) :: groups

def beginnings : (depth : Nat) → List (List ByteRange) → Nat
  | 0, _ => 0
  | depth + 1, rows =>
      (byHead rows).foldr (fun group count => 1 + beginnings depth group.2 + count) 0

/-- The transitions of a state: the bytes, and the number of the state that follows. -/
abbrev State := List (ByteRange × Nat)

/-- The number of a state that accepts the rows, with the states that are needed; equal states are
one. The state number zero accepts at once. -/
def share : (depth : Nat) → List State → List (List ByteRange) → Nat × List State
  | 0, states, _ => (0, states)
  | depth + 1, states, rows =>
      if rows.all List.isEmpty then (0, states)
      else
        let (state, states) :=
          (byHead rows).foldl
            (fun (state, states) group =>
              let (target, states) := share depth states group.2
              (state ++ [(group.1, target)], states))
            (([] : State), states)
        match states.idxOf? state with
        | some i => (i + 1, states)
        | none => (states.length + 1, states ++ [state])

/-- The room of a set that is read forwards, with shared states; characters of ASCII need a single
state, and every set has a state behind it. -/
def forwardRoom (set : CodeSet) : Nat :=
  if set.isAscii then 2 * stateRoom + transitionRoom * set.ranges.length
  else
    let rows := set.ranges.flatMap fun range => spellings range.1 range.2
    let states := (share 5 [] rows).2
    stateRoom +
      states.foldr (fun state room => stateRoom + transitionRoom * state.length + room) 0

/-- The room of a set that is read backwards: an alternative for each row, and a state for each
beginning of a row. -/
def backwardRoom (set : CodeSet) : Nat :=
  if set.isAscii then 2 * stateRoom + transitionRoom * set.ranges.length
  else
    let rows := set.ranges.flatMap fun range => spellings range.1 range.2
    2 * stateRoom + alternativeRoom * rows.length + stateRoom * beginnings 5 rows

end Automaton
end Pattern
end DockerfileAudit
