import DockerfileAudit.Pattern.Bracket

/-!
Reading a pattern. The reader keeps the group that it is in, as branches of items, and the groups
around it; modes are settled as they are met, so the expression that comes out holds none.
-/
set_option autoImplicit false

namespace DockerfileAudit
namespace Pattern

/-- An expression with how deep its text nests. A choice of modes is an item too, but one that
cannot be repeated. -/
structure Item where
  expr : Expr
  depth : Nat
  repeatable : Bool

namespace Item

def ofExpr (expr : Expr) : Item := ⟨expr, 0, true⟩

def modes : Item := ⟨.empty, 0, false⟩

def deepest (items : List Item) : Nat := items.foldl (fun depth item => max depth item.depth) 0

def concatAll : List Item → Expr
  | [] => .empty
  | [item] => item.expr
  | item :: others => .concat item.expr (concatAll others)

def altAll : List Item → Expr
  | [] => .empty
  | [item] => item.expr
  | item :: others => .alt item.expr (altAll others)

/-- Items one after the other; only two or more are a level of their own. -/
def concat : List Item → Item
  | [] => ofExpr .empty
  | [item] => item
  | items => ⟨concatAll items, deepest items + 1, true⟩

def alt : List Item → Item
  | [item] => item
  | items => ⟨altAll items, deepest items + 1, true⟩

end Item

structure Level where
  branches : List Item
  items : List Item

namespace Level

def empty : Level := ⟨[], []⟩

def push (level : Level) (item : Item) : Level := { level with items := item :: level.items }

def branch (level : Level) : Level := ⟨Item.concat level.items.reverse :: level.branches, []⟩

def close (level : Level) : Item := Item.alt level.branch.branches.reverse

end Level

/-- A group that is open: what stands before it, and the modes that come back at its end. -/
structure OpenGroup where
  outer : Level
  flags : Flags
  remembered : Bool

structure ReaderState where
  level : Level
  groups : List OpenGroup
  flags : Flags
  names : List Text

namespace ReaderState

def start : ReaderState := ⟨Level.empty, [], Flags.content, []⟩

def push (state : ReaderState) (item : Item) : ReaderState :=
  { state with level := state.level.push item }

def enter (state : ReaderState) (flags : Flags) (remembered : Bool) : ReaderState :=
  { state with
    level := Level.empty, groups := ⟨state.level, state.flags, remembered⟩ :: state.groups,
    flags := flags }

def leave (state : ReaderState) : Option ReaderState :=
  match state.groups with
  | [] => none
  | group :: groups =>
      let inner := state.level.close
      some
        { state with
          level := group.outer.push ⟨.group group.remembered inner.expr, inner.depth + 1, true⟩,
          groups := groups, flags := group.flags }

def repeatLast (state : ReaderState) (least : Nat) (most : Option Nat) : Option ReaderState :=
  match state.level.items with
  | [] => none
  | item :: others =>
      if item.repeatable then
        some
          { state with
            level :=
              { state.level with
                items := ⟨item.expr.repeated least most, item.depth + 1, true⟩ :: others } }
      else none

end ReaderState

/-- The letters of modes up to a colon or a closing parenthesis; each letter at most once, and at
most one hyphen, which switches the modes after it off. Gives the modes, whether any were named,
and the text from the sign that ends them. -/
def readModes (seen : List Char) (value hyphenLast : Bool) (flags : Flags) :
    Text → Option (Flags × Bool × Text)
  | [] => none
  | c :: rest =>
      if c = ':' ∨ c = ')' then
        if hyphenLast then none else some (flags, !seen.isEmpty, c :: rest)
      else if c ∈ seen then none
      else if c = '-' then readModes (c :: seen) false true flags rest
      else
        match flags.choose c value with
        | some flags => readModes (c :: seen) value false flags rest
        | none => none

def alphabeticSet : CodeSet := Property.alphabetic.codes

def numberSet : CodeSet := categories ["nd", "nl", "no"]

def isNameStart (c : Char) : Bool := c = '_' || alphabeticSet.contains c.toNat

def isNameChar (c : Char) : Bool :=
  isNameStart c || c ∈ ['.', '[', ']'] || numberSet.contains c.toNat

def readName (text : Text) : Option (Text × Text) :=
  match Text.cutAt (· = '>') text with
  | some (c :: name, rest) =>
      if isNameStart c && name.all isNameChar then some (c :: name, rest) else none
  | _ => none

/-- A group whose opening parenthesis has been read. Conditions on the text around a match are
not supported. -/
def readGroup (state : ReaderState) (text : Text) : Option (ReaderState × Text) :=
  let named (text : Text) : Option (ReaderState × Text) :=
    match readName text with
    | some (name, rest) =>
        if name ∈ state.names then none
        else some ({ state with names := name :: state.names }.enter state.flags true, rest)
    | none => none
  match state.flags.skip text with
  | '?' :: '=' :: _ => none
  | '?' :: '!' :: _ => none
  | '?' :: '<' :: '=' :: _ => none
  | '?' :: '<' :: '!' :: _ => none
  | '?' :: 'P' :: '<' :: rest => named rest
  | '?' :: '<' :: rest => named rest
  | '?' :: rest =>
      match readModes [] true false state.flags rest with
      | some (flags, _, ':' :: rest) => some (state.enter flags false, rest)
      | some (flags, true, ')' :: rest) =>
          some ({ state with flags := flags }.push Item.modes, rest)
      | _ => none
  | text => some (state.enter state.flags true, text)

def readDecimalDigits (flags : Flags) : (fuel : Nat) → Text → Text × Text
  | 0, text => ([], text)
  | _, [] => ([], [])
  | fuel + 1, c :: rest =>
      if Text.isDigit c then
        let read := readDecimalDigits flags fuel (flags.skip rest)
        (c :: read.1, read.2)
      else ([], c :: rest)

def largestCount : Nat := 4294967295

def readCount (flags : Flags) (text : Text) : Option (Nat × Text) :=
  let text := text.dropWhile Text.isBlank
  let (digits, rest) := readDecimalDigits flags text.length text
  let rest := flags.skip (rest.dropWhile Text.isBlank)
  if digits.isEmpty ∨ largestCount < Text.toNat digits then none
  else some (Text.toNat digits, rest.dropWhile Text.isBlank)

def readBounds (flags : Flags) (text : Text) : Option (Nat × Option Nat × Text) :=
  match readCount flags (flags.skip text) with
  | some (least, '}' :: rest) => some (least, some least, rest)
  | some (least, ',' :: rest) =>
      match flags.skip rest with
      | '}' :: rest => some (least, none, rest)
      | text =>
          match readCount flags text with
          | some (most, '}' :: rest) => if least ≤ most then some (least, some most, rest) else none
          | _ => none
  | _ => none

/-- A repetition followed by a question mark is reluctant, which makes no difference to whether
there is a match. -/
def skipReluctant (text : Text) : Text :=
  match text with
  | '?' :: rest => rest
  | other => other

def literalSet? (flags : Flags) (c : Char) (byte : Bool) : Option CodeSet :=
  if flags.unicode ∨ c.toNat < 0x80 then some (flags.fold (CodeSet.single c.toNat))
  else if byte then none
  else some (CodeSet.single c.toNat)

def atomExpr? (flags : Flags) : Atom → Option Expr
  | .literal c byte => (literalSet? flags c byte).map Expr.set
  | .named set => some (.set set)
  | .look condition => some (.look condition)

/-- Reads the whole pattern; every step takes a character. -/
def readAll : (fuel : Nat) → ReaderState → Text → Option ReaderState
  | 0, _, _ => none
  | fuel + 1, state, text =>
      let flags := state.flags
      let push (expr : Option Expr) (rest : Text) : Option ReaderState :=
        match expr with
        | some expr => readAll fuel (state.push (Item.ofExpr expr)) rest
        | none => none
      let iterate (least : Nat) (most : Option Nat) (rest : Text) : Option ReaderState :=
        match state.repeatLast least most with
        | some state => readAll fuel state (skipReluctant rest)
        | none => none
      match flags.skip text with
      | [] => some state
      | '(' :: rest =>
          match readGroup state rest with
          | some (state, rest) => readAll fuel state rest
          | none => none
      | ')' :: rest =>
          match state.leave with
          | some state => readAll fuel state rest
          | none => none
      | '|' :: rest => readAll fuel { state with level := state.level.branch } rest
      | '[' :: rest =>
          match readBracket flags rest with
          | some (nested, rest) =>
              readAll fuel (state.push ⟨.set nested.set, nested.depth, true⟩) rest
          | none => none
      | '?' :: rest => iterate 0 (some 1) rest
      | '*' :: rest => iterate 0 none rest
      | '+' :: rest => iterate 1 none rest
      | '{' :: rest =>
          match readBounds flags rest with
          | some (least, most, rest) => iterate least most (flags.skip rest)
          | none => none
      | '\\' :: rest =>
          match readEscape flags rest with
          | some (atom, rest) => push (atomExpr? flags atom) rest
          | none => none
      | '.' :: rest => push (flags.dot.map Expr.set) rest
      | '^' :: rest => push (some (.look flags.lineStart)) rest
      | '$' :: rest => push (some (.look flags.lineEnd)) rest
      | c :: rest => push (atomExpr? flags (.literal c false)) rest

/-- The expression of a pattern and how deep it nests. All groups have to be closed. -/
def read (text : Text) : Option (Expr × Nat) :=
  match readAll (text.length + 1) ReaderState.start text with
  | some state =>
      if state.groups.isEmpty then some (state.level.close.expr, state.level.close.depth) else none
  | none => none

end Pattern
end DockerfileAudit
