import DockerfileAudit.Pattern.Escape

/-!
Sets of characters between brackets: characters, ranges, named classes, brackets inside brackets,
and three operations between such unions.
-/
set_option autoImplicit false

namespace DockerfileAudit
namespace Pattern

structure Nested where
  set : CodeSet
  depth : Nat

structure Gathered where
  set : CodeSet
  count : Nat
  depth : Nat

namespace Gathered

def none : Gathered := ⟨CodeSet.empty, 0, 0⟩

def add (gathered : Gathered) (set : CodeSet) (depth : Nat) : Gathered :=
  ⟨set.union gathered.set, gathered.count + 1, max gathered.depth depth⟩

/-- Two or more items are one level deeper than the deepest of them. -/
def close (gathered : Gathered) : Nested :=
  ⟨gathered.set, if gathered.count < 2 then gathered.depth else gathered.depth + 1⟩

end Gathered

inductive SetOp where
  | inter
  | diff
  | symmDiff

def SetOp.apply : SetOp → CodeSet → CodeSet → CodeSet
  | .inter => CodeSet.inter
  | .diff => CodeSet.diff
  | .symmDiff => CodeSet.symmDiff

structure OpenBracket where
  outer : Gathered
  negated : Bool
  pending : Option (SetOp × Nested)

/-- Both sides of an operation match letters of either case where case does not count. -/
def combine (flags : Flags) (right : Nested) : Option (SetOp × Nested) → Nested
  | none => right
  | some (op, left) =>
      ⟨op.apply (flags.fold left.set) (flags.fold right.set), max left.depth right.depth + 1⟩

/-- Without Unicode a bracket holds characters of ASCII alone. -/
def isListable (flags : Flags) (c : Char) : Bool := flags.unicode || c.toNat < 0x80

def readSetAtom (flags : Flags) (text : Text) : Option (Atom × Text) :=
  match text with
  | [] => none
  | '\\' :: rest => readEscape flags rest
  | c :: rest => some (.literal c false, rest)

/-- Whether the character after a hyphen makes it a plain hyphen or a difference. In the spaced
mode blanks and one hash sign are passed over. -/
def hyphenEnds (flags : Flags) (text : Text) : Bool :=
  let next :=
    if flags.spaced then
      match text.dropWhile Text.isBlank with
      | '#' :: rest => rest.dropWhile Text.isBlank
      | other => other
    else text
  match next with
  | ']' :: _ => true
  | '-' :: _ => true
  | _ => false

def atomSet? (flags : Flags) : Atom → Option CodeSet
  | .literal c _ => if isListable flags c then some (CodeSet.single c.toNat) else none
  | .named set => some set
  | .look _ => none

def readRange (flags : Flags) (text : Text) : Option (CodeSet × Text) :=
  match readSetAtom flags text with
  | none => none
  | some (first, rest) =>
      match flags.skip rest with
      | [] => none
      | '-' :: more =>
          if hyphenEnds flags more then (atomSet? flags first).map fun set => (set, '-' :: more)
          else
            match readSetAtom flags (flags.skip more) with
            | none => none
            | some (second, rest) =>
                match first, second with
                | .literal low _, .literal high _ =>
                    if low.toNat ≤ high.toNat ∧ isListable flags low ∧ isListable flags high then
                      some (⟨[(low.toNat, high.toNat)]⟩, rest)
                    else none
                | _, _ => none
      | other => (atomSet? flags first).map fun set => (set, other)

def readAsciiClass (text : Text) : Option (Bool × CodeSet × Text) :=
  let named (negated : Bool) (text : Text) : Option (Bool × CodeSet × Text) :=
    match Text.cutAt (· = ':') text with
    | some (name, ']' :: rest) =>
        match asciiClass? name with
        | some set => some (negated, set, rest)
        | none => none
    | _ => none
  match text with
  | ':' :: '^' :: rest => named true rest
  | ':' :: rest => named false rest
  | _ => none

/-- Hyphens at the start of a bracket are plain. -/
def readHyphens (flags : Flags) : (fuel : Nat) → Gathered → Text → Gathered × Text
  | 0, gathered, text => (gathered, text)
  | fuel + 1, gathered, text =>
      match text with
      | '-' :: rest =>
          readHyphens flags fuel (gathered.add (CodeSet.single '-'.toNat) 0) (flags.skip rest)
      | other => (gathered, other)

/-- The start of a bracket after `[`: a caret negates it, and then hyphens, or else one closing
bracket, are plain. The bracket has to go on. -/
def readBracketStart (flags : Flags) (text : Text) : Option (Bool × Gathered × Text) :=
  let (negated, text) :=
    match flags.skip text with
    | '^' :: rest => (true, flags.skip rest)
    | other => (false, other)
  let (gathered, text) := readHyphens flags text.length Gathered.none text
  match text with
  | [] => none
  | ']' :: rest =>
      if gathered.count = 0 then
        match flags.skip rest with
        | [] => none
        | rest => some (negated, gathered.add (CodeSet.single ']'.toNat) 0, rest)
      else some (negated, gathered, text)
  | _ => some (negated, gathered, text)

/-- Reads on in the innermost bracket up to the end of the outermost one. -/
def readBrackets (flags : Flags) :
    (fuel : Nat) → OpenBracket → List OpenBracket → Gathered → Text → Option (Nested × Text)
  | 0, _, _, _, _ => none
  | fuel + 1, inner, outer, gathered, text =>
      let operate (op : SetOp) (rest : Text) : Option (Nested × Text) :=
        let left := combine flags gathered.close inner.pending
        readBrackets flags fuel { inner with pending := some (op, left) } outer Gathered.none rest
      match flags.skip text with
      | [] => none
      | '[' :: rest =>
          match readAsciiClass rest with
          | some (negated, set, rest) =>
              match flags.settle negated set with
              | none => none
              | some set =>
                  readBrackets flags fuel inner outer (gathered.add set 0) rest
          | none =>
              match readBracketStart flags rest with
              | none => none
              | some (negated, started, rest) =>
                  readBrackets flags fuel ⟨gathered, negated, none⟩ (inner :: outer) started rest
      | ']' :: rest =>
          let whole := combine flags gathered.close inner.pending
          match flags.settle inner.negated whole.set with
          | none => none
          | some set =>
              match outer with
              | [] => some (⟨set, whole.depth + 1⟩, rest)
              | around :: further =>
                  readBrackets flags fuel around further
                    (inner.outer.add set (whole.depth + 1)) rest
      | '&' :: '&' :: rest => operate .inter rest
      | '-' :: '-' :: rest => operate .diff rest
      | '~' :: '~' :: rest => operate .symmDiff rest
      | text =>
          match readRange flags text with
          | none => none
          | some (set, rest) => readBrackets flags fuel inner outer (gathered.add set 0) rest

def readBracket (flags : Flags) (text : Text) : Option (Nested × Text) :=
  match readBracketStart flags text with
  | none => none
  | some (negated, started, rest) =>
      readBrackets flags (rest.length + 1) ⟨Gathered.none, negated, none⟩ [] started rest

end Pattern
end DockerfileAudit
