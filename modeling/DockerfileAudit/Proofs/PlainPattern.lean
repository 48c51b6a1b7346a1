import DockerfileAudit.Pattern.Compile
import DockerfileAudit.Proofs.CaseFolding
import DockerfileAudit.Proofs.Search
import Mathlib.Data.List.Forall2

/-!
Patterns that are plain characters, runs of blanks and runs without the signs between commands. How
such a pattern is read, what room it takes and where it matches follow from its parts: it matches a
text that is cut into as many pieces, each of which fits its part.
-/
set_option autoImplicit false

namespace DockerfileAudit
namespace Pattern

/-- The characters of words and names, none of which means anything special in a pattern. -/
def isPlainChar (c : Char) : Bool := Text.isAsciiLetter c || Text.isDigit c || c = '-'

inductive Part where
  | char (c : Char)
  | blanks
  | unbroken

namespace Part

def written : Part → Text
  | .char c => [c]
  | .blanks => "\\s+".toList
  | .unbroken => "[^;|&]+".toList

def Plain : Part → Prop
  | .char c => isPlainChar c = true
  | .blanks | .unbroken => True

def unbrokenSet : CodeSet := ⟨[(0, 0x25), (0x27, 0x3A), (0x3C, 0x7B), (0x7D, 0x10FFFF)]⟩

def expr : Part → Expr
  | .char c => .set (CodeSet.single c.toNat).foldClosed
  | .blanks => .repeat (.set CodeSet.whiteSpace) 1 none
  | .unbroken => .repeat (.set unbrokenSet) 1 none

def depth : Part → Nat
  | .char _ => 0
  | .blanks => 1
  | .unbroken => 3

def item (part : Part) : Item := ⟨part.expr, part.depth, true⟩

def steps : Part → Nat
  | .char _ => 1
  | .blanks | .unbroken => 2

end Part

def total (measure : Part → Nat) : List Part → Nat
  | [] => 0
  | part :: rest => measure part + total measure rest

theorem total_append (measure : Part → Nat) (left right : List Part) :
    total measure (left ++ right) = total measure left + total measure right := by
  induction left with
  | nil => simp [total]
  | cons part rest ih =>
      rw [List.cons_append, total, total, ih]
      omega

theorem le_total (measure : Part → Nat) (part : Part) (parts : List Part) (member : part ∈ parts) :
    measure part ≤ total measure parts := by
  induction parts with
  | nil => cases member
  | cons first rest ih =>
      rw [total]
      rcases List.mem_cons.mp member with rfl | later
      · omega
      · exact Nat.le_trans (ih later) (Nat.le_add_left _ _)

theorem total_le (measure : Part → Nat) (most : Nat) (parts : List Part)
    (bound : ∀ part ∈ parts, measure part ≤ most) : total measure parts ≤ most * parts.length := by
  induction parts with
  | nil => exact Nat.zero_le _
  | cons first rest ih =>
      obtain ⟨here, later⟩ := List.forall_mem_cons.mp bound
      have others := ih later
      rw [total, List.length_cons, Nat.mul_succ]
      omega

def writeParts (parts : List Part) : Text := parts.flatMap Part.written

theorem skip_reluctant_of_quiet (rest : Text) (quiet : rest.head? ≠ some '?') :
    skipReluctant rest = rest := by
  unfold skipReluctant
  split
  · simp at quiet
  · rfl

/-- The signs between commands have no letter case. -/
theorem settle_signs :
    Flags.content.settle true (CodeSet.ofCodes [0x26, 0x3B, 0x7C]) = some Part.unbrokenSet := by
  have closed : (CodeSet.ofCodes [0x26, 0x3B, 0x7C]).foldClosed =
      CodeSet.ofCodes [0x26, 0x3B, 0x7C] :=
    CodeSet.fold_closed_of_codes (by decide) (by decide) (by decide +kernel)
  change some (CodeSet.ofCodes [0x26, 0x3B, 0x7C]).foldClosed.complement = _
  rw [closed]
  decide

theorem read_bracket_signs (rest : Text) :
    readBracket Flags.content ("^;|&]".toList ++ rest) = some (⟨Part.unbrokenSet, 2⟩, rest) := by
  have gathered : readBracket Flags.content ("^;|&]".toList ++ rest) =
      (Flags.content.settle true (CodeSet.ofCodes [0x26, 0x3B, 0x7C])).map
        fun set => (⟨set, 2⟩, rest) := rfl
  rw [gathered, settle_signs, Option.map_some]

section Reading

variable {state : ReaderState} (content : state.flags = Flags.content)

include content

theorem read_all_char (fuel : Nat) (c : Char) (plain : isPlainChar c = true) (rest : Text) :
    readAll (fuel + 1) state (c :: rest) = readAll fuel (state.push (Part.char c).item) rest := by
  have unspaced : Flags.content.skip (c :: rest) = c :: rest := rfl
  rw [readAll, content, unspaced]
  split <;> rename_i same
  case h_14 =>
    cases same
    rfl
  -- In the other cases the character is one of the special ones.
  all_goals cases same
  all_goals exact absurd plain (by decide)

theorem read_all_blanks (fuel : Nat) (rest : Text) (quiet : rest.head? ≠ some '?') :
    readAll (fuel + 2) state (Part.blanks.written ++ rest) =
      readAll fuel (state.push Part.blanks.item) rest := by
  obtain ⟨level, groups, flags, names⟩ := state
  obtain rfl : flags = Flags.content := content
  change readAll fuel _ (skipReluctant rest) = _
  rw [skip_reluctant_of_quiet rest quiet]
  rfl

theorem read_all_unbroken (fuel : Nat) (rest : Text) (quiet : rest.head? ≠ some '?') :
    readAll (fuel + 2) state (Part.unbroken.written ++ rest) =
      readAll fuel (state.push Part.unbroken.item) rest := by
  obtain ⟨level, groups, flags, names⟩ := state
  obtain rfl : flags = Flags.content := content
  have opened : readAll (fuel + 2) ⟨level, groups, Flags.content, names⟩
      (Part.unbroken.written ++ rest) =
        (readBracket Flags.content ("^;|&]".toList ++ '+' :: rest)).bind fun read =>
          readAll (fuel + 1) ⟨level.push ⟨.set read.1.set, read.1.depth, true⟩, groups,
            Flags.content, names⟩ read.2 := rfl
  rw [opened, read_bracket_signs, Option.bind_some]
  change readAll fuel _ (skipReluctant rest) = _
  rw [skip_reluctant_of_quiet rest quiet]
  rfl

theorem read_all_part (fuel : Nat) (part : Part) (plain : part.Plain) (rest : Text)
    (quiet : rest.head? ≠ some '?') :
    readAll (fuel + part.steps) state (part.written ++ rest) =
      readAll fuel (state.push part.item) rest := by
  cases part with
  | char c => exact read_all_char content fuel c plain rest
  | blanks => exact read_all_blanks content fuel rest quiet
  | unbroken => exact read_all_unbroken content fuel rest quiet

end Reading

theorem Part.written_starts (part : Part) (plain : part.Plain) :
    ∃ c rest, part.written = c :: rest ∧ c ≠ '?' := by
  cases part with
  | char c =>
      refine ⟨c, [], rfl, ?_⟩
      rintro rfl
      change isPlainChar '?' = true at plain
      exact absurd plain (by decide)
  | blanks => exact ⟨_, _, rfl, by decide⟩
  | unbroken => exact ⟨_, _, rfl, by decide⟩

theorem write_parts_quiet (parts : List Part) (plain : ∀ part ∈ parts, part.Plain) :
    (writeParts parts).head? ≠ some '?' := by
  cases parts with
  | nil => simp [writeParts]
  | cons part rest =>
      obtain ⟨c, more, starts, other⟩ := part.written_starts (plain part List.mem_cons_self)
      simpa [writeParts, starts] using other

theorem read_all_parts (fuel : Nat) (parts : List Part) (plain : ∀ part ∈ parts, part.Plain)
    (level : Level) (groups : List OpenGroup) (names : List Text) :
    readAll (fuel + total Part.steps parts) ⟨level, groups, Flags.content, names⟩
        (writeParts parts) =
      readAll fuel
        ⟨{ level with items := (parts.map Part.item).reverse ++ level.items }, groups,
          Flags.content, names⟩ [] := by
  induction parts generalizing level with
  | nil => rfl
  | cons part rest ih =>
      obtain ⟨partPlain, restPlain⟩ := List.forall_mem_cons.mp plain
      have quiet := write_parts_quiet rest restPlain
      have text : writeParts (part :: rest) = part.written ++ writeParts rest := rfl
      have fuelSplit : fuel + total Part.steps (part :: rest) =
          fuel + total Part.steps rest + part.steps := by
        rw [total]
        omega
      rw [text, fuelSplit]
      have first := @read_all_part ⟨level, groups, Flags.content, names⟩ rfl
        (fuel + total Part.steps rest) part partPlain _ quiet
      rw [first]
      change readAll _ ⟨level.push part.item, groups, Flags.content, names⟩ _ = _
      rw [ih restPlain]
      simp [Level.push]

theorem steps_le_length (parts : List Part) :
    total Part.steps parts ≤ (writeParts parts).length := by
  induction parts with
  | nil => exact Nat.le_refl 0
  | cons part rest ih =>
      have one : part.steps ≤ part.written.length := by
        cases part with
        | char c => exact Nat.le_refl 1
        | blanks => decide
        | unbroken => decide
      have text : writeParts (part :: rest) = part.written ++ writeParts rest := rfl
      rw [text, List.length_append, total]
      omega

theorem Item.concat_expr (items : List Item) : (Item.concat items).expr = Item.concatAll items := by
  match items with
  | [] => rfl
  | [_] => rfl
  | _ :: _ :: _ => rfl

theorem read_parts (parts : List Part) (plain : ∀ part ∈ parts, part.Plain) :
    read (writeParts parts) =
      some (Item.concatAll (parts.map Part.item), (Item.concat (parts.map Part.item)).depth) := by
  obtain ⟨spare, enough⟩ := Nat.exists_eq_add_of_le' (steps_le_length parts)
  have whole : readAll ((writeParts parts).length + 1) ReaderState.start (writeParts parts) =
      some ⟨⟨[], (parts.map Part.item).reverse⟩, [], Flags.content, []⟩ := by
    have fuelSplit : (writeParts parts).length + 1 = spare + 1 + total Part.steps parts := by
      omega
    rw [fuelSplit]
    have reading := read_all_parts (spare + 1) parts plain Level.empty [] []
    rw [Level.empty, List.append_nil] at reading
    exact reading
  rw [read, whole, ← Item.concat_expr]
  simp [Level.close, Level.branch, Item.alt]

/-- The codes that match a plain character without regard to case. The long s and the sign for
kelvin fold to letters of ASCII. -/
def caseForms (code : Nat) : List Nat :=
  let small := if 0x41 ≤ code ∧ code ≤ 0x5A then code + 0x20 else code
  if 0x61 ≤ small ∧ small ≤ 0x7A then
    [small - 0x20, small] ++
      (if small = 0x6B then [0x212A] else if small = 0x73 then [0x17F] else [])
  else [code]

theorem code_of_plain_char (c : Char) (plain : isPlainChar c = true) : c.toNat < 128 := by
  simp only [isPlainChar, Text.isAsciiLetter, Text.isDigit, Bool.or_eq_true, Bool.and_eq_true,
    decide_eq_true_eq, Char.le_def, UInt32.le_iff_toNat_le] at plain
  change c.val.toNat < 128
  rcases plain with ((⟨-, high⟩ | ⟨-, high⟩) | ⟨-, high⟩) | rfl
  · exact Nat.lt_of_le_of_lt high (by decide)
  · exact Nat.lt_of_le_of_lt high (by decide)
  · exact Nat.lt_of_le_of_lt high (by decide)
  · decide

theorem fold_closed_plain_char (c : Char) (plain : isPlainChar c = true) :
    (CodeSet.single c.toNat).foldClosed = CodeSet.ofCodes (caseForms c.toNat) := by
  have each : ((List.range 128).all fun code => !isPlainChar (Char.ofNat code) ||
      (decide (CodeSet.ofCodes (caseForms code)).Ordered &&
        CodeSet.closesTo [code] (caseForms code))) = true := by
    decide +kernel
  have here := List.all_eq_true.mp each c.toNat (List.mem_range.mpr (code_of_plain_char c plain))
  rw [Char.ofNat_toNat, plain, Bool.not_true, Bool.false_or, Bool.and_eq_true,
    decide_eq_true_eq] at here
  exact @CodeSet.fold_closed_of_codes [c.toNat] _ (CodeSet.ordered_single c.toNat) here.1 here.2

section Rooms

open Automaton

def Part.room : Part → Nat
  | .char c =>
      if c = 'k' ∨ c = 'K' then 236
      else if c = 's' ∨ c = 'S' then 204
      else if Text.isAsciiLetter c then 80
      else 32
  | .blanks => 720
  | .unbroken => 1112

/-- How much less room it takes forwards, at least. -/
def Part.spare : Part → Nat
  | .blanks => 256
  | .char _ | .unbroken => 0

/-- A room that stays as it is beside others, of that size backwards and smaller forwards. -/
structure Room.Takes (room : Room) (size spare : Nat) : Prop where
  visible : room.form ≠ .empty
  closed : room.closed = room
  backward : room.backward = size
  forward : room.forward + spare ≤ size

theorem Room.Takes.concat {left right : Room} {size spare size' spare' : Nat}
    (leftTakes : left.Takes size spare) (rightTakes : right.Takes size' spare') :
    (Room.concat left right).Takes (size + size') (spare + spare') := by
  have joined : Room.concat left right =
      ⟨.other, left.forward + right.forward, left.backward + right.backward,
        Room.bothPositive or left.positive right.positive⟩ := by
    unfold Room.concat
    rw [leftTakes.closed, rightTakes.closed]
    split
    · rename_i hidden
      exact absurd hidden leftTakes.visible
    · rename_i hidden _
      exact absurd hidden rightTakes.visible
    · rfl
  have leftForward := leftTakes.forward
  have rightForward := rightTakes.forward
  rw [joined]
  refine ⟨by simp, rfl, ?_, ?_⟩
  · rw [← leftTakes.backward, ← rightTakes.backward]
  · simp only
    omega

theorem Room.takes_of_set (codes : CodeSet) :
    (Room.ofSet codes).form ≠ .empty ∧ (Room.ofSet codes).closed = Room.ofSet codes := by
  unfold Room.ofSet
  split
  · exact ⟨by simp, rfl⟩
  · split
    · exact ⟨by simp, rfl⟩
    · exact ⟨by simp, rfl⟩
  · exact ⟨by simp, rfl⟩

theorem Room.takes_char (c : Char) (plain : isPlainChar c = true) :
    (Room.ofExpr (Part.char c).expr).Takes (Part.char c).room 0 := by
  have each : ((List.range 128).all fun code => !isPlainChar (Char.ofNat code) ||
      (Nat.beq (Room.ofSet (CodeSet.ofCodes (caseForms code))).backward
          (Part.char (Char.ofNat code)).room &&
        Nat.ble (Room.ofSet (CodeSet.ofCodes (caseForms code))).forward
          (Part.char (Char.ofNat code)).room)) = true := by
    decide +kernel
  have here := List.all_eq_true.mp each c.toNat (List.mem_range.mpr (code_of_plain_char c plain))
  rw [Char.ofNat_toNat, plain, Bool.not_true, Bool.false_or, Bool.and_eq_true, Nat.beq_eq,
    Nat.ble_eq] at here
  have room : Room.ofExpr (Part.char c).expr =
      Room.ofSet (CodeSet.ofCodes (caseForms c.toNat)) := by
    rw [Part.expr, fold_closed_plain_char c plain, Room.ofExpr]
  obtain ⟨visible, closed⟩ := Room.takes_of_set (CodeSet.ofCodes (caseForms c.toNat))
  rw [room]
  exact ⟨visible, closed, here.1, here.2⟩

theorem Part.takes (part : Part) (plain : part.Plain) :
    (Room.ofExpr part.expr).Takes part.room part.spare := by
  cases part with
  | char c => exact Room.takes_char c plain
  | blanks =>
      have backward : (Room.ofExpr Part.blanks.expr).backward = 720 := by decide +kernel
      have forward : (Room.ofExpr Part.blanks.expr).forward + 256 ≤ 720 := by decide +kernel
      exact ⟨nofun, rfl, backward, forward⟩
  | unbroken =>
      have backward : (Room.ofExpr Part.unbroken.expr).backward = 1112 := by decide +kernel
      have forward : (Room.ofExpr Part.unbroken.expr).forward + 0 ≤ 1112 := by decide +kernel
      exact ⟨nofun, rfl, backward, forward⟩

def partsRoom (parts : List Part) : Nat := total Part.room parts

theorem takes_parts (part : Part) (rest : List Part) (plain : ∀ other ∈ part :: rest, other.Plain) :
    (Room.ofExpr (Item.concatAll ((part :: rest).map Part.item))).Takes (partsRoom (part :: rest))
      (total Part.spare (part :: rest)) := by
  induction rest generalizing part with
  | nil => exact part.takes (plain part List.mem_cons_self)
  | cons next rest ih =>
      obtain ⟨partPlain, restPlain⟩ := List.forall_mem_cons.mp plain
      have joined := (part.takes partPlain).concat (ih next restPlain)
      exact joined

/-- Blanks are the dearest to read backwards, so with blanks that way decides. -/
theorem total_parts (parts : List Part) (plain : ∀ part ∈ parts, part.Plain)
    (spaced : Part.blanks ∈ parts) :
    Room.total (Item.concatAll (parts.map Part.item)) = partsRoom parts + Room.around := by
  cases parts with
  | nil => cases spaced
  | cons part rest =>
      have takes := takes_parts part rest plain
      have forward := takes.forward
      have spare : Part.blanks.spare ≤ total Part.spare (part :: rest) :=
        le_total Part.spare Part.blanks _ spaced
      unfold Room.total
      dsimp only
      rw [takes.closed, takes.backward, Nat.max_eq_right]
      simp only [Part.spare, stateRoom] at spare ⊢
      omega

end Rooms

theorem depth_parts (parts : List Part) : (Item.concat (parts.map Part.item)).depth ≤ 4 := by
  have each : ∀ part : Part, part.depth ≤ 3 := by
    intro part
    cases part with
    | char c => exact Nat.zero_le 3
    | blanks => decide
    | unbroken => decide
  have deep : ∀ (parts : List Part) (start : Nat), start ≤ 3 →
      (parts.map Part.item).foldl (fun depth item => max depth item.depth) start ≤ 3 := by
    intro parts
    induction parts with
    | nil => exact fun start bound => bound
    | cons part rest ih => exact fun start bound => ih _ (Nat.max_le.mpr ⟨bound, each part⟩)
  match parts with
  | [] => decide
  | [part] => exact Nat.le_succ_of_le (each part)
  | part :: next :: rest => exact Nat.succ_le_succ (deep (part :: next :: rest) 0 (by decide))

def regexOf (parts : List Part) : Regex := Regex.ofExpr (Item.concatAll (parts.map Part.item))

/-- A plain pattern with blanks can be used exactly if its parts do not take too much room. -/
theorem compile_parts (parts : List Part) (plain : ∀ part ∈ parts, part.Plain)
    (spaced : Part.blanks ∈ parts) :
    compile (writeParts parts) =
      if partsRoom parts + Room.around ≤ mostRoom then some (regexOf parts) else none := by
  have shallow : (Item.concat (parts.map Part.item)).depth ≤ deepest :=
    Nat.le_trans (depth_parts parts) (by decide)
  rw [compile, read_parts parts plain]
  simp only [total_parts parts plain spaced, shallow, true_and]
  rfl

section Matching

/-- Two characters that differ at most in case. -/
def SameFold (left right : Char) : Prop := foldCode left.toNat = foldCode right.toNat

def SameFolds (left right : Text) : Prop := List.Forall₂ SameFold left right

def isSign (c : Char) : Bool := c = ';' || c = '|' || c = '&'

def Part.Fits : Part → Text → Prop
  | .char c, piece => SameFolds piece [c]
  | .blanks, piece => piece ≠ [] ∧ ∀ d ∈ piece, Text.isBlank d = true
  | .unbroken, piece => piece ≠ [] ∧ ∀ d ∈ piece, isSign d = false

theorem contains_fold_closed_single (c d : Char) :
    (CodeSet.single c.toNat).foldClosed.contains d.toNat = true ↔ SameFold d c := by
  rw [(CodeSet.ordered_single c.toNat).contains_fold_closed]
  simp only [CodeSet.contains_single, exists_eq_left]
  rfl

theorem contains_unbroken_set (d : Char) :
    Part.unbrokenSet.contains d.toNat = true ↔ isSign d = false := by
  have last : d.toNat ≤ 0x10FFFF := by
    have valid : d.toNat < 0xD800 ∨ 0xDFFF < d.toNat ∧ d.toNat < 0x110000 := d.valid
    omega
  have ordered : Part.unbrokenSet.Ordered := by decide
  rw [ordered.contains_iff]
  simp only [Part.unbrokenSet, List.mem_cons, List.not_mem_nil, or_false, exists_eq_or_imp,
    exists_eq_left, isSign, Bool.or_eq_false_iff, decide_eq_false_iff_not, ← Char.toNat_inj]
  change _ ↔ (¬d.toNat = 0x3B ∧ ¬d.toNat = 0x7C) ∧ ¬d.toNat = 0x26
  omega

theorem matches_many (codes : CodeSet) (front inside back : Text) :
    (Regex.ofExpr (.repeat (.set codes) 1 none)).Matches front inside back ↔
      inside ≠ [] ∧ ∀ d ∈ inside, codes.contains d.toNat = true := by
  have star : ∀ inside front : Text, (Regex.star (.set codes)).Matches front inside back ↔
      ∀ d ∈ inside, codes.contains d.toNat = true := by
    intro inside
    induction inside with
    | nil => exact fun front => ⟨fun _ => nofun, fun _ => .starNone _ _ _⟩
    | cons d rest ih =>
        intro front
        rw [Regex.matches_star_cons, List.forall_mem_cons]
        constructor
        · rintro ⟨left, right, rfl, once, more⟩
          obtain ⟨e, single, member⟩ := (Regex.matches_set codes).mp once
          rw [List.cons.injEq] at single
          obtain ⟨rfl, rfl⟩ := single
          exact ⟨member, (ih _).mp more⟩
        · rintro ⟨member, others⟩
          exact ⟨[], rest, rfl, .set codes front _ d member, (ih _).mpr others⟩
  have once : Regex.ofExpr (.repeat (.set codes) 1 none) =
      .seq (.set codes) (.star (.set codes)) := rfl
  rw [once, Regex.matches_seq]
  constructor
  · rintro ⟨left, right, rfl, first, others⟩
    obtain ⟨d, rfl, member⟩ := (Regex.matches_set codes).mp first
    exact ⟨by simp, List.forall_mem_cons.mpr ⟨member, (star _ _).mp others⟩⟩
  · rintro ⟨some, members⟩
    cases inside with
    | nil => exact absurd rfl some
    | cons d rest =>
        obtain ⟨member, others⟩ := List.forall_mem_cons.mp members
        exact ⟨[d], rest, rfl, .set codes front _ d member, (star _ _).mpr others⟩

theorem matches_part (part : Part) (front inside back : Text) :
    (Regex.ofExpr part.expr).Matches front inside back ↔ part.Fits inside := by
  cases part with
  | char c =>
      refine (Regex.matches_set _).trans ?_
      simp only [contains_fold_closed_single, Part.Fits, SameFolds]
      constructor
      · rintro ⟨d, rfl, same⟩
        exact .cons same .nil
      · rintro (_ | ⟨same, _ | _⟩)
        exact ⟨_, rfl, same⟩
  | blanks => exact matches_many CodeSet.whiteSpace front inside back
  | unbroken =>
      refine (matches_many Part.unbrokenSet front inside back).trans ?_
      simp only [contains_unbroken_set, Part.Fits]

def FitsAll : List Part → Text → Prop
  | [], text => text = []
  | part :: rest, text =>
      ∃ piece others, text = piece ++ others ∧ part.Fits piece ∧ FitsAll rest others

theorem matches_parts (parts : List Part) (front inside back : Text) :
    (regexOf parts).Matches front inside back ↔ FitsAll parts inside := by
  induction parts generalizing front inside with
  | nil => exact Regex.matches_empty
  | cons part rest ih =>
      have cut : (regexOf (part :: rest)).Matches front inside back ↔
          (Regex.seq (Regex.ofExpr part.expr) (regexOf rest)).Matches front inside back := by
        cases rest with
        | cons next rest => rfl
        | nil =>
            rw [Regex.matches_seq]
            constructor
            · intro matched
              exact ⟨inside, [], (List.append_nil inside).symm, (matches_part _ _ _ _).mpr
                ((matches_part part _ _ _).mp matched), .empty _ _⟩
            · rintro ⟨left, right, rfl, matched, nothing⟩
              obtain rfl := Regex.matches_empty.mp nothing
              rw [List.append_nil]
              exact (matches_part part _ _ _).mpr ((matches_part part _ _ _).mp matched)
      rw [cut, Regex.matches_seq, FitsAll]
      simp only [matches_part, ih]

theorem is_in_parts (parts : List Part) (text : Text) :
    (regexOf parts).isIn text = true ↔
      ∃ front inside back, text = front ++ (inside ++ back) ∧ FitsAll parts inside := by
  rw [Regex.is_in_iff]
  simp only [matches_parts]

theorem fits_all_append (left right : List Part) (text : Text) :
    FitsAll (left ++ right) text ↔
      ∃ before after, text = before ++ after ∧ FitsAll left before ∧ FitsAll right after := by
  induction left generalizing text with
  | nil => simp [FitsAll]
  | cons part rest ih =>
      simp only [List.cons_append, FitsAll, ih]
      constructor
      · rintro ⟨piece, _, rfl, fits, before, after, rfl, inner, outer⟩
        exact ⟨piece ++ before, after, by simp, ⟨piece, before, rfl, fits, inner⟩, outer⟩
      · rintro ⟨_, after, rfl, ⟨piece, before, rfl, fits, inner⟩, outer⟩
        exact ⟨piece, before ++ after, by simp, fits, before, after, rfl, inner, outer⟩

theorem fits_all_chars (word text : Text) :
    FitsAll (word.map Part.char) text ↔ SameFolds text word := by
  induction word generalizing text with
  | nil =>
      constructor
      · rintro rfl
        exact .nil
      · rintro ⟨⟩
        rfl
  | cons c rest ih =>
      simp only [List.map_cons, FitsAll, ih, Part.Fits, SameFolds]
      constructor
      · rintro ⟨_, others, rfl, _ | ⟨same, _ | _⟩, later⟩
        exact .cons same later
      · rintro (_ | ⟨same, later⟩)
        exact ⟨[_], _, rfl, .cons same .nil, later⟩

end Matching
end Pattern
end DockerfileAudit
