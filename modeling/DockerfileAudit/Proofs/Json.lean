import DockerfileAudit.Json.Reader
import Mathlib.Data.List.TakeWhile

/-!
JSON that was written is read back, with whatever follows it left over. A character is written in
one of three ways; what each of them is read as gives strings, and strings with commas between them
give lists. The fuel of the reader is more than the number of characters, and each item takes one at
least.
-/
set_option autoImplicit false

namespace DockerfileAudit
namespace Json

theorem write_char_cases (c : Char) :
    (∃ letter, escaped? letter = some c ∧ writeChar c = ['\\', letter]) ∨
      (c.toNat < 0x20 ∧ writeChar c =
        ['\\', 'u', '0', '0', Text.hexDigit (c.toNat / 16), Text.hexDigit (c.toNat % 16)]) ∨
      (¬c.toNat < 0x20 ∧ c ≠ '"' ∧ c ≠ '\\' ∧ writeChar c = [c]) := by
  unfold writeChar
  split
  · exact Or.inl ⟨'"', rfl, rfl⟩
  · exact Or.inl ⟨'\\', rfl, rfl⟩
  · exact Or.inl ⟨'b', rfl, rfl⟩
  · exact Or.inl ⟨'f', rfl, rfl⟩
  · exact Or.inl ⟨'n', rfl, rfl⟩
  · exact Or.inl ⟨'r', rfl, rfl⟩
  · exact Or.inl ⟨'t', rfl, rfl⟩
  · rename_i noQuote noBackslash _ _ _ _ _
    split
    · rename_i control
      exact Or.inr (Or.inl ⟨control, rfl⟩)
    · rename_i printed
      exact Or.inr (Or.inr ⟨printed, noQuote, noBackslash, rfl⟩)

theorem unit_of_control (n : Nat) (control : n < 0x20) :
    unit? '0' '0' (Text.hexDigit (n / 16)) (Text.hexDigit (n % 16)) = some n := by
  have each : ∀ n < 0x20,
      unit? '0' '0' (Text.hexDigit (n / 16)) (Text.hexDigit (n % 16)) = some n := by decide
  exact each n control

theorem read_pieces_escape (letter c : Char) (rest : Text) (short : escaped? letter = some c) :
    readPieces ('\\' :: letter :: rest) =
      (readPieces rest).map fun read => (.char c :: read.1, read.2) := by
  have noNumber : letter ≠ 'u' := by
    rintro rfl
    simp [escaped?] at short
  rw [readPieces]
  · rw [short]
    cases readPieces rest with
    | none => rfl
    | some read => rfl
  · intro a b c d after letterU
    exact absurd letterU noNumber

theorem read_pieces_unit (a b c d : Char) (n : Nat) (rest : Text)
    (number : unit? a b c d = some n) :
    readPieces ('\\' :: 'u' :: a :: b :: c :: d :: rest) =
      (readPieces rest).map fun read => (.unit n :: read.1, read.2) := by
  rw [readPieces, number]
  cases readPieces rest with
  | none => rfl
  | some read => rfl

theorem read_pieces_plain (c : Char) (rest : Text) (printed : ¬c.toNat < 0x20) (noQuote : c ≠ '"')
    (noBackslash : c ≠ '\\') :
    readPieces (c :: rest) = (readPieces rest).map fun read => (.char c :: read.1, read.2) := by
  rw [readPieces]
  · rw [if_neg (by simp [printed, noBackslash])]
    cases readPieces rest with
    | none => rfl
    | some read => rfl
  · exact noQuote
  · intro a b c d after equal
    exact absurd equal noBackslash
  · intro d after equal
    exact absurd equal noBackslash

theorem text_of_char (c : Char) (pieces : List Piece) :
    textOf (.char c :: pieces) = (textOf pieces).map (c :: ·) := by
  rw [textOf]

/-- A unit below the surrogates is a character, whatever follows it. -/
theorem text_of_unit (n : Nat) (pieces : List Piece) (low : n < 0xD800) :
    textOf (.unit n :: pieces) = (textOf pieces).map (Char.ofNat n :: ·) := by
  have noHigh : isHighSurrogate n = false := by
    simp [isHighSurrogate]
    omega
  have noLow : isLowSurrogate n = false := by
    simp [isLowSurrogate]
    omega
  cases pieces with
  | nil => simp [textOf, noHigh, noLow]
  | cons piece pieces =>
      cases piece with
      | char c => simp [textOf, noHigh, noLow]
      | unit m => simp [textOf, noHigh, noLow]

theorem read_write_char (c : Char) :
    ∃ piece, (∀ rest, readPieces (writeChar c ++ rest) =
        (readPieces rest).map fun read => (piece :: read.1, read.2)) ∧
      ∀ pieces, textOf (piece :: pieces) = (textOf pieces).map (c :: ·) := by
  rcases write_char_cases c with ⟨letter, short, written⟩ | ⟨control, written⟩ |
      ⟨printed, noQuote, noBackslash, written⟩
  · refine ⟨.char c, ?_, text_of_char c⟩
    intro rest
    rw [written]
    exact read_pieces_escape letter c rest short
  · refine ⟨.unit c.toNat, ?_, ?_⟩
    · intro rest
      rw [written]
      exact read_pieces_unit _ _ _ _ _ rest (unit_of_control c.toNat control)
    · intro pieces
      rw [text_of_unit c.toNat pieces (by omega), Char.ofNat_toNat]
  · refine ⟨.char c, ?_, text_of_char c⟩
    intro rest
    rw [written]
    exact read_pieces_plain c rest printed noQuote noBackslash

theorem read_pieces_written (text rest : Text) :
    ∃ pieces, readPieces (text.flatMap writeChar ++ '"' :: rest) = some (pieces, rest) ∧
      textOf pieces = some text := by
  induction text with
  | nil => exact ⟨[], by simp [readPieces], by simp [textOf]⟩
  | cons c text ih =>
      obtain ⟨pieces, read, means⟩ := ih
      obtain ⟨piece, readPiece, meansPiece⟩ := read_write_char c
      refine ⟨piece :: pieces, ?_, ?_⟩
      · rw [List.flatMap_cons, List.append_assoc, readPiece, read]
        rfl
      · rw [meansPiece, means]
        rfl

theorem read_string_written (text rest : Text) :
    readString (text.flatMap writeChar ++ '"' :: rest) = some (some text, rest) := by
  obtain ⟨pieces, read, means⟩ := read_pieces_written text rest
  rw [readString, read, Option.map_some, means]

theorem read_value_quote (fuel : Nat) (rest : Text) :
    readValue (fuel + 1) ('"' :: rest) =
      (readString rest).map fun read => (.string read.1, read.2) := rfl

theorem read_items_close (fuel : Nat) (text rest after : Text) (item : Json)
    (read : readValue fuel text = some (item, rest)) (closed : skipSpace rest = ']' :: after) :
    readItems (fuel + 1) text = some ([item], after) := by
  rw [readItems, read]
  dsimp only
  rw [closed]
  rfl

theorem read_items_comma (fuel : Nat) (text rest more : Text) (item : Json)
    (read : readValue fuel text = some (item, rest)) (goesOn : skipSpace rest = ',' :: more) :
    readItems (fuel + 1) text =
      (readItems fuel more).map fun read => (item :: read.1, read.2) := by
  rw [readItems, read]
  dsimp only
  rw [goesOn]
  rfl

/-- A written value that the reader takes off the front of any text, given enough fuel. -/
def Reads (need : Nat) (written : Text) (value : Json) : Prop :=
  ∀ fuel rest, need ≤ fuel → readValue fuel (written ++ rest) = some (value, rest)

theorem reads_string (text : Text) : Reads 1 (writeString text) (.string (some text)) := by
  intro fuel rest enough
  obtain ⟨less, rfl⟩ : ∃ less, fuel = less + 1 := ⟨fuel - 1, by omega⟩
  have shape : writeString text ++ rest = '"' :: (text.flatMap writeChar ++ '"' :: rest) := by
    simp [writeString]
  rw [shape, read_value_quote, read_string_written]
  rfl

theorem skip_space_append (space text : Text) (blank : ∀ c ∈ space, isSpace c = true) :
    skipSpace (space ++ text) = skipSpace text :=
  List.dropWhile_append_of_pos blank

theorem read_value_skip (fuel : Nat) (space text : Text) (blank : ∀ c ∈ space, isSpace c = true) :
    readValue fuel (space ++ text) = readValue fuel text := by
  cases fuel with
  | zero => rfl
  | succ fuel => rw [readValue, readValue, skip_space_append space text blank]

theorem read_items_skip (fuel : Nat) (space text : Text) (blank : ∀ c ∈ space, isSpace c = true) :
    readItems fuel (space ++ text) = readItems fuel text := by
  cases fuel with
  | zero => rfl
  | succ fuel => rw [readItems, readItems, read_value_skip fuel space text blank]

/-- Written values with commas between them, and space behind each comma and before the bracket, are
read as the items of an array. -/
theorem read_items_join (need : Nat) (gap space rest : Text) (first : Text × Json)
    (others : List (Text × Json)) (gapBlank : ∀ c ∈ gap, isSpace c = true)
    (spaceBlank : ∀ c ∈ space, isSpace c = true)
    (reads : ∀ part ∈ first :: others, Reads need part.1 part.2) (fuel : Nat)
    (enough : need + others.length + 1 ≤ fuel) :
    readItems fuel (Text.join (',' :: gap) ((first :: others).map Prod.fst) ++
        (space ++ ']' :: rest)) = some ((first :: others).map Prod.snd, rest) := by
  obtain ⟨less, rfl⟩ : ∃ less, fuel = less + 1 := ⟨fuel - 1, by omega⟩
  -- On the items behind the first; each takes one from the fuel.
  induction others generalizing first less with
  | nil =>
      have readFirst := reads first (by simp) less (space ++ ']' :: rest)
        (by simp at enough; omega)
      have closed : skipSpace (space ++ ']' :: rest) = ']' :: rest :=
        skip_space_append space _ spaceBlank
      exact read_items_close less _ _ rest first.2 readFirst closed
  | cons second others ih =>
      rw [List.length_cons] at enough
      obtain ⟨fewer, rfl⟩ : ∃ fewer, less = fewer + 1 := ⟨less - 1, by omega⟩
      have later := ih second (fun part member => reads part (List.mem_cons_of_mem first member))
        fewer (by omega)
      have readFirst := reads first (by simp) (fewer + 1)
        (',' :: (gap ++ (Text.join (',' :: gap) ((second :: others).map Prod.fst) ++
          (space ++ ']' :: rest)))) (by omega)
      have whole : Text.join (',' :: gap) ((first :: second :: others).map Prod.fst) ++
          (space ++ ']' :: rest) =
            first.1 ++ (',' :: (gap ++ (Text.join (',' :: gap) ((second :: others).map Prod.fst) ++
              (space ++ ']' :: rest)))) := by
        simp [Text.join]
      rw [whole, read_items_comma _ _ _ _ _ readFirst rfl, read_items_skip _ gap _ gapBlank, later]
      rfl

theorem read_value_bracket_quote (fuel : Nat) (rest : Text) :
    readValue (fuel + 1) ('[' :: '"' :: rest) =
      (readItems fuel ('"' :: rest)).map fun read => (.array read.1, read.2) := rfl

theorem length_le_join (items : List Text) :
    items.length ≤ (Text.join [','] (items.map writeString)).length := by
  induction items with
  | nil => simp
  | cons first others ih =>
      cases others with
      | nil => simp [Text.join, writeString]
      | cons second others =>
          simp only [List.map_cons, Text.join, List.length_append, List.length_cons] at ih ⊢
          omega

def ofTexts (items : List Text) : Json := .array (items.map fun item => .string (some item))

theorem read_value_write_strings (items : List Text) (fuel : Nat)
    (enough : items.length + 2 ≤ fuel) :
    readValue fuel (writeStrings items) = some (ofTexts items, []) := by
  obtain ⟨less, rfl⟩ : ∃ less, fuel = less + 1 := ⟨fuel - 1, by omega⟩
  cases items with
  | nil => rfl
  | cons first others =>
      let part (item : Text) : Text × Json := (writeString item, .string (some item))
      have allRead : ∀ written ∈ part first :: others.map part, Reads 1 written.1 written.2 := by
        intro written member
        rw [← List.map_cons] at member
        obtain ⟨item, _, rfl⟩ := List.mem_map.mp member
        exact reads_string item
      have items := read_items_join 1 [] [] [] (part first) (others.map part) (by simp) (by simp)
        allRead less (by simp at enough ⊢; omega)
      obtain ⟨rest, starts⟩ : ∃ rest, Text.join [','] ((part first :: others.map part).map
          Prod.fst) ++ ([] ++ ']' :: []) = '"' :: rest := by
        cases others <;> exact ⟨_, rfl⟩
      have shape : writeStrings (first :: others) = '[' :: '"' :: rest := by
        rw [← starts]
        simp [writeStrings, part, Function.comp_def]
      rw [starts] at items
      rw [shape, read_value_bracket_quote, items]
      simp [ofTexts, part, Function.comp_def]

theorem parse_write_strings (items : List Text) :
    parse (writeStrings items) = some (ofTexts items) := by
  have enough : items.length + 2 ≤ 2 * (writeStrings items).length + 2 := by
    have shorter := length_le_join items
    simp only [writeStrings, List.length_append, List.length_cons, List.length_nil]
    omega
  rw [parse, read_value_write_strings items _ enough]
  rfl

theorem list_of_texts (items : List Text) : (ofTexts items).list? text? = some items := by
  unfold ofTexts list?
  dsimp only
  induction items with
  | nil => rfl
  | cons first others ih =>
      rw [List.map_cons, List.mapM_cons, ih]
      rfl

theorem printed_of_escaped (letter c : Char) (short : escaped? letter = some c) :
    ¬letter.toNat < 0x20 := by
  unfold escaped? at short
  split at short
  all_goals first | decide | simp at short

theorem printed_hex_digit (n : Nat) (digit : n < 16) : ¬(Text.hexDigit n).toNat < 0x20 := by
  have each : ∀ n < 16, ¬(Text.hexDigit n).toNat < 0x20 := by decide
  exact each n digit

theorem printed_of_mem_write_char (c d : Char) (member : d ∈ writeChar c) : ¬d.toNat < 0x20 := by
  rcases write_char_cases c with ⟨letter, short, written⟩ | ⟨control, written⟩ |
      ⟨printed, _, _, written⟩
  · rw [written] at member
    simp only [List.mem_cons, List.not_mem_nil, or_false] at member
    rcases member with rfl | rfl
    · decide
    · exact printed_of_escaped d c short
  · rw [written] at member
    simp only [List.mem_cons, List.not_mem_nil, or_false] at member
    rcases member with rfl | rfl | rfl | rfl | rfl | rfl
    · decide
    · decide
    · decide
    · decide
    · exact printed_hex_digit _ (by omega)
    · exact printed_hex_digit _ (by omega)
  · rw [written, List.mem_singleton] at member
    rw [member]
    exact printed

theorem printed_of_mem_join (items : List Text) (d : Char)
    (member : d ∈ Text.join [','] (items.map writeString)) : ¬d.toNat < 0x20 := by
  have inString : ∀ item, d ∈ writeString item → ¬d.toNat < 0x20 := by
    intro item inside
    simp only [writeString, List.mem_append, List.mem_singleton, List.mem_flatMap] at inside
    rcases inside with (rfl | ⟨c, _, made⟩) | rfl
    · decide
    · exact printed_of_mem_write_char c d made
    · decide
  induction items with
  | nil => simp [Text.join] at member
  | cons first others ih =>
      cases others with
      | nil => exact inString first (by simpa [Text.join] using member)
      | cons second others =>
          simp only [List.map_cons, Text.join, List.mem_append, List.mem_singleton] at member
          rcases member with (here | rfl) | later
          · exact inString first here
          · decide
          · exact ih later

theorem feed_not_mem_write_strings (items : List Text) : '\n' ∉ writeStrings items := by
  intro member
  simp only [writeStrings, List.mem_append, List.mem_singleton] at member
  rcases member with (opening | inside) | closing
  · exact absurd opening (by decide)
  · exact printed_of_mem_join items '\n' inside (by decide)
  · exact absurd closing (by decide)

end Json
end DockerfileAudit
