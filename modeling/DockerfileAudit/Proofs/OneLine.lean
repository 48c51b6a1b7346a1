import DockerfileAudit.Proofs.Composition

/-!
Documents of one line: a directive in any letters, a space and its arguments. Such a document comes
to the statement of the line, unless the arguments open a heredoc, for which no line is left.
-/
set_option autoImplicit false

namespace DockerfileAudit
namespace Text

structure Letter (c : Char) : Prop where
  unblank : isBlank c = false
  noSigma : c ≠ capitalSigma
  lowers : lowerChar c = [asciiLower c]
  noComment : c ≠ '#'
  noFeed : c ≠ '\n'
  noMark : c ≠ Char.ofNat 0xFEFF

theorem code_of_ascii_letter (c : Char) (letter : isAsciiLetter c = true) : c.toNat < 128 := by
  simp only [isAsciiLetter, Bool.or_eq_true, Bool.and_eq_true, decide_eq_true_eq,
    Char.le_def, UInt32.le_iff_toNat_le] at letter
  have code : c.toNat = c.val.toNat := rfl
  have bigZ : 'Z'.val.toNat = 90 := rfl
  have smallZ : 'z'.val.toNat = 122 := rfl
  omega

theorem letter_of_ascii_letter (c : Char) (letter : isAsciiLetter c = true) : Letter c := by
  have each : ∀ n < 128, isAsciiLetter (Char.ofNat n) = true →
      isBlank (Char.ofNat n) = false ∧ Char.ofNat n ≠ capitalSigma ∧ Char.ofNat n ≠ '#' ∧
        Char.ofNat n ≠ '\n' ∧ Char.ofNat n ≠ Char.ofNat 0xFEFF := by decide +kernel
  have ascii := code_of_ascii_letter c letter
  have here := each c.toNat ascii
  rw [Char.ofNat_toNat] at here
  obtain ⟨unblank, noSigma, noComment, noFeed, noMark⟩ := here letter
  exact ⟨unblank, noSigma, lower_char_ascii c ascii, noComment, noFeed, noMark⟩

theorem lower_after_of_letters (before word : Text)
    (letters : ∀ c ∈ word, isAsciiLetter c = true) :
    lowerAfter before word = word.map asciiLower := by
  induction word generalizing before with
  | nil => rfl
  | cons c rest ih =>
      have letter := letter_of_ascii_letter c (letters c (by simp))
      rw [lowerAfter, if_neg letter.noSigma, letter.lowers,
        ih _ fun d member => letters d (by simp [member])]
      rfl

def IsKeyword (word : Text) : Prop := word ≠ [] ∧ ∀ c ∈ word, 'a' ≤ c ∧ c ≤ 'z'

-- Decided letter by letter: a search would settle on the instance that goes through every
-- character.
instance : DecidablePred IsKeyword := fun word =>
  @instDecidableAnd _ _ inferInstance (List.decidableBAll _ word)

theorem ascii_letter_of_ascii_lower (c : Char) (small : 'a' ≤ asciiLower c ∧ asciiLower c ≤ 'z') :
    isAsciiLetter c = true := by
  unfold asciiLower at small
  split at small
  · rename_i capital
    simp [isAsciiLetter, capital]
  · simp [isAsciiLetter, small]

theorem ascii_lower_of_small (c : Char) (small : 'a' ≤ c ∧ c ≤ 'z') : asciiLower c = c := by
  unfold asciiLower
  rw [if_neg]
  rintro ⟨_, capital⟩
  have disjoint : ('a' : Char) ≤ 'Z' := Std.le_trans small.1 capital
  exact absurd disjoint (by decide)

section Keyword

variable {word keyword : Text} (isKeyword : IsKeyword keyword)
  (named : sameAscii word keyword = true)

include isKeyword named

theorem map_ascii_lower_of_named : word.map asciiLower = keyword := by
  have same : word.map asciiLower = keyword.map asciiLower := by
    simpa [sameAscii] using named
  have unchanged : keyword.map asciiLower = keyword.map id := by
    apply List.map_congr_left
    intro c member
    exact ascii_lower_of_small c (isKeyword.2 c member)
  rw [same, unchanged, List.map_id]

theorem letters_of_named (c : Char) (member : c ∈ word) : isAsciiLetter c = true := by
  apply ascii_letter_of_ascii_lower
  apply isKeyword.2
  rw [← map_ascii_lower_of_named isKeyword named]
  exact List.mem_map_of_mem member

theorem lower_of_named : lower word = keyword := by
  rw [lower, lower_after_of_letters [] word (letters_of_named isKeyword named),
    map_ascii_lower_of_named isKeyword named]

end Keyword

def lineEndings : List Text := [[], ['\n'], ['\r', '\n']]

theorem lines_from_whole (current line : Text) (whole : '\n' ∉ line)
    (nonempty : line.reverse ++ current ≠ []) :
    linesFrom current line = [(line.reverse ++ current).reverse] := by
  induction line generalizing current with
  | nil =>
      have begun : current ≠ [] := by simpa using nonempty
      simp [linesFrom, begun]
  | cons c rest ih =>
      have other : c ≠ '\n' := fun feed => whole (by simp [feed])
      rw [linesFrom, if_neg other, ih (c :: current) (fun member => whole (by simp [member]))
        (by simp)]
      simp

theorem lines_one (line ending : Text) (isLine : IsLine line) (nonempty : line ≠ [])
    (ends : ending ∈ lineEndings) : lines (line ++ ending) = [line] := by
  obtain ⟨whole, plain⟩ := isLine
  simp only [lineEndings, List.mem_cons, List.not_mem_nil, or_false] at ends
  rcases ends with rfl | rfl | rfl
  · rw [List.append_nil, lines, lines_from_whole [] line whole (by simpa using nonempty)]
    simp
  · rw [lines_more line [] whole, ended_line_reverse line plain]
    rfl
  · have ended : '\n' ∉ line ++ ['\r'] := by simp [whole]
    rw [List.append_cons, lines_more _ [] ended]
    simp [endedLine, lines, linesFrom]

end Text

theorem Argument.flags_of_flagless (text : Text)
    (flagless : Text.startsWith text ['-', '-'] = false) : flags text = ([], text) := by
  cases text with
  | nil => rfl
  | cons c rest =>
      rw [flags, List.length_cons, takeFlags, flagless]
      rfl

namespace Document

def command (word args : Text) : Text := word ++ ' ' :: args

structure OneLine (args : Text) : Prop where
  tight : args.Tight
  whole : '\n' ∉ args
  complete : args.getLast? ≠ some backslash

section Command

variable {word directive args : Text} (isKeyword : Text.IsKeyword directive)
  (named : Text.sameAscii word directive = true) (oneLine : OneLine args)

section Word

include isKeyword named

theorem word_starts : ∃ c rest, word = c :: rest ∧ Text.Letter c := by
  cases word with
  | nil =>
      have empty := Text.map_ascii_lower_of_named isKeyword named
      exact absurd empty.symm isKeyword.1
  | cons c rest =>
      have letter := Text.letters_of_named isKeyword named c (by simp)
      exact ⟨c, rest, rfl, Text.letter_of_ascii_letter c letter⟩

theorem letter_of_mem_word (c : Char) (member : c ∈ word) : Text.Letter c :=
  Text.letter_of_ascii_letter c (Text.letters_of_named isKeyword named c member)

end Word

theorem command_ends (word : Text) {args : Text} (oneLine : OneLine args) :
    ∃ c, (command word args).getLast? = some c ∧ Text.isBlank c = false ∧ c ≠ backslash := by
  obtain ⟨c, last, unblank⟩ := oneLine.tight.ends
  have complete := oneLine.complete
  obtain ⟨front, rfl⟩ := List.getLast?_eq_some_iff.mp last
  refine ⟨c, ?_, unblank, ?_⟩
  · have regrouped : command word (front ++ [c]) = word ++ ' ' :: front ++ [c] := by
      simp [command]
    rw [regrouped, List.getLast?_concat]
  · intro same
    exact complete (by simp [same])

section Line

include isKeyword named oneLine

theorem tight_command : (command word args).Tight := by
  obtain ⟨c, rest, rfl, letter⟩ := word_starts isKeyword named
  obtain ⟨d, last, unblank, _⟩ := command_ends (c :: rest) oneLine
  exact ⟨⟨c, rfl, letter.unblank⟩, ⟨d, last, unblank⟩⟩

theorem is_line_command : Text.IsLine (command word args) := by
  constructor
  · intro member
    rcases List.mem_append.mp member with inWord | behind
    · exact (letter_of_mem_word isKeyword named _ inWord).noFeed rfl
    · rcases List.mem_cons.mp behind with space | inArgs
      · exact absurd space (by decide)
      · exact oneLine.whole inArgs
  · intro carriage
    obtain ⟨c, last, unblank, _⟩ := command_ends word oneLine
    rw [last, Option.some.injEq] at carriage
    rw [carriage] at unblank
    exact absurd unblank (by decide)

theorem speaks_command : ¬Silent (command word args) := by
  unfold Silent
  rw [(tight_command isKeyword named oneLine).trim_eq]
  obtain ⟨c, rest, rfl, letter⟩ := word_starts isKeyword named
  rintro (empty | ⟨comment, starts⟩)
  · simp [command] at empty
  · simp only [command, List.cons_append, List.cons.injEq] at starts
    exact letter.noComment starts.1

theorem complete_command : ¬Continues backslash (command word args) := by
  obtain ⟨c, last, _, other⟩ := command_ends word oneLine
  unfold Continues
  rw [(tight_command isKeyword named oneLine).trim_eq, last, Option.some.injEq]
  exact other

theorem content_lines_command (ending : Text) (ends : ending ∈ Text.lineEndings) :
    contentLines (command word args ++ ending) = [command word args] := by
  have isLine := is_line_command isKeyword named oneLine
  have unmarked : (command word args ++ ending).head? ≠ some (Char.ofNat 0xFEFF) := by
    obtain ⟨c, rest, rfl, letter⟩ := word_starts isKeyword named
    simpa [command] using letter.noMark
  rw [contentLines, without_mark_of_head _ unmarked]
  exact Text.lines_one _ ending isLine (by simp [command]) ends

theorem escape_in_command (ending : Text) (ends : ending ∈ Text.lineEndings) :
    escapeIn (command word args ++ ending) = backslash := by
  rw [escapeIn, content_lines_command isKeyword named oneLine ending ends, escapeOf]
  cases comment : Text.after? ['#'] (Text.trim (command word args)) with
  | none => rfl
  | some text =>
      have silent : Silent (command word args) :=
        Or.inr ⟨text, (Text.after_eq_some_iff _ _ _).mp comment⟩
      exact absurd silent (speaks_command isKeyword named oneLine)

theorem parse_one_line (ending : Text) (ends : ending ∈ Text.lineEndings) :
    parse (command word args ++ ending) =
      conclude ((Statement.ofLine (command word args) 1).bind fun statement =>
        readSettled backslash 1 statement (Heredoc.opened statement) 2 []) := by
  have readAs := read_last 1 .between rfl (command word args) []
    (speaks_command isKeyword named oneLine) (complete_command isKeyword named oneLine)
  rw [parse_eq_conclude, escape_in_command isKeyword named oneLine ending ends,
    content_lines_command isKeyword named oneLine ending ends, readAs,
    (tight_command isKeyword named oneLine).trim_eq]
  rfl

theorem split_directive_command :
    Statement.splitDirective (command word args) = (word, args) := by
  have cut : Text.cutAt Text.isBlank (command word args) = some (word, args) := by
    rw [Text.cut_at_eq_some_iff]
    refine ⟨' ', by decide, ?_, rfl⟩
    intro c member
    exact (letter_of_mem_word isKeyword named c member).unblank
  rw [Statement.splitDirective, cut]
  dsimp only
  rw [oneLine.tight.trim_start_eq]

theorem draft_command
    (flagless : directive ∈ Statement.flagDirectives → Text.startsWith args ['-', '-'] = false) :
    Statement.draft (command word args) = ⟨directive, [], Argument.ofText directive args⟩ := by
  unfold Statement.draft
  rw [split_directive_command isKeyword named oneLine]
  dsimp only
  rw [Text.lower_of_named isKeyword named]
  by_cases takesFlags : directive ∈ Statement.flagDirectives
  · rw [if_pos takesFlags, Argument.flags_of_flagless args (flagless takesFlags),
      oneLine.tight.trim_eq]
  · rw [if_neg takesFlags, oneLine.tight.trim_eq]

/-- One statement for a document of one line, unless the arguments open a heredoc. -/
theorem parse_command
    (flagless : directive ∈ Statement.flagDirectives → Text.startsWith args ['-', '-'] = false)
    (given : Argument.ofText directive args ≠ []) (ending : Text)
    (ends : ending ∈ Text.lineEndings) :
    parse (command word args ++ ending) =
      match Heredoc.opened ⟨directive, [], Argument.ofText directive args⟩ with
      | [] => .ok [⟨directive, [], Argument.ofText directive args⟩]
      | heredoc :: _ => .error (.unterminatedHeredoc 1 heredoc.word) := by
  have reads := Statement.of_line_eq_ok (command word args) _
    (draft_command isKeyword named oneLine flagless) (by simp [given]) 1
  rw [parse_one_line isKeyword named oneLine ending ends, reads]
  simp only [Except.bind]
  cases Heredoc.opened ⟨directive, [], Argument.ofText directive args⟩ with
  | nil => rfl
  | cons heredoc later =>
      rw [read_endless 2 1 _ heredoc later [] (by simp)]
      rfl

end Line

end Command

end Document
end DockerfileAudit
