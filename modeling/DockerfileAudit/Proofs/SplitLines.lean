import DockerfileAudit.Proofs.Silence

/-!
A line that is cut in two at a space. The first part keeps the space and gets the escape, and the
second part becomes a line of its own. The reader puts back exactly what was cut: it drops the
escape with the blanks before it, and adds one space. So both documents come to the same place
behind the cut, one line apart, and a statement that began before the cut or at it keeps its number.
-/
set_option autoImplicit false

namespace DockerfileAudit

namespace Text

/-- Where two texts meet at a space without other blanks, both keep what trimming leaves of them. -/
theorem trim_join (left right : Text) (leftNonblank : trim left ≠ [])
    (rightNonblank : trim right ≠ [])
    (ends : ∀ c ∈ left.getLast?, isBlank c = false)
    (starts : ∀ c ∈ right.head?, isBlank c = false) :
    trim (left ++ ' ' :: right) = trim left ++ ' ' :: trim right := by
  obtain ⟨before, frontBlank, leftWhole⟩ := exists_trim_of_ends left ends
  obtain ⟨after, backBlank, rightWhole⟩ := exists_trim_of_starts right starts
  have whole : left ++ ' ' :: right =
      before ++ ((trim left ++ ' ' :: trim right) ++ after) := by
    calc left ++ ' ' :: right
        = (before ++ trim left) ++ ' ' :: (trim right ++ after) := by
          rw [← leftWhole, ← rightWhole]
      _ = before ++ ((trim left ++ ' ' :: trim right) ++ after) := by simp
  have tight : (trim left ++ ' ' :: trim right).Tight := by
    obtain ⟨first, head, unblank⟩ := (tight_trim left leftNonblank).starts
    obtain ⟨last, tail, visible⟩ := (tight_trim right rightNonblank).ends
    refine ⟨⟨first, ?_, unblank⟩, ⟨last, ?_, visible⟩⟩
    · rw [List.head?_append_of_ne_nil _ leftNonblank]
      exact head
    · rw [List.append_cons, List.getLast?_append_of_ne_nil _ rightNonblank]
      exact tail
  rw [whole, trim_blanks_append before _ frontBlank, trim_append_blanks _ after backBlank,
    tight.trim_eq]

end Text

namespace Document

theorem escape_of_unblank (lines : List Text) : Text.isBlank (escapeOf lines) = false := by
  induction lines with
  | nil => decide
  | cons line rest ih =>
      unfold escapeOf
      split
      · decide
      · split
        · decide
        · exact ih

/-- The lines from the first one that speaks have no part in the choice of the escape. -/
theorem escape_of_before_speaking (front back : List Text) (line : Text) (speaks : ¬Silent line) :
    escapeOf (front ++ line :: back) = escapeOf front := by
  induction front with
  | nil =>
      cases found : Text.after? ['#'] (Text.trim line) with
      | none => simp only [List.nil_append, escapeOf, found]
      | some comment =>
          exact absurd (Or.inr ⟨comment, (Text.after_eq_some_iff _ _ _).mp found⟩) speaks
  | cons first rest ih => simp only [List.cons_append, escapeOf, ih]

/-- Two texts with a space between them may stand on lines of their own: the space is all that
separates them, each says something by itself, and the second is more than an escape. -/
structure Cut (escape : Char) (left right : Text) : Prop where
  leftSpeaks : ¬Silent left
  rightSpeaks : ¬Silent right
  ends : ∀ c ∈ left.getLast?, Text.isBlank c = false
  starts : ∀ c ∈ right.head?, Text.isBlank c = false
  company : Text.trim right ≠ [escape]

theorem nonblank_of_speaks (line : Text) (speaks : ¬Silent line) : Text.trim line ≠ [] := by
  intro blank
  exact speaks (Or.inl blank)

theorem ne_nil_of_speaks (line : Text) (speaks : ¬Silent line) : line ≠ [] := by
  intro nothing
  apply speaks
  rw [nothing]
  exact Or.inl rfl

theorem speaks_of_trim (line left more : Text) (speaks : ¬Silent left)
    (begins : Text.trim line = Text.trim left ++ more) : ¬Silent line := by
  obtain ⟨c, rest, trimmed⟩ := List.exists_cons_of_ne_nil (nonblank_of_speaks left speaks)
  rw [trimmed, List.cons_append] at begins
  intro silence
  rcases silence with blank | ⟨comment, hash⟩
  · rw [begins] at blank
    simp at blank
  · apply speaks
    rw [begins, List.cons.injEq] at hash
    exact Or.inr ⟨rest, by rw [trimmed, hash.1]⟩

section Cutting

variable {escape : Char}

/-- The reader sees no difference between a text in front of the space and one that it has read
before. -/
theorem step_line_join (start : Nat) (sofar left right : Text) (tight : right.Tight)
    (company : right ≠ [escape]) :
    stepLine escape start sofar (left ++ ' ' :: right) =
      stepLine escape start (sofar ++ left ++ [' ']) right := by
  cases found : Text.before? escape right with
  | some head =>
      have whole := (Text.before_eq_some_iff escape right head).mp found
      have foundJoined :
          Text.before? escape (left ++ ' ' :: right) = some (left ++ ' ' :: head) := by
        rw [Text.before_eq_some_iff, whole]
        simp
      have nonblank : Text.trimEnd head ≠ [] := by
        intro blank
        obtain ⟨c, first, unblank⟩ := tight.starts
        cases head with
        | nil => exact company whole
        | cons d more =>
            have same : d = c := by simpa [whole] using first
            have hit := (Text.trim_end_eq_nil_iff _).mp blank d (by simp)
            rw [same, unblank] at hit
            simp at hit
      have trimmed : Text.trimEnd (left ++ ' ' :: head) = left ++ ' ' :: Text.trimEnd head := by
        rw [List.append_cons, Text.trim_end_append _ head nonblank, ← List.append_cons]
      simp only [stepLine, found, foundJoined, trimmed, List.append_assoc, List.cons_append,
        List.nil_append]
  | none =>
      have missing : Text.before? escape (left ++ ' ' :: right) = none := by
        rw [Text.before_eq_none_iff] at found ⊢
        obtain ⟨c, last, _⟩ := tight.ends
        rw [List.append_cons, List.getLast?_append_of_ne_nil _ (List.ne_nil_of_mem
          (List.mem_of_getLast? last))]
        exact found
      simp only [stepLine, found, missing, List.append_assoc, List.cons_append, List.nil_append]

theorem step_line_error (start : Nat) (sofar trimmed : Text) (failure : ParseError)
    (fails : stepLine escape start sofar trimmed = .error failure) :
    ∃ directive, failure = .missingArguments start directive := by
  unfold stepLine at fails
  split at fails
  · simp at fails
  · rcases Statement.of_line_any_number (sofar ++ trimmed) with ⟨head, reads⟩ | ⟨directive, refuses⟩
    · simp [reads] at fails
    · simp only [refuses, Except.error.injEq] at fails
      exact ⟨directive, fails.symm⟩

/-- A line fails at the first line of its statement, which is no later line. -/
theorem step_error (number : Nat) (line : Text) (place : Place) (failure : ParseError)
    (proper : place.Proper number) (fails : step escape number line place = .error failure) :
    ∃ start directive, failure = .missingArguments start directive ∧ start < number + 1 := by
  cases place with
  | between =>
      simp only [step] at fails
      split at fails
      · simp at fails
      · obtain ⟨directive, same⟩ := step_line_error number [] _ failure fails
        exact ⟨number, directive, same, Nat.lt_succ_self number⟩
  | continued start text =>
      simp only [step] at fails
      split at fails
      · simp at fails
      · obtain ⟨directive, same⟩ := step_line_error start text _ failure fails
        exact ⟨start, directive, same, Nat.lt_succ_of_lt proper⟩
  | body start statement heredoc later text =>
      simp only [step] at fails
      split at fails <;> simp at fails

/-- Two documents that make the same step, one of them one line later, come to the same. -/
theorem read_of_same_step (number : Nat) (place other : Place) (line second : Text)
    (back : List Text) (proper : place.Proper number)
    (same : step escape (number + 1) second other = step escape number line place) :
    read escape other (number + 1) (second :: back) =
      (read escape place number (line :: back)).mapError (ParseError.moved (number + 1)) := by
  cases outcome : step escape number line place with
  | error failure =>
      rw [outcome] at same
      obtain ⟨start, directive, rfl, early⟩ := step_error number line place failure proper outcome
      rw [read_of_step_error _ _ _ _ _ same, read_of_step_error _ _ _ _ _ outcome,
        Except.mapError, ParseError.moved, moved_line_of_lt early]
  | ok next =>
      rw [outcome] at same
      have moved : read escape _ (number + 1 + 1) back = _ :=
        read_moved (number + 1) (number + 1) back next.1 (Nat.le_refl _)
      rw [moved_of_proper _ next.1 (step_proper number line place next proper outcome)] at moved
      rw [read_of_step_ok _ _ _ _ _ same, read_of_step_ok _ _ _ _ _ outcome, moved, map_map_error]

/-- The step over the whole line is the second of the two steps over its parts, and what the
document comes to behind it is the same one line later. -/
theorem read_cut (number : Nat) (place : Place) (left right line first second : Text)
    (back : List Text) (cut : Cut escape left right)
    (outside : place.outside = true) (proper : place.Proper number)
    (lineTrim : Text.trim line = Text.trim left ++ ' ' :: Text.trim right)
    (firstTrim : Text.trim first = Text.trim left ++ [' ', escape])
    (secondTrim : Text.trim second = Text.trim right) :
    read escape place number (first :: second :: back) =
      (read escape place number (line :: back)).mapError (ParseError.moved (number + 1)) := by
  have rightTight := Text.tight_trim right (nonblank_of_speaks right cut.rightSpeaks)
  have firstSpeaks := speaks_of_trim first left _ cut.leftSpeaks firstTrim
  have lineSpeaks := speaks_of_trim line left _ cut.leftSpeaks lineTrim
  have secondSpeaks : ¬Silent second := by
    intro silence
    exact cut.rightSpeaks (silent_of_same_trim second right secondTrim silence)
  have firstContinues : Continues escape first := by
    rw [Continues, firstTrim]
    simp
  let opening : Continued escape := ⟨first, [], firstSpeaks, firstContinues, by simp⟩
  have piece : opening.piece = Text.trim left ++ [' '] := by
    have dropped : (Text.trim first).dropLast = Text.trim left ++ [' '] := by simp [firstTrim]
    have kept : Text.trimEnd (Text.trim left) = Text.trim left :=
      List.rdropWhile_idempotent Text.isBlank (Text.trimStart left)
    rw [Continued.piece, dropped, Text.trim_end_append_blanks _ [' ']
      (List.forall_mem_singleton.mpr rfl), kept]
  have opened : read escape place number (first :: second :: back) = _ :=
    read_continued number place outside opening (second :: back)
  have sameStep : step escape (number + 1) second
      (.continued (place.start number) (place.text ++ (Text.trim left ++ [' ']))) =
        step escape number line place := by
    rw [step_speaking _ second _ rfl secondSpeaks,
      step_speaking number line place outside lineSpeaks,
      secondTrim, lineTrim, step_line_join _ _ _ _ rightTight cut.company]
    simp only [Place.start, Place.text, List.append_assoc]
  rw [opened, piece]
  exact read_of_same_step number place _ line second back proper sameStep

end Cutting

/-- A line of a document that is cut in two, with the text before and behind it. The reader comes to
the line outside of bodies. The line that ends at the cut may end with a carriage return. -/
structure SplitLine (escape : Char) where
  front : Text
  left : Text
  right : Text
  carriage : Text
  back : Text
  ended : front.AllEnded
  reached : Reached escape (Text.lines front)
  cut : Cut escape left right
  leftWhole : '\n' ∉ left
  rightWhole : '\n' ∉ right
  returns : carriage = [] ∨ carriage = ['\r']
  ends : back = [] ∨ ∃ rest, back = '\n' :: rest

namespace SplitLine

variable {escape : Char}

def whole (split : SplitLine escape) : Text :=
  split.front ++ (split.left ++ ' ' :: split.right ++ split.back)

def parted (split : SplitLine escape) : Text :=
  split.front ++
    (split.left ++ ' ' :: escape :: split.carriage ++ '\n' :: (split.right ++ split.back))

def number (split : SplitLine escape) : Nat := (Text.lines split.front).length + 1

theorem back_ends (split : SplitLine escape) (raw : Text) (nonempty : raw ≠ []) :
    (split.back = [] ∧ raw ≠ []) ∨ ∃ rest, split.back = '\n' :: rest := by
  apply split.ends.imp_left
  intro nothing
  exact ⟨nothing, nonempty⟩

theorem lines_whole (split : SplitLine escape) :
    ∃ line, Text.lines split.whole =
        Text.lines split.front ++ line :: Text.lines (split.back.drop 1) ∧
      Text.trim line = Text.trim split.left ++ ' ' :: Text.trim split.right := by
  have oneLine : '\n' ∉ split.left ++ ' ' :: split.right := by
    simp [split.leftWhole, split.rightWhole]
  obtain ⟨line, read, near⟩ := Text.lines_line _ split.back oneLine
    (split.back_ends _ (by simp))
  refine ⟨line, ?_, ?_⟩
  · rw [whole, Text.lines_append_of_all_ended _ _ split.ended, read]
  · rw [Text.trim_of_near line _ near]
    exact Text.trim_join _ _ (nonblank_of_speaks _ split.cut.leftSpeaks)
      (nonblank_of_speaks _ split.cut.rightSpeaks) split.cut.ends split.cut.starts

theorem lines_parted (split : SplitLine escape) (unblank : Text.isBlank escape = false) :
    ∃ first second, Text.lines split.parted =
        Text.lines split.front ++ first :: second :: Text.lines (split.back.drop 1) ∧
      Text.trim first = Text.trim split.left ++ [' ', escape] ∧
      Text.trim second = Text.trim split.right := by
  have carriageBlank : ∀ c ∈ split.carriage, Text.isBlank c = true ∧ c ≠ '\n' := by
    rcases split.returns with none | returned
    · simp [none]
    · rw [returned]
      exact List.forall_mem_singleton.mpr ⟨rfl, by decide⟩
  have oneLine : '\n' ∉ split.left ++ ' ' :: escape :: split.carriage := by
    intro feed
    simp only [List.mem_append, List.mem_cons] at feed
    rcases feed with inside | space | mark | behind
    · exact split.leftWhole inside
    · exact absurd space (by decide)
    · rw [← mark] at unblank
      exact absurd unblank (by decide)
    · exact (carriageBlank _ behind).2 rfl
  have rightNonempty := ne_nil_of_speaks split.right split.cut.rightSpeaks
  obtain ⟨first, firstRead, firstNear⟩ := Text.lines_line _ ('\n' :: (split.right ++ split.back))
    oneLine (Or.inr ⟨_, rfl⟩)
  obtain ⟨second, secondRead, secondNear⟩ := Text.lines_line split.right split.back split.rightWhole
    (split.back_ends _ rightNonempty)
  have alone : Text.trim [escape] = [escape] :=
    Text.Tight.trim_eq ⟨⟨escape, rfl, unblank⟩, ⟨escape, rfl, unblank⟩⟩
  refine ⟨first, second, ?_, ?_, Text.trim_of_near second _ secondNear⟩
  · rw [parted, Text.lines_append_of_all_ended _ _ split.ended, firstRead, List.drop_one,
      List.tail_cons, secondRead]
  · have joined := Text.trim_join split.left [escape]
      (nonblank_of_speaks _ split.cut.leftSpeaks) (by simp [alone]) split.cut.ends
      (by simpa using unblank)
    have regrouped : split.left ++ ' ' :: escape :: split.carriage =
        (split.left ++ [' ', escape]) ++ split.carriage := by simp
    rw [Text.trim_of_near first _ firstNear, regrouped,
      Text.trim_append_blanks _ split.carriage fun c member => (carriageBlank c member).1, joined,
      alone]

theorem read_parted (split : SplitLine escape) (unblank : Text.isBlank escape = false) :
    read escape .between 1 (Text.lines split.parted) =
      (read escape .between 1 (Text.lines split.whole)).mapError
        (ParseError.moved (split.number + 1)) := by
  obtain ⟨line, wholeLines, lineTrim⟩ := split.lines_whole
  obtain ⟨first, second, partedLines, firstTrim, secondTrim⟩ := split.lines_parted unblank
  obtain ⟨place, done, walked, outside⟩ := split.reached
  have proper := walk_proper 1 _ .between place done trivial walked
  have cutRead := read_cut _ place _ _ line first second (Text.lines (split.back.drop 1)) split.cut
    outside proper lineTrim firstTrim secondTrim
  rw [wholeLines, partedLines, read_of_walk 1 _ _ _ _ _ walked, read_of_walk 1 _ _ _ _ _ walked,
    cutRead, map_map_error, number, Nat.add_comm 1]

theorem escape_of_parted (split : SplitLine escape) (unblank : Text.isBlank escape = false) :
    escapeOf (Text.lines split.parted) = escapeOf (Text.lines split.whole) := by
  obtain ⟨line, wholeLines, lineTrim⟩ := split.lines_whole
  obtain ⟨first, second, partedLines, firstTrim, _⟩ := split.lines_parted unblank
  rw [wholeLines, partedLines,
    escape_of_before_speaking _ _ line (speaks_of_trim line _ _ split.cut.leftSpeaks lineTrim),
    escape_of_before_speaking _ _ first (speaks_of_trim first _ _ split.cut.leftSpeaks firstTrim)]

theorem head_parted (split : SplitLine escape) : split.parted.head? = split.whole.head? := by
  have begun : split.front ++ split.left ≠ [] :=
    List.append_ne_nil_of_right_ne_nil _ (ne_nil_of_speaks split.left split.cut.leftSpeaks)
  rw [parted, whole, List.append_assoc, List.append_assoc, ← List.append_assoc split.front,
    ← List.append_assoc split.front, List.head?_append_of_ne_nil _ begun,
    List.head?_append_of_ne_nil _ begun]

end SplitLine

/-- A statement may be spread over lines. When a line that the reader reaches outside of bodies is
cut in two at a single space, with the escape at the end of the first part, the document has the
same statements or fails for the same reason, at a line that is one further exactly if it stands
behind the line that is cut. The line may be the first of its statement or a later one, and it may
continue itself. -/
theorem parse_joins_split_line (text : Text) (split : SplitLine (escapeIn text))
    (whole : split.whole = withoutMark text) :
    parse (markOf text ++ split.parted) =
      (parse text).mapError (ParseError.moved (split.number + 1)) := by
  have unblank : Text.isBlank (escapeIn text) = false := escape_of_unblank _
  have unmarked : withoutMark (markOf text ++ split.parted) = split.parted := by
    apply without_mark_mark_of
    intro bare
    rw [split.head_parted, whole, without_mark_of_head text bare]
    exact bare
  have lines : contentLines (markOf text ++ split.parted) = Text.lines split.parted := by
    rw [contentLines, unmarked]
  have oldLines : contentLines text = Text.lines split.whole := by
    rw [contentLines, whole]
  have sameEscape : escapeIn (markOf text ++ split.parted) = escapeIn text := by
    rw [escapeIn, lines, split.escape_of_parted unblank, ← oldLines]
    rfl
  have moved := conclude_moved_by (some (split.number + 1))
    (read (escapeIn text) .between 1 (contentLines text))
  rw [parse_eq_conclude, parse_eq_conclude, sameEscape, lines, split.read_parted unblank,
    ← oldLines]
  exact moved

-- The line that is cut goes on from the one before and into the one behind, the second part opens a
-- heredoc, and the failure behind its body moves.
theorem parse_joins_split_line_of_opener :
    parse "FROM a\nRUN b \\\n c \\\n<<E d \\\ne\nE\nUSER\n".toList =
      .error (.missingArguments 7 "user".toList) := by
  have cut : Cut '\\' " c".toList "<<E d \\".toList := by
    refine ⟨by decide, by decide, ?_, ?_, by decide⟩
    · rintro c ⟨⟩
      decide
    · rintro c ⟨⟩
      decide
  have reached : Reached '\\' (Text.lines "FROM a\nRUN b \\\n".toList) := ⟨_, _, rfl, rfl⟩
  let split : SplitLine '\\' :=
    ⟨"FROM a\nRUN b \\\n".toList, " c".toList, "<<E d \\".toList, [], "\ne\nE\nUSER\n".toList,
      Or.inr (by decide), reached, cut, by decide, by decide, Or.inl rfl, Or.inr ⟨_, rfl⟩⟩
  have failed : parse "FROM a\nRUN b \\\n c <<E d \\\ne\nE\nUSER\n".toList =
      .error (.missingArguments 6 "user".toList) := by decide +kernel
  have moved :=
    parse_joins_split_line "FROM a\nRUN b \\\n c <<E d \\\ne\nE\nUSER\n".toList split rfl
  rw [failed] at moved
  exact moved

end Document
end DockerfileAudit
