import DockerfileAudit.Proofs.LineEndings
import DockerfileAudit.Proofs.PathOrder
import Mathlib.Data.List.Infix

/-!
The escape that a document chooses is a name and no more. When a comment at the top chooses the
backtick and each line that continues ends in a backtick instead of a backslash, every part of the
layout keeps its text: the escape is dropped from it in either case. So the document has the same
statements, and its failures stand one line further.
-/
set_option autoImplicit false

namespace DockerfileAudit

namespace Text

/-- The text with the last `old` replaced, if there is one. -/
def replaceLast (old new : Char) (text : Text) : Text := (text.reverse.replace old new).reverse

theorem replace_last_append (old new : Char) (front back : Text) (missing : old ∉ back) :
    replaceLast old new (front ++ old :: back) = front ++ new :: back := by
  have turned : (front ++ old :: back).reverse = back.reverse ++ old :: front.reverse := by simp
  unfold replaceLast
  rw [turned, List.replace_append_right (by simpa using missing), List.replace_cons_self]
  simp

def mapLines (change : Text → Text) (text : Text) : Text :=
  join ['\n'] ((fields (· = '\n') text).map change)

theorem fields_whole (line : Text) (whole : '\n' ∉ line) : fields (· = '\n') line = [line] :=
  fields_of_uncut _ line (uncut_of_whole line whole)

theorem map_lines_last (change : Text → Text) (line : Text) (whole : '\n' ∉ line) :
    mapLines change line = change line := by
  rw [mapLines, fields_whole line whole]
  rfl

theorem map_lines_more (change : Text → Text) (line rest : Text) (whole : '\n' ∉ line) :
    mapLines change (line ++ '\n' :: rest) = change line ++ '\n' :: mapLines change rest := by
  obtain ⟨first, others, split⟩ := List.exists_cons_of_ne_nil (fields_ne_nil (· = '\n') rest)
  rw [mapLines, mapLines, fields_append _ line rest '\n' rfl, fields_whole line whole, split]
  simp [join]

/-- A change of lines that keeps them whole and knows nothing of their endings. -/
structure KeepsEndings (change : Text → Text) : Prop where
  whole : ∀ line : Text, '\n' ∉ line → '\n' ∉ change line
  empty : ∀ line : Text, change line = [] ↔ line = []
  ended : ∀ line : Text, endedLine (change line).reverse = change (endedLine line.reverse)

theorem lines_map_lines {change : Text → Text} (keeps : KeepsEndings change) (text : Text) :
    lines (mapLines change text) = (lines text).map change := by
  induction text using line_induction with
  | last line whole =>
      rw [map_lines_last change line whole]
      by_cases nothing : line = []
      · rw [(keeps.empty line).mpr nothing, nothing]
        rfl
      · rw [lines_unended line whole nothing, lines_unended _ (keeps.whole line whole)
          (by rwa [ne_eq, keeps.empty])]
        rfl
  | more line rest whole ih =>
      rw [map_lines_more change line rest whole, lines_more _ _ (keeps.whole line whole),
        lines_more line rest whole, keeps.ended, ih, List.map_cons]

end Text

namespace Document

/-- A line that continues, with a backtick in the place of its last backslash; other lines stay. -/
def withBacktick (line : Text) : Text :=
  if ¬Silent line ∧ Continues backslash line then Text.replaceLast backslash backtick line else line

def choiceLine : Text := "# escape=".toList ++ [backtick]

/-- The document whose lines continue with backticks. -/
def withBackticks (text : Text) : Text :=
  choiceLine ++ '\n' :: Text.mapLines withBacktick text

section Lines

theorem with_backtick_of_silent (line : Text) (silence : Silent line) : withBacktick line = line :=
  if_neg fun both => both.1 silence

theorem with_backtick_of_complete (line : Text) (complete : ¬Continues backslash line) :
    withBacktick line = line :=
  if_neg fun both => complete both.2

/-- The escape of a line that continues is its last character that is not blank. -/
theorem with_backtick_of_continues (line : Text) (speaks : ¬Silent line)
    (continues : Continues backslash line) :
    ∃ before head after, (∀ c ∈ before, Text.isBlank c = true) ∧
      (∀ c ∈ after, Text.isBlank c = true) ∧ Text.trim line = head ++ [backslash] ∧
        line = before ++ (head ++ backslash :: after) ∧
          withBacktick line = before ++ (head ++ backtick :: after) := by
  obtain ⟨head, trimmed⟩ := List.getLast?_eq_some_iff.mp continues
  obtain ⟨before, after, frontBlank, backBlank, parts⟩ := Text.exists_trim line
  have whole : line = before ++ (head ++ backslash :: after) := by
    rw [trimmed, List.append_assoc, List.singleton_append] at parts
    exact parts
  have missing : backslash ∉ after := by
    intro member
    exact absurd (backBlank _ member) (by decide)
  refine ⟨before, head, after, frontBlank, backBlank, trimmed, whole, ?_⟩
  have replaced := Text.replace_last_append backslash backtick (before ++ head) after missing
  rw [List.append_assoc, List.append_assoc, ← whole] at replaced
  rw [withBacktick, if_pos ⟨speaks, continues⟩, replaced]

theorem trim_with_backtick (line : Text) (speaks : ¬Silent line)
    (continues : Continues backslash line) :
    Text.trim (withBacktick line) = (Text.trim line).dropLast ++ [backtick] := by
  obtain ⟨before, head, after, frontBlank, backBlank, trimmed, _, changed⟩ :=
    with_backtick_of_continues line speaks continues
  have tight : (head ++ [backtick]).Tight := by
    refine ⟨?_, ⟨backtick, by simp, by decide⟩⟩
    cases head with
    | nil => exact ⟨backtick, rfl, by decide⟩
    | cons c rest => exact ⟨c, rfl, Text.trim_starts_unblank line c _ trimmed⟩
  rw [changed, Text.trim_blanks_append before _ frontBlank, List.append_cons,
    Text.trim_append_blanks _ after backBlank, tight.trim_eq, trimmed, List.dropLast_concat]

theorem speaks_with_backtick (line : Text) (speaks : ¬Silent line)
    (continues : Continues backslash line) : ¬Silent (withBacktick line) := by
  obtain ⟨head, trimmed⟩ := List.getLast?_eq_some_iff.mp continues
  unfold Silent
  rw [trim_with_backtick line speaks continues, trimmed, List.dropLast_concat]
  rintro (nothing | ⟨comment, hash⟩)
  · simp at nothing
  · cases head with
    | nil => exact absurd (List.cons.inj hash).1 (by decide)
    | cons c rest =>
        apply speaks
        rw [List.cons_append, List.cons.injEq] at hash
        exact Or.inr ⟨rest ++ [backslash], by rw [trimmed, hash.1]; rfl⟩

theorem with_backtick_return (line : Text) :
    withBacktick (line ++ ['\r']) = withBacktick line ++ ['\r'] := by
  have trimmed : Text.trim (line ++ ['\r']) = Text.trim line :=
    Text.trim_append_blanks line ['\r'] (List.forall_mem_singleton.mpr rfl)
  have same : (¬Silent (line ++ ['\r']) ∧ Continues backslash (line ++ ['\r'])) ↔
      (¬Silent line ∧ Continues backslash line) := by
    unfold Silent Continues
    rw [trimmed]
  by_cases both : ¬Silent line ∧ Continues backslash line
  · have other : (backslash == '\r') = false := rfl
    rw [withBacktick, withBacktick, if_pos (same.mpr both), if_pos both]
    simp [Text.replaceLast, List.replace_cons, other]
  · rw [withBacktick, withBacktick, if_neg (fun joined => both (same.mp joined)), if_neg both]

theorem keeps_endings_with_backtick : Text.KeepsEndings withBacktick := by
  have cases : ∀ line : Text, withBacktick line = line ∨ ∃ front back,
      line = front ++ backslash :: back ∧ withBacktick line = front ++ backtick :: back := by
    intro line
    by_cases both : ¬Silent line ∧ Continues backslash line
    · obtain ⟨before, head, after, _, _, _, whole, changed⟩ :=
        with_backtick_of_continues line both.1 both.2
      exact Or.inr ⟨before ++ head, after, by rw [whole, List.append_assoc],
        by rw [changed, List.append_assoc]⟩
    · exact Or.inl (if_neg both)
  refine ⟨?_, ?_, ?_⟩
  · intro line whole
    rcases cases line with same | ⟨front, back, rfl, changed⟩
    · rwa [same]
    · have feed : '\n' ≠ backtick := by decide
      rw [changed]
      simp only [List.mem_append, List.mem_cons, not_or] at whole ⊢
      exact ⟨whole.1, feed, whole.2.2⟩
  · intro line
    rcases cases line with same | ⟨front, back, rfl, changed⟩
    · rw [same]
    · simp [changed]
  · intro line
    by_cases returned : line.getLast? = some '\r'
    · obtain ⟨front, rfl⟩ := List.getLast?_eq_some_iff.mp returned
      rw [with_backtick_return]
      simp [Text.endedLine]
    · have plain : (withBacktick line).getLast? ≠ some '\r' := by
        rcases cases line with same | ⟨front, back, rfl, changed⟩
        · rwa [same]
        · rw [changed]
          cases back with
          | nil => simp [backtick]
          | cons c rest =>
              rw [List.append_cons, List.getLast?_append_of_ne_nil _ (by simp)] at returned ⊢
              exact returned
      rw [Text.ended_line_reverse _ plain, Text.ended_line_reverse _ returned]

end Lines

section Parts

/-- No line ends in a backtick, but for comments. -/
def BacktickFree (lines : List Text) : Prop :=
  ∀ line ∈ lines, Continues backtick line → Silent line

instance (lines : List Text) : Decidable (BacktickFree lines) :=
  inferInstanceAs (Decidable (∀ line ∈ lines, Continues backtick line → Silent line))

theorem map_with_backtick_of_silent (lines : List Text) (silence : ∀ line ∈ lines, Silent line) :
    lines.map withBacktick = lines := by
  have same : lines.map withBacktick = lines.map id := by
    apply List.map_congr_left
    intro line member
    exact with_backtick_of_silent line (silence line member)
  rw [same, List.map_id]

def Continued.withBacktick (continued : Continued backslash) : Continued backtick where
  line := Document.withBacktick continued.line
  silent := continued.silent
  speaks := speaks_with_backtick continued.line continued.speaks continued.continues
  continues := by
    rw [Continues, trim_with_backtick continued.line continued.speaks continued.continues]
    simp
  silence := continued.silence

theorem Continued.lines_with_backtick (continued : Continued backslash) :
    continued.withBacktick.lines = continued.lines.map Document.withBacktick := by
  rw [lines, lines, List.map_cons, map_with_backtick_of_silent _ continued.silence]
  rfl

/-- The escape is not a part of the text, whichever it is. -/
theorem Continued.piece_with_backtick (continued : Continued backslash) :
    continued.withBacktick.piece = continued.piece := by
  have trimmed := trim_with_backtick continued.line continued.speaks continued.continues
  simp only [piece, Continued.withBacktick, trimmed, List.dropLast_concat]

theorem flat_map_lines_with_backtick (continued : List (Continued backslash)) :
    (continued.map Continued.withBacktick).flatMap Continued.lines =
      (continued.flatMap Continued.lines).map withBacktick := by
  simp only [List.flatMap_map, List.map_flatMap, Continued.lines_with_backtick]

theorem flat_map_piece_with_backtick (continued : List (Continued backslash)) :
    (continued.map Continued.withBacktick).flatMap Continued.piece =
      continued.flatMap Continued.piece := by
  simp only [List.flatMap_map, Continued.piece_with_backtick]

theorem LogicalLine.exists_with_backtick (logical : LogicalLine backslash)
    (free : BacktickFree logical.lines) :
    ∃ other : LogicalLine backtick, other.lines = logical.lines.map withBacktick ∧
      other.text = logical.text := by
  have complete : ¬Continues backtick logical.last := by
    intro continues
    exact logical.speaks (free logical.last (by simp [lines]) continues)
  refine ⟨⟨logical.continued.map Continued.withBacktick, logical.last, logical.speaks, complete⟩,
    ?_, ?_⟩
  · rw [lines, lines, flat_map_lines_with_backtick, List.map_append, List.map_singleton,
      with_backtick_of_complete _ logical.complete]
  · rw [text, text, flat_map_piece_with_backtick]

theorem OpenLine.exists_with_backtick (tail : OpenLine backslash) :
    ∃ other : OpenLine backtick, other.lines = tail.lines.map withBacktick ∧
      other.text = tail.text :=
  ⟨⟨tail.continued.map Continued.withBacktick, by simpa using tail.nonempty⟩,
    flat_map_lines_with_backtick tail.continued, flat_map_piece_with_backtick tail.continued⟩

end Parts

/-- No complete logical line of the lines, as blocks before it lead to it, opens a heredoc. -/
def OpensNone (escape : Char) (lines : List Text) : Prop :=
  ∀ (blocks : List (Block escape)) (logical : LogicalLine escape) (rest : List Text),
    lines = blocks.flatMap Block.lines ++ logical.lines ++ rest →
      Heredoc.opened (Statement.draft logical.text) = []

section Bodiless

variable {escape : Char}

theorem OpensNone.behind {block : Block escape} {rest : List Text}
    (bodiless : OpensNone escape (block.lines ++ rest)) : OpensNone escape rest := by
  intro blocks logical later whole
  apply bodiless (block :: blocks) logical later
  rw [whole, List.flatMap_cons]
  simp only [List.append_assoc]

/-- Whether reading failed for want of the end of a body. -/
def isUnended : Except ParseError (List Statement) → Bool
  | .error (.unterminatedHeredoc _ _) => true
  | _ => false

/-- A heredoc is opened exactly if the document that ends with the line that opens it lacks its end.
-/
theorem opens_none_iff (escape : Char) (lines : List Text) :
    OpensNone escape lines ↔
      ∀ front ∈ lines.inits, isUnended (read escape .between 1 front) = false := by
  constructor
  · intro bodiless front member
    obtain ⟨back, rfl⟩ := (List.mem_inits front lines).mp member
    rw [Bool.eq_false_iff]
    intro unended
    unfold isUnended at unended
    split at unended
    · rename_i number word fails
      obtain ⟨blocks, logical, bodies, heredoc, later, rest, rfl, opens, _⟩ :=
        exists_unended_of_read 1 number word front fails
      have opensNothing := bodiless blocks logical (bodies.flatMap Body.lines ++ rest ++ back)
        (by simp only [List.append_assoc])
      rw [opens] at opensNothing
      simp at opensNothing
    · simp at unended
  · intro ended blocks logical rest whole
    by_contra opens
    obtain ⟨heredoc, later, first⟩ := List.exists_cons_of_ne_nil opens
    have fails := read_unended 1 blocks logical [] heredoc later [] first (by simp)
    have early : blocks.flatMap Block.lines ++ logical.lines ∈ lines.inits :=
      (List.mem_inits _ lines).mpr ⟨rest, whole.symm⟩
    have other := ended _ early
    simp only [List.flatMap_nil, List.append_nil] at fails
    rw [fails] at other
    simp [isUnended] at other

instance (escape : Char) (lines : List Text) : Decidable (OpensNone escape lines) :=
  decidable_of_iff _ (opens_none_iff escape lines).symm

end Bodiless

section Reading

/-- Behind a logical line that opens no heredoc the reader is between statements again. -/
theorem read_bodiless {escape : Char} (number : Nat) (logical : LogicalLine escape)
    (rest : List Text) (opensNothing : Heredoc.opened (Statement.draft logical.text) = []) :
    read escape .between number (logical.lines ++ rest) =
      (Statement.ofLine logical.text number).bind fun statement =>
        (read escape .between (number + logical.lines.length) rest).map ([statement] ++ ·) := by
  rw [read_logical]
  cases reads : Statement.ofLine logical.text number with
  | error failure => rfl
  | ok statement =>
      have drafted := Statement.eq_draft_of_of_line logical.text number statement reads
      simp only [Except.bind, readSettled, drafted, opensNothing, settle]

theorem read_logical_with_backtick (number : Nat) (logical : LogicalLine backslash)
    (rest : List Text) (free : BacktickFree logical.lines)
    (opensNothing : Heredoc.opened (Statement.draft logical.text) = [])
    (behind : read backtick .between (number + logical.lines.length) (rest.map withBacktick) =
      read backslash .between (number + logical.lines.length) rest) :
    read backtick .between number ((logical.lines ++ rest).map withBacktick) =
      read backslash .between number (logical.lines ++ rest) := by
  obtain ⟨other, sameLines, sameText⟩ := logical.exists_with_backtick free
  have sameLength : other.lines.length = logical.lines.length := by
    rw [sameLines, List.length_map]
  have otherOpensNothing : Heredoc.opened (Statement.draft other.text) = [] := by
    rw [sameText]
    exact opensNothing
  rw [List.map_append, ← sameLines, read_bodiless number other _ otherOpensNothing,
    read_bodiless number logical rest opensNothing, sameText, sameLength, behind]

theorem read_ending_with_backtick (number : Nat) (ending : Ending backslash)
    (free : BacktickFree ending.lines) (bodiless : OpensNone backslash ending.lines) :
    read backtick .between number (ending.lines.map withBacktick) =
      read backslash .between number ending.lines := by
  cases ending with
  | nothing => rfl
  | continued tail =>
      obtain ⟨other, sameLines, sameText⟩ := tail.exists_with_backtick
      have newRead := read_ending number (.continued other)
      have oldRead := read_ending number (.continued tail)
      simp only [Ending.lines, Ending.outcome, sameLines, sameText] at newRead oldRead ⊢
      rw [newRead, oldRead]
  | refused logical directive rest refuses =>
      obtain ⟨other, sameLines, sameText⟩ := logical.exists_with_backtick fun line member =>
        free line (List.mem_append_left _ member)
      simp only [Ending.lines]
      rw [List.map_append, ← sameLines, read_logical, read_logical, sameText, refuses]
      rfl
  | unended logical head bodies heredoc later rest reads opens endless =>
      have drafted := Statement.eq_draft_of_of_line logical.text 0 head (reads 0)
      have opensNothing := bodiless [] logical (bodies.flatMap Body.lines ++ rest)
        (by simp [Ending.lines])
      rw [← drafted, opens] at opensNothing
      simp at opensNothing

theorem read_with_backtick (number : Nat) (blocks : List (Block backslash))
    (ending : Ending backslash)
    (free : BacktickFree (blocks.flatMap Block.lines ++ ending.lines))
    (bodiless : OpensNone backslash (blocks.flatMap Block.lines ++ ending.lines)) :
    read backtick .between number ((blocks.flatMap Block.lines ++ ending.lines).map withBacktick) =
      read backslash .between number (blocks.flatMap Block.lines ++ ending.lines) := by
  induction blocks generalizing number with
  | nil => exact read_ending_with_backtick number ending free bodiless
  | cons block blocks ih =>
      rw [List.flatMap_cons, List.append_assoc] at free bodiless ⊢
      have freeBehind : BacktickFree (blocks.flatMap Block.lines ++ ending.lines) :=
        fun line member => free line (List.mem_append_right _ member)
      have later := fun next => ih next freeBehind bodiless.behind
      cases block with
      | silent line silence =>
          have oldStep : step backslash number line .between = _ :=
            step_silent number line .between rfl silence
          have newStep : step backtick number line .between = _ :=
            step_silent number line .between rfl silence
          simp only [Block.lines, List.cons_append, List.nil_append, List.map_cons,
            with_backtick_of_silent line silence]
          rw [read_of_step_ok _ _ _ _ _ oldStep, read_of_step_ok _ _ _ _ _ newStep, later]
      | statement logical head bodies reads opens =>
          have drafted := Statement.eq_draft_of_of_line logical.text 0 head (reads 0)
          have opensNothing := bodiless [] logical
            (bodies.flatMap Body.lines ++ (blocks.flatMap Block.lines ++ ending.lines))
            (by simp [Block.lines])
          have noBodies : bodies = [] := by
            rw [← drafted, opens] at opensNothing
            simpa using opensNothing
          subst noBodies
          simp only [Block.lines, List.flatMap_nil, List.append_nil] at free ⊢
          exact read_logical_with_backtick number logical _
            (fun line member => free line (List.mem_append_left _ member)) opensNothing (later _)

end Reading

theorem escape_of_choice_line (lines : List Text) : escapeOf (choiceLine :: lines) = backtick := rfl

theorem silent_choice_line : Silent choiceLine := Or.inr ⟨_, rfl⟩

theorem content_lines_with_backticks (text : Text) :
    contentLines (withBackticks text) = choiceLine :: (Text.lines text).map withBacktick := by
  have unmarked : withoutMark (withBackticks text) = withBackticks text := rfl
  rw [contentLines, unmarked, withBackticks, Text.lines_more _ _ (by decide),
    Text.lines_map_lines keeps_endings_with_backtick]
  rfl

/-- Which character continues a line makes no difference. Take a document that continues its lines
with the backslash, opens no heredoc and has no line that ends in a backtick but comments; put the
comment that chooses the backtick before it, and a backtick in the place of the backslash at the end
of each line that continues. It has the same statements, or fails for the same reason one line
further. -/
theorem parse_with_backticks (text : Text) (unmarked : text.head? ≠ some (Char.ofNat 0xFEFF))
    (default : escapeIn text = backslash) (bodiless : OpensNone backslash (Text.lines text))
    (free : BacktickFree (Text.lines text)) :
    parse (withBackticks text) = (parse text).mapError (ParseError.later 1) := by
  have lines : contentLines text = Text.lines text := by
    rw [contentLines, without_mark_of_head text unmarked]
  have choice : step backtick 1 choiceLine .between = _ :=
    step_silent 1 choiceLine .between rfl silent_choice_line
  obtain ⟨layout, covers⟩ := exists_layout backslash (Text.lines text)
  have renamed : read backtick .between 2 ((Text.lines text).map withBacktick) =
      read backslash .between 2 (Text.lines text) := by
    rw [← covers] at bodiless free ⊢
    exact read_with_backtick 2 layout.blocks layout.ending free bodiless
  have moved : read backslash .between (1 + 1) (Text.lines text) = _ :=
    read_later 1 1 (Text.lines text)
  rw [parse_eq_conclude, parse_eq_conclude, default, lines, escapeIn, content_lines_with_backticks,
    escape_of_choice_line, read_of_step_ok _ _ _ _ _ choice, renamed, moved]
  exact conclude_later 1 _

-- A comment between the lines of the first statement, an escape behind another, and one that
-- stands alone
-- before a statement that never ends.
theorem parse_with_backticks_of_lone_escape :
    parse "# escape=`\n# x\\\nFROM a \\`\n# c\\\n b\n`\nUSER `\n".toList =
      .error (.missingArguments 6 "user".toList) := by
  have general := parse_with_backticks "# x\\\nFROM a \\\\\n# c\\\n b\n\\\nUSER \\\n".toList
    (by decide) (by rfl) (by decide +kernel) (by decide +kernel)
  have failed : parse "# x\\\nFROM a \\\\\n# c\\\n b\n\\\nUSER \\\n".toList =
      .error (.missingArguments 5 "user".toList) := by rfl
  have written : withBackticks "# x\\\nFROM a \\\\\n# c\\\n b\n\\\nUSER \\\n".toList =
      "# escape=`\n# x\\\nFROM a \\`\n# c\\\n b\n`\nUSER `\n".toList := by decide +kernel
  rw [failed, written] at general
  exact general

end Document
end DockerfileAudit
