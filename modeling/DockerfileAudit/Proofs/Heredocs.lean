import DockerfileAudit.Proofs.Composition
import Mathlib.Data.List.Basic

/-!
What becomes of the heredocs that a document opens. A complete logical line gets one body for each
of them, or the document fails at the first that has no end; lines that continue to the end of the
document are read without bodies, whatever they open. Inside of a body nothing is looked at but its
end, so any lines may stand there.
-/
set_option autoImplicit false

namespace DockerfileAudit

/-- Heredocs are opened by arguments, so a line that opens one does not lack any. -/
theorem Statement.of_line_of_opened (text : Text) (opens : Heredoc.opened (draft text) ≠ [])
    (number : Nat) : ofLine text number = .ok (draft text) := by
  have given : (draft text).args ≠ [] := by
    intro none
    apply opens
    simp [Heredoc.opened, none]
  apply of_line_eq_ok text (draft text) rfl
  simp [given]

namespace Heredoc

theorem named_word (dropTabs : Bool) (text : Text) (heredoc : Heredoc)
    (found : named dropTabs text = some heredoc) :
    heredoc.word ≠ [] ∧ ∀ c ∈ heredoc.word, isWordChar c = true := by
  unfold named at found
  dsimp only at found
  split at found
  · simp at found
  · rename_i proper
    rw [← Option.some.inj found]
    simpa using proper

theorem opened_word (statement : Statement) (heredoc : Heredoc)
    (member : heredoc ∈ opened statement) :
    heredoc.word ≠ [] ∧ ∀ c ∈ heredoc.word, isWordChar c = true := by
  unfold opened at member
  split at member
  · obtain ⟨word, _, found⟩ := List.mem_filterMap.mp member
    unfold ofWord? at found
    split at found
    · exact named_word _ _ heredoc found
    · exact named_word _ _ heredoc found
    · simp at found
  · simp at member

theorem body_line_suffix (heredoc : Heredoc) (line : Text) :
    ∃ tabs, (∀ c ∈ tabs, c = '\t') ∧ line = tabs ++ heredoc.bodyLine line := by
  unfold bodyLine
  split
  · refine ⟨line.takeWhile (· = '\t'), ?_, List.takeWhile_append_dropWhile.symm⟩
    intro c member
    simpa using List.mem_takeWhile_imp member
  · exact ⟨[], by simp, rfl⟩

end Heredoc

namespace Document

theorem Body.terminator_is_line (body : Body) (statement : Statement)
    (opened : body.heredoc ∈ Heredoc.opened statement) : Text.IsLine body.terminator := by
  obtain ⟨nonempty, proper⟩ := Heredoc.opened_word statement body.heredoc opened
  obtain ⟨tabs, blank, whole⟩ := body.heredoc.body_line_suffix body.terminator
  rw [body.ended] at whole
  rw [whole]
  constructor
  · intro feed
    rcases List.mem_append.mp feed with tab | inside
    · exact absurd (blank _ tab) (by decide)
    · exact absurd (proper _ inside) (by decide)
  · rw [List.getLast?_append_of_ne_nil _ nonempty]
    intro last
    exact absurd (proper _ (List.mem_of_getLast? last)) (by decide)

theorem Body.is_line_of_mem (body : Body) (statement : Statement)
    (opened : body.heredoc ∈ Heredoc.opened statement)
    (proper : ∀ line ∈ body.content, Text.IsLine line) (line : Text) (member : line ∈ body.lines) :
    Text.IsLine line := by
  rcases List.mem_append.mp member with content | terminator
  · exact proper line content
  · rw [List.mem_singleton.mp terminator]
    exact body.terminator_is_line statement opened

section Accounts

variable {escape : Char}

/-- A logical line with the text `line` stands behind `blocks` and in front of `rest`: its heredocs
have their bodies at the start of `rest`, and its statement has these after its own arguments. -/
def Accounted (statements : List Statement) (blocks : List (Block escape)) (line : Text)
    (rest : List Text) : Prop :=
  ∃ (bodies : List Body) (after : List Text),
    Heredoc.opened (Statement.draft line) = bodies.map Body.heredoc ∧
      rest = bodies.flatMap Body.lines ++ after ∧
        statements[(blocks.flatMap Block.statements).length]? =
          some { Statement.draft line with
            args := (Statement.draft line).args ++ bodies.map Body.text }

theorem read_unended (number : Nat) (blocks : List (Block escape)) (logical : LogicalLine escape)
    (bodies : List Body) (heredoc : Heredoc) (later : List Heredoc) (rest : List Text)
    (opens : Heredoc.opened (Statement.draft logical.text) =
      bodies.map Body.heredoc ++ heredoc :: later)
    (endless : ∀ line ∈ rest, heredoc.bodyLine line ≠ heredoc.word) :
    read escape .between number
        (blocks.flatMap Block.lines ++ logical.lines ++ bodies.flatMap Body.lines ++ rest) =
      .error (.unterminatedHeredoc (number + (blocks.flatMap Block.lines).length)
        heredoc.word) := by
  have reads := Statement.of_line_of_opened logical.text (by simp [opens])
  have readAs := read_layout number
    ⟨blocks, .unended logical _ bodies heredoc later rest reads opens endless⟩
  simpa [Layout.lines, Ending.lines, Layout.outcomeFrom, Ending.outcome, Except.map]
    using readAs

theorem read_ended (number : Nat) (blocks : List (Block escape)) (logical : LogicalLine escape)
    (bodies : List Body) (rest : List Text)
    (reads : ∀ number, Statement.ofLine logical.text number = .ok (Statement.draft logical.text))
    (opens : Heredoc.opened (Statement.draft logical.text) = bodies.map Body.heredoc) :
    read escape .between number
        (blocks.flatMap Block.lines ++ logical.lines ++ (bodies.flatMap Body.lines ++ rest)) =
      (read escape .between (number + (blocks.flatMap Block.lines ++
          (logical.lines ++ bodies.flatMap Body.lines)).length) rest).map
        (blocks.flatMap Block.statements ++ [{ Statement.draft logical.text with
          args := (Statement.draft logical.text).args ++ bodies.map Body.text }] ++ ·) := by
  have readAs := read_blocks number (blocks ++ [.statement logical _ bodies reads opens]) rest
  simp only [List.flatMap_append, List.flatMap_cons, List.flatMap_nil, Block.lines,
    Block.statements, List.append_nil] at readAs
  rw [← readAs]
  simp only [List.append_assoc]

theorem read_tail (number : Nat) (blocks : List (Block escape)) (tail : OpenLine escape)
    (unblank : Text.trim tail.text ≠ []) :
    read escape .between number (blocks.flatMap Block.lines ++ tail.lines) =
      (Statement.ofLine (Text.trim tail.text)
        (number + (blocks.flatMap Block.lines).length)).map fun statement =>
          blocks.flatMap Block.statements ++ [statement] := by
  have readAs := read_layout number ⟨blocks, .continued tail⟩
  simp only [Layout.lines, Ending.lines, Layout.outcomeFrom, Ending.outcome, if_neg unblank]
    at readAs
  rw [readAs]
  cases Statement.ofLine (Text.trim tail.text)
      (number + (blocks.flatMap Block.lines).length) with
  | error failure => rfl
  | ok statement => rfl

theorem accounted_logical (number : Nat) (statements : List Statement)
    (blocks : List (Block escape)) (logical : LogicalLine escape) (rest : List Text)
    (accepted : read escape .between number
      (blocks.flatMap Block.lines ++ logical.lines ++ rest) = .ok statements) :
    Accounted statements blocks logical.text rest := by
  rcases Statement.of_line_any_number logical.text with ⟨head, reads⟩ | ⟨directive, refuses⟩
  · have drafted := Statement.eq_draft_of_of_line logical.text 0 head (reads 0)
    subst drafted
    obtain ⟨bodies, after, rfl, opens | ⟨heredoc, later, opens, endless⟩⟩ :=
      exists_bodies (Heredoc.opened (Statement.draft logical.text)) rest
    · refine ⟨bodies, after, opens, rfl, ?_⟩
      rw [read_ended number blocks logical bodies after reads opens] at accepted
      cases outcome : read escape .between (number + (blocks.flatMap Block.lines ++
          (logical.lines ++ bodies.flatMap Body.lines)).length) after with
      | error failure =>
          rw [outcome] at accepted
          simp [Except.map] at accepted
      | ok more =>
          rw [outcome] at accepted
          rw [← Except.ok.inj accepted]
          simp
    · rw [← List.append_assoc, read_unended number blocks logical bodies heredoc later _ opens
        endless] at accepted
      simp at accepted
  · rw [List.append_assoc, read_blocks, read_logical, refuses] at accepted
    simp [Except.bind, Except.map] at accepted

theorem accounted_tail_iff (number : Nat) (statements : List Statement)
    (blocks : List (Block escape)) (tail : OpenLine escape) (unblank : Text.trim tail.text ≠ [])
    (accepted : read escape .between number (blocks.flatMap Block.lines ++ tail.lines) =
      .ok statements) :
    Accounted statements blocks (Text.trim tail.text) [] ↔
      Heredoc.opened (Statement.draft (Text.trim tail.text)) = [] := by
  constructor
  · rintro ⟨bodies, after, opens, whole, _⟩
    -- Every body has a line at least, its end, and here no line follows.
    cases bodies with
    | nil => exact opens
    | cons body bodies => simp [Body.lines] at whole
  · intro opensNone
    refine ⟨[], [], opensNone, rfl, ?_⟩
    rw [read_tail number blocks tail unblank] at accepted
    cases reads : Statement.ofLine (Text.trim tail.text)
        (number + (blocks.flatMap Block.lines).length) with
    | error failure =>
        rw [reads] at accepted
        simp [Except.map] at accepted
    | ok statement =>
        rw [reads] at accepted
        rw [← Except.ok.inj accepted, Statement.eq_draft_of_of_line _ _ _ reads]
        simp

/-- Reading fails for want of an end only behind a logical line that is complete. -/
theorem exists_unended_of_read (number line : Nat) (word : Text) (lines : List Text)
    (fails : read escape .between number lines = .error (.unterminatedHeredoc line word)) :
    ∃ (blocks : List (Block escape)) (logical : LogicalLine escape) (bodies : List Body)
      (heredoc : Heredoc) (later : List Heredoc) (rest : List Text),
      lines =
          blocks.flatMap Block.lines ++ logical.lines ++ bodies.flatMap Body.lines ++ rest ∧
        Heredoc.opened (Statement.draft logical.text) =
          bodies.map Body.heredoc ++ heredoc :: later ∧
        (∀ other ∈ rest, heredoc.bodyLine other ≠ heredoc.word) ∧
        line = number + (blocks.flatMap Block.lines).length ∧ word = heredoc.word := by
  obtain ⟨layout, rfl, ended⟩ := exists_layout_of_read_error number lines _ fails
  rcases layout.ending.outcome_error_cases _ _ ended with
    ⟨directive, impossible⟩ | ⟨logical, bodies, heredoc, later, rest, whole, opens, endless, same⟩
  · simp at impossible
  · obtain ⟨sameLine, sameWord⟩ := ParseError.unterminatedHeredoc.inj same
    refine ⟨layout.blocks, logical, bodies, heredoc, later, rest, ?_, opens, endless, sameLine,
      sameWord⟩
    simp only [Layout.lines, whole, List.append_assoc]

end Accounts

/-- In a document that is accepted every complete logical line has a body for each heredoc that it
opens, and a line that never ends has them only if it opens none. A document fails for want of an
end exactly if a complete logical line opens a heredoc that reaches the end of the document, the
first such heredoc of the first such line. A line that never ends is accepted with the heredocs that
it opens, without a body for any. -/
theorem heredocs_accounted_or_unended (text : Text) :
    (∀ statements, parse text = .ok statements → ∀ blocks : List (Block (escapeIn text)),
        (∀ (logical : LogicalLine (escapeIn text)) (rest : List Text),
          contentLines text = blocks.flatMap Block.lines ++ logical.lines ++ rest →
            Accounted statements blocks logical.text rest) ∧
          ∀ tail : OpenLine (escapeIn text),
            contentLines text = blocks.flatMap Block.lines ++ tail.lines →
              Text.trim tail.text ≠ [] →
                (Accounted statements blocks (Text.trim tail.text) [] ↔
                  Heredoc.opened (Statement.draft (Text.trim tail.text)) = [])) ∧
      (∀ number word, parse text = .error (.unterminatedHeredoc number word) ↔
        ∃ (blocks : List (Block (escapeIn text))) (logical : LogicalLine (escapeIn text))
          (bodies : List Body) (heredoc : Heredoc) (later : List Heredoc) (rest : List Text),
          contentLines text =
              blocks.flatMap Block.lines ++ logical.lines ++ bodies.flatMap Body.lines ++ rest ∧
            Heredoc.opened (Statement.draft logical.text) =
              bodies.map Body.heredoc ++ heredoc :: later ∧
            (∀ line ∈ rest, heredoc.bodyLine line ≠ heredoc.word) ∧
            number = 1 + (blocks.flatMap Block.lines).length ∧ word = heredoc.word) ∧
      ∀ (blocks : List (Block (escapeIn text))) (tail : OpenLine (escapeIn text)),
        contentLines text = blocks.flatMap Block.lines ++ tail.lines →
          Heredoc.opened (Statement.draft (Text.trim tail.text)) ≠ [] →
            parse text = .ok (blocks.flatMap Block.statements ++
              [Statement.draft (Text.trim tail.text)]) := by
  refine ⟨?_, ?_, ?_⟩
  · intro statements accepted blocks
    have readAs := read_of_parse_ok text statements accepted
    refine ⟨?_, ?_⟩
    · intro logical rest covers
      rw [covers] at readAs
      exact accounted_logical 1 statements blocks logical rest readAs
    · intro tail covers unblank
      rw [covers] at readAs
      exact accounted_tail_iff 1 statements blocks tail unblank readAs
  · intro number word
    constructor
    · intro fails
      exact exists_unended_of_read 1 number word _ (read_of_parse_error text _ fails (by simp))
    · rintro ⟨blocks, logical, bodies, heredoc, later, rest, covers, opens, endless, rfl, rfl⟩
      rw [parse_eq_conclude, covers,
        read_unended 1 blocks logical bodies heredoc later rest opens endless]
      rfl
  · intro blocks tail covers opens
    have unblank : Text.trim tail.text ≠ [] := by
      intro blank
      rw [blank] at opens
      exact opens (by rfl)
    have readAs := read_tail 1 blocks tail unblank
    rw [Statement.of_line_of_opened _ opens] at readAs
    rw [parse_eq_conclude, covers, readAs]
    exact (conclude_ok_iff _ _).mpr ⟨rfl, by simp⟩

/-- The heredoc has no end and no body, and yet the document is accepted. -/
theorem heredoc_in_open_line_is_accepted :
    parse "FROM a\nRUN cat <<EOF \\\n".toList =
        .ok [⟨"from".toList, [], ["a".toList]⟩, ⟨"run".toList, [], ["cat <<EOF".toList]⟩] ∧
      Heredoc.opened ⟨"run".toList, [], ["cat <<EOF".toList]⟩ = [⟨"EOF".toList, false⟩] :=
  ⟨by rfl, by decide +kernel⟩

def OpenLine.ofHeredoc : OpenLine backslash :=
  ⟨[⟨"RUN cat <<EOF \\".toList, [], by decide, by decide, List.forall_mem_nil _⟩], by simp⟩

theorem heredocs_accounted_or_unended_open_line :
    parse "FROM a\nRUN cat <<EOF \\\n".toList =
        .ok [⟨"from".toList, [], ["a".toList]⟩, ⟨"run".toList, [], ["cat <<EOF".toList]⟩] ∧
      ¬Accounted [⟨"from".toList, [], ["a".toList]⟩, ⟨"run".toList, [], ["cat <<EOF".toList]⟩]
        [Block.ofBaseImage] "RUN cat <<EOF".toList [] := by
  have general := heredocs_accounted_or_unended "FROM a\nRUN cat <<EOF \\\n".toList
  have covers : contentLines "FROM a\nRUN cat <<EOF \\\n".toList =
      [Block.ofBaseImage].flatMap Block.lines ++ OpenLine.ofHeredoc.lines := by decide +kernel
  have opens : Heredoc.opened (Statement.draft (Text.trim OpenLine.ofHeredoc.text)) ≠ [] := by
    decide +kernel
  have accepted := general.2.2 [Block.ofBaseImage] OpenLine.ofHeredoc covers opens
  refine ⟨accepted, ?_⟩
  intro accounted
  exact opens (((general.1 _ accepted [Block.ofBaseImage]).2 OpenLine.ofHeredoc covers
    (by decide +kernel)).mp accounted)

/-- Nothing in the bodies of a statement has an effect but their ends. Behind an accepted document
that leaves nothing open, and in front of lines that can be read with the same escape, a logical
line that opens heredocs and the bodies of these come to one statement. -/
theorem parse_around_bodies (front back : Text) (before after : List Statement)
    (accepted : parse front = .ok before) (ended : front.Ended) (closed : Closed front)
    (logical : LogicalLine (escapeIn front)) (bodies : List Body) (nonempty : bodies ≠ [])
    (opens : Heredoc.opened (Statement.draft logical.text) = bodies.map Body.heredoc)
    (logicalProper : ∀ line ∈ logical.lines, Text.IsLine line)
    (bodiesProper : ∀ body ∈ bodies, ∀ line ∈ body.content, Text.IsLine line)
    (follows : read (escapeIn front) .between 1 (Text.lines back) = .ok after) :
    parse (front ++ (Text.unlines (logical.lines ++ bodies.flatMap Body.lines) ++ back)) =
      .ok (before ++ { Statement.draft logical.text with
        args := (Statement.draft logical.text).args ++ bodies.map Body.text } :: after) := by
  obtain ⟨blocks, covers, rfl⟩ := exists_blocks_of_parse_ok front before accepted closed
  have reads := Statement.of_line_of_opened logical.text (by simp [opens, nonempty])
  have proper : ∀ line ∈ logical.lines ++ bodies.flatMap Body.lines, Text.IsLine line := by
    intro line member
    rcases List.mem_append.mp member with own | inside
    · exact logicalProper line own
    · obtain ⟨body, among, here⟩ := List.mem_flatMap.mp inside
      have opened : body.heredoc ∈ Heredoc.opened (Statement.draft logical.text) := by
        rw [opens]
        exact List.mem_map_of_mem among
      exact body.is_line_of_mem _ opened (bodiesProper body among) line here
  have allLines : contentLines
      (front ++ (Text.unlines (logical.lines ++ bodies.flatMap Body.lines) ++ back)) =
        blocks.flatMap Block.lines ++ logical.lines ++
          (bodies.flatMap Body.lines ++ Text.lines back) := by
    rw [content_lines_append front _ ended, Text.lines_unlines_append _ back proper, covers]
    simp only [List.append_assoc]
  rw [parse_eq_conclude, escape_in_append front _ ended _ accepted, allLines,
    read_ended 1 blocks logical bodies _ reads opens, read_later, follows]
  exact (conclude_ok_iff _ _).mpr ⟨by simp, by simp⟩

def LogicalLine.ofTwoHeredocs : LogicalLine backslash :=
  ⟨[], "RUN <<A <<-B".toList, by decide, by decide⟩

/-- Lines that would be a statement, a comment, nothing, a continued line, a heredoc and an end
behind a tab. -/
def Body.ofInstructions : Body :=
  ⟨⟨"A".toList, false⟩, ["USER".toList, "# c".toList, [], "y \\".toList, "RUN <<C".toList,
    "\tA".toList], "A".toList, by decide, by decide⟩

def Body.ofTabs : Body :=
  ⟨⟨"B".toList, true⟩, ["\t\tADD".toList], "\tB".toList, by decide, by decide⟩

theorem parse_around_bodies_of_instructions :
    parse ("FROM a\n".toList ++ (Text.unlines (LogicalLine.ofTwoHeredocs.lines ++
        [Body.ofInstructions, Body.ofTabs].flatMap Body.lines) ++ "USER u".toList)) =
      .ok [⟨"from".toList, [], ["a".toList]⟩,
        ⟨"run".toList, [], ["<<A <<-B".toList, "USER\n# c\n\ny \\\nRUN <<C\n\tA\n".toList,
          "ADD\n".toList]⟩,
        ⟨"user".toList, [], ["u".toList]⟩] := by
  have closed : Closed "FROM a\n".toList :=
    closed_of_blocks _ [Block.ofBaseImage] (by decide +kernel)
  exact parse_around_bodies "FROM a\n".toList "USER u".toList [⟨"from".toList, [], ["a".toList]⟩]
    [⟨"user".toList, [], ["u".toList]⟩] (by rfl) (by decide) closed LogicalLine.ofTwoHeredocs
    [Body.ofInstructions, Body.ofTabs] (by simp) (by decide +kernel) (by decide +kernel)
    (by decide +kernel) (by rfl)

end Document
end DockerfileAudit
