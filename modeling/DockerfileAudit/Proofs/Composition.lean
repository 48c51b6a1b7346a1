import DockerfileAudit.Proofs.Lines
import DockerfileAudit.Proofs.Reading

/-!
Documents that follow each other. Behind lines that leave no statement open, a document is read as
if it stood alone: its statements are the same and the lines of its failures move by what stands
before it. For this a document must be a list of blocks, so all follows from the layout of the first
text.
-/
set_option autoImplicit false

namespace DockerfileAudit

def ParseError.later (count : Nat) : ParseError → ParseError
  | .missingArguments line directive => .missingArguments (line + count) directive
  | .unterminatedHeredoc line word => .unterminatedHeredoc (line + count) word
  | .emptyDocument => .emptyDocument

theorem Statement.of_line_later (text : Text) (number count : Nat) :
    ofLine text (number + count) = (ofLine text number).mapError (ParseError.later count) := by
  rcases of_line_any_number text with ⟨head, reads⟩ | ⟨directive, refuses⟩
  · rw [reads, reads]
    rfl
  · rw [refuses, refuses]
    rfl

namespace Document

/-- The lines of a document, which begin behind its mark. -/
def contentLines (text : Text) : List Text := Text.lines (withoutMark text)

def escapeIn (text : Text) : Char := escapeOf (contentLines text)

def conclude : Except ParseError (List Statement) → Except ParseError (List Statement)
  | .ok [] => .error .emptyDocument
  | other => other

theorem parse_eq_conclude (text : Text) :
    parse text = conclude (read (escapeIn text) .between 1 (contentLines text)) := by
  unfold parse escapeIn contentLines
  dsimp only
  cases read (escapeOf (Text.lines (withoutMark text))) .between 1
      (Text.lines (withoutMark text)) with
  | error failure => rfl
  | ok statements => cases statements <;> rfl

theorem conclude_ok_iff (found statements : List Statement) :
    conclude (.ok found) = .ok statements ↔ found = statements ∧ statements ≠ [] := by
  cases found with
  | nil =>
      simp only [conclude, reduceCtorEq, false_iff]
      rintro ⟨rfl, nonempty⟩
      exact nonempty rfl
  | cons first others =>
      simp only [conclude, Except.ok.injEq]
      constructor
      · rintro rfl
        exact ⟨rfl, by simp⟩
      · exact fun same => same.1

theorem conclude_ok_error (found : List Statement) (failure : ParseError)
    (fails : conclude (.ok found) = .error failure) : found = [] ∧ failure = .emptyDocument := by
  cases found with
  | nil => exact ⟨rfl, (Except.error.inj fails).symm⟩
  | cons first others => simp [conclude] at fails

section Reading

variable {escape : Char}

theorem Ending.outcome_later (number count : Nat) (ending : Ending escape) :
    ending.outcome (number + count) =
      (ending.outcome number).mapError (ParseError.later count) := by
  cases ending with
  | nothing => rfl
  | continued tail =>
      simp only [outcome]
      split
      · rfl
      · rw [Statement.of_line_later]
        cases Statement.ofLine (Text.trim tail.text) number with
        | error failure => rfl
        | ok statement => rfl
  | refused logical directive rest refuses => rfl
  | unended logical head bodies heredoc later rest reads opens endless => rfl

/-- An ending fails for want of arguments, or behind a complete logical line for want of the end of
a body. -/
theorem Ending.outcome_error_cases (number : Nat) (ending : Ending escape) (failure : ParseError)
    (fails : ending.outcome number = .error failure) :
    (∃ directive, failure = .missingArguments number directive) ∨
      ∃ (logical : LogicalLine escape) (bodies : List Body) (heredoc : Heredoc)
        (later : List Heredoc) (rest : List Text),
        ending.lines = logical.lines ++ bodies.flatMap Body.lines ++ rest ∧
          Heredoc.opened (Statement.draft logical.text) =
            bodies.map Body.heredoc ++ heredoc :: later ∧
          (∀ line ∈ rest, heredoc.bodyLine line ≠ heredoc.word) ∧
          failure = .unterminatedHeredoc number heredoc.word := by
  cases ending with
  | nothing => simp [outcome] at fails
  | continued tail =>
      simp only [outcome] at fails
      split at fails
      · simp at fails
      · rcases Statement.of_line_any_number (Text.trim tail.text) with
          ⟨head, reads⟩ | ⟨directive, refuses⟩
        · simp [reads, Except.map] at fails
        · rw [refuses] at fails
          exact Or.inl ⟨directive, (Except.error.inj fails).symm⟩
  | refused logical directive rest refuses =>
      exact Or.inl ⟨directive, (Except.error.inj fails).symm⟩
  | unended logical head bodies heredoc later rest reads opens endless =>
      have drafted := Statement.eq_draft_of_of_line logical.text 0 head (reads 0)
      subst drafted
      exact Or.inr ⟨logical, bodies, heredoc, later, rest, rfl, opens, endless,
        (Except.error.inj fails).symm⟩

theorem exists_layout_of_read_error (number : Nat) (lines : List Text) (failure : ParseError)
    (fails : read escape .between number lines = .error failure) :
    ∃ layout : Layout escape, layout.lines = lines ∧
      layout.ending.outcome (number + (layout.blocks.flatMap Block.lines).length) =
        .error failure := by
  obtain ⟨layout, rfl⟩ := exists_layout escape lines
  refine ⟨layout, rfl, ?_⟩
  rw [read_layout, Layout.outcomeFrom] at fails
  cases ended : layout.ending.outcome (number + (layout.blocks.flatMap Block.lines).length) with
  | error cause =>
      rw [ended] at fails
      exact fails
  | ok statements =>
      rw [ended] at fails
      simp [Except.map] at fails

theorem read_later (number count : Nat) (lines : List Text) :
    read escape .between (number + count) lines =
      (read escape .between number lines).mapError (ParseError.later count) := by
  obtain ⟨layout, rfl⟩ := exists_layout escape lines
  have moved : number + count + (layout.blocks.flatMap Block.lines).length =
      number + (layout.blocks.flatMap Block.lines).length + count := by omega
  rw [read_layout, read_layout, Layout.outcomeFrom, Layout.outcomeFrom, moved,
    Ending.outcome_later]
  cases layout.ending.outcome (number + (layout.blocks.flatMap Block.lines).length) with
  | error failure => rfl
  | ok statements => rfl

theorem read_ne_empty (number : Nat) (lines : List Text) :
    read escape .between number lines ≠ .error .emptyDocument := by
  intro fails
  obtain ⟨layout, _, ended⟩ := exists_layout_of_read_error number lines _ fails
  rcases layout.ending.outcome_error_cases _ _ ended with
    ⟨directive, impossible⟩ | ⟨_, _, _, _, _, _, _, _, impossible⟩
  · simp at impossible
  · simp at impossible

end Reading

theorem read_of_parse_ok (text : Text) (statements : List Statement)
    (accepted : parse text = .ok statements) :
    read (escapeIn text) .between 1 (contentLines text) = .ok statements := by
  rw [parse_eq_conclude] at accepted
  cases outcome : read (escapeIn text) .between 1 (contentLines text) with
  | error failure =>
      rw [outcome] at accepted
      simp [conclude] at accepted
  | ok found =>
      rw [outcome] at accepted
      rw [((conclude_ok_iff found statements).mp accepted).1]

theorem read_of_parse_error (text : Text) (failure : ParseError)
    (fails : parse text = .error failure) (ordinary : failure ≠ .emptyDocument) :
    read (escapeIn text) .between 1 (contentLines text) = .error failure := by
  rw [parse_eq_conclude] at fails
  cases outcome : read (escapeIn text) .between 1 (contentLines text) with
  | error cause =>
      rw [outcome] at fails
      exact fails
  | ok found =>
      rw [outcome] at fails
      exact absurd (conclude_ok_error found failure fails).2 ordinary

/-- No line continues to the end of the document without an end of its own. -/
def Ending.Closed {escape : Char} : Ending escape → Prop
  | .continued _ => False
  | _ => True

/-- The lines of the document do not end inside of a statement that continues. -/
def Closed (text : Text) : Prop :=
  ∃ layout : Layout (escapeIn text), layout.lines = contentLines text ∧ layout.ending.Closed

theorem closed_of_blocks (text : Text) (blocks : List (Block (escapeIn text)))
    (covers : contentLines text = blocks.flatMap Block.lines) : Closed text :=
  ⟨⟨blocks, .nothing⟩, by simp [Layout.lines, Ending.lines, covers], trivial⟩

/-- A document that leaves no statement open is a list of blocks, or fails whatever follows it, or
waits for the end of a body. -/
theorem Closed.cases {text : Text} (closed : Closed text) :
    (∃ blocks : List (Block (escapeIn text)),
        contentLines text = blocks.flatMap Block.lines) ∨
      (∃ line directive, ∀ rest : List Text,
        read (escapeIn text) .between 1 (contentLines text ++ rest) =
          .error (.missingArguments line directive)) ∨
      ∃ line word, parse text = .error (.unterminatedHeredoc line word) := by
  obtain ⟨⟨blocks, ending⟩, covers, ends⟩ := closed
  cases ending with
  | nothing => exact Or.inl ⟨blocks, by simpa [Layout.lines, Ending.lines] using covers.symm⟩
  | continued tail => exact absurd ends id
  | refused logical directive others refuses =>
      refine Or.inr (Or.inl ⟨1 + (blocks.flatMap Block.lines).length, directive, ?_⟩)
      intro rest
      rw [← covers, Layout.lines, Ending.lines, List.append_assoc, List.append_assoc, read_blocks,
        read_logical, refuses]
      rfl
  | unended logical head bodies heredoc later others reads opens endless =>
      refine Or.inr (Or.inr ⟨1 + (blocks.flatMap Block.lines).length, heredoc.word, ?_⟩)
      rw [parse_eq_conclude, ← covers, read_layout]
      rfl

theorem parse_of_blocks (text : Text) (blocks : List (Block (escapeIn text)))
    (covers : contentLines text = blocks.flatMap Block.lines) :
    parse text = conclude (.ok (blocks.flatMap Block.statements)) := by
  have readAs := read_blocks 1 blocks []
  rw [List.append_nil] at readAs
  rw [parse_eq_conclude, covers, readAs]
  simp [read, finish, Except.map]

theorem exists_blocks_of_parse_ok (text : Text) (statements : List Statement)
    (accepted : parse text = .ok statements) (closed : Closed text) :
    ∃ blocks : List (Block (escapeIn text)), contentLines text = blocks.flatMap Block.lines ∧
      blocks.flatMap Block.statements = statements := by
  rcases closed.cases with ⟨blocks, covers⟩ | ⟨line, directive, fails⟩ |
      ⟨line, word, fails⟩
  · rw [parse_of_blocks text blocks covers] at accepted
    exact ⟨blocks, covers, ((conclude_ok_iff _ _).mp accepted).1⟩
  · have alone := fails []
    rw [List.append_nil, read_of_parse_ok text statements accepted] at alone
    simp at alone
  · rw [accepted] at fails
    simp at fails

theorem content_lines_append (front back : Text) (ended : front.Ended) :
    contentLines (front ++ back) = contentLines front ++ Text.lines back := by
  unfold contentLines
  rw [without_mark_append front back ended.ne_nil,
    Text.lines_append _ back (ended_without_mark front ended)]

theorem length_content_lines (text : Text) (ended : text.Ended) :
    (contentLines text).length = (Text.lines text).length :=
  length_lines_without_mark text ended

/-- The search for the escape stops at the first line that speaks. -/
theorem escape_of_append (front back : List Text) (line : Text) (member : line ∈ front)
    (speaks : ¬Silent line) : escapeOf (front ++ back) = escapeOf front := by
  induction front with
  | nil => simp at member
  | cons first others ih =>
      rw [List.cons_append, escapeOf, escapeOf]
      cases comment : Text.after? ['#'] (Text.trim first) with
      | none => rfl
      | some text =>
          have silent : Silent first := Or.inr ⟨text, (Text.after_eq_some_iff _ _ _).mp comment⟩
          have later : line ∈ others := by
            rcases List.mem_cons.mp member with rfl | later
            · exact absurd silent speaks
            · exact later
          simp only [ih later]

theorem exists_speaking_of_parse_ok (text : Text) (statements : List Statement)
    (accepted : parse text = .ok statements) : ∃ line ∈ contentLines text, ¬Silent line := by
  by_contra quiet
  have silence : ∀ line ∈ contentLines text, Silent line := by
    intro line member
    by_contra speaks
    exact quiet ⟨line, member, speaks⟩
  have readAs : read (escapeIn text) .between 1 (contentLines text ++ []) = _ :=
    read_silent 1 (contentLines text) [] .between rfl silence
  rw [List.append_nil] at readAs
  rw [parse_eq_conclude, readAs] at accepted
  simp [read, finish, conclude] at accepted

theorem escape_in_append (front back : Text) (ended : front.Ended) (statements : List Statement)
    (accepted : parse front = .ok statements) : escapeIn (front ++ back) = escapeIn front := by
  obtain ⟨line, member, speaks⟩ := exists_speaking_of_parse_ok front statements accepted
  rw [escapeIn, content_lines_append front back ended]
  exact escape_of_append _ _ line member speaks

/-- Behind blocks a document comes to their statements and then to its own outcome. -/
theorem parse_append_of_blocks (front back : Text) (ended : front.Ended)
    (unmarked : back.head? ≠ some (Char.ofNat 0xFEFF)) (sameBack : escapeIn back = escapeIn front)
    (sameWhole : escapeIn (front ++ back) = escapeIn front)
    (blocks : List (Block (escapeIn front)))
    (covers : contentLines front = blocks.flatMap Block.lines) :
    ∃ outcome, parse back = conclude outcome ∧ outcome ≠ .error .emptyDocument ∧
      parse (front ++ back) =
        conclude ((outcome.mapError (ParseError.later (Text.lines front).length)).map
          (blocks.flatMap Block.statements ++ ·)) := by
  refine ⟨read (escapeIn front) .between 1 (Text.lines back), ?_, read_ne_empty 1 _, ?_⟩
  · rw [parse_eq_conclude, sameBack, contentLines, without_mark_of_head back unmarked]
  · rw [parse_eq_conclude, sameWhole, content_lines_append front back ended, covers, read_blocks,
      read_later, ← covers, length_content_lines front ended]

theorem conclude_behind (statements : List Statement) (nonempty : statements ≠ []) (count : Nat)
    (outcome : Except ParseError (List Statement)) (ordinary : outcome ≠ .error .emptyDocument) :
    conclude ((outcome.mapError (ParseError.later count)).map (statements ++ ·)) =
      match conclude outcome with
      | .ok more => .ok (statements ++ more)
      | .error .emptyDocument => .ok statements
      | .error failure => .error (failure.later count) := by
  cases outcome with
  | error failure =>
      cases failure with
      | missingArguments line directive => rfl
      | unterminatedHeredoc line word => rfl
      | emptyDocument => exact absurd rfl ordinary
  | ok more =>
      have some : statements ++ more ≠ [] := by simp [nonempty]
      have whole := (conclude_ok_iff (statements ++ more) _).mpr ⟨rfl, some⟩
      cases more with
      | nil => simpa [Except.map, Except.mapError, conclude] using whole
      | cons first others => exact whole

theorem conclude_later (count : Nat) (outcome : Except ParseError (List Statement)) :
    conclude ((outcome.mapError (ParseError.later count)).map ([] ++ ·)) =
      (conclude outcome).mapError (ParseError.later count) := by
  cases outcome with
  | error failure => rfl
  | ok more => cases more <;> rfl

/-- Parsing goes document by document. Behind a document that leaves nothing open, a second one
adds its statements, or nothing if it has none, or its failure at a later line; and a first document
that fails for want of arguments fails whatever follows. -/
theorem parse_append (front back : Text) (ended : front.Ended) (closed : Closed front)
    (unmarked : back.head? ≠ some (Char.ofNat 0xFEFF)) (sameBack : escapeIn back = escapeIn front)
    (sameWhole : escapeIn (front ++ back) = escapeIn front) :
    (∀ statements, parse front = .ok statements →
      parse (front ++ back) =
        match parse back with
        | .ok more => .ok (statements ++ more)
        | .error .emptyDocument => .ok statements
        | .error failure => .error (failure.later (Text.lines front).length)) ∧
      (∀ line directive, parse front = .error (.missingArguments line directive) →
        parse (front ++ back) = .error (.missingArguments line directive)) ∧
      (parse front = .error .emptyDocument →
        parse (front ++ back) =
          (parse back).mapError (ParseError.later (Text.lines front).length)) := by
  rcases closed.cases with ⟨blocks, covers⟩ | ⟨line, directive, fails⟩ |
      ⟨line, word, fails⟩
  · have frontParse := parse_of_blocks front blocks covers
    obtain ⟨outcome, backParse, ordinary, wholeParse⟩ :=
      parse_append_of_blocks front back ended unmarked sameBack sameWhole blocks covers
    rw [frontParse, backParse, wholeParse]
    refine ⟨?_, ?_, ?_⟩
    · intro statements accepted
      obtain ⟨same, nonempty⟩ := (conclude_ok_iff _ _).mp accepted
      rw [same]
      exact conclude_behind statements nonempty _ outcome ordinary
    · intro line directive refused
      have impossible := (conclude_ok_error _ _ refused).2
      simp at impossible
    · intro empty
      rw [(conclude_ok_error _ _ empty).1]
      exact conclude_later _ outcome
  · have frontParse : parse front = .error (.missingArguments line directive) := by
      have alone := fails []
      rw [List.append_nil] at alone
      rw [parse_eq_conclude, alone]
      rfl
    have wholeParse : parse (front ++ back) = .error (.missingArguments line directive) := by
      rw [parse_eq_conclude, sameWhole, content_lines_append front back ended, fails]
      rfl
    rw [frontParse, wholeParse]
    simp
  · rw [fails]
    simp

def Block.ofBaseImage : Block backslash :=
  .statement ⟨[], "FROM a".toList, by decide, by decide⟩ ⟨"from".toList, [], ["a".toList]⟩ []
    (Statement.of_line_eq_ok _ _ (by decide +kernel) rfl) rfl

def Block.ofEscapedBody : Block backslash :=
  .statement ⟨[], "RUN <<E".toList, by decide, by decide⟩ ⟨"run".toList, [], ["<<E".toList]⟩
    [⟨⟨"E".toList, false⟩, ["\\".toList], "E".toList, by decide, by decide⟩]
    (Statement.of_line_eq_ok _ _ (by decide +kernel) rfl) (by decide +kernel)

theorem parse_append_late_failure :
    parse ("FROM a\nRUN <<E\n\\\nE\n".toList ++ "RUN <<E\nUSER\n".toList) =
      .error (.unterminatedHeredoc 5 "E".toList) := by
  have closed : Closed "FROM a\nRUN <<E\n\\\nE\n".toList :=
    closed_of_blocks _ [Block.ofBaseImage, Block.ofEscapedBody] (by decide +kernel)
  have general := parse_append "FROM a\nRUN <<E\n\\\nE\n".toList "RUN <<E\nUSER\n".toList
    (by decide) closed (by decide) (by rfl) (by rfl)
  exact general.1 [⟨"from".toList, [], ["a".toList]⟩,
    ⟨"run".toList, [], ["<<E".toList, "\\\n".toList]⟩] (by rfl)

end Document
end DockerfileAudit
