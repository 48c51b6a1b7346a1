import DockerfileAudit.Proofs.Statement

/-!
The line grammar of a Dockerfile, without a reader. A layout divides the lines of a document, from
the first to the last, into lines that say nothing, logical lines with the bodies that they open,
and an ending. Every list of lines has a layout.
-/
set_option autoImplicit false

namespace DockerfileAudit

namespace Document

def Silent (line : Text) : Prop :=
  Text.trim line = [] ∨ ∃ comment, Text.trim line = '#' :: comment

theorem is_silent_iff (line : Text) : isSilent (Text.trim line) = true ↔ Silent line := by
  unfold isSilent Silent
  rw [Bool.or_eq_true, List.isEmpty_iff, Text.starts_with_iff]
  simp

instance : DecidablePred Silent := fun line => decidable_of_iff _ (is_silent_iff line)

def Continues (escape : Char) (line : Text) : Prop :=
  (Text.trim line).getLast? = some escape

instance (escape : Char) : DecidablePred (Continues escape) := fun line =>
  inferInstanceAs (Decidable ((Text.trim line).getLast? = some escape))

structure Continued (escape : Char) where
  line : Text
  silent : List Text
  speaks : ¬Silent line
  continues : Continues escape line
  silence : ∀ other ∈ silent, Silent other

namespace Continued

variable {escape : Char}

def lines (continued : Continued escape) : List Text := continued.line :: continued.silent

/-- The line gives up the escape and the blanks before it, and one space takes their place. -/
def piece (continued : Continued escape) : Text :=
  Text.trimEnd (Text.trim continued.line).dropLast ++ [' ']

end Continued

structure LogicalLine (escape : Char) where
  continued : List (Continued escape)
  last : Text
  speaks : ¬Silent last
  complete : ¬Continues escape last

namespace LogicalLine

variable {escape : Char}

def lines (logical : LogicalLine escape) : List Text :=
  logical.continued.flatMap Continued.lines ++ [logical.last]

def text (logical : LogicalLine escape) : Text :=
  logical.continued.flatMap Continued.piece ++ Text.trim logical.last

end LogicalLine

structure OpenLine (escape : Char) where
  continued : List (Continued escape)
  nonempty : continued ≠ []

namespace OpenLine

variable {escape : Char}

def lines (tail : OpenLine escape) : List Text := tail.continued.flatMap Continued.lines

def text (tail : OpenLine escape) : Text := tail.continued.flatMap Continued.piece

end OpenLine

/-- The lines of a heredoc up to the first one that is its word. -/
structure Body where
  heredoc : Heredoc
  content : List Text
  terminator : Text
  unended : ∀ line ∈ content, heredoc.bodyLine line ≠ heredoc.word
  ended : heredoc.bodyLine terminator = heredoc.word

namespace Body

def lines (body : Body) : List Text := body.content ++ [body.terminator]

def text (body : Body) : Text :=
  body.content.flatMap fun line => body.heredoc.bodyLine line ++ ['\n']

end Body

/-- A part of a document after which the reader is between statements. -/
inductive Block (escape : Char) where
  | silent (line : Text) (silence : Silent line)
  | statement (logical : LogicalLine escape) (head : Statement) (bodies : List Body)
      (reads : ∀ number, Statement.ofLine logical.text number = .ok head)
      (opens : Heredoc.opened head = bodies.map Body.heredoc)

namespace Block

variable {escape : Char}

def lines : Block escape → List Text
  | .silent line _ => [line]
  | .statement logical _ bodies _ _ => logical.lines ++ bodies.flatMap Body.lines

/-- The bodies of a statement follow its own arguments. -/
def statements : Block escape → List Statement
  | .silent _ _ => []
  | .statement _ head bodies _ _ => [{ head with args := head.args ++ bodies.map Body.text }]

end Block

/-- What stands after the last block: nothing, a line that continues and never ends, a logical line
that lacks its arguments, or one that opens a body without an end. Behind a failure the lines are
not looked at. -/
inductive Ending (escape : Char) where
  | nothing
  | continued (tail : OpenLine escape)
  | refused (logical : LogicalLine escape) (directive : Text) (rest : List Text)
      (refuses : ∀ number,
        Statement.ofLine logical.text number = .error (.missingArguments number directive))
  | unended (logical : LogicalLine escape) (head : Statement) (bodies : List Body)
      (heredoc : Heredoc) (later : List Heredoc) (rest : List Text)
      (reads : ∀ number, Statement.ofLine logical.text number = .ok head)
      (opens : Heredoc.opened head = bodies.map Body.heredoc ++ heredoc :: later)
      (endless : ∀ line ∈ rest, heredoc.bodyLine line ≠ heredoc.word)

namespace Ending

variable {escape : Char}

def lines : Ending escape → List Text
  | .nothing => []
  | .continued tail => tail.lines
  | .refused logical _ rest _ => logical.lines ++ rest
  | .unended logical _ bodies _ _ rest _ _ _ =>
      logical.lines ++ bodies.flatMap Body.lines ++ rest

/-- The statements of an ending whose first line has this number. A line that never ends is a
statement if it is not blank, and its heredocs have no bodies. -/
def outcome (number : Nat) : Ending escape → Except ParseError (List Statement)
  | .nothing => .ok []
  | .continued tail =>
      if Text.trim tail.text = [] then .ok []
      else (Statement.ofLine (Text.trim tail.text) number).map fun statement => [statement]
  | .refused _ directive _ _ => .error (.missingArguments number directive)
  | .unended _ _ _ heredoc _ _ _ _ _ => .error (.unterminatedHeredoc number heredoc.word)

end Ending

structure Layout (escape : Char) where
  blocks : List (Block escape)
  ending : Ending escape

namespace Layout

variable {escape : Char}

def lines (layout : Layout escape) : List Text :=
  layout.blocks.flatMap Block.lines ++ layout.ending.lines

def outcomeFrom (number : Nat) (layout : Layout escape) : Except ParseError (List Statement) :=
  (layout.ending.outcome (number + (layout.blocks.flatMap Block.lines).length)).map
    (layout.blocks.flatMap Block.statements ++ ·)

def outcome (layout : Layout escape) : Except ParseError (List Statement) :=
  match layout.outcomeFrom 1 with
  | .ok [] => .error .emptyDocument
  | other => other

def cons (block : Block escape) (layout : Layout escape) : Layout escape :=
  ⟨block :: layout.blocks, layout.ending⟩

theorem lines_cons (block : Block escape) (layout : Layout escape) :
    (layout.cons block).lines = block.lines ++ layout.lines := by
  simp [lines, cons]

theorem outcome_ok (layout : Layout escape) (statements : List Statement)
    (accepted : layout.outcome = .ok statements) :
    ∃ number more, layout.ending.outcome number = .ok more ∧
      statements = layout.blocks.flatMap Block.statements ++ more := by
  have read : layout.outcomeFrom 1 = .ok statements := by
    unfold outcome at accepted
    split at accepted
    · simp at accepted
    · exact accepted
  unfold outcomeFrom at read
  cases ended : layout.ending.outcome (1 + (layout.blocks.flatMap Block.lines).length) with
  | error failure =>
      rw [ended] at read
      simp [Except.map] at read
  | ok more =>
      rw [ended] at read
      exact ⟨_, more, ended, (Except.ok.inj read).symm⟩

end Layout

/-- Lines are silent lines, then continued lines, then a rest that starts with a line that speaks
and does not continue. -/
theorem exists_continued (escape : Char) (lines : List Text) :
    ∃ (silent : List Text) (continued : List (Continued escape)) (rest : List Text),
      lines = silent ++ continued.flatMap Continued.lines ++ rest ∧
        (∀ line ∈ silent, Silent line) ∧
          ∀ line ∈ rest.head?, ¬Silent line ∧ ¬Continues escape line := by
  induction lines with
  | nil => exact ⟨[], [], [], by simp, by simp, by simp⟩
  | cons line lines ih =>
      obtain ⟨silent, continued, rest, whole, silence, stops⟩ := ih
      by_cases quiet : Silent line
      · exact ⟨line :: silent, continued, rest, by simp [whole],
          List.forall_mem_cons.mpr ⟨quiet, silence⟩, stops⟩
      · by_cases continues : Continues escape line
        · refine ⟨[], ⟨line, silent, quiet, continues, silence⟩ :: continued, rest, ?_, by simp,
            stops⟩
          simp [whole, Continued.lines]
        · exact ⟨[], [], line :: lines, by simp, by simp, by simp [quiet, continues]⟩

theorem exists_body (heredoc : Heredoc) (lines : List Text) :
    (∃ (body : Body) (rest : List Text), body.heredoc = heredoc ∧ lines = body.lines ++ rest) ∨
      ∀ line ∈ lines, heredoc.bodyLine line ≠ heredoc.word := by
  induction lines with
  | nil => exact Or.inr (by simp)
  | cons line lines ih =>
      by_cases ended : heredoc.bodyLine line = heredoc.word
      · exact Or.inl ⟨⟨heredoc, [], line, by simp, ended⟩, lines, rfl, by simp [Body.lines]⟩
      · rcases ih with ⟨body, rest, rfl, whole⟩ | endless
        · exact Or.inl ⟨⟨body.heredoc, line :: body.content, body.terminator,
            List.forall_mem_cons.mpr ⟨ended, body.unended⟩, body.ended⟩, rest, rfl,
            by simp [whole, Body.lines]⟩
        · exact Or.inr (List.forall_mem_cons.mpr ⟨ended, endless⟩)

theorem exists_bodies (heredocs : List Heredoc) (lines : List Text) :
    ∃ (bodies : List Body) (rest : List Text), lines = bodies.flatMap Body.lines ++ rest ∧
      (heredocs = bodies.map Body.heredoc ∨
        ∃ (heredoc : Heredoc) (later : List Heredoc),
          heredocs = bodies.map Body.heredoc ++ heredoc :: later ∧
            ∀ line ∈ rest, heredoc.bodyLine line ≠ heredoc.word) := by
  induction heredocs generalizing lines with
  | nil => exact ⟨[], lines, by simp, Or.inl rfl⟩
  | cons heredoc later ih =>
      rcases exists_body heredoc lines with ⟨body, rest, rfl, whole⟩ | endless
      · obtain ⟨bodies, rest, rfl, ended⟩ := ih rest
        refine ⟨body :: bodies, rest, by simp [whole], ?_⟩
        rcases ended with all | ⟨missing, others, opened, endless⟩
        · exact Or.inl (by simp [all])
        · exact Or.inr ⟨missing, others, by simp [opened], endless⟩
      · exact ⟨[], lines, by simp, Or.inr ⟨heredoc, later, by simp, endless⟩⟩

theorem exists_logical (escape : Char) (line : Text) (lines : List Text) (speaks : ¬Silent line) :
    (∃ (logical : LogicalLine escape) (rest : List Text),
        line :: lines = logical.lines ++ rest) ∨
      ∃ tail : OpenLine escape, line :: lines = tail.lines := by
  obtain ⟨silent, continued, rest, whole, silence, stops⟩ := exists_continued escape (line :: lines)
  have noneSilent : silent = [] := by
    cases silent with
    | nil => rfl
    | cons first others =>
        simp only [List.cons_append, List.cons.injEq] at whole
        exact absurd (whole.1 ▸ silence first (by simp)) speaks
  subst noneSilent
  cases rest with
  | nil =>
      refine Or.inr ⟨⟨continued, ?_⟩, by simpa [OpenLine.lines] using whole⟩
      rintro rfl
      simp at whole
  | cons last rest =>
      obtain ⟨lastSpeaks, complete⟩ := stops last (by simp)
      exact Or.inl ⟨⟨continued, last, lastSpeaks, complete⟩, rest,
        by simpa [LogicalLine.lines] using whole⟩

theorem exists_layout_logical {escape : Char} (logical : LogicalLine escape) (rest : List Text)
    (shorter : ∀ lines : List Text, lines.length < (logical.lines ++ rest).length →
      ∃ layout : Layout escape, layout.lines = lines) :
    ∃ layout : Layout escape, layout.lines = logical.lines ++ rest := by
  rcases Statement.of_line_any_number logical.text with ⟨head, reads⟩ | ⟨directive, refuses⟩
  · obtain ⟨bodies, rest, rfl, opens | ⟨heredoc, later, opens, endless⟩⟩ :=
      exists_bodies (Heredoc.opened head) rest
    · obtain ⟨layout, same⟩ := shorter rest (by simp [LogicalLine.lines]; omega)
      refine ⟨layout.cons (.statement logical head bodies reads opens), ?_⟩
      simp [Layout.lines_cons, Block.lines, same]
    · refine ⟨⟨[], .unended logical head bodies heredoc later rest reads opens endless⟩, ?_⟩
      simp [Layout.lines, Ending.lines]
  · exact ⟨⟨[], .refused logical directive rest refuses⟩, by simp [Layout.lines, Ending.lines]⟩

theorem exists_layout (escape : Char) (lines : List Text) :
    ∃ layout : Layout escape, layout.lines = lines := by
  -- The induction is on the number of lines, since a block may take many of them.
  induction count : lines.length using Nat.strong_induction_on generalizing lines with
  | _ count ih =>
      subst count
      cases lines with
      | nil => exact ⟨⟨[], .nothing⟩, rfl⟩
      | cons line lines =>
          by_cases quiet : Silent line
          · obtain ⟨layout, same⟩ := ih lines.length (by simp) lines rfl
            exact ⟨layout.cons (.silent line quiet), by simp [Layout.lines_cons, Block.lines, same]⟩
          · rcases exists_logical escape line lines quiet with
              ⟨logical, rest, whole⟩ | ⟨tail, whole⟩
            · rw [whole] at ih ⊢
              exact exists_layout_logical logical rest fun lines less =>
                ih lines.length less lines rfl
            · exact ⟨⟨[], .continued tail⟩, by simp [Layout.lines, Ending.lines, whole]⟩

end Document
end DockerfileAudit
