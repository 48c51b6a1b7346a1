import DockerfileAudit.Proofs.Layout

/-!
Which statements of a document have a directive. A logical line that begins with the escape alone
has none: the space that stands for that line is taken for the end of an empty first word. Every
other statement has one, and so has the statement of a line that never ends, since its text is
trimmed.
-/
set_option autoImplicit false

namespace DockerfileAudit
namespace Document

variable {escape : Char}

/-- The first of the lines holds nothing but the escape. -/
def LogicalLine.BeginsAlone (logical : LogicalLine escape) : Prop :=
  ∃ first ∈ logical.continued.head?, Text.trim first.line = [escape]

/-- The text of a continued line starts as the line does, unless the line is the escape alone. -/
theorem Continued.piece_starts (continued : Continued escape) :
    (Text.trim continued.line = [escape] ∧ continued.piece = [' ']) ∨
      ∃ c rest, Text.trim continued.line ≠ [escape] ∧ continued.piece = c :: rest ∧
        Text.isBlank c = false := by
  obtain ⟨head, whole⟩ := List.getLast?_eq_some_iff.mp continued.continues
  have dropped : (Text.trim continued.line).dropLast = head := by simp [whole]
  cases head with
  | nil =>
      refine Or.inl ⟨by simpa using whole, ?_⟩
      simp [piece, dropped, Text.trimEnd]
  | cons c more =>
      have unblank := Text.trim_starts_unblank continued.line c (more ++ [escape]) whole
      have shape : ∃ rest, Text.trimEnd (c :: more) = c :: rest := by
        obtain ⟨blanks, parts⟩ := Text.trim_end_prefix (c :: more)
        cases kept : Text.trimEnd (c :: more) with
        | nil =>
            have blank := (Text.trim_end_eq_nil_iff _).mp kept c (by simp)
            rw [unblank] at blank
            simp at blank
        | cons d rest =>
            rw [kept] at parts
            simp only [List.cons_append, List.cons.injEq] at parts
            exact ⟨rest, by rw [parts.1]⟩
      obtain ⟨rest, starts⟩ := shape
      refine Or.inr ⟨c, rest ++ [' '], by simp [whole], ?_, unblank⟩
      simp [piece, dropped, starts]

theorem LogicalLine.directive_eq_nil_iff (logical : LogicalLine escape) :
    (Statement.draft logical.text).directive = [] ↔ logical.BeginsAlone := by
  rw [Statement.draft_directive_eq_nil_iff]
  unfold text BeginsAlone
  cases logical.continued with
  | nil =>
      have unblank : (Statement.splitDirective (Text.trim logical.last)).1 ≠ [] := by
        cases trimmed : Text.trim logical.last with
        | nil => exact absurd (Or.inl trimmed) logical.speaks
        | cons c rest =>
            exact Statement.split_directive_unblank_start c rest
              (Text.trim_starts_unblank _ c rest trimmed)
      simp [unblank]
  | cons first others =>
      rcases first.piece_starts with ⟨alone, space⟩ | ⟨c, rest, company, starts, unblank⟩
      · have empty := Statement.split_directive_blank_start ' '
          (others.flatMap Continued.piece ++ Text.trim logical.last) (by decide)
        simp [alone, space, empty]
      · have named := Statement.split_directive_unblank_start c
          (rest ++ (others.flatMap Continued.piece ++ Text.trim logical.last)) unblank
        simp [company, starts, named]

def Block.logicalLines : Block escape → List (LogicalLine escape)
  | .silent _ _ => []
  | .statement logical _ _ _ _ => [logical]

theorem Block.parsed (block : Block escape) (statement : Statement)
    (member : statement ∈ block.statements) : statement.Parsed := by
  cases block with
  | silent line silence => simp [statements] at member
  | statement logical head bodies reads opens =>
      rw [statements, List.mem_singleton] at member
      refine ⟨logical.text, ?_⟩
      rw [member, Statement.eq_draft_of_of_line _ _ _ (reads 0)]

theorem Block.all_named_iff (block : Block escape) :
    (∀ statement ∈ block.statements, statement.directive ≠ []) ↔
      ∀ logical ∈ block.logicalLines, ¬logical.BeginsAlone := by
  cases block with
  | silent line silence => simp [statements, logicalLines]
  | statement logical head bodies reads opens =>
      have same := Statement.eq_draft_of_of_line _ _ _ (reads 0)
      simp only [statements, logicalLines, List.mem_singleton, forall_eq, same, ne_eq,
        logical.directive_eq_nil_iff]

/-- A statement at the end of the document is read from trimmed text, so it has a directive. -/
theorem Ending.parsed (ending : Ending escape) (number : Nat) (more : List Statement)
    (accepted : ending.outcome number = .ok more) (statement : Statement)
    (member : statement ∈ more) : statement.Parsed ∧ statement.directive ≠ [] := by
  cases ending with
  | nothing =>
      simp only [outcome, Except.ok.injEq] at accepted
      simp [← accepted] at member
  | continued tail =>
      simp only [outcome] at accepted
      split at accepted
      · simp only [Except.ok.injEq] at accepted
        simp [← accepted] at member
      · rename_i unblank
        cases reads : Statement.ofLine (Text.trim tail.text) number with
        | error failure => simp [reads, Except.map] at accepted
        | ok head =>
            rw [reads] at accepted
            simp only [Except.map, Except.ok.injEq] at accepted
            rw [← accepted, List.mem_singleton] at member
            have same := Statement.eq_draft_of_of_line _ _ _ reads
            refine ⟨⟨Text.trim tail.text, by rw [member, same]⟩, ?_⟩
            obtain ⟨c, rest, trimmed⟩ := List.exists_cons_of_ne_nil unblank
            rw [member, same, ne_eq, Statement.draft_directive_eq_nil_iff, trimmed]
            exact Statement.split_directive_unblank_start c rest
              (Text.trim_starts_unblank _ c rest trimmed)
  | refused logical directive rest refuses => simp [outcome] at accepted
  | unended logical head bodies heredoc later rest reads opens endless =>
      simp [outcome] at accepted

theorem Layout.parsed (layout : Layout escape) (statements : List Statement)
    (accepted : layout.outcome = .ok statements) (statement : Statement)
    (member : statement ∈ statements) : statement.Parsed := by
  obtain ⟨number, more, ended, rfl⟩ := layout.outcome_ok statements accepted
  rcases List.mem_append.mp member with early | late
  · obtain ⟨block, _, inside⟩ := List.mem_flatMap.mp early
    exact block.parsed statement inside
  · exact (layout.ending.parsed number more ended statement late).1

theorem Layout.all_named_iff (layout : Layout escape) (statements : List Statement)
    (accepted : layout.outcome = .ok statements) :
    (∀ statement ∈ statements, statement.directive ≠ []) ↔
      ∀ block ∈ layout.blocks, ∀ logical ∈ block.logicalLines, ¬logical.BeginsAlone := by
  obtain ⟨number, more, ended, rfl⟩ := layout.outcome_ok statements accepted
  constructor
  · intro named block member
    apply block.all_named_iff.mp
    intro statement inside
    have early := List.mem_flatMap.mpr ⟨block, member, inside⟩
    exact named statement (List.mem_append_left more early)
  · intro company statement member
    rcases List.mem_append.mp member with early | late
    · obtain ⟨block, blockMember, inside⟩ := List.mem_flatMap.mp early
      exact block.all_named_iff.mpr (company block blockMember) statement inside
    · exact (layout.ending.parsed number more ended statement late).2

end Document
end DockerfileAudit
