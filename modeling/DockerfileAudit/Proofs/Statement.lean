import DockerfileAudit.Dockerfile.Document
import DockerfileAudit.Instruction.Basic
import DockerfileAudit.Proofs.SmallLetters
import DockerfileAudit.Proofs.Trim

/-!
The statement of a logical line. Whether it may stand without arguments is asked last, so the
statement is the same function of the text for every line number, and its directive is small and
without blanks.
-/
set_option autoImplicit false

namespace DockerfileAudit
namespace Statement

/-- The statement of a logical line, whether or not it may stand without arguments. -/
def draft (text : Text) : Statement :=
  let directive := Text.lower (splitDirective text).1
  let parted :=
    if directive ∈ flagDirectives then Argument.flags (splitDirective text).2
    else ([], (splitDirective text).2)
  ⟨directive, parted.1, Argument.ofText directive (Text.trim parted.2)⟩

theorem of_line_eq_draft (text : Text) (number : Nat) :
    ofLine text number =
      if (draft text).args.isEmpty && (draft text).directive ∈ argumentDirectives then
        .error (.missingArguments number (draft text).directive)
      else .ok (draft text) := rfl

theorem of_line_eq_ok (text : Text) (head : Statement) (drafted : draft text = head)
    (given : (head.args.isEmpty && head.directive ∈ argumentDirectives) = false) (number : Nat) :
    ofLine text number = .ok head := by
  rw [of_line_eq_draft, drafted, given]
  rfl

/-- A logical line is a statement or lacks its arguments; only the failure knows the number. -/
theorem of_line_any_number (text : Text) :
    (∃ head, ∀ number, ofLine text number = .ok head) ∨
      ∃ directive, ∀ number,
        ofLine text number = .error (.missingArguments number directive) := by
  by_cases missing : ((draft text).args.isEmpty &&
      (draft text).directive ∈ argumentDirectives) = true
  · refine Or.inr ⟨(draft text).directive, ?_⟩
    intro number
    rw [of_line_eq_draft, if_pos missing]
  · refine Or.inl ⟨draft text, ?_⟩
    intro number
    rw [of_line_eq_draft, if_neg missing]

theorem split_directive_unblank (text : Text) (c : Char) (member : c ∈ (splitDirective text).1) :
    Text.isBlank c = false := by
  unfold splitDirective at member
  split at member
  · rename_i word rest cut
    obtain ⟨_, _, clean, _⟩ := (Text.cut_at_eq_some_iff _ _ _ _).mp cut
    exact clean c member
  · rename_i cut
    exact (Text.cut_at_eq_none_iff _ _).mp cut c member

theorem split_directive_blank_start (c : Char) (rest : Text) (blank : Text.isBlank c = true) :
    (splitDirective (c :: rest)).1 = [] := by
  simp [splitDirective, Text.cutAt, blank]

theorem split_directive_unblank_start (c : Char) (rest : Text) (unblank : Text.isBlank c = false) :
    (splitDirective (c :: rest)).1 ≠ [] := by
  unfold splitDirective
  split
  · rename_i word after cut
    obtain ⟨d, blank, _, whole⟩ := (Text.cut_at_eq_some_iff _ _ _ _).mp cut
    rintro rfl
    simp only [List.nil_append, List.cons.injEq] at whole
    rw [whole.1, blank] at unblank
    simp at unblank
  · simp

theorem draft_directive (text : Text) :
    (draft text).directive = Text.lower (splitDirective text).1 := rfl

theorem draft_directive_eq_nil_iff (text : Text) :
    (draft text).directive = [] ↔ (splitDirective text).1 = [] := by
  rw [draft_directive, Text.lower_eq_nil_iff]

theorem eq_draft_of_of_line (text : Text) (number : Nat) (statement : Statement)
    (reads : ofLine text number = .ok statement) : statement = draft text := by
  rw [of_line_eq_draft] at reads
  split at reads
  · simp at reads
  · exact (Except.ok.inj reads).symm

def Parsed (statement : Statement) : Prop :=
  ∃ text, statement.directive = (draft text).directive

theorem Parsed.lower_directive {statement : Statement} (parsed : statement.Parsed) :
    Text.lower statement.directive = statement.directive := by
  obtain ⟨text, same⟩ := parsed
  rw [same, draft_directive, Text.lower_lower]

theorem Parsed.accepts_iff {statement : Statement} (parsed : statement.Parsed) :
    InstructionSet.accepts statement = true ↔ statement.directive ≠ [] := by
  obtain ⟨text, same⟩ := parsed
  simp only [InstructionSet.accepts, Bool.not_eq_true', List.isEmpty_eq_false_iff, ne_eq,
    not_iff_not]
  constructor
  · intro trimmed
    rw [Text.trim_eq_nil_iff] at trimmed
    apply List.eq_nil_iff_forall_not_mem.mpr
    intro c member
    have blank := trimmed c member
    rw [same, draft_directive] at member
    rw [Text.unblank_of_mem_lower _ (split_directive_unblank text) c member] at blank
    simp at blank
  · intro empty
    rw [empty]
    rfl

end Statement
end DockerfileAudit
