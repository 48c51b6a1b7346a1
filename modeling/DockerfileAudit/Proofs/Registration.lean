import DockerfileAudit.Proofs.Directive
import DockerfileAudit.Proofs.Files
import DockerfileAudit.Proofs.Reading
import DockerfileAudit.Session

/-!
From statements to instructions. Registering changes nothing in a statement that was parsed, and
keeps each one that has a directive.
-/
set_option autoImplicit false

namespace DockerfileAudit

def Instruction.verbatim (statement : Statement) : Instruction :=
  ⟨statement.directive, statement.flags, statement.args⟩

theorem Instruction.of_statement_parsed (statement : Statement) (parsed : statement.Parsed) :
    ofStatement statement = verbatim statement := by
  rw [ofStatement, verbatim, parsed.lower_directive]

/-- What registering adds for statements that were parsed. -/
theorem InstructionSet.instructions_of_parsed (statements : List Statement)
    (parsed : ∀ statement ∈ statements, statement.Parsed) :
    (statements.filter accepts).map Instruction.ofStatement =
      (statements.filter fun statement => statement.directive ≠ []).map Instruction.verbatim := by
  induction statements with
  | nil => rfl
  | cons statement rest ih =>
      have here := parsed statement (by simp)
      have later := ih fun other member => parsed other (by simp [member])
      by_cases named : statement.directive = []
      · have dropped : accepts statement = false := by
          rw [Bool.eq_false_iff]
          intro accepted
          exact here.accepts_iff.mp accepted named
        simp [dropped, named, later]
      · have kept := here.accepts_iff.mpr named
        simp [kept, named, later, Instruction.of_statement_parsed statement here]

theorem Session.find_register_fresh (session : Session) (file : Text)
    (statements : List Statement) (fresh : session.files.find? file = none) :
    (session.register file statements).files.find? file =
      some ⟨file, (statements.filter InstructionSet.accepts).map Instruction.ofStatement⟩ := by
  rw [Session.register, Files.find_register, if_pos rfl, fresh]
  rfl

/-- Nothing is lost between parsing and registering unless a logical line begins with the escape
alone. Then its statement has no directive and is the one that is not stored; all others are stored
word for word in any case. -/
theorem Session.stores_all_parsed_iff (session : Session) (file text : Text)
    (statements : List Statement)
    (layout : Document.Layout (Document.escapeOf (Text.lines (Document.withoutMark text))))
    (covers : layout.lines = Text.lines (Document.withoutMark text))
    (accepted : Document.parse text = .ok statements)
    (fresh : session.files.find? file = none) :
    (session.register file statements).files.find? file =
        some ⟨file, (statements.filter fun statement => statement.directive ≠ []).map
          Instruction.verbatim⟩ ∧
      ((∀ statement ∈ statements, statement.directive ≠ []) ↔
        ∀ block ∈ layout.blocks, ∀ logical ∈ block.logicalLines, ¬logical.BeginsAlone) ∧
      ((session.register file statements).files.find? file =
          some ⟨file, statements.map Instruction.verbatim⟩ ↔
        ∀ block ∈ layout.blocks, ∀ logical ∈ block.logicalLines, ¬logical.BeginsAlone) := by
  rw [Document.parse_of_layout text layout covers] at accepted
  have named := layout.all_named_iff statements accepted
  have stored : (session.register file statements).files.find? file = _ :=
    session.find_register_fresh file statements fresh
  rw [InstructionSet.instructions_of_parsed statements
    (layout.parsed statements accepted)] at stored
  refine ⟨stored, named, ?_⟩
  rw [stored, ← named]
  constructor
  · intro same statement member
    have sameList := congrArg InstructionSet.instructions (Option.some.inj same)
    have sameLength := congrArg List.length sameList
    simp only [List.length_map] at sameLength
    have kept := List.length_filter_eq_length_iff.mp sameLength statement member
    simpa using kept
  · intro all
    have kept : (statements.filter fun statement => statement.directive ≠ []) = statements := by
      rw [List.filter_eq_self]
      intro statement member
      simpa using all statement member
    rw [kept]

/-- The statement that adds a file is parsed and not stored, for its directive is the empty word. -/
theorem Session.statement_behind_lone_escape_is_lost :
    Document.parse "FROM a\n\\\nADD b c\n".toList =
        .ok [⟨"from".toList, [], ["a".toList]⟩,
          ⟨[], [], ["ADD".toList, "b".toList, "c".toList]⟩] ∧
      (Session.new.register "f".toList [⟨"from".toList, [], ["a".toList]⟩,
          ⟨[], [], ["ADD".toList, "b".toList, "c".toList]⟩]).files.find? "f".toList =
        some ⟨"f".toList, [⟨"from".toList, [], ["a".toList]⟩]⟩ :=
  ⟨by rfl, by decide +kernel⟩

def Document.Layout.ofLoneEscape : Document.Layout Document.backslash :=
  ⟨[.statement ⟨[⟨"\\".toList, [], by decide, by decide, by simp⟩], "USER app".toList, by decide,
    by decide⟩ ⟨[], [], ["USER".toList, "app".toList]⟩ []
    (Statement.of_line_eq_ok _ _ (by decide +kernel) rfl) rfl], .nothing⟩

theorem Session.stores_all_parsed_iff_lone_escape :
    (Session.new.register "f".toList [⟨[], [], ["USER".toList, "app".toList]⟩]).files.find?
        "f".toList = some ⟨"f".toList, []⟩ ∧
      ¬∀ block ∈ Document.Layout.ofLoneEscape.blocks, ∀ logical ∈ block.logicalLines,
        ¬logical.BeginsAlone := by
  have accepted : Document.parse "\\\nUSER app".toList =
      .ok [⟨[], [], ["USER".toList, "app".toList]⟩] := by rfl
  have general := Session.stores_all_parsed_iff Session.new "f".toList "\\\nUSER app".toList _
    Document.Layout.ofLoneEscape (by decide +kernel) accepted (by rfl)
  refine ⟨general.1, ?_⟩
  intro company
  exact general.2.1.mpr company _ (List.mem_singleton_self _) rfl

end DockerfileAudit
