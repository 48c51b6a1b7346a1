import DockerfileAudit.Proofs.SmallLetters
import DockerfileAudit.Proofs.UsablePaths

/-!
What a session knows after any row of operations. Each file holds what was registered under its
name, in the order of the operations and whatever came between; the report is that of the last
evaluation, however old it is.
-/
set_option autoImplicit false

namespace DockerfileAudit

theorem InstructionSet.append_append (set : InstructionSet) (first second : List Statement) :
    (set.append first).append second = set.append (first ++ second) := by
  simp [append]

theorem Files.register_register (files : Files) (file : Text) (first second : List Statement) :
    (files.register file first).register file second = files.register file (first ++ second) := by
  apply ext_find
  intro other
  simp only [find_register]
  by_cases same : file = other
  · simp [same, InstructionSet.append_append]
  · simp [same]

theorem Files.register_comm (files : Files) (file other : Text) (first second : List Statement)
    (different : file ≠ other) :
    (files.register file first).register other second =
      (files.register other second).register file first := by
  apply ext_find
  intro name
  simp only [find_register]
  by_cases here : file = name
  · subst here
    simp [Ne.symm different]
  · by_cases there : other = name
    · subst there
      simp [different]
    · simp [here, there]

/-- What is stored of an accepted statement is not blank and small already. -/
theorem Instruction.normal_of_accepts (statement : Statement)
    (accepted : InstructionSet.accepts statement = true) :
    Text.trim (ofStatement statement).directive ≠ [] ∧
      Text.lower (ofStatement statement).directive = (ofStatement statement).directive := by
  refine ⟨?_, Text.lower_lower statement.directive⟩
  intro blank
  have visible : Text.trim statement.directive ≠ [] := by
    simpa [InstructionSet.accepts] using accepted
  apply visible
  rw [Text.trim_eq_nil_iff] at blank ⊢
  intro c member
  by_contra unblank
  obtain ⟨d, there, shown⟩ :=
    Text.exists_unblank_lower_after [] statement.directive c member (by simpa using unblank)
  rw [blank d there] at shown
  simp at shown

namespace Session

/-- What can be done in a session. A file is read from the system as it is at that moment. -/
inductive Operation where
  | register (file : Text) (statements : List Statement)
  | parseFile (system : FileSystem) (path : Text)
  | configure (config : RuleConfig)
  | evaluate

namespace Operation

def addition? (file : Text) : Operation → Option (List Statement)
  | .register other statements => if other = file then some statements else none
  | .parseFile system path => if path = file then (system.statements path).toOption else none
  | .configure _ => none
  | .evaluate => none

def Names (file : Text) (operation : Operation) : Prop :=
  (∃ statements, operation = .register file statements) ∨
    ∃ system, operation = .parseFile system file ∧ system.Usable file

theorem names_iff (file : Text) (operation : Operation) :
    operation.Names file ↔ ∃ statements, operation.addition? file = some statements := by
  cases operation with
  | register other statements =>
      by_cases same : other = file
      · simp [Names, addition?, same]
      · simp [Names, addition?, same]
  | parseFile system path =>
      by_cases same : path = file
      · subst same
        simp only [Names, addition?, reduceCtorEq, exists_false, false_or, if_true,
          Operation.parseFile.injEq, and_true]
        rw [exists_eq_left', FileSystem.usable_iff]
        cases system.statements path with
        | error failure => simp [Except.toOption]
        | ok statements => simp [Except.toOption]
      · simp [Names, addition?, same]
  | configure config => simp [Names, addition?]
  | evaluate => simp [Names, addition?]

end Operation

/-- An operation that fails leaves the session as it is. -/
def apply (session : Session) : Operation → Session
  | .register file statements => session.register file statements
  | .parseFile system path => session.tryFile system path
  | .configure config => session.configure config
  | .evaluate => session.evaluate

def run (operations : List Operation) : Session := operations.foldl apply new

def additions (file : Text) (operations : List Operation) : List (List Statement) :=
  operations.filterMap (Operation.addition? file)

def stored (file : Text) (added : List (List Statement)) : Option InstructionSet :=
  if added = [] then none else some ((InstructionSet.empty file).append added.flatten)

theorem additions_ne_nil_iff (file : Text) (operations : List Operation) :
    additions file operations ≠ [] ↔ ∃ operation ∈ operations, operation.Names file := by
  simp only [additions, ne_eq, List.filterMap_eq_nil_iff, not_forall, exists_prop,
    Operation.names_iff, Option.eq_none_iff_forall_ne_some, not_not]

theorem stored_is_some_iff (file : Text) (added : List (List Statement)) :
    (stored file added).isSome ↔ added ≠ [] := by
  by_cases none : added = []
  · simp [stored, none]
  · simp [stored, none]

theorem eq_of_stored (file : Text) (added : List (List Statement)) (set : InstructionSet)
    (known : stored file added = some set) :
    set = (InstructionSet.empty file).append added.flatten := by
  unfold stored at known
  split at known
  · simp at known
  · exact (Option.some.inj known).symm

theorem stored_concat (file : Text) (added : List (List Statement)) (statements : List Statement) :
    stored file (added ++ [statements]) =
      some (((stored file added).getD (InstructionSet.empty file)).append statements) := by
  by_cases first : added = []
  · simp [stored, first]
  · simp [stored, first, InstructionSet.append_append]

theorem run_concat (operations : List Operation) (operation : Operation) :
    run (operations ++ [operation]) = (run operations).apply operation := by
  simp [run]

theorem try_file_eq (session : Session) (system : FileSystem) (path : Text) :
    session.tryFile system path =
      match system.statements path with
      | .ok statements => session.register path statements
      | .error _ => session := by
  unfold tryFile parseFile
  cases system.statements path with
  | error failure => rfl
  | ok statements => rfl

theorem find_apply (session : Session) (operation : Operation) (file : Text) :
    (session.apply operation).files.find? file =
      match operation.addition? file with
      | some statements =>
          some (((session.files.find? file).getD (InstructionSet.empty file)).append statements)
      | none => session.files.find? file := by
  cases operation with
  | register other statements =>
      simp only [apply, register, Files.find_register, Operation.addition?]
      by_cases same : other = file
      · simp [same]
      · simp [same]
  | parseFile system path =>
      simp only [apply, try_file_eq, Operation.addition?]
      cases system.statements path with
      | error failure => simp [Except.toOption]
      | ok statements =>
          simp only [register, Files.find_register, Except.toOption]
          by_cases same : path = file
          · simp [same]
          · simp [same]
  | configure config => rfl
  | evaluate => rfl

theorem find_run (operations : List Operation) (file : Text) :
    (run operations).files.find? file = stored file (additions file operations) := by
  -- On the operations so far, since each adds at the end of what is there.
  induction operations using List.reverseRecOn with
  | nil => rfl
  | append_singleton operations operation ih =>
      rw [run_concat, find_apply, ih]
      cases added : operation.addition? file with
      | none => simp [additions, added]
      | some statements =>
          have grown : additions file (operations ++ [operation]) =
              additions file operations ++ [statements] := by
            simp [additions, added]
          rw [grown, stored_concat]

theorem report_foldl (operations : List Operation) (session : Session)
    (unchecked : .evaluate ∉ operations) :
    (operations.foldl apply session).report = session.report := by
  induction operations generalizing session with
  | nil => rfl
  | cons operation operations ih =>
      rw [List.foldl_cons, ih _ fun member => unchecked (by simp [member])]
      cases operation with
      | register file statements => rfl
      | parseFile system path =>
          rw [apply, try_file_eq]
          cases system.statements path with
          | error failure => rfl
          | ok statements => rfl
      | configure config => rfl
      | evaluate => exact absurd List.mem_cons_self unchecked

theorem config_foldl (operations : List Operation) (session : Session)
    (unconfigured : ∀ config, .configure config ∉ operations) :
    (operations.foldl apply session).config = session.config := by
  induction operations generalizing session with
  | nil => rfl
  | cons operation operations ih =>
      rw [List.foldl_cons, ih _ fun config member => unconfigured config (by simp [member])]
      cases operation with
      | register file statements => rfl
      | parseFile system path => exact config_try_file system session path
      | configure config => exact absurd List.mem_cons_self (unconfigured config)
      | evaluate => rfl

theorem run_split (before after : List Operation) (operation : Operation) :
    run (before ++ operation :: after) = after.foldl apply ((run before).apply operation) := by
  simp [run]

/-- What a session knows is what the operations say: which files there are and what they hold, the
configuration, and the report on files and configuration as they were at the last evaluation. -/
structure Follows (operations : List Operation) (session : Session) : Prop where
  known_iff : ∀ file, (session.files.find? file).isSome ↔
    ∃ operation ∈ operations, operation.Names file
  holds : ∀ file set, session.files.find? file = some set →
    set.file = file ∧
      set.instructions = ((additions file operations).flatten.filter
        InstructionSet.accepts).map Instruction.ofStatement
  normal : ∀ file set, session.files.find? file = some set →
    ∀ instruction ∈ set.instructions, Text.trim instruction.directive ≠ [] ∧
      Text.lower instruction.directive = instruction.directive
  configured : ∀ before config after, operations = before ++ .configure config :: after →
    (∀ other, .configure other ∉ after) → session.config = config
  unconfigured : (∀ config, .configure config ∉ operations) → session.config = RuleConfig.empty
  reported : ∀ before after, operations = before ++ .evaluate :: after → .evaluate ∉ after →
    session.report = DockerfileAudit.evaluate (run before).files (run before).config
  unreported : .evaluate ∉ operations → session.report = Report.empty

theorem run_follows (operations : List Operation) : Follows operations (run operations) := by
  refine ⟨?_, ?_, ?_, ?_, ?_, ?_, ?_⟩
  · intro file
    rw [find_run, stored_is_some_iff, additions_ne_nil_iff]
  · intro file set known
    rw [find_run] at known
    rw [eq_of_stored file _ set known]
    exact ⟨rfl, rfl⟩
  · intro file set known instruction member
    rw [find_run] at known
    rw [eq_of_stored file _ set known] at member
    obtain ⟨statement, kept, rfl⟩ := List.mem_map.mp member
    exact Instruction.normal_of_accepts statement (List.mem_filter.mp kept).2
  · rintro before config after rfl last
    rw [run_split, config_foldl after _ last]
    rfl
  · intro never
    exact config_foldl operations new never
  · rintro before after rfl last
    rw [run_split, report_foldl after _ last]
    rfl
  · intro never
    exact report_foldl operations new never

theorem run_parse_file (operations later : List Operation) (system : FileSystem) (path : Text)
    (statements : List Statement) (parsed : system.statements path = .ok statements) :
    run (operations ++ .parseFile system path :: later) =
      run (operations ++ .register path statements :: later) := by
  rw [run_split, run_split]
  simp only [apply, try_file_eq, parsed]

theorem run_parse_file_failing (operations later : List Operation) (system : FileSystem)
    (path : Text) (failure : FileError) (fails : system.statements path = .error failure) :
    run (operations ++ .parseFile system path :: later) = run (operations ++ later) := by
  rw [run_split, apply, try_file_eq, fails, run, run, List.foldl_append]

/-- After any operations a session knows what they say. Registering under different names can be
done in either order, and registering twice under one name is registering once; to parse a usable
file is to register its statements, and a file that cannot be used fails and changes nothing,
whatever comes before and after. -/
theorem run_follows_operations (operations : List Operation) :
    Follows operations (run operations) ∧
      (∀ file other first second later, file ≠ other →
        run (operations ++ .register file first :: .register other second :: later) =
          run (operations ++ .register other second :: .register file first :: later)) ∧
      (∀ file first second later,
        run (operations ++ .register file first :: .register file second :: later) =
          run (operations ++ .register file (first ++ second) :: later)) ∧
      (∀ system path text statements later, system.read path = .ok text →
        Document.parse text = .ok statements →
          run (operations ++ .parseFile system path :: later) =
            run (operations ++ .register path statements :: later)) ∧
      ∀ system path later, ¬system.Usable path →
        (∃ failure, (run operations).parseFile system path = .error failure) ∧
          run (operations ++ .parseFile system path :: later) = run (operations ++ later) := by
  refine ⟨run_follows operations, ?_, ?_, ?_, ?_⟩
  · intro file other first second later different
    rw [run_split, run_split, List.foldl_cons, List.foldl_cons]
    simp only [apply, register]
    rw [Files.register_comm _ file other first second different]
  · intro file first second later
    rw [run_split, run_split, List.foldl_cons]
    simp only [apply, register]
    rw [Files.register_register]
  · intro system path text statements later reads parses
    apply run_parse_file
    exact (system.statements_eq_ok_iff path statements).mpr ⟨text, reads, parses⟩
  · intro system path later unusable
    cases outcome : system.statements path with
    | error failure =>
        refine ⟨⟨failure, by simp [parseFile, outcome, Except.map]⟩, ?_⟩
        exact run_parse_file_failing operations later system path failure outcome
    | ok statements => exact absurd ((system.usable_iff path).mpr ⟨statements, outcome⟩) unusable

def staleExample : List Operation :=
  [.register "f".toList [⟨"FROM".toList, [], ["x".toList]⟩, ⟨" ".toList, [], ["y".toList]⟩],
    .evaluate, .parseFile FileSystem.halfUsable "b".toList,
    .register "f".toList [⟨"user".toList, [], ["u".toList]⟩],
    .configure (RuleConfig.ofLists ["z".toList] [] [])]

theorem run_follows_stale_operations :
    (run staleExample).files.find? "f".toList =
        some ⟨"f".toList, [⟨"from".toList, [], ["x".toList]⟩, ⟨"user".toList, [], ["u".toList]⟩]⟩ ∧
      (run staleExample).report =
        DockerfileAudit.evaluate
          (Files.empty.register "f".toList [⟨"FROM".toList, [], ["x".toList]⟩])
          RuleConfig.empty := by
  have follows := (run_follows_operations staleExample).1
  refine ⟨?_, ?_⟩
  · obtain ⟨⟨file, instructions⟩, known⟩ := Option.isSome_iff_exists.mp
      ((follows.known_iff "f".toList).mpr ⟨_, List.mem_cons_self, Or.inl ⟨_, rfl⟩⟩)
    obtain ⟨sameFile, sameInstructions⟩ := follows.holds _ _ known
    have listed : ((additions "f".toList staleExample).flatten.filter
        InstructionSet.accepts).map Instruction.ofStatement =
          [⟨"from".toList, [], ["x".toList]⟩, ⟨"user".toList, [], ["u".toList]⟩] := by
      decide +kernel
    simp only at sameFile sameInstructions
    rw [known, sameFile, sameInstructions, listed]
  · have reported := follows.reported [_] _ rfl (by simp)
    rw [reported]
    rfl

end Session
end DockerfileAudit
