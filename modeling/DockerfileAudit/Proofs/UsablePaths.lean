import DockerfileAudit.Proofs.Verdict
import DockerfileAudit.Session
import Mathlib.Data.List.Induction

/-!
An audit of paths. Paths that lead to no text, or to a text that is no Dockerfile, leave no trace; a
path that comes again adds instructions that are there already, which no rule can see.
-/
set_option autoImplicit false

namespace DockerfileAudit
namespace FileSystem

/-- A path to a file whose bytes are UTF-8 and whose text is a Dockerfile. -/
def Usable (system : FileSystem) (path : Text) : Prop :=
  ∃ text statements, system.read path = .ok text ∧ Document.parse text = .ok statements

def instructionSet? (system : FileSystem) (path : Text) : Option InstructionSet :=
  match system.statements path with
  | .ok statements => some ((InstructionSet.empty path).append statements)
  | .error _ => none

theorem statements_eq_ok_iff (system : FileSystem) (path : Text) (statements : List Statement) :
    system.statements path = .ok statements ↔
      ∃ text, system.read path = .ok text ∧ Document.parse text = .ok statements := by
  unfold FileSystem.statements
  cases system.read path with
  | error failure => simp
  | ok text =>
      cases parsed : Document.parse text with
      | error failure => simp [parsed]
      | ok others => simp [parsed]

theorem usable_iff (system : FileSystem) (path : Text) :
    system.Usable path ↔ ∃ statements, system.statements path = .ok statements := by
  unfold Usable
  simp only [statements_eq_ok_iff]
  constructor
  · rintro ⟨text, statements, found⟩
    exact ⟨statements, text, found⟩
  · rintro ⟨statements, text, found⟩
    exact ⟨text, statements, found⟩

def expected (system : FileSystem) (paths : List Text) (path : Text) : Option InstructionSet :=
  if path ∈ paths then system.instructionSet? path else none

theorem expected_concat (system : FileSystem) (paths : List Text) (new path : Text) :
    system.expected (paths ++ [new]) path =
      if new = path then system.instructionSet? new else system.expected paths path := by
  unfold expected
  by_cases same : new = path
  · subst same
    simp
  · simp [same, Ne.symm same]

theorem expected_eq_none_of_unusable (system : FileSystem) (paths : List Text) (path : Text)
    (unusable : system.instructionSet? path = none) : system.expected paths path = none := by
  unfold expected
  rw [unusable, ite_self]

end FileSystem

theorem InstructionSet.SameVisible.append_again {set : InstructionSet} (path : Text)
    (statements : List Statement)
    (same : set.SameVisible ((empty path).append statements)) :
    (set.append statements).SameVisible ((empty path).append statements) := by
  intro pair
  have before := same pair
  simp only [append, empty, List.nil_append, List.map_append, List.mem_append] at before ⊢
  rw [before, or_self]

/-- What holds of the files after the paths have been tried: no more and no less than the map. -/
def Tried (system : FileSystem) (paths : List Text) (files : Files) : Prop :=
  ∀ path, Option.Rel InstructionSet.SameVisible (files.find? path) (system.expected paths path)

theorem tried_none (system : FileSystem) : Tried system [] Files.empty := by
  intro path
  exact Option.Rel.none

theorem tried_try_file (system : FileSystem) (done : List Text) (session : Session) (path : Text)
    (tried : Tried system done session.files) :
    Tried system (done ++ [path]) (session.tryFile system path).files := by
  intro other
  have before := tried other
  rw [FileSystem.expected_concat]
  unfold Session.tryFile Session.parseFile
  cases outcome : system.statements path with
  | error failure =>
      have unusable : system.instructionSet? path = none := by
        simp [FileSystem.instructionSet?, outcome]
      by_cases same : path = other
      · subst same
        rw [system.expected_eq_none_of_unusable done path unusable] at before
        rw [if_pos rfl, unusable]
        exact before
      · rw [if_neg same]
        exact before
  | ok statements =>
      have found : system.instructionSet? path =
          some ((InstructionSet.empty path).append statements) := by
        simp [FileSystem.instructionSet?, outcome]
      simp only [Except.map, Session.register, Files.find_register]
      by_cases same : path = other
      · subst same
        rw [if_pos rfl, if_pos rfl, found]
        apply Option.Rel.some
        -- The path may have been tried before; then its instructions are there already.
        unfold FileSystem.expected at before
        rw [found] at before
        cases known : session.files.find? path with
        | none =>
            intro pair
            rfl
        | some set =>
            rw [known] at before
            split at before
            · cases before with
              | some seen => exact seen.append_again path statements
            · cases before
      · rw [if_neg same, if_neg same]
        exact before

theorem tried_all (system : FileSystem) (done paths : List Text) (session : Session)
    (tried : Tried system done session.files) :
    Tried system (done ++ paths)
      (paths.foldl (fun session path => session.tryFile system path) session).files := by
  -- On the paths still to be tried; those that were tried are what the invariant speaks of.
  induction paths generalizing done session with
  | nil => simpa using tried
  | cons path paths ih =>
      have next := ih (done ++ [path]) (session.tryFile system path)
        (tried_try_file system done session path tried)
      simpa using next

theorem config_try_file (system : FileSystem) (session : Session) (path : Text) :
    (session.tryFile system path).config = session.config := by
  unfold Session.tryFile Session.parseFile
  cases system.statements path with
  | error failure => rfl
  | ok statements => rfl

theorem config_try_files (system : FileSystem) (paths : List Text) (session : Session) :
    (paths.foldl (fun session path => session.tryFile system path) session).config =
      session.config := by
  induction paths generalizing session with
  | nil => rfl
  | cons path paths ih => rw [List.foldl_cons, ih, config_try_file]

/-- There is a map that holds each usable path once. -/
theorem exists_expected_files (system : FileSystem) (paths : List Text) :
    ∃ files : Files, ∀ path, files.find? path = system.expected paths path := by
  induction paths using List.reverseRecOn with
  | nil => exact ⟨Files.empty, fun path => rfl⟩
  | append_singleton paths new ih =>
      obtain ⟨files, holds⟩ := ih
      by_cases nothingNew : system.expected paths new = system.instructionSet? new
      · refine ⟨files, ?_⟩
        intro path
        rw [holds, FileSystem.expected_concat]
        split
        · rename_i same
          rw [← same, nothingNew]
        · rfl
      · -- Only a usable path that comes for the first time is new.
        have unknown : system.expected paths new = none := by
          unfold FileSystem.expected at nothingNew ⊢
          split at nothingNew
          · exact absurd rfl nothingNew
          · rename_i absent
            rw [if_neg absent]
        cases outcome : system.statements new with
        | error failure =>
            rw [unknown, FileSystem.instructionSet?, outcome] at nothingNew
            exact absurd rfl nothingNew
        | ok statements =>
            refine ⟨files.register new statements, ?_⟩
            intro path
            rw [Files.find_register, holds, holds, unknown, FileSystem.expected_concat,
              FileSystem.instructionSet?, outcome]
            rfl

theorem audit_paths_of_expected (system : FileSystem) (paths : List Text) (config : RuleConfig)
    (files : Files) (holds : ∀ path, files.find? path = system.expected paths path) :
    auditPaths system paths config = evaluate files config := by
  unfold auditPaths auditSession Session.evaluate
  dsimp only
  rw [config_try_files]
  apply evaluate_of_same_visible
  intro path
  rw [holds path]
  exact tried_all system [] paths (Session.new.configure config) (tried_none system) path

def FileSystem.halfUsable : FileSystem :=
  ⟨.directory
    (.entry "a".toList (.file (Utf8.encode "FROM x".toList) 0o644)
      (.entry "b".toList (.file (Utf8.encode "USER".toList) 0o644) .empty)), []⟩

end DockerfileAudit
