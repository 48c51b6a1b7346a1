import DockerfileAudit.Proofs.Reading
import DockerfileAudit.Proofs.Words

/-!
What the statements of a document look like, whatever the document says. The shape is that of a
logical line; bodies only add arguments to directives that take their arguments in any form, so they
keep it.
-/
set_option autoImplicit false

namespace DockerfileAudit
namespace Statement

/-- The directives whose arguments are not simply the words of the line. -/
def ownForm : List Text :=
  ["run".toList, "cmd".toList, "entrypoint".toList, "shell".toList, "copy".toList, "add".toList,
    "volume".toList, "env".toList, "label".toList, "arg".toList, "healthcheck".toList]

structure WellShaped (statement : Statement) : Prop where
  directiveUnblank : ∀ c ∈ statement.directive, Text.isBlank c = false
  directiveSmall : Text.lower statement.directive = statement.directive
  flagsAllowed : statement.flags ≠ [] →
    statement.directive ∈
      ["from".toList, "run".toList, "copy".toList, "add".toList, "healthcheck".toList]
  flagsHyphened : ∀ flag ∈ statement.flags,
    Text.startsWith flag ['-', '-'] = true ∧ ∀ c ∈ flag, Text.isBlank c = false
  argumentsGiven :
    statement.directive ∈ ["from".toList, "run".toList, "user".toList, "copy".toList, "add".toList,
      "env".toList, "label".toList] → statement.args ≠ []
  argumentsWords : statement.directive ∉ ownForm →
    ∀ arg ∈ statement.args, arg ≠ [] ∧ ∀ c ∈ arg, Text.isBlank c = false
  imageNoFlag : statement.directive = "from".toList →
    ∀ image ∈ statement.args.head?, Text.startsWith image ['-', '-'] = false

theorem split_directive_head (text : Text) :
    ∀ c ∈ (splitDirective text).2.head?, Text.isBlank c = false := by
  unfold splitDirective
  split
  · exact Text.trim_start_head _
  · simp

/-- The flags of a logical line and the text behind them. -/
def parted (text : Text) : List Text × Text :=
  if (draft text).directive ∈ flagDirectives then Argument.flags (splitDirective text).2
  else ([], (splitDirective text).2)

theorem draft_args (text : Text) :
    (draft text).args = Argument.ofText (draft text).directive (Text.trim (parted text).2) := rfl

theorem parted_proper (text : Text) :
    ∀ flag ∈ (parted text).1,
      Text.startsWith flag ['-', '-'] = true ∧ ∀ c ∈ flag, Text.isBlank c = false := by
  unfold parted
  split
  · exact Argument.take_flags_proper _ _
  · simp

theorem parted_allowed (text : Text) (flagged : (parted text).1 ≠ []) :
    (draft text).directive ∈ flagDirectives := by
  by_contra other
  rw [parted, if_neg other] at flagged
  exact flagged rfl

theorem parted_head (text : Text) : ∀ c ∈ (parted text).2.head?, Text.isBlank c = false := by
  unfold parted
  split
  · exact Argument.take_flags_head _ _ (split_directive_head text)
  · exact split_directive_head text

theorem parted_flagless (text : Text) (takesFlags : (draft text).directive ∈ flagDirectives) :
    Text.startsWith (parted text).2 ['-', '-'] = false := by
  rw [parted, if_pos takesFlags]
  exact Argument.take_flags_flagless _ _ (Nat.le_refl _)

theorem draft_args_words (text : Text) (plain : (draft text).directive ∉ ownForm) :
    (draft text).args = Text.words (Text.trim (parted text).2) := by
  have kinds : ownForm = Argument.commandDirectives ++ (Argument.pathDirectives ++
      (Argument.pairDirectives ++ ["healthcheck".toList])) := rfl
  rw [kinds] at plain
  simp only [List.mem_append, List.mem_singleton, not_or] at plain
  obtain ⟨noCommand, noPath, noPair, noCheck⟩ := plain
  rw [draft_args, Argument.ofText, if_neg noCommand, if_neg noPath, if_neg noPair, if_neg noCheck]

/-- The first word behind the flags begins where they end, and no flag is left there. -/
theorem words_parted_flagless (text image : Text) (others : List Text)
    (takesFlags : (draft text).directive ∈ flagDirectives)
    (split : Text.words (Text.trim (parted text).2) = image :: others) :
    Text.startsWith image ['-', '-'] = false := by
  obtain ⟨more, first⟩ := Text.words_first _ image others split
  obtain ⟨after, _, whole⟩ := Text.exists_trim_of_starts (parted text).2 (parted_head text)
  rw [Text.trim_start_trim] at first
  have flagless := parted_flagless text takesFlags
  rw [Bool.eq_false_iff] at flagless ⊢
  intro hyphened
  apply flagless
  obtain ⟨rest, starts⟩ := (Text.starts_with_iff _ _).mp hyphened
  rw [Text.starts_with_iff]
  refine ⟨rest ++ (more ++ after), ?_⟩
  calc (parted text).2 = image ++ more ++ after := by rw [← first, ← whole]
    _ = ['-', '-'] ++ (rest ++ (more ++ after)) := by rw [starts]; simp

/-- The statement of a logical line is well shaped, if the line has the arguments that it needs. -/
theorem well_shaped_of_of_line (text : Text) (number : Nat) (statement : Statement)
    (reads : ofLine text number = .ok statement) : statement.WellShaped := by
  have given :
      ((draft text).args.isEmpty && (draft text).directive ∈ argumentDirectives) ≠ true := by
    intro missing
    rw [of_line_eq_draft, if_pos missing] at reads
    simp at reads
  rw [eq_draft_of_of_line text number statement reads]
  refine ⟨?_, ?_, ?_, ?_, ?_, ?_, ?_⟩
  · exact Text.unblank_of_mem_lower _ (split_directive_unblank text)
  · exact Text.lower_lower _
  · exact parted_allowed text
  · exact parted_proper text
  · intro needs none
    have listed : (draft text).directive ∈ argumentDirectives := needs
    exact given (by simp [none, listed])
  · intro plain arg member
    rw [draft_args_words text plain] at member
    exact Text.mem_words _ arg member
  · intro isFrom image first
    have plain : (draft text).directive ∉ ownForm := by
      rw [isFrom]
      decide
    have takesFlags : (draft text).directive ∈ flagDirectives := by
      rw [isFrom]
      decide
    rw [draft_args_words text plain] at first
    obtain ⟨others, split⟩ := List.head?_eq_some_iff.mp first
    exact words_parted_flagless text image others takesFlags split

/-- Bodies are added only where heredocs may be opened, and there arguments may have any form. -/
theorem WellShaped.with_bodies {head : Statement} (shaped : head.WellShaped) (bodies : List Text)
    (opened : bodies ≠ [] → Heredoc.opened head ≠ []) :
    { head with args := head.args ++ bodies }.WellShaped := by
  by_cases none : bodies = []
  · rw [none, List.append_nil]
    exact shaped
  · have opens : head.directive ∈ Heredoc.directives := by
      by_contra other
      apply opened none
      rw [Heredoc.opened, if_neg other]
    have apart : ∀ name ∈ Heredoc.directives, name ∈ ownForm ∧ name ≠ "from".toList := by decide
    refine ⟨shaped.directiveUnblank, shaped.directiveSmall, shaped.flagsAllowed,
      shaped.flagsHyphened, ?_, ?_, ?_⟩
    · intro needs
      exact List.append_ne_nil_of_right_ne_nil _ none
    · intro plain
      exact absurd (apart _ opens).1 plain
    · intro isFrom
      exact absurd isFrom (apart _ opens).2

end Statement

namespace Document

variable {escape : Char}

theorem Block.well_shaped (block : Block escape) :
    ∀ statement ∈ block.statements, statement.WellShaped := by
  cases block with
  | silent line silence => simp [statements]
  | statement logical head bodies reads opens =>
      rw [statements, List.forall_mem_singleton]
      apply (Statement.well_shaped_of_of_line _ 0 head (reads 0)).with_bodies
      intro some
      rw [opens]
      simpa using some

theorem Ending.well_shaped (ending : Ending escape) (number : Nat) (more : List Statement)
    (accepted : ending.outcome number = .ok more) :
    ∀ statement ∈ more, statement.WellShaped := by
  cases ending with
  | nothing =>
      rw [← Except.ok.inj accepted]
      simp
  | continued tail =>
      simp only [outcome] at accepted
      split at accepted
      · rw [← Except.ok.inj accepted]
        simp
      · cases reads : Statement.ofLine (Text.trim tail.text) number with
        | error failure => simp [reads, Except.map] at accepted
        | ok head =>
            rw [reads] at accepted
            rw [← Except.ok.inj accepted, List.forall_mem_singleton]
            exact Statement.well_shaped_of_of_line _ number head reads
  | refused logical directive rest refuses => simp [outcome] at accepted
  | unended logical head bodies heredoc later rest reads opens endless =>
      simp [outcome] at accepted

theorem Layout.well_shaped (layout : Layout escape) (statements : List Statement)
    (accepted : layout.outcome = .ok statements) :
    ∀ statement ∈ statements, statement.WellShaped := by
  obtain ⟨number, more, ended, rfl⟩ := layout.outcome_ok statements accepted
  intro statement member
  rcases List.mem_append.mp member with early | late
  · obtain ⟨block, _, inside⟩ := List.mem_flatMap.mp early
    exact block.well_shaped statement inside
  · exact layout.ending.well_shaped number more ended statement late

/-- Every statement of an accepted document is well shaped, whichever way it was read. -/
theorem parse_gives_well_shaped (text : Text) (statements : List Statement)
    (accepted : parse text = .ok statements) :
    ∀ statement ∈ statements, statement.WellShaped := by
  obtain ⟨layout, covers⟩ :=
    exists_layout (escapeOf (Text.lines (withoutMark text))) (Text.lines (withoutMark text))
  rw [parse_of_layout text layout covers] at accepted
  exact layout.well_shaped statements accepted

-- The image comes behind a flag and before another word with hyphens, the arguments of the second
-- statement are its own and a body, and the last statement never ends.
theorem parse_gives_well_shaped_images :
    (⟨"from".toList, ["--a=b".toList], ["c".toList, "--d".toList]⟩ : Statement).WellShaped ∧
      (⟨"run".toList, [], ["<<E".toList, "x y\n".toList]⟩ : Statement).WellShaped ∧
      (⟨"user".toList, [], ["e".toList]⟩ : Statement).WellShaped := by
  have shaped := parse_gives_well_shaped "From --a=b  c --d\nRUN <<E\nx y\nE\nUSER e \\".toList
    [⟨"from".toList, ["--a=b".toList], ["c".toList, "--d".toList]⟩,
      ⟨"run".toList, [], ["<<E".toList, "x y\n".toList]⟩, ⟨"user".toList, [], ["e".toList]⟩]
    (by decide +kernel)
  exact ⟨shaped _ (by simp), shaped _ (by simp), shaped _ (by simp)⟩

end Document
end DockerfileAudit
