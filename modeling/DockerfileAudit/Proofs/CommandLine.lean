import DockerfileAudit.CommandLine.Run
import DockerfileAudit.Proofs.Arguments
import DockerfileAudit.Proofs.ListedDetails
import DockerfileAudit.Proofs.ReportJson
import DockerfileAudit.Proofs.UsablePaths
import DockerfileAudit.Proofs.WrittenFiles

/-!
Runs of the command line. The report that a run hands over, on its output or in a file, is that of
evaluating the usable files that are discovered; the exit code speaks of this report; and of the
lists only the sets of their items matter.
-/
set_option autoImplicit false

namespace DockerfileAudit
namespace CommandLine

/-- A run hands over a text: as its output, or in a file with nothing as its output. -/
def Outcome.Emits (outcome : Outcome) (out : Option Text) (text : Text) : Prop :=
  match out with
  | none => outcome.output = text
  | some path => outcome.output = [] ∧ outcome.files.read path = .ok text

structure Outcome.Same (left right : Outcome) : Prop where
  exitCode : left.exitCode = right.exitCode
  output : left.output = right.output
  failure : left.failure = right.failure
  files : left.files = right.files

/-- An item of a list with commas is what stands between two of them, without the blanks around it.
-/
def IsItem (list item : Text) : Prop :=
  item.Tight ∧ ',' ∉ item ∧ ∃ before left right after,
    list = before ++ (left ++ (item ++ right) ++ after) ∧
      (∀ c ∈ before.getLast?, c = ',') ∧ (∀ c ∈ after.head?, c = ',') ∧
      ∀ c ∈ left ++ right, Text.isBlank c = true

/-- The list with the items of a text; it is absent if there are none. -/
structure HoldsItems (text : Text) (list : Option (List Text)) : Prop where
  members : ∀ item, (∃ items ∈ list, item ∈ items) ↔ IsItem text item
  present : list.isSome = true ↔ ∃ item, IsItem text item
  ascending : ∀ items ∈ list, items.Pairwise (· < ·)

def Arguments.listText (arguments : Arguments) : Rule → Text
  | .trustedBaseImage => arguments.trusted
  | .disallowedPackage => arguments.packages
  | .noSecrets => arguments.secrets
  | _ => []

/-- What the lists among the arguments ask for: each as the set of its items, and of the rules
against a list those whose list has an item. -/
structure Arguments.Configures (arguments : Arguments) (config : RuleConfig) : Prop where
  trusted : HoldsItems arguments.trusted config.trusted
  packages : HoldsItems arguments.packages config.packages
  secrets : HoldsItems arguments.secrets config.secrets
  enabled : ∀ rule, config.isEnabled rule = true ↔
    rule.needsList = false ∨ ∃ item, IsItem (arguments.listText rule) item

/-- Arguments that differ in their lists only, which have the same items. -/
structure Arguments.SameLists (left right : Arguments) : Prop where
  others : right =
    { left with trusted := right.trusted, packages := right.packages, secrets := right.secrets }
  trusted : ∀ item, IsItem left.trusted item ↔ IsItem right.trusted item
  packages : ∀ item, IsItem left.packages item ↔ IsItem right.packages item
  secrets : ∀ item, IsItem left.secrets item ↔ IsItem right.secrets item

section Lists

theorem mem_parse_list_iff (list item : Text) : item ∈ parseList list ↔ IsItem list item := by
  unfold parseList
  rw [RuleConfig.mem_trimmed, List.mem_map]
  constructor
  · rintro ⟨⟨field, member, rfl⟩, nonempty⟩
    obtain ⟨before, after, whole, starts, ends, uncut⟩ :=
      (Text.mem_fields_iff _ list field).mp member
    obtain ⟨left, right, leftBlank, rightBlank, parts⟩ := Text.exists_trim field
    refine ⟨Text.tight_trim field nonempty, ?_, before, left, right, after, ?_, ?_, ?_, ?_⟩
    · intro comma
      have inside : ',' ∈ field := by
        rw [parts]
        simp [comma]
      simpa using uncut ',' inside
    · rw [← parts]
      exact whole
    · simpa using starts
    · simpa using ends
    · intro c among
      rcases List.mem_append.mp among with inLeft | inRight
      · exact leftBlank c inLeft
      · exact rightBlank c inRight
  · rintro ⟨tight, whole, before, left, right, after, rfl, starts, ends, blank⟩
    have leftBlank : ∀ c ∈ left, Text.isBlank c = true := fun c member =>
      blank c (List.mem_append_left _ member)
    have rightBlank : ∀ c ∈ right, Text.isBlank c = true := fun c member =>
      blank c (List.mem_append_right _ member)
    have uncut : ∀ c ∈ left ++ (item ++ right), decide (c = ',') = false := by
      intro c member
      have comma : Text.isBlank ',' = false := by decide
      simp only [List.mem_append] at member
      refine decide_eq_false ?_
      rintro rfl
      rcases member with inLeft | inItem | inRight
      · simp [leftBlank _ inLeft] at comma
      · exact whole inItem
      · simp [rightBlank _ inRight] at comma
    refine ⟨⟨left ++ (item ++ right), ?_, Text.trim_between _ _ _ tight leftBlank rightBlank⟩,
      tight.ne_nil⟩
    exact (Text.mem_fields_iff _ _ _).mpr ⟨before, after, rfl, by simpa using starts,
      by simpa using ends, uncut⟩

/-- The items are trimmed again when they become a set; what is trimmed again is the same. -/
theorem holds_items_of_list (text : Text) :
    HoldsItems text (RuleConfig.nonEmptySet (parseList text)) := by
  have items : ∀ item, item ∈ RuleConfig.itemSet (parseList text) ↔ IsItem text item := by
    intro item
    rw [RuleConfig.mem_item_set, List.mem_map]
    constructor
    · rintro ⟨⟨known, member, rfl⟩, -⟩
      have isItem := (mem_parse_list_iff text known).mp member
      rw [isItem.1.trim_eq]
      exact isItem
    · intro isItem
      exact ⟨⟨item, (mem_parse_list_iff text item).mpr isItem, isItem.1.trim_eq⟩, isItem.1.ne_nil⟩
  unfold RuleConfig.nonEmptySet
  split
  · rename_i empty
    have none : ∀ item, ¬IsItem text item := by
      intro item isItem
      have member := (items item).mpr isItem
      rw [List.isEmpty_iff.mp empty] at member
      exact List.not_mem_nil member
    exact ⟨by simp [none], by simp [none], by simp⟩
  · rename_i some
    obtain ⟨first, rest, split⟩ := List.exists_cons_of_ne_nil (fun same =>
      some (List.isEmpty_iff.mpr same))
    refine ⟨by simp [items], ?_, ?_⟩
    · refine iff_of_true rfl ⟨first, (items first).mp ?_⟩
      rw [split]
      exact List.mem_cons_self
    · rintro _ ⟨⟩
      exact ascending_sorted_set _

theorem HoldsItems.unique {text other : Text} {left right : Option (List Text)}
    (leftHolds : HoldsItems text left) (rightHolds : HoldsItems other right)
    (same : ∀ item, IsItem text item ↔ IsItem other item) : left = right := by
  have both : left.isSome = right.isSome := by
    rw [Bool.eq_iff_iff, leftHolds.present, rightHolds.present]
    exact exists_congr same
  cases left with
  | none =>
      cases right with
      | none => rfl
      | some list => cases both
  | some list =>
      cases right with
      | none => cases both
      | some otherList =>
          congr 1
          apply List.Pairwise.eq_of_mem_iff (leftHolds.ascending list rfl)
            (rightHolds.ascending otherList rfl)
          intro item
          have leftMembers := leftHolds.members item
          have rightMembers := rightHolds.members item
          simp only [Option.mem_def, Option.some.injEq, exists_eq_left'] at leftMembers rightMembers
          rw [leftMembers, rightMembers, same item]

theorem configures (arguments : Arguments) : arguments.Configures (config arguments) where
  trusted := holds_items_of_list _
  packages := holds_items_of_list _
  secrets := holds_items_of_list _
  enabled := by
    intro rule
    cases rule with
    | nonRootUser | healthcheck | updateWithoutInstall | copyNotAdd =>
        exact iff_of_true rfl (Or.inl rfl)
    | trustedBaseImage =>
        exact (holds_items_of_list arguments.trusted).present.trans (or_iff_right (by decide)).symm
    | disallowedPackage =>
        exact (holds_items_of_list arguments.packages).present.trans (or_iff_right (by decide)).symm
    | noSecrets =>
        exact (holds_items_of_list arguments.secrets).present.trans (or_iff_right (by decide)).symm

theorem Arguments.Configures.unique {left right : Arguments} {config other : RuleConfig}
    (leftHolds : left.Configures config) (rightHolds : right.Configures other)
    (same : left.SameLists right) : config = other := by
  have trusted := leftHolds.trusted.unique rightHolds.trusted same.trusted
  have packages := leftHolds.packages.unique rightHolds.packages same.packages
  have secrets := leftHolds.secrets.unique rightHolds.secrets same.secrets
  cases config
  cases other
  exact (RuleConfig.mk.injEq ..).mpr ⟨trusted, packages, secrets⟩

theorem report_eq_of_same_lists (system : FileSystem) {left right : Arguments}
    (same : left.SameLists right) : report system left = report system right := by
  have samePaths : paths system left = paths system right := by
    rw [same.others]
    rfl
  unfold report
  rw [samePaths, (configures left).unique (configures right) same]

end Lists

section Runs

variable {system : FileSystem} {environment : Option Text} {arguments : Arguments}

theorem failure_failed (log : List Event) (message : Text) :
    (failed system log message).failure ≠ none := by
  simp [failed]

theorem audit_emits (filter : List Log.Directive)
    (success : (audit system arguments filter).failure = none) :
    (audit system arguments filter).Emits arguments.out
        (render arguments (report system arguments)) ∧
      (audit system arguments filter).exitCode =
        if arguments.failOnViolation && (report system arguments).hasViolations then 1 else 0 := by
  unfold audit at success ⊢
  cases out : arguments.out with
  | none => exact ⟨rfl, rfl⟩
  | some path =>
      rw [out] at success
      dsimp only at success ⊢
      cases writing :
        system.write path (Utf8.encode (render arguments (report system arguments))) with
      | error failure =>
          rw [writing] at success
          exact absurd success (failure_failed _ _)
      | ok written => exact ⟨⟨rfl, FileSystem.read_write writing⟩, rfl⟩

/-- A run whose log and whose file could be set up hands its report over. -/
theorem run_emits {texts : List Text} (valid : Arguments.parse texts = .ok arguments)
    (success : (run system environment texts).failure = none) :
    (run system environment texts).Emits arguments.out
        (render arguments (report system arguments)) ∧
      (run system environment texts).exitCode =
        if arguments.failOnViolation && (report system arguments).hasViolations then 1 else 0 := by
  unfold run at success ⊢
  rw [valid] at success ⊢
  dsimp only at success ⊢
  cases logged : logFilter environment arguments.level with
  | error failure =>
      rw [logged] at success
      exact absurd success (failure_failed _ _)
  | ok filter =>
      rw [logged] at success
      exact audit_emits filter success

theorem audit_same {left right : Arguments} (same : left.SameLists right)
    (filter : List Log.Directive) :
    (audit system left filter).Same (audit system right filter) := by
  have sameOut : left.out = right.out := by rw [same.others]
  have sameFail : left.failOnViolation = right.failOnViolation := by rw [same.others]
  have sameFormat : left.format = right.format := by rw [same.others]
  have sameText : render left (report system left) = render right (report system right) := by
    unfold render
    rw [report_eq_of_same_lists system same, sameFormat]
  unfold audit
  dsimp only
  rw [sameText, report_eq_of_same_lists system same, sameOut, sameFail]
  cases right.out with
  | none => exact ⟨rfl, rfl, rfl, rfl⟩
  | some path =>
      dsimp only
      cases system.write path (Utf8.encode (render right (report system right))) with
      | error failure => exact ⟨rfl, rfl, rfl, rfl⟩
      | ok written => exact ⟨rfl, rfl, rfl, rfl⟩

theorem run_same {left right : List Text} {leftArguments rightArguments : Arguments}
    (leftValid : Arguments.parse left = .ok leftArguments)
    (rightValid : Arguments.parse right = .ok rightArguments)
    (same : leftArguments.SameLists rightArguments) :
    (run system environment left).Same (run system environment right) := by
  have sameLevel : leftArguments.level = rightArguments.level := by rw [same.others]
  unfold run
  rw [leftValid, rightValid]
  dsimp only
  rw [sameLevel]
  cases logFilter environment rightArguments.level with
  | error failure => exact ⟨rfl, rfl, rfl, rfl⟩
  | ok filter => exact audit_same same filter

theorem has_violations_iff (report : Report) :
    report.hasViolations = true ↔ ∃ finding ∈ report.findings, finding.items ≠ [] := by
  simp [Report.hasViolations, Finding.isClean]

end Runs

/-- A run with valid arguments, which hold what the options say, that can log and write hands over
the report of evaluating the usable files that it discovers, against the items of its lists. A
report in JSON reads back as that report. The run ends with one exactly if it was asked to fail on
violations and a finding of that report has an item, else with zero. Arguments that differ only in
their lists, but not in the items of these, run in the same way. -/
theorem run_reports_usable_files (system : FileSystem) (environment : Option Text)
    (texts : List Text) (arguments : Arguments) (valid : Arguments.parse texts = .ok arguments) :
    (∃ entries, Lays entries texts ∧ arguments.Tells entries) ∧
      ((run system environment texts).failure = none →
        ∃ (files : Files) (config : RuleConfig),
          (∀ path, files.find? path =
            if path ∈ Discover.discover system arguments.directory arguments.pattern then
              system.instructionSet? path
            else none) ∧
          arguments.Configures config ∧
          (arguments.format = .json →
            ∃ text, (run system environment texts).Emits arguments.out text ∧
              Report.parse? text = some (evaluate files config)) ∧
          (arguments.format = .text →
            (run system environment texts).Emits arguments.out
              ((evaluate files config).toText version)) ∧
          (run system environment texts).exitCode =
            if failArgument ∈ texts ∧
              ∃ finding ∈ (evaluate files config).findings, finding.items ≠ [] then 1
            else 0) ∧
      ∀ others otherArguments, Arguments.parse others = .ok otherArguments →
        arguments.SameLists otherArguments →
          (run system environment texts).Same (run system environment others) := by
  refine ⟨parse_tells valid, ?_, ?_⟩
  · intro success
    obtain ⟨emits, code⟩ := run_emits valid success
    obtain ⟨files, holds⟩ := exists_expected_files system (paths system arguments)
    have same : report system arguments = evaluate files (config arguments) :=
      audit_paths_of_expected system (paths system arguments) (config arguments) files holds
    unfold render at emits
    rw [same] at emits code
    refine ⟨files, config arguments, holds, configures arguments, ?_, ?_, ?_⟩
    · intro json
      rw [json] at emits
      exact ⟨_, emits,
        Report.parse_to_json_append _ ['\n'] (List.forall_mem_singleton.mpr rfl)⟩
    · intro text
      rw [text] at emits
      exact emits
    · rw [code]
      simp only [Bool.and_eq_true, fail_on_violation_iff valid, has_violations_iff]
  · intro others otherArguments otherValid sameLists
    exact run_same valid otherValid sameLists

def lonelyFile : FileSystem :=
  ⟨.directory (.entry "dockerfile".toList
    (.file (Utf8.encode "FROM a\nUSER u\nHEALTHCHECK none".toList) 0o644) .empty), []⟩

def lonelySet : InstructionSet :=
  ⟨"./dockerfile".toList, [⟨"from".toList, [], ["a".toList]⟩, ⟨"user".toList, [], ["u".toList]⟩,
    ⟨"healthcheck".toList, [], ["none".toList]⟩]⟩

def tidyArguments : List Text :=
  ["-b", "b, c", "--out", "r", "--fail-on-violation"].map String.toList

def bareArguments : List Text := ["--out", "r", "--fail-on-violation"].map String.toList

def untidyArguments : List Text :=
  ["--out=r", "--fail-on-violation", "-bc,, b,c"].map String.toList

theorem mem_of_usable {system : FileSystem} {files : Files} {paths : List Text} {path : Text}
    {set : InstructionSet}
    (found : ∀ path, files.find? path = if path ∈ paths then system.instructionSet? path else none)
    (listed : path ∈ paths) (usable : system.instructionSet? path = some set) :
    set ∈ files.sets := by
  refine ((files.find_eq_some_iff path set).mp ?_).1
  rw [found, if_pos listed, usable]

theorem is_item_of_tidy_iff (item : Text) :
    IsItem "b, c".toList item ↔ item = "b".toList ∨ item = "c".toList := by
  have split : parseList "b, c".toList = ["b".toList, "c".toList] := by decide
  rw [← mem_parse_list_iff, split, List.mem_pair]

theorem is_item_of_untidy_iff (item : Text) :
    IsItem "c,, b,c".toList item ↔ item = "b".toList ∨ item = "c".toList := by
  have split : parseList "c,, b,c".toList = ["c".toList, "b".toList, "c".toList] := by decide
  rw [← mem_parse_list_iff, split]
  simp only [List.mem_cons, List.not_mem_nil, or_false]
  tauto

/-- The image is not in the list, so the run fails. Without the list nobody asks for it. -/
theorem run_reports_untrusted_image :
    (run lonelyFile none tidyArguments).exitCode = 1 ∧
      (∃ text report finding, (run lonelyFile none tidyArguments).files.read "r".toList = .ok text ∧
        Report.parse? text = some report ∧ report.get? .trustedBaseImage = some finding ∧
        "./dockerfile: a".toList ∈ finding.items) ∧
      (∃ text report, (run lonelyFile none bareArguments).files.read "r".toList = .ok text ∧
        Report.parse? text = some report ∧ report.get? .trustedBaseImage = none) ∧
      (run lonelyFile none tidyArguments).Same (run lonelyFile none untidyArguments) := by
  have general := run_reports_usable_files lonelyFile none tidyArguments
    ⟨"info".toList, "b, c".toList, [], [], "./".toList, "dockerfile".toList, .json, some "r".toList,
      true⟩ rfl
  obtain ⟨-, reports, sameRuns⟩ := general
  refine ⟨by decide +kernel, ?_, ?_, sameRuns untidyArguments
    ⟨"info".toList, "c,, b,c".toList, [], [], "./".toList, "dockerfile".toList, .json,
      some "r".toList, true⟩ rfl ⟨rfl, ?_, fun _ => Iff.rfl, fun _ => Iff.rfl⟩⟩
  · obtain ⟨files, config, found, configures, json, -⟩ := reports rfl
    obtain ⟨text, ⟨-, read⟩, parsed⟩ := json rfl
    obtain ⟨trusted, given⟩ : ∃ trusted, config.trusted = some trusted := by
      rw [← Option.isSome_iff_exists, configures.trusted.present]
      exact ⟨_, (is_item_of_tidy_iff _).mpr (Or.inl rfl)⟩
    have foreign : "a".toList ∉ trusted := by
      intro member
      have isItem := (configures.trusted.members _).mp ⟨trusted, given, member⟩
      exact absurd ((is_item_of_tidy_iff _).mp isItem) (by decide)
    have listed : "./dockerfile".toList ∈
        Discover.discover lonelyFile "./".toList "dockerfile".toList := by decide +kernel
    have usable : lonelyFile.instructionSet? "./dockerfile".toList = some lonelySet := by
      decide +kernel
    have member : lonelySet ∈ files.sets := mem_of_usable found listed usable
    have enabled : config.isEnabled .trustedBaseImage = true :=
      (configures.enabled _).mpr (Or.inr ⟨_, (is_item_of_tidy_iff _).mpr (Or.inl rfl)⟩)
    refine ⟨text, _, Check.trustedBaseImages trusted files, read, parsed, ?_, ?_⟩
    · rw [get_evaluate, Rule.evaluate, if_pos enabled, RuleConfig.list, given]
      rfl
    · refine (Check.mem_details_of _ files _).mpr ⟨lonelySet, member, "a".toList, ?_, by decide⟩
      exact List.mem_filter.mpr ⟨by decide, by simpa using foreign⟩
  · obtain ⟨-, bareReports, -⟩ := run_reports_usable_files lonelyFile none bareArguments
      ⟨"info".toList, [], [], [], "./".toList, "dockerfile".toList, .json, some "r".toList, true⟩
      rfl
    obtain ⟨files, config, -, configures, json, -⟩ := bareReports rfl
    obtain ⟨text, ⟨-, read⟩, parsed⟩ := json rfl
    have disabled : ¬config.isEnabled .trustedBaseImage = true := by
      rw [configures.enabled]
      rintro (free | ⟨item, isItem⟩)
      · cases free
      · exact List.not_mem_nil ((mem_parse_list_iff [] item).mpr isItem)
    exact ⟨text, _, read, parsed, by rw [get_evaluate, Rule.evaluate_of_disabled _ _ _ disabled]⟩
  · intro item
    rw [is_item_of_tidy_iff, is_item_of_untidy_iff]

end CommandLine
end DockerfileAudit
