import DockerfileAudit.Proofs.Files
import DockerfileAudit.Proofs.Findings

/-!
Files do not meet in a rule. Whether a rule is checked is up to the configuration alone, and what it
finds in many files is what it finds in each of them when there is no other, file after file. So
what is done to one file stays between the items of the files before it and those of the files
behind it.
-/
set_option autoImplicit false

namespace DockerfileAudit
namespace Files

def alone (set : InstructionSet) : Files := ⟨[set], List.pairwise_singleton _ set⟩

def named (files : Files) (test : Text → Bool) : Files :=
  ⟨files.sets.filter fun set => test set.file, files.ascending.filter _⟩

theorem find_named (files : Files) (test : Text → Bool) (name : Text) :
    (files.named test).find? name = if test name then files.find? name else none := by
  unfold named find?
  rw [List.find?_filter]
  by_cases kept : test name = true
  · rw [if_pos kept]
    congr 1
    funext set
    by_cases same : set.file = name
    · simp [same, kept]
    · simp [same]
  · rw [if_neg kept, List.find?_eq_none]
    intro set _ found
    obtain ⟨passes, same⟩ := of_decide_eq_true found
    exact kept (of_decide_eq_true same ▸ passes)

/-- Files that differ under one name only are the same before it and behind it. -/
theorem named_eq_of_same_elsewhere (left right : Files) (name : Text) (test : Text → Bool)
    (excluded : test name = false)
    (elsewhere : ∀ other, other ≠ name → left.find? other = right.find? other) :
    left.named test = right.named test := by
  apply ext_find
  intro other
  rw [find_named, find_named]
  by_cases same : other = name
  · rw [same, excluded]
    rfl
  · rw [elsewhere other same]

theorem filter_below_eq_nil (name : Text) (sets : List InstructionSet)
    (above : ∀ set ∈ sets, name < set.file) :
    (sets.filter fun set => set.file < name) = [] := by
  rw [List.filter_eq_nil_iff]
  intro set member below
  exact List.lt_irrefl name (List.lt_trans (above set member) (of_decide_eq_true below))

theorem filter_above_eq_self (name : Text) (sets : List InstructionSet)
    (above : ∀ set ∈ sets, name < set.file) :
    (sets.filter fun set => name < set.file) = sets := by
  rw [List.filter_eq_self]
  intro set member
  exact decide_eq_true (above set member)

theorem sets_around (files : Files) (name : Text) :
    files.sets = (files.named (· < name)).sets ++ (files.find? name).toList ++
      (files.named (name < ·)).sets := by
  obtain ⟨sets, ascending⟩ := files
  unfold named find?
  dsimp only
  induction sets with
  | nil => rfl
  | cons set rest ih =>
      obtain ⟨below, restAscending⟩ := List.pairwise_cons.mp ascending
      have later := ih restAscending
      rcases Std.lt_trichotomy set.file name with less | same | more
      · have notAbove : ¬name < set.file := fun more =>
          List.lt_irrefl name (List.lt_trans more less)
        have other : set.file ≠ name := fun same => List.lt_irrefl name (same ▸ less)
        rw [find_cons, if_neg other, List.filter_cons_of_pos (by simpa using less),
          List.filter_cons_of_neg (by simpa using notAbove), List.cons_append, List.cons_append,
          ← later]
      · subst same
        have notItself : ¬decide (set.file < set.file) = true := fun less =>
          List.lt_irrefl set.file (of_decide_eq_true less)
        rw [find_cons, if_pos rfl, List.filter_cons_of_neg (by exact notItself),
          List.filter_cons_of_neg (by exact notItself), filter_below_eq_nil _ rest below,
          filter_above_eq_self _ rest below]
        rfl
      · have above : ∀ other ∈ set :: rest, name < other.file := by
          refine List.forall_mem_cons.mpr ⟨more, ?_⟩
          intro other member
          exact List.lt_trans more (below other member)
        rw [filter_below_eq_nil name _ above, filter_above_eq_self name _ above,
          find_eq_none_of_below name _ above]
        rfl

end Files

namespace Check

theorem files_where_eq_flat_map (bad : InstructionSet → Bool) (files : Files) :
    filesWhere bad files = files.sets.flatMap fun set => filesWhere bad (Files.alone set) := by
  unfold filesWhere Files.alone
  dsimp only
  induction files.sets with
  | nil => rfl
  | cons set rest ih =>
      rw [List.flatMap_cons, ← ih, ← List.map_append, ← List.filter_append]
      rfl

theorem details_of_eq_flat_map (details : InstructionSet → List Text) (files : Files) :
    detailsOf details files =
      files.sets.flatMap fun set => detailsOf details (Files.alone set) := by
  unfold detailsOf Files.alone
  simp only [List.flatMap_singleton]

end Check

namespace Rule

theorem items_cases (rule : Rule) (list : List Text) :
    (∃ bad, ∀ files, rule.items list files = Check.filesWhere bad files) ∨
      ∃ details, ∀ files, rule.items list files = Check.detailsOf details files := by
  cases rule with
  | nonRootUser | healthcheck | updateWithoutInstall | copyNotAdd => exact Or.inl ⟨_, fun _ => rfl⟩
  | trustedBaseImage | disallowedPackage | noSecrets => exact Or.inr ⟨_, fun _ => rfl⟩

/-- No check carries anything from one file to the next. -/
theorem items_eq_flat_map (rule : Rule) (list : List Text) (files : Files) :
    rule.items list files = files.sets.flatMap fun set => rule.items list (Files.alone set) := by
  obtain ⟨bad, same⟩ | ⟨details, same⟩ := rule.items_cases list
  · simp only [same]
    exact Check.files_where_eq_flat_map bad files
  · simp only [same]
    exact Check.details_of_eq_flat_map details files

def itemsAlone (rule : Rule) (config : RuleConfig) (set : InstructionSet) : List Text :=
  (rule.evaluate (Files.alone set) config).elim [] Finding.items

theorem items_alone_of_enabled (rule : Rule) (config : RuleConfig) (set : InstructionSet)
    (enabled : config.isEnabled rule = true) :
    rule.itemsAlone config set =
      rule.items ((config.list rule).getD []) (Files.alone set) := by
  rw [itemsAlone, rule.evaluate_of_enabled _ config enabled]
  rfl

theorem items_of_evaluate (rule : Rule) (files : Files) (config : RuleConfig) (finding : Finding)
    (found : rule.evaluate files config = some finding) :
    finding.items = files.sets.flatMap (rule.itemsAlone config) := by
  have enabled : config.isEnabled rule = true := by
    rw [← rule.is_some_evaluate files config, found]
    rfl
  have each : rule.itemsAlone config = fun set =>
      rule.items ((config.list rule).getD []) (Files.alone set) := by
    funext set
    exact rule.items_alone_of_enabled config set enabled
  rw [rule.evaluate_of_enabled files config enabled] at found
  rw [each, ← items_eq_flat_map, ← Option.some.inj found]
  rfl

/-- Files are evaluated each for itself. Whether there is a finding does not depend on the files;
its items are those of the files one by one, and the names of files ascend. If two maps differ at
most under one name, their findings differ at most in the items of that file: those of the files
before it and behind it are the same and in the same places. -/
theorem evaluate_isolates_files (rule : Rule) (config : RuleConfig) :
    (∀ left right : Files,
      rule.evaluate left config = none ↔ rule.evaluate right config = none) ∧
      (∀ (files : Files) (finding : Finding), rule.evaluate files config = some finding →
        finding.items = files.sets.flatMap (rule.itemsAlone config)) ∧
      ∀ (left right : Files) (name : Text) (before after : Finding),
        (∀ other, other ≠ name → left.find? other = right.find? other) →
        rule.evaluate left config = some before → rule.evaluate right config = some after →
          before.items = (left.named (· < name)).sets.flatMap (rule.itemsAlone config) ++
              (left.find? name).toList.flatMap (rule.itemsAlone config) ++
              (left.named (name < ·)).sets.flatMap (rule.itemsAlone config) ∧
            after.items = (left.named (· < name)).sets.flatMap (rule.itemsAlone config) ++
              (right.find? name).toList.flatMap (rule.itemsAlone config) ++
              (left.named (name < ·)).sets.flatMap (rule.itemsAlone config) := by
  refine ⟨?_, ?_, ?_⟩
  · intro left right
    rw [← Option.not_isSome_iff_eq_none, ← Option.not_isSome_iff_eq_none, is_some_evaluate,
      is_some_evaluate]
  · intro files finding found
    exact items_of_evaluate rule files config finding found
  · intro left right name before after elsewhere leftFound rightFound
    have notItself : decide (name < name) = false := decide_eq_false (List.lt_irrefl name)
    have sameLower :=
      Files.named_eq_of_same_elsewhere left right name (· < name) notItself elsewhere
    have sameUpper :=
      Files.named_eq_of_same_elsewhere left right name (name < ·) notItself elsewhere
    constructor
    · rw [items_of_evaluate rule left config before leftFound, left.sets_around name,
        List.flatMap_append, List.flatMap_append]
    · rw [items_of_evaluate rule right config after rightFound, right.sets_around name,
        List.flatMap_append, List.flatMap_append, sameLower, sameUpper]

def threeAdding : Files :=
  ⟨["a".toList, "b".toList, "c".toList].map fun name =>
    ⟨name, [⟨"add".toList, [], ["x".toList, "y".toList]⟩]⟩, by decide⟩

def twoAdding : Files := threeAdding.named (· ≠ "b".toList)

theorem evaluate_isolates_removed_file :
    (∀ other, other ≠ "b".toList → threeAdding.find? other = twoAdding.find? other) ∧
      (Rule.copyNotAdd.evaluate threeAdding RuleConfig.empty).map Finding.items =
        some (["a".toList] ++ ["b".toList] ++ ["c".toList]) ∧
      (Rule.copyNotAdd.evaluate twoAdding RuleConfig.empty).map Finding.items =
        some (["a".toList] ++ [] ++ ["c".toList]) := by
  have elsewhere : ∀ other, other ≠ "b".toList →
      threeAdding.find? other = twoAdding.find? other := by
    intro other different
    rw [twoAdding, Files.find_named, if_pos (by simpa using different)]
  have split := (evaluate_isolates_files .copyNotAdd RuleConfig.empty).2.2 threeAdding twoAdding
    "b".toList _ _ elsewhere rfl rfl
  exact ⟨elsewhere, congrArg some split.1, congrArg some split.2⟩

end Rule
end DockerfileAudit
