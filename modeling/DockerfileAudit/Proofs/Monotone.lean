import DockerfileAudit.Proofs.Verdict

/-!
More instructions and longer lists. What a file has it keeps when statements are added, so the rules
that it breaks by something it has find no less than before, and the rules that it breaks by
something it lacks find no more. Items stay in their order, since the details of a file are sorted
as a set and a larger set only puts more between them.
-/
set_option autoImplicit false

namespace DockerfileAudit

/-- The sorted elements of a part of a set stand in the same order among those of the whole. -/
theorem sorted_set_sublist (left right : List Text) (included : left ⊆ right) :
    (sortedSet left).Sublist (sortedSet right) := by
  have leftAscending := ascending_sorted_set left
  have members : sortedSet left ⊆ sortedSet right := by
    intro item member
    rw [mem_sorted_set] at member ⊢
    exact included member
  exact List.sublist_of_subperm_of_pairwise (List.subperm_of_subset leftAscending.nodup members)
    leftAscending (ascending_sorted_set right)

namespace InstructionSet

def Within (left right : InstructionSet) : Prop := left.instructions ⊆ right.instructions

theorem within_append (set : InstructionSet) (statements : List Statement) :
    set.Within (set.append statements) := by
  intro instruction member
  exact List.mem_append_left _ member

theorem Within.any {left right : InstructionSet} (within : left.Within right)
    {test : Instruction → Bool} (found : left.instructions.any test = true) :
    right.instructions.any test = true := by
  rw [List.any_eq_true] at found ⊢
  obtain ⟨instruction, member, holds⟩ := found
  exact ⟨instruction, within member, holds⟩

theorem Within.positions {left right : InstructionSet} (within : left.Within right) {name : Text}
    {regex : Pattern.Regex} (found : (left.positions name regex).isEmpty = false) :
    (right.positions name regex).isEmpty = false := by
  rw [positions_is_empty, Bool.not_eq_false'] at found ⊢
  exact within.any found

theorem Within.base_images {left right : InstructionSet} (within : left.Within right) :
    left.baseImages ⊆ right.baseImages := by
  intro image member
  rw [mem_base_images] at member ⊢
  obtain ⟨instruction, inside, holds⟩ := member
  exact ⟨instruction, within inside, holds⟩

end InstructionSet

theorem Files.within_register (files : Files) (file : Text) (statements : List Statement)
    (known : (files.find? file).isSome = true) :
    List.Forall₂ (fun a b => a.file = b.file ∧ a.Within b) files.sets
      (files.register file statements).sets := by
  apply forall₂_of_find _ _ _ files.ascending (files.register file statements).ascending
  intro other
  change Option.Rel _ (files.find? other) ((files.register file statements).find? other)
  rw [Files.find_register]
  obtain ⟨set, found⟩ := Option.isSome_iff_exists.mp known
  by_cases same : file = other
  · rw [if_pos same, ← same, found]
    exact Option.Rel.some (set.within_append statements)
  · rw [if_neg same]
    cases files.find? other with
    | none => exact Option.Rel.none
    | some set => exact Option.Rel.some (List.Subset.refl _)

namespace Check

section

variable {Related : InstructionSet → InstructionSet → Prop} {left right : Files}
  (sets : List.Forall₂ (fun a b => a.file = b.file ∧ Related a b) left.sets right.sets)

include sets

theorem files_where_sublist (bad : InstructionSet → Bool)
    (kept : ∀ a b, Related a b → bad a = true → bad b = true) :
    (filesWhere bad left).Sublist (filesWhere bad right) := by
  unfold filesWhere
  generalize left.sets = leftSets, right.sets = rightSets at sets
  induction sets with
  | nil => exact List.Sublist.refl _
  | @cons a b leftRest rightRest first rest ih =>
      by_cases badA : bad a = true
      · rw [List.filter_cons_of_pos badA, List.filter_cons_of_pos (kept a b first.2 badA),
          List.map_cons, List.map_cons, first.1]
        exact ih.cons_cons _
      · rw [List.filter_cons_of_neg badA]
        exact ih.trans (((List.sublist_cons_self b rightRest).filter bad).map _)

theorem details_of_sublist (leftDetails rightDetails : InstructionSet → List Text)
    (kept : ∀ a b, Related a b → leftDetails a ⊆ rightDetails b) :
    (detailsOf leftDetails left).Sublist (detailsOf rightDetails right) := by
  unfold detailsOf
  generalize left.sets = leftSets, right.sets = rightSets at sets
  induction sets with
  | nil => exact List.Sublist.refl _
  | @cons a b leftRest rightRest first rest ih =>
      rw [List.flatMap_cons, List.flatMap_cons, Report.detailItems, Report.detailItems, first.1]
      exact ((sorted_set_sublist _ _ (kept a b first.2)).map _).append ih

end

open InstructionSet (Within)

theorem untrusted_images_subset (few many : List Text) (included : few ⊆ many)
    (left right : InstructionSet) (within : left.Within right) :
    untrustedImages many left ⊆ untrustedImages few right := by
  intro image member
  unfold untrustedImages at member ⊢
  rw [List.mem_filter, Bool.not_eq_true', List.contains_eq_mem, decide_eq_false_iff_not] at member ⊢
  exact ⟨within.base_images member.1, fun trusted => member.2 (included trusted)⟩

theorem installed_packages_subset (few many : List Text) (included : few ⊆ many)
    (left right : InstructionSet) (within : left.Within right) :
    installedPackages (packageMatchers few) left ⊆
      installedPackages (packageMatchers many) right := by
  intro package member
  unfold installedPackages at member ⊢
  obtain ⟨matcher, inside, rfl⟩ := List.mem_map.mp member
  obtain ⟨known, found⟩ := List.mem_filter.mp inside
  obtain ⟨regex, among, some⟩ := List.any_eq_true.mp found
  have stillSome := within.positions (by simpa using some)
  refine List.mem_map_of_mem (List.mem_filter.mpr ⟨List.map_subset _ included known, ?_⟩)
  exact List.any_eq_true.mpr ⟨regex, among, by simpa using stillSome⟩

theorem mem_secret_details (set : InstructionSet) (matcher : Text × Pattern.Regex) (detail : Text) :
    detail ∈ secretDetails set matcher ↔
      ((set.positions "env".toList matcher.2).isEmpty = false ∧
          detail = secretDetail "ENV".toList matcher.1) ∨
        ((set.positions "label".toList matcher.2).isEmpty = false ∧
          detail = secretDetail "LABEL".toList matcher.1) := by
  unfold secretDetails
  rw [List.mem_append]
  cases (set.positions "env".toList matcher.2).isEmpty <;>
    cases (set.positions "label".toList matcher.2).isEmpty <;> simp

theorem secret_details_subset (few many : List Text) (included : few ⊆ many)
    (left right : InstructionSet) (within : left.Within right) :
    (secretMatchers few).flatMap (secretDetails left) ⊆
      (secretMatchers many).flatMap (secretDetails right) := by
  intro detail member
  obtain ⟨matcher, known, found⟩ := List.mem_flatMap.mp member
  refine List.mem_flatMap.mpr ⟨matcher, List.filterMap_subset _ included known, ?_⟩
  rw [mem_secret_details] at found ⊢
  rcases found with ⟨some, same⟩ | ⟨some, same⟩
  · exact Or.inl ⟨within.positions some, same⟩
  · exact Or.inr ⟨within.positions some, same⟩

/-- An update without an install stays one: what is added is other instructions. -/
theorem updates_alone_of_within (matchers : List (Pattern.Regex × Pattern.Regex))
    (left right : InstructionSet) (within : left.Within right)
    (alone : updatesAlone matchers left = true) : updatesAlone matchers right = true := by
  unfold updatesAlone at alone ⊢
  obtain ⟨pair, among, found⟩ := List.any_eq_true.mp alone
  rw [Bool.not_eq_true', unmatched_positions_iff] at found
  obtain ⟨instruction, member, holds⟩ := found
  refine List.any_eq_true.mpr ⟨pair, among, ?_⟩
  rw [Bool.not_eq_true', unmatched_positions_iff]
  exact ⟨instruction, within member, holds⟩

end Check

namespace Rule

/-- Rules that a file breaks by something it lacks. -/
def wantsMore : Rule → Bool
  | .nonRootUser | .healthcheck => true
  | _ => false

section

variable {left right : Files}
  (sets : List.Forall₂ (fun a b => a.file = b.file ∧ a.Within b) left.sets right.sets)

include sets

theorem items_sublist (rule : Rule) (list : List Text) (forbids : rule.wantsMore = false) :
    (rule.items list left).Sublist (rule.items list right) := by
  cases rule with
  | nonRootUser => simp [wantsMore] at forbids
  | trustedBaseImage =>
      exact Check.details_of_sublist sets _ _
        (Check.untrusted_images_subset list list (List.Subset.refl _))
  | disallowedPackage =>
      exact Check.details_of_sublist sets _ _
        (Check.installed_packages_subset list list (List.Subset.refl _))
  | healthcheck => simp [wantsMore] at forbids
  | updateWithoutInstall =>
      exact Check.files_where_sublist sets _ (Check.updates_alone_of_within Check.updateMatchers)
  | copyNotAdd => exact Check.files_where_sublist sets _ fun _ _ within => within.any
  | noSecrets =>
      exact Check.details_of_sublist sets _ _
        (Check.secret_details_subset list list (List.Subset.refl _))

theorem items_sublist_flip (rule : Rule) (list : List Text) (asks : rule.wantsMore = true) :
    (rule.items list right).Sublist (rule.items list left) := by
  have flipped : List.Forall₂ (fun b a : InstructionSet => b.file = a.file ∧ a.Within b)
      right.sets left.sets := sets.flip.imp fun _ _ pair => ⟨pair.1.symm, pair.2⟩
  -- What the smaller file has, the larger one has; so what the larger one lacks, the smaller one
  -- lacks.
  have lacks : ∀ (test : Instruction → Bool) (b a : InstructionSet), a.Within b →
      (!b.instructions.any test) = true → (!a.instructions.any test) = true := by
    intro test b a within missing
    rw [Bool.not_eq_true'] at missing ⊢
    rw [Bool.eq_false_iff] at missing ⊢
    exact fun found => missing (within.any found)
  cases rule with
  | nonRootUser => exact Check.files_where_sublist flipped _ (lacks Check.setsOrdinaryUser)
  | healthcheck =>
      exact Check.files_where_sublist flipped _ (lacks fun instruction =>
        instruction.is "healthcheck".toList)
  | trustedBaseImage => simp [wantsMore] at asks
  | disallowedPackage => simp [wantsMore] at asks
  | updateWithoutInstall => simp [wantsMore] at asks
  | copyNotAdd => simp [wantsMore] at asks
  | noSecrets => simp [wantsMore] at asks

end

/-- What relates the items of a rule relates its findings, for whether there is one is up to the
configuration. -/
theorem rel_evaluate (rule : Rule) (config : RuleConfig) (left right : Files)
    (Related : List Text → List Text → Prop)
    (related : ∀ list, Related (rule.items list left) (rule.items list right)) :
    Option.Rel (fun before after : Finding => Related before.items after.items)
      (rule.evaluate left config) (rule.evaluate right config) := by
  by_cases enabled : config.isEnabled rule = true
  · rw [rule.evaluate_of_enabled left config enabled, rule.evaluate_of_enabled right config enabled]
    exact Option.Rel.some (related _)
  · rw [rule.evaluate_of_disabled left config enabled,
      rule.evaluate_of_disabled right config enabled]
    exact Option.Rel.none

end Rule

/-- Evaluation is monotone. When statements are added to a known file, the items of the rules on
base images, packages, updates, ADD and secrets stay in their order and others may come between
them, and of the items of the rules on users and health checks some may go. Against a larger list
the rules on packages and secrets find no less and the rule on base images no more. -/
theorem evaluation_is_monotone :
    (∀ (config : RuleConfig) (files : Files) (file : Text) (statements : List Statement),
      (files.find? file).isSome = true →
        (∀ rule ∈ [Rule.trustedBaseImage, .disallowedPackage, .updateWithoutInstall, .copyNotAdd,
            .noSecrets],
          Option.Rel (fun before after : Finding => before.items.Sublist after.items)
            (rule.evaluate files config) (rule.evaluate (files.register file statements) config)) ∧
          ∀ rule ∈ [Rule.nonRootUser, .healthcheck],
            Option.Rel (fun before after : Finding => after.items.Sublist before.items)
              (rule.evaluate files config)
              (rule.evaluate (files.register file statements) config)) ∧
      ∀ (files : Files) (few many : List Text), (∀ item ∈ few, item ∈ many) →
        (Check.disallowedPackages few files).items.Sublist
            (Check.disallowedPackages many files).items ∧
          (Check.secrets few files).items.Sublist (Check.secrets many files).items ∧
          (Check.trustedBaseImages many files).items.Sublist
            (Check.trustedBaseImages few files).items := by
  refine ⟨?_, ?_⟩
  · intro config files file statements known
    have sets := files.within_register file statements known
    refine ⟨?_, ?_⟩
    · intro rule among
      have forbids : rule.wantsMore = false := by
        revert rule
        decide
      exact rule.rel_evaluate config files _ (fun before after => before.Sublist after)
        fun list => Rule.items_sublist sets rule list forbids
    · intro rule among
      have asks : rule.wantsMore = true := by
        revert rule
        decide
      exact rule.rel_evaluate config files _ (fun before after => after.Sublist before)
        fun list => Rule.items_sublist_flip sets rule list asks
  · intro files few many included
    have itself : List.Forall₂ (fun a b : InstructionSet => a.file = b.file ∧ a.Within b)
        files.sets files.sets := List.forall₂_same.mpr fun set _ => ⟨rfl, List.Subset.refl _⟩
    exact ⟨Check.details_of_sublist itself _ _ (Check.installed_packages_subset few many included),
      Check.details_of_sublist itself _ _ (Check.secret_details_subset few many included),
      Check.details_of_sublist itself _ _ (Check.untrusted_images_subset few many included)⟩

def Files.ofLoneUpdate : Files :=
  Files.empty.register "f".toList
    [⟨"from".toList, [], ["a".toList]⟩, ⟨"run".toList, [], ["apk update".toList]⟩]

def Statement.laterInstall : List Statement :=
  [⟨"run".toList, [], ["apk add x".toList]⟩, ⟨"user".toList, [], ["u".toList]⟩]

theorem evaluation_is_monotone_after_install :
    Option.Rel (fun before after : Finding => before.items.Sublist after.items)
        (Rule.updateWithoutInstall.evaluate Files.ofLoneUpdate RuleConfig.empty)
        (Rule.updateWithoutInstall.evaluate
          (Files.ofLoneUpdate.register "f".toList Statement.laterInstall) RuleConfig.empty) ∧
      Option.Rel (fun before after : Finding => after.items.Sublist before.items)
        (Rule.nonRootUser.evaluate Files.ofLoneUpdate RuleConfig.empty)
        (Rule.nonRootUser.evaluate
          (Files.ofLoneUpdate.register "f".toList Statement.laterInstall) RuleConfig.empty) ∧
      (Check.trustedBaseImages ["b".toList, "a".toList] Files.ofLoneUpdate).items.Sublist
        (Check.trustedBaseImages ["a".toList] Files.ofLoneUpdate).items := by
  have known : (Files.ofLoneUpdate.find? "f".toList).isSome = true := rfl
  have added := evaluation_is_monotone.1 RuleConfig.empty Files.ofLoneUpdate "f".toList
    Statement.laterInstall known
  have listed := evaluation_is_monotone.2 Files.ofLoneUpdate ["a".toList] ["b".toList, "a".toList]
    (by decide)
  exact ⟨added.1 .updateWithoutInstall (by decide), added.2 .nonRootUser (by decide), listed.2.2⟩

end DockerfileAudit
