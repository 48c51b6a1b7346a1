import DockerfileAudit.Proofs.Files
import DockerfileAudit.Proofs.Findings
import DockerfileAudit.Proofs.Query

/-!
What the rules can see. Of the instructions of a file they see which directives there are, without
regard to the case of ASCII letters, and with which contents. Order, repetition and flags are out of
sight, and so are the positions that one of the rules compares on the way.
-/
set_option autoImplicit false

namespace DockerfileAudit

def Instruction.visible (instruction : Instruction) : Text × List Text :=
  (instruction.directive.map Text.asciiLower, instruction.content)

namespace InstructionSet

/-- Two files with the same visible instructions, in any order and number. -/
def SameVisible (left right : InstructionSet) : Prop :=
  ∀ pair, pair ∈ left.instructions.map Instruction.visible ↔
    pair ∈ right.instructions.map Instruction.visible

instance : DecidableRel SameVisible := fun left right =>
  decidable_of_iff
    ((∀ pair ∈ left.instructions.map Instruction.visible,
        pair ∈ right.instructions.map Instruction.visible) ∧
      ∀ pair ∈ right.instructions.map Instruction.visible,
        pair ∈ left.instructions.map Instruction.visible)
    ⟨fun both pair => ⟨both.1 pair, both.2 pair⟩,
      fun same => ⟨fun pair => (same pair).mp, fun pair => (same pair).mpr⟩⟩

theorem SameVisible.exists_iff {left right : InstructionSet} (same : left.SameVisible right)
    (test : Text × List Text → Prop) :
    (∃ instruction ∈ left.instructions, test instruction.visible) ↔
      ∃ instruction ∈ right.instructions, test instruction.visible := by
  constructor
  · rintro ⟨instruction, member, holds⟩
    obtain ⟨other, otherMember, equal⟩ :=
      List.mem_map.mp ((same _).mp (List.mem_map_of_mem member))
    exact ⟨other, otherMember, by rw [equal]; exact holds⟩
  · rintro ⟨instruction, member, holds⟩
    obtain ⟨other, otherMember, equal⟩ :=
      List.mem_map.mp ((same _).mpr (List.mem_map_of_mem member))
    exact ⟨other, otherMember, by rw [equal]; exact holds⟩

theorem SameVisible.any_eq {left right : InstructionSet} (same : left.SameVisible right)
    (test : Text × List Text → Bool) :
    (left.instructions.any fun instruction => test instruction.visible) =
      right.instructions.any fun instruction => test instruction.visible := by
  rw [Bool.eq_iff_iff, List.any_eq_true, List.any_eq_true]
  exact same.exists_iff fun pair => test pair = true

theorem SameVisible.has_directive_eq {left right : InstructionSet} (same : left.SameVisible right)
    (name : Text) : left.hasDirective name = right.hasDirective name :=
  same.any_eq fun pair => pair.1 == name.map Text.asciiLower

theorem SameVisible.any_matches_eq {left right : InstructionSet} (same : left.SameVisible right)
    (name : Text) (regex : Pattern.Regex) :
    left.instructions.any (Instruction.matches name regex) =
      right.instructions.any (Instruction.matches name regex) :=
  same.any_eq fun pair => pair.1 == name.map Text.asciiLower && pair.2.any regex.isIn

theorem SameVisible.mem_base_images_iff {left right : InstructionSet}
    (same : left.SameVisible right) (image : Text) :
    image ∈ left.baseImages ↔ image ∈ right.baseImages := by
  rw [mem_base_images, mem_base_images]
  exact same.exists_iff fun pair =>
    (pair.1 == "from".toList.map Text.asciiLower) = true ∧ pair.2.head? = some image

end InstructionSet

namespace Check

open InstructionSet (SameVisible)

theorem unmatched_positions_iff (set : InstructionSet) (update install : Pattern.Regex) :
    (unmatchedPositions (set.positions "run".toList update)
        (set.positions "run".toList install)).isEmpty = false ↔
      ∃ instruction ∈ set.instructions, instruction.matches "run".toList update = true ∧
        instruction.matches "run".toList install = false := by
  -- A position stands for one instruction, so comparing positions is asking one instruction both.
  rw [← Bool.not_eq_true, unmatched_positions_is_empty]
  push Not
  constructor
  · rintro ⟨position, updates, alone⟩
    obtain ⟨instruction, there, found⟩ := (InstructionSet.mem_positions _ _ _ _).mp updates
    refine ⟨instruction, List.mem_of_getElem? there, found, ?_⟩
    rw [Bool.eq_false_iff]
    intro installs
    exact alone ((InstructionSet.mem_positions _ _ _ _).mpr ⟨instruction, there, installs⟩)
  · rintro ⟨instruction, member, found, lacks⟩
    obtain ⟨position, there⟩ := List.mem_iff_getElem?.mp member
    refine ⟨position, (InstructionSet.mem_positions _ _ _ _).mpr ⟨instruction, there, found⟩, ?_⟩
    intro installs
    obtain ⟨other, otherThere, otherFound⟩ := (InstructionSet.mem_positions _ _ _ _).mp installs
    rw [there] at otherThere
    rw [← Option.some.inj otherThere, lacks] at otherFound
    simp at otherFound

theorem updates_alone_eq (matchers : List (Pattern.Regex × Pattern.Regex))
    {left right : InstructionSet} (same : left.SameVisible right) :
    updatesAlone matchers left = updatesAlone matchers right := by
  unfold updatesAlone
  congr 1
  funext pair
  rw [Bool.eq_iff_iff, Bool.not_eq_true', Bool.not_eq_true', unmatched_positions_iff,
    unmatched_positions_iff]
  exact same.exists_iff fun seen =>
    (seen.1 == "run".toList.map Text.asciiLower && seen.2.any pair.1.isIn) = true ∧
      (seen.1 == "run".toList.map Text.asciiLower && seen.2.any pair.2.isIn) = false

theorem sets_ordinary_user_eq (instruction : Instruction) :
    setsOrdinaryUser instruction =
      (instruction.is "user".toList && instruction.content.head?.any isOrdinaryUser) := by
  unfold setsOrdinaryUser
  cases instruction.content with
  | nil => rfl
  | cons spec rest => rfl

theorem any_sets_ordinary_user_eq {left right : InstructionSet} (same : left.SameVisible right) :
    left.instructions.any setsOrdinaryUser = right.instructions.any setsOrdinaryUser := by
  rw [funext sets_ordinary_user_eq]
  exact same.any_eq fun pair =>
    pair.1 == "user".toList.map Text.asciiLower && pair.2.head?.any isOrdinaryUser

theorem mem_untrusted_images_iff (trusted : List Text) {left right : InstructionSet}
    (same : left.SameVisible right) (image : Text) :
    image ∈ untrustedImages trusted left ↔ image ∈ untrustedImages trusted right := by
  unfold untrustedImages
  rw [List.mem_filter, List.mem_filter, same.mem_base_images_iff]

theorem installed_packages_eq (matchers : List (Text × List Pattern.Regex))
    {left right : InstructionSet} (same : left.SameVisible right) :
    installedPackages matchers left = installedPackages matchers right := by
  unfold installedPackages
  simp only [InstructionSet.positions_is_empty, same.any_matches_eq]

theorem secret_details_eq {left right : InstructionSet} (same : left.SameVisible right) :
    secretDetails left = secretDetails right := by
  funext matcher
  unfold secretDetails
  simp only [InstructionSet.positions_is_empty, same.any_matches_eq]

section

variable {left right : Files}
  (sets : List.Forall₂ (fun a b => a.file = b.file ∧ SameVisible a b) left.sets right.sets)

include sets

theorem files_where_eq (bad : InstructionSet → Bool)
    (blind : ∀ {a b : InstructionSet}, a.SameVisible b → bad a = bad b) :
    filesWhere bad left = filesWhere bad right := by
  unfold filesWhere
  generalize left.sets = leftSets, right.sets = rightSets at sets
  induction sets with
  | nil => rfl
  | cons first rest ih =>
      rw [List.filter_cons, List.filter_cons, blind first.2]
      split
      · rw [List.map_cons, List.map_cons, first.1, ih]
      · exact ih

theorem details_of_eq (details : InstructionSet → List Text)
    (blind : ∀ {a b : InstructionSet}, a.SameVisible b →
      ∀ detail, detail ∈ details a ↔ detail ∈ details b) :
    detailsOf details left = detailsOf details right := by
  unfold detailsOf
  generalize left.sets = leftSets, right.sets = rightSets at sets
  induction sets with
  | nil => rfl
  | cons first rest ih =>
      have sorted := sorted_set_eq_of_same_members _ _ (blind first.2)
      rw [List.flatMap_cons, List.flatMap_cons, Report.detailItems, Report.detailItems, first.1,
        sorted, ih]

theorem items_eq (rule : Rule) (list : List Text) :
    rule.items list left = rule.items list right := by
  cases rule with
  | nonRootUser =>
      exact files_where_eq sets _ fun same => by rw [any_sets_ordinary_user_eq same]
  | trustedBaseImage => exact details_of_eq sets _ fun same => mem_untrusted_images_iff list same
  | disallowedPackage =>
      exact details_of_eq sets _ fun same detail => by rw [installed_packages_eq _ same]
  | healthcheck =>
      exact files_where_eq sets _ fun same => by rw [same.has_directive_eq]
  | updateWithoutInstall => exact files_where_eq sets _ fun same => updates_alone_eq _ same
  | copyNotAdd => exact files_where_eq sets _ fun same => same.has_directive_eq _
  | noSecrets =>
      refine details_of_eq sets _ ?_
      intro a b same detail
      rw [secret_details_eq same]

end

end Check

/-- Two maps with the same visible instructions under each name have the same report. -/
theorem evaluate_of_same_visible (left right : Files) (config : RuleConfig)
    (same : ∀ file, Option.Rel InstructionSet.SameVisible (left.find? file) (right.find? file)) :
    evaluate left config = evaluate right config := by
  have sets := forall₂_of_find _ left.sets right.sets left.ascending right.ascending same
  unfold evaluate
  congr 2
  funext rule
  by_cases enabled : config.isEnabled rule = true
  · rw [rule.evaluate_of_enabled left config enabled, rule.evaluate_of_enabled right config enabled,
      Rule.finding, Rule.finding, Check.items_eq sets]
  · rw [rule.evaluate_of_disabled left config enabled,
      rule.evaluate_of_disabled right config enabled]

/-- The report depends on each file only through the set of its directives, up to the case of ASCII
letters, with their contents. So nothing changes when instructions are moved, repeated, given other
flags or written in other letters. -/
theorem evaluate_depends_on_visible_sets (left right : Files) (config : RuleConfig)
    (sameNames : ∀ file, (left.find? file).isSome = (right.find? file).isSome)
    (sameSets : ∀ file a b, left.find? file = some a → right.find? file = some b →
      ∀ pair, pair ∈ a.instructions.map Instruction.visible ↔
        pair ∈ b.instructions.map Instruction.visible) :
    evaluate left config = evaluate right config := by
  apply evaluate_of_same_visible
  intro file
  have names := sameNames file
  cases leftFound : left.find? file with
  | none =>
      cases rightFound : right.find? file with
      | none => exact Option.Rel.none
      | some b => simp [leftFound, rightFound] at names
  | some a =>
      cases rightFound : right.find? file with
      | none => simp [leftFound, rightFound] at names
      | some b => exact Option.Rel.some (sameSets file a b leftFound rightFound)

def Files.plainExample : Files :=
  ⟨[⟨"f".toList, [⟨"run".toList, [], ["apk update && apk add x".toList]⟩,
    ⟨"user".toList, [], ["app".toList]⟩]⟩], by simp⟩

def Files.shuffledExample : Files :=
  ⟨[⟨"f".toList, [⟨"USER".toList, [], ["app".toList]⟩,
    ⟨"Run".toList, ["--network=none".toList], ["apk update && apk add x".toList]⟩,
    ⟨"user".toList, [], ["app".toList]⟩]⟩], by simp⟩

theorem evaluate_shuffled_example :
    evaluate Files.plainExample ⟨some [], some ["x".toList], none⟩ =
      evaluate Files.shuffledExample ⟨some [], some ["x".toList], none⟩ := by
  apply evaluate_depends_on_visible_sets
  · intro file
    unfold Files.find? Files.plainExample Files.shuffledExample
    simp only [find_cons]
    split <;> rfl
  · intro file a b leftFound rightFound
    unfold Files.find? Files.plainExample at leftFound
    unfold Files.find? Files.shuffledExample at rightFound
    simp only [find_cons, List.find?_nil] at leftFound rightFound
    split at leftFound
    · rename_i here
      rw [if_pos here] at rightFound
      rw [← Option.some.inj leftFound, ← Option.some.inj rightFound]
      have same : InstructionSet.SameVisible
          ⟨"f".toList, [⟨"run".toList, [], ["apk update && apk add x".toList]⟩,
            ⟨"user".toList, [], ["app".toList]⟩]⟩
          ⟨"f".toList, [⟨"USER".toList, [], ["app".toList]⟩,
            ⟨"Run".toList, ["--network=none".toList], ["apk update && apk add x".toList]⟩,
            ⟨"user".toList, [], ["app".toList]⟩]⟩ := by decide +kernel
      exact same
    · simp at leftFound

end DockerfileAudit
