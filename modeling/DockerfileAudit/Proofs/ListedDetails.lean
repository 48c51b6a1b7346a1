import DockerfileAudit.Proofs.Isolation
import DockerfileAudit.Proofs.Monotone

/-!
The rules that are checked against a list. What such a rule reports of a file is a set of details,
which is said here in terms of the members of the list and of the instructions of the file. Members
that cannot be used as patterns have no part in it.
-/
set_option autoImplicit false

namespace DockerfileAudit

theorem Instruction.matches_iff (name : Text) (regex : Pattern.Regex) (instruction : Instruction) :
    instruction.matches name regex = true ↔
      instruction.is name = true ∧ ∃ token ∈ instruction.content, regex.isIn token = true := by
  rw [Instruction.matches, Bool.and_eq_true, List.any_eq_true]

namespace InstructionSet

def Finds (set : InstructionSet) (name : Text) (regex : Pattern.Regex) : Prop :=
  ∃ instruction ∈ set.instructions, instruction.is name = true ∧
    ∃ token ∈ instruction.content, regex.isIn token = true

theorem positions_is_empty_iff (set : InstructionSet) (name : Text) (regex : Pattern.Regex) :
    (set.positions name regex).isEmpty = false ↔ set.Finds name regex := by
  rw [positions_is_empty, Bool.not_eq_false', List.any_eq_true]
  simp only [Instruction.matches_iff, Finds]

end InstructionSet

namespace Check

section Details

variable (details : InstructionSet → List Text)

theorem mem_details_of (files : Files) (item : Text) :
    item ∈ detailsOf details files ↔
      ∃ set ∈ files.sets, ∃ detail ∈ details set, Report.detailItem set.file detail = item := by
  unfold detailsOf Report.detailItems
  simp only [List.mem_flatMap, List.mem_map, mem_sorted_set]

theorem mem_details_of_alone (set : InstructionSet) (detail : Text) :
    Report.detailItem set.file detail ∈ detailsOf details (Files.alone set) ↔
      detail ∈ details set := by
  rw [mem_details_of]
  constructor
  · rintro ⟨other, member, found, inside, same⟩
    obtain rfl := List.mem_singleton.mp member
    exact List.append_cancel_left same ▸ inside
  · intro inside
    exact ⟨set, List.mem_singleton_self set, detail, inside, rfl⟩

theorem details_of_eq_of_same_members (others : InstructionSet → List Text)
    (same : ∀ set detail, detail ∈ details set ↔ detail ∈ others set) (files : Files) :
    detailsOf details files = detailsOf others files := by
  unfold detailsOf Report.detailItems
  congr 1
  funext set
  rw [sorted_set_eq_of_same_members _ _ (same set)]

/-- The items of the files one after the other, where those of a file are its details, all of them,
each once and in ascending order. -/
def ListsExactly (items : List Text) (files : Files) (IsDetail : InstructionSet → Text → Prop) :
    Prop :=
  ∃ ordered : InstructionSet → List Text,
    items = files.sets.flatMap (fun set =>
      (ordered set).map fun detail => set.file ++ ": ".toList ++ detail) ∧
    ∀ set, (ordered set).Pairwise (· < ·) ∧ ∀ detail, detail ∈ ordered set ↔ IsDetail set detail

theorem details_of_lists_exactly (files : Files) (IsDetail : InstructionSet → Text → Prop)
    (exact : ∀ set detail, detail ∈ details set ↔ IsDetail set detail) :
    ListsExactly (detailsOf details files) files IsDetail := by
  refine ⟨fun set => sortedSet (details set), rfl, ?_⟩
  intro set
  refine ⟨ascending_sorted_set _, ?_⟩
  intro detail
  rw [mem_sorted_set, exact set detail]

end Details

theorem mem_untrusted_images (trusted : List Text) (set : InstructionSet) (image : Text) :
    image ∈ untrustedImages trusted set ↔
      image ∉ trusted ∧ ∃ instruction ∈ set.instructions, instruction.is "from".toList = true ∧
        instruction.content.head? = some image := by
  unfold untrustedImages
  rw [List.mem_filter, InstructionSet.mem_base_images, Bool.not_eq_true', List.contains_eq_mem,
    decide_eq_false_iff_not, and_comm]

theorem mem_usable_patterns (package : Text) (regex : Pattern.Regex) :
    regex ∈ (packagePatterns package).filterMap Pattern.compile ↔
      ∃ idiom ∈ installIdioms, Pattern.compile (idiom ++ package) = some regex := by
  rw [packagePatterns, List.filterMap_map, List.mem_filterMap]
  rfl

theorem mem_installed_packages (packages : List Text) (set : InstructionSet) (package : Text) :
    package ∈ installedPackages (packageMatchers packages) set ↔
      package ∈ packages ∧ ∃ idiom ∈ installIdioms, ∃ regex,
        Pattern.compile (idiom ++ package) = some regex ∧ set.Finds "run".toList regex := by
  unfold installedPackages packageMatchers
  simp only [List.mem_map, List.mem_filter, List.any_eq_true, Bool.not_eq_true',
    InstructionSet.positions_is_empty_iff]
  constructor
  · rintro ⟨_, ⟨⟨package, listed, rfl⟩, regex, among, found⟩, rfl⟩
    obtain ⟨idiom, known, usable⟩ := (mem_usable_patterns package regex).mp among
    exact ⟨listed, idiom, known, regex, usable, found⟩
  · rintro ⟨listed, idiom, known, regex, usable, found⟩
    have among := (mem_usable_patterns package regex).mpr ⟨idiom, known, usable⟩
    exact ⟨_, ⟨⟨package, listed, rfl⟩, regex, among, found⟩, rfl⟩

theorem mem_all_secret_details (patterns : List Text) (set : InstructionSet) (detail : Text) :
    detail ∈ (secretMatchers patterns).flatMap (secretDetails set) ↔
      ∃ pattern ∈ patterns, ∃ regex, Pattern.compile pattern = some regex ∧
        (detail = secretDetail "ENV".toList pattern ∧ set.Finds "env".toList regex ∨
          detail = secretDetail "LABEL".toList pattern ∧ set.Finds "label".toList regex) := by
  unfold secretMatchers
  simp only [List.mem_flatMap, List.mem_filterMap, Option.map_eq_some_iff, mem_secret_details,
    InstructionSet.positions_is_empty_iff]
  constructor
  · rintro ⟨_, ⟨pattern, listed, regex, usable, rfl⟩, ⟨found, same⟩ | ⟨found, same⟩⟩
    · exact ⟨pattern, listed, regex, usable, Or.inl ⟨same, found⟩⟩
    · exact ⟨pattern, listed, regex, usable, Or.inr ⟨same, found⟩⟩
  · rintro ⟨pattern, listed, regex, usable, ⟨same, found⟩ | ⟨same, found⟩⟩
    · exact ⟨_, ⟨pattern, listed, regex, usable, rfl⟩, Or.inl ⟨found, same⟩⟩
    · exact ⟨_, ⟨pattern, listed, regex, usable, rfl⟩, Or.inr ⟨found, same⟩⟩

/-- Whether some pattern of the package can be used. -/
def isUsablePackage (package : Text) : Bool :=
  installIdioms.any fun idiom => (Pattern.compile (idiom ++ package)).isSome

theorem disallowed_packages_filter (packages : List Text) (files : Files) :
    disallowedPackages (packages.filter isUsablePackage) files =
      disallowedPackages packages files := by
  apply congrArg (Finding.of .disallowedPackage)
  apply details_of_eq_of_same_members
  intro set package
  rw [mem_installed_packages, mem_installed_packages, List.mem_filter]
  constructor
  · rintro ⟨⟨listed, -⟩, found⟩
    exact ⟨listed, found⟩
  · rintro ⟨listed, idiom, known, regex, usable, found⟩
    have isUsable : isUsablePackage package = true :=
      List.any_eq_true.mpr ⟨idiom, known, by rw [usable]; rfl⟩
    exact ⟨⟨listed, isUsable⟩, idiom, known, regex, usable, found⟩

theorem secrets_filter (patterns : List Text) (files : Files) :
    secrets (patterns.filter fun pattern => (Pattern.compile pattern).isSome) files =
      secrets patterns files := by
  apply congrArg (Finding.of .noSecrets)
  apply details_of_eq_of_same_members
  intro set detail
  rw [mem_all_secret_details, mem_all_secret_details]
  constructor
  · rintro ⟨pattern, listed, found⟩
    exact ⟨pattern, (List.mem_filter.mp listed).1, found⟩
  · rintro ⟨pattern, listed, regex, usable, found⟩
    exact ⟨pattern, List.mem_filter.mpr ⟨listed, by rw [usable]; rfl⟩, regex, usable, found⟩

/-- The rules against a list report what they define and nothing else. For each file in turn the
details ascend, without repetition, and are: the images of FROM that are not in the list; the
members of the list that a usable pattern finds installed; what the usable members find in the
environment and in the labels. Without the members that cannot be used the items are the same. -/
theorem list_rules_report_exactly (files : Files) (list : List Text) :
    ListsExactly (trustedBaseImages list files).items files (fun set image =>
        image ∉ list ∧ ∃ instruction ∈ set.instructions, instruction.is "from".toList = true ∧
          instruction.content.head? = some image) ∧
      ListsExactly (disallowedPackages list files).items files (fun set package =>
        package ∈ list ∧ ∃ idiom ∈ installIdioms, ∃ regex,
          Pattern.compile (idiom ++ package) = some regex ∧ set.Finds "run".toList regex) ∧
      ListsExactly (secrets list files).items files (fun set detail =>
        ∃ pattern ∈ list, ∃ regex, Pattern.compile pattern = some regex ∧
          (detail = "ENV contains '".toList ++ pattern ++ "'".toList ∧
              set.Finds "env".toList regex ∨
            detail = "LABEL contains '".toList ++ pattern ++ "'".toList ∧
              set.Finds "label".toList regex)) ∧
      disallowedPackages (list.filter isUsablePackage) files = disallowedPackages list files ∧
      secrets (list.filter fun pattern => (Pattern.compile pattern).isSome) files =
        secrets list files :=
  ⟨details_of_lists_exactly _ files _ (mem_untrusted_images list),
    details_of_lists_exactly _ files _ (mem_installed_packages list),
    details_of_lists_exactly _ files _ (mem_all_secret_details list),
    disallowed_packages_filter list files, secrets_filter list files⟩

end Check
end DockerfileAudit
