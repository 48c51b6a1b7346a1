import DockerfileAudit.Proofs.ListedDetails
import DockerfileAudit.Proofs.PlainPattern

/-!
The rules about package managers, in terms of the commands that stand in the content of RUN. The
rule on updates asks each instruction for itself whether it updates and does not install. The rule
on packages wants something between the command and the name of a package, so a package that stands
first behind a single blank escapes it.
-/
set_option autoImplicit false

namespace DockerfileAudit

open Pattern

namespace Check

theorem ascending_files_where (bad : InstructionSet → Bool) (files : Files) :
    (filesWhere bad files).Pairwise (· < ·) := by
  unfold filesWhere
  exact List.pairwise_map.mpr (files.ascending.filter bad)

theorem mem_files_where (bad : InstructionSet → Bool) (files : Files) (name : Text) :
    name ∈ filesWhere bad files ↔ ∃ set, files.find? name = some set ∧ bad set = true := by
  unfold filesWhere
  simp only [List.mem_map, List.mem_filter, Files.find_eq_some_iff]
  constructor
  · rintro ⟨set, ⟨member, isBad⟩, same⟩
    exact ⟨set, ⟨member, same⟩, isBad⟩
  · rintro ⟨set, ⟨member, same⟩, isBad⟩
    exact ⟨set, ⟨member, isBad⟩, same⟩

end Check

structure PackageManager where
  name : Text
  install : Text

namespace PackageManager

def all : List PackageManager :=
  [⟨"apt".toList, "install".toList⟩, ⟨"apt-get".toList, "install".toList⟩,
    ⟨"apk".toList, "add".toList⟩]

def commandParts (first second : Text) : List Part :=
  first.map Part.char ++ Part.blanks :: second.map Part.char

/-- The two words behind each other, in capital or small letters, with nothing but blanks between
them. -/
def IsCommand (first second command : Text) : Prop :=
  ∃ word gap other, command = word ++ (gap ++ other) ∧ SameFolds word first ∧
    (gap ≠ [] ∧ ∀ c ∈ gap, Text.isBlank c = true) ∧ SameFolds other second

def HoldsCommand (first second text : Text) : Prop :=
  ∃ front command back, text = front ++ (command ++ back) ∧ IsCommand first second command

theorem fits_all_command (first second command : Text) :
    FitsAll (commandParts first second) command ↔ IsCommand first second command := by
  simp only [commandParts, fits_all_append, FitsAll, Part.Fits, fits_all_chars, IsCommand]
  constructor
  · rintro ⟨word, _, rfl, same, gap, other, rfl, blank, sameOther⟩
    exact ⟨word, gap, other, rfl, same, blank, sameOther⟩
  · rintro ⟨word, gap, other, rfl, same, blank, sameOther⟩
    exact ⟨word, gap ++ other, rfl, same, gap, other, rfl, blank, sameOther⟩

theorem is_in_command (first second text : Text) :
    (regexOf (commandParts first second)).isIn text = true ↔ HoldsCommand first second text := by
  rw [is_in_parts]
  simp only [fits_all_command, HoldsCommand]

theorem plain_chars {word : Text} (plain : ∀ c ∈ word, isPlainChar c = true) :
    ∀ part ∈ word.map Part.char, part.Plain := by
  intro part member
  obtain ⟨c, inWord, rfl⟩ := List.mem_map.mp member
  exact plain c inWord

theorem plain_command {first second : Text} (firstPlain : ∀ c ∈ first, isPlainChar c = true)
    (secondPlain : ∀ c ∈ second, isPlainChar c = true) :
    ∀ part ∈ commandParts first second, part.Plain := by
  intro part member
  rcases List.mem_append.mp member with early | late
  · exact plain_chars firstPlain part early
  · rcases List.mem_cons.mp late with rfl | inSecond
    · trivial
    · exact plain_chars secondPlain part inSecond

theorem all_plain (manager : PackageManager) (member : manager ∈ all) :
    (∀ c ∈ manager.name, isPlainChar c = true) ∧ ∀ c ∈ manager.install, isPlainChar c = true := by
  have each : ∀ manager ∈ all, manager.name.all isPlainChar = true ∧
      manager.install.all isPlainChar = true := by
    unfold all
    decide
  obtain ⟨name, install⟩ := each manager member
  exact ⟨List.all_eq_true.mp name, List.all_eq_true.mp install⟩

section Updates

def updateParts (manager : PackageManager) : List Part := commandParts manager.name "update".toList

def installParts (manager : PackageManager) : List Part :=
  commandParts manager.name manager.install

theorem update_patterns_eq :
    Check.updatePatterns = all.map fun manager =>
      (writeParts manager.updateParts, writeParts manager.installParts) := rfl

theorem update_matchers_eq :
    Check.updateMatchers = all.map fun manager =>
      (regexOf manager.updateParts, regexOf manager.installParts) := by
  have small : ∀ manager ∈ all, partsRoom manager.updateParts + Room.around ≤ mostRoom ∧
      partsRoom manager.installParts + Room.around ≤ mostRoom := by
    unfold all
    decide
  unfold Check.updateMatchers
  rw [update_patterns_eq, List.filterMap_map, ← List.filterMap_eq_map]
  apply List.filterMap_congr
  intro manager member
  obtain ⟨namePlain, installPlain⟩ := all_plain manager member
  obtain ⟨updateSmall, installSmall⟩ := small manager member
  have update := compile_parts manager.updateParts
    (plain_command namePlain (List.all_eq_true.mp (by decide)))
    (by simp [updateParts, commandParts])
  have install := compile_parts manager.installParts
    (plain_command namePlain installPlain) (by simp [installParts, commandParts])
  rw [if_pos updateSmall] at update
  rw [if_pos installSmall] at install
  simp only [Function.comp_apply, update, install]

/-- Whether an instruction updates the index of a manager and installs nothing with it. -/
def UpdatesOnly (manager : PackageManager) (instruction : Instruction) : Prop :=
  instruction.is "run".toList = true ∧
    (∃ token ∈ instruction.content, HoldsCommand manager.name "update".toList token) ∧
    ∀ token ∈ instruction.content, ¬HoldsCommand manager.name manager.install token

theorem updates_only_iff (manager : PackageManager) (instruction : Instruction) :
    manager.UpdatesOnly instruction ↔
      instruction.matches "run".toList (regexOf manager.updateParts) = true ∧
        instruction.matches "run".toList (regexOf manager.installParts) = false := by
  rw [← Bool.not_eq_true, Instruction.matches_iff, Instruction.matches_iff]
  simp only [updateParts, installParts, is_in_command, UpdatesOnly]
  constructor
  · rintro ⟨run, updates, never⟩
    refine ⟨⟨run, updates⟩, ?_⟩
    rintro ⟨-, token, member, installs⟩
    exact never token member installs
  · rintro ⟨⟨run, updates⟩, never⟩
    exact ⟨run, updates, fun token member installs => never ⟨run, token, member, installs⟩⟩

theorem updates_alone_iff (set : InstructionSet) :
    Check.updatesAlone Check.updateMatchers set = true ↔
      ∃ instruction ∈ set.instructions, ∃ manager ∈ all, manager.UpdatesOnly instruction := by
  unfold Check.updatesAlone
  rw [update_matchers_eq, List.any_map, List.any_eq_true]
  simp only [Function.comp_apply, Bool.not_eq_true', Check.unmatched_positions_iff,
    updates_only_iff]
  constructor
  · rintro ⟨manager, known, instruction, member, only⟩
    exact ⟨instruction, member, manager, known, only⟩
  · rintro ⟨instruction, member, manager, known, only⟩
    exact ⟨manager, known, instruction, member, only⟩

end Updates

/-- The rule on updates lists, in the order of names and each once, the files with an instruction
that updates the index of a manager and installs nothing with the same manager. What other
instructions do makes no difference. -/
theorem update_without_install_lists_lone_updates (files : Files) :
    (Check.updateWithoutInstall files).items.Pairwise (· < ·) ∧
      ∀ name, name ∈ (Check.updateWithoutInstall files).items ↔
        ∃ set, files.find? name = some set ∧ ∃ instruction ∈ set.instructions,
          instruction.is "run".toList = true ∧ ∃ manager ∈ all,
            (∃ token ∈ instruction.content,
              HoldsCommand manager.name "update".toList token) ∧
            ∀ token ∈ instruction.content, ¬HoldsCommand manager.name manager.install token := by
  refine ⟨Check.ascending_files_where _ files, ?_⟩
  intro name
  rw [Check.updateWithoutInstall, Finding.of, Check.mem_files_where]
  simp only [updates_alone_iff, UpdatesOnly]
  constructor
  · rintro ⟨set, found, instruction, member, manager, known, run, updates, never⟩
    exact ⟨set, found, instruction, member, run, manager, known, updates, never⟩
  · rintro ⟨set, found, instruction, member, run, manager, known, updates, never⟩
    exact ⟨set, found, instruction, member, manager, known, run, updates, never⟩

section Packages

def packageParts (manager : PackageManager) (package : Text) : List Part :=
  manager.installParts ++ Part.blanks :: Part.unbroken :: package.map Part.char

/-- Somewhere in the text the manager installs, and the package stands behind the command and a
blank, after at least one more character and before any sign that ends the command. -/
def HoldsPackage (manager : PackageManager) (package text : Text) : Prop :=
  ∃ front command gap others name back,
    text = front ++ (command ++ (gap ++ (others ++ name)) ++ back) ∧
    IsCommand manager.name manager.install command ∧
    (gap ≠ [] ∧ ∀ c ∈ gap, Text.isBlank c = true) ∧
    (others ≠ [] ∧ ∀ c ∈ others, isSign c = false) ∧ SameFolds name package

theorem is_in_package (manager : PackageManager) (package text : Text) :
    (regexOf (manager.packageParts package)).isIn text = true ↔
      manager.HoldsPackage package text := by
  rw [is_in_parts]
  simp only [packageParts, installParts, fits_all_append, fits_all_command, FitsAll, Part.Fits,
    fits_all_chars]
  constructor
  · rintro ⟨front, _, back, rfl, command, _, rfl, installs, gap, _, rfl, blank, others, name, rfl,
      unbroken, same⟩
    exact ⟨front, command, gap, others, name, back, rfl, installs, blank, unbroken, same⟩
  · rintro ⟨front, command, gap, others, name, back, rfl, installs, blank, unbroken, same⟩
    exact ⟨front, _, back, rfl, command, _, rfl, installs, gap, _, rfl, blank, others, name, rfl,
      unbroken, same⟩

theorem write_parts_append (left right : List Part) :
    writeParts (left ++ right) = writeParts left ++ writeParts right := List.flatMap_append

theorem write_parts_chars (word : Text) : writeParts (word.map Part.char) = word := by
  induction word with
  | nil => rfl
  | cons c rest ih =>
      rw [List.map_cons]
      change c :: writeParts (rest.map Part.char) = c :: rest
      rw [ih]

theorem install_idioms_eq :
    Check.installIdioms = all.map fun manager =>
      writeParts (manager.installParts ++ [Part.blanks, Part.unbroken]) := rfl

theorem write_parts_package (manager : PackageManager) (package : Text) :
    writeParts (manager.packageParts package) =
      writeParts (manager.installParts ++ [Part.blanks, Part.unbroken]) ++ package := by
  have split : manager.packageParts package =
      (manager.installParts ++ [Part.blanks, Part.unbroken]) ++ package.map Part.char := by
    simp [packageParts]
  rw [split, write_parts_append _ (package.map Part.char), write_parts_chars]

/-- The pattern for the package is not too large to be used. -/
def HasRoom (manager : PackageManager) (package : Text) : Prop :=
  partsRoom (manager.packageParts package) + Room.around ≤ mostRoom

instance (manager : PackageManager) (package : Text) : Decidable (manager.HasRoom package) :=
  inferInstanceAs (Decidable (_ ≤ _))

theorem plain_package (manager : PackageManager) (member : manager ∈ all) (package : Text)
    (plain : ∀ c ∈ package, isPlainChar c = true) :
    ∀ part ∈ manager.packageParts package, part.Plain := by
  obtain ⟨namePlain, installPlain⟩ := all_plain manager member
  intro part inParts
  rcases List.mem_append.mp inParts with command | later
  · exact plain_command namePlain installPlain part command
  · rcases List.mem_cons.mp later with rfl | later
    · trivial
    · rcases List.mem_cons.mp later with rfl | inName
      · trivial
      · exact plain_chars plain part inName

theorem compile_package (manager : PackageManager) (member : manager ∈ all) (package : Text)
    (plain : ∀ c ∈ package, isPlainChar c = true) :
    compile (writeParts (manager.packageParts package)) =
      if manager.HasRoom package then some (regexOf (manager.packageParts package)) else none :=
  compile_parts _ (manager.plain_package member package plain) (by simp [packageParts])

/-- The packages of a list that are seen to be installed by a file. -/
theorem mem_installed_packages_iff (packages : List Text) (set : InstructionSet) (package : Text)
    (listed : package ∈ packages) (plain : ∀ c ∈ package, isPlainChar c = true) :
    package ∈ Check.installedPackages (Check.packageMatchers packages) set ↔
      ∃ instruction ∈ set.instructions, instruction.is "run".toList = true ∧
        ∃ token ∈ instruction.content, ∃ manager ∈ all,
          manager.HasRoom package ∧ manager.HoldsPackage package token := by
  rw [Check.mem_installed_packages, install_idioms_eq]
  simp only [listed, true_and, List.mem_map, ← write_parts_package, exists_exists_and_eq_and]
  constructor
  · rintro ⟨manager, known, regex, compiled, instruction, member, run, token, inside, found⟩
    rw [compile_package manager known package plain, Option.ite_none_right_eq_some] at compiled
    obtain ⟨room, same⟩ := compiled
    rw [← Option.some.inj same, is_in_package] at found
    exact ⟨instruction, member, run, token, inside, manager, known, room, found⟩
  · rintro ⟨instruction, member, run, token, inside, manager, known, room, holds⟩
    have compiled := compile_package manager known package plain
    rw [if_pos room] at compiled
    exact ⟨manager, known, _, compiled, instruction, member, run, token, inside,
      (manager.is_in_package package token).mpr holds⟩

theorem same_folds_refl (word : Text) : SameFolds word word :=
  List.forall₂_same.mpr fun _ _ => rfl

theorem is_sign_of_is_blank (c : Char) (blank : Text.isBlank c = true) : isSign c = false := by
  rw [Bool.eq_false_iff]
  intro sign
  simp only [isSign, Bool.or_eq_true, decide_eq_true_eq] at sign
  rcases sign with (rfl | rfl) | rfl
  · exact absurd blank (by decide)
  · exact absurd blank (by decide)
  · exact absurd blank (by decide)

structure SpacedWord where
  gap : Text
  word : Text

structure SpacedWord.Proper (spaced : SpacedWord) : Prop where
  some : spaced.gap ≠ []
  blank : ∀ c ∈ spaced.gap, Text.isBlank c = true
  solid : ∀ c ∈ spaced.word, Text.isBlank c = false ∧ isSign c = false

def writeWords (words : List SpacedWord) : Text :=
  words.flatMap fun spaced => spaced.gap ++ spaced.word

theorem is_sign_of_mem_write_words {words : List SpacedWord}
    (proper : ∀ spaced ∈ words, spaced.Proper) (c : Char) (member : c ∈ writeWords words) :
    isSign c = false := by
  obtain ⟨spaced, among, inside⟩ := List.mem_flatMap.mp member
  rcases List.mem_append.mp inside with inGap | inWord
  · exact is_sign_of_is_blank c ((proper spaced among).blank c inGap)
  · exact ((proper spaced among).solid c inWord).2

/-- What stands in front of a word begins with a blank, and more follows unless it is a single blank
before the first word. -/
theorem write_words_starts (before : List SpacedWord) (last : SpacedWord)
    (proper : ∀ spaced ∈ before, spaced.Proper) (lastProper : last.Proper)
    (far : before ≠ [] ∨ 2 ≤ last.gap.length) :
    ∃ c others, writeWords before ++ last.gap = c :: others ∧ Text.isBlank c = true ∧
      others ≠ [] := by
  cases before with
  | nil =>
      rcases far with some | long
      · exact absurd rfl some
      · match gap : last.gap, long with
        | c :: d :: rest, _ =>
            have blank := lastProper.blank c (by simp [gap])
            exact ⟨c, d :: rest, rfl, blank, by simp⟩
  | cons first rest =>
      have firstProper := proper first List.mem_cons_self
      match gap : first.gap, firstProper.some with
      | c :: more, _ =>
          have blank := firstProper.blank c (by simp [gap])
          refine ⟨c, more ++ first.word ++ writeWords rest ++ last.gap, ?_, blank, ?_⟩
          · simp [writeWords, gap]
          · simp [lastProper.some]

/-- A package is seen among the words of an install, unless it is the first of them behind a single
blank. -/
theorem holds_package_of_words (manager : PackageManager) (front back : Text)
    (before after : List SpacedWord) (spaced : SpacedWord)
    (proper : ∀ other ∈ before ++ spaced :: after, other.Proper)
    (far : before ≠ [] ∨ 2 ≤ spaced.gap.length) :
    manager.HoldsPackage spaced.word
      (front ++ (manager.name ++ ' ' :: manager.install) ++
        writeWords (before ++ spaced :: after) ++ back) := by
  have beforeProper : ∀ other ∈ before, other.Proper := fun other member =>
    proper other (List.mem_append_left _ member)
  have hereProper : spaced.Proper := proper spaced (by simp)
  obtain ⟨c, others, starts, blank, some⟩ :=
    write_words_starts before spaced beforeProper hereProper far
  have unbroken : ∀ d ∈ others, isSign d = false := by
    intro d member
    have inside : d ∈ writeWords before ++ spaced.gap := by
      rw [starts]
      exact List.mem_cons_of_mem c member
    rcases List.mem_append.mp inside with early | inGap
    · exact is_sign_of_mem_write_words beforeProper d early
    · exact is_sign_of_is_blank d (hereProper.blank d inGap)
  have command : IsCommand manager.name manager.install
      (manager.name ++ ([' '] ++ manager.install)) :=
    ⟨manager.name, [' '], manager.install, rfl, same_folds_refl _,
      ⟨by simp, List.forall_mem_singleton.mpr (by decide)⟩, same_folds_refl _⟩
  have words : writeWords (before ++ spaced :: after) =
      c :: others ++ spaced.word ++ writeWords after := by
    rw [← starts]
    simp [writeWords]
  refine ⟨front, _, [c], others, spaced.word, writeWords after ++ back, ?_, command,
    ⟨by simp, by simpa using blank⟩, ⟨some, unbroken⟩, same_folds_refl _⟩
  rw [words]
  simp

theorem length_of_holds_package (manager : PackageManager) (package text : Text)
    (holds : manager.HoldsPackage package text) :
    manager.name.length + manager.install.length + package.length + 3 ≤ text.length := by
  obtain ⟨front, command, gap, others, name, back, rfl, installs, ⟨gapSome, -⟩, ⟨othersSome, -⟩,
    same⟩ := holds
  obtain ⟨word, blanks, other, rfl, sameWord, ⟨blanksSome, -⟩, sameOther⟩ := installs
  have nameLength := same.length_eq
  have wordLength := sameWord.length_eq
  have otherLength := sameOther.length_eq
  have gapLength := List.length_pos_of_ne_nil gapSome
  have othersLength := List.length_pos_of_ne_nil othersSome
  have blanksLength := List.length_pos_of_ne_nil blanksSome
  simp only [List.length_append]
  omega

theorem has_room_of_length (manager : PackageManager) (member : manager ∈ all) (package : Text)
    (short : package.length ≤ 44000) : manager.HasRoom package := by
  have each : ∀ c : Char, (Part.char c).room ≤ 236 := by
    intro c
    unfold Part.room
    dsimp only
    split
    · decide
    · split
      · decide
      · split <;> decide
  have name : partsRoom (package.map Part.char) ≤ 236 * package.length := by
    have bound := total_le Part.room 236 (package.map Part.char) (by
      intro part member
      obtain ⟨c, -, rfl⟩ := List.mem_map.mp member
      exact each c)
    rw [List.length_map] at bound
    exact bound
  have command : ∀ manager ∈ all,
      partsRoom manager.installParts + 720 + 1112 + 236 * 44000 + Room.around ≤ mostRoom := by
    unfold all
    decide
  have split : partsRoom (manager.packageParts package) =
      partsRoom manager.installParts + (720 + (1112 + partsRoom (package.map Part.char))) := by
    rw [partsRoom, packageParts, total_append]
    rfl
  have enough := command manager member
  unfold HasRoom
  omega

theorem mem_disallowed_packages_alone_iff (packages : List Text) (set : InstructionSet)
    (package : Text)
    (listed : package ∈ packages) (plain : ∀ c ∈ package, isPlainChar c = true) :
    Report.detailItem set.file package ∈
        (Check.disallowedPackages packages (Files.alone set)).items ↔
      ∃ instruction ∈ set.instructions, instruction.is "run".toList = true ∧
        ∃ token ∈ instruction.content, ∃ manager ∈ all,
          manager.HasRoom package ∧ manager.HoldsPackage package token := by
  rw [Check.disallowedPackages, Finding.of, Check.mem_details_of_alone,
    mem_installed_packages_iff packages set package listed plain]

end Packages

/-- A package with a plain name is listed for a file exactly if an instruction installs it behind at
least one more character than the blank after the command. So it is listed wherever it stands among
the words of an install, except as the first of them behind a single blank. -/
theorem disallowed_packages_lists_seen_installs (packages : List Text) (package : Text)
    (listed : package ∈ packages) (plain : ∀ c ∈ package, isPlainChar c = true) :
    (∀ set : InstructionSet,
      Report.detailItem set.file package ∈
          (Check.disallowedPackages packages (Files.alone set)).items ↔
        ∃ instruction ∈ set.instructions, instruction.is "run".toList = true ∧
          ∃ token ∈ instruction.content, ∃ manager ∈ all,
            manager.HasRoom package ∧ manager.HoldsPackage package token) ∧
      ∀ (files : Files), ∀ set ∈ files.sets, ∀ instruction ∈ set.instructions,
        instruction.is "run".toList = true → ∀ manager ∈ all, manager.HasRoom package →
        ∀ (front back : Text) (before after : List SpacedWord) (spaced : SpacedWord),
          (∀ other ∈ before ++ spaced :: after, other.Proper) → spaced.word = package →
          front ++ (manager.name ++ ' ' :: manager.install) ++
            writeWords (before ++ spaced :: after) ++ back ∈ instruction.content →
          before ≠ [] ∨ 2 ≤ spaced.gap.length →
            Report.detailItem set.file package ∈
              (Check.disallowedPackages packages files).items := by
  refine ⟨?_, ?_⟩
  · intro set
    exact mem_disallowed_packages_alone_iff packages set package listed plain
  · intro files set member instruction inSet run manager known room front back before after spaced
      proper named inside far
    have holds := manager.holds_package_of_words front back before after spaced proper far
    rw [named] at holds
    have installed := (mem_installed_packages_iff packages set package listed plain).mpr
      ⟨instruction, inSet, run, _, inside, manager, known, room, holds⟩
    exact (Check.mem_details_of _ files _).mpr ⟨set, member, package, installed, rfl⟩

def running (command : Text) : InstructionSet :=
  ⟨"f".toList, [⟨"run".toList, [], [command]⟩]⟩

theorem disallowed_packages_lists_package_behind_option :
    Report.detailItem "f".toList "netcat".toList ∈
      (Check.disallowedPackages ["netcat".toList]
        (Files.alone (running "apk add -q netcat".toList))).items := by
  have known : (⟨"apk".toList, "add".toList⟩ : PackageManager) ∈ all := by simp [all]
  have space : ∀ word : Text, (word.all fun c => !Text.isBlank c && !isSign c) = true →
      SpacedWord.Proper ⟨" ".toList, word⟩ := by
    intro word solid
    refine ⟨by simp, List.forall_mem_singleton.mpr (by decide), ?_⟩
    intro c member
    simpa using List.all_eq_true.mp solid c member
  have proper : ∀ spaced ∈ [(⟨" ".toList, "-q".toList⟩ : SpacedWord),
      ⟨" ".toList, "netcat".toList⟩], spaced.Proper := by
    intro spaced member
    simp only [List.mem_cons, List.not_mem_nil, or_false] at member
    rcases member with rfl | rfl
    · exact space _ (by decide)
    · exact space _ (by decide)
  exact (disallowed_packages_lists_seen_installs ["netcat".toList] "netcat".toList
    List.mem_cons_self (List.all_eq_true.mp (by decide))).2
    (Files.alone (running "apk add -q netcat".toList)) _ List.mem_cons_self _ List.mem_cons_self
    (by decide) _ known (has_room_of_length _ known _ (by decide)) [] []
    [⟨" ".toList, "-q".toList⟩] [] ⟨" ".toList, "netcat".toList⟩ proper rfl (by decide)
    (Or.inl (by simp))

/-- The package that stands alone behind the command escapes. -/
theorem disallowed_packages_misses_lone_package :
    Report.detailItem "f".toList "netcat".toList ∉
      (Check.disallowedPackages ["netcat".toList]
        (Files.alone (running "apk add netcat".toList))).items := by
  intro found
  have installed := (mem_disallowed_packages_alone_iff _ (running "apk add netcat".toList) _
    List.mem_cons_self (List.all_eq_true.mp (by decide))).mp found
  obtain ⟨instruction, inSet, -, token, inside, manager, known, -, holds⟩ := installed
  obtain rfl := List.mem_singleton.mp inSet
  obtain rfl := List.mem_singleton.mp inside
  have long := length_of_holds_package manager _ _ holds
  have words : ∀ manager ∈ all, 6 ≤ manager.name.length + manager.install.length := by
    unfold all
    decide
  have enough := words manager known
  have lengths : "apk add netcat".toList.length = 14 ∧ "netcat".toList.length = 6 := by decide
  omega

end PackageManager
end DockerfileAudit
