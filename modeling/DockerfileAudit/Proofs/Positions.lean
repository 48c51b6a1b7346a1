import DockerfileAudit.Proofs.Query

/-!
Positions with their multiplicity. The list of positions is ascending and holds the position of an
instruction as often as it has content that matches, so it is the only such list; and what one list
of positions has beyond another is again ascending, with each position once.
-/
set_option autoImplicit false

namespace DockerfileAudit

namespace InstructionSet

variable (name : Text) (regex : Pattern.Regex)

theorem match_count_eq_count_p (instruction : Instruction) :
    matchCount name regex instruction =
      if Text.sameAscii instruction.directive name then instruction.content.countP regex.isIn
      else 0 := by
  unfold matchCount Instruction.is
  rw [List.countP_eq_length_filter]

/-- How often a position must be listed: never where there is no instruction. -/
def matchesAt (instruction : Option Instruction) : Nat :=
  match instruction with
  | some instruction => matchCount name regex instruction
  | none => 0

theorem le_of_mem_positions_from (start position : Nat) (instructions : List Instruction)
    (member : position ∈ positionsFrom name regex start instructions) : start ≤ position := by
  obtain ⟨index, _, _, _, rfl⟩ :=
    (mem_positions_from name regex start position instructions).mp member
  exact Nat.le_add_right start index

theorem ascending_positions_from (start : Nat) (instructions : List Instruction) :
    (positionsFrom name regex start instructions).Pairwise (· ≤ ·) := by
  induction instructions generalizing start with
  | nil => exact List.Pairwise.nil
  | cons first rest ih =>
      rw [positionsFrom, List.pairwise_append]
      refine ⟨by simp, ih (start + 1), ?_⟩
      intro here repeated later member
      have behind := le_of_mem_positions_from name regex (start + 1) later rest member
      rw [(List.mem_replicate.mp repeated).2]
      omega

theorem count_positions_from (start index : Nat) (instructions : List Instruction) :
    (positionsFrom name regex start instructions).count (start + index) =
      matchesAt name regex instructions[index]? := by
  induction instructions generalizing start index with
  | nil => rfl
  | cons first rest ih =>
      rw [positionsFrom, List.count_append, List.count_replicate]
      -- The first position comes from the first instruction alone, every other from the rest.
      cases index with
      | zero =>
          have absent : start ∉ positionsFrom name regex (start + 1) rest := by
            intro member
            have behind := le_of_mem_positions_from name regex (start + 1) start rest member
            omega
          rw [Nat.add_zero, List.count_eq_zero.mpr absent, List.getElem?_cons_zero]
          simp [matchesAt]
      | succ index =>
          have moved : start + (index + 1) = start + 1 + index := by omega
          have other : (start == start + (index + 1)) = false := by simp
          rw [other, moved, ih (start + 1) index, List.getElem?_cons_succ]
          simp

theorem count_positions (set : InstructionSet) (position : Nat) :
    (set.positions name regex).count position =
      matchesAt name regex set.instructions[position]? := by
  have counted := count_positions_from name regex 0 position set.instructions
  rw [Nat.zero_add] at counted
  exact counted

end InstructionSet

theorem mem_unmatched_positions (updates installs : List Nat) (position : Nat) :
    position ∈ unmatchedPositions updates installs ↔ position ∈ updates ∧ position ∉ installs := by
  unfold unmatchedPositions
  rw [mem_sorted_set, List.mem_filter]
  simp

/-- Looking for content gives positions in ascending order, each as often as the instruction there
has content that matches, if its directive has the name in any letters, and no others; a pattern
gives the same as what it compiles to, and nothing if it does not compile. The positions of one list
that another lacks are listed in ascending order, each once. -/
theorem positions_count_matches :
    (∀ (set : InstructionSet) (name : Text) (regex : Pattern.Regex),
      (set.positions name regex).Pairwise (· ≤ ·) ∧
        ∀ position, (set.positions name regex).count position =
          match set.instructions[position]? with
          | some instruction =>
              if Text.sameAscii instruction.directive name then
                instruction.content.countP regex.isIn
              else 0
          | none => 0) ∧
      (∀ (set : InstructionSet) (name pattern : Text),
        (∀ regex, Pattern.compile pattern = some regex →
          set.positionsOf name pattern = set.positions name regex) ∧
          (Pattern.compile pattern = none → set.positionsOf name pattern = [])) ∧
      ∀ updates installs : List Nat,
        (unmatchedPositions updates installs).Pairwise (· < ·) ∧
          ∀ position, position ∈ unmatchedPositions updates installs ↔
            position ∈ updates ∧ position ∉ installs := by
  refine ⟨?_, ?_, ?_⟩
  · intro set name regex
    refine ⟨InstructionSet.ascending_positions_from name regex 0 set.instructions, ?_⟩
    intro position
    rw [InstructionSet.count_positions]
    cases set.instructions[position]? with
    | none => rfl
    | some instruction => exact InstructionSet.match_count_eq_count_p name regex instruction
  · intro set name pattern
    unfold InstructionSet.positionsOf
    refine ⟨?_, ?_⟩
    · intro regex compiled
      rw [compiled]
    · intro refused
      rw [refused]
  · intro updates installs
    exact ⟨ascending_sorted_set _, mem_unmatched_positions updates installs⟩

def InstructionSet.hyphenated : InstructionSet :=
  ⟨"f".toList, [⟨"from".toList, [], ["a-b".toList]⟩,
    ⟨"env".toList, [], ["a-b".toList, "c".toList, "--".toList]⟩]⟩

theorem positions_count_matches_of_hyphenated :
    (∃ regex, Pattern.compile "-".toList = some regex ∧
        InstructionSet.hyphenated.positions "ENV".toList regex = [1, 1]) ∧
      InstructionSet.hyphenated.positionsOf "ENV".toList "(".toList = [] := by
  have refused : Pattern.compile "(".toList = none := by decide +kernel
  have found : InstructionSet.hyphenated.positionsOf "ENV".toList "-".toList = [1, 1] := by
    decide +kernel
  have general := positions_count_matches.2.1 InstructionSet.hyphenated "ENV".toList
  refine ⟨?_, (general "(".toList).2 refused⟩
  cases compiled : Pattern.compile "-".toList with
  | none =>
      rw [(general "-".toList).2 compiled] at found
      simp at found
  | some regex =>
      rw [(general "-".toList).1 regex compiled] at found
      exact ⟨regex, rfl, found⟩

end DockerfileAudit
