import DockerfileAudit.Instruction.Basic
import DockerfileAudit.Proofs.SortedSet

/-!
What the questions to a file answer, said of its instructions one by one.
-/
set_option autoImplicit false

namespace DockerfileAudit

def Instruction.matches (name : Text) (regex : Pattern.Regex) (instruction : Instruction) : Bool :=
  instruction.is name && instruction.content.any regex.isIn

namespace InstructionSet

theorem match_count_eq_zero_iff (name : Text) (regex : Pattern.Regex) (instruction : Instruction) :
    matchCount name regex instruction = 0 ↔ instruction.matches name regex = false := by
  unfold matchCount Instruction.matches
  cases instruction.is name with
  | false => simp
  | true => simp [List.filter_eq_nil_iff]

theorem mem_positions_from (name : Text) (regex : Pattern.Regex) (start position : Nat)
    (instructions : List Instruction) :
    position ∈ positionsFrom name regex start instructions ↔
      ∃ index instruction, instructions[index]? = some instruction ∧
        instruction.matches name regex = true ∧ position = start + index := by
  induction instructions generalizing start with
  | nil => simp [positionsFrom]
  | cons first rest ih =>
      rw [positionsFrom, List.mem_append, List.mem_replicate, ih, ne_eq, match_count_eq_zero_iff,
        Bool.not_eq_false]
      constructor
      · rintro (⟨found, rfl⟩ | ⟨index, instruction, there, found, rfl⟩)
        · exact ⟨0, first, by simp, found, by simp⟩
        · exact ⟨index + 1, instruction, by simpa using there, found, by omega⟩
      · rintro ⟨index, instruction, there, found, rfl⟩
        cases index with
        | zero =>
            simp only [List.getElem?_cons_zero, Option.some.injEq] at there
            exact Or.inl ⟨there ▸ found, by simp⟩
        | succ index =>
            exact Or.inr ⟨index, instruction, by simpa using there, found, by omega⟩

theorem mem_positions (set : InstructionSet) (name : Text) (regex : Pattern.Regex)
    (position : Nat) :
    position ∈ set.positions name regex ↔
      ∃ instruction, set.instructions[position]? = some instruction ∧
        instruction.matches name regex = true := by
  unfold positions
  rw [mem_positions_from]
  constructor
  · rintro ⟨index, instruction, there, found, rfl⟩
    exact ⟨instruction, by simpa using there, found⟩
  · rintro ⟨instruction, there, found⟩
    exact ⟨position, instruction, there, found, by simp⟩

theorem positions_is_empty (set : InstructionSet) (name : Text) (regex : Pattern.Regex) :
    (set.positions name regex).isEmpty =
      !set.instructions.any (Instruction.matches name regex) := by
  rw [Bool.eq_iff_iff, List.isEmpty_iff, List.eq_nil_iff_forall_not_mem, Bool.not_eq_true',
    List.any_eq_false]
  constructor
  · intro noneListed instruction member found
    obtain ⟨position, there⟩ := List.mem_iff_getElem?.mp member
    exact noneListed position
      ((mem_positions set name regex position).mpr ⟨instruction, there, found⟩)
  · intro noneFound position member
    obtain ⟨instruction, there, found⟩ := (mem_positions set name regex position).mp member
    exact noneFound instruction (List.mem_of_getElem? there) found

theorem mem_first_seen {α : Type} [DecidableEq α] (a : α) (items : List α) :
    a ∈ firstSeen items ↔ a ∈ items := by
  induction items with
  | nil => simp [firstSeen]
  | cons first rest ih =>
      rw [firstSeen, List.mem_cons, List.mem_filter, ih, List.mem_cons]
      by_cases same : a = first
      · simp [same]
      · simp [same]

theorem mem_base_images (set : InstructionSet) (image : Text) :
    image ∈ set.baseImages ↔
      ∃ instruction ∈ set.instructions, instruction.is "from".toList = true ∧
        instruction.content.head? = some image := by
  unfold baseImages
  rw [mem_first_seen, List.mem_filterMap]
  simp only [List.mem_filter, and_assoc]

end InstructionSet

theorem unmatched_positions_is_empty (updates installs : List Nat) :
    (unmatchedPositions updates installs).isEmpty = true ↔
      ∀ position ∈ updates, position ∈ installs := by
  rw [List.isEmpty_iff, List.eq_nil_iff_forall_not_mem]
  unfold unmatchedPositions
  simp only [mem_sorted_set, List.mem_filter, Bool.not_eq_true', List.contains_eq_mem,
    decide_eq_false_iff_not, not_and, not_not]

end DockerfileAudit
