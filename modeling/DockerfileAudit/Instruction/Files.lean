import DockerfileAudit.Instruction.Basic

/-!
The files under audit: one set of instructions for each file, in the order of the files' names.
-/
set_option autoImplicit false

namespace DockerfileAudit

def registerIn (file : Text) (statements : List Statement) :
    List InstructionSet → List InstructionSet
  | [] => [(InstructionSet.empty file).append statements]
  | set :: rest =>
      if file = set.file then set.append statements :: rest
      else if file < set.file then (InstructionSet.empty file).append statements :: set :: rest
      else set :: registerIn file statements rest

theorem file_append (set : InstructionSet) (statements : List Statement) :
    (set.append statements).file = set.file := rfl

theorem mem_register_in {file : Text} {statements : List Statement} {sets : List InstructionSet}
    {set : InstructionSet} (member : set ∈ registerIn file statements sets) :
    set.file = file ∨ ∃ known ∈ sets, set.file = known.file := by
  induction sets with
  | nil =>
      simp only [registerIn, List.mem_singleton] at member
      exact Or.inl (by rw [member]; rfl)
  | cons first rest ih =>
      simp only [registerIn] at member
      split at member
      · rcases List.mem_cons.mp member with same | later
        · exact Or.inr ⟨first, List.mem_cons_self, by rw [same, file_append]⟩
        · exact Or.inr ⟨set, List.mem_cons_of_mem _ later, rfl⟩
      · split at member
        · rcases List.mem_cons.mp member with same | later
          · exact Or.inl (by rw [same]; rfl)
          · exact Or.inr ⟨set, later, rfl⟩
        · rcases List.mem_cons.mp member with same | later
          · exact Or.inr ⟨first, List.mem_cons_self, by rw [same]⟩
          · rcases ih later with new | ⟨known, there, equal⟩
            · exact Or.inl new
            · exact Or.inr ⟨known, List.mem_cons_of_mem _ there, equal⟩

theorem ascending_register_in (file : Text) (statements : List Statement)
    (sets : List InstructionSet)
    (ascending : sets.Pairwise fun left right => left.file < right.file) :
    (registerIn file statements sets).Pairwise fun left right => left.file < right.file := by
  induction sets with
  | nil => simp [registerIn]
  | cons first rest ih =>
      obtain ⟨below, rest_ascending⟩ := List.pairwise_cons.mp ascending
      simp only [registerIn]
      split
      · exact List.pairwise_cons.mpr ⟨below, rest_ascending⟩
      · rename_i different
        split
        · rename_i smaller
          refine List.pairwise_cons.mpr ⟨?_, ascending⟩
          intro other member
          rcases List.mem_cons.mp member with same | later
          · rw [same]; exact smaller
          · exact List.lt_trans smaller (below other later)
        · rename_i not_smaller
          refine List.pairwise_cons.mpr ⟨?_, ih rest_ascending⟩
          intro other member
          rcases mem_register_in member with new | ⟨known, there, equal⟩
          · rw [new]
            rcases Std.lt_trichotomy file first.file with less | same | more
            · exact absurd less not_smaller
            · exact absurd same different
            · exact more
          · rw [equal]; exact below known there

/-- Sets of instructions under ascending names, so each name at most once. -/
structure Files where
  sets : List InstructionSet
  ascending : sets.Pairwise fun left right => left.file < right.file

namespace Files

def empty : Files := ⟨[], List.Pairwise.nil⟩

def register (files : Files) (file : Text) (statements : List Statement) : Files :=
  ⟨registerIn file statements files.sets,
    ascending_register_in file statements files.sets files.ascending⟩

def find? (files : Files) (file : Text) : Option InstructionSet :=
  files.sets.find? fun set => set.file = file

def size (files : Files) : Nat := files.sets.length

end Files
end DockerfileAudit
